import Mathlib.Data.List.Sort
import Mathlib.Data.String.Basic

/-!
# Reading records from TOML documents

A document is a tree of values. A derived reader takes a record from a table by the
names of its fields, or from an array by their positions, and reads each field with
the reader of its type. A field that is absent is an error, or has a default, or is
an absent option. Which of several faults is reported is not modelled.
-/

namespace TraceGate.Toml

inductive Value where
  | string (text : String)
  | integer (number : Int)
  | float (text : String)
  | boolean (flag : Bool)
  | datetime (text : String)
  | array (items : List Value)
  | table (entries : List (String × Value))

inductive Fault where
  | missingField (name : String)
  | invalidType (expected : String)
  | outOfRange (number : Int)
deriving DecidableEq

abbrev Reader (α : Type) := Value → Except Fault α

def string : Reader String
  | .string text => .ok text
  | _ => .error (.invalidType "a string")

def boolean : Reader Bool
  | .boolean flag => .ok flag
  | _ => .error (.invalidType "a boolean")

/-- An unsigned integer of a type with this greatest value. -/
def unsigned (max : Nat) : Reader Nat
  | .integer number =>
      if 0 ≤ number ∧ number ≤ max then .ok number.toNat else .error (.outOfRange number)
  | _ => .error (.invalidType "an integer")

def list {α : Type} (item : Reader α) : Reader (List α)
  | .array items => items.mapM item
  | _ => .error (.invalidType "a sequence")

/-- A map of texts, in the order of its keys. -/
def stringMap : Reader (List (String × String))
  | .table entries => do
      let pairs ← entries.mapM fun entry => (string entry.2).map fun text => (entry.1, text)
      return pairs.insertionSort fun left right => left.1 ≤ right.1
  | _ => .error (.invalidType "a map")

/-- The values of a record, by the name and the position of the field. -/
abbrev Fields := String → Nat → Option Value

def Value.fields : Value → Except Fault Fields
  | .table entries => .ok fun name _ => (entries.find? fun entry => entry.1 == name).map Prod.snd
  | .array items => .ok fun _ position => items[position]?
  | _ => .error (.invalidType "a record")

section Fields

variable {α : Type} (fields : Fields) (name : String) (position : Nat) (read : Reader α)

def required : Except Fault α :=
  match fields name position with
  | some value => read value
  | none => .error (.missingField name)

def defaulted (default : α) : Except Fault α :=
  match fields name position with
  | some value => read value
  | none => .ok default

def optional : Except Fault (Option α) :=
  match fields name position with
  | some value => (read value).map some
  | none => .ok none

/-- An option is present exactly when the document has the field.

A field that is there is read, and one that cannot be read is an error of the whole. -/
theorem isSome_optional (result : Option α)
    (accepted : optional fields name position read = .ok result) :
    result.isSome = (fields name position).isSome := by
  rw [optional] at accepted
  cases field : fields name position with
  | none =>
    rw [field] at accepted
    rw [← Except.ok.inj accepted]
    rfl
  | some value =>
    rw [field] at accepted
    cases content : read value with
    | error fault => simp [content, Except.map] at accepted
    | ok entry =>
      simp only [content, Except.map, Except.ok.injEq] at accepted
      rw [← accepted]
      rfl

end Fields

end TraceGate.Toml
