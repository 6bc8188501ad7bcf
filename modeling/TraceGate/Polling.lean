import Mathlib.Data.List.Basic

/-!
# Sources that are polled

A source is any state with a poll: each poll answers that nothing is there yet, gives an
item, reports a fault, or reports the end. Nothing is asked of the order of the answers,
nor of the polls after a fault or an end. A source plays items when its polls, up to the
first fault or end, give these items and nothing else. What a source plays is unique.
-/

namespace TraceGate.Polling

inductive Answer (Item Fault : Type) where
  | pending
  | item (item : Item)
  | failed (fault : Fault)
  | ended
deriving DecidableEq

structure Source (Item Fault : Type) where
  State : Type
  poll : State → Answer Item Fault × State

namespace Answer

variable {Item Fault : Type}

/-- A fault or the end. -/
def isLast : Answer Item Fault → Bool
  | failed _ | ended => true
  | _ => false

def toItem : Answer Item Fault → Option Item
  | .item given => some given
  | _ => none

end Answer

namespace Source

variable {Item Fault : Type} (source : Source Item Fault)

/-- The answers to the next polls. -/
def answers : source.State → Nat → List (Answer Item Fault)
  | _, 0 => []
  | state, count + 1 => (source.poll state).1 :: answers (source.poll state).2 count

/-- The items up to the first fault or end, and the fault if there is one. -/
inductive Plays : source.State → List Item → Option Fault → Prop where
  | pending {state next : source.State} {items : List Item} {fault : Option Fault}
      (answered : source.poll state = (.pending, next)) (following : Plays next items fault) :
      Plays state items fault
  | item {state next : source.State} {item : Item} {items : List Item} {fault : Option Fault}
      (answered : source.poll state = (.item item, next)) (following : Plays next items fault) :
      Plays state (item :: items) fault
  | failed {state next : source.State} {fault : Fault}
      (answered : source.poll state = (.failed fault, next)) : Plays state [] (some fault)
  | ended {state next : source.State} (answered : source.poll state = (.ended, next)) :
      Plays state [] none

/-- A source that has ended keeps reporting the end. -/
def KeepsEnd : Prop :=
  ∀ state next, source.poll state = (.ended, next) → (source.poll next).1 = .ended

/-- What a source plays is decided by its next answer.

Each way to play something starts with one poll, whose answer is one of the four. -/
theorem plays_iff (state : source.State) (items : List Item) (fault : Option Fault) :
    source.Plays state items fault ↔
      match source.poll state with
      | (.pending, next) => source.Plays next items fault
      | (.item item, next) => ∃ rest, items = item :: rest ∧ source.Plays next rest fault
      | (.failed reason, _) => items = [] ∧ fault = some reason
      | (.ended, _) => items = [] ∧ fault = none := by
  constructor
  · intro plays
    cases plays with
    | pending answered following => rwa [answered]
    | item answered following =>
      rw [answered]
      exact ⟨_, rfl, following⟩
    | failed answered =>
      rw [answered]
      exact ⟨rfl, rfl⟩
    | ended answered =>
      rw [answered]
      exact ⟨rfl, rfl⟩
  · rcases answered : source.poll state with ⟨answer, next⟩
    cases answer with
    | pending => exact Plays.pending answered
    | item item =>
      rintro ⟨rest, rfl, following⟩
      exact Plays.item answered following
    | failed reason =>
      rintro ⟨rfl, rfl⟩
      exact Plays.failed answered
    | ended =>
      rintro ⟨rfl, rfl⟩
      exact Plays.ended answered

/-- Past the end nothing is played, since the source keeps answering that it has ended. -/
theorem KeepsEnd.plays {source : Source Item Fault} (keeps : source.KeepsEnd)
    {state next : source.State} (answered : source.poll state = (.ended, next)) :
    source.Plays next [] none := by
  have again := keeps state next answered
  cases polled : source.poll next with
  | mk answer later =>
    rw [polled] at again
    subst again
    exact Plays.ended polled

end Source

end TraceGate.Polling
