import Mathlib.Data.Nat.Digits.Defs
import TraceGate.Retention
import TraceGate.TextLaws

/-!
# Listing requests since a duration

`tracegate requests list --since` reads a duration: a number, perhaps with a unit. The number
is read as Rust reads an `i64`, digit by digit with two checked operations each, and the
product with the unit is checked again. What is accepted is said here without the reader: a
plus sign or none, decimal digits, a unit or none, and a product that is positive and fits.
The rows that are listed are then those no older than that.
-/

namespace TraceGate.Cli

/-! ## Reading a number -/

/-- The result of a checked operation of `i64`. -/
def checkI64 (value : Int) : Option Int :=
  if -(i64Max : Int) - 1 ≤ value ∧ value ≤ i64Max then some value else none

def digitValue (char : Char) : Nat := char.toNat - '0'.toNat

/-- The loop of `i64::from_str_radix`: a negative number is built downwards. -/
def parseDigits (negative : Bool) : Int → List Char → Option Int
  | value, [] => some value
  | value, char :: rest =>
      if char.isDigit then
        match checkI64 (value * 10) with
        | none => none
        | some tens =>
            match checkI64
                (if negative then tens - digitValue char else tens + digitValue char) with
            | none => none
            | some next => parseDigits negative next rest
      else none

/-- `str::parse::<i64>`. -/
def parseI64 : List Char → Option Int
  | [] => none
  | ['+'] => none
  | ['-'] => none
  | '+' :: rest => parseDigits false 0 rest
  | '-' :: rest => parseDigits true 0 rest
  | chars => parseDigits false 0 chars

/-- A checked result is the value itself. -/
theorem checkI64_eq_some {value result : Int} (checked : checkI64 value = some result) :
    result = value := by
  unfold checkI64 at checked
  split at checked
  · exact (Option.some.inj checked).symm
  · exact absurd checked (by simp)

/-- A natural number passes the check exactly if it is at most the largest `i64`. -/
theorem checkI64_natCast (value : Nat) :
    checkI64 value = if value ≤ i64Max then some (value : Int) else none := by
  unfold checkI64
  by_cases fits : value ≤ i64Max
  · rw [if_pos fits, if_pos (by omega)]
  · rw [if_neg fits, if_neg (by omega)]

/-- Of the two checks of a digit, only the second matters: a product that overflows leaves the
sum too large as well. -/
theorem parseDigits_cons (value : Nat) (char : Char) (rest : List Char)
    (digit : char.isDigit = true) :
    parseDigits false value (char :: rest) =
      if 10 * value + digitValue char ≤ i64Max then
        parseDigits false (10 * value + digitValue char : Nat) rest
      else none := by
  have tens : (value : Int) * 10 = (10 * value : Nat) := by
    push_cast
    omega
  have sum : ((10 * value : Nat) : Int) + digitValue char =
      (10 * value + digitValue char : Nat) := by
    push_cast
    rfl
  simp only [parseDigits, digit, if_true, Bool.false_eq_true, if_false]
  rw [tens, checkI64_natCast]
  by_cases fits : 10 * value + digitValue char ≤ i64Max
  · have first : 10 * value ≤ i64Max := by omega
    simp only [if_pos first, sum, checkI64_natCast, if_pos fits]
  · rw [if_neg fits]
    by_cases first : 10 * value ≤ i64Max
    · simp only [if_pos first, sum, checkI64_natCast, if_neg fits]
    · simp only [if_neg first]

/-- Further digits make a number no smaller. -/
theorem le_ofDigitChars (value : Nat) (digits : List Char) :
    value ≤ Nat.ofDigitChars 10 digits value := by
  induction digits generalizing value with
  | nil => exact le_refl _
  | cons char rest inductionHypothesis =>
    rw [Nat.ofDigitChars_cons]
    exact le_trans (by omega) (inductionHypothesis _)

/-- The checks along the way fail no number whose value fits.

The induction is over the digits. A step that overflows is one after which the value can only
grow, so the whole number does not fit either. -/
theorem parseDigits_nonnegative (value : Nat) (digits : List Char) (fits : value ≤ i64Max)
    (result : Int) :
    parseDigits false value digits = some result ↔
      (∀ char ∈ digits, char.isDigit = true) ∧ Nat.ofDigitChars 10 digits value ≤ i64Max ∧
        result = Nat.ofDigitChars 10 digits value := by
  induction digits generalizing value with
  | nil =>
    simp only [parseDigits, Option.some.injEq, Nat.ofDigitChars_nil]
    constructor
    · rintro rfl
      exact ⟨by simp, fits, rfl⟩
    · rintro ⟨_, _, rfl⟩
      rfl
  | cons char rest inductionHypothesis =>
    rw [Nat.ofDigitChars_cons, List.forall_mem_cons]
    cases digit : char.isDigit with
    | false => simp [parseDigits, digit]
    | true =>
      rw [parseDigits_cons value char rest digit]
      change _ ↔ (_ ∧ _) ∧ Nat.ofDigitChars 10 rest (10 * value + digitValue char) ≤ i64Max ∧
        result = Nat.ofDigitChars 10 rest (10 * value + digitValue char)
      by_cases next : 10 * value + digitValue char ≤ i64Max
      · rw [if_pos next, inductionHypothesis _ next]
        simp
      · have above := le_ofDigitChars (10 * value + digitValue char) rest
        rw [if_neg next]
        constructor
        · exact fun none => absurd none (by simp)
        · rintro ⟨_, small, _⟩
          omega

/-- A number after a minus sign is not positive, however many digits it has.

By induction on the digits: ten times a number that is not positive, less a digit, is not
positive. -/
theorem parseDigits_negative (value : Int) (digits : List Char) (below : value ≤ 0)
    (result : Int) (parsed : parseDigits true value digits = some result) : result ≤ 0 := by
  induction digits generalizing value with
  | nil => exact Option.some.inj parsed ▸ below
  | cons char rest inductionHypothesis =>
    simp only [parseDigits, if_true] at parsed
    split at parsed
    · split at parsed
      · exact absurd parsed (by simp)
      next tens first =>
        split at parsed
        · exact absurd parsed (by simp)
        next next second =>
          refine inductionHypothesis next ?_ parsed
          rw [checkI64_eq_some second, checkI64_eq_some first]
          omega
    · exact absurd parsed (by simp)

/-- A text that reads as a number without a minus sign. -/
structure Numeral (chars digits : List Char) : Prop where
  text : chars = digits ∨ chars = '+' :: digits
  nonempty : digits ≠ []
  decimal : ∀ char ∈ digits, char.isDigit = true

/-- The positive numbers that are read, by their digits: a plus sign may stand before them, and
the value fits. -/
theorem parseI64_positive (chars : List Char) (number : Nat) (positive : 0 < number) :
    parseI64 chars = some (number : Int) ↔
      ∃ digits, Numeral chars digits ∧ Nat.ofDigitChars 10 digits 0 = number ∧
        number ≤ i64Max := by
  have read : ∀ digits, parseDigits false 0 digits = some (number : Int) ↔
      (∀ char ∈ digits, char.isDigit = true) ∧ Nat.ofDigitChars 10 digits 0 = number ∧
        number ≤ i64Max := by
    intro digits
    rw [← Int.natCast_zero, parseDigits_nonnegative 0 digits (Nat.zero_le _)]
    constructor
    · rintro ⟨decimal, fits, same⟩
      have same : number = Nat.ofDigitChars 10 digits 0 := by exact_mod_cast same
      exact ⟨decimal, same.symm, same ▸ fits⟩
    · rintro ⟨decimal, same, fits⟩
      exact ⟨decimal, same.symm ▸ fits, by rw [same]⟩
  constructor
  · intro parsed
    unfold parseI64 at parsed
    split at parsed
    · exact absurd parsed (by simp)
    · exact absurd parsed (by simp)
    · exact absurd parsed (by simp)
    next rest long =>
      obtain ⟨decimal, value, fits⟩ := (read rest).mp parsed
      exact ⟨rest, ⟨Or.inr rfl, fun empty => long (by rw [empty]), decimal⟩, value, fits⟩
    next rest _ =>
      have below := parseDigits_negative 0 rest (le_refl _) number parsed
      omega
    next nonempty _ _ _ _ =>
      obtain ⟨decimal, value, fits⟩ := (read chars).mp parsed
      exact ⟨chars, ⟨Or.inl rfl, nonempty, decimal⟩, value, fits⟩
  · rintro ⟨digits, ⟨text, nonempty, decimal⟩, value, fits⟩
    have parsed := (read digits).mpr ⟨decimal, value, fits⟩
    obtain ⟨first, rest, rfl⟩ := List.exists_cons_of_ne_nil nonempty
    have digit := decimal first List.mem_cons_self
    rcases text with rfl | rfl
    · unfold parseI64
      split
      next same => exact absurd same nonempty
      next same => exact absurd digit (by rw [(List.cons.inj same).1]; decide)
      next same => exact absurd digit (by rw [(List.cons.inj same).1]; decide)
      next same => exact absurd digit (by rw [(List.cons.inj same).1]; decide)
      next same => exact absurd digit (by rw [(List.cons.inj same).1]; decide)
      next => exact parsed
    · exact parsed

/-! ## Reading a duration -/

inductive DurationError where
  | empty
  | invalid (value : String)
  | notPositive
  | tooLarge
deriving DecidableEq

def DurationError.message : DurationError → String
  | .empty => "duration cannot be empty"
  | .invalid value => s!"invalid duration `{value}`"
  | .notPositive => "duration must be greater than zero"
  | .tooLarge => "duration is too large"

/-- The milliseconds of the unit a letter stands for. -/
def multiplierOf : Char → Option Nat
  | 's' | 'S' => some 1000
  | 'm' | 'M' => some 60000
  | 'h' | 'H' => some (60 * 60 * 1000)
  | 'd' | 'D' => some (24 * 60 * 60 * 1000)
  | _ => none

/-- The end of `parse_duration_ms`, once the number is cut off. -/
def scaledDuration (value : String) (number : List Char) (multiplier : Nat) :
    Except DurationError Int :=
  match parseI64 number with
  | none => .error (.invalid value)
  | some number =>
      if number ≤ 0 then .error .notPositive
      else
        match checkI64 (number * multiplier) with
        | none => .error .tooLarge
        | some ms => .ok ms

def parseDurationMs (value : String) : Except DurationError Int :=
  let value := Text.trim value
  match value.toList.getLast? with
  | none => .error .empty
  | some last =>
      match multiplierOf last with
      | some multiplier => scaledDuration value value.toList.dropLast multiplier
      | none => scaledDuration value value.toList 1000

/-- The text is a number of seconds, or a number and the letter of its unit. -/
inductive Spells : List Char → Nat → Prop where
  | seconds (number digits : List Char) (numeral : Numeral number digits) :
      Spells number (Nat.ofDigitChars 10 digits 0 * 1000)
  | unit (number digits : List Char) (numeral : Numeral number digits) (letter : Char)
      (multiplier : Nat) (known : multiplierOf letter = some multiplier) :
      Spells (number ++ [letter]) (Nat.ofDigitChars 10 digits 0 * multiplier)

/-- A number that is printed is read back with its unit. -/
theorem spells_toDigits (number : Nat) (letter : Char) (multiplier : Nat)
    (known : multiplierOf letter = some multiplier) :
    Spells (Nat.toDigits 10 number ++ [letter]) (number * multiplier) := by
  have spelled := Spells.unit (Nat.toDigits 10 number) (Nat.toDigits 10 number)
    ⟨Or.inl rfl, Nat.toDigits_ne_nil,
      fun char member => Nat.isDigit_of_mem_toDigits (by omega) (by omega) member⟩
    letter multiplier known
  rwa [Nat.ofDigitChars_toDigits (by omega) (by omega)] at spelled

/-- Every unit is at least a millisecond. -/
theorem multiplierOf_positive {letter : Char} {multiplier : Nat}
    (known : multiplierOf letter = some multiplier) : 0 < multiplier := by
  unfold multiplierOf at known
  split at known <;> simp at known <;> omega

/-- No unit is a digit, so a number without a unit is not cut short by one. -/
theorem multiplierOf_digit {letter : Char} (digit : letter.isDigit = true) :
    multiplierOf letter = none := by
  unfold multiplierOf
  split <;> first | rfl | exact absurd digit (by decide)

/-- A number with a unit is accepted exactly if it is a numeral whose product with the unit is
positive and fits.

The product may overflow only if the number is large; a number that is not positive is refused
by the check at the end. -/
theorem scaledDuration_ok_iff (value : String) (number : List Char) (multiplier : Nat)
    (scales : 0 < multiplier) (ms : Int) :
    scaledDuration value number multiplier = .ok ms ↔
      ∃ digits, Numeral number digits ∧ ms = (Nat.ofDigitChars 10 digits 0 * multiplier : Nat) ∧
        0 < ms ∧ ms ≤ i64Max := by
  constructor
  · intro scaled
    unfold scaledDuration at scaled
    split at scaled
    · exact absurd scaled (by simp)
    next parsed read =>
      split at scaled
      · exact absurd scaled (by simp)
      next above =>
        split at scaled
        · exact absurd scaled (by simp)
        next result checked =>
          obtain rfl := Except.ok.inj scaled
          obtain ⟨amount, rfl⟩ := Int.eq_ofNat_of_zero_le (by omega : 0 ≤ parsed)
          have positive : 0 < amount := by omega
          obtain ⟨digits, numeral, same, _⟩ := (parseI64_positive number amount positive).mp read
          rw [← Int.natCast_mul, checkI64_natCast] at checked
          split at checked
          next fits =>
            obtain rfl := Option.some.inj checked
            refine ⟨digits, numeral, by rw [same], ?_, by exact_mod_cast fits⟩
            exact_mod_cast Nat.mul_pos positive scales
          · exact absurd checked (by simp)
  · rintro ⟨digits, numeral, rfl, positive, fits⟩
    have positive : 0 < Nat.ofDigitChars 10 digits 0 * multiplier := by exact_mod_cast positive
    have fits : Nat.ofDigitChars 10 digits 0 * multiplier ≤ i64Max := by exact_mod_cast fits
    have amount : 0 < Nat.ofDigitChars 10 digits 0 := Nat.pos_of_mul_pos_right positive
    have small : Nat.ofDigitChars 10 digits 0 ≤ i64Max :=
      le_trans (Nat.le_mul_of_pos_right _ scales) fits
    have read := (parseI64_positive number _ amount).mpr ⟨digits, numeral, rfl, small⟩
    have above : ¬ ((Nat.ofDigitChars 10 digits 0 : Nat) : Int) ≤ 0 := by omega
    simp only [scaledDuration, read, if_neg above]
    rw [← Int.natCast_mul, checkI64_natCast, if_pos fits]

/-- What is accepted: a text that spells a duration, if that is positive and fits.

The cases are the units. A text without one is a number of milliseconds, and no digit is a
unit. -/
theorem parseDurationMs_ok_iff (value : String) (ms : Int) :
    parseDurationMs value = .ok ms ↔
      ∃ total, Spells (Text.trim value).toList total ∧ ms = (total : Nat) ∧ 0 < ms ∧
        ms ≤ i64Max := by
  generalize shape : Text.trim value = trimmed
  constructor
  · intro parsed
    simp only [parseDurationMs, shape] at parsed
    split at parsed
    · exact absurd parsed (by simp)
    next last ends =>
      split at parsed
      next multiplier known =>
        obtain ⟨digits, numeral, same, range⟩ := (scaledDuration_ok_iff _ _ multiplier
          (multiplierOf_positive known) ms).mp parsed
        refine ⟨_, ?_, same, range⟩
        rw [← List.dropLast_append_getLast? last ends]
        exact Spells.unit _ digits numeral last multiplier known
      next =>
        obtain ⟨digits, numeral, same, range⟩ :=
          (scaledDuration_ok_iff _ _ 1000 (by omega) ms).mp parsed
        exact ⟨_, Spells.seconds _ digits numeral, same, range⟩
  · rintro ⟨total, spells, same, range⟩
    simp only [parseDurationMs, shape]
    generalize chars : trimmed.toList = text at spells
    cases spells with
    | seconds _ digits numeral =>
      have ending : ∃ last, text.getLast? = some last ∧ last.isDigit = true := by
        obtain ⟨written, nonempty, decimal⟩ := numeral
        refine ⟨digits.getLast nonempty, ?_, decimal _ (List.getLast_mem nonempty)⟩
        rcases written with rfl | rfl
        · exact List.getLast?_eq_some_getLast nonempty
        · rw [List.getLast?_cons, List.getLast?_eq_some_getLast nonempty]
          rfl
      obtain ⟨last, ends, digit⟩ := ending
      simp only [ends, multiplierOf_digit digit]
      exact (scaledDuration_ok_iff _ _ 1000 (by omega) ms).mpr ⟨digits, numeral, same, range⟩
    | unit number digits numeral letter multiplier known =>
      simp only [List.getLast?_concat, List.dropLast_concat, known]
      exact (scaledDuration_ok_iff _ _ multiplier (multiplierOf_positive known) ms).mpr
        ⟨digits, numeral, same, range⟩

/-! ## Listing -/

structure ListOptions where
  failed : Bool
  slow : Bool
  route : Option String
  since : Option String
  limit : Nat

/-- `requests list`, up to printing. -/
def requestsList (sql : SqlExternals) (db : Database) (nowMs : Int) (options : ListOptions) :
    Except DurationError (List RequestSummary) := do
  let sinceCreatedAtMs ← match options.since with
    | some value => do
        let duration ← parseDurationMs value
        pure (some (saturateI64 (nowMs - duration)))
    | none => pure none
  pure (db.listRequests sql
    { failed := options.failed
      slow := options.slow
      routeId := options.route
      sinceCreatedAtMs := sinceCreatedAtMs
      limit := options.limit })

/-- What a listing gives: wanted rows, the newest first, as many as fit under the limit, and
none left out unless it is full with rows at least as new. -/
structure Listing (db : Database) (wanted : RequestSummary → Prop) (limit : Nat)
    (rows : List RequestSummary) : Prop where
  sound : ∀ row ∈ rows, row ∈ db.requests ∧ wanted row
  newestFirst : rows.Pairwise newerRequest
  bounded : rows.length ≤ max 1 (min limit 1000)
  complete : ∀ row ∈ db.requests, wanted row → row ∈ rows ∨
    rows.length = max 1 (min limit 1000) ∧ ∀ listed ∈ rows, row.createdAtMs ≤ listed.createdAtMs

/-- Whatever order the database gives to rows of one time, `list_requests` is a listing of
the rows its filters accept. -/
theorem listing_listRequests (sql : SqlExternals) (db : Database) (filters : ListFilters) :
    Listing db (fun row => filters.accepts row = true) filters.limit
      (db.listRequests sql filters) := by
  let found := (sql.requestOrder filters).sort (db.requests.filter filters.accepts)
  let bound := max 1 (min filters.limit 1000)
  have sorted : found.Pairwise newerRequest := (sql.requestOrder filters).ordered _
  have same : ∀ row, row ∈ found ↔ row ∈ db.requests ∧ filters.accepts row = true := by
    intro row
    rw [Ordering.Sorting.mem_sort, List.mem_filter]
  have parts : (found.take bound ++ found.drop bound).Pairwise newerRequest := by
    rwa [List.take_append_drop]
  refine ⟨fun row member => (same row).mp (List.mem_of_mem_take member),
    (List.pairwise_append.mp parts).1, List.length_take_le _ _, fun row stored accepted => ?_⟩
  have present := (same row).mpr ⟨stored, accepted⟩
  rw [← List.take_append_drop bound found] at present
  rcases List.mem_append.mp present with listed | beyond
  · exact Or.inl listed
  · have full : (found.take bound).length = bound := by
      have long : bound < found.length := by
        by_contra! short
        rw [List.drop_eq_nil_of_le short] at beyond
        exact absurd beyond List.not_mem_nil
      rw [List.length_take]
      omega
    exact Or.inr ⟨full, fun listed member => (List.pairwise_append.mp parts).2.2 listed member
      row beyond⟩

/-- The rows that `requests list` is asked for, apart from their age. -/
def ListOptions.Asks (options : ListOptions) (row : RequestSummary) : Prop :=
  (options.failed = true → row.isError = true) ∧ (options.slow = true → row.isSlow = true) ∧
    ∀ route, options.route = some route → row.routeId = some route

/-- The filters that a duration gives accept what is asked for and recent enough. -/
theorem accepts_since (options : ListOptions) (cutoff : Int) (row : RequestSummary) :
    ListFilters.accepts ⟨options.failed, options.slow, options.route, some cutoff, options.limit⟩
        row = true ↔
      options.Asks row ∧ cutoff ≤ row.createdAtMs := by
  obtain ⟨failed, slow, route, since, limit⟩ := options
  cases failed <;> cases slow <;> cases route <;>
    simp [ListFilters.accepts, ListOptions.Asks, and_assoc]

/-- Nothing saturates: the time is not negative and a duration is positive. -/
theorem saturateI64_since (nowMs : Int) (total : Nat) (clock : 0 ≤ nowMs ∧ nowMs ≤ i64Max)
    (fits : total ≤ i64Max) : saturateI64 (nowMs - total) = nowMs - total := by
  unfold saturateI64
  omega

/-- A text that spells a positive duration that fits lists the rows no older than that, the
newest first; every other text is refused. -/
theorem requests_listed_since (sql : SqlExternals) (db : Database) (nowMs : Int)
    (clock : 0 ≤ nowMs ∧ nowMs ≤ i64Max) (options : ListOptions) (value : String)
    (since : options.since = some value) :
    (∀ total, Spells (Text.trim value).toList total → 0 < total → total ≤ i64Max →
      ∃ rows, requestsList sql db nowMs options = .ok rows ∧
        Listing db (fun row => options.Asks row ∧ nowMs - total ≤ row.createdAtMs)
          options.limit rows) ∧
    ((∀ total, Spells (Text.trim value).toList total → total = 0 ∨ i64Max < total) →
      ∃ err, parseDurationMs value = .error err ∧
        requestsList sql db nowMs options = .error err) := by
  constructor
  · intro total spells positive fits
    have parsed := (parseDurationMs_ok_iff value total).mpr
      ⟨total, spells, rfl, by exact_mod_cast positive, by exact_mod_cast fits⟩
    refine ⟨_, by simp only [requestsList, since, parsed]; rfl, ?_⟩
    rw [saturateI64_since nowMs total clock fits]
    have listing := listing_listRequests sql db
      ⟨options.failed, options.slow, options.route, some (nowMs - total), options.limit⟩
    simpa only [accepts_since] using listing
  · intro none
    cases parsed : parseDurationMs value with
    | error err => exact ⟨err, rfl, by simp only [requestsList, since, parsed]; rfl⟩
    | ok ms =>
      obtain ⟨total, spells, rfl, positive, fits⟩ := (parseDurationMs_ok_iff value ms).mp parsed
      rcases none total spells with zero | large
      · omega
      · omega

/-- A list of the last two seconds, written with a blank in front, has what is not older. -/
theorem requests_listed_since_seconds : ∃ rows,
    requestsList plainSql agedDatabase 4000 ⟨false, false, none, some " 2s", 50⟩ = .ok rows ∧
      Listing agedDatabase
        (fun row => ListOptions.Asks ⟨false, false, none, some " 2s", 50⟩ row ∧
          4000 - ((2 * 1000 : Nat) : Int) ≤ row.createdAtMs) 50 rows := by
  have spells : Spells (Text.trim " 2s").toList (2 * 1000) := spells_toDigits 2 's' 1000 rfl
  exact (requests_listed_since plainSql agedDatabase 4000 (by decide)
    ⟨false, false, none, some " 2s", 50⟩ " 2s" rfl).1 _ spells (by decide) (by decide)

end TraceGate.Cli
