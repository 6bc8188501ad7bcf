import Mathlib.Algebra.Ring.Nat
import Mathlib.Data.List.Basic
import Mathlib.Tactic.Common

/-!
# Texts of internet addresses

Addresses are bit vectors. Their canonical texts are those a URL shows: four decimal
octets, or eight hexadecimal groups with the first longest run of at least two zero
groups left out. The readers are those of Rust's standard library, which accept far
more than the canonical texts: leading zeros in groups, capital digits, any run of
zero groups left out, and an embedded dotted address.

A reader takes characters from the front and gives back what is left. What is proved
is that each canonical text is read back as its address.
-/

namespace TraceGate.IpText

/-! ## Positional numbers -/

/-- The last digits of a number, the most significant first. -/
def digitsOf (base : Nat) : Nat → Nat → List Nat
  | 0, _ => []
  | count + 1, number => digitsOf base count (number / base) ++ [number % base]

def valueOf (base : Nat) (digits : List Nat) : Nat :=
  digits.foldl (fun value digit => value * base + digit) 0

/-- There are as many digits as were asked for. -/
@[simp]
theorem length_digitsOf (base count number : Nat) :
    (digitsOf base count number).length = count := by
  induction count generalizing number with
  | zero => rfl
  | succ count inductionHypothesis => simp [digitsOf, inductionHypothesis]

/-- Every digit is below the base. -/
theorem lt_of_mem_digitsOf {base count number digit : Nat} (positive : 0 < base)
    (member : digit ∈ digitsOf base count number) : digit < base := by
  induction count generalizing number with
  | zero => exact absurd member List.not_mem_nil
  | succ count inductionHypothesis =>
    rcases List.mem_append.mp member with higher | last
    · exact inductionHypothesis higher
    · rw [List.mem_singleton.mp last]
      exact Nat.mod_lt _ positive

/-- The digits make up the number again, if there are enough of them.

By induction on the number of digits: the last one is the remainder, and the others are those of
the quotient. -/
theorem valueOf_digitsOf (base count number : Nat) (fits : number < base ^ count) :
    valueOf base (digitsOf base count number) = number := by
  induction count generalizing number with
  | zero =>
    have zero : number = 0 := by
      rw [Nat.pow_zero] at fits
      omega
    simp [digitsOf, valueOf, zero]
  | succ count inductionHypothesis =>
    have higher : number / base < base ^ count := by
      apply Nat.div_lt_of_lt_mul
      rwa [Nat.pow_succ, Nat.mul_comm] at fits
    have digits := inductionHypothesis (number / base) higher
    rw [valueOf] at digits
    rw [valueOf, digitsOf, List.foldl_append, digits]
    exact Nat.div_add_mod' number base

/-! ## Readers -/

/-- `char::to_digit`. -/
def toDigit (radix : Nat) (char : Char) : Option Nat :=
  let code := char.toNat
  let digit :=
    if 48 ≤ code && code ≤ 57 then code - 48
    else if 97 ≤ code && code ≤ 122 then code - 87
    else if 65 ≤ code && code ≤ 90 then code - 55
    else radix
  if digit < radix then some digit else none

/-- The loop over the digits at the front: their value, their count, and the rest. -/
def readDigits (radix : Nat) : List Char → Nat → Nat → Nat × Nat × List Char
  | [], value, count => (value, count, [])
  | char :: rest, value, count =>
      match toDigit radix char with
      | some digit => readDigits radix rest (value * radix + digit) (count + 1)
      | none => (value, count, char :: rest)

/-- `Parser::read_number` for a number of at most the bound. -/
def readNumber (radix bound : Nat) (maxDigits : Option Nat) (allowZeroPrefix : Bool)
    (chars : List Char) : Option (Nat × List Char) :=
  let (value, count, rest) := readDigits radix chars 0 0
  if count = 0 then none
  else if (maxDigits.map (fun most => decide (most < count))).getD false then none
  else if !allowZeroPrefix && chars.head? == some '0' && decide (1 < count) then none
  else if bound < value then none
  else some (value, rest)

/-- `Parser::read_given_char`. -/
def readGivenChar (target : Char) : List Char → Option (List Char)
  | [] => none
  | char :: rest => if char = target then some rest else none

/-- `Parser::read_separator`: every item but the first follows a separator. -/
def readSeparator {α : Type} (separator : Char) (index : Nat)
    (read : List Char → Option (α × List Char)) (chars : List Char) :
    Option (α × List Char) :=
  if 0 < index then (readGivenChar separator chars).bind read else read chars

def readOctet (index : Nat) (chars : List Char) : Option (Nat × List Char) :=
  readSeparator '.' index (readNumber 10 255 (some 3) false) chars

/-- `Parser::read_ipv4_addr`. -/
def readIpv4Addr (chars : List Char) : Option (BitVec 32 × List Char) := do
  let (first, chars) ← readOctet 0 chars
  let (second, chars) ← readOctet 1 chars
  let (third, chars) ← readOctet 2 chars
  let (fourth, chars) ← readOctet 3 chars
  return (BitVec.ofNat 32 (valueOf 256 [first, second, third, fourth]), chars)

/-- The groups of `read_groups`: as many as can be read, up to a number of places left, whether
they end in a dotted address, and the rest. A dotted address takes two places. -/
def readGroups : Nat → Nat → List Char → List Nat × Bool × List Char
  | 0, _, chars => ([], false, chars)
  | left + 1, index, chars =>
      match if 0 < left then readSeparator ':' index readIpv4Addr chars else none with
      | some (address, rest) =>
          ([address.toNat / 65536, address.toNat % 65536], true, rest)
      | none =>
          match readSeparator ':' index (readNumber 16 65535 (some 4) true) chars with
          | none => ([], false, chars)
          | some (group, rest) =>
              let (groups, dotted, rest) := readGroups left (index + 1) rest
              (group :: groups, dotted, rest)

def ofGroups (groups : List Nat) : BitVec 128 := BitVec.ofNat 128 (valueOf 65536 groups)

/-- `Parser::read_ipv6_addr`. -/
def readIpv6Addr (chars : List Char) : Option (BitVec 128 × List Char) :=
  let (head, dotted, rest) := readGroups 8 0 chars
  if head.length = 8 then some (ofGroups head, rest)
  else if dotted then none
  else do
    let rest ← readGivenChar ':' rest
    let rest ← readGivenChar ':' rest
    let (tail, _, rest) := readGroups (8 - (head.length + 1)) 0 rest
    return (ofGroups (head ++ List.replicate (8 - head.length - tail.length) 0 ++ tail), rest)

/-! ## Texts -/

/-- A lowercase digit. -/
def digitChar (digit : Nat) : Char :=
  Char.ofNat (if digit < 10 then 48 + digit else 87 + digit)

/-- The digits of a number without leading zeros; zero is one digit. -/
def withoutLeadingZeros : List Nat → List Nat
  | 0 :: next :: rest => withoutLeadingZeros (next :: rest)
  | digits => digits

/-- An octet in decimal. -/
def octetText (octet : Nat) : List Char :=
  (withoutLeadingZeros (digitsOf 10 3 octet)).map digitChar

/-- A group in hexadecimal. -/
def groupText (group : Nat) : List Char :=
  (withoutLeadingZeros (digitsOf 16 4 group)).map digitChar

/-- Items with a separator before each one that is not the first. -/
def separated (separator : Char) (text : Nat → List Char) : Nat → List Nat → List Char
  | _, [] => []
  | index, item :: rest =>
      (if 0 < index then [separator] else []) ++ text item ++
        separated separator text (index + 1) rest

def octets (address : BitVec 32) : List Nat := digitsOf 256 4 address.toNat

def groups (address : BitVec 128) : List Nat := digitsOf 65536 8 address.toNat

def ipv4Text (address : BitVec 32) : List Char := separated '.' octetText 0 (octets address)

/-- The number of zero groups from a position on. -/
def zeroRun (groups : List Nat) (start : Nat) : Nat :=
  ((groups.drop start).takeWhile (· == 0)).length

/-- The start of the first longest run of zero groups. -/
def longestRun (groups : List Nat) : Nat :=
  (List.range groups.length).foldl
    (fun best start => if zeroRun groups best < zeroRun groups start then start else best) 0

/-- The text of a URL's address: a run of one zero group is written out. -/
def ipv6Text (address : BitVec 128) : List Char :=
  let groups := groups address
  let start := longestRun groups
  let length := zeroRun groups start
  if 1 < length then
    separated ':' groupText 0 (groups.take start) ++ [':', ':'] ++
      separated ':' groupText 0 (groups.drop (start + length))
  else separated ':' groupText 0 groups

example : String.ofList (ipv6Text 0x20010DB8000000000000000000000001) = "2001:db8::1" := by decide

/-! ## Numbers are read back -/

/-- The character of a digit is read back as the digit, in every radix that has it.

The codes of the sixteen characters are decided one by one. -/
theorem toDigit_digitChar {radix digit : Nat} (radixLe : radix ≤ 16) (small : digit < radix) :
    toDigit radix (digitChar digit) = some digit := by
  have value : ∀ digit : Fin 16, (digitChar digit).toNat =
      if digit.val < 10 then 48 + digit.val else 87 + digit.val := by decide
  have code := value ⟨digit, by omega⟩
  simp only at code
  simp only [toDigit, code]
  by_cases decimal : digit < 10
  · have high : 48 + digit ≤ 57 := by omega
    simp [decimal, high, small]
  · have above : ¬ 87 + digit ≤ 57 := by omega
    have low : 97 ≤ 87 + digit := by omega
    have high : 87 + digit ≤ 122 := by omega
    simp [decimal, above, low, high, small]

/-- The text does not go on with a digit. -/
def NoDigit (radix : Nat) (rest : List Char) : Prop :=
  ∀ char ∈ rest.head?, toDigit radix char = none

/-- Reading stops at once where there is no digit. -/
theorem readDigits_noDigit (radix : Nat) (rest : List Char) (stops : NoDigit radix rest)
    (value count : Nat) : readDigits radix rest value count = (value, count, rest) := by
  cases rest with
  | nil => rfl
  | cons char rest =>
    have none := stops char rfl
    simp only [readDigits, none]

/-- Reading takes all the digits of a number and stops behind them.

By induction on the digits, for every value and count read before. -/
theorem readDigits_append (radix : Nat) (radixLe : radix ≤ 16) (digits : List Nat)
    (small : ∀ digit ∈ digits, digit < radix) (rest : List Char) (stops : NoDigit radix rest)
    (value count : Nat) :
    readDigits radix (digits.map digitChar ++ rest) value count =
      (digits.foldl (fun value digit => value * radix + digit) value, count + digits.length,
        rest) := by
  induction digits generalizing value count with
  | nil => exact readDigits_noDigit radix rest stops value count
  | cons digit digits inductionHypothesis =>
    have first := toDigit_digitChar radixLe (small digit List.mem_cons_self)
    have others := inductionHypothesis
      (fun digit member => small digit (List.mem_cons_of_mem _ member))
      (value * radix + digit) (count + 1)
    simp only [List.map_cons, List.cons_append, readDigits, first, others, List.foldl_cons,
      List.length_cons]
    simp only [Nat.add_assoc, Nat.add_comm 1]

/-- What leaving out leading zeros keeps, and what it achieves: the value stays, at least one
digit does, and of several digits the first is no zero. -/
theorem withoutLeadingZeros_spec (base : Nat) (digits : List Nat) (nonempty : digits ≠ []) :
    valueOf base (withoutLeadingZeros digits) = valueOf base digits ∧
      withoutLeadingZeros digits ⊆ digits ∧
      0 < (withoutLeadingZeros digits).length ∧
      (withoutLeadingZeros digits).length ≤ digits.length ∧
      (1 < (withoutLeadingZeros digits).length →
        (withoutLeadingZeros digits).head? ≠ some 0) := by
  fun_induction withoutLeadingZeros digits with
  | case1 next rest inductionHypothesis =>
    obtain ⟨value, subset, positive, length, head⟩ := inductionHypothesis (by simp)
    refine ⟨?_, List.Subset.trans subset (List.subset_cons_self _ _), positive, ?_, head⟩
    · rw [value]
      simp [valueOf]
    · exact Nat.le_trans length (Nat.le_succ _)
  | case2 digits other =>
    refine ⟨rfl, List.Subset.refl _, List.length_pos_of_ne_nil nonempty, Nat.le_refl _, ?_⟩
    intro long
    cases digits with
    | nil => simp at long
    | cons first rest =>
      cases rest with
      | nil => simp at long
      | cons next rest =>
        intro zero
        obtain rfl := Option.some.inj zero
        exact other next rest rfl

/-- A number written without leading zeros is read back.

All the reader's checks pass: there is a digit, there are no more than allowed, there is no
leading zero before another digit, and the value is within its bound. -/
theorem readNumber_text (radix count number bound : Nat) (radixLe : radix ≤ 16)
    (radixPos : 1 < radix) (some_digit : 0 < count) (fits : number < radix ^ count)
    (within : number ≤ bound) (allowZeroPrefix : Bool) (rest : List Char)
    (stops : NoDigit radix rest) :
    readNumber radix bound (some count) allowZeroPrefix
        ((withoutLeadingZeros (digitsOf radix count number)).map digitChar ++ rest) =
      some (number, rest) := by
  have nonempty : digitsOf radix count number ≠ [] := by
    apply List.ne_nil_of_length_pos
    rwa [length_digitsOf]
  obtain ⟨value, subset, positive, length, head⟩ :=
    withoutLeadingZeros_spec radix (digitsOf radix count number) nonempty
  rw [valueOf_digitsOf radix count number fits] at value
  rw [length_digitsOf] at length
  generalize withoutLeadingZeros (digitsOf radix count number) = digits at *
  have small : ∀ digit ∈ digits, digit < radix := fun digit member =>
    lt_of_mem_digitsOf (by omega) (subset member)
  have read := readDigits_append radix radixLe digits small rest stops 0 0
  rw [valueOf] at value
  rw [value, Nat.zero_add] at read
  have noLeadingZero : ((digits.map digitChar ++ rest).head? == some '0' &&
      decide (1 < digits.length)) = false := by
    cases digits with
    | nil => simp at positive
    | cons first others =>
      by_cases long : 1 < (first :: others).length
      · have nonzero : first ≠ 0 := fun zero => head long (by rw [zero]; rfl)
        have char : digitChar first ≠ '0' := by
          have distinct : ∀ digit : Fin 16, digit.val ≠ 0 → digitChar digit ≠ '0' := by decide
          have below : first < 16 := by
            have least := small first List.mem_cons_self
            omega
          exact distinct ⟨first, below⟩ nonzero
        simp [char]
      · simp only [long, decide_false, Bool.and_false]
  simp only [readNumber, read]
  rw [if_neg (by omega), if_neg (by simpa using length), Bool.and_assoc, noLeadingZero,
    Bool.and_false, if_neg (by simp), if_neg (by omega)]

/-- There is no digit at the end of the text. -/
theorem noDigit_nil (radix : Nat) : NoDigit radix [] := by
  intro char member
  exact absurd member (by simp)

/-- There is no number where there is no digit. -/
theorem readNumber_noDigit (radix bound : Nat) (maxDigits : Option Nat) (allowZeroPrefix : Bool)
    (rest : List Char) (stops : NoDigit radix rest) :
    readNumber radix bound maxDigits allowZeroPrefix rest = none := by
  simp only [readNumber, readDigits_noDigit radix rest stops 0 0, if_true]

/-! ## Dotted addresses -/

/-- What follows an item of a separated text is no digit: it is the separator, or what follows
the last item. -/
theorem noDigit_separated (radix : Nat) (separator : Char)
    (other : toDigit radix separator = none) (text : Nat → List Char) (index : Nat)
    (items : List Nat) (rest : List Char) (stops : NoDigit radix rest) :
    NoDigit radix (separated separator text (index + 1) items ++ rest) := by
  cases items with
  | nil => exact stops
  | cons item items =>
    intro char member
    obtain rfl := Option.some.inj member
    exact other

/-- The separator in front of an item is read, and there is none in front of the first. -/
theorem readSeparator_text {α : Type} (separator : Char) (index : Nat)
    (read : List Char → Option (α × List Char)) (rest : List Char) :
    readSeparator separator index read
        ((if 0 < index then [separator] else []) ++ rest) = read rest := by
  by_cases later : 0 < index
  · simp [readSeparator, later, readGivenChar]
  · simp [readSeparator, later]

/-- One octet of a dotted text is read together with the dot in front of it. -/
theorem readOctet_separated (index octet : Nat) (small : octet < 256) (items : List Nat)
    (rest : List Char) (stops : NoDigit 10 rest) :
    readOctet index (separated '.' octetText index (octet :: items) ++ rest) =
      some (octet, separated '.' octetText (index + 1) items ++ rest) := by
  rw [separated, List.append_assoc, List.append_assoc, readOctet, readSeparator_text]
  exact readNumber_text 10 3 octet 255 (by decide) (by decide) (by decide) (by omega) (by omega)
    false _ (noDigit_separated 10 '.' (by decide) octetText index items rest stops)

/-- A dotted text is read back as its address.

The four octets are read one after another, and their value in base 256 is the address again. -/
theorem readIpv4Addr_text (address : BitVec 32) (rest : List Char) (stops : NoDigit 10 rest) :
    readIpv4Addr (ipv4Text address ++ rest) = some (address, rest) := by
  have value : valueOf 256 (octets address) = address.toNat :=
    valueOf_digitsOf 256 4 address.toNat address.isLt
  have small : ∀ octet ∈ octets address, octet < 256 := fun octet member =>
    lt_of_mem_digitsOf (by decide) member
  obtain ⟨first, second, third, fourth, parts⟩ : ∃ first second third fourth,
      octets address = [first, second, third, fourth] := by
    have four : (octets address).length = 4 := length_digitsOf _ _ _
    match octets address, four with
    | [first, second, third, fourth], _ => exact ⟨first, second, third, fourth, rfl⟩
  rw [parts] at value small
  have end_ : separated '.' octetText 4 [] ++ rest = rest := rfl
  simp only [ipv4Text, parts, readIpv4Addr, Option.bind_eq_bind, Option.pure_def,
    readOctet_separated 0 first (small first (by simp)) _ _ stops,
    readOctet_separated 1 second (small second (by simp)) _ _ stops,
    readOctet_separated 2 third (small third (by simp)) _ _ stops,
    readOctet_separated 3 fourth (small fourth (by simp)) _ _ stops,
    Option.bind_some, Nat.reduceAdd, end_, value, BitVec.ofNat_toNat, BitVec.setWidth_eq]

/-! ## Groups -/

/-- A reader that needs a character fails on a text without it. -/
theorem readGivenChar_eq_none (target : Char) (chars : List Char) (absent : target ∉ chars) :
    readGivenChar target chars = none := by
  cases chars with
  | nil => rfl
  | cons char rest =>
    have other : char ≠ target := fun same => absent (same ▸ List.mem_cons_self)
    simp [readGivenChar, other]

/-- What is left after the digits is the end of the text. -/
theorem readDigits_suffix (radix : Nat) (chars : List Char) (value count : Nat) :
    (readDigits radix chars value count).2.2 <:+ chars := by
  induction chars generalizing value count with
  | nil => exact List.suffix_refl _
  | cons char rest inductionHypothesis =>
    simp only [readDigits]
    split
    · exact (inductionHypothesis _ _).trans (List.suffix_cons _ _)
    · exact List.suffix_refl _

/-- What is left after a number is the end of the text. -/
theorem readNumber_suffix {radix bound : Nat} {maxDigits : Option Nat} {allowZeroPrefix : Bool}
    {chars rest : List Char} {value : Nat}
    (read : readNumber radix bound maxDigits allowZeroPrefix chars = some (value, rest)) :
    rest <:+ chars := by
  have suffix := readDigits_suffix radix chars 0 0
  simp only [readNumber] at read
  repeat' split at read
  all_goals first
    | rw [(Prod.mk.inj (Option.some.inj read)).2] at suffix
      exact suffix
    | exact absurd read (by simp)

/-- No dotted address starts a text without dots.

The first octet may be read, but the second needs a dot, and what is left has none either. -/
theorem readIpv4Addr_undotted (chars : List Char) (undotted : '.' ∉ chars) :
    readIpv4Addr chars = none := by
  rw [readIpv4Addr]
  cases first : readOctet 0 chars with
  | none => rfl
  | some read =>
    obtain ⟨octet, rest⟩ := read
    have suffix : rest <:+ chars := readNumber_suffix first
    have absent : '.' ∉ rest := fun member => undotted (suffix.mem member)
    have second : readOctet 1 rest = none := by
      simp [readOctet, readSeparator, readGivenChar_eq_none '.' rest absent]
    simp [second]

/-- What holds of all digits holds of the characters of a number. -/
theorem of_mem_digits {P : Char → Prop} (digits : ∀ digit : Fin 16, P (digitChar digit))
    {base count number : Nat} (baseLe : base ≤ 16) (positive : 0 < base) (some_digit : 0 < count)
    {char : Char}
    (written : char ∈ (withoutLeadingZeros (digitsOf base count number)).map digitChar) :
    P char := by
  obtain ⟨digit, kept, rfl⟩ := List.mem_map.mp written
  have nonempty : digitsOf base count number ≠ [] := by
    apply List.ne_nil_of_length_pos
    rwa [length_digitsOf]
  have subset := (withoutLeadingZeros_spec base (digitsOf base count number) nonempty).2.1
  have small : digit < base := lt_of_mem_digitsOf positive (subset kept)
  exact digits ⟨digit, by omega⟩

/-- The characters of a separated text are separators and those of its items. -/
theorem of_mem_separated {P : Char → Prop} {separator : Char} (atSeparator : P separator)
    {text : Nat → List Char} (atItem : ∀ item, ∀ char ∈ text item, P char) (index : Nat)
    (items : List Nat) : ∀ char ∈ separated separator text index items, P char := by
  induction items generalizing index with
  | nil => simp [separated]
  | cons item items inductionHypothesis =>
    intro char written
    simp only [separated, List.mem_append] at written
    rcases written with (before | inside) | later
    · split at before
      · rwa [List.mem_singleton.mp before]
      · exact absurd before List.not_mem_nil
    · exact atItem item char inside
    · exact inductionHypothesis (index + 1) char later

/-- The characters of a text of groups are digits and colons. -/
theorem of_mem_groups {P : Char → Prop} (digits : ∀ digit : Fin 16, P (digitChar digit))
    (colon : P ':') (index : Nat) (items : List Nat) :
    ∀ char ∈ separated ':' groupText index items, P char :=
  of_mem_separated colon
    (fun _ _ written => of_mem_digits digits (by decide) (by decide) (by decide) written)
    index items

/-- The characters of a dotted text are digits and dots. -/
theorem of_mem_ipv4Text {P : Char → Prop} (digits : ∀ digit : Fin 16, P (digitChar digit))
    (dot : P '.') (address : BitVec 32) : ∀ char ∈ ipv4Text address, P char :=
  of_mem_separated dot
    (fun _ _ written => of_mem_digits digits (by decide) (by decide) (by decide) written)
    0 (octets address)

/-- The characters of an address with its zeros left out are digits and colons.

The text has the groups before the longest run of zeros, two colons and the groups after it, or
all the groups where no run is left out. -/
theorem of_mem_ipv6Text {P : Char → Prop} (digits : ∀ digit : Fin 16, P (digitChar digit))
    (colon : P ':') (address : BitVec 128) : ∀ char ∈ ipv6Text address, P char := by
  intro char written
  simp only [ipv6Text] at written
  split at written
  · rcases List.mem_append.mp written with before | after
    · rcases List.mem_append.mp before with head | colons
      · exact of_mem_groups digits colon _ _ char head
      · obtain rfl : char = ':' := by simpa using colons
        exact colon
    · exact of_mem_groups digits colon _ _ char after
  · exact of_mem_groups digits colon _ _ char written

/-- No text of groups holds a dot. -/
theorem undotted_separated (index : Nat) (items : List Nat) :
    '.' ∉ separated ':' groupText index items := by
  intro dot
  exact of_mem_groups (P := (· ≠ '.')) (by decide) (by decide) index items '.' dot rfl

/-- The reader of one group. -/
def readGroup : List Char → Option (Nat × List Char) := readNumber 16 65535 (some 4) true

/-- No dotted address stands in a text without dots, with a separator in front of it or not. -/
theorem readSeparator_undotted (index : Nat) (chars : List Char) (undotted : '.' ∉ chars) :
    readSeparator ':' index readIpv4Addr chars = none := by
  rw [readSeparator]
  split
  · cases chars with
    | nil => rfl
    | cons char rest =>
      rw [readGivenChar]
      split
      · exact readIpv4Addr_undotted rest fun dot => undotted (List.mem_cons_of_mem _ dot)
      · rfl
  · exact readIpv4Addr_undotted chars undotted

/-- A colon is no digit. -/
theorem noDigit_colon (rest : List Char) : NoDigit 16 (':' :: rest) := by
  intro char member
  obtain rfl := Option.some.inj member
  decide

/-- No group follows where there is neither a digit nor a separator with a digit behind it. -/
theorem readSeparator_no_group (index : Nat) (rest : List Char) (noDigit : NoDigit 16 rest)
    (noDigitAfter : ∀ after, rest = ':' :: after → NoDigit 16 after) :
    readSeparator ':' index readGroup rest = none := by
  rw [readSeparator]
  split
  · cases rest with
    | nil => rfl
    | cons char after =>
      rw [readGivenChar]
      split
      next colon =>
        exact readNumber_noDigit 16 65535 (some 4) true after (noDigitAfter after (by rw [colon]))
      · rfl
  · exact readNumber_noDigit 16 65535 (some 4) true rest noDigit

/-- A text of groups is read back up to where no further group follows, either for
want of places or for want of digits. -/
theorem readGroups_separated (items : List Nat) (left index : Nat) (rest : List Char)
    (small : ∀ group ∈ items, group < 65536) (undotted : '.' ∉ rest)
    (fits : items.length ≤ left) (noDigit : NoDigit 16 rest)
    (stops : items.length < left →
      readSeparator ':' (index + items.length) readGroup rest = none) :
    readGroups left index (separated ':' groupText index items ++ rest) =
      (items, false, rest) := by
  have undottedText : '.' ∉ separated ':' groupText index items ++ rest := by
    rw [List.mem_append, not_or]
    exact ⟨undotted_separated index items, undotted⟩
  induction items generalizing left index with
  | nil =>
    cases left with
    | zero => rfl
    | succ left =>
      have noDotted := readSeparator_undotted index _ undottedText
      have noGroup := stops (Nat.zero_lt_succ left)
      simp only [separated, List.nil_append, List.length_nil, Nat.add_zero] at noDotted noGroup ⊢
      simp only [readGroup] at noGroup
      simp only [readGroups, noDotted, noGroup, ite_self]
  | cons item items inductionHypothesis =>
    cases left with
    | zero => exact absurd fits (by simp)
    | succ left =>
      have noDotted := readSeparator_undotted index _ undottedText
      have itemSmall := small item List.mem_cons_self
      have group : readSeparator ':' index (readNumber 16 65535 (some 4) true)
          (separated ':' groupText index (item :: items) ++ rest) =
            some (item, separated ':' groupText (index + 1) items ++ rest) := by
        rw [separated, List.append_assoc, List.append_assoc, readSeparator_text]
        exact readNumber_text 16 4 item 65535 (by decide) (by decide) (by decide) (by omega)
          (by omega) true _
          (noDigit_separated 16 ':' (by decide) groupText index items rest noDigit)
      have others := inductionHypothesis left (index + 1)
        (fun group member => small group (List.mem_cons_of_mem _ member))
        (Nat.le_of_succ_le_succ fits)
        (fun more => by
          have later := stops (Nat.succ_lt_succ more)
          rwa [List.length_cons, Nat.add_comm items.length, ← Nat.add_assoc] at later)
        (by
          rw [List.mem_append, not_or]
          exact ⟨undotted_separated (index + 1) items, undotted⟩)
      simp only [readGroups, noDotted, group, others, ite_self]

/-! ## The run of zeros -/

/-- A list is what comes before a run, the run, and what comes after it. -/
theorem split_at_run (items : List Nat) (start : Nat) :
    items.take start ++ List.replicate (zeroRun items start) 0 ++
      items.drop (start + zeroRun items start) = items := by
  have zeros : ∀ rest : List Nat, List.replicate (rest.takeWhile (· == 0)).length 0 ++
      rest.drop (rest.takeWhile (· == 0)).length = rest := by
    intro rest
    induction rest with
    | nil => rfl
    | cons first rest inductionHypothesis =>
      by_cases zero : first = 0
      · subst zero
        simpa [List.replicate_succ] using inductionHypothesis
      · simp [zero]
  rw [List.append_assoc, ← List.drop_drop, zeroRun, zeros, List.take_append_drop]

/-- A run of zeros ends within the list. -/
theorem zeroRun_le (items : List Nat) (start : Nat) (some_zero : 0 < zeroRun items start) :
    start + zeroRun items start ≤ items.length := by
  have inside : zeroRun items start ≤ (items.drop start).length :=
    (List.takeWhile_sublist _).length_le
  rw [List.length_drop] at inside
  omega

/-- The eight groups of an address make up the address again. -/
theorem ofGroups_groups (address : BitVec 128) : ofGroups (groups address) = address := by
  have value := valueOf_digitsOf 65536 8 address.toNat address.isLt
  rw [ofGroups, groups, value, BitVec.ofNat_toNat, BitVec.setWidth_eq]

/-- A text of groups is read back as its address.

Without a run that is left out, the eight groups are read at once. With one, the head stops
before the two colons and the tail at the end of the text, and the zeros between them are as
many as were left out. -/
theorem readIpv6Addr_text (address : BitVec 128) :
    readIpv6Addr (ipv6Text address) = some (address, []) := by
  have small : ∀ group ∈ groups address, group < 65536 := fun group member =>
    lt_of_mem_digitsOf (by decide) member
  have eight : (groups address).length = 8 := length_digitsOf _ _ _
  have whole := ofGroups_groups address
  have ended : NoDigit 16 [] := noDigit_nil 16
  simp only [ipv6Text]
  generalize groups address = items at *
  have run := split_at_run items (longestRun items)
  have inside := zeroRun_le items (longestRun items)
  generalize zeroRun items (longestRun items) = length at *
  generalize longestRun items = start at *
  split
  next compressed =>
    have fits := inside (by omega)
    have headLength : (items.take start).length = start := by
      rw [List.length_take]
      omega
    have tailLength : (items.drop (start + length)).length = 8 - (start + length) := by
      rw [List.length_drop, eight]
    have head := readGroups_separated (items.take start) 8 0
      (':' :: ':' :: separated ':' groupText 0 (items.drop (start + length)))
      (fun group member => small group (List.mem_of_mem_take member))
      (by
        simp only [List.mem_cons, not_or]
        exact ⟨by decide, by decide, undotted_separated _ _⟩)
      (by omega) (noDigit_colon _) (fun _ => readSeparator_no_group _ _ (noDigit_colon _)
        fun after colons => (List.cons.inj colons).2 ▸ noDigit_colon _)
    have tail := readGroups_separated (items.drop (start + length)) (8 - (start + 1)) 0 []
      (fun group member => small group (List.mem_of_mem_drop member)) List.not_mem_nil
      (by omega) ended (fun _ => readSeparator_no_group _ _ ended
        fun after colon => absurd colon (by simp))
    rw [List.append_nil] at tail
    have gap : 8 - start - (8 - (start + length)) = length := by omega
    rw [List.append_assoc, List.cons_append, List.cons_append, List.nil_append]
    simp only [readIpv6Addr, head, headLength, readGivenChar, if_true, Option.bind_eq_bind,
      Option.bind_some, tail, tailLength, gap, run, whole]
    rw [if_neg (by omega), if_neg (by simp)]
    rfl
  next written =>
    have all := readGroups_separated items 8 0 [] small List.not_mem_nil (by omega) ended
      (fun more => absurd more (by omega))
    rw [List.append_nil] at all
    simp only [readIpv6Addr, all, eight, if_true, whole]

/-- No address with groups holds a dot, so it is not taken for a dotted one. -/
theorem undotted_ipv6Text (address : BitVec 128) : '.' ∉ ipv6Text address := by
  intro dot
  exact of_mem_ipv6Text (P := (· ≠ '.')) (by decide) (by decide) address '.' dot rfl

end TraceGate.IpText
