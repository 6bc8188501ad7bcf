import Mathlib.Data.List.DropRight
import TraceGate.Text

/-!
# Trimming, cutting and lowercasing

How the text functions act on the characters of a text, and on each other: what is left
of a text with a bare end after trimming, the first part of a split, and that neither
trimming nor cutting at a sign that is no letter minds the case of letters.
-/

namespace TraceGate.Text

/-- The characters that `trim` keeps. -/
def trimChars (chars : List Char) : List Char :=
  (chars.dropWhile isWhitespace).rdropWhile isWhitespace

/-- There is no white space at either end. -/
structure Bare (chars : List Char) : Prop where
  first : ∀ char ∈ chars.head?, isWhitespace char = false
  last : ∀ char ∈ chars.getLast?, isWhitespace char = false

/-- Trimming a text is trimming its characters. -/
@[simp]
theorem toList_trim (value : String) : (trim value).toList = trimChars value.toList := by
  simp [trim, trimChars, List.rdropWhile]

/-- Lowercasing a text is lowercasing its characters. -/
@[simp]
theorem toList_toAsciiLowercase (value : String) :
    (toAsciiLowercase value).toList = value.toList.map Char.toLower := by
  simp [toAsciiLowercase]

/-- Nothing is dropped in front of a text that does not start with white space. -/
theorem dropWhile_of_first (chars : List Char)
    (first : ∀ char ∈ chars.head?, isWhitespace char = false) :
    chars.dropWhile isWhitespace = chars := by
  cases chars with
  | nil => rfl
  | cons char rest => simp [first char rfl]

/-- Nothing is dropped behind a text that does not end with white space. -/
theorem rdropWhile_of_last (chars : List Char)
    (last : ∀ char ∈ chars.getLast?, isWhitespace char = false) :
    chars.rdropWhile isWhitespace = chars := by
  rw [List.rdropWhile_eq_self_iff]
  intro nonempty
  simp [last _ (List.getLast?_eq_some_getLast nonempty)]

/-- A text without white space at its ends is not trimmed. -/
theorem trimChars_of_bare {chars : List Char} (bare : Bare chars) : trimChars chars = chars := by
  rw [trimChars, dropWhile_of_first chars bare.first, rdropWhile_of_last chars bare.last]

/-- Trimming the end leaves the first character alone.

If anything but white space is left of the text, trimming the end stops behind it. -/
theorem head?_trimChars (chars : List Char) :
    (trimChars chars).head? = (chars.dropWhile isWhitespace).head? := by
  have stays := List.head?_dropWhile_not isWhitespace chars
  unfold trimChars
  cases start : chars.dropWhile isWhitespace with
  | nil => rfl
  | cons first rest =>
    rw [start] at stays
    have filled : (first :: rest).rdropWhile isWhitespace ≠ [] := by
      rw [ne_eq, List.rdropWhile_eq_nil_iff]
      intro blank
      simp [blank first List.mem_cons_self] at stays
    obtain ⟨ending, whole⟩ := List.rdropWhile_prefix isWhitespace (first :: rest)
    cases kept : (first :: rest).rdropWhile isWhitespace with
    | nil => exact absurd kept filled
    | cons char others =>
      rw [kept, List.cons_append] at whole
      rw [(List.cons.inj whole).1]
      rfl

/-- A trimmed text has no white space at its ends.

Its first character is that of the text without white space in front, and its last one is where
trimming the end stopped. -/
theorem bare_trimChars (chars : List Char) : Bare (trimChars chars) := by
  constructor
  · intro char found
    have stays := List.head?_dropWhile_not isWhitespace chars
    rw [head?_trimChars] at found
    rw [Option.mem_def.mp found] at stays
    simpa using stays
  · intro char found
    have nonempty : (chars.dropWhile isWhitespace).rdropWhile isWhitespace ≠ [] := by
      intro empty
      simp [trimChars, empty] at found
    have stays := List.rdropWhile_last_not isWhitespace _ nonempty
    rw [trimChars, List.getLast?_eq_some_getLast nonempty] at found
    rw [← Option.some.inj found]
    simpa using stays

/-- Trimming twice is trimming once. -/
@[simp]
theorem trimChars_trimChars (chars : List Char) : trimChars (trimChars chars) = trimChars chars :=
  trimChars_of_bare (bare_trimChars chars)

/-- White space before a text does not matter to trimming. -/
theorem trimChars_dropWhile (chars : List Char) :
    trimChars (chars.dropWhile isWhitespace) = trimChars chars := by
  rw [trimChars, List.dropWhile_idempotent, trimChars]

/-- A bare end keeps everything before it but the white space at the start. -/
theorem trimChars_append (chars ending : List Char) (bare : Bare ending) (nonempty : ending ≠ []) :
    trimChars (chars ++ ending) = chars.dropWhile isWhitespace ++ ending := by
  have started : (chars ++ ending).dropWhile isWhitespace =
      chars.dropWhile isWhitespace ++ ending := by
    rw [List.dropWhile_append, dropWhile_of_first ending bare.first]
    split
    next empty => rw [List.isEmpty_iff.mp empty, List.nil_append]
    · rfl
  rw [trimChars, started]
  apply rdropWhile_of_last
  intro char found
  rw [List.getLast?_append_of_ne_nil _ nonempty] at found
  exact bare.last char found

/-- The first part of a split is what stands before the first separator.

By induction on the characters, in front of the first piece of the rest. -/
theorem toList_head_split (separator : Char) (value : String) :
    ((split separator value).head?.getD "").toList =
      value.toList.takeWhile (· != separator) := by
  have parts : ∀ chars : List Char,
      ((chars.splitOn separator).head?.getD []) = chars.takeWhile (· != separator) := by
    intro chars
    induction chars with
    | nil => simp
    | cons char rest inductionHypothesis =>
      rw [List.splitOn, List.splitOnP_cons_eq_if_modifyHead, ← List.splitOn]
      by_cases same : char = separator
      · simp [same]
      · have nonempty := List.splitOnP_ne_nil (· == separator) rest
        cases pieces : rest.splitOn separator with
        | nil => exact absurd pieces nonempty
        | cons piece others =>
          rw [pieces] at inductionHypothesis
          simp [same, ← inductionHypothesis]
  have first := parts value.toList
  unfold split
  cases pieces : value.toList.splitOn separator with
  | nil => exact absurd pieces (List.splitOnP_ne_nil _ _)
  | cons piece others =>
    rw [pieces] at first
    simpa using first

/-- A text without the separator stands before it as a whole. -/
theorem takeWhile_of_not_mem (separator : Char) (chars : List Char) (absent : separator ∉ chars) :
    chars.takeWhile (· != separator) = chars := by
  rw [List.takeWhile_eq_self_iff]
  intro char member
  exact bne_iff_ne.mpr fun same => absent (same ▸ member)

/-- What stands before the first separator, where one follows. -/
theorem takeWhile_append_separator (separator : Char) (chars rest : List Char)
    (absent : separator ∉ chars) :
    (chars ++ separator :: rest).takeWhile (· != separator) = chars := by
  rw [List.takeWhile_append, takeWhile_of_not_mem separator chars absent]
  simp

/-! ## Case -/

/-- Lowercasing shifts the capitals of the ASCII alphabet by 32 and nothing else.

The codes are those of characters after the shift too, so the number is the code. -/
theorem toNat_toLower (char : Char) :
    char.toLower.toNat =
      if 65 ≤ char.toNat ∧ char.toNat ≤ 90 then char.toNat + 32 else char.toNat := by
  have capital : (char.val ≥ 'A'.val ∧ char.val ≤ 'Z'.val) ↔
      65 ≤ char.toNat ∧ char.toNat ≤ 90 := by
    simp only [ge_iff_le, UInt32.le_iff_toNat_le]
    exact Iff.rfl
  unfold Char.toLower
  split
  next found =>
    have within := capital.mp found
    rw [if_pos within]
    have shift : ('a'.val - 'A'.val).toNat = 32 := rfl
    simp only [Char.toNat, UInt32.toNat_add, shift] at within ⊢
    omega
  next other => rw [if_neg fun within => other (capital.mpr within)]

/-- Letters are no white space, in either case.

A character that is not shifted stays as it is, and neither a capital nor its shift is one of
the white space codes. -/
theorem isWhitespace_toLower (char : Char) : isWhitespace char.toLower = isWhitespace char := by
  have letter : ∀ code : Char, 65 ≤ code.toNat → code.toNat ≤ 122 →
      isWhitespace code = false := by
    intro code least most
    simp only [isWhitespace, Bool.or_eq_false_iff, Bool.and_eq_false_iff, decide_eq_false_iff_not,
      beq_eq_false_iff_ne]
    omega
  have lowered := toNat_toLower char
  by_cases capital : 65 ≤ char.toNat ∧ char.toNat ≤ 90
  · rw [if_pos capital] at lowered
    rw [letter char (by omega) (by omega), letter char.toLower (by omega) (by omega)]
  · rw [if_neg capital] at lowered
    simp only [isWhitespace, lowered]

/-- A sign that is no letter is where it was after lowercasing. -/
theorem toLower_eq_iff {sign : Char}
    (noLetter : sign.toNat < 65 ∨ (90 < sign.toNat ∧ sign.toNat < 97)) (char : Char) :
    char.toLower = sign ↔ char = sign := by
  constructor
  · intro lowered
    exact eq_of_toLower_eq lowered (by omega)
  · rintro rfl
    apply Char.toNat_inj.mp
    rw [toNat_toLower, if_neg (by omega)]

/-- Lowercasing leaves the white space at the start where it is. -/
theorem dropWhile_map_toLower (chars : List Char) :
    (chars.map Char.toLower).dropWhile isWhitespace =
      (chars.dropWhile isWhitespace).map Char.toLower := by
  rw [List.dropWhile_map]
  congr 2
  funext char
  exact isWhitespace_toLower char

/-- Lowercasing and trimming can be exchanged. -/
theorem trimChars_map_toLower (chars : List Char) :
    trimChars (chars.map Char.toLower) = (trimChars chars).map Char.toLower := by
  simp only [trimChars, dropWhile_map_toLower, List.rdropWhile, ← List.map_reverse]

/-- Lowercasing leaves a sign that is no letter where it is. -/
theorem takeWhile_map_toLower {sign : Char}
    (noLetter : sign.toNat < 65 ∨ (90 < sign.toNat ∧ sign.toNat < 97)) (chars : List Char) :
    (chars.map Char.toLower).takeWhile (· != sign) =
      (chars.takeWhile (· != sign)).map Char.toLower := by
  rw [List.takeWhile_map]
  congr 2
  funext char
  have kept := toLower_eq_iff noLetter
  by_cases same : char = sign
  · simp [same, (kept sign).mpr rfl]
  · have apart : char.toLower ≠ sign := fun lowered => same ((kept char).mp lowered)
    rw [Function.comp_apply, bne_iff_ne.mpr same, bne_iff_ne.mpr apart]

end TraceGate.Text
