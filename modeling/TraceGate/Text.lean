import Mathlib.Data.List.Basic

/-!
# Text operations of the standard library

The gateway's crates handle text with a few operations of Rust's `str`: ASCII
lowercasing and comparison, counting and taking characters, trimming Unicode
white space, and splitting at one character. They are given here on the list of
a string's characters, so each law about them is a law about lists.
-/

namespace TraceGate.Text

/-- `str::to_ascii_lowercase`: only the letters A to Z change. -/
def toAsciiLowercase (value : String) : String :=
  String.ofList (value.toList.map Char.toLower)

/-- `str::eq_ignore_ascii_case`. -/
def eqIgnoreAsciiCase (left right : String) : Bool :=
  toAsciiLowercase left == toAsciiLowercase right

/-- `char::is_whitespace`: the Unicode `White_Space` property. -/
def isWhitespace (char : Char) : Bool :=
  let code := char.toNat
  (9 ≤ code && code ≤ 13) || code == 0x20 || code == 0x85 || code == 0xA0 ||
    code == 0x1680 || (0x2000 ≤ code && code ≤ 0x200A) || code == 0x2028 ||
    code == 0x2029 || code == 0x202F || code == 0x205F || code == 0x3000

/-- `str::trim`: white space is removed at both ends and nowhere else. -/
def trim (value : String) : String :=
  String.ofList
    ((value.toList.dropWhile isWhitespace).reverse.dropWhile isWhitespace).reverse

/-- The first characters of a text, as `chars().take(count).collect()`. -/
def takeChars (value : String) (count : Nat) : String :=
  String.ofList (value.toList.take count)

/-- `str::split` at one character: always at least one part. -/
def split (separator : Char) (value : String) : List String :=
  (value.toList.splitOn separator).map String.ofList

/-- The inverse of `split`: the parts with the separator between neighbours. -/
def join (separator : Char) (parts : List String) : String :=
  String.ofList ([separator].intercalate (parts.map String.toList))

/-- `str::split_once` at one character. -/
def splitOnce (separator : Char) (value : String) : Option (String × String) :=
  if separator ∈ value.toList then
    some (String.ofList (value.toList.takeWhile (· != separator)),
      String.ofList ((value.toList.dropWhile (· != separator)).drop 1))
  else none

/-- `str::starts_with`. -/
def startsWith (value start : String) : Bool := start.toList.isPrefixOf value.toList

/-- `str::ends_with`. -/
def endsWith (value ending : String) : Bool := ending.toList.isSuffixOf value.toList

/-- `str::strip_prefix`. -/
def stripStart (start value : String) : Option String :=
  if startsWith value start then some (String.ofList (value.toList.drop start.toList.length))
  else none

/-- Lowercasing a character twice is lowercasing it once: a shifted capital lies above `Z`. -/
theorem toLower_idem (letter : Char) : letter.toLower.toLower = letter.toLower := by
  unfold Char.toLower
  split
  next capital =>
    split
    next again =>
      simp only [ge_iff_le, UInt32.le_iff_toNat_le] at capital again
      simp only [UInt32.toNat_add] at again
      simp at capital again
      omega
    · rfl
  · rfl

/-- Only letters are results of lowercasing a letter: a shifted capital lies in `a` to `z`. -/
theorem eq_of_toLower_eq {letter target : Char} (lowered : letter.toLower = target)
    (noLetter : target.toNat < 97) : letter = target := by
  unfold Char.toLower at lowered
  split at lowered
  next capital =>
    have code := congrArg Char.toNat lowered
    simp only [ge_iff_le, UInt32.le_iff_toNat_le] at capital
    simp only [Char.toNat, UInt32.toNat_add] at code
    simp at capital code
    omega
  · exact lowered

/-- Lowercasing twice is lowercasing once. -/
@[simp]
theorem toAsciiLowercase_idem (value : String) :
    toAsciiLowercase (toAsciiLowercase value) = toAsciiLowercase value := by
  have letters : Char.toLower ∘ Char.toLower = Char.toLower := funext toLower_idem
  simp [toAsciiLowercase, letters]

/-- No piece of a split word holds the separator.

By induction on the word: a letter that is not the separator joins the first piece of the rest,
and the separator starts a new one. -/
theorem not_mem_of_mem_splitOn (separator : Char) (word piece : List Char)
    (member : piece ∈ word.splitOn separator) : separator ∉ piece := by
  induction word generalizing piece with
  | nil =>
    rw [List.splitOn_nil, List.mem_singleton] at member
    simp [member]
  | cons letter rest inductionHypothesis =>
    rw [List.splitOn, List.splitOnP_cons_eq_if_modifyHead, ← List.splitOn] at member
    split at member
    · rcases List.mem_cons.mp member with rfl | later
      · exact List.not_mem_nil
      · exact inductionHypothesis piece later
    next other =>
      cases pieces : rest.splitOn separator with
      | nil => exact absurd pieces (List.splitOn_ne_nil separator rest)
      | cons first others =>
        rw [pieces] at member inductionHypothesis
        rcases List.mem_cons.mp member with rfl | later
        · intro held
          rcases List.mem_cons.mp held with same | inFirst
          · exact other (by simp [same])
          · exact inductionHypothesis first List.mem_cons_self inFirst
        · exact inductionHypothesis piece (List.mem_cons_of_mem _ later)

/-- No part of a split text holds the separator. -/
theorem not_mem_of_mem_split (separator : Char) (value part : String)
    (member : part ∈ split separator value) : separator ∉ part.toList := by
  obtain ⟨word, piece, rfl⟩ := List.mem_map.mp member
  rw [String.toList_ofList]
  exact not_mem_of_mem_splitOn separator value.toList word piece

/-- Parts without the separator are read back from their joining. -/
theorem split_join_of_not_mem (separator : Char) (parts : List String)
    (clean : ∀ part ∈ parts, separator ∉ part.toList) (some_part : parts ≠ []) :
    split separator (join separator parts) = parts := by
  have pieces : parts.map String.toList ≠ [] := by simpa using some_part
  rw [split, join, String.toList_ofList,
    List.splitOn_intercalate separator (List.forall_mem_map.mpr clean) pieces, List.map_map]
  exact List.map_id'' (fun _ => String.ofList_toList) parts

/-- Parts of a split text, or some of them, are read back from their joining. -/
theorem split_join (separator : Char) (value : String) (parts : List String)
    (from_split : parts ⊆ split separator value) (some_part : parts ≠ []) :
    split separator (join separator parts) = parts :=
  split_join_of_not_mem separator parts
    (fun part listed => not_mem_of_mem_split separator value part (from_split listed)) some_part

/-- Splitting loses nothing. -/
theorem join_split (separator : Char) (value : String) :
    join separator (split separator value) = value := by
  rw [join, split, List.map_map]
  have letters : String.toList ∘ String.ofList = id := funext fun _ => String.toList_ofList
  rw [letters, List.map_id, List.intercalate_splitOn, String.ofList_toList]

/-- Joined texts have the separator between the first one and the rest. -/
theorem toList_join_cons_cons (separator : Char) (first second : String) (rest : List String) :
    (join separator (first :: second :: rest)).toList =
      first.toList ++ separator :: (join separator (second :: rest)).toList := by
  simp [join, List.intercalate_cons_cons]

/-- A joined text is made of the separator and of its parts.

By induction on the parts. -/
theorem eq_or_mem_of_mem_join {separator char : Char} {parts : List String}
    (member : char ∈ (join separator parts).toList) :
    char = separator ∨ ∃ part ∈ parts, char ∈ part.toList := by
  induction parts with
  | nil => exact absurd member (by simp [join])
  | cons first rest inductionHypothesis =>
    cases rest with
    | nil => exact Or.inr ⟨first, List.mem_cons_self, by simpa [join] using member⟩
    | cons second others =>
      rw [toList_join_cons_cons, List.mem_append, List.mem_cons] at member
      rcases member with inFirst | same | later
      · exact Or.inr ⟨first, List.mem_cons_self, inFirst⟩
      · exact Or.inl same
      · rcases inductionHypothesis later with same | ⟨part, listed, inPart⟩
        · exact Or.inl same
        · exact Or.inr ⟨part, List.mem_cons_of_mem _ listed, inPart⟩

/-- A part has only characters of the joined text.

By induction on the parts. -/
theorem subset_join (separator : Char) {parts : List String} {part : String}
    (listed : part ∈ parts) : part.toList ⊆ (join separator parts).toList := by
  intro char inPart
  induction parts with
  | nil => exact absurd listed List.not_mem_nil
  | cons first rest inductionHypothesis =>
    cases rest with
    | nil =>
      obtain rfl := List.mem_singleton.mp listed
      simpa [join] using inPart
    | cons second others =>
      rw [toList_join_cons_cons, List.mem_append, List.mem_cons]
      rcases List.mem_cons.mp listed with rfl | later
      · exact Or.inl inPart
      · exact Or.inr (Or.inr (inductionHypothesis later))

/-- A part of a split text has only characters of the text. -/
theorem subset_of_mem_split {separator : Char} {value part : String}
    (listed : part ∈ split separator value) : part.toList ⊆ value.toList := by
  have whole := subset_join separator listed
  rwa [join_split] at whole

/-- Splitting gives one part at least. -/
theorem split_ne_nil (separator : Char) (value : String) : split separator value ≠ [] := by
  simp [split, List.splitOn_ne_nil]

/-- Characters of a text cut at a count. -/
@[simp]
theorem toList_takeChars (value : String) (count : Nat) :
    (takeChars value count).toList = value.toList.take count := by
  simp [takeChars]

end TraceGate.Text
