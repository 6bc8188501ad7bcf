import Mathlib.Data.List.DropRight

/-!
# Reading the text of an http URL

The part of the WHATWG algorithm that reads what follows the scheme and the two slashes of a
special URL. The authority ends at the first slash, backslash, question mark or number sign.
The path state splits the path at slashes and backslashes, percent-encodes characters of a set,
takes a segment back for two dots and drops one dot; each dot may be written as `%2e`. The query
ends at a number sign and is percent-encoded with a set of its own.

The two sets and the reading of the authority are parameters. Whatever the text, the path that
comes out is in a normal form, and a path in normal form is read as itself.
-/

namespace TraceGate.Whatwg

/-! ## Percent-encoding -/

/-- A digit of an encoded byte. -/
def upperHex (value : Nat) : Char := Char.ofNat (if value < 10 then 48 + value else 55 + value)

def percentEncode (char : Char) : List Char :=
  (String.utf8EncodeChar char).flatMap fun byte =>
    ['%', upperHex (byte.toNat / 16), upperHex (byte.toNat % 16)]

/-- The characters to encode: control characters and the blank among them, and none that
encoded text is made of. -/
structure EncodeSet where
  encodes : Char → Bool
  control : ∀ char, char ≤ ' ' → encodes char = true
  percent : encodes '%' = false
  digit : ∀ value < 16, encodes (upperHex value) = false

def encodeChar (set : EncodeSet) (char : Char) : List Char :=
  if set.encodes char then percentEncode char else [char]

def encode (set : EncodeSet) (text : List Char) : List Char := text.flatMap (encodeChar set)

/-- A percent sign or one of sixteen digits. -/
theorem of_mem_percentEncode {char written : Char} (member : written ∈ percentEncode char) :
    written = '%' ∨ ∃ value < 16, written = upperHex value := by
  obtain ⟨byte, _, inByte⟩ := List.mem_flatMap.mp member
  have bounded : byte.toNat < 256 := byte.toNat_lt
  simp only [List.mem_cons, List.not_mem_nil, or_false] at inByte
  rcases inByte with rfl | rfl | rfl
  · exact Or.inl rfl
  · exact Or.inr ⟨byte.toNat / 16, by omega, rfl⟩
  · exact Or.inr ⟨byte.toNat % 16, by omega, rfl⟩

section

variable {set : EncodeSet}

/-- What is written for a character need not be encoded again. -/
theorem encodes_of_mem_encodeChar {char written : Char} (member : written ∈ encodeChar set char) :
    set.encodes written = false := by
  unfold encodeChar at member
  split at member
  · rcases of_mem_percentEncode member with rfl | ⟨value, bounded, rfl⟩
    · exact set.percent
    · exact set.digit value bounded
  next plain =>
    rw [List.mem_singleton.mp member]
    simpa using plain

/-- A character that is not encoded is written as it is. -/
theorem encodeChar_of_plain {char : Char} (plain : set.encodes char = false) :
    encodeChar set char = [char] := by
  simp [encodeChar, plain]

/-- A text without characters to encode is written as it is. -/
theorem encode_of_plain {text : List Char} (plain : ∀ char ∈ text, set.encodes char = false) :
    encode set text = text := by
  induction text with
  | nil => rfl
  | cons char rest inductionHypothesis =>
    have following := inductionHypothesis fun other member =>
      plain other (List.mem_cons_of_mem _ member)
    unfold encode at following ⊢
    rw [List.flatMap_cons, encodeChar_of_plain (plain char List.mem_cons_self), following]
    rfl

/-- What is written for a text need not be encoded again. -/
theorem encodes_of_mem_encode {text : List Char} {written : Char}
    (member : written ∈ encode set text) : set.encodes written = false := by
  obtain ⟨char, _, inChar⟩ := List.mem_flatMap.mp member
  exact encodes_of_mem_encodeChar inChar

end

/-! ## Paths -/

def isSlash (char : Char) : Bool := char == '/' || char == '\\'

def isSingleDot (segment : List Char) : Bool :=
  [".", "%2e"].any fun dot => segment.map Char.toLower == dot.toList

def isDoubleDot (segment : List Char) : Bool :=
  ["..", ".%2e", "%2e.", "%2e%2e"].any fun dots => segment.map Char.toLower == dots.toList

/-- What dots leave behind: a segment without characters if the path ends with them. -/
def afterDots (atSlash : Bool) : List (List Char) := if atSlash then [] else [[]]

/-- A segment ends, at a slash or with the path. -/
def closeSegment (atSlash : Bool) (buffer : List Char) (path : List (List Char)) :
    List (List Char) :=
  if isDoubleDot buffer then path.dropLast ++ afterDots atSlash
  else if isSingleDot buffer then path ++ afterDots atSlash
  else path ++ [buffer]

/-- The path state. -/
def pathState (set : EncodeSet) : List Char → List Char → List (List Char) → List (List Char)
  | [], buffer, path => closeSegment false buffer path
  | char :: rest, buffer, path =>
      if isSlash char then pathState set rest [] (closeSegment true buffer path)
      else pathState set rest (buffer ++ encodeChar set char) path

/-- The path start state takes a slash of its own. -/
def dropSlash : List Char → List Char
  | [] => []
  | char :: rest => if isSlash char then rest else char :: rest

def serialize (path : List (List Char)) : List Char := path.flatMap ('/' :: ·)

def readPath (set : EncodeSet) (text : List Char) : List Char :=
  serialize (pathState set (dropSlash text) [] [])

/-- Characters that the path state takes over as they are. -/
def Plain (set : EncodeSet) (text : List Char) : Prop :=
  ∀ char ∈ text, set.encodes char = false ∧ isSlash char = false

/-- A segment that the path state takes over as it is. -/
structure Kept (set : EncodeSet) (segment : List Char) : Prop where
  plain : Plain set segment
  single : isSingleDot segment = false
  double : isDoubleDot segment = false

/-- The normal form: a slash before every segment, and each of them kept. -/
def PathKept (set : EncodeSet) (path : List Char) : Prop :=
  ∃ rest, path = '/' :: rest ∧ ∀ segment ∈ rest.splitOn '/', Kept set segment

instance (set : EncodeSet) (text : List Char) : Decidable (Plain set text) :=
  decidable_of_iff (text.all (fun char => !set.encodes char && !isSlash char) = true)
    (by simp [Plain])

instance (set : EncodeSet) (segment : List Char) : Decidable (Kept set segment) :=
  decidable_of_iff
    (Plain set segment ∧ isSingleDot segment = false ∧ isDoubleDot segment = false)
    ⟨fun ⟨plain, single, double⟩ => ⟨plain, single, double⟩,
      fun kept => ⟨kept.plain, kept.single, kept.double⟩⟩

instance (set : EncodeSet) : (path : List Char) → Decidable (PathKept set path)
  | [] => isFalse (by rintro ⟨_, absent, _⟩; exact absurd absent (by simp))
  | char :: rest =>
      decidable_of_iff
        (char = '/' ∧ (rest.splitOn '/').all (fun segment => decide (Kept set segment)) = true)
        (by simp [PathKept])

section

variable {set : EncodeSet}

/-- The empty segment is kept. -/
theorem kept_nil : Kept set [] := ⟨fun _ member => absurd member (by simp), by decide, by decide⟩

/-- What is written for a character other than a slash is plain. -/
theorem plain_encodeChar {char : Char} (other : isSlash char = false) :
    Plain set (encodeChar set char) := by
  intro written member
  refine ⟨encodes_of_mem_encodeChar member, ?_⟩
  unfold encodeChar at member
  split at member
  · rcases of_mem_percentEncode member with rfl | ⟨value, bounded, rfl⟩
    · decide
    · exact (by decide : ∀ value < 16, isSlash (upperHex value) = false) value bounded
  · rw [List.mem_singleton.mp member]
    exact other

/-- Closing a segment leaves kept segments.

Two dots take a segment away and one dot adds none; what dots leave at the end of the path is
the empty segment. -/
theorem kept_closeSegment (atSlash : Bool) {buffer : List Char} {path : List (List Char)}
    (plain : Plain set buffer) (kept : ∀ segment ∈ path, Kept set segment) :
    ∀ segment ∈ closeSegment atSlash buffer path, Kept set segment := by
  have last : ∀ segment ∈ afterDots atSlash, Kept set segment := by
    intro segment member
    cases atSlash with
    | true => exact absurd member (by simp [afterDots])
    | false =>
      rw [show segment = [] by simpa [afterDots] using member]
      exact kept_nil
  unfold closeSegment
  intro segment member
  split at member
  · rcases List.mem_append.mp member with before | ending
    · exact kept segment ((List.dropLast_sublist path).subset before)
    · exact last segment ending
  next double =>
    split at member
    · rcases List.mem_append.mp member with before | ending
      · exact kept segment before
      · exact last segment ending
    next single =>
      rcases List.mem_append.mp member with before | ending
      · exact kept segment before
      · rw [List.mem_singleton.mp ending]
        exact ⟨plain, by simpa using single, by simpa using double⟩

/-- A path that ends has one segment at least. -/
theorem closeSegment_ne_nil (buffer : List Char) (path : List (List Char)) :
    closeSegment false buffer path ≠ [] := by
  unfold closeSegment
  split
  · simp [afterDots]
  · split <;> simp [afterDots]

/-- Whatever the text, the segments are kept ones, and there is one.

By induction on the text, for every plain buffer and every path of kept segments. -/
theorem kept_pathState (text buffer : List Char) (path : List (List Char))
    (plain : Plain set buffer) (kept : ∀ segment ∈ path, Kept set segment) :
    pathState set text buffer path ≠ [] ∧
      ∀ segment ∈ pathState set text buffer path, Kept set segment := by
  induction text generalizing buffer path with
  | nil => exact ⟨closeSegment_ne_nil buffer path, kept_closeSegment false plain kept⟩
  | cons char rest inductionHypothesis =>
    unfold pathState
    split
    · exact inductionHypothesis [] _ (fun _ member => absurd member (by simp))
        (kept_closeSegment true plain kept)
    next other =>
      refine inductionHypothesis _ path ?_ kept
      intro written member
      rcases List.mem_append.mp member with before | added
      · exact plain written before
      · exact plain_encodeChar (by simpa using other) written added

/-- Plain characters are collected as they are. -/
theorem pathState_plain (text rest buffer : List Char) (path : List (List Char))
    (plain : Plain set text) :
    pathState set (text ++ rest) buffer path = pathState set rest (buffer ++ text) path := by
  induction text generalizing buffer with
  | nil => simp
  | cons char following inductionHypothesis =>
    obtain ⟨written, other⟩ := plain char List.mem_cons_self
    rw [List.cons_append, pathState, other, encodeChar_of_plain written, if_neg (by simp),
      inductionHypothesis _ fun next member => plain next (List.mem_cons_of_mem _ member)]
    simp

/-- A kept segment is closed as it is, since it is no dots. -/
theorem closeSegment_kept (atSlash : Bool) {segment : List Char} (path : List (List Char))
    (kept : Kept set segment) : closeSegment atSlash segment path = path ++ [segment] := by
  simp [closeSegment, kept.single, kept.double]

/-- Kept segments are read as they are.

By induction on the segments, each of which is collected whole and closed at the slash behind
it. -/
theorem pathState_intercalate (segments path : List (List Char)) (nonempty : segments ≠ [])
    (kept : ∀ segment ∈ segments, Kept set segment) :
    pathState set (['/'].intercalate segments) [] path = path ++ segments := by
  induction segments generalizing path with
  | nil => exact absurd rfl nonempty
  | cons segment rest inductionHypothesis =>
    have first := kept segment List.mem_cons_self
    cases rest with
    | nil =>
      have read := pathState_plain segment [] [] path first.plain
      rw [List.append_nil, List.nil_append] at read
      rw [List.intercalate_singleton, read]
      exact closeSegment_kept false path first
    | cons next others =>
      have following := inductionHypothesis (path ++ [segment]) (by simp) fun other member =>
        kept other (List.mem_cons_of_mem _ member)
      rw [List.intercalate_cons_cons, List.append_assoc,
        pathState_plain segment _ [] path first.plain, List.singleton_append, pathState,
        if_pos (by decide), List.nil_append, closeSegment_kept true path first, following]
      simp

/-- Segments are written with a slash in front of each. -/
theorem serialize_eq (segments : List (List Char)) (nonempty : segments ≠ []) :
    serialize segments = '/' :: ['/'].intercalate segments := by
  induction segments with
  | nil => exact absurd rfl nonempty
  | cons segment rest inductionHypothesis =>
    cases rest with
    | nil => simp [serialize]
    | cons next others =>
      have following := inductionHypothesis (by simp)
      unfold serialize at following ⊢
      rw [List.flatMap_cons, following, List.intercalate_cons_cons]
      simp

/-- The normal form, by its segments. -/
theorem pathKept_iff (path : List Char) :
    PathKept set path ↔
      ∃ segments, segments ≠ [] ∧ (∀ segment ∈ segments, Kept set segment) ∧
        path = serialize segments := by
  constructor
  · rintro ⟨rest, rfl, kept⟩
    have nonempty : rest.splitOn '/' ≠ [] := List.splitOn_ne_nil _ _
    refine ⟨rest.splitOn '/', nonempty, kept, ?_⟩
    rw [serialize_eq _ nonempty, List.intercalate_splitOn]
  · rintro ⟨segments, nonempty, kept, rfl⟩
    refine ⟨_, serialize_eq segments nonempty, ?_⟩
    rw [List.splitOn_intercalate '/' _ nonempty]
    · exact kept
    · intro segment member slash
      exact absurd ((kept segment member).plain '/' slash).2 (by decide)

/-- Whatever the text, the path that is read is in normal form. -/
theorem pathKept_readPath (text : List Char) : PathKept set (readPath set text) := by
  have none : Plain set [] := fun _ member => absurd member (by simp)
  obtain ⟨nonempty, kept⟩ := kept_pathState (dropSlash text) [] [] none (by simp)
  exact (pathKept_iff _).mpr ⟨_, nonempty, kept, rfl⟩

/-- A path in normal form is read as it is. -/
theorem readPath_of_kept {path : List Char} (kept : PathKept set path) :
    readPath set path = path := by
  obtain ⟨segments, nonempty, each, rfl⟩ := (pathKept_iff path).mp kept
  rw [readPath, serialize_eq segments nonempty, dropSlash, if_pos (by decide),
    pathState_intercalate segments [] nonempty each, List.nil_append, serialize_eq _ nonempty]

/-- A character of a path in normal form is a slash or one that is not encoded. -/
theorem eq_or_plain_of_mem {path : List Char} (kept : PathKept set path) {char : Char}
    (member : char ∈ path) : char = '/' ∨ set.encodes char = false := by
  obtain ⟨segments, _, each, rfl⟩ := (pathKept_iff path).mp kept
  obtain ⟨segment, listed, inSegment⟩ := List.mem_flatMap.mp member
  rcases List.mem_cons.mp inSegment with slash | inside
  · exact Or.inl slash
  · exact Or.inr ((each segment listed).plain char inside).1

end

/-! ## The whole text -/

def endsPath (char : Char) : Bool := char == '?' || char == '#'

def endsAuthority (char : Char) : Bool := isSlash char || endsPath char

/-- What the algorithm takes from elsewhere: the sets, and the host and the origin that an
authority stands for. -/
structure Reader where
  path : EncodeSet
  query : EncodeSet
  fragment : EncodeSet
  authority : String → List Char → Except String (String × String)
  pathEnds : ∀ char, endsPath char = true → path.encodes char = true
  queryEnds : query.encodes '#' = true

structure Parts where
  host : String
  origin : String
  path : List Char
  query : Option (List Char)
  fragment : Option (List Char)
deriving DecidableEq

/-- Control characters and blanks go at the end, tabs and line breaks everywhere. -/
def strip (text : List Char) : List Char :=
  (text.rdropWhile (· ≤ ' ')).filter fun char => !(char == '\t' || char == '\n' || char == '\r')

namespace Reader

variable (reader : Reader)

def readQuery : List Char → Option (List Char)
  | '?' :: rest => some (encode reader.query (rest.takeWhile (· != '#')))
  | _ => none

def readFragment (text : List Char) : Option (List Char) :=
  (text.dropWhile (· != '#')).tail?.map (encode reader.fragment)

/-- What follows the scheme and the two slashes. -/
def read (scheme : String) (text : List Char) : Except String Parts :=
  let text := (strip text).dropWhile isSlash
  let rest := text.dropWhile (!endsAuthority ·)
  let tail := rest.dropWhile (!endsPath ·)
  match reader.authority scheme (text.takeWhile (!endsAuthority ·)) with
  | .error reason => .error reason
  | .ok (host, origin) =>
      .ok ⟨host, origin, readPath reader.path (rest.takeWhile (!endsPath ·)),
        reader.readQuery tail, reader.readFragment tail⟩

/-- A query that is read as it is. -/
def QueryKept (query : Option (List Char)) : Prop :=
  ∀ text ∈ query, ∀ char ∈ text, reader.query.encodes char = false

/-- A path and a query that are read as they are. -/
structure TargetKept (path : List Char) (query : Option (List Char)) : Prop where
  path : PathKept reader.path path
  query : ∀ text ∈ query, ∀ char ∈ text, reader.query.encodes char = false

instance (path : List Char) (query : Option (List Char)) :
    Decidable (reader.TargetKept path query) :=
  decidable_of_iff (PathKept reader.path path ∧
      query.all (fun text => text.all fun char => !reader.query.encodes char) = true)
    ⟨fun ⟨path, query⟩ => ⟨path, by simpa [Option.all_eq_true] using query⟩,
      fun kept => ⟨kept.path, by simpa [Option.all_eq_true] using kept.query⟩⟩

end Reader

/-- A path with its query behind it. -/
def joined (path : List Char) (query : Option (List Char)) : List Char :=
  path ++ (query.map ('?' :: ·)).getD []

section

variable (reader : Reader) {path : List Char} {query : Option (List Char)}

/-- Whatever the text, what is read of it is in normal form.

The path is by `pathKept_readPath`, and what is written for a query need not be encoded
again. -/
theorem targetKept_of_read (scheme : String) (text : List Char) (parts : Parts)
    (read : reader.read scheme text = .ok parts) :
    reader.TargetKept parts.path parts.query := by
  simp only [Reader.read] at read
  split at read
  · exact absurd read (by simp)
  next host origin _ =>
    obtain rfl := Except.ok.inj read
    refine ⟨pathKept_readPath _, ?_⟩
    intro query found char member
    unfold Reader.readQuery at found
    split at found
    · obtain rfl := Option.some.inj found
      exact encodes_of_mem_encode member
    · exact absurd found (by simp)

/-- Visible characters are neither tabs nor line breaks. -/
theorem filter_of_visible {text : List Char} (visible : ∀ char ∈ text, ' ' < char) :
    text.filter (fun char => !(char == '\t' || char == '\n' || char == '\r')) = text := by
  rw [List.filter_eq_self]
  intro char member
  have shown := visible char member
  rw [Bool.not_eq_true', Bool.or_eq_false_iff, Bool.or_eq_false_iff]
  refine ⟨⟨?_, ?_⟩, ?_⟩
  all_goals
    rw [beq_eq_false_iff_ne]
    rintro rfl
    exact absurd shown (by decide)

/-- Visible characters at the end of a text stay there, and nothing comes before them that was
not in the text. -/
theorem strip_append (before : List Char) {ending : List Char} (nonempty : ending ≠ [])
    (visible : ∀ char ∈ ending, ' ' < char) :
    ∃ kept, kept ⊆ before ∧ strip (before ++ ending) = kept ++ ending := by
  have untrimmed : (before ++ ending).rdropWhile (· ≤ ' ') = before ++ ending := by
    rw [List.rdropWhile_eq_self_iff]
    intro filled blank
    rw [List.getLast_append_of_ne_nil filled nonempty] at blank
    exact absurd (visible _ (List.getLast_mem nonempty)) (by simpa using blank)
  rw [strip, untrimmed, List.filter_append, filter_of_visible visible]
  exact ⟨_, List.filter_subset_self _, rfl⟩

/-- Nothing is stripped off a text of visible characters. -/
theorem strip_of_visible {text : List Char} (visible : ∀ char ∈ text, ' ' < char) :
    strip text = text := by
  by_cases nonempty : text = []
  · rw [nonempty]
    rfl
  · obtain ⟨kept, nothing, stripped⟩ := strip_append [] nonempty visible
    rwa [List.subset_nil.mp nothing, List.nil_append] at stripped

/-- Neither a control character nor a blank is left in what is not encoded. -/
theorem visible_of_plain {set : EncodeSet} {char : Char} (plain : set.encodes char = false) :
    ' ' < char := by
  by_contra hidden
  exact absurd (set.control char (Char.not_lt.mp hidden)) (by simp [plain])

/-- A query in normal form has visible characters only. -/
theorem visible_query (kept : reader.QueryKept query) :
    ∀ char ∈ (query.map ('?' :: ·)).getD [], ' ' < char := by
  intro char member
  cases query with
  | none => exact absurd member (by simp)
  | some text =>
    rcases List.mem_cons.mp member with rfl | inText
    · decide
    · exact visible_of_plain (kept text rfl char inText)

/-- A target in normal form has visible characters only. -/
theorem visible_joined (kept : reader.TargetKept path query) :
    ∀ char ∈ joined path query, ' ' < char := by
  intro char member
  rcases List.mem_append.mp member with inPath | inQuery
  · rcases eq_or_plain_of_mem kept.path inPath with rfl | plain
    · decide
    · exact visible_of_plain plain
  · exact visible_query reader kept.query char inQuery

/-- A target in normal form falls into its path and its query, since its path has no character
that ends it. -/
theorem takeWhile_joined (kept : reader.TargetKept path query) :
    (joined path query).takeWhile (!endsPath ·) = path ∧
      (joined path query).dropWhile (!endsPath ·) = (query.map ('?' :: ·)).getD [] := by
  have inside : ∀ char ∈ path, (!endsPath char) = true := by
    intro char member
    rcases eq_or_plain_of_mem kept.path member with rfl | plain
    · decide
    · cases ends : endsPath char with
      | false => rfl
      | true => exact absurd (reader.pathEnds char ends) (by simp [plain])
  rw [joined, List.takeWhile_append_of_pos inside, List.dropWhile_append_of_pos inside]
  cases query <;> simp [endsPath]

/-- A query in normal form is read as it is, with no fragment behind it.

The number sign is encoded in a query, so none is left in the normal form. -/
theorem readQuery_of_kept (kept : reader.QueryKept query) :
    reader.readQuery ((query.map ('?' :: ·)).getD []) = query ∧
      reader.readFragment ((query.map ('?' :: ·)).getD []) = none := by
  cases query with
  | none => exact ⟨rfl, rfl⟩
  | some text =>
    have inside : ∀ char ∈ text, (char != '#') = true := by
      intro char member
      rw [bne_iff_ne]
      rintro rfl
      exact absurd (kept text rfl '#' member) (by simp [reader.queryEnds])
    constructor
    · simp [Reader.readQuery, List.takeWhile_eq_self_iff.mpr inside,
        encode_of_plain (kept text rfl)]
    · simp [Reader.readFragment, List.dropWhile_eq_nil_iff.mpr inside]

/-- What the second drops of a text, it drops after the first has dropped some of it. -/
theorem dropWhile_of_imp {α : Type} {first second : α → Bool}
    (implies : ∀ item, first item = true → second item = true) (items : List α) :
    (items.dropWhile first).dropWhile second = items.dropWhile second := by
  induction items with
  | nil => rfl
  | cons item rest inductionHypothesis =>
    cases dropped : first item with
    | false => rw [List.dropWhile_cons_of_neg (by simp [dropped])]
    | true =>
      rw [List.dropWhile_cons_of_pos dropped, List.dropWhile_cons_of_pos (implies item dropped),
        inductionHypothesis]

/-- The query is read behind the first character that ends a path.

Neither the slashes in front nor the authority have such a character. -/
theorem query_of_read (scheme : String) (text : List Char) (parts : Parts)
    (read : reader.read scheme text = .ok parts) :
    parts.query = reader.readQuery ((strip text).dropWhile (!endsPath ·)) := by
  have slash : ∀ char, isSlash char = true → (!endsPath char) = true := by
    intro char found
    simp only [isSlash, Bool.or_eq_true, beq_iff_eq] at found
    rcases found with rfl | rfl <;> decide
  have inside : ∀ char, (!endsAuthority char) = true → (!endsPath char) = true := by
    intro char found
    simp only [endsAuthority, Bool.not_eq_true', Bool.or_eq_false_iff] at found
    simp [found.2]
  simp only [Reader.read] at read
  split at read
  · exact absurd read (by simp)
  · obtain rfl := Except.ok.inj read
    rw [dropWhile_of_imp inside, dropWhile_of_imp slash]

/-- Whatever stands before it, if nothing in it ends a path, a query in normal form is read as
it is. -/
theorem query_of_read_kept (scheme : String) (before : List Char) (parts : Parts)
    (clear : ∀ char ∈ before, endsPath char = false) (kept : reader.QueryKept query)
    (read : reader.read scheme (before ++ (query.map ('?' :: ·)).getD []) = .ok parts) :
    parts.query = query := by
  rw [query_of_read reader scheme _ parts read]
  have dropped : ∀ text, text ⊆ before → ∀ char ∈ text, (!endsPath char) = true := by
    intro text inside char member
    rw [clear char (inside member)]
    rfl
  cases query with
  | none =>
    have inside : strip before ⊆ before :=
      List.Subset.trans (List.filter_subset_self _) (List.rdropWhile_prefix _ before).subset
    rw [Option.map_none, Option.getD_none, List.append_nil,
      List.dropWhile_eq_nil_iff.mpr (dropped _ inside)]
    rfl
  | some text =>
    have visible : ∀ char ∈ '?' :: text, ' ' < char := visible_query reader kept
    obtain ⟨front, inside, stripped⟩ := strip_append before (List.cons_ne_nil '?' text) visible
    have unread : ('?' :: text).dropWhile (!endsPath ·) = '?' :: text := by simp [endsPath]
    rw [Option.map_some, Option.getD_some, stripped,
      List.dropWhile_append_of_pos (dropped front inside), unread]
    exact (readQuery_of_kept reader kept).1

/-- A target in normal form behind an authority is read as it is.

Nothing is stripped, the authority ends where the target starts, and the path and the query are
read as they are. -/
theorem read_joined (scheme : String) (authority : List Char) (host origin : String)
    (nonempty : authority ≠ [])
    (clear : ∀ char ∈ authority, ' ' < char ∧ endsAuthority char = false)
    (reads : reader.authority scheme authority = .ok (host, origin))
    (kept : reader.TargetKept path query) :
    reader.read scheme (authority ++ joined path query) =
      .ok ⟨host, origin, path, query, none⟩ := by
  have visible : ∀ char ∈ authority ++ joined path query, ' ' < char := by
    intro char member
    rcases List.mem_append.mp member with inAuthority | inTarget
    · exact (clear char inAuthority).1
    · exact visible_joined reader kept char inTarget
  have outside : ∀ char ∈ authority, (!endsAuthority char) = true := by
    intro char member
    simp [(clear char member).2]
  have unslashed : (authority ++ joined path query).dropWhile isSlash =
      authority ++ joined path query := by
    obtain ⟨first, more, rfl⟩ := List.exists_cons_of_ne_nil nonempty
    have ends := (clear first List.mem_cons_self).2
    simp only [endsAuthority, Bool.or_eq_false_iff] at ends
    rw [List.cons_append, List.dropWhile_cons_of_neg (by simp [ends.1])]
  have rooted : (joined path query).takeWhile (!endsAuthority ·) = [] ∧
      (joined path query).dropWhile (!endsAuthority ·) = joined path query := by
    obtain ⟨rest, rfl, _⟩ := kept.path
    simp [joined, endsAuthority, isSlash]
  obtain ⟨pathRead, following⟩ := takeWhile_joined reader kept
  obtain ⟨queryRead, fragmentRead⟩ := readQuery_of_kept reader kept.query
  simp only [Reader.read, strip_of_visible visible, unslashed,
    List.takeWhile_append_of_pos outside, List.dropWhile_append_of_pos outside, rooted.1,
    rooted.2, List.append_nil, reads, pathRead, following, queryRead, fragmentRead,
    readPath_of_kept kept.path]

end

end TraceGate.Whatwg
