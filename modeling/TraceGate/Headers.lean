import Mathlib.Data.List.Sort
import Mathlib.Data.String.Basic
import TraceGate.Core

/-!
# Header maps and what is stored of them

A header map is the list of its lines in iteration order: a name may repeat, and
so may a whole line. Values are bytes; text is read from a value only when all
its bytes are visible ASCII. The parsers of the HTTP crate that turn text back
into names and values are a parameter, `HttpCrate`.

`storedHeaders` sorts what it keeps by name and value. The kept pairs are those
of the insensitive lines, so the sorted list is a permutation of the image of
those lines; that is all the laws about storage need.
-/

namespace TraceGate

structure HeaderValue where
  bytes : List UInt8
deriving DecidableEq

/-- The lines of a map. Names are the lowercase names the HTTP crate keeps. -/
abbrev HeaderMap := List (String × HeaderValue)

/-- The HTTP crate's parsers: a text is a header name (then normalized) or a
header value, or it is refused with the crate's error text. -/
structure HttpCrate where
  headerNameFromBytes : String → Except String String
  headerValueFromStr : String → Except String HeaderValue

namespace HeaderValue

def isVisibleAscii (byte : UInt8) : Bool :=
  (32 ≤ byte && byte < 127) || byte == 9

/-- `HeaderValue::to_str`: text when every byte is visible ASCII or a tab. -/
def toStr (value : HeaderValue) : Option String :=
  if value.bytes.all isVisibleAscii then
    some (String.ofList (value.bytes.map fun byte => Char.ofNat byte.toNat))
  else none

/-- The value with the bytes of an ASCII text. -/
def ofAscii (text : String) : HeaderValue :=
  ⟨text.toList.map fun char => UInt8.ofNat char.toNat⟩

end HeaderValue

namespace HeaderMap

/-- `HeaderMap::get`: the first value under a name. -/
def get (headers : HeaderMap) (name : String) : Option HeaderValue :=
  (headers.find? (fun line => line.1 == name)).map Prod.snd

/-- `HeaderMap::contains_key`. -/
def containsKey (headers : HeaderMap) (name : String) : Bool :=
  headers.any (fun line => line.1 == name)

/-- `HeaderMap::remove`: every line under the name goes. -/
def remove (headers : HeaderMap) (name : String) : HeaderMap :=
  headers.filter (fun line => line.1 != name)

/-- `HeaderMap::insert`: one line replaces every line under the name. -/
def insert (headers : HeaderMap) (name : String) (value : HeaderValue) : HeaderMap :=
  remove headers name ++ [(name, value)]

/-- `HeaderMap::get_all`: the values under a name, in order. -/
def getAll (headers : HeaderMap) (name : String) : List HeaderValue :=
  (headers.filter (fun line => line.1 == name)).map Prod.snd

/-- Equality of header maps, which ignores the order of different names. -/
def Same (left right : HeaderMap) : Prop := ∀ name, getAll left name = getAll right name

/-- Removing a name takes its values away and leaves those of the others.

No line has the name and another one at once. -/
theorem getAll_remove (headers : HeaderMap) (name other : String) :
    getAll (remove headers name) other = if other = name then [] else getAll headers other := by
  unfold getAll remove
  rw [List.filter_filter]
  split
  next same =>
    subst same
    have nothing : headers.filter (fun line => line.1 == other && line.1 != other) = [] := by
      simp
    rw [nothing, List.map_nil]
  next apart =>
    congr 1
    refine List.filter_congr fun line _ => ?_
    by_cases own : line.1 = other
    · simp [own, apart]
    · simp [own]

/-- Inserting a name leaves it with the one value, and the others with theirs. -/
theorem getAll_insert (headers : HeaderMap) (name other : String) (value : HeaderValue) :
    getAll (insert headers name value) other =
      if other = name then [value] else getAll headers other := by
  have kept := getAll_remove headers name other
  unfold getAll insert at *
  rw [List.filter_append, List.map_append, kept]
  by_cases same : other = name
  · simp [same]
  · have apart : name ≠ other := fun equal => same equal.symm
    simp [same, apart]

/-- A name is in the map exactly if a line has it. -/
theorem containsKey_iff (headers : HeaderMap) (name : String) :
    containsKey headers name = true ↔ ∃ line ∈ headers, line.1 = name := by
  simp only [containsKey, List.any_eq_true, beq_iff_eq]

/-- After a removal the other names are there that were. -/
theorem containsKey_remove (headers : HeaderMap) (name other : String) :
    containsKey (remove headers name) other = true ↔
      other ≠ name ∧ containsKey headers other = true := by
  simp only [containsKey_iff, remove, List.mem_filter, bne_iff_ne]
  constructor
  · rintro ⟨line, ⟨listed, apart⟩, rfl⟩
    exact ⟨apart, line, listed, rfl⟩
  · rintro ⟨apart, line, listed, rfl⟩
    exact ⟨line, ⟨listed, apart⟩, rfl⟩

/-- After an insertion the name is there, and the others that were. -/
theorem containsKey_insert (headers : HeaderMap) (name other : String) (value : HeaderValue) :
    containsKey (insert headers name value) other = true ↔
      other = name ∨ containsKey headers other = true := by
  have kept := containsKey_remove headers name other
  by_cases same : other = name
  · subst same
    simp [containsKey, insert]
  · have apart : name ≠ other := fun equal => same equal.symm
    simp only [containsKey, insert, List.any_append, List.any_cons, List.any_nil] at kept ⊢
    simp [kept, same, apart]

/-- A name has no values exactly when it has no lines. -/
theorem getAll_eq_nil_iff (headers : HeaderMap) (name : String) :
    getAll headers name = [] ↔ containsKey headers name = false := by
  rw [getAll, List.map_eq_nil_iff, List.filter_eq_nil_iff, containsKey, List.any_eq_false]

/-- There is a first value exactly if the name is in the map. -/
theorem isSome_get (headers : HeaderMap) (name : String) :
    (get headers name).isSome = containsKey headers name := by
  rw [get, Option.isSome_map, Bool.eq_iff_iff, List.find?_isSome, containsKey, List.any_eq_true]

/-- Removing several names leaves the others that were there. -/
theorem containsKey_foldl_remove (names : List String) (headers : HeaderMap) (name : String) :
    containsKey (names.foldl remove headers) name = true ↔
      name ∉ names ∧ containsKey headers name = true := by
  induction names generalizing headers with
  | nil => simp
  | cons first rest inductionHypothesis =>
    rw [List.foldl_cons, inductionHypothesis, containsKey_remove, List.mem_cons, not_or, and_assoc,
      and_left_comm]

/-- Removing other names leaves the values of a name. -/
theorem getAll_foldl_remove (names : List String) (headers : HeaderMap) (name : String)
    (apart : name ∉ names) :
    getAll (names.foldl remove headers) name = getAll headers name := by
  induction names generalizing headers with
  | nil => rfl
  | cons first rest inductionHypothesis =>
    rw [List.mem_cons, not_or] at apart
    rw [List.foldl_cons, inductionHypothesis _ apart.2, getAll_remove, if_neg apart.1]

/-- Inserting several lines adds their names. -/
theorem containsKey_foldl_insert (lines : List (String × HeaderValue)) (headers : HeaderMap)
    (name : String) :
    containsKey (lines.foldl (fun headers line => insert headers line.1 line.2) headers) name =
        true ↔
      (∃ line ∈ lines, line.1 = name) ∨ containsKey headers name = true := by
  induction lines generalizing headers with
  | nil => simp
  | cons line rest inductionHypothesis =>
    rw [List.foldl_cons, inductionHypothesis, containsKey_insert, List.exists_mem_cons_iff,
      eq_comm, or_left_comm, or_assoc]

/-- Inserting lines of other names leaves the values of a name. -/
theorem getAll_foldl_insert (lines : List (String × HeaderValue)) (headers : HeaderMap)
    (name : String) (apart : ∀ line ∈ lines, line.1 ≠ name) :
    getAll (lines.foldl (fun headers line => insert headers line.1 line.2) headers) name =
      getAll headers name := by
  induction lines generalizing headers with
  | nil => rfl
  | cons line rest inductionHypothesis =>
    obtain ⟨here, later⟩ := List.forall_mem_cons.mp apart
    rw [List.foldl_cons, inductionHypothesis _ later, getAll_insert, if_neg (Ne.symm here)]

end HeaderMap

structure StoredHeader where
  name : String
  value : String
deriving DecidableEq

structure PolicyHeader where
  name : String
  value : String
deriving DecidableEq

structure HeaderMutation where
  name : String
  value : String
deriving DecidableEq

def maxHeaderValueChars : Nat := 4096

def truncateHeaderValue (value : String) : String :=
  if value.length ≤ maxHeaderValueChars then value
  else Text.takeChars value maxHeaderValueChars ++ "...[truncated]"

/-- The text recorded for a value: its own text, cut at 4096 characters with a
mark, or the placeholder when it is not text. -/
def recordedValue (value : HeaderValue) : String :=
  match value.toStr with
  | some text => truncateHeaderValue text
  | none => "<non-utf8>"

/-- One line as `stored_headers` keeps it, when it keeps it. -/
def storedLine (redaction : RedactionConfig) (line : String × HeaderValue) :
    Option StoredHeader :=
  let name := Text.toAsciiLowercase line.1
  if redaction.isSensitiveHeader name then none
  else some ⟨name, recordedValue line.2⟩

/-- The order of `stored_headers`: by name, then by value. -/
def storedHeaderLe (left right : StoredHeader) : Prop :=
  left.name < right.name ∨ (left.name = right.name ∧ left.value ≤ right.value)

instance : DecidableRel storedHeaderLe := fun left right =>
  inferInstanceAs (Decidable (left.name < right.name ∨
    (left.name = right.name ∧ left.value ≤ right.value)))

def storedHeaders (headers : HeaderMap) (redaction : RedactionConfig) : List StoredHeader :=
  (headers.filterMap (storedLine redaction)).insertionSort storedHeaderLe

def policyHeaders (headers : HeaderMap) : List PolicyHeader :=
  headers.map fun line => ⟨Text.toAsciiLowercase line.1, recordedValue line.2⟩

/-- All removals come before all insertions; texts that no longer parse are
skipped. -/
def applyPolicyMutations (http : HttpCrate) (headers : HeaderMap)
    (setHeaders : List HeaderMutation) (removeHeaders : List String) : HeaderMap :=
  let removed := removeHeaders.foldl (fun headers name =>
    match http.headerNameFromBytes name with
    | .ok name => HeaderMap.remove headers name
    | .error _ => headers) headers
  setHeaders.foldl (fun headers mutation =>
    match http.headerNameFromBytes mutation.name with
    | .error _ => headers
    | .ok name =>
      match http.headerValueFromStr mutation.value with
      | .error _ => headers
      | .ok value => HeaderMap.insert headers name value) removed

def contentType (headers : HeaderMap) : Option String :=
  let text := ((HeaderMap.get headers "content-type").bind HeaderValue.toStr).map Text.trim
  (text.filter (fun value => !value.isEmpty)).map (Text.takeChars · 255)

def isCapturableContentType (value : String) : Bool :=
  let mediaType := Text.toAsciiLowercase (Text.trim ((Text.split ';' value).head?.getD value))
  Text.startsWith mediaType "text/" ||
    mediaType == "application/json" || mediaType == "application/xml" ||
    mediaType == "application/x-www-form-urlencoded" || mediaType == "application/graphql" ||
    mediaType == "application/problem+json" ||
    Text.endsWith mediaType "+json" || Text.endsWith mediaType "+xml"

/-- A request without side effects whose headers announce no body. -/
def retryEligible (method : String) (headers : HeaderMap) : Bool :=
  (method == "GET" || method == "HEAD" || method == "OPTIONS") &&
    ((HeaderMap.get headers "content-length").map
      (fun value => value == HeaderValue.ofAscii "0")).getD true &&
    !HeaderMap.containsKey headers "transfer-encoding"

def redactedQuery (query : Option String) (redaction : RedactionConfig) : Option String :=
  query.bind fun query =>
    let kept := (Text.split '&' query).filter fun part =>
      let key := ((Text.splitOnce '=' part).map Prod.fst).getD part
      !redaction.isSensitiveQueryParam key
    if kept.isEmpty then none else some (Text.join '&' kept)

def redactedPathAndQuery (path : String) (query : Option String)
    (redaction : RedactionConfig) : String :=
  match redactedQuery query redaction with
  | some query => path ++ "?" ++ query
  | none => path

/-- Sorting only reorders what is kept. -/
theorem storedHeaders_perm (headers : HeaderMap) (redaction : RedactionConfig) :
    (storedHeaders headers redaction).Perm (headers.filterMap (storedLine redaction)) :=
  List.perm_insertionSort _ _

/-- The stored pairs are exactly those of the insensitive lines. -/
theorem mem_storedHeaders (headers : HeaderMap) (redaction : RedactionConfig)
    (stored : StoredHeader) :
    stored ∈ storedHeaders headers redaction ↔
      ∃ line ∈ headers, storedLine redaction line = some stored := by
  rw [(storedHeaders_perm headers redaction).mem_iff, List.mem_filterMap]

/-- A line is kept exactly when its name is not sensitive, in lower case and with its value
cut. -/
theorem storedLine_eq_some_iff (redaction : RedactionConfig) (line : String × HeaderValue)
    (stored : StoredHeader) :
    storedLine redaction line = some stored ↔
      redaction.isSensitiveHeader (Text.toAsciiLowercase line.1) = false ∧
        stored = ⟨Text.toAsciiLowercase line.1, recordedValue line.2⟩ := by
  cases sensitive : redaction.isSensitiveHeader (Text.toAsciiLowercase line.1) with
  | true => simp [storedLine, sensitive]
  | false => simp [storedLine, sensitive, eq_comm]

/-- Two redactions store the same of a header map exactly when they agree on the
sensitivity of every name in it. -/
theorem storedHeaders_eq_iff (headers : HeaderMap) (left right : RedactionConfig) :
    storedHeaders headers left = storedHeaders headers right ↔
      ∀ line ∈ headers, left.isSensitiveHeader (Text.toAsciiLowercase line.1) =
        right.isSensitiveHeader (Text.toAsciiLowercase line.1) := by
  constructor
  · intro same line member
    have kept : ∀ first second : RedactionConfig,
        storedHeaders headers first = storedHeaders headers second →
        first.isSensitiveHeader (Text.toAsciiLowercase line.1) = false →
        second.isSensitiveHeader (Text.toAsciiLowercase line.1) = false := by
      intro first second equal insensitive
      have stored := (mem_storedHeaders headers first _).mpr
        ⟨line, member, (storedLine_eq_some_iff first line _).mpr ⟨insensitive, rfl⟩⟩
      rw [equal, mem_storedHeaders] at stored
      obtain ⟨other, _, keptOther⟩ := stored
      obtain ⟨insensitiveOther, pair⟩ := (storedLine_eq_some_iff second other _).mp keptOther
      rw [(StoredHeader.mk.inj pair).1]
      exact insensitiveOther
    rw [Bool.eq_iff_iff, ← not_iff_not, Bool.not_eq_true, Bool.not_eq_true]
    exact ⟨kept left right same, kept right left same.symm⟩
  · intro agree
    have lines : headers.filterMap (storedLine left) = headers.filterMap (storedLine right) := by
      refine List.filterMap_congr fun line member => ?_
      simp only [storedLine, agree line member]
    rw [storedHeaders, storedHeaders, lines]

/-- No sensitive name is stored. -/
theorem insensitive_of_mem_storedHeaders (headers : HeaderMap) (redaction : RedactionConfig)
    (stored : StoredHeader) (member : stored ∈ storedHeaders headers redaction) :
    redaction.isSensitiveHeader stored.name = false := by
  obtain ⟨line, _, kept⟩ := (mem_storedHeaders headers redaction stored).mp member
  obtain ⟨insensitive, rfl⟩ := (storedLine_eq_some_iff redaction line stored).mp kept
  exact insensitive

end TraceGate
