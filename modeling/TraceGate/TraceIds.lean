import TraceGate.Forwarding

/-!
# Trace identifiers

The gateway stores the trace identifier of a request's `traceparent`, which it takes
apart by hand. The grammar of W3C trace context has hexadecimal digits in lowercase and
reserves the version `ff`. The code takes digits of either case and any version. So it
takes every text of the grammar, and beside those the texts of the same shape with a
capital digit or the reserved version. The texts that the gateway and the replay make
themselves are of the grammar, because of the version digit that a UUID carries.
-/

namespace TraceGate

/-! ## The grammar -/

def isLowerHex (char : Char) : Bool :=
  ('0' ≤ char && char ≤ '9') || ('a' ≤ char && char ≤ 'f')

def isUpperHex (char : Char) : Bool := 'A' ≤ char && char ≤ 'F'

/-- A text of four fields of such digits, of which the two identifiers are not zero. -/
structure TraceparentFields (isDigit : Char → Bool)
    (value version traceId parentId flags : String) : Prop where
  written : value = Text.join '-' [version, traceId, parentId, flags]
  lengths : version.length = 2 ∧ traceId.length = 32 ∧ parentId.length = 16 ∧ flags.length = 2
  digits : ∀ field ∈ [version, traceId, parentId, flags], field.toList.all isDigit = true
  nonzero : traceId ≠ "00000000000000000000000000000000" ∧ parentId ≠ "0000000000000000"

/-- A W3C traceparent with this trace identifier. -/
def W3cTraceparent (value traceId : String) : Prop :=
  ∃ version parentId flags,
    TraceparentFields isLowerHex value version traceId parentId flags ∧ version ≠ "ff"

/-- A text of the shape of a traceparent that is none, because of a capital digit or of
the reserved version. -/
def LaxTraceparent (value : String) : Prop :=
  ∃ version traceId parentId flags,
    TraceparentFields isAsciiHexdigit value version traceId parentId flags ∧
      (version = "ff" ∨
        ∃ field ∈ [version, traceId, parentId, flags], field.toList.any isUpperHex = true)

/-! ## Digits -/

/-- A digit of the code is a lower or an upper one. -/
theorem isAsciiHexdigit_eq (char : Char) :
    isAsciiHexdigit char = (isLowerHex char || isUpperHex char) := rfl

/-- Digits are single bytes, and none of them is the separator.

Their codes lie in three ranges below 128, none of which holds that of the separator. -/
theorem of_isAsciiHexdigit (char : Char) (digit : isAsciiHexdigit char = true) :
    char.utf8Size = 1 ∧ char ≠ '-' := by
  constructor
  · rw [Char.utf8Size_eq_one_iff]
    simp only [isAsciiHexdigit, Bool.or_eq_true, Bool.and_eq_true, decide_eq_true_eq] at digit
    have top : char ≤ 'f' := by
      rcases digit with (⟨_, most⟩ | ⟨_, most⟩) | ⟨_, most⟩
      · exact le_trans most (by decide)
      · exact most
      · exact le_trans most (by decide)
    have code : char.val ≤ 'f'.val := top
    exact UInt32.le_trans code (by decide)
  · rintro rfl
    exact absurd digit (by decide)

/-- A text of digits has as many bytes as characters. -/
theorem utf8ByteSize_of_digits (field : String) (digits : field.toList.all isAsciiHexdigit = true) :
    field.utf8ByteSize = field.length := by
  have sizes : ∀ chars : List Char, chars.all isAsciiHexdigit = true →
      String.utf8Len chars = chars.length := by
    intro chars digits
    induction chars with
    | nil => rfl
    | cons char rest inductionHypothesis =>
      rw [List.all_cons, Bool.and_eq_true] at digits
      rw [String.utf8Len_cons, inductionHypothesis digits.2, (of_isAsciiHexdigit char digits.1).1,
        List.length_cons]
  rw [← String.ofList_toList (s := field), String.utf8ByteSize_ofList, sizes _ digits,
    String.ofList_toList, String.length_toList]

/-- A text of digits does not hold the separator. -/
theorem not_mem_of_digits (field : String) (digits : field.toList.all isAsciiHexdigit = true) :
    '-' ∉ field.toList := by
  intro member
  exact (of_isAsciiHexdigit '-' (List.all_eq_true.mp digits '-' member)).2 rfl

/-- A text of the shape is split into its four fields, none of which holds the separator. -/
theorem TraceparentFields.split {value version traceId parentId flags : String}
    (fields : TraceparentFields isAsciiHexdigit value version traceId parentId flags) :
    Text.split '-' value = [version, traceId, parentId, flags] := by
  rw [fields.written]
  exact Text.split_join_of_not_mem '-' _
    (fun field listed => not_mem_of_digits field (fields.digits field listed)) (by simp)

/-- The shape with lower digits is the shape with digits of either case. -/
theorem TraceparentFields.lax {value version traceId parentId flags : String}
    (fields : TraceparentFields isLowerHex value version traceId parentId flags) :
    TraceparentFields isAsciiHexdigit value version traceId parentId flags := by
  refine ⟨fields.written, fields.lengths, ?_, fields.nonzero⟩
  intro field listed
  rw [List.all_eq_true]
  intro char member
  rw [isAsciiHexdigit_eq, List.all_eq_true.mp (fields.digits field listed) char member]
  rfl

/-- What the code takes: the shape, with digits of either case and any version.

The split is into four fields, and the checks on them are the shape's. Lengths are compared in
bytes, which for digits are characters. -/
theorem traceIdHexFromTraceparent_iff (value traceId : String) :
    traceIdHexFromTraceparent value = some traceId ↔
      ∃ version parentId flags,
        TraceparentFields isAsciiHexdigit value version traceId parentId flags := by
  constructor
  · intro taken
    unfold traceIdHexFromTraceparent at taken
    split at taken
    next version found parentId flags parts =>
      split at taken
      · exact absurd taken (by simp)
      next passed =>
        obtain rfl := Option.some.inj taken
        simp only [Bool.or_eq_true, decide_eq_true_eq, beq_iff_eq, Bool.not_eq_true', not_or,
          ne_eq, not_not, Bool.not_eq_false] at passed
        obtain ⟨⟨⟨⟨⟨⟨⟨⟨⟨size, traceSize⟩, spanSize⟩, flagSize⟩, traceFilled⟩, spanFilled⟩,
          versionHex⟩, traceHex⟩, spanHex⟩, flagHex⟩ := passed
        refine ⟨version, parentId, flags, ?_, ⟨?_, ?_, ?_, ?_⟩, ?_, traceFilled, spanFilled⟩
        · rw [← parts, Text.join_split]
        · rw [← utf8ByteSize_of_digits version versionHex, size]
        · rw [← utf8ByteSize_of_digits found traceHex, traceSize]
        · rw [← utf8ByteSize_of_digits parentId spanHex, spanSize]
        · rw [← utf8ByteSize_of_digits flags flagHex, flagSize]
        · simp only [List.forall_mem_cons, List.not_mem_nil, false_implies, implies_true, and_true]
          exact ⟨versionHex, traceHex, spanHex, flagHex⟩
    · exact absurd taken (by simp)
  · rintro ⟨version, parentId, flags, fields⟩
    have hex := fields.digits
    simp only [List.forall_mem_cons, List.not_mem_nil, false_implies, implies_true,
      and_true] at hex
    obtain ⟨versionHex, traceHex, spanHex, flagHex⟩ := hex
    obtain ⟨size, traceSize, spanSize, flagSize⟩ := fields.lengths
    obtain ⟨traceFilled, spanFilled⟩ := fields.nonzero
    simp only [traceIdHexFromTraceparent, fields.split, utf8ByteSize_of_digits _ versionHex,
      utf8ByteSize_of_digits _ traceHex, utf8ByteSize_of_digits _ spanHex,
      utf8ByteSize_of_digits _ flagHex, size, traceSize, spanSize, flagSize, versionHex, traceHex,
      spanHex, flagHex]
    simp [traceFilled, spanFilled]

/-- The code and the grammar agree on a text exactly when it is not of the shape with a
capital digit or the reserved version. -/
theorem taken_iff_w3c_iff (value : String) :
    (∀ traceId, traceIdHexFromTraceparent value = some traceId ↔ W3cTraceparent value traceId) ↔
      ¬ LaxTraceparent value := by
  constructor
  · rintro agree ⟨version, traceId, parentId, flags, fields, lax⟩
    have taken := (traceIdHexFromTraceparent_iff value traceId).mpr
      ⟨version, parentId, flags, fields⟩
    obtain ⟨other, otherParent, otherFlags, strict, unreserved⟩ := (agree traceId).mp taken
    have same := fields.split.symm.trans strict.lax.split
    simp only [List.cons.injEq, and_true, true_and] at same
    obtain ⟨rfl, rfl, rfl⟩ := same
    rcases lax with reserved | ⟨field, listed, capital⟩
    · exact unreserved reserved
    · obtain ⟨char, member, upper⟩ := List.any_eq_true.mp capital
      have lower := List.all_eq_true.mp (strict.digits field listed) char member
      simp only [isLowerHex, isUpperHex, Bool.or_eq_true, Bool.and_eq_true,
        decide_eq_true_eq] at lower upper
      rcases lower with ⟨_, most⟩ | ⟨least, _⟩
      · exact absurd (le_trans upper.1 most) (by decide)
      · exact absurd (le_trans least upper.2) (by decide)
  · intro strict traceId
    rw [traceIdHexFromTraceparent_iff]
    constructor
    · rintro ⟨version, parentId, flags, fields⟩
      refine ⟨version, parentId, flags, ⟨fields.written, fields.lengths, ?_, fields.nonzero⟩, ?_⟩
      · intro field listed
        rw [List.all_eq_true]
        intro char member
        have digit := List.all_eq_true.mp (fields.digits field listed) char member
        rw [isAsciiHexdigit_eq, Bool.or_eq_true] at digit
        rcases digit with lower | upper
        · exact lower
        · exact absurd ⟨version, traceId, parentId, flags, fields, Or.inr ⟨field, listed,
            List.any_eq_true.mpr ⟨char, member, upper⟩⟩⟩ strict
      · intro reserved
        exact strict ⟨version, traceId, parentId, flags, fields, Or.inl reserved⟩
    · rintro ⟨version, parentId, flags, fields, _⟩
      exact ⟨version, parentId, flags, fields.lax⟩

/-! ## Texts that TraceGate makes -/

/-- A UUID of version 7: the version digit is the thirteenth of the text. -/
structure UuidV7 where
  bits : BitVec 128
  version : bits.extractLsb' 76 4 = 7#4
  variant : bits.extractLsb' 62 2 = 2#2

/-- `Uuid::simple`: the digits from the first to the last. -/
def UuidV7.simple (uuid : UuidV7) : String :=
  String.ofList ((List.range 32).map fun index =>
    Nat.digitChar ((uuid.bits.toNat >>> (4 * (31 - index))) % 16))

/-- The text made of two UUIDs. -/
def traceparentOf (traceSource spanSource : UuidV7) : String :=
  "00-" ++ traceSource.simple ++ "-" ++ Text.takeChars spanSource.simple 16 ++ "-01"

def generatedTraceparent (traceSource spanSource : UuidV7) : String :=
  traceparentOf traceSource spanSource

def freshTraceparent (traceSource spanSource : UuidV7) : String :=
  traceparentOf traceSource spanSource

/-- The character of a digit below sixteen is a lower digit. -/
theorem isLowerHex_digitChar (value : Nat) (small : value < 16) :
    isLowerHex (Nat.digitChar value) = true := by
  have each : ∀ value < 16, isLowerHex (Nat.digitChar value) = true := by decide
  exact each value small

namespace UuidV7

/-- A UUID is written with 32 digits. -/
theorem length_simple (uuid : UuidV7) : uuid.simple.length = 32 := by
  rw [simple, String.length_ofList, List.length_map, List.length_range]

/-- A UUID is written with lower digits. -/
theorem digits_simple (uuid : UuidV7) : uuid.simple.toList.all isLowerHex = true := by
  rw [simple, String.toList_ofList, List.all_map, List.all_eq_true]
  intro index _
  exact isLowerHex_digitChar _ (Nat.mod_lt _ (by decide))

/-- The thirteenth digit of a UUID of version 7 is the version. -/
theorem versionDigit_simple (uuid : UuidV7) : uuid.simple.toList[12]? = some '7' := by
  have digit := congrArg BitVec.toNat uuid.version
  rw [BitVec.extractLsb'_toNat] at digit
  have value : (uuid.bits.toNat >>> 76) % 16 = 7 := digit
  rw [simple, String.toList_ofList, List.getElem?_map, List.getElem?_range (by decide)]
  simp only [Option.map_some, Nat.reduceSub, Nat.reduceMul, value]
  rfl

end UuidV7

/-- What is made of two UUIDs is a W3C traceparent of the first one.

Neither identifier is zero, since both hold the version digit. -/
theorem w3c_traceparentOf (traceSource spanSource : UuidV7) :
    W3cTraceparent (traceparentOf traceSource spanSource) traceSource.simple := by
  have span : (Text.takeChars spanSource.simple 16).toList = spanSource.simple.toList.take 16 :=
    Text.toList_takeChars _ _
  refine ⟨"00", Text.takeChars spanSource.simple 16, "01", ⟨?_, ⟨rfl, traceSource.length_simple,
    ?_, rfl⟩, ?_, ?_, ?_⟩, by decide⟩
  · rw [← String.toList_inj]
    simp [traceparentOf, Text.join, List.intercalate]
  · rw [← String.length_toList, span, List.length_take, String.length_toList,
      spanSource.length_simple]
    rfl
  · simp only [List.forall_mem_cons, List.not_mem_nil, false_implies, implies_true, and_true]
    refine ⟨by decide, traceSource.digits_simple, ?_, by decide⟩
    rw [span, List.all_eq_true]
    intro char member
    exact List.all_eq_true.mp spanSource.digits_simple char (List.mem_of_mem_take member)
  · intro zero
    have digit := traceSource.versionDigit_simple
    rw [zero] at digit
    exact absurd digit (by decide)
  · intro zero
    have digit := spanSource.versionDigit_simple
    have kept : (Text.takeChars spanSource.simple 16).toList[12]? = some '7' := by
      rw [span, List.getElem?_take_of_lt (by decide), digit]
    rw [zero] at kept
    exact absurd kept (by decide)

/-- A text is taken for its trace identifier exactly when W3C trace context allows it, and
what the gateway and the replay make of UUIDs is taken for its own. -/
def TakesW3cOnly (value : String) (traceSource spanSource : UuidV7) : Prop :=
  (∀ traceId, traceIdHexFromTraceparent value = some traceId ↔ W3cTraceparent value traceId) ∧
    traceIdHexFromTraceparent (generatedTraceparent traceSource spanSource) =
      some traceSource.simple ∧
    traceIdHexFromTraceparent (freshTraceparent traceSource spanSource) = some traceSource.simple

/-- Stored trace identifiers come from W3C trace context alone, but for the texts of its
shape with a capital digit or the reserved version. -/
theorem takesW3cOnly_iff_not_lax (value : String) (traceSource spanSource : UuidV7) :
    TakesW3cOnly value traceSource spanSource ↔ ¬ LaxTraceparent value := by
  obtain ⟨version, parentId, flags, fields, _⟩ := w3c_traceparentOf traceSource spanSource
  have own := (traceIdHexFromTraceparent_iff _ _).mpr ⟨version, parentId, flags, fields.lax⟩
  rw [← taken_iff_w3c_iff]
  exact ⟨fun takes => takes.1, fun agree => ⟨agree, own, own⟩⟩

/-- A text with a capital digit is taken, and it is no W3C traceparent. -/
theorem capital_traceparent_taken :
    traceIdHexFromTraceparent "00-4BF92F3577B34DA6A3CE929D0E0E4736-00f067aa0ba902b7-01" =
        some "4BF92F3577B34DA6A3CE929D0E0E4736" ∧
      ¬ W3cTraceparent "00-4BF92F3577B34DA6A3CE929D0E0E4736-00f067aa0ba902b7-01"
        "4BF92F3577B34DA6A3CE929D0E0E4736" := by
  refine ⟨by decide +kernel, ?_⟩
  rintro ⟨version, parentId, flags, fields, _⟩
  exact absurd (fields.digits _ (List.mem_cons_of_mem _ List.mem_cons_self)) (by decide +kernel)

end TraceGate
