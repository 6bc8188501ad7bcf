import TraceGate.Finalizer
import TraceGate.Store

/-!
# Header lines under a composite key

The two header tables have the whole row as their primary key, so two lines of
one map that are recorded as the same pair of texts cannot both be inserted, and
the transaction that tries is rolled back with everything it carried. Two values
are recorded as the same text in three ways: they are the same text, they are two
long texts with the same beginning, or they are not text and share the
placeholder (which a text may also spell out).
-/

namespace TraceGate

/-- The values are recorded as the same text. -/
def CollidingValues (left right : HeaderValue) : Prop :=
  match left.toStr, right.toStr with
  | some first, some second =>
      first = second ∨ (maxHeaderValueChars < first.length ∧ maxHeaderValueChars < second.length ∧
        first.toList.take maxHeaderValueChars = second.toList.take maxHeaderValueChars)
  | some text, none => text = "<non-utf8>"
  | none, some text => text = "<non-utf8>"
  | none, none => True

/-- Both lines are kept, under one name, and their values collide. -/
def CollidingLines (redaction : RedactionConfig) (left right : String × HeaderValue) : Prop :=
  Text.toAsciiLowercase left.1 = Text.toAsciiLowercase right.1 ∧
    redaction.isSensitiveHeader (Text.toAsciiLowercase left.1) = false ∧
    CollidingValues left.2 right.2

/-- No two lines of the map collide. -/
def DistinctLines (redaction : RedactionConfig) (headers : HeaderMap) : Prop :=
  headers.Pairwise fun left right => ¬ CollidingLines redaction left right

instance (left right : HeaderValue) : Decidable (CollidingValues left right) := by
  unfold CollidingValues
  split <;> infer_instance

instance (redaction : RedactionConfig) (left right : String × HeaderValue) :
    Decidable (CollidingLines redaction left right) := by
  unfold CollidingLines
  infer_instance

instance (redaction : RedactionConfig) (headers : HeaderMap) :
    Decidable (DistinctLines redaction headers) := by
  unfold DistinctLines
  infer_instance

/-- A long value is still too long after it was cut, because of the mark that is put behind
it. -/
theorem length_truncateHeaderValue_of_long (value : String)
    (long : maxHeaderValueChars < value.length) :
    maxHeaderValueChars < (truncateHeaderValue value).length := by
  have cut : ¬ value.length ≤ maxHeaderValueChars := Nat.not_le_of_lt long
  have taken : (Text.takeChars value maxHeaderValueChars).length = maxHeaderValueChars := by
    rw [← String.length_toList, Text.toList_takeChars, List.length_take, String.length_toList]
    omega
  have mark : "...[truncated]".length = 14 := by decide
  rw [truncateHeaderValue, if_neg cut, String.length_append, taken, mark]
  omega

/-- Cutting two texts gives one text exactly when they are the same, or both are
long and begin alike: a cut text is longer than any that is kept whole. -/
theorem truncateHeaderValue_eq_iff (first second : String) :
    truncateHeaderValue first = truncateHeaderValue second ↔
      first = second ∨ (maxHeaderValueChars < first.length ∧ maxHeaderValueChars < second.length ∧
        first.toList.take maxHeaderValueChars = second.toList.take maxHeaderValueChars) := by
  by_cases short : first.length ≤ maxHeaderValueChars <;>
    by_cases shortToo : second.length ≤ maxHeaderValueChars
  · have neither : ¬ maxHeaderValueChars < first.length := Nat.not_lt_of_le short
    simp [truncateHeaderValue, short, shortToo, neither]
  · have long := length_truncateHeaderValue_of_long second (Nat.lt_of_not_le shortToo)
    have kept : truncateHeaderValue first = first := if_pos short
    have apart : first ≠ truncateHeaderValue second := by
      intro same
      rw [← same] at long
      omega
    have different : first ≠ second := by
      rintro rfl
      exact shortToo short
    simp [kept, apart, different, Nat.not_lt_of_le short]
  · have long := length_truncateHeaderValue_of_long first (Nat.lt_of_not_le short)
    have kept : truncateHeaderValue second = second := if_pos shortToo
    have apart : truncateHeaderValue first ≠ second := by
      intro same
      rw [same] at long
      omega
    have different : first ≠ second := by
      rintro rfl
      exact short shortToo
    simp [kept, apart, different, Nat.not_lt_of_le shortToo]
  · have long := Nat.lt_of_not_le short
    have longToo := Nat.lt_of_not_le shortToo
    simp only [truncateHeaderValue, short, shortToo, if_false, long, longToo, true_and]
    rw [← String.toList_inj, String.toList_append, String.toList_append,
      List.append_cancel_right_eq, Text.toList_takeChars, Text.toList_takeChars]
    constructor
    · exact Or.inr
    · rintro (rfl | same)
      · rfl
      · exact same

/-- The placeholder is short enough to be recorded as itself, and nothing longer is recorded as
it. -/
theorem truncateHeaderValue_eq_placeholder_iff (value : String) :
    truncateHeaderValue value = "<non-utf8>" ↔ value = "<non-utf8>" := by
  have short : ¬ maxHeaderValueChars < "<non-utf8>".length := by decide
  have whole : truncateHeaderValue "<non-utf8>" = "<non-utf8>" := by decide
  have compared := truncateHeaderValue_eq_iff value "<non-utf8>"
  rw [whole] at compared
  simpa [short] using compared

/-- Two values are recorded as one exactly if they collide: neither is text, or their texts are
cut to the same one. -/
theorem recordedValue_eq_iff (left right : HeaderValue) :
    recordedValue left = recordedValue right ↔ CollidingValues left right := by
  cases first : left.toStr with
  | none =>
    cases second : right.toStr with
    | none => simp [recordedValue, CollidingValues, first, second]
    | some text =>
      simpa [recordedValue, CollidingValues, first, second, eq_comm] using
        truncateHeaderValue_eq_placeholder_iff text
  | some text =>
    cases second : right.toStr with
    | none =>
      simpa [recordedValue, CollidingValues, first, second] using
        truncateHeaderValue_eq_placeholder_iff text
    | some other =>
      simpa [recordedValue, CollidingValues, first, second] using
        truncateHeaderValue_eq_iff text other

/-- Two lines are stored as different pairs exactly when they do not collide; a sensitive one is
not stored and collides with none. -/
theorem storedLine_apart_iff (redaction : RedactionConfig) (left right : String × HeaderValue) :
    (∀ first, storedLine redaction left = some first →
      ∀ second, storedLine redaction right = some second → first ≠ second) ↔
        ¬ CollidingLines redaction left right := by
  simp only [storedLine_eq_some_iff]
  constructor
  · rintro apart ⟨sameName, insensitive, collide⟩
    refine apart _ ⟨insensitive, rfl⟩ _ ⟨sameName ▸ insensitive, rfl⟩ ?_
    rw [sameName, (recordedValue_eq_iff _ _).mpr collide]
  · rintro distinct _ ⟨insensitive, rfl⟩ _ ⟨_, rfl⟩ same
    obtain ⟨sameName, sameValue⟩ := StoredHeader.mk.inj same
    exact distinct ⟨sameName, insensitive, (recordedValue_eq_iff _ _).mp sameValue⟩

/-- What is stored of a map is without repetition exactly when no lines collide. -/
theorem storedHeaders_nodup_iff (headers : HeaderMap) (redaction : RedactionConfig) :
    (storedHeaders headers redaction).Nodup ↔ DistinctLines redaction headers := by
  rw [(storedHeaders_perm headers redaction).nodup_iff, List.Nodup, List.pairwise_filterMap,
    DistinctLines]
  exact List.Pairwise.iff fun left right => storedLine_apart_iff redaction left right

/-- The call that persists a handled request, from its two header maps and the
records of its policy evaluation. -/
def persistEvent (record : RequestInsert) (requestHeaders responseHeaders : HeaderMap)
    (requestRedaction responseRedaction : RedactionConfig) (capture : Option CaptureInsert)
    (records : List Policy.PolicyDecisionRecord) (nowMs : Nat → Int) : StoreEvent :=
  .insertRequest record (storedHeaders requestHeaders requestRedaction)
    (storedHeaders responseHeaders responseRedaction) capture
    (pluginDecisionInserts record.requestId records nowMs)

/-- The call commits and leaves the request's row. -/
def Persists (sql : SqlExternals) (store : Store) (event : StoreEvent) (row : RequestSummary) :
    Prop :=
  ∃ next, store.perform sql event = .ok next ∧ row ∈ next.val.requests

/-- A handled request is persisted in every store exactly when neither of its
header maps has colliding lines. -/
theorem persists_iff_distinctLines (sql : SqlExternals) (store : Store) (record : RequestInsert)
    (requestHeaders responseHeaders : HeaderMap)
    (requestRedaction responseRedaction : RedactionConfig) (capture : Option CaptureInsert)
    (records : List Policy.PolicyDecisionRecord) (nowMs : Nat → Int) :
    Persists sql store (persistEvent record requestHeaders responseHeaders requestRedaction
        responseRedaction capture records nowMs) record.row ↔
      DistinctLines requestRedaction requestHeaders ∧
        DistinctLines responseRedaction responseHeaders := by
  have own : ∀ decision ∈ pluginDecisionInserts record.requestId records nowMs,
      decision.requestId ∈
        (store.val.without record.requestId).requestIds ++ [record.requestId] := by
    intro decision member
    rw [requestId_pluginDecisionInserts record.requestId records nowMs decision member]
    exact List.mem_append_right _ (List.mem_singleton.mpr rfl)
  have commits := Database.insertRequest_ok_iff sql store.property record
    (storedHeaders requestHeaders requestRedaction)
    (storedHeaders responseHeaders responseRedaction) capture
    (pluginDecisionInserts record.requestId records nowMs)
  rw [← storedHeaders_nodup_iff, ← storedHeaders_nodup_iff]
  constructor
  · rintro ⟨next, performed, _⟩
    obtain ⟨distinct, distinctToo, _, _⟩ :=
      (commits next.val).mp ((Store.perform_ok_iff sql store next _).mp performed)
    exact ⟨distinct, distinctToo⟩
  · rintro ⟨distinct, distinctToo⟩
    have committed := (commits _).mpr ⟨distinct, distinctToo, own, rfl⟩
    have valid := store.property.perform sql (persistEvent record requestHeaders
      responseHeaders requestRedaction responseRedaction capture records nowMs) committed
    refine ⟨⟨_, valid⟩, (Store.perform_ok_iff sql store _ _).mpr committed, ?_⟩
    exact List.mem_append_right _ (List.mem_singleton.mpr rfl)

/-- A client that sends the same line twice. -/
def repeatedLine : StoreEvent :=
  persistEvent sampleRecord [("accept", .ofAscii "*/*"), ("accept", .ofAscii "*/*")] [] ⟨[], []⟩
    ⟨[], []⟩ none [] fun _ => 0

/-- Its second line violates the key, and the request is not recorded. -/
theorem repeatedLine_not_persisted :
    ¬ Persists plainSql .empty repeatedLine sampleRecord.row := by
  rintro ⟨next, performed, _⟩
  have refused : Store.empty.val.perform plainSql repeatedLine =
      .error ⟨.requestHeaders, .unique⟩ := rfl
  rw [Store.perform_ok_iff, refused] at performed
  cases performed

end TraceGate
