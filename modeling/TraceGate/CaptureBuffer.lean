import TraceGate.Core

/-!
# Bounded capture of a body

A capture buffer keeps the first bytes of a body up to a limit, notices when
bytes were left out, and hashes everything it is given. The digest is a
parameter of `snapshot`; the buffer keeps the bytes it would have hashed. What a
buffer holds after any sequence of chunks is a function of their concatenation
alone, apart from whether there was a chunk at all.
-/

namespace TraceGate

structure CaptureBuffer where
  enabled : Bool
  limit : Nat
  body : List UInt8
  truncated : Bool
  sawBody : Bool
  hashed : List UInt8
deriving DecidableEq

structure CaptureSnapshot where
  body : Option (List UInt8)
  truncated : Bool
  sha256 : Option String
deriving DecidableEq

namespace CaptureBuffer

def new (enabled : Bool) (limit : Nat) : CaptureBuffer :=
  ⟨enabled, min limit usizeMax, [], false, false, []⟩

def disabled : CaptureBuffer := new false 0

def record (buffer : CaptureBuffer) (chunk : List UInt8) : CaptureBuffer :=
  if !buffer.enabled then buffer
  else
    let buffer := { buffer with sawBody := true, hashed := buffer.hashed ++ chunk }
    let remaining := buffer.limit - buffer.body.length
    if remaining = 0 then
      if !chunk.isEmpty then { buffer with truncated := true } else buffer
    else
      let copyLen := min remaining chunk.length
      let buffer := { buffer with body := buffer.body ++ chunk.take copyLen }
      if copyLen < chunk.length then { buffer with truncated := true } else buffer

def capturedLen (buffer : CaptureBuffer) : Nat := buffer.body.length

def snapshot (sha256 : List UInt8 → String) (buffer : CaptureBuffer) : CaptureSnapshot :=
  if !buffer.enabled || !buffer.sawBody then ⟨none, false, none⟩
  else ⟨some buffer.body, buffer.truncated, some (sha256 buffer.hashed)⟩

/-- The buffer after a sequence of chunks. -/
def recordAll (buffer : CaptureBuffer) (chunks : List (List UInt8)) : CaptureBuffer :=
  chunks.foldl record buffer

/-- The buffer that has seen a body: the kept bytes are a cut of it, and the mark
says that the cut is proper. -/
def holding (limit : Nat) (sawBody : Bool) (seen : List UInt8) : CaptureBuffer :=
  ⟨true, limit, seen.take limit, decide (limit < seen.length), sawBody, seen⟩

/-- A buffer that is switched off records nothing. -/
@[simp]
theorem record_disabled (buffer : CaptureBuffer) (chunk : List UInt8)
    (off : buffer.enabled = false) : buffer.record chunk = buffer := by
  simp [record, off]

/-- One chunk extends the body seen, also where the limit cuts what is kept of it.

The cases are those of the cut: the chunk fits whole, in part, or not at all. -/
theorem record_holding (limit : Nat) (sawBody : Bool) (seen chunk : List UInt8) :
    (holding limit sawBody seen).record chunk = holding limit true (seen ++ chunk) := by
  by_cases full : limit ≤ seen.length
  · have noneLeft : limit - (seen.take limit).length = 0 := by
      rw [List.length_take]; omega
    have kept : (seen ++ chunk).take limit = seen.take limit :=
      List.take_append_of_le_length full
    cases chunk with
    | nil => simp [record, holding]
    | cons byte rest =>
      have beyond : limit < (seen ++ byte :: rest).length := by
        rw [List.length_append, List.length_cons]; omega
      simp only [record, holding, noneLeft, kept, beyond, Bool.not_true, Bool.false_eq_true,
        if_false, if_true, List.isEmpty_cons, Bool.not_false, decide_true]
  · have whole : seen.take limit = seen := List.take_of_length_le (by omega)
    have room : limit - seen.length ≠ 0 := by omega
    have kept : (seen ++ chunk).take limit =
        seen ++ chunk.take (min (limit - seen.length) chunk.length) := by
      rw [List.take_append, List.take_of_length_le (by omega : seen.length ≤ limit),
        List.take_eq_take_min]
    have within : ¬ limit < seen.length := by omega
    by_cases cut : min (limit - seen.length) chunk.length < chunk.length
    · have beyond : limit < seen.length + chunk.length := by omega
      simp [record, holding, whole, room, kept, cut, beyond]
    · have fits : seen.length + chunk.length ≤ limit := by omega
      simp [record, holding, whole, room, kept, cut, fits, within]

/-- A buffer within its limit, and empty while it is off. -/
structure Bounded (buffer : CaptureBuffer) : Prop where
  within : buffer.capturedLen ≤ buffer.limit
  off : buffer.enabled = false → buffer.capturedLen = 0

/-- A new buffer is within its limit, since it holds nothing. -/
theorem bounded_new (enabled : Bool) (limit : Nat) : (new enabled limit).Bounded :=
  ⟨Nat.zero_le _, fun _ => rfl⟩

/-- Recording changes neither the switch nor the limit. -/
theorem settings_record (buffer : CaptureBuffer) (chunk : List UInt8) :
    (buffer.record chunk).enabled = buffer.enabled ∧
      (buffer.record chunk).limit = buffer.limit := by
  simp only [record]
  repeat' split
  all_goals exact ⟨rfl, rfl⟩

/-- A chunk is added up to the limit, and only to a buffer that is switched on.

What is captured is within the limit before, so nothing more than the room left is taken of the
chunk. -/
theorem Bounded.capturedLen_record {buffer : CaptureBuffer} (bounded : buffer.Bounded)
    (chunk : List UInt8) :
    (buffer.record chunk).capturedLen =
      if buffer.enabled then min buffer.limit (buffer.capturedLen + chunk.length)
      else buffer.capturedLen := by
  have within := bounded.within
  cases on : buffer.enabled with
  | false => simp [record_disabled buffer chunk on]
  | true =>
    simp only [record, on, capturedLen, Bool.not_true, Bool.false_eq_true, if_false, if_true] at *
    split
    · split
      all_goals
        simp only
        omega
    · split
      all_goals
        simp only [List.length_append, List.length_take]
        omega

/-- Recording keeps a buffer within its limit. -/
theorem Bounded.record {buffer : CaptureBuffer} (bounded : buffer.Bounded)
    (chunk : List UInt8) : (buffer.record chunk).Bounded := by
  constructor
  · rw [bounded.capturedLen_record chunk, (settings_record buffer chunk).2]
    have within := bounded.within
    split <;> omega
  · intro off
    rw [(settings_record buffer chunk).1] at off
    rw [record_disabled buffer chunk off]
    exact bounded.off off

/-- A snapshot shows no more than was captured, and nothing of a buffer that saw no body. -/
theorem length_snapshot_le (sha256 : List UInt8 → String) (buffer : CaptureBuffer) :
    ((buffer.snapshot sha256).body.getD []).length ≤ buffer.capturedLen := by
  unfold snapshot
  split
  · exact Nat.zero_le _
  · exact Nat.le_refl _

/-- Chunk by chunk a buffer comes to hold what it would hold of all of them joined: how the body
is cut into chunks does not matter. -/
theorem recordAll_holding (limit : Nat) (sawBody : Bool) (seen : List UInt8)
    (chunks : List (List UInt8)) :
    (holding limit sawBody seen).recordAll chunks =
      holding limit (sawBody || !chunks.isEmpty) (seen ++ chunks.flatten) := by
  induction chunks generalizing sawBody seen with
  | nil => simp [recordAll]
  | cons chunk rest inductionHypothesis =>
    have first := record_holding limit sawBody seen chunk
    simp only [recordAll, List.foldl_cons] at inductionHypothesis ⊢
    rw [first, inductionHypothesis]
    simp

/-- A fresh enabled buffer holds nothing yet, and its limit is at most the largest `usize`. -/
theorem new_enabled (limit : Nat) : new true limit = holding (min limit usizeMax) false [] := by
  simp [new, holding]

/-- What an enabled buffer holds after its chunks is the body they make up, up to the limit. -/
theorem recordAll_new (limit : Nat) (chunks : List (List UInt8)) :
    (new true limit).recordAll chunks =
      holding (min limit usizeMax) (!chunks.isEmpty) chunks.flatten := by
  rw [new_enabled, recordAll_holding]
  simp

/-- A buffer that is switched off records none of the chunks. -/
theorem recordAll_disabled (buffer : CaptureBuffer) (off : buffer.enabled = false)
    (chunks : List (List UInt8)) : buffer.recordAll chunks = buffer := by
  induction chunks with
  | nil => rfl
  | cons chunk rest inductionHypothesis =>
    simpa [recordAll, record_disabled buffer chunk off] using inductionHypothesis

/-- A snapshot shows a body exactly when the buffer is enabled and a chunk was
recorded, and then the body is the cut of everything recorded. -/
theorem snapshot_recordAll (sha256 : List UInt8 → String) (enabled : Bool) (limit : Nat)
    (chunks : List (List UInt8)) :
    ((new enabled limit).recordAll chunks).snapshot sha256 =
      if enabled = true ∧ chunks ≠ [] then
        ⟨some (chunks.flatten.take (min limit usizeMax)),
          decide (min limit usizeMax < chunks.flatten.length), some (sha256 chunks.flatten)⟩
      else ⟨none, false, none⟩ := by
  cases enabled with
  | false =>
    rw [recordAll_disabled (new false limit) rfl]
    simp [snapshot, new]
  | true =>
    rw [recordAll_new]
    cases chunks with
    | nil => simp [snapshot, holding]
    | cons chunk rest => simp [snapshot, holding]

end CaptureBuffer

end TraceGate
