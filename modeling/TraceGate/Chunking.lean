import Mathlib.Data.List.Induction
import TraceGate.CaptureBuffer

/-!
# Captures and the chunks of a body

`CaptureBuffer` keeps the bytes that its hasher was given. The buffer of the code keeps
the hasher itself, which takes each chunk as it comes. Here the hasher is a parameter,
and the one law asked of it is that the digest of chunks hashed one after the other is
the digest of their concatenation. A buffer with a hasher then shows the snapshots of
the buffer that keeps the bytes, and so the chunks matter by their concatenation alone.
-/

namespace TraceGate

/-- The digest of another crate: a state that takes chunks, and the text of what it
gives for the chunks so far. -/
structure Sha256 where
  State : Type
  new : State
  update : State → List UInt8 → State
  finalize : State → String

namespace Sha256

/-- The digest of bytes hashed at once. -/
def digest (sha256 : Sha256) (bytes : List UInt8) : String :=
  sha256.finalize (sha256.update sha256.new bytes)

/-- The state after chunks. -/
def updateAll (sha256 : Sha256) (chunks : List (List UInt8)) : sha256.State :=
  chunks.foldl sha256.update sha256.new

/-- Chunks hashed one after the other give the digest of their concatenation. -/
def Concatenative (sha256 : Sha256) : Prop :=
  ∀ chunks, sha256.finalize (sha256.updateAll chunks) = sha256.digest chunks.flatten

/-- One more chunk is one more update. -/
theorem updateAll_concat (sha256 : Sha256) (chunks : List (List UInt8)) (chunk : List UInt8) :
    sha256.updateAll (chunks ++ [chunk]) = sha256.update (sha256.updateAll chunks) chunk := by
  simp [updateAll]

/-- A digest that shows the bytes by their sum. -/
def checksum : Sha256 where
  State := Nat
  new := 0
  update := fun state chunk => state + (chunk.map UInt8.toNat).sum
  finalize := fun state => toString state

/-- The checksum's state after its chunks is the sum of their bytes. -/
theorem updateAll_checksum (chunks : List (List UInt8)) :
    checksum.updateAll chunks = (chunks.flatten.map UInt8.toNat).sum := by
  induction chunks using List.reverseRecOn with
  | nil => rfl
  | append_singleton chunks chunk inductionHypothesis =>
    rw [updateAll_concat, inductionHypothesis]
    simp [checksum]

/-- The checksum is concatenative: it does not see where one chunk ends and the next begins. -/
theorem concatenative_checksum : checksum.Concatenative := by
  intro chunks
  rw [updateAll_checksum]
  simp [digest, checksum]

end Sha256

/-- `CaptureBuffer` with its hasher. -/
structure HashingBuffer (sha256 : Sha256) where
  enabled : Bool
  limit : Nat
  body : List UInt8
  truncated : Bool
  sawBody : Bool
  hasher : sha256.State

namespace HashingBuffer

variable {sha256 : Sha256}

/-- The limit is a `u64`. -/
def new (sha256 : Sha256) (enabled : Bool) (limit : UInt64) : HashingBuffer sha256 :=
  ⟨enabled, min limit.toNat usizeMax, [], false, false, sha256.new⟩

def record (buffer : HashingBuffer sha256) (chunk : List UInt8) : HashingBuffer sha256 :=
  if !buffer.enabled then buffer
  else
    let buffer :=
      { buffer with sawBody := true, hasher := sha256.update buffer.hasher chunk }
    let remaining := buffer.limit - buffer.body.length
    if remaining = 0 then
      if !chunk.isEmpty then { buffer with truncated := true } else buffer
    else
      let copyLen := min remaining chunk.length
      let buffer := { buffer with body := buffer.body ++ chunk.take copyLen }
      if copyLen < chunk.length then { buffer with truncated := true } else buffer

def snapshot (buffer : HashingBuffer sha256) : CaptureSnapshot :=
  if !buffer.enabled || !buffer.sawBody then ⟨none, false, none⟩
  else ⟨some buffer.body, buffer.truncated, some (sha256.finalize buffer.hasher)⟩

/-- The buffer after a sequence of chunks. -/
def recordAll (buffer : HashingBuffer sha256) (chunks : List (List UInt8)) :
    HashingBuffer sha256 :=
  chunks.foldl record buffer

/-- The buffer that keeps the bytes, in place of a hasher that has taken them. -/
def keeping (buffer : HashingBuffer sha256) (hashed : List UInt8) : CaptureBuffer :=
  ⟨buffer.enabled, buffer.limit, buffer.body, buffer.truncated, buffer.sawBody, hashed⟩

/-- A buffer stands for the one that keeps the bytes when its hasher has taken them, in
whatever chunks. -/
def StandsFor (buffer : HashingBuffer sha256) (kept : CaptureBuffer) : Prop :=
  ∃ chunks, buffer.hasher = sha256.updateAll chunks ∧ kept = buffer.keeping chunks.flatten

/-- A new buffer with a hasher stands for a new buffer that keeps what is hashed. -/
theorem standsFor_new (enabled : Bool) (limit : UInt64) :
    (new sha256 enabled limit).StandsFor (CaptureBuffer.new enabled limit.toNat) :=
  ⟨[], rfl, rfl⟩

/-- Recording a chunk does the same to both, and the hasher takes the chunk that the other
keeps. -/
theorem keeping_record (buffer : HashingBuffer sha256) (hashed chunk : List UInt8)
    (on : buffer.enabled = true) :
    (buffer.keeping hashed).record chunk = (buffer.record chunk).keeping (hashed ++ chunk) ∧
      (buffer.record chunk).hasher = sha256.update buffer.hasher chunk := by
  simp only [CaptureBuffer.record, record, keeping, on, Bool.not_true, Bool.false_eq_true,
    if_false]
  split
  · split <;> exact ⟨rfl, rfl⟩
  · split <;> exact ⟨rfl, rfl⟩

/-- A buffer still stands for the other after both have recorded a chunk.

Switched off they both stay as they are. -/
theorem StandsFor.record {buffer : HashingBuffer sha256} {kept : CaptureBuffer}
    (same : buffer.StandsFor kept) (chunk : List UInt8) :
    (buffer.record chunk).StandsFor (kept.record chunk) := by
  obtain ⟨chunks, taken, rfl⟩ := same
  cases on : buffer.enabled with
  | false =>
    have idle : buffer.record chunk = buffer := by simp [HashingBuffer.record, on]
    have keptIdle := CaptureBuffer.record_disabled (buffer.keeping chunks.flatten) chunk on
    rw [idle, keptIdle]
    exact ⟨chunks, taken, rfl⟩
  | true =>
    obtain ⟨recorded, updated⟩ := buffer.keeping_record chunks.flatten chunk on
    refine ⟨chunks ++ [chunk], ?_, ?_⟩
    · rw [updated, taken, Sha256.updateAll_concat]
    · simpa using recorded

/-- A buffer still stands for the other after both have recorded the same chunks. -/
theorem StandsFor.recordAll {buffer : HashingBuffer sha256} {kept : CaptureBuffer}
    (same : buffer.StandsFor kept) (chunks : List (List UInt8)) :
    (buffer.recordAll chunks).StandsFor (kept.recordAll chunks) := by
  induction chunks generalizing buffer kept with
  | nil => exact same
  | cons chunk rest inductionHypothesis => exact inductionHypothesis (same.record chunk)

/-- Two buffers of which one stands for the other show the same, if the hash is
concatenative. -/
theorem StandsFor.snapshot {buffer : HashingBuffer sha256} {kept : CaptureBuffer}
    (same : buffer.StandsFor kept) (concatenative : sha256.Concatenative) :
    buffer.snapshot = kept.snapshot sha256.digest := by
  obtain ⟨chunks, taken, rfl⟩ := same
  simp only [HashingBuffer.snapshot, taken, concatenative chunks]
  rfl

/-- What a buffer shows after its chunks: the body they make up, cut at the limit, and the
digest of all of it; nothing if it is switched off or saw no chunk. -/
theorem snapshot_recordAll (concatenative : sha256.Concatenative) (enabled : Bool)
    (limit : UInt64) (chunks : List (List UInt8)) :
    ((new sha256 enabled limit).recordAll chunks).snapshot =
      if enabled = true ∧ chunks ≠ [] then
        ⟨some (chunks.flatten.take limit.toNat), decide (limit.toNat < chunks.flatten.length),
          some (sha256.digest chunks.flatten)⟩
      else ⟨none, false, none⟩ := by
  have fits : min limit.toNat usizeMax = limit.toNat := by
    have bound := limit.toNat_lt
    simp only [usizeMax]
    omega
  rw [((standsFor_new enabled limit).recordAll chunks).snapshot concatenative,
    CaptureBuffer.snapshot_recordAll, fits]

end HashingBuffer

/-- An enabled buffer shows the first bytes of the body up to its limit, whether the body
is longer, and the digest of the whole body. It never keeps more bytes than its limit.
How the body was cut into chunks does not show, and a buffer that is off or was given no
chunk shows nothing. -/
theorem capture_of_concatenation (sha256 : Sha256) (concatenative : sha256.Concatenative)
    (limit : UInt64) (chunks : List (List UInt8)) :
    (chunks ≠ [] →
      ((HashingBuffer.new sha256 true limit).recordAll chunks).snapshot =
        { body := some
            (chunks.flatten.take (min limit.toNat chunks.flatten.length))
          truncated := decide (limit.toNat < chunks.flatten.length)
          sha256 := some (sha256.digest chunks.flatten) }) ∧
      ((HashingBuffer.new sha256 true limit).recordAll chunks).body.length ≤ limit.toNat ∧
      (∀ others : List (List UInt8), chunks ≠ [] → others ≠ [] →
        others.flatten = chunks.flatten →
        ((HashingBuffer.new sha256 true limit).recordAll others).snapshot =
          ((HashingBuffer.new sha256 true limit).recordAll chunks).snapshot) ∧
      ((HashingBuffer.new sha256 false limit).recordAll chunks).snapshot = ⟨none, false, none⟩ ∧
      ((HashingBuffer.new sha256 true limit).recordAll []).snapshot = ⟨none, false, none⟩ := by
  have shows := HashingBuffer.snapshot_recordAll concatenative true limit
  refine ⟨?_, ?_, ?_, ?_, ?_⟩
  · intro given
    rw [shows chunks, if_pos ⟨rfl, given⟩, ← List.take_eq_take_min]
  · obtain ⟨_, _, kept⟩ := (HashingBuffer.standsFor_new true limit).recordAll chunks
    rw [CaptureBuffer.recordAll_new] at kept
    have body := congrArg CaptureBuffer.body kept
    simp only [CaptureBuffer.holding, HashingBuffer.keeping] at body
    rw [← body, List.length_take]
    omega
  · intro others given otherGiven same
    rw [shows chunks, shows others, if_pos ⟨rfl, otherGiven⟩, if_pos ⟨rfl, given⟩, same]
  · rw [HashingBuffer.snapshot_recordAll concatenative false limit chunks]
    rfl
  · rw [shows []]
    rfl

/-- Three chunks, one of them empty, are cut at the limit, and the digest is of all four
bytes. -/
theorem capture_of_concatenation_cut :
    ((HashingBuffer.new Sha256.checksum true 3).recordAll [[1, 2], [], [3, 4]]).snapshot =
      ⟨some [1, 2, 3], true, some "10"⟩ :=
  ((capture_of_concatenation Sha256.checksum Sha256.concatenative_checksum 3
    [[1, 2], [], [3, 4]]).1 (by decide)).trans (by decide)

end TraceGate
