import TraceGate.CaptureBuffer
import TraceGate.Policy
import TraceGate.Storage

/-!
# Response bodies that record their request

Every response the gateway returns carries a finalizer in its body. The first
end, error or drop of the body takes a snapshot of the request's capture and of
the response's own, and hands one write to the capture writer. Later ends, errors
and drops find the finalizer spent. The buffer of the request is shared with the
body sent upstream, so it is passed in where a snapshot of it is taken.
-/

namespace TraceGate

/-- A frame of a streamed body. -/
inductive Frame where
  | data (bytes : List UInt8)
  | trailers (headers : HeaderMap)
deriving DecidableEq

/-- `Frame::data_ref`. -/
def Frame.dataRef : Frame → Option (List UInt8)
  | .data bytes => some bytes
  | .trailers _ => none

/-- The data chunks of a body, in order. -/
def dataChunks (frames : List Frame) : List (List UInt8) := frames.filterMap Frame.dataRef

/-- The bytes of a body. -/
def dataBytes (frames : List Frame) : List UInt8 := (dataChunks frames).flatten

structure CaptureWrite where
  record : RequestInsert
  requestHeaders : List StoredHeader
  responseHeaders : List StoredHeader
  capture : Option CaptureInsert
  pluginDecisions : List PluginDecisionInsert
deriving DecidableEq

/-- What an exit of the handler hands over. The permit is there or not; the
request's buffer is shown as it is at that moment. -/
structure StorageFinalizerInput where
  record : RequestInsert
  requestHeaders : List StoredHeader
  requestCapture : CaptureBuffer
  shouldCapture : Bool
  requestContentType : Option String
  responseCaptureEnabled : Bool
  responseCaptureLimit : Nat
  pluginDecisions : List PluginDecisionInsert
  permit : Bool
deriving DecidableEq

structure CaptureFinalizer where
  record : Option RequestInsert
  requestHeaders : Option (List StoredHeader)
  responseHeaders : Option (List StoredHeader)
  shouldCapture : Bool
  requestContentType : Option String
  responseContentType : Option String
  pluginDecisions : Option (List PluginDecisionInsert)
  finalized : Bool
  permit : Bool
deriving DecidableEq

/-- The capture of an exchange from its two snapshots. -/
def CaptureFinalizer.captureInsert (finalizer : CaptureFinalizer)
    (requestSnapshot responseSnapshot : CaptureSnapshot) : CaptureInsert :=
  { requestContentType := finalizer.requestContentType
    responseContentType := finalizer.responseContentType
    requestBody := requestSnapshot.body
    responseBody := responseSnapshot.body
    requestBodyTruncated := requestSnapshot.truncated
    responseBodyTruncated := responseSnapshot.truncated
    requestBodySha256 := requestSnapshot.sha256
    responseBodySha256 := responseSnapshot.sha256 }

/-- `CaptureFinalizer::finalize`: the spent finalizer, and the write it enqueues. -/
def CaptureFinalizer.finalize (sha256 : List UInt8 → String) (finalizer : CaptureFinalizer)
    (requestCapture responseCapture : CaptureBuffer) : CaptureFinalizer × Option CaptureWrite :=
  if finalizer.finalized then (finalizer, none)
  else
    let finalizer := { finalizer with finalized := true }
    match finalizer.record with
    | none => (finalizer, none)
    | some record =>
        let capture := if finalizer.shouldCapture then
            some (finalizer.captureInsert (requestCapture.snapshot sha256)
              (responseCapture.snapshot sha256))
          else none
        let write :=
          { record := record
            requestHeaders := finalizer.requestHeaders.getD []
            responseHeaders := finalizer.responseHeaders.getD []
            capture := capture
            pluginDecisions := finalizer.pluginDecisions.getD [] }
        ({ finalizer with
            record := none
            requestHeaders := none
            responseHeaders := none
            pluginDecisions := none
            requestContentType :=
              if finalizer.shouldCapture then none else finalizer.requestContentType
            responseContentType :=
              if finalizer.shouldCapture then none else finalizer.responseContentType },
          some write)

/-- A response body with its capture and its finalizer. -/
structure CapturingBody where
  capture : CaptureBuffer
  finalizer : CaptureFinalizer
deriving DecidableEq

/-- What polling the inner body answers. -/
inductive Poll where
  | pending
  | frame (frame : Frame)
  | failed
  | ended
deriving DecidableEq

namespace CapturingBody

def finalize (sha256 : List UInt8 → String) (requestCapture : CaptureBuffer)
    (body : CapturingBody) : CapturingBody × Option CaptureWrite :=
  let (finalizer, write) := body.finalizer.finalize sha256 requestCapture body.capture
  ({ body with finalizer := finalizer }, write)

/-- `CapturingBody::poll_frame`. -/
def pollFrame (sha256 : List UInt8 → String) (requestCapture : CaptureBuffer)
    (body : CapturingBody) : Poll → CapturingBody × Option CaptureWrite
  | .pending => (body, none)
  | .frame frame =>
      match frame.dataRef with
      | some data => ({ body with capture := body.capture.record data }, none)
      | none => (body, none)
  | .failed => body.finalize sha256 requestCapture
  | .ended => body.finalize sha256 requestCapture

/-- `CapturingBody::drop`. -/
def drop (sha256 : List UInt8 → String) (requestCapture : CaptureBuffer)
    (body : CapturingBody) : Option CaptureWrite :=
  (body.finalize sha256 requestCapture).2

/-- One poll, which sees the request's buffer as it then is, after the writes enqueued
so far. -/
def pollOnce (sha256 : List UInt8 → String) (state : CapturingBody × List CaptureWrite)
    (poll : CaptureBuffer × Poll) : CapturingBody × List CaptureWrite :=
  let (body, write) := state.1.pollFrame sha256 poll.1 poll.2
  (body, state.2 ++ write.toList)

/-- The writes a body has enqueued when it was polled and then dropped. -/
def writes (sha256 : List UInt8 → String) (body : CapturingBody)
    (polls : List (CaptureBuffer × Poll)) (requestCapture : CaptureBuffer) : List CaptureWrite :=
  let (body, written) := polls.foldl (pollOnce sha256) (body, [])
  written ++ (body.drop sha256 requestCapture).toList

/-- The write of a body whose finalizer is not spent. -/
structure WriteOf (finalizer : CaptureFinalizer) (write : CaptureWrite) : Prop where
  record : finalizer.record = some write.record
  requestHeaders : write.requestHeaders = finalizer.requestHeaders.getD []
  responseHeaders : write.responseHeaders = finalizer.responseHeaders.getD []
  capture : write.capture.isSome = finalizer.shouldCapture
  pluginDecisions : write.pluginDecisions = finalizer.pluginDecisions.getD []

/-- A spent finalizer stays spent and writes nothing, so a second end of a body has no
effect. -/
theorem finalize_spent (sha256 : List UInt8 → String) (requestCapture : CaptureBuffer)
    (body : CapturingBody) (spent : body.finalizer.finalized = true) :
    body.finalize sha256 requestCapture = (body, none) := by
  simp [finalize, CaptureFinalizer.finalize, spent]

/-- The first end of a body spends its finalizer and writes what it holds. -/
theorem finalize_unspent (sha256 : List UInt8 → String) (requestCapture : CaptureBuffer)
    (body : CapturingBody) (unspent : body.finalizer.finalized = false)
    (held : body.finalizer.record.isSome = true) :
    (body.finalize sha256 requestCapture).1.finalizer.finalized = true ∧
      ∃ write, (body.finalize sha256 requestCapture).2 = some write ∧
        WriteOf body.finalizer write := by
  obtain ⟨record, present⟩ := Option.isSome_iff_exists.mp held
  simp only [finalize, CaptureFinalizer.finalize, unspent, Bool.false_eq_true, if_false, present,
    true_and]
  refine ⟨_, rfl, ⟨present, rfl, rfl, ?_, rfl⟩⟩
  cases body.finalizer.shouldCapture <;> rfl

/-- A poll ends the body, or leaves its finalizer as it is. -/
theorem pollFrame_finalizer (sha256 : List UInt8 → String) (requestCapture : CaptureBuffer)
    (body : CapturingBody) (poll : Poll) :
    (∃ next, body.pollFrame sha256 requestCapture poll = (next, none) ∧
        next.finalizer = body.finalizer) ∨
      body.pollFrame sha256 requestCapture poll = body.finalize sha256 requestCapture := by
  cases poll with
  | pending => exact Or.inl ⟨body, rfl, rfl⟩
  | frame frame =>
    cases frame with
    | data bytes => exact Or.inl ⟨_, rfl, rfl⟩
    | trailers headers => exact Or.inl ⟨body, rfl, rfl⟩
  | failed => exact Or.inr rfl
  | ended => exact Or.inr rfl

/-- A body that was finalized writes nothing more, however often it is polled.

By induction on the polls, each of which leaves the finalizer or finalizes a spent body. -/
theorem polls_spent (sha256 : List UInt8 → String) (polls : List (CaptureBuffer × Poll))
    (body : CapturingBody) (written : List CaptureWrite)
    (spent : body.finalizer.finalized = true) :
    (polls.foldl (pollOnce sha256) (body, written)).1.finalizer.finalized = true ∧
      (polls.foldl (pollOnce sha256) (body, written)).2 = written := by
  induction polls generalizing body with
  | nil => exact ⟨spent, rfl⟩
  | cons poll rest inductionHypothesis =>
    obtain ⟨requestCapture, poll⟩ := poll
    have once : ∃ next, body.pollFrame sha256 requestCapture poll = (next, none) ∧
        next.finalizer.finalized = true := by
      rcases body.pollFrame_finalizer sha256 requestCapture poll with ⟨next, polled, same⟩ | ends
      · exact ⟨next, polled, same ▸ spent⟩
      · exact ⟨body, ends.trans (finalize_spent sha256 requestCapture body spent), spent⟩
    obtain ⟨next, polled, stillSpent⟩ := once
    simp only [List.foldl_cons, pollOnce, polled, Option.toList_none, List.append_nil]
    exact inductionHypothesis next stillSpent

/-- However it is polled, a body that is dropped in the end writes exactly once.

Either some poll ends it, and after that nothing more is written, or the drop does. -/
theorem exists_write (sha256 : List UInt8 → String) (polls : List (CaptureBuffer × Poll))
    (requestCapture : CaptureBuffer) (body : CapturingBody)
    (unspent : body.finalizer.finalized = false)
    (held : body.finalizer.record.isSome = true) :
    ∃ write, body.writes sha256 polls requestCapture = [write] ∧
      WriteOf body.finalizer write := by
  induction polls generalizing body with
  | nil =>
    obtain ⟨_, write, written, own⟩ := finalize_unspent sha256 requestCapture body unspent held
    exact ⟨write, by simp [writes, drop, written], own⟩
  | cons poll rest inductionHypothesis =>
    obtain ⟨seen, poll⟩ := poll
    rcases body.pollFrame_finalizer sha256 seen poll with ⟨next, polled, same⟩ | polled
    · obtain ⟨write, written, own⟩ := inductionHypothesis next (same ▸ unspent) (same ▸ held)
      refine ⟨write, ?_, same ▸ own⟩
      simpa [writes, pollOnce, polled] using written
    · obtain ⟨spent, write, written, own⟩ := finalize_unspent sha256 seen body unspent held
      obtain ⟨spentLater, same⟩ := polls_spent sha256 rest (body.finalize sha256 seen).1 [write]
        spent
      refine ⟨write, ?_, own⟩
      simp only [writes, List.foldl_cons, pollOnce, polled, written, Option.toList_some,
        List.nil_append, drop, same, finalize_spent sha256 requestCapture _ spentLater,
        Option.toList_none, List.append_nil]

end CapturingBody

/-- `attach_storage_finalizer`, under the redaction it loads. -/
def attachStorageFinalizer (redaction : RedactionConfig) (headers : HeaderMap)
    (input : StorageFinalizerInput) : CapturingBody :=
  { capture := CaptureBuffer.new input.responseCaptureEnabled input.responseCaptureLimit
    finalizer :=
      { record := some input.record
        requestHeaders := some input.requestHeaders
        responseHeaders := some (storedHeaders headers redaction)
        shouldCapture := input.shouldCapture
        requestContentType := input.requestContentType
        responseContentType := contentType headers
        pluginDecisions := some input.pluginDecisions
        finalized := false
        permit := input.permit } }

/-- A response body with an attached finalizer writes its input, once: the record, the
decisions, and a capture if one is to be taken. -/
theorem exists_write_attach (sha256 : List UInt8 → String) (redaction : RedactionConfig)
    (headers : HeaderMap) (input : StorageFinalizerInput) (polls : List (CaptureBuffer × Poll))
    (requestCapture : CaptureBuffer) :
    ∃ write, (attachStorageFinalizer redaction headers input).writes sha256 polls requestCapture =
        [write] ∧
      write.record = input.record ∧ write.capture.isSome = input.shouldCapture ∧
      write.pluginDecisions = input.pluginDecisions := by
  obtain ⟨write, written, own⟩ := CapturingBody.exists_write sha256 polls requestCapture
    (attachStorageFinalizer redaction headers input) rfl rfl
  exact ⟨write, written, (Option.some.inj own.record).symm, own.capture, own.pluginDecisions⟩

/-- `plugin_decision_inserts`, with the clock read for each record. -/
def pluginDecisionInserts (requestId : String) (records : List Policy.PolicyDecisionRecord)
    (nowMs : Nat → Int) : List PluginDecisionInsert :=
  records.zipIdx.map fun entry =>
    let record := entry.1
    { requestId := requestId
      pluginId := record.pluginId
      routeId := record.routeId
      action := record.action
      denyStatus := record.denyStatus
      setHeaders := record.setHeaders
      removeHeaders := record.removeHeaders
      events := record.events.map fun event => ⟨event.name, event.code⟩
      durationMs := asMillis record.duration
      timedOut := record.timedOut
      error := record.error
      createdAtMs := nowMs entry.2 }

/-- The decisions of a request are stored under its identifier. -/
theorem requestId_pluginDecisionInserts (requestId : String)
    (records : List Policy.PolicyDecisionRecord) (nowMs : Nat → Int) :
    ∀ decision ∈ pluginDecisionInserts requestId records nowMs,
      decision.requestId = requestId := by
  intro decision member
  obtain ⟨entry, _, rfl⟩ := List.mem_map.mp member
  rfl

end TraceGate
