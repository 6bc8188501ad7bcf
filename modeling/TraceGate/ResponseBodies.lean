import TraceGate.Finalizer
import TraceGate.Polling

/-!
# The life of a response body

`Finalizer` follows the capture and the finalizer of a response body through the answers
of its inner body. Here the inner body is any source, and the wrapped body is polled and
then dropped: the moments of its life are its polls and the drop. Whatever the inner body
answers, the wrapped body passes the answers on, and of its moments exactly one hands
over a write: the first that ends or fails the inner body, or the drop if none does.
-/

namespace TraceGate

open Polling

/-- `CapturingBody` with the body it wraps. -/
structure RecordingBody {Fault : Type} (source : Source Frame Fault) where
  inner : source.State
  body : CapturingBody

namespace RecordingBody

variable {Fault : Type} {source : Source Frame Fault}

/-- `CapturingBody::poll_frame`, with the answer it passes on and the write it hands
over. -/
def pollFrame (sha256 : List UInt8 → String) (requestCapture : CaptureBuffer)
    (response : RecordingBody source) :
    Answer Frame Fault × Option CaptureWrite × RecordingBody source :=
  match source.poll response.inner with
  | (.item frame, next) =>
      match frame.dataRef with
      | some data =>
          (.item frame, none,
            ⟨next, { response.body with capture := response.body.capture.record data }⟩)
      | none => (.item frame, none, ⟨next, response.body⟩)
  | (.failed fault, next) =>
      let (body, write) := response.body.finalize sha256 requestCapture
      (.failed fault, write, ⟨next, body⟩)
  | (.ended, next) =>
      let (body, write) := response.body.finalize sha256 requestCapture
      (.ended, write, ⟨next, body⟩)
  | (.pending, next) => (.pending, none, ⟨next, response.body⟩)

/-- The answers that the client sees, and what each moment hands over. Every poll and
the drop see the request's buffer as it then is. -/
def lifetime (sha256 : List UInt8 → String) :
    RecordingBody source → List CaptureBuffer → CaptureBuffer →
      List (Answer Frame Fault) × List (Option CaptureWrite)
  | response, [], dropped => ([], [response.body.drop sha256 dropped])
  | response, seen :: rest, dropped =>
      let (answer, write, next) := response.pollFrame sha256 seen
      let (answers, writes) := lifetime sha256 next rest dropped
      (answer :: answers, write :: writes)

/-- What polling means to the capture and the finalizer. -/
def observed : Answer Frame Fault → Poll
  | .pending => .pending
  | .item frame => .frame frame
  | .failed _ => .failed
  | .ended => .ended

/-- A poll passes the inner body's answer on, and does to the rest what `Finalizer` does
on that answer. -/
theorem pollFrame_eq (sha256 : List UInt8 → String) (requestCapture : CaptureBuffer)
    (response : RecordingBody source) :
    response.pollFrame sha256 requestCapture =
      ((source.poll response.inner).1,
        (response.body.pollFrame sha256 requestCapture
          (observed (source.poll response.inner).1)).2,
        ⟨(source.poll response.inner).2,
          (response.body.pollFrame sha256 requestCapture
            (observed (source.poll response.inner).1)).1⟩) := by
  rcases polled : source.poll response.inner with ⟨answer, next⟩
  cases answer with
  | pending => simp [pollFrame, polled, observed, CapturingBody.pollFrame]
  | item frame =>
    cases frame with
    | data bytes =>
      simp [pollFrame, polled, observed, CapturingBody.pollFrame, Frame.dataRef]
    | trailers headers =>
      simp [pollFrame, polled, observed, CapturingBody.pollFrame, Frame.dataRef]
  | failed fault => simp [pollFrame, polled, observed, CapturingBody.pollFrame]
  | ended => simp [pollFrame, polled, observed, CapturingBody.pollFrame]

/-- The first poll is answered by the inner body, and the rest of the lifetime follows it. -/
theorem lifetime_cons (sha256 : List UInt8 → String) (response : RecordingBody source)
    (seen dropped : CaptureBuffer) (rest : List CaptureBuffer) :
    lifetime sha256 response (seen :: rest) dropped =
      ((response.pollFrame sha256 seen).1 ::
          (lifetime sha256 (response.pollFrame sha256 seen).2.2 rest dropped).1,
        (response.pollFrame sha256 seen).2.1 ::
          (lifetime sha256 (response.pollFrame sha256 seen).2.2 rest dropped).2) := rfl

/-- The client sees what the inner body answers, poll by poll. -/
theorem lifetime_answers (sha256 : List UInt8 → String) (polls : List CaptureBuffer)
    (dropped : CaptureBuffer) (response : RecordingBody source) :
    (lifetime sha256 response polls dropped).1 =
      source.answers response.inner polls.length := by
  induction polls generalizing response with
  | nil => rfl
  | cons seen rest inductionHypothesis =>
    rw [lifetime_cons, inductionHypothesis, pollFrame_eq]
    rfl

/-- A spent finalizer hands over nothing more.

By induction on the polls: no frame unspends it. -/
theorem lifetime_spent (sha256 : List UInt8 → String) (polls : List CaptureBuffer)
    (dropped : CaptureBuffer) (response : RecordingBody source)
    (spent : response.body.finalizer.finalized = true) :
    (lifetime sha256 response polls dropped).2 = List.replicate (polls.length + 1) none := by
  induction polls generalizing response with
  | nil =>
    simp [lifetime, CapturingBody.drop, CapturingBody.finalize_spent sha256 dropped _ spent]
  | cons seen rest inductionHypothesis =>
    have quiet : ∃ next, response.body.pollFrame sha256 seen
        (observed (source.poll response.inner).1) = (next, none) ∧
          next.finalizer.finalized = true := by
      rcases response.body.pollFrame_finalizer sha256 seen
        (observed (source.poll response.inner).1) with ⟨next, polled, same⟩ | ends
      · exact ⟨next, polled, same ▸ spent⟩
      · exact ⟨response.body,
          ends.trans (CapturingBody.finalize_spent sha256 seen response.body spent), spent⟩
    obtain ⟨next, polled, stillSpent⟩ := quiet
    rw [lifetime_cons, pollFrame_eq, polled]
    simp only
    rw [inductionHypothesis _ stillSpent]
    rfl

end RecordingBody

/-- The write of a finalizer that still holds a record. -/
def CaptureFinalizer.write (sha256 : List UInt8 → String) (finalizer : CaptureFinalizer)
    (record : RequestInsert) (requestCapture responseCapture : CaptureBuffer) : CaptureWrite :=
  { record := record
    requestHeaders := finalizer.requestHeaders.getD []
    responseHeaders := finalizer.responseHeaders.getD []
    capture :=
      if finalizer.shouldCapture then
        some (finalizer.captureInsert (requestCapture.snapshot sha256)
          (responseCapture.snapshot sha256))
      else none
    pluginDecisions := finalizer.pluginDecisions.getD [] }

/-- The first finalization writes the record with both captures, and spends the finalizer. -/
theorem CapturingBody.finalize_write (sha256 : List UInt8 → String)
    (requestCapture : CaptureBuffer) (body : CapturingBody) (record : RequestInsert)
    (unspent : body.finalizer.finalized = false)
    (held : body.finalizer.record = some record) :
    (body.finalize sha256 requestCapture).2 =
        some (body.finalizer.write sha256 record requestCapture body.capture) ∧
      (body.finalize sha256 requestCapture).1.finalizer.finalized = true := by
  simp only [CapturingBody.finalize, CaptureFinalizer.finalize, unspent, held,
    Bool.false_eq_true, if_false, CaptureFinalizer.write]
  exact ⟨rfl, trivial⟩

/-- The frames among answers. -/
def framesOf {Fault : Type} (answers : List (Answer Frame Fault)) : List Frame :=
  answers.filterMap Answer.toItem

/-- The first moment that ends or fails the inner body, or the drop after the polls. -/
def lastMoment {Fault : Type} (answers : List (Answer Frame Fault)) : Nat :=
  answers.findIdx Answer.isLast

section

variable {Fault : Type} (rest : List (Answer Frame Fault))

/-- No answers hold no frames. -/
@[simp]
theorem framesOf_nil : framesOf ([] : List (Answer Frame Fault)) = [] := rfl

/-- A frame that is answered is one of the frames. -/
@[simp]
theorem framesOf_item (frame : Frame) :
    framesOf (.item frame :: rest) = frame :: framesOf rest := rfl

/-- Waiting adds no frame. -/
@[simp]
theorem framesOf_pending : framesOf (.pending :: rest) = framesOf rest := rfl

/-- Without answers the last moment is the drop, at once. -/
@[simp]
theorem lastMoment_nil : lastMoment ([] : List (Answer Frame Fault)) = 0 := rfl

/-- The last moment is the first last answer, counted from the start. -/
@[simp]
theorem lastMoment_cons (answer : Answer Frame Fault) :
    lastMoment (answer :: rest) = if answer.isLast then 0 else lastMoment rest + 1 := by
  cases last : answer.isLast <;> simp [lastMoment, List.findIdx_cons, last]

end

namespace RecordingBody

variable {Fault : Type} {source : Source Frame Fault}

/-- Of the moments of a life, the last moment of the inner body hands over the write.

Proof: follow the polls. An answer that is not the last records at most its data, so the
capture at the last moment holds the data delivered before it. The last answer spends
the finalizer, and a spent one hands over nothing. -/
theorem lifetime_writes (sha256 : List UInt8 → String) (polls : List CaptureBuffer)
    (dropped : CaptureBuffer) (response : RecordingBody source) (record : RequestInsert)
    (unspent : response.body.finalizer.finalized = false)
    (held : response.body.finalizer.record = some record) :
    let answers := source.answers response.inner polls.length
    (lifetime sha256 response polls dropped).2 =
      List.replicate (lastMoment answers) none ++
        some (response.body.finalizer.write sha256 record
          ((polls.drop (lastMoment answers)).headD dropped)
          (response.body.capture.recordAll
            (dataChunks (framesOf (answers.take (lastMoment answers)))))) ::
        List.replicate (polls.length - lastMoment answers) none := by
  induction polls generalizing response with
  | nil =>
    obtain ⟨written, _⟩ := CapturingBody.finalize_write sha256 dropped response.body record
      unspent held
    simp [lifetime, CapturingBody.drop, written, Source.answers, dataChunks,
      CaptureBuffer.recordAll]
  | cons seen rest inductionHypothesis =>
    rw [lifetime_cons, pollFrame_eq]
    rcases polled : source.poll response.inner with ⟨answer, next⟩
    obtain ⟨written, spent⟩ := CapturingBody.finalize_write sha256 seen response.body record
      unspent held
    cases answer with
    | pending =>
      have later := inductionHypothesis ⟨next, response.body⟩ unspent held
      simp only [observed, CapturingBody.pollFrame, later]
      simp [Source.answers, polled, Answer.isLast, List.replicate_succ]
    | item frame =>
      cases frame with
      | data bytes =>
        have later := inductionHypothesis ⟨next, { response.body with
          capture := response.body.capture.record bytes }⟩ unspent held
        simp only [observed, CapturingBody.pollFrame, Frame.dataRef, later]
        simp [Source.answers, polled, Answer.isLast, List.replicate_succ, dataChunks,
          Frame.dataRef, CaptureBuffer.recordAll]
      | trailers headers =>
        have later := inductionHypothesis ⟨next, response.body⟩ unspent held
        simp only [observed, CapturingBody.pollFrame, Frame.dataRef, later]
        simp [Source.answers, polled, Answer.isLast, List.replicate_succ, dataChunks,
          List.filterMap_cons, Frame.dataRef]
    | failed fault =>
      simp only [observed, CapturingBody.pollFrame, written]
      rw [lifetime_spent sha256 rest dropped _ spent]
      simp [Source.answers, polled, Answer.isLast, dataChunks, CaptureBuffer.recordAll]
    | ended =>
      simp only [observed, CapturingBody.pollFrame, written]
      rw [lifetime_spent sha256 rest dropped _ spent]
      simp [Source.answers, polled, Answer.isLast, dataChunks, CaptureBuffer.recordAll]

end RecordingBody

/-- The write that an exit's input stands for, once these frames were delivered: the
capture of the response is the snapshot of their data. -/
def StorageFinalizerInput.write (sha256 : List UInt8 → String) (redaction : RedactionConfig)
    (headers : HeaderMap) (input : StorageFinalizerInput) (requestCapture : CaptureBuffer)
    (delivered : List Frame) : CaptureWrite :=
  let request := requestCapture.snapshot sha256
  let response := ((CaptureBuffer.new input.responseCaptureEnabled
    input.responseCaptureLimit).recordAll (dataChunks delivered)).snapshot sha256
  { record := input.record
    requestHeaders := input.requestHeaders
    responseHeaders := storedHeaders headers redaction
    capture :=
      if input.shouldCapture then
        some
          { requestContentType := input.requestContentType
            responseContentType := contentType headers
            requestBody := request.body
            responseBody := response.body
            requestBodyTruncated := request.truncated
            responseBodyTruncated := response.truncated
            requestBodySha256 := request.sha256
            responseBodySha256 := response.sha256 }
      else none
    pluginDecisions := input.pluginDecisions }

/-- Every response body with an attached finalizer passes on what its inner body answers,
and hands over one write in its life: at the first end or error, or at the drop, with the
snapshot of the data delivered before. -/
theorem one_write_per_response {Fault : Type} (source : Source Frame Fault)
    (state : source.State) (sha256 : List UInt8 → String) (redaction : RedactionConfig)
    (headers : HeaderMap) (input : StorageFinalizerInput) (polls : List CaptureBuffer)
    (dropped : CaptureBuffer) :
    let answers := source.answers state polls.length
    let moment := lastMoment answers
    RecordingBody.lifetime sha256
        (⟨state, attachStorageFinalizer redaction headers input⟩ : RecordingBody source)
        polls dropped =
      (answers,
        List.replicate moment none ++
          some (input.write sha256 redaction headers ((polls.drop moment).headD dropped)
            (framesOf (answers.take moment))) ::
          List.replicate (polls.length - moment) none) := by
  intro answers moment
  apply Prod.ext
  · exact RecordingBody.lifetime_answers sha256 polls dropped _
  · exact RecordingBody.lifetime_writes sha256 polls dropped _ input.record rfl rfl

end TraceGate
