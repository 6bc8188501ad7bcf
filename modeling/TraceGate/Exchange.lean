import TraceGate.Gateway
import TraceGate.Runs

/-!
# Request frames against the response's end

While the HTTP client polls the request's body, the response may already have
arrived, ended, failed or been dropped. The request's buffer is filled by the
first and read by the second, with nothing between them. An exchange is a run of
these events in any order, from the moment the request is handed to the client.

A capture whose body is present and not marked as truncated is what a replay
resends. It is the whole body exactly when no data was left to poll at the moment
the response ended, or the capture could not be taken for a complete one anyway.
-/

namespace TraceGate

namespace Exchange

inductive Phase where
  | awaiting
  | responding (body : CapturingBody)
  | dropped
deriving DecidableEq

/-- The frames of the request not yet polled, its buffer, the response, and the
writes handed to the capture writer. -/
structure State where
  forward : Forward
  pending : List Frame
  requestCapture : CaptureBuffer
  phase : Phase
  enqueued : List CaptureWrite

inductive Event where
  | requestPoll
  | attemptEnded (attempts : Nat → Attempt) (clock : Clock) (redaction : RedactionConfig)
  | responsePoll (poll : Poll)
  | drop

def start (forward : Forward) : State :=
  ⟨forward, forward.body.frames, forward.requestCapture, .awaiting, []⟩

/-- A frame as the request's buffer records it. -/
def recordFrame (buffer : CaptureBuffer) (frame : Frame) : CaptureBuffer :=
  match frame.dataRef with
  | some data => buffer.record data
  | none => buffer

/-- The body of the response that the end of the attempts brings. -/
def respondingBody (externals : Externals) (state : State) (attempts : Nat → Attempt)
    (clock : Clock) (redaction : RedactionConfig) : CapturingBody :=
  let handled := state.forward.finish externals clock
    (state.forward.attempt externals attempts) state.requestCapture
  attachStorageFinalizer redaction handled.response.headers handled.finalizer

/-- The state after the response's body was polled or dropped, with its write. -/
def State.after (state : State) (phase : Phase) (write : Option CaptureWrite) : State :=
  { state with phase := phase, enqueued := state.enqueued ++ write.toList }

/-- One event. The retry path sends empty bodies and drops the request's own unpolled. The
attempt ends in the response's head or in an error the gateway answers itself; dropping the
handler before that records nothing. -/
def step (externals : Externals) (state : State) : Event → Option State
  | .requestPoll =>
      match state.pending with
      | [] => none
      | frame :: rest =>
          if state.forward.retryEligible then none
          else
            some { state with
              pending := rest, requestCapture := recordFrame state.requestCapture frame }
  | .attemptEnded attempts clock redaction =>
      match state.phase with
      | .awaiting =>
          some { state with
            phase := .responding (respondingBody externals state attempts clock redaction) }
      | _ => none
  | .responsePoll poll =>
      match state.phase with
      | .responding body =>
          let (body, write) := body.pollFrame externals.sha256 state.requestCapture poll
          some (state.after (.responding body) write)
      | _ => none
  | .drop =>
      match state.phase with
      | .awaiting => some { state with phase := .dropped }
      | .responding body =>
          some (state.after .dropped (body.drop externals.sha256 state.requestCapture))
      | .dropped => none

/-- The capture of a write, if it is not marked as truncated, holds these bytes. -/
def HoldsWhole (sent : List UInt8) (write : CaptureWrite) : Prop :=
  ∀ capture, write.capture = some capture → ∀ body, capture.requestBody = some body →
    capture.requestBodyTruncated = false → body = sent

/-- Every capture marked complete is complete. -/
def CompleteCaptures (sent : List UInt8) (state : State) : Prop :=
  ∀ write ∈ state.enqueued, HoldsWhole sent write

/-- The event ends, fails or drops the response for the first time. -/
def Event.ends : Event → Bool
  | .responsePoll .failed => true
  | .responsePoll .ended => true
  | .drop => true
  | _ => false

/-- When the response first ends, no data of the request is left to poll, unless
no capture is taken, none of the body was captured, or it is marked truncated. -/
def UploadDone (state : State) (event : Event) : Prop :=
  match state.phase with
  | .responding body =>
      event.ends = true → body.finalizer.finalized = false →
        body.finalizer.shouldCapture = true → state.requestCapture.enabled = true →
        state.requestCapture.sawBody = true → state.requestCapture.truncated = false →
        dataBytes state.pending = []
  | _ => True

instance (state : State) (event : Event) : Decidable (UploadDone state event) := by
  unfold UploadDone
  split <;> infer_instance

/-- Polled and pending frames make up the body, the buffer has recorded the polled
ones, and an unspent finalizer still has its record. -/
structure Inv (sent : List Frame) (state : State) : Prop where
  recorded : ∃ polled, sent = polled ++ state.pending ∧
    state.requestCapture =
      (CaptureBuffer.new state.forward.captureEnabled state.forward.maxCaptureBytes).recordAll
        (dataChunks polled)
  armed : ∀ body, state.phase = .responding body → body.finalizer.finalized = false →
    body.finalizer.record.isSome = true

/-- The bytes of a body that comes in two parts are those of its parts. -/
theorem dataBytes_append (first second : List Frame) :
    dataBytes (first ++ second) = dataBytes first ++ dataBytes second := by
  simp [dataBytes, dataChunks]

/-- An enabled buffer that is not truncated has kept everything polled, so what it holds and
what is still to come make up the upload. -/
theorem Inv.body_eq {sent : List Frame} {state : State} (inv : Inv sent state)
    (enabled : state.requestCapture.enabled = true)
    (whole : state.requestCapture.truncated = false) :
    state.requestCapture.body ++ dataBytes state.pending = dataBytes sent := by
  obtain ⟨polled, rfl, recorded⟩ := inv.recorded
  cases on : state.forward.captureEnabled with
  | false =>
    rw [recorded, on, CaptureBuffer.recordAll_disabled _ rfl] at enabled
    exact Bool.noConfusion enabled
  | true =>
    rw [recorded, on, CaptureBuffer.recordAll_new] at whole ⊢
    rw [dataBytes_append, dataBytes, dataBytes]
    have fits := of_decide_eq_false whole
    exact congrArg (· ++ _) (List.take_of_length_le (Nat.le_of_not_lt fits))

/-- A write taken now holds the whole body exactly when no data is pending,
unless it does not count as whole. -/
theorem Inv.holdsWhole_iff {sent : List Frame} {state : State} (inv : Inv sent state)
    (sha256 : List UInt8 → String) (body : CapturingBody) (record : RequestInsert)
    (unspent : body.finalizer.finalized = false)
    (present : body.finalizer.record = some record) (write : CaptureWrite)
    (written : (body.finalize sha256 state.requestCapture).2 = some write) :
    HoldsWhole (dataBytes sent) write ↔
      (body.finalizer.shouldCapture = true → state.requestCapture.enabled = true →
        state.requestCapture.sawBody = true → state.requestCapture.truncated = false →
        dataBytes state.pending = []) := by
  simp only [CapturingBody.finalize, CaptureFinalizer.finalize, unspent, present,
    Bool.false_eq_true, if_false, Option.some.injEq] at written
  subst written
  cases capturing : body.finalizer.shouldCapture with
  | false => simp [HoldsWhole]
  | true =>
    cases enabled : state.requestCapture.enabled with
    | false => simp [HoldsWhole, CaptureFinalizer.captureInsert, CaptureBuffer.snapshot, enabled]
    | true =>
      cases saw : state.requestCapture.sawBody with
      | false => simp [HoldsWhole, CaptureFinalizer.captureInsert, CaptureBuffer.snapshot, saw]
      | true =>
        cases cut : state.requestCapture.truncated with
        | true =>
          simp [HoldsWhole, CaptureFinalizer.captureInsert, CaptureBuffer.snapshot, enabled, saw,
            cut]
        | false =>
          have whole := inv.body_eq enabled cut
          simp only [HoldsWhole, CaptureFinalizer.captureInsert, CaptureBuffer.snapshot, enabled,
            saw, cut, ← whole]
          simp

/-- A body that has ended has its finalizer spent, whether or not that took a write. -/
theorem finalized_finalize (sha256 : List UInt8 → String) (requestCapture : CaptureBuffer)
    (body : CapturingBody) :
    (body.finalize sha256 requestCapture).1.finalizer.finalized = true := by
  cases spent : body.finalizer.finalized with
  | true => simp [CapturingBody.finalize, CaptureFinalizer.finalize, spent]
  | false =>
    cases present : body.finalizer.record with
    | none => simp [CapturingBody.finalize, CaptureFinalizer.finalize, spent, present]
    | some record => simp [CapturingBody.finalize, CaptureFinalizer.finalize, spent, present]

/-- Ending the response, with any phase after it, keeps captures complete exactly
when the upload is done. -/
theorem Inv.finalize_exact {sent : List Frame} {state : State} (inv : Inv sent state)
    (sha256 : List UInt8 → String) (body : CapturingBody) (phase : Phase)
    (responding : state.phase = .responding body) (event : Event) (ends : event.ends = true) :
    CompleteCaptures (dataBytes sent)
        { state with
          phase := phase
          enqueued := state.enqueued ++
            (body.finalize sha256 state.requestCapture).2.toList } ↔
      CompleteCaptures (dataBytes sent) state ∧ UploadDone state event := by
  have guard : UploadDone state event ↔ (body.finalizer.finalized = false →
      body.finalizer.shouldCapture = true → state.requestCapture.enabled = true →
        state.requestCapture.sawBody = true → state.requestCapture.truncated = false →
        dataBytes state.pending = []) := by
    simp only [UploadDone, responding, ends, true_implies]
  rw [guard]
  cases spent : body.finalizer.finalized with
  | true => simp [CompleteCaptures, CapturingBody.finalize, CaptureFinalizer.finalize, spent]
  | false =>
    obtain ⟨record, present⟩ := Option.isSome_iff_exists.mp (inv.armed body responding spent)
    cases written : (body.finalize sha256 state.requestCapture).2 with
    | none =>
      simp [CapturingBody.finalize, CaptureFinalizer.finalize, spent, present] at written
    | some write =>
      have whole := inv.holdsWhole_iff sha256 body record spent present write written
      simp only [CompleteCaptures, Option.toList_some, List.forall_mem_append,
        List.forall_mem_singleton, whole, true_implies]

/-- A step that neither enqueues nor ends the response keeps captures complete: what the exact
condition asks for is asked only when the response ends. -/
theorem exact_of_same_enqueued {sent : List Frame} {state next : State} {event : Event}
    (same : next.enqueued = state.enqueued) (continues : event.ends = false) :
    CompleteCaptures (dataBytes sent) next ↔
      CompleteCaptures (dataBytes sent) state ∧ UploadDone state event := by
  have unguarded : UploadDone state event := by
    unfold UploadDone
    split <;> simp [continues]
  simp [CompleteCaptures, same, unguarded]

/-- Everything an event can do: poll a frame of the upload, end the attempt, poll the response,
or drop it. -/
theorem step_cases {externals : Externals} {state next : State} {event : Event}
    (taken : step externals state event = some next) :
    (∃ frame rest, event = .requestPoll ∧ state.pending = frame :: rest ∧
      next = { state with
        pending := rest, requestCapture := recordFrame state.requestCapture frame }) ∨
    (∃ attempts clock redaction, event = .attemptEnded attempts clock redaction ∧
      state.phase = .awaiting ∧
      next = { state with
        phase := .responding (respondingBody externals state attempts clock redaction) }) ∨
    (∃ body poll, event = .responsePoll poll ∧ state.phase = .responding body ∧
      next = state.after
        (.responding (body.pollFrame externals.sha256 state.requestCapture poll).1)
        (body.pollFrame externals.sha256 state.requestCapture poll).2) ∨
    (event = .drop ∧ state.phase = .awaiting ∧ next = { state with phase := .dropped }) ∨
    (∃ body, event = .drop ∧ state.phase = .responding body ∧
      next = state.after .dropped (body.finalize externals.sha256 state.requestCapture).2) := by
  cases event with
  | requestPoll =>
    simp only [step] at taken
    cases frames : state.pending with
    | nil => simp [frames] at taken
    | cons frame rest =>
      cases retry : state.forward.retryEligible with
      | true => simp [frames, retry] at taken
      | false =>
        simp only [frames, retry, Bool.false_eq_true, if_false, Option.some.injEq] at taken
        exact .inl ⟨frame, rest, rfl, rfl, taken.symm⟩
  | attemptEnded attempts clock redaction =>
    simp only [step] at taken
    cases phase : state.phase with
    | responding body => simp [phase] at taken
    | dropped => simp [phase] at taken
    | awaiting =>
      simp only [phase, Option.some.injEq] at taken
      exact .inr (.inl ⟨attempts, clock, redaction, rfl, rfl, taken.symm⟩)
  | responsePoll poll =>
    simp only [step] at taken
    cases phase : state.phase with
    | awaiting => simp [phase] at taken
    | dropped => simp [phase] at taken
    | responding body =>
      simp only [phase, Option.some.injEq] at taken
      exact .inr (.inr (.inl ⟨body, poll, rfl, rfl, taken.symm⟩))
  | drop =>
    simp only [step] at taken
    cases phase : state.phase with
    | dropped => simp [phase] at taken
    | awaiting =>
      simp only [phase, Option.some.injEq] at taken
      exact .inr (.inr (.inr (.inl ⟨rfl, rfl, taken.symm⟩)))
    | responding body =>
      simp only [phase, Option.some.injEq] at taken
      exact .inr (.inr (.inr (.inr ⟨body, rfl, rfl, taken.symm⟩)))

/-- Polling a response's body records a frame, changes nothing, or spends the
finalizer. -/
theorem pollFrame_cases (sha256 : List UInt8 → String) (requestCapture : CaptureBuffer)
    (body : CapturingBody) (poll : Poll) :
    (body.pollFrame sha256 requestCapture poll = (body, none) ∧
        Event.ends (.responsePoll poll) = false) ∨
      (∃ data, body.pollFrame sha256 requestCapture poll =
          ({ body with capture := body.capture.record data }, none) ∧
        Event.ends (.responsePoll poll) = false) ∨
      (body.pollFrame sha256 requestCapture poll = body.finalize sha256 requestCapture ∧
        Event.ends (.responsePoll poll) = true) := by
  cases poll with
  | pending => exact .inl ⟨rfl, rfl⟩
  | frame frame =>
    cases frame with
    | data bytes => exact .inr (.inl ⟨bytes, rfl, rfl⟩)
    | trailers headers => exact .inl ⟨rfl, rfl⟩
  | failed => exact .inr (.inr ⟨rfl, rfl⟩)
  | ended => exact .inr (.inr ⟨rfl, rfl⟩)

/-- A polled frame moves from the pending ones into the buffer, behind the chunks recorded
before. -/
theorem recorded_requestPoll {sent : List Frame} {state : State} (inv : Inv sent state)
    (frame : Frame) (rest : List Frame) (frames : state.pending = frame :: rest) :
    ∃ polled, sent = polled ++ rest ∧ recordFrame state.requestCapture frame =
      (CaptureBuffer.new state.forward.captureEnabled state.forward.maxCaptureBytes).recordAll
        (dataChunks polled) := by
  obtain ⟨polled, split, recorded⟩ := inv.recorded
  refine ⟨polled ++ [frame], by simp [split, frames], ?_⟩
  cases frame with
  | data bytes =>
    simp [recordFrame, Frame.dataRef, dataChunks, CaptureBuffer.recordAll, recorded]
  | trailers headers =>
    simp [recordFrame, Frame.dataRef, dataChunks, CaptureBuffer.recordAll, recorded,
      List.filterMap_cons]

/-- One event keeps captures complete exactly when the upload is done whenever the
event ends the response.

Proof: a request poll moves a frame from the pending ones into the buffer; the end
of the attempt arms a finalizer; an end, error or drop of the response is
`finalize_exact`; the other events enqueue nothing. -/
theorem step_exact (externals : Externals) (sent : List Frame) (state : State) (event : Event)
    (next : State) (inv : Inv sent state) (taken : step externals state event = some next) :
    Inv sent next ∧ (CompleteCaptures (dataBytes sent) next ↔
      CompleteCaptures (dataBytes sent) state ∧ UploadDone state event) := by
  obtain ⟨frame, rest, rfl, frames, rfl⟩ | ⟨attempts, clock, redaction, rfl, phase, rfl⟩ |
    ⟨body, poll, rfl, phase, rfl⟩ | ⟨rfl, phase, rfl⟩ | ⟨body, rfl, phase, rfl⟩ :=
    step_cases taken
  · exact ⟨⟨recorded_requestPoll inv frame rest frames, inv.armed⟩,
      exact_of_same_enqueued rfl rfl⟩
  · refine ⟨⟨inv.recorded, ?_⟩, exact_of_same_enqueued rfl rfl⟩
    intro body armed _
    obtain rfl := Phase.responding.inj armed
    rfl
  · have kept := inv.armed body phase
    rcases pollFrame_cases externals.sha256 state.requestCapture body poll with
      ⟨polled, continues⟩ | ⟨data, polled, continues⟩ | ⟨polled, ends⟩
    · rw [polled]
      refine ⟨⟨inv.recorded, ?_⟩, exact_of_same_enqueued (by simp [State.after]) continues⟩
      rintro _ ⟨⟩
      exact kept
    · rw [polled]
      refine ⟨⟨inv.recorded, ?_⟩, exact_of_same_enqueued (by simp [State.after]) continues⟩
      rintro _ ⟨⟩
      exact kept
    · rw [polled]
      refine ⟨⟨inv.recorded, fun other same unspent => ?_⟩,
        inv.finalize_exact externals.sha256 body _ phase _ ends⟩
      obtain rfl := Phase.responding.inj same
      rw [finalized_finalize] at unspent
      exact Bool.noConfusion unspent
  · refine ⟨⟨inv.recorded, by simp⟩, ?_⟩
    simp [CompleteCaptures, UploadDone, phase]
  · exact ⟨⟨inv.recorded, by simp [State.after]⟩,
      inv.finalize_exact externals.sha256 body .dropped phase _ rfl⟩

/-- At the start the whole upload is pending and nothing is recorded. -/
theorem start_inv (forward : Forward) : Inv forward.body.frames (start forward) :=
  ⟨⟨[], rfl, rfl⟩, by simp [start]⟩

/-- Every capture marked complete holds the body the client sent, exactly in the
runs in which the upload is done when the response ends. -/
theorem completeCaptures_iff_uploadDone {Component : Type} (externals : Externals)
    (gateway : GatewayState Component) (request : InboundRequest) (remoteAddr : SocketAddr)
    (around : Surroundings Component) (forward : Forward)
    (prepared : prepare externals gateway request remoteAddr around = .forward forward)
    (events : List Event) (final : State)
    (completed : Runs.run (step externals) (start forward) events = some final) :
    CompleteCaptures (dataBytes request.body.frames) final ↔
      Runs.Guarded (step externals) UploadDone (start forward) events := by
  have sameBody : forward.body = request.body :=
    body_of_forward externals gateway request remoteAddr around forward prepared
  have initially : CompleteCaptures (dataBytes forward.body.frames) (start forward) := by
    simp [CompleteCaptures, start]
  rw [← sameBody]
  exact Runs.run_keeps_iff_guarded (step externals) UploadDone (Inv forward.body.frames)
    (CompleteCaptures (dataBytes forward.body.frames))
    (fun state event next => step_exact externals forward.body.frames state event next)
    (start forward) final events (start_inv forward) initially completed

/-- Without a valid span the propagator sets nothing, and this `traceparent` is generated. -/
def generatedContext (traceparent : String) : TraceContext :=
  ⟨[], fun _ member => absurd member List.not_mem_nil, .ofAscii traceparent⟩

def idleContext : TraceContext := generatedContext "00-1-1-01"

/-- Crates that accept every text and print nothing. -/
def plainExternals : Externals :=
  { http := ⟨.ok, fun text => .ok (.ofAscii text)⟩, parseUri := fun _ => .ok ()
    isUuid := fun _ => false, sha256 := fun _ => "digest", ipText := fun _ => "127.0.0.1"
    socketAddrText := fun _ => "127.0.0.1:9" }

/-- A route that captures every exchange. -/
def uploadRoute : Route :=
  { id := "upload", hosts := ["*"], pathPrefix := "/", upstreams := [⟨"http", "a:1"⟩]
    timeout := fromMillis 1000, retries := 0, capture := ⟨.always, 0, true, 64⟩
    concurrencyLimit := 8, passiveHealthFailures := 1, passiveHealthCooldown := fromMillis 1000 }

def uploadGateway : GatewayState Unit :=
  { router := [uploadRoute]
    storageConfig := ⟨"sqlite", "sqlite::memory:", 7, 1024, 64, 8⟩
    redaction := ⟨[], []⟩
    policy := .empty
    routeRuntime := fun id => if id = "upload" then some (RouteRuntime.new uploadRoute) else none }

def uploadRequest : InboundRequest :=
  { method := "POST", uri := ⟨"/", none, some "/"⟩, version := .http11
    headers := [("content-type", .ofAscii "text/plain")]
    body := ⟨[.data [1], .data [2]], none⟩ }

def stoppedClock : Clock := ⟨0, 0, 0, 0, 0, fun _ => 0⟩

def uploadAround : Surroundings Unit :=
  { freshRequestId := "r", admitted := true, outcomes := fun _ _ _ => .timedOut
    selected := some (0, ⟨"http", "a:1"⟩), attempts := fun _ => ⟨idleContext, .response ⟨200, []⟩⟩
    polled := [], clock := stoppedClock }

def localAddr : SocketAddr := ⟨.v4 0x7F000001, 9, 0⟩

/-- The request as it is handed to the client. -/
def uploadForward : Forward :=
  { facts := requestFacts plainExternals ⟨[], []⟩ "r" uploadRequest localAddr
    route := uploadRoute, upstreamIndex := 0, upstream := ⟨"http", "a:1"⟩
    requestContentType := some "text/plain", retryEligible := false, maxCaptureBytes := 64
    template := ⟨"POST", ⟨"/", none, some "/"⟩, .http11, uploadRequest.headers⟩
    body := uploadRequest.body, records := [] }

/-- The upload is forwarded to the one upstream there is. -/
theorem prepare_upload :
    prepare plainExternals uploadGateway uploadRequest localAddr uploadAround =
      .forward uploadForward := rfl

/-- The response's head arrives and it ends. -/
def answered : List Event :=
  [.attemptEnded uploadAround.attempts stoppedClock ⟨[], []⟩, .responsePoll .ended]

/-- An upload that is done before the response ends is captured whole. -/
theorem completeCaptures_of_finished_upload : ∃ final,
    Runs.run (step plainExternals) (start uploadForward)
        (.requestPoll :: .requestPoll :: answered) = some final ∧
      CompleteCaptures (dataBytes uploadRequest.body.frames) final :=
  ⟨_, rfl, (completeCaptures_iff_uploadDone plainExternals uploadGateway uploadRequest localAddr
    uploadAround uploadForward prepare_upload (.requestPoll :: .requestPoll :: answered) _
    rfl).mpr (by decide)⟩

/-- An upstream that answers after the first frame leaves a capture that holds one
byte of two and is not marked truncated. -/
theorem early_response_capture_incomplete : ∃ final,
    prepare plainExternals uploadGateway uploadRequest localAddr uploadAround =
        .forward uploadForward ∧
      Runs.run (step plainExternals) (start uploadForward) (.requestPoll :: answered) =
        some final ∧
      ¬ CompleteCaptures (dataBytes uploadRequest.body.frames) final := by
  refine ⟨_, prepare_upload, rfl, fun complete => ?_⟩
  have whole := complete _ (List.mem_singleton.mpr rfl) _ rfl _ rfl rfl
  exact absurd whole (by decide)

end Exchange

end TraceGate
