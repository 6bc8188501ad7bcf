import TraceGate.Exchange

/-!
# The budget of one exchange

The request's buffer may hold as many bytes as one exchange may store. The response's
buffer is given what the request's has left at the moment the response's head is
there. A request that is still being sent then goes on filling its own buffer, so
the two together can exceed the budget. They stay within it in every run in which
the frames polled after the head leave room for the response's whole limit.
-/

namespace TraceGate

/-- The bytes of the two bodies a write stores. -/
def CaptureWrite.capturedBytes (write : CaptureWrite) : Nat :=
  match write.capture with
  | none => 0
  | some capture =>
      (capture.requestBody.getD []).length + (capture.responseBody.getD []).length

namespace Exchange

/-- Every write stores no more than the budget. -/
def WithinBudget (budget : Nat) (state : State) : Prop :=
  ∀ write ∈ state.enqueued, write.capturedBytes ≤ budget

/-- A data frame polled while a response is captured leaves room for the limit that
the response's buffer was given. -/
def FitsBeside (state : State) (event : Event) : Prop :=
  match event, state.phase, state.pending with
  | .requestPoll, .responding body, .data bytes :: _ =>
      body.finalizer.finalized = false → body.capture.enabled = true →
        state.requestCapture.enabled = true →
        min state.requestCapture.limit (state.requestCapture.capturedLen + bytes.length) +
          body.capture.limit ≤ state.forward.maxCaptureBytes
  | _, _, _ => True

instance (state : State) (event : Event) : Decidable (FitsBeside state event) := by
  unfold FitsBeside
  exact
    match event, state.phase, state.pending with
    | .requestPoll, .responding body, .data bytes :: _ =>
        have := Nat.decLe
          (min state.requestCapture.limit (state.requestCapture.capturedLen + bytes.length) +
            body.capture.limit) state.forward.maxCaptureBytes
        inferInstanceAs (Decidable (_ → _ → _ → _ ≤ _))
    | .requestPoll, .responding _, .trailers _ :: _ => instDecidableTrue
    | .requestPoll, .responding _, [] => instDecidableTrue
    | .requestPoll, .awaiting, _ => instDecidableTrue
    | .requestPoll, .dropped, _ => instDecidableTrue
    | .attemptEnded .., _, _ => instDecidableTrue
    | .responsePoll _, _, _ => instDecidableTrue
    | .drop, _, _ => instDecidableTrue

/-- Both buffers are within their limits, and while the finalizer is unspent the
captured part of the request leaves room for the response's limit. -/
structure Budgeted (budget : Nat) (state : State) : Prop where
  maxCaptureBytes : state.forward.maxCaptureBytes = budget
  request : state.requestCapture.Bounded
  limit : state.requestCapture.limit ≤ budget
  response : ∀ body, state.phase = .responding body → body.finalizer.finalized = false →
    body.capture.Bounded ∧ (body.capture.enabled = true →
      state.requestCapture.capturedLen + body.capture.limit ≤ budget)
  written : WithinBudget budget state

/-- A write taken now is within the budget: it shows no more of either body than its buffer
holds, and the two buffers share the budget. -/
theorem Budgeted.finalize {budget : Nat} {state : State} (budgeted : Budgeted budget state)
    (sha256 : List UInt8 → String) (body : CapturingBody)
    (responding : state.phase = .responding body) (write : CaptureWrite)
    (written : (body.finalize sha256 state.requestCapture).2 = some write) :
    write.capturedBytes ≤ budget := by
  have requestLe := budgeted.request.within
  have limitLe := budgeted.limit
  cases spent : body.finalizer.finalized with
  | true => simp [CapturingBody.finalize, CaptureFinalizer.finalize, spent] at written
  | false =>
    cases present : body.finalizer.record with
    | none => simp [CapturingBody.finalize, CaptureFinalizer.finalize, spent, present] at written
    | some record =>
      simp only [CapturingBody.finalize, CaptureFinalizer.finalize, spent, present,
        Bool.false_eq_true, if_false, Option.some.injEq] at written
      subst written
      cases capturing : body.finalizer.shouldCapture with
      | false => simp [CaptureWrite.capturedBytes]
      | true =>
        have requestBytes := CaptureBuffer.length_snapshot_le sha256 state.requestCapture
        have responseBytes := CaptureBuffer.length_snapshot_le sha256 body.capture
        obtain ⟨bounded, room⟩ := budgeted.response body responding spent
        have responseLe := bounded.within
        simp only [CaptureWrite.capturedBytes, CaptureFinalizer.captureInsert, if_true]
        cases on : body.capture.enabled with
        | false =>
          have nothing := bounded.off on
          omega
        | true =>
          have fits := room on
          omega

/-- Spending the finalizer keeps the budget, whatever phase follows, as long as no body that
follows still has a finalizer to spend. -/
theorem Budgeted.after_finalize {budget : Nat} {state : State} (budgeted : Budgeted budget state)
    (sha256 : List UInt8 → String) (body : CapturingBody)
    (responding : state.phase = .responding body) (phase : Phase)
    (spent : ∀ next, phase = .responding next → next.finalizer.finalized = true) :
    Budgeted budget (state.after phase (body.finalize sha256 state.requestCapture).2) := by
  refine ⟨budgeted.maxCaptureBytes, budgeted.request, budgeted.limit, ?_, ?_⟩
  · intro next same unspent
    rw [spent next same] at unspent
    exact Bool.noConfusion unspent
  · intro write member
    rcases List.mem_append.mp member with earlier | now
    · exact budgeted.written write earlier
    · exact budgeted.finalize sha256 body responding write (Option.mem_toList.mp now)

/-- A polled frame keeps the budget when it fits beside the response's limit, or when the
response has not begun. -/
theorem Budgeted.requestPoll {budget : Nat} {state : State} (budgeted : Budgeted budget state)
    (frame : Frame) (rest : List Frame) (frames : state.pending = frame :: rest)
    (fits : FitsBeside state .requestPoll) :
    Budgeted budget { state with
      pending := rest, requestCapture := recordFrame state.requestCapture frame } := by
  cases frame with
  | trailers headers =>
    exact ⟨budgeted.maxCaptureBytes, budgeted.request, budgeted.limit, budgeted.response,
      budgeted.written⟩
  | data bytes =>
    have settings := CaptureBuffer.settings_record state.requestCapture bytes
    refine ⟨budgeted.maxCaptureBytes, budgeted.request.record bytes, ?_, ?_, budgeted.written⟩
    · exact settings.2.le.trans budgeted.limit
    · intro body responding unspent
      obtain ⟨bounded, room⟩ := budgeted.response body responding unspent
      refine ⟨bounded, fun on => ?_⟩
      have length := budgeted.request.capturedLen_record bytes
      change (state.requestCapture.record bytes).capturedLen + body.capture.limit ≤ budget
      rw [length]
      cases switched : state.requestCapture.enabled with
      | false => exact room on
      | true =>
        have phase : state.phase = .responding body := responding
        simp only [FitsBeside, phase, frames, budgeted.maxCaptureBytes] at fits
        exact fits unspent on switched

/-- The response's buffer starts with what the request's has left, so both together stay within
the budget at this moment. -/
theorem Budgeted.attemptEnded {budget : Nat} {state : State} (budgeted : Budgeted budget state)
    (externals : Externals) (attempts : Nat → Attempt) (clock : Clock)
    (redaction : RedactionConfig) :
    Budgeted budget { state with
      phase := .responding (respondingBody externals state attempts clock redaction) } := by
  have requestLe := budgeted.request.within
  have limitLe := budgeted.limit
  refine ⟨budgeted.maxCaptureBytes, budgeted.request, budgeted.limit, ?_, budgeted.written⟩
  intro body responding _
  obtain rfl := Phase.responding.inj responding
  refine ⟨CaptureBuffer.bounded_new _ _, fun on => ?_⟩
  simp only [respondingBody, attachStorageFinalizer, Forward.finish, CaptureBuffer.new,
    budgeted.maxCaptureBytes] at on ⊢
  rw [if_pos on]
  omega

/-- Every event that fits keeps the budget.

Only two events touch the buffers' shares: a frame of the request, which has to fit, and the
response's head, which divides what is left. -/
theorem step_budgeted (externals : Externals) (budget : Nat) (state : State) (event : Event)
    (next : State) (budgeted : Budgeted budget state) (fits : FitsBeside state event)
    (taken : step externals state event = some next) : Budgeted budget next := by
  obtain ⟨frame, rest, rfl, frames, rfl⟩ | ⟨attempts, clock, redaction, rfl, phase, rfl⟩ |
    ⟨body, poll, rfl, phase, rfl⟩ | ⟨rfl, phase, rfl⟩ | ⟨body, rfl, phase, rfl⟩ :=
    step_cases taken
  · exact budgeted.requestPoll frame rest frames fits
  · exact budgeted.attemptEnded externals attempts clock redaction
  · rcases pollFrame_cases externals.sha256 state.requestCapture body poll with
      ⟨polled, _⟩ | ⟨data, polled, _⟩ | ⟨polled, _⟩
    · rw [polled]
      refine ⟨budgeted.maxCaptureBytes, budgeted.request, budgeted.limit, ?_, ?_⟩
      · rintro _ ⟨⟩ unspent
        exact budgeted.response body phase unspent
      · simpa [State.after, WithinBudget] using budgeted.written
    · rw [polled]
      refine ⟨budgeted.maxCaptureBytes, budgeted.request, budgeted.limit, ?_, ?_⟩
      · rintro _ ⟨⟩ unspent
        obtain ⟨bounded, room⟩ := budgeted.response body phase unspent
        obtain ⟨enabled, limit⟩ := CaptureBuffer.settings_record body.capture data
        refine ⟨bounded.record data, fun on => ?_⟩
        rw [enabled] at on
        rw [limit]
        exact room on
      · simpa [State.after, WithinBudget] using budgeted.written
    · rw [polled]
      refine budgeted.after_finalize externals.sha256 body phase _ ?_
      rintro _ ⟨⟩
      exact finalized_finalize externals.sha256 state.requestCapture body
  · exact ⟨budgeted.maxCaptureBytes, budgeted.request, budgeted.limit, by simp,
      budgeted.written⟩
  · exact budgeted.after_finalize externals.sha256 body phase _ (by simp)

/-- Before anything is recorded the budget is that of the request. -/
theorem start_budgeted (forward : Forward) :
    Budgeted forward.maxCaptureBytes (start forward) := by
  refine ⟨rfl, CaptureBuffer.bounded_new _ _, ?_, by simp [start], by simp [start, WithinBudget]⟩
  exact Nat.min_le_left _ _

/-- What an exchange enqueues is within the configured budget in every run whose
request frames fit beside the response. -/
theorem withinBudget_of_fitsBeside {Component : Type} (externals : Externals)
    (gateway : GatewayState Component) (request : InboundRequest) (remoteAddr : SocketAddr)
    (around : Surroundings Component) (forward : Forward)
    (prepared : prepare externals gateway request remoteAddr around = .forward forward)
    (events : List Event) (final : State)
    (fit : Runs.Guarded (step externals) FitsBeside (start forward) events)
    (completed : Runs.run (step externals) (start forward) events = some final) :
    WithinBudget gateway.storageConfig.maxCaptureBytesPerRequest final := by
  have budget := (forward_settings externals gateway request remoteAddr around forward
    prepared).2
  rw [← budget]
  exact (Runs.guarded_invariant (step externals) FitsBeside (Budgeted forward.maxCaptureBytes)
    (fun state event next => step_budgeted externals forward.maxCaptureBytes state event next)
    (start forward) final events (start_budgeted forward) fit completed).written

/-- A text response of sixty-four bytes, the whole budget of `uploadGateway`. -/
def longResponse : List Event :=
  [.responsePoll (.frame (.data (List.replicate 64 0))), .responsePoll .ended]

def textHead : Event :=
  .attemptEnded (fun _ => ⟨idleContext, .response ⟨200, [("content-type", .ofAscii "text/plain")]⟩⟩)
    stoppedClock ⟨[], []⟩

/-- An upload that ends before the response's head leaves the response the rest, and the capture
stays within the budget. -/
theorem withinBudget_of_finished_upload : ∃ final,
    Runs.run (step plainExternals) (start uploadForward)
        ([.requestPoll, .requestPoll, textHead] ++ longResponse) = some final ∧
      final.enqueued.length = 1 ∧
      WithinBudget uploadGateway.storageConfig.maxCaptureBytesPerRequest final :=
  ⟨_, rfl, rfl, withinBudget_of_fitsBeside plainExternals uploadGateway uploadRequest localAddr
    uploadAround uploadForward prepare_upload
    ([.requestPoll, .requestPoll, textHead] ++ longResponse) _ (by decide) rfl⟩

/-- An upload that goes on after the response's head stores two bytes more than the
budget. -/
theorem early_head_exceeds_budget : ∃ final write,
    prepare plainExternals uploadGateway uploadRequest localAddr uploadAround =
        .forward uploadForward ∧
      Runs.run (step plainExternals) (start uploadForward)
        ([textHead, .requestPoll, .requestPoll] ++ longResponse) = some final ∧
      final.enqueued = [write] ∧ write.capturedBytes = 66 ∧
      uploadGateway.storageConfig.maxCaptureBytesPerRequest = 64 :=
  ⟨_, _, prepare_upload, rfl, rfl, rfl, rfl⟩

end Exchange

end TraceGate
