import TraceGate.ForwardedBodies
import TraceGate.Telemetry

/-!
# Connections that go away

The handler of a request is a future. It runs from one await to the next, and when the
client's connection is lost before a response was returned, the server drops it at the
await where it is. The awaits are the frames read for a body preview, the calls of the
plugins, and the attempts at the upstream; here each of them is a point at which the
handler is suspended, with what it has computed so far.

The log line, the metric and the response's finalizer come after the last await. So a
request leaves one of each exactly when its handler is not dropped at an await. A handler
that is not dropped computes what `handle` computes.
-/

namespace TraceGate

namespace Cancellation

variable {Component : Type}

/-- A request with the gateway that handles it and what happens around it. The redaction is
the one loaded when the finalizer is attached. -/
structure Call (Component : Type) where
  externals : Externals
  gateway : GatewayState Component
  request : InboundRequest
  remoteAddr : SocketAddr
  around : Surroundings Component
  redaction : RedactionConfig

/-- The awaits of the handler. -/
inductive Await (Component : Type) where
  /-- The next frame of the body, for the preview. -/
  | frame (route : Route) (preview : List UInt8) (read rest : List Frame)
  /-- A plugin's answer, with the plugins after it. -/
  | plugin (route : Route) (bodyPreview : Option (List UInt8)) (body : Body)
      (plugin : Policy.LoadedPlugin Component) (rest : List Nat) (turn : Nat)
      (progress : Policy.Progress Component)
  /-- The client's answer to the request sent last, with the attempts left after it. -/
  | attempt (forward : Forward) (left turn : Nat) (sent : List UpstreamRequest)

/-- Where the handler gets to: another await, or its end. -/
inductive Next (Component : Type) where
  | await (point : Await Component)
  | returned (handled : Handled)
  | unrecorded (response : ResponseHead)

namespace Call

variable (call : Call Component)

def facts : RequestFacts :=
  requestFacts call.externals call.gateway.redaction call.around.freshRequestId call.request
    call.remoteAddr

def exit (pluginMetrics : List Policy.PolicyDecisionRecord) (exit : LocalExit) :
    Next Component :=
  .returned (exit.handled call.externals call.facts call.around.clock pluginMetrics)

/-- The straight line from the result of the attempts to the response. -/
def conclude (forward : Forward) (attempted : Attempted) : Next Component :=
  .returned (forward.finish call.externals call.around.clock attempted
    (forward.captureAfter call.around.polled))

/-- The loop of `request_with_retries` up to the next request that can be built. -/
def retry (forward : Forward) :
    Nat → Nat → Option AttemptError → List UpstreamRequest → Next Component
  | 0, _, lastError, sent =>
      call.conclude forward
        ⟨.error (lastError.getD (.transport "no attempts made")), sent⟩
  | left + 1, turn, _, sent =>
      match buildUpstreamRequest call.externals (call.around.attempts turn).context
          forward.template .empty forward.upstream forward.facts.requestId
          forward.facts.remoteAddr with
      | .error err => retry forward left (turn + 1) (some err) sent
      | .ok request => .await (.attempt forward left turn (sent ++ [request]))

def attempts (forward : Forward) : Next Component :=
  if forward.retryEligible then
    call.retry forward (min (forward.route.retries + 1) u32Max) 0 none []
  else
    match buildUpstreamRequest call.externals (call.around.attempts 0).context forward.template
        forward.body forward.upstream forward.facts.requestId forward.facts.remoteAddr with
    | .error err => call.conclude forward ⟨.error err, []⟩
    | .ok request => .await (.attempt forward 0 0 [request])

def forwardTo (route : Route) (body : Body) (evaluation : Policy.PolicyEvaluation)
    (upstreamIndex : Nat) (upstream : Upstream) : Forward :=
  TraceGate.forwardTo call.externals call.gateway call.request call.remoteAddr call.around route
    body evaluation upstreamIndex upstream

/-- From the plugins' verdict to the first attempt. -/
def verdict (route : Route) (body : Body) (evaluation : Policy.PolicyEvaluation) :
    Next Component :=
  match evaluation.denied with
  | some deny =>
      let isSlow := decide (route.capture.slowThreshold ≤ call.around.clock.slowElapsed)
      call.exit evaluation.records (policyDeniedExit route deny isSlow evaluation.records)
  | none =>
      match call.around.selected with
      | none =>
          call.exit evaluation.records (allUpstreamsUnhealthyExit route evaluation.records)
      | some (upstreamIndex, upstream) =>
          call.attempts (call.forwardTo route body evaluation upstreamIndex upstream)

/-- The loop over the plugins up to the next call. -/
def plugins (route : Route) (bodyPreview : Option (List UInt8)) (body : Body) :
    List Nat → Nat → Policy.Progress Component → Next Component
  | [], _, progress => call.verdict route body progress.evaluation
  | index :: rest, turn, progress =>
      match call.gateway.policy.plugins[index]? with
      | none => plugins route bodyPreview body rest turn progress
      | some plugin => .await (.plugin route bodyPreview body plugin rest turn progress)

def evaluate (route : Route) (bodyPreview : Option (List UInt8)) (body : Body) :
    Next Component :=
  call.plugins route bodyPreview body ((call.gateway.policy.routePlugins route.id).getD []) 0
    ⟨⟨none, [], [], []⟩, []⟩

/-- The number of bytes previewed for a route. -/
def previewLimit (route : Route) : Nat :=
  min (call.gateway.policy.maxBodyPreviewBytes route.id) usizeMax

/-- The preview with what it takes of a frame. -/
def extend (route : Route) (preview : List UInt8) (frame : Frame) : List UInt8 :=
  match frame.dataRef with
  | some data =>
      preview ++ data.take (min (call.previewLimit route - preview.length) data.length)
  | none => preview

/-- The head of the loop of `split_body_preview`. -/
def preview (route : Route) (preview : List UInt8) (read rest : List Frame) : Next Component :=
  if preview.length < call.previewLimit route then .await (.frame route preview read rest)
  else call.evaluate route (some preview) { call.request.body with frames := read ++ rest }

/-- The handler up to its first await. -/
def begin : Next Component :=
  match routeFor call.gateway call.request with
  | none => call.exit [] noRouteExit
  | some route =>
      match call.gateway.runtimeFor route with
      | none => .unrecorded (responseWithRequestId call.externals 503 call.facts.requestId)
      | some _ =>
          if !call.around.admitted then call.exit [] (concurrencyLimitExit route)
          else if call.gateway.policy.maxBodyPreviewBytes route.id > 0 then
            call.preview route [] [] call.request.body.frames
          else call.evaluate route none call.request.body

/-- The handler from an await to the next, once what it waits for is there. -/
def resume : Await Component → Next Component
  | .frame route preview read [] =>
      match call.request.body.failure with
      | some err => call.exit [] (previewFailedExit route err)
      | none =>
          call.evaluate route (some preview) { call.request.body with frames := read ++ [] }
  | .frame route preview read (frame :: rest) =>
      call.preview route (call.extend route preview frame) (read ++ [frame]) rest
  | .plugin route bodyPreview body plugin rest turn progress =>
      let request := policyRequest call.externals call.gateway call.facts route
        call.request.headers bodyPreview
      let input := request.inputFor plugin.config
      let outcome := call.around.outcomes turn plugin input
      let invocations := progress.invocations ++ [⟨plugin, input, outcome⟩]
      match Policy.settle call.externals.http plugin route.id outcome with
      | .ok (decision, record) =>
          let evaluation := progress.evaluation.merge decision record
          match decision.deny with
          | some deny => call.verdict route body { evaluation with denied := some deny }
          | none => call.plugins route bodyPreview body rest (turn + 1) ⟨evaluation, invocations⟩
      | .error record =>
          call.verdict route body
            { progress.evaluation with
              denied := some ⟨403, "request denied by policy"⟩
              records := progress.evaluation.records ++ [record] }
  | .attempt forward left turn sent =>
      match call.around.answers turn with
      | .timedOut => call.retry forward left (turn + 1) (some .timeout) sent
      | .failed reason => call.retry forward left (turn + 1) (some (.transport reason)) sent
      | .response head =>
          call.conclude forward
            ⟨.ok (identified call.externals forward.facts.requestId head), sent⟩

/-! ## What an undropped handler computes -/

/-- What is left to compute once the plugins have decided. -/
def decided (route : Route) (body : Body) (evaluation : Policy.PolicyEvaluation) : Handled :=
  match evaluation.denied with
  | some deny =>
      let isSlow := decide (route.capture.slowThreshold ≤ call.around.clock.slowElapsed)
      LocalExit.handled call.externals call.facts call.around.clock evaluation.records
        (policyDeniedExit route deny isSlow evaluation.records)
  | none =>
      match call.around.selected with
      | none =>
          LocalExit.handled call.externals call.facts call.around.clock evaluation.records
            (allUpstreamsUnhealthyExit route evaluation.records)
      | some (upstreamIndex, upstream) =>
          let forward := call.forwardTo route body evaluation upstreamIndex upstream
          forward.finish call.externals call.around.clock
            (forward.attempt call.externals call.around.attempts)
            (forward.captureAfter call.around.polled)

/-- The evaluation of the plugins that are left. -/
def evaluated (route : Route) (bodyPreview : Option (List UInt8)) (rest : List Nat) (turn : Nat)
    (progress : Policy.Progress Component) : Policy.PolicyEvaluation :=
  (Policy.evaluateFrom call.externals.http call.gateway.policy call.around.outcomes
    (policyRequest call.externals call.gateway call.facts route call.request.headers bodyPreview)
    rest turn progress).evaluation

/-- The attempts that are left after an answer. -/
def attempted (forward : Forward) (left turn : Nat) (sent : List UpstreamRequest) : Attempted :=
  let retried := fun err => retryLoop call.externals forward.upstream forward.template
    forward.facts.requestId forward.facts.remoteAddr call.around.attempts left (turn + 1)
    (some err) sent
  match call.around.answers turn with
  | .timedOut => retried .timeout
  | .failed reason => retried (.transport reason)
  | .response head => ⟨.ok (identified call.externals forward.facts.requestId head), sent⟩

/-- What is left to compute from a preview, with all plugins to call. -/
def previewed (route : Route) (preview : List UInt8) (read rest : List Frame) : Handled :=
  match splitFrames (call.previewLimit route) call.request.body.failure preview read rest with
  | .error err =>
      LocalExit.handled call.externals call.facts call.around.clock []
        (previewFailedExit route err)
  | .ok (preview, read, rest) =>
      call.decided route { call.request.body with frames := read ++ rest }
        (call.evaluated route (some preview)
          ((call.gateway.policy.routePlugins route.id).getD []) 0 ⟨⟨none, [], [], []⟩, []⟩)

/-- What the handler returns from an await if it is not dropped. -/
def outcome : Await Component → Handled
  | .frame route preview read [] =>
      match call.request.body.failure with
      | some err =>
          LocalExit.handled call.externals call.facts call.around.clock []
            (previewFailedExit route err)
      | none =>
          call.decided route { call.request.body with frames := read ++ [] }
            (call.evaluated route (some preview)
              ((call.gateway.policy.routePlugins route.id).getD []) 0 ⟨⟨none, [], [], []⟩, []⟩)
  | .frame route preview read (frame :: rest) =>
      call.previewed route (call.extend route preview frame) (read ++ [frame]) rest
  | .plugin route bodyPreview body plugin rest turn progress =>
      let request := policyRequest call.externals call.gateway call.facts route
        call.request.headers bodyPreview
      let input := request.inputFor plugin.config
      let outcome := call.around.outcomes turn plugin input
      let invocations := progress.invocations ++ [⟨plugin, input, outcome⟩]
      match Policy.settle call.externals.http plugin route.id outcome with
      | .ok (decision, record) =>
          let evaluation := progress.evaluation.merge decision record
          match decision.deny with
          | some deny => call.decided route body { evaluation with denied := some deny }
          | none =>
              call.decided route body
                (call.evaluated route bodyPreview rest (turn + 1) ⟨evaluation, invocations⟩)
      | .error record =>
          call.decided route body
            { progress.evaluation with
              denied := some ⟨403, "request denied by policy"⟩
              records := progress.evaluation.records ++ [record] }
  | .attempt forward left turn sent =>
      forward.finish call.externals call.around.clock (call.attempted forward left turn sent)
        (forward.captureAfter call.around.polled)

/-- What the handler returns from where it got to. -/
def result : Next Component → Except ResponseHead Handled
  | .await point => .ok (call.outcome point)
  | .returned handled => .ok handled
  | .unrecorded response => .error response

/-- What the handler returns from inside the loop of attempts is what `retryLoop` computes from
the same place.

The induction is over the attempts that are left. Each is an await that ends as the client
answers. -/
theorem result_retry (forward : Forward) (left turn : Nat) (lastError : Option AttemptError)
    (sent : List UpstreamRequest) :
    call.result (call.retry forward left turn lastError sent) =
      .ok (forward.finish call.externals call.around.clock
        (retryLoop call.externals forward.upstream forward.template forward.facts.requestId
          forward.facts.remoteAddr call.around.attempts left turn lastError sent)
        (forward.captureAfter call.around.polled)) := by
  induction left generalizing turn lastError sent with
  | zero => rfl
  | succ left inductionHypothesis =>
    rw [retry, retryLoop, requestOnce]
    cases buildUpstreamRequest call.externals (call.around.attempts turn).context forward.template
        .empty forward.upstream forward.facts.requestId forward.facts.remoteAddr with
    | error err =>
      simp only [List.append_nil]
      exact inductionHypothesis _ _ _
    | ok request =>
      simp only [result, outcome, attempted, Surroundings.answers]
      cases (call.around.attempts turn).answer <;> rfl

/-- What the handler returns from the first attempt on is the finished result of all
attempts. -/
theorem result_attempts (forward : Forward) :
    call.result (call.attempts forward) =
      .ok (forward.finish call.externals call.around.clock
        (forward.attempt call.externals call.around.attempts)
        (forward.captureAfter call.around.polled)) := by
  unfold attempts Forward.attempt
  split
  · exact call.result_retry forward _ 0 none []
  · rw [requestOnce]
    cases buildUpstreamRequest call.externals (call.around.attempts 0).context forward.template
        forward.body forward.upstream forward.facts.requestId forward.facts.remoteAddr with
    | error err => rfl
    | ok request =>
      simp only [result, outcome, attempted, Surroundings.answers]
      cases (call.around.attempts 0).answer <;> rfl

/-- What the handler returns once the plugins have decided is what the decision comes to: a
denial, no upstream, or the result of the attempts. -/
theorem result_verdict (route : Route) (body : Body) (evaluation : Policy.PolicyEvaluation) :
    call.result (call.verdict route body evaluation) =
      .ok (call.decided route body evaluation) := by
  unfold verdict decided
  cases evaluation.denied with
  | some deny => rfl
  | none =>
    cases call.around.selected with
    | none => rfl
    | some selected => exact call.result_attempts _

/-- What the handler returns from inside the chain of plugins is what the rest of the chain
decides.

The induction is over the plugins left. Each call is an await, and a denial ends the chain. -/
theorem result_plugins (route : Route) (bodyPreview : Option (List UInt8)) (body : Body)
    (rest : List Nat) (turn : Nat) (progress : Policy.Progress Component) :
    call.result (call.plugins route bodyPreview body rest turn progress) =
      .ok (call.decided route body (call.evaluated route bodyPreview rest turn progress)) := by
  induction rest generalizing turn progress with
  | nil => exact call.result_verdict route body progress.evaluation
  | cons index rest inductionHypothesis =>
    rw [plugins, evaluated, Policy.evaluateFrom]
    cases call.gateway.policy.plugins[index]? with
    | none => exact inductionHypothesis turn progress
    | some plugin =>
      have routeId : (policyRequest call.externals call.gateway call.facts route
        call.request.headers bodyPreview).routeId = route.id := rfl
      simp only [result, outcome, routeId]
      cases Policy.settle call.externals.http plugin route.id (call.around.outcomes turn plugin
          ((policyRequest call.externals call.gateway call.facts route call.request.headers
            bodyPreview).inputFor plugin.config)) with
      | error record => rfl
      | ok settled =>
        obtain ⟨decision, record⟩ := settled
        cases denied : decision.deny with
        | some deny => simp only [denied]
        | none => simp only [denied, evaluated]

/-- What the handler returns from the first plugin on is what the whole chain decides. -/
theorem result_evaluate (route : Route) (bodyPreview : Option (List UInt8)) (body : Body) :
    call.result (call.evaluate route bodyPreview body) =
      .ok (call.decided route body (call.evaluated route bodyPreview
        ((call.gateway.policy.routePlugins route.id).getD []) 0 ⟨⟨none, [], [], []⟩, []⟩)) :=
  call.result_plugins route bodyPreview body _ 0 _

/-- What the handler returns while it reads the preview is what splitting the body there comes
to: an error of the body, or the decision of the plugins on what was read. -/
theorem result_preview (route : Route) (preview : List UInt8) (read rest : List Frame) :
    call.result (call.preview route preview read rest) =
      .ok (call.previewed route preview read rest) := by
  unfold Call.preview previewed
  split
  next short =>
    cases rest with
    | nil =>
      simp only [result, outcome, splitFrames, short, if_true]
      cases call.request.body.failure <;> rfl
    | cons frame rest =>
      cases data : frame.dataRef with
      | none => simp only [result, outcome, previewed, extend, splitFrames, short, if_true, data]
      | some bytes =>
        simp only [result, outcome, previewed, extend, splitFrames, short, if_true, data]
  next full =>
    rw [call.result_evaluate]
    cases rest with
    | nil => simp only [splitFrames, full, if_false]
    | cons frame rest => simp only [splitFrames, full, if_false]

/-- Going on from an await does not change what the handler returns.

There is a case for each kind of await: a frame of the body, a plugin, and an answer of the
client to a single or a repeated attempt. -/
theorem result_resume (point : Await Component) :
    call.result (call.resume point) = .ok (call.outcome point) := by
  cases point with
  | frame route preview read rest =>
    cases rest with
    | nil =>
      rw [resume, outcome]
      cases call.request.body.failure with
      | some err => rfl
      | none => exact call.result_evaluate route (some preview) _
    | cons frame rest => exact call.result_preview route _ _ rest
  | plugin route bodyPreview body plugin rest turn progress =>
    rw [resume, outcome]
    dsimp only
    split
    · split
      · exact call.result_verdict route body _
      · exact call.result_plugins route bodyPreview body rest (turn + 1) _
    · exact call.result_verdict route body _
  | attempt forward left turn sent =>
    rw [resume, outcome, attempted]
    cases call.around.answers turn with
    | timedOut => exact call.result_retry forward left (turn + 1) _ sent
    | failed reason => exact call.result_retry forward left (turn + 1) _ sent
    | response head => rfl

/-- The handler from its permit on, in the terms of `prepare`. -/
def admitted (route : Route) : Handled :=
  match previewFor call.gateway route call.request.body with
  | .error err =>
      LocalExit.handled call.externals call.facts call.around.clock []
        (previewFailedExit route err)
  | .ok (bodyPreview, body) =>
      call.decided route body (evaluationFor call.externals call.gateway call.request
        call.remoteAddr call.around route bodyPreview)

/-- What the handler returns once it holds a permit: it reads a preview only if a plugin of the
route asks for one. -/
theorem result_admitted (route : Route) :
    call.result (if call.gateway.policy.maxBodyPreviewBytes route.id > 0 then
        call.preview route [] [] call.request.body.frames
      else call.evaluate route none call.request.body) = .ok (call.admitted route) := by
  unfold admitted previewFor
  by_cases previews : call.gateway.policy.maxBodyPreviewBytes route.id > 0
  · have some : call.gateway.policy.maxBodyPreviewBytes route.id ≠ 0 := by omega
    simp only [previews, if_true, result_preview, previewed, splitBodyPreview, some, if_false,
      previewLimit]
    cases splitFrames (min (call.gateway.policy.maxBodyPreviewBytes route.id) usizeMax)
        call.request.body.failure [] [] call.request.body.frames with
    | error err => rfl
    | ok split => rfl
  · simp only [previews, if_false, result_evaluate]
    rfl

/-- From its beginning the handler returns what `handle` computes, so the handler with its
awaits and the one without agree.

The cases are the ways through `prepare`. -/
theorem result_begin :
    call.result call.begin =
      handle call.externals call.gateway call.request call.remoteAddr call.around := by
  have way := prepare_cases call.externals call.gateway call.request call.remoteAddr call.around
  unfold handle
  generalize prepare call.externals call.gateway call.request call.remoteAddr call.around =
    prepared at way
  unfold begin
  cases way with
  | noRoute unmatched =>
    rw [unmatched]
    rfl
  | unavailable route matched missing =>
    simp only [matched, missing]
    rfl
  | limited route matched runtime refused =>
    obtain ⟨_, present⟩ := Option.isSome_iff_exists.mp runtime
    simp only [matched, present, refused, Bool.not_false, if_true]
    rfl
  | previewFailed route err matched runtime admitted failed =>
    obtain ⟨_, present⟩ := Option.isSome_iff_exists.mp runtime
    simp only [matched, present, admitted, Bool.not_true, Bool.false_eq_true, if_false,
      result_admitted, Call.admitted, failed]
    rfl
  | denied route bodyPreview body deny previewed denied =>
    obtain ⟨_, present⟩ := Option.isSome_iff_exists.mp previewed.runtime
    simp only [previewed.matched, present, previewed.admitted, Bool.not_true, Bool.false_eq_true,
      if_false, result_admitted, Call.admitted, previewed.preview, decided, denied]
    rfl
  | unhealthy route bodyPreview body previewed undenied unselected =>
    obtain ⟨_, present⟩ := Option.isSome_iff_exists.mp previewed.runtime
    simp only [previewed.matched, present, previewed.admitted, Bool.not_true, Bool.false_eq_true,
      if_false, result_admitted, Call.admitted, previewed.preview, decided, undenied, unselected]
    rfl
  | forward route bodyPreview body index upstream previewed undenied selected =>
    obtain ⟨_, present⟩ := Option.isSome_iff_exists.mp previewed.runtime
    simp only [previewed.matched, present, previewed.admitted, Bool.not_true, Bool.false_eq_true,
      if_false, result_admitted, Call.admitted, previewed.preview, decided, undenied, selected]
    rfl

end Call

/-! ## Runs of one request -/

/-- Where the request stands. A response without a finalizer is streamed too. -/
inductive Phase (Component : Type) where
  | awaiting (point : Await Component)
  | responding (body : CapturingBody)
  | unrecorded
  | gone

structure State (Component : Type) where
  phase : Phase Component
  logs : List RequestLogRecord
  metrics : List RequestMetric
  enqueued : List CaptureWrite

/-- What the handler awaits is there, the response's body is polled, or the server drops
what it has of the request: the handler at an await, or the response's body, at its end
or before. -/
inductive Event where
  | ready
  | poll (requestCapture : CaptureBuffer) (poll : Poll)
  | drop (requestCapture : CaptureBuffer)

/-- The handler runs up to here. When it returns, it has written its log line and its
metric, and attached the finalizer. -/
def State.enter (call : Call Component) (state : State Component) :
    Next Component → State Component
  | .await point => { state with phase := .awaiting point }
  | .returned handled =>
      { state with
        phase := .responding
          (attachStorageFinalizer call.redaction handled.response.headers handled.finalizer)
        logs := state.logs ++ [handled.log]
        metrics := state.metrics ++ [handled.metric] }
  | .unrecorded _ => { state with phase := .unrecorded }

def step (call : Call Component) (state : State Component) : Event → Option (State Component)
  | .ready =>
      match state.phase with
      | .awaiting point => some (state.enter call (call.resume point))
      | _ => none
  | .poll requestCapture poll =>
      match state.phase with
      | .responding body =>
          let (body, write) := body.pollFrame call.externals.sha256 requestCapture poll
          some { state with phase := .responding body, enqueued := state.enqueued ++ write.toList }
      | .unrecorded => some state
      | _ => none
  | .drop requestCapture =>
      match state.phase with
      | .awaiting _ => some { state with phase := .gone }
      | .responding body =>
          let write := body.drop call.externals.sha256 requestCapture
          some { state with phase := .gone, enqueued := state.enqueued ++ write.toList }
      | .unrecorded => some { state with phase := .gone }
      | .gone => none

/-- The state at the handler's first await, or at its response. -/
def start (call : Call Component) : State Component :=
  State.enter call ⟨.gone, [], [], []⟩ call.begin

/-- One log line, one metric and one write. -/
def State.OneTrace (state : State Component) : Prop :=
  state.logs.length = 1 ∧ state.metrics.length = 1 ∧ state.enqueued.length = 1

/-- Once the request is gone it has left one trace. -/
def State.Traced (state : State Component) : Prop :=
  state.phase = .gone → state.OneTrace

/-- The handler is not dropped at an await. -/
def KeepsHandler (state : State Component) : Event → Prop
  | .drop _ =>
      match state.phase with
      | .awaiting _ => False
      | _ => True
  | _ => True

instance (state : State Component) : ∀ event, Decidable (KeepsHandler state event)
  | .ready => isTrue trivial
  | .poll _ _ => isTrue trivial
  | .drop _ =>
      match phase : state.phase with
      | .awaiting _ => isFalse (by simp [KeepsHandler, phase])
      | .responding _ => isTrue (by simp [KeepsHandler, phase])
      | .unrecorded => isTrue (by simp [KeepsHandler, phase])
      | .gone => isTrue (by simp [KeepsHandler, phase])

/-- A body has written once exactly when its finalizer is spent. -/
structure Writes (body : CapturingBody) (enqueued : List CaptureWrite) : Prop where
  unspent : body.finalizer.finalized = false →
    body.finalizer.record.isSome = true ∧ enqueued = []
  spent : body.finalizer.finalized = true → enqueued.length = 1

/-- The end of a body leaves its finalizer spent, with one write: the one that was taken before,
or the one taken now. -/
theorem Writes.finalize {body : CapturingBody} {enqueued : List CaptureWrite}
    (writes : Writes body enqueued) (sha256 : List UInt8 → String)
    (requestCapture : CaptureBuffer) :
    (body.finalize sha256 requestCapture).1.finalizer.finalized = true ∧
      (enqueued ++ (body.finalize sha256 requestCapture).2.toList).length = 1 := by
  cases finalized : body.finalizer.finalized with
  | true =>
    rw [CapturingBody.finalize_spent sha256 requestCapture body finalized]
    exact ⟨finalized, by simpa using writes.spent finalized⟩
  | false =>
    obtain ⟨held, rfl⟩ := writes.unspent finalized
    obtain ⟨spent, write, written, _⟩ :=
      CapturingBody.finalize_unspent sha256 requestCapture body finalized held
    exact ⟨spent, by simp [written]⟩

/-- A poll keeps the count of writes: it leaves the finalizer alone, or it ends the body and
spends it. -/
theorem Writes.pollFrame {body : CapturingBody} {enqueued : List CaptureWrite}
    (writes : Writes body enqueued) (sha256 : List UInt8 → String)
    (requestCapture : CaptureBuffer) (poll : Poll) :
    Writes (body.pollFrame sha256 requestCapture poll).1
      (enqueued ++ (body.pollFrame sha256 requestCapture poll).2.toList) := by
  rcases body.pollFrame_finalizer sha256 requestCapture poll with ⟨next, polled, same⟩ | ends
  · rw [polled]
    simp only [Option.toList_none, List.append_nil]
    exact ⟨same ▸ writes.unspent, same ▸ writes.spent⟩
  · rw [ends]
    obtain ⟨spent, one⟩ := writes.finalize sha256 requestCapture
    exact ⟨fun unspent => by simp [spent] at unspent, fun _ => one⟩

/-- Nothing is recorded before the handler returns, and then a line and a metric; the
write comes when the finalizer is spent. -/
def State.Inv (call : Call Component) (state : State Component) : Prop :=
  match state.phase with
  | .awaiting point =>
      handle call.externals call.gateway call.request call.remoteAddr call.around =
          .ok (call.outcome point) ∧
        state.logs = [] ∧ state.metrics = [] ∧ state.enqueued = []
  | .responding body =>
      (∃ handled, handle call.externals call.gateway call.request call.remoteAddr call.around =
          .ok handled ∧ state.logs = [handled.log] ∧ state.metrics = [handled.metric]) ∧
        Writes body state.enqueued
  | .unrecorded => False
  | .gone => True

/-- Where the handler gets to with nothing recorded keeps the invariant: it awaits something
else, or it returns and records its one line and its one metric. -/
theorem inv_enter (call : Call Component) (state : State Component) (next : Next Component)
    (handled : Handled)
    (returns : handle call.externals call.gateway call.request call.remoteAddr call.around =
      .ok handled)
    (result : call.result next = .ok handled)
    (unrecorded : state.logs = [] ∧ state.metrics = [] ∧ state.enqueued = []) :
    (state.enter call next).Inv call ∧ (state.enter call next).Traced := by
  obtain ⟨logs, metrics, enqueued⟩ := unrecorded
  cases next with
  | await point =>
    obtain rfl := Except.ok.inj result
    exact ⟨⟨returns, logs, metrics, enqueued⟩, by simp [State.enter, State.Traced]⟩
  | returned own =>
    obtain rfl := Except.ok.inj result
    refine ⟨⟨⟨own, returns, ?_, ?_⟩, ⟨fun _ => ⟨rfl, enqueued⟩, ?_⟩⟩, by
      simp [State.enter, State.Traced]⟩
    · simp [State.enter, logs]
    · simp [State.enter, metrics]
    · simp [attachStorageFinalizer]
  | unrecorded response => exact absurd result (by simp [Call.result])

/-- An await that ends keeps the invariant and loses no trace. -/
theorem ready_keeps (call : Call Component) (state next : State Component)
    (inv : state.Inv call) (taken : step call state .ready = some next) :
    next.Inv call ∧ next.Traced := by
  obtain ⟨phase, logs, metrics, enqueued⟩ := state
  cases phase with
  | awaiting point =>
    obtain rfl := Option.some.inj taken
    obtain ⟨returns, unrecorded⟩ := inv
    exact inv_enter call _ _ _ returns (call.result_resume point) unrecorded
  | responding body => exact absurd taken (by simp [step])
  | unrecorded => exact inv.elim
  | gone => exact absurd taken (by simp [step])

/-- A poll of the response's body writes once at most, when it spends the finalizer. -/
theorem poll_keeps (call : Call Component) (state next : State Component)
    (requestCapture : CaptureBuffer) (poll : Poll) (inv : state.Inv call)
    (taken : step call state (.poll requestCapture poll) = some next) :
    next.Inv call ∧ next.Traced := by
  obtain ⟨phase, logs, metrics, enqueued⟩ := state
  cases phase with
  | awaiting point => exact absurd taken (by simp [step])
  | unrecorded => exact inv.elim
  | gone => exact absurd taken (by simp [step])
  | responding body =>
    obtain rfl := Option.some.inj taken
    obtain ⟨returned, writes⟩ := inv
    exact ⟨⟨returned, writes.pollFrame call.externals.sha256 requestCapture poll⟩, by
      simp [State.Traced]⟩

/-- Dropping the response's body leaves one trace, dropping the handler none: the finalizer
writes when it is dropped, and the handler has none before it returns. -/
theorem drop_keeps (call : Call Component) (state next : State Component)
    (requestCapture : CaptureBuffer) (inv : state.Inv call)
    (taken : step call state (.drop requestCapture) = some next) :
    next.Inv call ∧ (next.Traced ↔ KeepsHandler state (.drop requestCapture)) := by
  obtain ⟨phase, logs, metrics, enqueued⟩ := state
  cases phase with
  | awaiting point =>
    obtain rfl := Option.some.inj taken
    obtain ⟨_, rfl, _⟩ := inv
    refine ⟨trivial, iff_of_false (fun traced => ?_) fun keeps => keeps⟩
    exact absurd (traced rfl).1 (by simp)
  | responding body =>
    obtain rfl := Option.some.inj taken
    obtain ⟨⟨handled, _, rfl, rfl⟩, writes⟩ := inv
    refine ⟨trivial, iff_of_true (fun _ => ⟨rfl, rfl, ?_⟩) (by simp [KeepsHandler])⟩
    exact (writes.finalize call.externals.sha256 requestCapture).2
  | unrecorded => exact inv.elim
  | gone => exact absurd taken (by simp [step])

/-- A request that is gone takes no step, so whatever takes one is still there. -/
theorem not_gone_of_step (call : Call Component) (state next : State Component) (event : Event)
    (taken : step call state event = some next) : state.phase ≠ .gone := by
  intro gone
  cases event <;> simp [step, gone] at taken

/-- A step keeps the invariant, and the request has left its trace after it exactly if it had
and the step does not drop the handler. -/
theorem step_keeps (call : Call Component) (state : State Component) (event : Event)
    (next : State Component) (inv : state.Inv call) (taken : step call state event = some next) :
    next.Inv call ∧ (next.Traced ↔ state.Traced ∧ KeepsHandler state event) := by
  have alive : state.Traced := fun gone =>
    absurd gone (not_gone_of_step call state next event taken)
  simp only [alive, true_and]
  cases event with
  | ready =>
    obtain ⟨kept, traced⟩ := ready_keeps call state next inv taken
    exact ⟨kept, iff_of_true traced trivial⟩
  | poll requestCapture poll =>
    obtain ⟨kept, traced⟩ := poll_keeps call state next requestCapture poll inv taken
    exact ⟨kept, iff_of_true traced trivial⟩
  | drop requestCapture => exact drop_keeps call state next requestCapture inv taken

/-- A state that was built for its configuration starts with nothing recorded, or with a
response that has its line and its metric. -/
theorem start_keeps (wasm : Policy.Wasmtime Component) (config : AppConfig)
    (call : Call Component) (built : GatewayState.new wasm config = .ok call.gateway) :
    (start call).Inv call ∧ (start call).Traced := by
  obtain ⟨handled, returns⟩ := exists_handled wasm config call.externals call.gateway call.request
    call.remoteAddr call.around built
  exact inv_enter call _ _ handled returns (call.result_begin.trans returns) ⟨rfl, rfl, rfl⟩

/-- In every run, whenever the client's connection is lost, the request has left exactly one
log line, one metric and one write exactly when its handler was not dropped at an await. -/
theorem one_trace_iff (wasm : Policy.Wasmtime Component) (config : AppConfig)
    (call : Call Component) (built : GatewayState.new wasm config = .ok call.gateway)
    (events : List Event) (final : State Component)
    (completed : Runs.run (step call) (start call) events = some final)
    (gone : final.phase = .gone) :
    final.OneTrace ↔ Runs.Guarded (step call) KeepsHandler (start call) events := by
  obtain ⟨inv, traced⟩ := start_keeps wasm config call built
  have kept := Runs.run_keeps_iff_guarded (step call) KeepsHandler (State.Inv call) State.Traced
    (step_keeps call) (start call) final events inv traced completed
  rw [← kept]
  exact ⟨fun one _ => one, fun traced => traced gone⟩

/-- An upload to the gateway of `uploadConfig`. -/
def uploadCall : Call Unit :=
  ⟨Exchange.plainExternals, uploadState, Exchange.uploadRequest, Exchange.localAddr,
    Exchange.uploadAround, ⟨[], []⟩⟩

/-- A connection that is lost while the response is streamed leaves one trace. -/
theorem one_trace_of_lost_stream :
    ∃ final, Runs.run (step uploadCall) (start uploadCall)
        [.ready, .poll .disabled .pending, .drop .disabled] = some final ∧ final.OneTrace :=
  ⟨_, rfl, (one_trace_iff Policy.permissiveWasm uploadConfig uploadCall rfl
    [.ready, .poll .disabled .pending, .drop .disabled] _ rfl rfl).mpr (by decide +kernel)⟩

/-- A connection lost while the upstream is awaited: the request was sent, and nothing
tells of it. -/
theorem lost_await_untraced :
    routeFor uploadState Exchange.uploadRequest = some Exchange.uploadRoute ∧
      ∃ final, Runs.run (step uploadCall) (start uploadCall) [.drop .disabled] = some final ∧
        final.phase = .gone ∧ final.logs = [] ∧ final.metrics = [] ∧ final.enqueued = [] ∧
        ¬final.OneTrace :=
  ⟨rfl, _, rfl, rfl, rfl, rfl, rfl, fun one => absurd one.1 (by decide)⟩

/-! ## The handler returns -/

/-- With what it awaits the handler comes to its end. -/
inductive Returns (call : Call Component) : Next Component → Prop where
  | returned (handled : Handled) : Returns call (.returned handled)
  | unrecorded (response : ResponseHead) : Returns call (.unrecorded response)
  | resumed (point : Await Component) (resumes : Returns call (call.resume point)) :
      Returns call (.await point)

namespace Returns

variable (call : Call Component)

/-- The loop of attempts ends: each await is followed by one attempt less or by the return.

By induction on the attempts that are left. -/
theorem retry (forward : Forward) (left turn : Nat) (lastError : Option AttemptError)
    (sent : List UpstreamRequest) : Returns call (call.retry forward left turn lastError sent) := by
  induction left generalizing turn lastError sent with
  | zero => exact .returned _
  | succ left inductionHypothesis =>
    rw [Call.retry]
    split
    · exact inductionHypothesis _ _ _
    · refine .resumed _ ?_
      rw [Call.resume]
      split
      · exact inductionHypothesis _ _ _
      · exact inductionHypothesis _ _ _
      · exact .returned _

/-- From the first attempt on the handler returns, whether or not it may retry. -/
theorem attempts (forward : Forward) : Returns call (call.attempts forward) := by
  unfold Call.attempts
  split
  · exact retry call forward _ 0 none []
  · split
    · exact .returned _
    · refine .resumed _ ?_
      rw [Call.resume]
      split
      · exact .returned _
      · exact .returned _
      · exact .returned _

/-- Once the plugins have decided the handler returns. -/
theorem verdict (route : Route) (body : Body) (evaluation : Policy.PolicyEvaluation) :
    Returns call (call.verdict route body evaluation) := by
  unfold Call.verdict
  split
  · exact .returned _
  · split
    · exact .returned _
    · exact attempts call _

/-- From inside the chain of plugins the handler returns, with one plugin less after each
await. -/
theorem plugins (route : Route) (bodyPreview : Option (List UInt8)) (body : Body)
    (rest : List Nat) (turn : Nat) (progress : Policy.Progress Component) :
    Returns call (call.plugins route bodyPreview body rest turn progress) := by
  induction rest generalizing turn progress with
  | nil => exact verdict call route body progress.evaluation
  | cons index rest inductionHypothesis =>
    rw [Call.plugins]
    split
    · exact inductionHypothesis turn progress
    · refine .resumed _ ?_
      rw [Call.resume]
      dsimp only
      split
      · split
        · exact verdict call route body _
        · exact inductionHypothesis (turn + 1) _
      · exact verdict call route body _

/-- While it reads a preview the handler returns, with one frame less after each await.

By induction on the frames that are left. Where the reading stops the plugins are called. -/
theorem preview (route : Route) (preview : List UInt8) (read rest : List Frame) :
    Returns call (call.preview route preview read rest) := by
  induction rest generalizing preview read with
  | nil =>
    unfold Call.preview
    split
    · refine .resumed _ ?_
      rw [Call.resume]
      split
      · exact .returned _
      · exact plugins call route _ _ _ 0 _
    · exact plugins call route _ _ _ 0 _
  | cons frame rest inductionHypothesis =>
    unfold Call.preview
    split
    · exact .resumed _ (inductionHypothesis _ _)
    · exact plugins call route _ _ _ 0 _

/-- Every handler returns after finitely many awaits, if each of them ends. -/
theorem begin : Returns call call.begin := by
  unfold Call.begin
  split
  · exact .returned _
  · split
    · exact .unrecorded _
    · split
      · exact .returned _
      · split
        · exact preview call _ [] [] _
        · exact plugins call _ _ _ _ 0 _

end Returns

end Cancellation

end TraceGate
