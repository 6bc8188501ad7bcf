import TraceGate.Forwarding
import TraceGate.Upstreams

/-!
# Handling one request

`handle_instrumented` in two stages. `prepare` takes a request as far as an exit
of the gateway's own or the choice of an upstream; `finish` turns the result of
the attempts into what is returned, logged, counted and handed to the finalizer.
Both read the configuration only through the state they are given, the one loaded
when the request arrived. What happens around the handler is a parameter: whether
a permit was free, what the plugins answered, which upstream was selected, what
the client answered, and every reading of the clock.

Span fields repeat the log record and are left out.
-/

namespace TraceGate

structure GatewayState (Component : Type) where
  router : List Route
  storageConfig : StorageConfig
  redaction : RedactionConfig
  policy : Policy.PolicyEngine Component
  routeRuntime : Map String RouteRuntime

variable {Component : Type}

namespace GatewayState

def new (wasm : Policy.Wasmtime Component) (config : AppConfig) :
    Except Policy.PolicyError (GatewayState Component) := do
  let routeRuntime := config.routes.foldl
    (fun (runtimes : Map String RouteRuntime) route =>
      runtimes.insert route.id (RouteRuntime.new route)) fun _ => none
  let policy ← Policy.PolicyEngine.new wasm config.plugins
  return ⟨config.routes, config.storage, config.redaction, policy, routeRuntime⟩

def runtimeFor (state : GatewayState Component) (route : Route) : Option RouteRuntime :=
  state.routeRuntime route.id

/-- The runtimes of a state are those of its routes: the last route under an identifier is the
one whose runtime stays.

Each insertion overwrites what is there, so the routes are looked up from the last one. -/
theorem routeRuntime_of_new (wasm : Policy.Wasmtime Component) (config : AppConfig)
    (state : GatewayState Component) (built : new wasm config = .ok state) (routeId : String) :
    state.routeRuntime routeId =
      (config.routes.reverse.find? fun route => decide (route.id = routeId)).map
        RouteRuntime.new := by
  have inserted : ∀ (routes : List Route) (runtimes : Map String RouteRuntime),
      routes.foldl (fun (runtimes : Map String RouteRuntime) route =>
          runtimes.insert route.id (RouteRuntime.new route)) runtimes routeId =
        ((routes.reverse.find? fun route => decide (route.id = routeId)).map
          RouteRuntime.new).or (runtimes routeId) := by
    intro routes
    induction routes with
    | nil => exact fun runtimes => rfl
    | cons route rest inductionHypothesis =>
      intro runtimes
      rw [List.foldl_cons, inductionHypothesis, List.reverse_cons, List.find?_append]
      cases rest.reverse.find? fun route => decide (route.id = routeId) with
      | some later => rfl
      | none =>
        by_cases same : routeId = route.id
        · simp [Map.insert, same]
        · simp [Map.insert, same, Ne.symm same]
  obtain ⟨policy, _, same⟩ := (bind_ok_iff _ _ _).mp built
  obtain rfl := Except.ok.inj same
  exact (inserted config.routes _).trans Option.or_none

/-- A runtime that the state was built with is that of one of its routes, with all counters at
their start. -/
theorem route_of_runtime (wasm : Policy.Wasmtime Component) (config : AppConfig)
    (state : GatewayState Component) (built : new wasm config = .ok state) (routeId : String)
    (runtime : RouteRuntime) (found : state.routeRuntime routeId = some runtime) :
    ∃ route ∈ config.routes, route.id = routeId ∧ runtime = RouteRuntime.new route := by
  rw [routeRuntime_of_new wasm config state built] at found
  obtain ⟨route, last, rfl⟩ := Option.map_eq_some_iff.mp found
  exact ⟨route, List.mem_reverse.mp (List.mem_of_find?_eq_some last),
    by simpa using List.find?_some last, rfl⟩

/-- The state a configuration builds routes by its table and has a runtime for every
route of it. -/
theorem new_eq_ok (wasm : Policy.Wasmtime Component) (config : AppConfig)
    (state : GatewayState Component) (built : new wasm config = .ok state) :
    state.router = config.routes ∧
      ∀ route ∈ config.routes, (state.runtimeFor route).isSome = true := by
  constructor
  · obtain ⟨policy, _, same⟩ := (bind_ok_iff _ _ _).mp built
    obtain rfl := Except.ok.inj same
    rfl
  · intro route member
    rw [runtimeFor, routeRuntime_of_new wasm config state built, Option.isSome_map,
      List.find?_isSome]
    exact ⟨route, List.mem_reverse.mpr member, decide_eq_true rfl⟩

end GatewayState

structure RequestLogRecord where
  requestId : String
  method : String
  path : String
  routeId : Option String
  upstream : Option String
  status : Nat
  latencyMs : Nat
  error : Option String
deriving DecidableEq

structure RequestMetric where
  routeId : Option String
  method : String
  status : Nat
  latency : Duration
  upstreamError : Bool
deriving DecidableEq

/-- The readings of the clock while a request is handled. -/
structure Clock where
  logElapsed : Duration
  metricElapsed : Duration
  slowElapsed : Duration
  recordElapsed : Duration
  nowMs : Int
  decisionNowMs : Nat → Int

/-- What the handler reads off the request before anything else. -/
structure RequestFacts where
  requestId : String
  traceId : Option String
  method : String
  redactedPath : String
  requestHeaders : List StoredHeader
  path : String
  redactedQuery : Option String
  queryHash : Option String
  remoteAddr : SocketAddr
deriving DecidableEq

def sha256Hex (externals : Externals) (value : String) : String :=
  externals.sha256 value.toUTF8.data.toList

def requestFacts (externals : Externals) (redaction : RedactionConfig) (freshRequestId : String)
    (request : InboundRequest) (remoteAddr : SocketAddr) : RequestFacts :=
  { requestId := requestIdFromHeaders externals freshRequestId request.headers
    traceId := ((request.headers.get "traceparent").bind HeaderValue.toStr).bind
      traceIdHexFromTraceparent
    method := request.method
    redactedPath := redactedPathAndQuery request.uri.path request.uri.query redaction
    requestHeaders := storedHeaders request.headers redaction
    path := request.uri.path
    redactedQuery := redactedQuery request.uri.query redaction
    queryHash := request.uri.query.map (sha256Hex externals)
    remoteAddr := remoteAddr }

/-- Everything one exit of the handler does: the response it returns (with the
gateway's own text, unless the body is the upstream's), its log record and
metric, the requests handed to the client, the result recorded for an upstream,
and the finalizer's input. -/
structure Handled where
  response : ResponseHead
  text : Option String
  log : RequestLogRecord
  metric : RequestMetric
  pluginMetrics : List Policy.PolicyDecisionRecord
  sent : List UpstreamRequest
  upstreamResult : Option (Nat × Bool)
  finalizer : StorageFinalizerInput

def isServerError (status : Nat) : Bool := 500 ≤ status && status ≤ 599

/-- `response_with_request_id_text`. -/
def responseWithRequestId (externals : Externals) (status : Nat) (requestId : String) :
    ResponseHead :=
  ⟨status, [(requestIdHeader, requestIdHeaderValue externals requestId)]⟩

/-- What distinguishes the exits that return a response of the gateway's own
without an attempt. -/
structure LocalExit where
  status : Nat
  message : String
  error : String
  routeId : Option String
  upstreamError : Bool
  isError : Bool
  isSlow : Bool
  capturePolicy : CapturePolicy
  captureDropped : Bool
  records : List Policy.PolicyDecisionRecord
  permit : Bool

def LocalExit.handled (externals : Externals) (facts : RequestFacts) (clock : Clock)
    (pluginMetrics : List Policy.PolicyDecisionRecord) (exit : LocalExit) : Handled :=
  { response := responseWithRequestId externals exit.status facts.requestId
    text := some exit.message
    log :=
      { requestId := facts.requestId, method := facts.method, path := facts.redactedPath
        routeId := exit.routeId, upstream := none, status := exit.status
        latencyMs := asMillis clock.logElapsed, error := some exit.error }
    metric :=
      { routeId := exit.routeId, method := facts.method, status := exit.status
        latency := clock.metricElapsed, upstreamError := exit.upstreamError }
    pluginMetrics := pluginMetrics
    sent := []
    upstreamResult := none
    finalizer :=
      { record :=
          { requestId := facts.requestId, traceId := facts.traceId, routeId := exit.routeId
            method := facts.method, path := facts.path, redactedQuery := facts.redactedQuery
            queryHash := facts.queryHash, status := exit.status
            latencyMs := asMillis clock.recordElapsed, upstream := none
            isError := exit.isError, isSlow := exit.isSlow
            capturePolicy := exit.capturePolicy.asStr
            captureDropped := exit.captureDropped, createdAtMs := clock.nowMs }
        requestHeaders := facts.requestHeaders
        requestCapture := .disabled
        shouldCapture := false
        requestContentType := none
        responseCaptureEnabled := false
        responseCaptureLimit := 0
        pluginDecisions :=
          pluginDecisionInserts facts.requestId exit.records clock.decisionNowMs
        permit := exit.permit } }

def noRouteExit : LocalExit :=
  { status := 404, message := "no route matched request", error := "no_route", routeId := none
    upstreamError := false, isError := false, isSlow := false, capturePolicy := .off
    captureDropped := false, records := [], permit := false }

def concurrencyLimitExit (route : Route) : LocalExit :=
  { status := 503, message := "route concurrency limit reached", error := "concurrency_limit"
    routeId := some route.id, upstreamError := true, isError := true, isSlow := false
    capturePolicy := route.capture.policy, captureDropped := true, records := [], permit := false }

def previewFailedExit (route : Route) (err : String) : LocalExit :=
  { status := 403, message := "request denied by policy"
    error := s!"policy_body_preview_failed: {err}", routeId := some route.id
    upstreamError := false, isError := false, isSlow := false
    capturePolicy := route.capture.policy, captureDropped := false, records := [], permit := true }

def policyDeniedExit (route : Route) (deny : Policy.PolicyDeny) (isSlow : Bool)
    (records : List Policy.PolicyDecisionRecord) : LocalExit :=
  let status := Policy.statusFromDeny deny
  { status := status, message := deny.message, error := "policy_denied", routeId := some route.id
    upstreamError := isServerError status, isError := isServerError status, isSlow := isSlow
    capturePolicy := route.capture.policy, captureDropped := false, records := records
    permit := true }

def allUpstreamsUnhealthyExit (route : Route) (records : List Policy.PolicyDecisionRecord) :
    LocalExit :=
  { status := 503, message := "all route upstreams are temporarily unhealthy"
    error := "all_upstreams_unhealthy", routeId := some route.id, upstreamError := true
    isError := true, isSlow := false, capturePolicy := route.capture.policy
    captureDropped := true, records := records, permit := true }

/-- A request on its way to an upstream. -/
structure Forward where
  facts : RequestFacts
  route : Route
  upstreamIndex : Nat
  upstream : Upstream
  requestContentType : Option String
  retryEligible : Bool
  maxCaptureBytes : Nat
  template : RequestTemplate
  body : Body
  records : List Policy.PolicyDecisionRecord

/-- What happens around the handler. `polled` is what the client had taken of the
body sent upstream when the attempt ended. -/
structure Surroundings (Component : Type) where
  freshRequestId : String
  admitted : Bool
  outcomes : Policy.Outcomes Component
  selected : Option (Nat × Upstream)
  attempts : Nat → Attempt
  polled : List Frame
  clock : Clock

/-- What the HTTP client answers to each attempt. -/
def Surroundings.answers (around : Surroundings Component) (turn : Nat) : ClientAnswer :=
  (around.attempts turn).answer

/-- How far a request comes before an attempt. -/
inductive Prepared where
  | unavailable (response : ResponseHead)
  | exit (handled : Handled)
  | forward (forward : Forward)

/-- The body preview the route's plugins ask for, and the body left to send. -/
def previewFor (state : GatewayState Component) (route : Route) (body : Body) :
    Except String (Option (List UInt8) × Body) :=
  let limit := state.policy.maxBodyPreviewBytes route.id
  if limit > 0 then (splitBodyPreview body limit).map fun (preview, body) => (some preview, body)
  else .ok (none, body)

def policyRequest (externals : Externals) (state : GatewayState Component) (facts : RequestFacts)
    (route : Route) (headers : HeaderMap) (bodyPreview : Option (List UInt8)) :
    Policy.PolicyRequest :=
  { routeId := route.id, requestId := facts.requestId, method := facts.method, path := facts.path
    query := facts.redactedQuery, headers := policyHeaders headers
    sensitiveHeaders := state.redaction.headers
    clientAddress := externals.socketAddrText facts.remoteAddr, bodyPreview := bodyPreview }

/-- The route a request is matched to. -/
def routeFor (state : GatewayState Component) (request : InboundRequest) : Option Route :=
  matchRoute state.router ((request.headers.get "host").bind HeaderValue.toStr) request.uri.path

section Prepare

variable (externals : Externals) (state : GatewayState Component) (request : InboundRequest)
  (remoteAddr : SocketAddr) (around : Surroundings Component)

/-- The calls of the route's plugins on the request and its preview. -/
def progressFor (route : Route) (bodyPreview : Option (List UInt8)) :
    Policy.Progress Component :=
  state.policy.evaluate externals.http around.outcomes
    (policyRequest externals state
      (requestFacts externals state.redaction around.freshRequestId request remoteAddr) route
      request.headers bodyPreview)

/-- What the route's plugins make of the request and its preview. -/
def evaluationFor (route : Route) (bodyPreview : Option (List UInt8)) : Policy.PolicyEvaluation :=
  (progressFor externals state request remoteAddr around route bodyPreview).evaluation

/-- An exit of the gateway's own, with this request's facts. -/
def exitHandled (pluginMetrics : List Policy.PolicyDecisionRecord) (exit : LocalExit) : Handled :=
  exit.handled externals
    (requestFacts externals state.redaction around.freshRequestId request remoteAddr)
    around.clock pluginMetrics

/-- The request as it goes to the selected upstream, once the plugins have let it pass. -/
def forwardTo (route : Route) (body : Body) (evaluation : Policy.PolicyEvaluation)
    (upstreamIndex : Nat) (upstream : Upstream) : Forward :=
  { facts := requestFacts externals state.redaction around.freshRequestId request remoteAddr
    route := route, upstreamIndex := upstreamIndex, upstream := upstream
    requestContentType := contentType request.headers
    retryEligible := retryEligible request.method request.headers
    maxCaptureBytes := state.storageConfig.maxCaptureBytesPerRequest
    template := ⟨request.method, request.uri, request.version,
      applyPolicyMutations externals.http request.headers evaluation.setHeaders
        evaluation.removeHeaders⟩
    body := body
    records := evaluation.records }

/-- The handler up to the choice of an upstream. The permit is held from the preview to the end
of the response's body. -/
def prepare : Prepared :=
  let exit := fun pluginMetrics exit =>
    Prepared.exit (exitHandled externals state request remoteAddr around pluginMetrics exit)
  match routeFor state request with
  | none => exit [] noRouteExit
  | some route =>
      match state.runtimeFor route with
      | none =>
          .unavailable (responseWithRequestId externals 503
            (requestIdFromHeaders externals around.freshRequestId request.headers))
      | some _ =>
          if !around.admitted then exit [] (concurrencyLimitExit route)
          else
            match previewFor state route request.body with
            | .error err => exit [] (previewFailedExit route err)
            | .ok (bodyPreview, body) =>
                let evaluation :=
                  evaluationFor externals state request remoteAddr around route bodyPreview
                match evaluation.denied with
                | some deny =>
                    let isSlow := decide (route.capture.slowThreshold ≤ around.clock.slowElapsed)
                    exit evaluation.records (policyDeniedExit route deny isSlow evaluation.records)
                | none =>
                    match around.selected with
                    | none =>
                        exit evaluation.records
                          (allUpstreamsUnhealthyExit route evaluation.records)
                    | some (upstreamIndex, upstream) =>
                        .forward (forwardTo externals state request remoteAddr around route body
                          evaluation upstreamIndex upstream)

end Prepare

namespace Forward

def captureEnabled (forward : Forward) : Bool :=
  decide (forward.route.capture.policy ≠ .off) && forward.route.capture.captureRequestBody &&
    (forward.requestContentType.map isCapturableContentType).getD false

/-- The request's buffer before the client has polled the body. -/
def requestCapture (forward : Forward) : CaptureBuffer :=
  .new forward.captureEnabled forward.maxCaptureBytes

/-- The attempts: with retries and no body, or once with the request's own. -/
def attempt (externals : Externals) (forward : Forward) (attempts : Nat → Attempt) :
    Attempted :=
  if forward.retryEligible then
    requestWithRetries externals forward.route forward.upstream forward.template
      forward.facts.requestId forward.facts.remoteAddr attempts
  else
    requestOnce externals forward.upstream forward.template forward.body
      forward.facts.requestId forward.facts.remoteAddr (attempts 0)

/-- The response for a result, the gateway's text for it, and the logged error. -/
def respond (externals : Externals) (forward : Forward) :
    Except AttemptError ResponseHead → ResponseHead × Option String × Option String
  | .ok response => (response, none, none)
  | .error .timeout =>
      (responseWithRequestId externals 504 forward.facts.requestId,
        some "upstream request timed out", some "timeout")
  | .error (.transport err) =>
      (responseWithRequestId externals 502 forward.facts.requestId,
        some "upstream request failed", some err)
  | .error (.buildRequest err) =>
      (responseWithRequestId externals 502 forward.facts.requestId,
        some "failed to build upstream request", some err)

/-- The rest of the handler, once the attempts have a result and the request's
buffer is as it is at that moment. -/
def finish (externals : Externals) (forward : Forward) (clock : Clock) (attempted : Attempted)
    (requestCapture : CaptureBuffer) : Handled :=
  let (response, text, error) := forward.respond externals attempted.result
  let facts := forward.facts
  let capture := forward.route.capture
  let upstreamError := error.isSome || isServerError response.status
  let isSlow := decide (capture.slowThreshold ≤ clock.slowElapsed)
  let shouldCapture := capture.policy.shouldCapture upstreamError isSlow
  let responseCaptureEnabled := shouldCapture && decide (0 < capture.captureResponseBodyBytes) &&
    ((contentType response.headers).map isCapturableContentType).getD false
  let responseCaptureLimit :=
    if responseCaptureEnabled then
      min (forward.maxCaptureBytes - requestCapture.capturedLen) capture.captureResponseBodyBytes
    else 0
  { response := response
    text := text
    log :=
      { requestId := facts.requestId, method := facts.method, path := facts.redactedPath
        routeId := some forward.route.id, upstream := some forward.upstream.origin
        status := response.status, latencyMs := asMillis clock.logElapsed, error := error }
    metric :=
      { routeId := some forward.route.id, method := facts.method, status := response.status
        latency := clock.metricElapsed, upstreamError := upstreamError }
    pluginMetrics := forward.records
    sent := attempted.sent
    upstreamResult := some (forward.upstreamIndex, upstreamError)
    finalizer :=
      { record :=
          { requestId := facts.requestId, traceId := facts.traceId
            routeId := some forward.route.id, method := facts.method, path := facts.path
            redactedQuery := facts.redactedQuery, queryHash := facts.queryHash
            status := response.status, latencyMs := asMillis clock.recordElapsed
            upstream := some forward.upstream.origin, isError := upstreamError, isSlow := isSlow
            capturePolicy := capture.policy.asStr, captureDropped := false
            createdAtMs := clock.nowMs }
        requestHeaders := facts.requestHeaders
        requestCapture := requestCapture
        shouldCapture := shouldCapture
        requestContentType := forward.requestContentType
        responseCaptureEnabled := responseCaptureEnabled
        responseCaptureLimit := responseCaptureLimit
        pluginDecisions := pluginDecisionInserts facts.requestId forward.records
          clock.decisionNowMs
        permit := true } }

/-- The buffer when the client has polled these frames; a body that is dropped for
retries is never polled. -/
def captureAfter (forward : Forward) (polled : List Frame) : CaptureBuffer :=
  if forward.retryEligible then forward.requestCapture
  else forward.requestCapture.recordAll (dataChunks polled)

end Forward

/-- `Proxy::handle_instrumented` up to attaching the finalizer. -/
def handle (externals : Externals) (state : GatewayState Component) (request : InboundRequest)
    (remoteAddr : SocketAddr) (around : Surroundings Component) : Except ResponseHead Handled :=
  match prepare externals state request remoteAddr around with
  | .unavailable response => .error response
  | .exit handled => .ok handled
  | .forward forward =>
      .ok (forward.finish externals around.clock (forward.attempt externals around.attempts)
        (forward.captureAfter around.polled))

/-! ## How far a request comes -/

section Cases

variable (externals : Externals) (state : GatewayState Component) (request : InboundRequest)
  (remoteAddr : SocketAddr) (around : Surroundings Component)

/-- A request that has its route, a permit and its preview. -/
structure Previewed (route : Route) (bodyPreview : Option (List UInt8)) (body : Body) :
    Prop where
  matched : routeFor state request = some route
  runtime : (state.runtimeFor route).isSome = true
  admitted : around.admitted = true
  preview : previewFor state route request.body = .ok (bodyPreview, body)

/-- The ways through `prepare`. -/
inductive PrepareCase : Prepared → Prop where
  | noRoute (unmatched : routeFor state request = none) :
      PrepareCase (.exit (exitHandled externals state request remoteAddr around [] noRouteExit))
  | unavailable (route : Route) (matched : routeFor state request = some route)
      (missing : state.runtimeFor route = none) :
      PrepareCase (.unavailable (responseWithRequestId externals 503
        (requestIdFromHeaders externals around.freshRequestId request.headers)))
  | limited (route : Route) (matched : routeFor state request = some route)
      (runtime : (state.runtimeFor route).isSome = true) (refused : around.admitted = false) :
      PrepareCase (.exit (exitHandled externals state request remoteAddr around []
        (concurrencyLimitExit route)))
  | previewFailed (route : Route) (err : String) (matched : routeFor state request = some route)
      (runtime : (state.runtimeFor route).isSome = true) (admitted : around.admitted = true)
      (failed : previewFor state route request.body = .error err) :
      PrepareCase (.exit (exitHandled externals state request remoteAddr around []
        (previewFailedExit route err)))
  | denied (route : Route) (bodyPreview : Option (List UInt8)) (body : Body)
      (deny : Policy.PolicyDeny)
      (previewed : Previewed state request around route bodyPreview body)
      (denied : (evaluationFor externals state request remoteAddr around route
        bodyPreview).denied = some deny) :
      PrepareCase (.exit (exitHandled externals state request remoteAddr around
        (evaluationFor externals state request remoteAddr around route bodyPreview).records
        (policyDeniedExit route deny
          (decide (route.capture.slowThreshold ≤ around.clock.slowElapsed))
          (evaluationFor externals state request remoteAddr around route bodyPreview).records)))
  | unhealthy (route : Route) (bodyPreview : Option (List UInt8)) (body : Body)
      (previewed : Previewed state request around route bodyPreview body)
      (undenied : (evaluationFor externals state request remoteAddr around route
        bodyPreview).denied = none)
      (unselected : around.selected = none) :
      PrepareCase (.exit (exitHandled externals state request remoteAddr around
        (evaluationFor externals state request remoteAddr around route bodyPreview).records
        (allUpstreamsUnhealthyExit route
          (evaluationFor externals state request remoteAddr around route bodyPreview).records)))
  | forward (route : Route) (bodyPreview : Option (List UInt8)) (body : Body)
      (upstreamIndex : Nat) (upstream : Upstream)
      (previewed : Previewed state request around route bodyPreview body)
      (undenied : (evaluationFor externals state request remoteAddr around route
        bodyPreview).denied = none)
      (selected : around.selected = some (upstreamIndex, upstream)) :
      PrepareCase (.forward (forwardTo externals state request remoteAddr around route body
        (evaluationFor externals state request remoteAddr around route bodyPreview) upstreamIndex
        upstream))

/-- Every request goes one of these ways.

The cases follow the returns of the source, in its order. -/
theorem prepare_cases :
    PrepareCase externals state request remoteAddr around
      (prepare externals state request remoteAddr around) := by
  simp only [prepare]
  split
  next unmatched => exact .noRoute unmatched
  next route matched =>
    split
    next missing => exact .unavailable route matched missing
    next runtime found =>
      have present : (state.runtimeFor route).isSome = true := by rw [found]; rfl
      split
      next refused => exact .limited route matched present (by simpa using refused)
      next admitted =>
        have taken : around.admitted = true := by simpa using admitted
        split
        next err failed => exact .previewFailed route err matched present taken failed
        next bodyPreview body preview =>
          have previewed : Previewed state request around route bodyPreview body :=
            ⟨matched, present, taken, preview⟩
          split
          next deny denied => exact .denied route bodyPreview body deny previewed denied
          next undenied =>
            split
            next unselected => exact .unhealthy route bodyPreview body previewed undenied unselected
            next index upstream selected =>
              exact .forward route bodyPreview body index upstream previewed undenied selected

end Cases

/-- What a forwarded request has passed: its preview succeeded with this body left,
and its route's policy chain denied nothing. -/
theorem forward_inv (externals : Externals) (state : GatewayState Component)
    (request : InboundRequest) (remoteAddr : SocketAddr) (around : Surroundings Component)
    (forward : Forward)
    (prepared : prepare externals state request remoteAddr around = .forward forward) :
    forward.facts = requestFacts externals state.redaction around.freshRequestId request
        remoteAddr ∧
      ∃ bodyPreview,
        previewFor state forward.route request.body = .ok (bodyPreview, forward.body) ∧
        (state.policy.evaluate externals.http around.outcomes
          (policyRequest externals state forward.facts forward.route request.headers
            bodyPreview)).evaluation.denied = none := by
  have way := prepare_cases externals state request remoteAddr around
  rw [prepared] at way
  cases way with
  | forward route bodyPreview body index upstream previewed undenied selected =>
    exact ⟨rfl, bodyPreview, previewed.preview, undenied⟩

/-- A forwarded request keeps what its headers say about retries and the state's
limit on captured bytes. -/
theorem forward_settings (externals : Externals) (state : GatewayState Component)
    (request : InboundRequest) (remoteAddr : SocketAddr) (around : Surroundings Component)
    (forward : Forward)
    (prepared : prepare externals state request remoteAddr around = .forward forward) :
    forward.retryEligible = retryEligible request.method request.headers ∧
      forward.maxCaptureBytes = state.storageConfig.maxCaptureBytesPerRequest := by
  have way := prepare_cases externals state request remoteAddr around
  rw [prepared] at way
  cases way with
  | forward => exact ⟨rfl, rfl⟩

/-- A request with its route, permit and preview that no plugin denies goes to the upstream that
is selected. -/
theorem prepare_eq_forward (externals : Externals) (state : GatewayState Component)
    (request : InboundRequest) (remoteAddr : SocketAddr) (around : Surroundings Component)
    (route : Route) (bodyPreview : Option (List UInt8)) (body : Body) (upstreamIndex : Nat)
    (upstream : Upstream) (previewed : Previewed state request around route bodyPreview body)
    (undenied : (evaluationFor externals state request remoteAddr around route
      bodyPreview).denied = none)
    (selected : around.selected = some (upstreamIndex, upstream)) :
    prepare externals state request remoteAddr around =
      .forward (forwardTo externals state request remoteAddr around route body
        (evaluationFor externals state request remoteAddr around route bodyPreview) upstreamIndex
        upstream) := by
  obtain ⟨_, found⟩ := Option.isSome_iff_exists.mp previewed.runtime
  simp only [prepare, previewed.matched, found, previewed.admitted, previewed.preview, undenied,
    selected, Bool.not_true, Bool.false_eq_true, if_false]

/-- What goes to an upstream is settled before the attempts: other attempts, frames polled and
readings of the clock leave it as it is. -/
theorem prepare_forward_ending (externals : Externals) (state : GatewayState Component)
    (request : InboundRequest) (remoteAddr : SocketAddr) (around : Surroundings Component)
    (forward : Forward)
    (prepared : prepare externals state request remoteAddr around = .forward forward)
    (attempts : Nat → Attempt) (polled : List Frame) (clock : Clock) :
    prepare externals state request remoteAddr
      { around with attempts := attempts, polled := polled, clock := clock } =
        .forward forward := by
  have way := prepare_cases externals state request remoteAddr around
  rw [prepared] at way
  cases way with
  | forward route bodyPreview body index upstream previewed undenied selected =>
    exact prepare_eq_forward externals state request remoteAddr
      { around with attempts := attempts, polled := polled, clock := clock } route bodyPreview
      body index upstream
      ⟨previewed.matched, previewed.runtime, previewed.admitted, previewed.preview⟩ undenied
      selected

/-- The exits before an attempt differ only in their own data: the status, the text, the route
and what plugins have decided. -/
theorem exit_inv (externals : Externals) (state : GatewayState Component)
    (request : InboundRequest) (remoteAddr : SocketAddr) (around : Surroundings Component)
    (handled : Handled)
    (prepared : prepare externals state request remoteAddr around = .exit handled) :
    ∃ pluginMetrics own, handled = LocalExit.handled externals
      (requestFacts externals state.redaction around.freshRequestId request remoteAddr)
      around.clock pluginMetrics own := by
  have way := prepare_cases externals state request remoteAddr around
  rw [prepared] at way
  cases way <;> exact ⟨_, _, rfl⟩

/-- An exit of the gateway's own contacts no upstream. -/
theorem sent_of_exit (externals : Externals) (state : GatewayState Component)
    (request : InboundRequest) (remoteAddr : SocketAddr) (around : Surroundings Component)
    (handled : Handled)
    (prepared : prepare externals state request remoteAddr around = .exit handled) :
    handled.sent = [] := by
  obtain ⟨pluginMetrics, own, rfl⟩ :=
    exit_inv externals state request remoteAddr around handled prepared
  rfl

/-- The body sent upstream is the body the client sent, also after a part of it was read for the
plugins. -/
theorem body_of_forward (externals : Externals) (state : GatewayState Component)
    (request : InboundRequest) (remoteAddr : SocketAddr) (around : Surroundings Component)
    (forward : Forward)
    (prepared : prepare externals state request remoteAddr around = .forward forward) :
    forward.body = request.body := by
  obtain ⟨_, bodyPreview, previewed, _⟩ :=
    forward_inv externals state request remoteAddr around forward prepared
  simp only [previewFor] at previewed
  split at previewed
  · cases divided : splitBodyPreview request.body
        (state.policy.maxBodyPreviewBytes forward.route.id) with
    | error err => simp [divided, Except.map] at previewed
    | ok result =>
      obtain ⟨preview, left⟩ := result
      simp only [divided, Except.map, Except.ok.injEq, Prod.mk.injEq] at previewed
      rw [← previewed.2]
      exact splitBodyPreview_body _ _ _ _ divided
  · exact (Prod.mk.inj (Except.ok.inj previewed)).2.symm

/-- A handled request either left through an exit of the gateway's own or is a
forwarded one that has finished. -/
theorem handle_eq_ok (externals : Externals) (state : GatewayState Component)
    (request : InboundRequest) (remoteAddr : SocketAddr) (around : Surroundings Component)
    (handled : Handled) :
    handle externals state request remoteAddr around = .ok handled ↔
      prepare externals state request remoteAddr around = .exit handled ∨
        ∃ forward, prepare externals state request remoteAddr around = .forward forward ∧
          handled = forward.finish externals around.clock
            (forward.attempt externals around.attempts) (forward.captureAfter around.polled) := by
  cases prepared : prepare externals state request remoteAddr around with
  | unavailable response => simp [handle, prepared]
  | exit own => simp [handle, prepared]
  | forward forward => simp [handle, prepared, eq_comm]

/-- In a state that was built for its configuration a matched route has its runtime, so no
request is turned away for lack of one. -/
theorem prepare_ne_unavailable (wasm : Policy.Wasmtime Component) (config : AppConfig)
    (externals : Externals) (state : GatewayState Component) (request : InboundRequest)
    (remoteAddr : SocketAddr) (around : Surroundings Component)
    (built : GatewayState.new wasm config = .ok state) (response : ResponseHead) :
    prepare externals state request remoteAddr around ≠ .unavailable response := by
  intro prepared
  have way := prepare_cases externals state request remoteAddr around
  rw [prepared] at way
  cases way with
  | unavailable route matched missing =>
    obtain ⟨table, runtimes⟩ := GatewayState.new_eq_ok wasm config state built
    have present := runtimes route (table ▸ matchRoute_mem _ _ _ route matched)
    simp [missing] at present

/-- Such a state handles every request. -/
theorem exists_handled (wasm : Policy.Wasmtime Component) (config : AppConfig)
    (externals : Externals) (state : GatewayState Component) (request : InboundRequest)
    (remoteAddr : SocketAddr) (around : Surroundings Component)
    (built : GatewayState.new wasm config = .ok state) :
    ∃ handled, handle externals state request remoteAddr around = .ok handled := by
  cases prepared : prepare externals state request remoteAddr around with
  | exit handled => exact ⟨handled, by simp [handle, prepared]⟩
  | forward forward => exact ⟨_, by simp only [handle, prepared]; rfl⟩
  | unavailable response =>
    exact absurd prepared (prepare_ne_unavailable wasm config externals state request remoteAddr
      around built response)

/-- Every exit records what was read off the request when it arrived: its identifier, method,
path and query, redacted by the state it was handled with. -/
theorem facts_of_handle (externals : Externals) (state : GatewayState Component)
    (request : InboundRequest) (remoteAddr : SocketAddr) (around : Surroundings Component)
    (handled : Handled)
    (returned : handle externals state request remoteAddr around = .ok handled) :
    let facts := requestFacts externals state.redaction around.freshRequestId request remoteAddr
    handled.finalizer.requestHeaders = facts.requestHeaders ∧
      handled.finalizer.record.path = facts.path ∧
      handled.finalizer.record.redactedQuery = facts.redactedQuery ∧
      handled.finalizer.record.queryHash = facts.queryHash := by
  rcases (handle_eq_ok externals state request remoteAddr around handled).mp returned with
    prepared | ⟨forward, prepared, rfl⟩
  · obtain ⟨pluginMetrics, own, rfl⟩ :=
      exit_inv externals state request remoteAddr around handled prepared
    exact ⟨rfl, rfl, rfl, rfl⟩
  · rw [← (forward_inv externals state request remoteAddr around forward prepared).1]
    exact ⟨rfl, rfl, rfl, rfl⟩

/-- Every exit stores the request's headers under the redaction of its state. -/
theorem requestHeaders_of_handle (externals : Externals) (state : GatewayState Component)
    (request : InboundRequest) (remoteAddr : SocketAddr) (around : Surroundings Component)
    (handled : Handled)
    (returned : handle externals state request remoteAddr around = .ok handled) :
    handled.finalizer.requestHeaders = storedHeaders request.headers state.redaction :=
  (facts_of_handle externals state request remoteAddr around handled returned).1

/-- Every exit records the request's path, and its query under the redaction of its
state. -/
theorem target_of_handle (externals : Externals) (state : GatewayState Component)
    (request : InboundRequest) (remoteAddr : SocketAddr) (around : Surroundings Component)
    (handled : Handled)
    (returned : handle externals state request remoteAddr around = .ok handled) :
    handled.finalizer.record.path = request.uri.path ∧
      handled.finalizer.record.redactedQuery = redactedQuery request.uri.query state.redaction := by
  obtain ⟨_, path, query, _⟩ :=
    facts_of_handle externals state request remoteAddr around handled returned
  exact ⟨path, query⟩

/-- No exit that takes a capture marks it as dropped: that mark is left to the queue. -/
theorem captureDropped_of_handle (externals : Externals) (state : GatewayState Component)
    (request : InboundRequest) (remoteAddr : SocketAddr) (around : Surroundings Component)
    (handled : Handled)
    (returned : handle externals state request remoteAddr around = .ok handled)
    (captures : handled.finalizer.shouldCapture = true) :
    handled.finalizer.record.captureDropped = false := by
  rcases (handle_eq_ok externals state request remoteAddr around handled).mp returned with
    prepared | ⟨forward, prepared, rfl⟩
  · obtain ⟨pluginMetrics, own, rfl⟩ :=
      exit_inv externals state request remoteAddr around handled prepared
    exact absurd captures (by simp [LocalExit.handled])
  · rfl

end TraceGate
