import TraceGate.Reloads
import TraceGate.Storage

/-!
# The admin endpoints

The handlers behind the admin listener, as they interleave with reloads. Each one reads
the current configuration to check the request. Those that show the configuration clone
it in a second step, for which they take the read lock again, and release it; the others
go on to the answer. By the time of the answer a reload may have replaced the
configuration. `POST /admin/reload` takes its steps in `Reloads`, and the page of the
console asks for nothing.

What the telemetry, the store, the clock and the environment answer is a parameter of the
step that asks. Requests that the router or an extractor turns away reach no handler.
-/

namespace TraceGate

def apiAuthorized (headers : HeaderMap) (admin : AdminConfig) : Bool :=
  match admin.token with
  | none => false
  | some token => bearerMatches headers token

namespace Admin

variable {Component : Type}

/-! ## Responses -/

structure OverviewResponse where
  mode : String
  gitSha : String
  storageReady : Bool
  storageError : Option String
  prometheusEnabled : Bool
  routeCount : Nat
  pluginCount : Nat

structure RouteUpstreamStatus where
  index : Nat
  origin : String
  failures : Nat
  unhealthy : Bool
  unhealthyUntilMs : Option Int

structure RouteStatus where
  id : String
  hosts : List String
  pathPrefix : String
  timeoutMs : Nat
  retries : Nat
  concurrencyLimit : Nat
  capturePolicy : String
  slowThresholdMs : Nat
  captureRequestBody : Bool
  captureResponseBodyBytes : Nat
  passiveHealthFailures : Nat
  passiveHealthCooldownMs : Nat
  upstreams : List RouteUpstreamStatus

structure PluginSummary where
  id : String
  hook : String
  routes : List String
  timeoutMs : Nat
  memoryLimitBytes : Nat
  fuel : Nat
  bodyPreviewBytes : Nat
  rawHeaders : List String
  configKeys : List String

structure SeriesStatus where
  name : String
  present : Bool

structure TelemetryResponse where
  adminReady : Bool
  storageReady : Bool
  storageError : Option String
  prometheusEnabled : Bool
  series : List SeriesStatus

inductive Body where
  | content (contentType text : String)
  | apiError (error : String)
  | overview (response : OverviewResponse)
  | requests (limit : Nat) (requests : List RequestSummary)
  | details (details : RequestDetails)
  | routes (routes : List RouteStatus)
  | plugins (plugins : List PluginSummary)
  | telemetry (response : TelemetryResponse)

structure Response where
  status : Nat
  body : Body

def plain (status : Nat) (text : String) : Response :=
  ⟨status, .content "text/plain; charset=utf-8" text⟩

/-! ## Handlers past their check -/

/-- What a handler is told while it answers. -/
structure Services where
  sql : SqlExternals
  prometheusEnabled : Bool
  renderPrometheus : Except String String
  healthCheck : Except String Unit
  database : Except String Database
  gitSha : Option String
  nowMs : Int

structure Readiness where
  ready : Bool
  error : Option String

def readiness (services : Services) : Readiness :=
  match services.healthCheck with
  | .ok () => ⟨true, none⟩
  | .error err => ⟨false, some err⟩

def healthLive : Response := plain 200 "live\n"

def healthReady (services : Services) : Response :=
  match services.healthCheck with
  | .ok () => plain 200 "ready\n"
  | .error err => plain 503 s!"storage not ready: {err}\n"

def metrics (services : Services) : Response :=
  if !services.prometheusEnabled then plain 404 "metrics disabled\n"
  else
    match services.renderPrometheus with
    | .ok metrics =>
        ⟨200, .content "application/openmetrics-text; version=1.0.0; charset=utf-8" metrics⟩
    | .error err => plain 500 s!"failed to render metrics: {err}\n"

def apiOverview (services : Services) (config : AppConfig) : Response :=
  let storage := readiness services
  ⟨200, .overview
    { mode := config.mode.asStr, gitSha := services.gitSha.getD "unknown"
      storageReady := storage.ready, storageError := storage.error
      prometheusEnabled := services.prometheusEnabled
      routeCount := config.routes.length, pluginCount := config.plugins.length }⟩

structure RequestListQuery where
  failed : Option Bool
  slow : Option Bool
  route : Option String
  limit : Option Nat

def apiRequests (services : Services) (query : RequestListQuery) : Response :=
  let limit := max 1 (min (query.limit.getD 50) 100)
  match services.database with
  | .error err => ⟨500, .apiError s!"failed to list requests: {err}"⟩
  | .ok database =>
      ⟨200, .requests limit (database.listRequests services.sql
        { failed := query.failed.getD false, slow := query.slow.getD false
          routeId := query.route.filter fun value => !(Text.trim value).isEmpty
          sinceCreatedAtMs := none, limit := limit })⟩

def apiRequestDetails (services : Services) (requestId : String) : Response :=
  match services.database with
  | .error err => ⟨500, .apiError s!"failed to show request: {err}"⟩
  | .ok database =>
      match database.showRequest services.sql requestId with
      | some details => ⟨200, .details details⟩
      | none => ⟨404, .apiError "request not found"⟩

/-- The status of an upstream, which an exchange of states between the two reads can
leave without counters. -/
def upstreamStatus (nowMs : Int) (runtime : Option RouteRuntime) (index : Nat)
    (upstream : Upstream) : RouteUpstreamStatus :=
  let runtime := runtime.bind fun route => route.upstreams[index]?
  let unhealthyUntilMs := (runtime.map UpstreamRuntime.unhealthyUntilMs).getD 0
  { index := index, origin := upstream.origin
    failures := (runtime.map UpstreamRuntime.failures).getD 0
    unhealthy := decide (unhealthyUntilMs > nowMs)
    unhealthyUntilMs := if unhealthyUntilMs > nowMs then some unhealthyUntilMs else none }

def routeStatus (nowMs : Int) (gatewayState : GatewayState Component) (route : Route) :
    RouteStatus :=
  { id := route.id, hosts := route.hosts, pathPrefix := route.pathPrefix
    timeoutMs := asMillis route.timeout, retries := route.retries
    concurrencyLimit := route.concurrencyLimit, capturePolicy := route.capture.policy.asStr
    slowThresholdMs := asMillis route.capture.slowThreshold
    captureRequestBody := route.capture.captureRequestBody
    captureResponseBodyBytes := route.capture.captureResponseBodyBytes
    passiveHealthFailures := route.passiveHealthFailures
    passiveHealthCooldownMs := asMillis route.passiveHealthCooldown
    upstreams := route.upstreams.mapIdx
      (upstreamStatus nowMs (gatewayState.routeRuntime route.id)) }

def apiRoutes (services : Services) (config : AppConfig) (gatewayState : GatewayState Component) :
    Response :=
  ⟨200, .routes (config.routes.map (routeStatus services.nowMs gatewayState))⟩

def apiPlugins (config : AppConfig) : Response :=
  ⟨200, .plugins (config.plugins.map fun plugin =>
    { id := plugin.id, hook := plugin.hook.asStr, routes := plugin.routes
      timeoutMs := asMillis plugin.timeout, memoryLimitBytes := plugin.memoryLimitBytes
      fuel := plugin.fuel, bodyPreviewBytes := plugin.bodyPreviewBytes
      rawHeaders := plugin.rawHeaders
      configKeys := plugin.config.map PluginConfigValue.key })⟩

def requiredPrometheusSeries : List String :=
  ["tracegate_requests_total", "tracegate_request_duration_seconds",
    "tracegate_upstream_errors_total", "tracegate_captures_total",
    "tracegate_capture_dropped_total", "tracegate_storage_retention_runs_total",
    "tracegate_plugin_decisions_total", "tracegate_plugin_duration_seconds",
    "tracegate_plugin_timeouts_total", "tracegate_plugin_errors_total"]

def apiTelemetry (services : Services) : Response :=
  let storage := readiness services
  let metrics := if services.prometheusEnabled then services.renderPrometheus.toOption else none
  let present := fun (name : String) =>
    (metrics.map fun metrics => decide (name.toList <:+: metrics.toList)).getD false
  ⟨200, .telemetry
    { adminReady := true, storageReady := storage.ready, storageError := storage.error
      prometheusEnabled := services.prometheusEnabled
      series := requiredPrometheusSeries.map fun name => ⟨name, present name⟩ }⟩

/-! ## The router -/

/-- The endpoints beside the reload and the page of the console. -/
inductive Endpoint where
  | healthLive
  | healthReady
  | metrics
  | apiOverview
  | apiRequests (query : RequestListQuery)
  | apiRequestDetails (requestId : String)
  | apiRoutes
  | apiPlugins
  | apiTelemetry

namespace Endpoint

/-- The path a handler with the older check names to it; the others are the API's. -/
def legacyPath : Endpoint → Option String
  | healthLive => some "/health/live"
  | healthReady => some "/health/ready"
  | metrics => some "/metrics"
  | _ => none

def authorized (endpoint : Endpoint) (headers : HeaderMap) (admin : AdminConfig) : Bool :=
  match endpoint.legacyPath with
  | some path => legacyAuthorized headers admin path
  | none => apiAuthorized headers admin

def unauthorized (endpoint : Endpoint) : Response :=
  match endpoint.legacyPath with
  | some _ => plain 401 "unauthorized\n"
  | none => ⟨401, .apiError "unauthorized"⟩

/-- The handler takes the read lock once more and clones the configuration. -/
def readsConfig : Endpoint → Bool
  | apiOverview | apiRoutes | apiPlugins => true
  | _ => false

def answer (services : Services) (config : AppConfig) (gatewayState : GatewayState Component) :
    Endpoint → Response
  | healthLive => Admin.healthLive
  | healthReady => Admin.healthReady services
  | metrics => Admin.metrics services
  | apiOverview => Admin.apiOverview services config
  | apiRequests query => Admin.apiRequests services query
  | apiRequestDetails requestId => Admin.apiRequestDetails services requestId
  | apiRoutes => Admin.apiRoutes services config gatewayState
  | apiPlugins => Admin.apiPlugins config
  | apiTelemetry => Admin.apiTelemetry services

end Endpoint

/-! ## The system -/

inductive Phase where
  | arrived
  | authorized
  | read (config : AppConfig)
  | refused (response : Response)
  | answered (response : Response)
  | disconnected

structure Call where
  endpoint : Endpoint
  headers : HeaderMap
  phase : Phase

/-- The reloads with the cells they write, and the other calls. -/
structure State (Component : Type) where
  reloads : Reloads.State Component
  calls : Map Nat Call

inductive Event (Component : Type) where
  | reload (event : Reloads.Event Component)
  | arrive (id : Nat) (endpoint : Endpoint) (headers : HeaderMap)
  | check (id : Nat)
  | read (id : Nat)
  | answer (id : Nat) (services : Services)
  | disconnect (id : Nat)

def State.put (state : State Component) (id : Nat) (call : Call) (phase : Phase) :
    State Component :=
  { state with calls := state.calls.insert id { call with phase := phase } }

/-- One step of a reload or of another call. The read lock is refused while there is a
writer, loading the state needs no lock, and a client that goes away drops its handler
where it awaits: with the configuration cloned, only the overview still does. -/
def step (faultText : Toml.Fault → String) (state : State Component) :
    Event Component → Option (State Component)
  | .reload event =>
      (Reloads.step faultText state.reloads event).map fun reloads =>
        { state with reloads := reloads }
  | .arrive id endpoint headers =>
      match state.calls id with
      | some _ => none
      | none => some (state.put id ⟨endpoint, headers, .arrived⟩ .arrived)
  | .check id =>
      match state.calls id, state.reloads.writer with
      | some ⟨endpoint, headers, .arrived⟩, none =>
          let call : Call := ⟨endpoint, headers, .arrived⟩
          if endpoint.authorized headers state.reloads.currentConfig.admin then
            some (state.put id call .authorized)
          else some (state.put id call (.refused endpoint.unauthorized))
      | _, _ => none
  | .read id =>
      match state.calls id, state.reloads.writer with
      | some ⟨endpoint, headers, .authorized⟩, none =>
          if endpoint.readsConfig then
            some (state.put id ⟨endpoint, headers, .authorized⟩
              (.read state.reloads.currentConfig))
          else none
      | _, _ => none
  | .answer id services =>
      match state.calls id with
      | some ⟨endpoint, headers, .authorized⟩ =>
          if endpoint.readsConfig then none
          else
            some (state.put id ⟨endpoint, headers, .authorized⟩
              (.answered (endpoint.answer services state.reloads.currentConfig
                state.reloads.gatewayState)))
      | some ⟨endpoint, headers, .read config⟩ =>
          some (state.put id ⟨endpoint, headers, .read config⟩
            (.answered (endpoint.answer services config state.reloads.gatewayState)))
      | _ => none
  | .disconnect id =>
      match state.calls id with
      | some ⟨endpoint, headers, .arrived⟩ =>
          some (state.put id ⟨endpoint, headers, .arrived⟩ .disconnected)
      | some ⟨endpoint, headers, .authorized⟩ =>
          some (state.put id ⟨endpoint, headers, .authorized⟩ .disconnected)
      | some ⟨.apiOverview, headers, .read config⟩ =>
          some (state.put id ⟨.apiOverview, headers, .read config⟩ .disconnected)
      | _ => none

def start (reloads : Reloads.State Component) : State Component := ⟨reloads, fun _ => none⟩

end Admin

end TraceGate
