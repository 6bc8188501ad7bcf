import TraceGate.ActivePlugins
import TraceGate.ForwardedBodies

/-!
# What a client gets for the attempts made upstream

A request that may be retried is sent again while its attempts time out or fail, up to the
route's number of retries; any other request is sent once. A response ends the attempts,
whatever its status, and is the one that the client gets. The upstream's health is told one
result however many attempts there were.

All attempts of a request send the same one to the same place. Only the trace context is written
anew for each of them, and it is in two headers.
-/

namespace TraceGate

/-- The requests differ at most in the headers of the trace context. -/
structure UpstreamRequest.SameButTrace (left right : UpstreamRequest) : Prop where
  method : left.method = right.method
  uri : left.uri = right.uri
  version : left.version = right.version
  body : left.body = right.body
  headers : ∀ name, name ≠ "traceparent" ∧ name ≠ "tracestate" →
    left.headers.getAll name = right.headers.getAll name

/-- One request under two trace contexts is the same but for them. -/
theorem UpstreamRequest.sameButTrace_traced (request : UpstreamRequest)
    (first second : TraceContext) :
    (request.traced first).SameButTrace (request.traced second) where
  method := rfl
  uri := rfl
  version := rfl
  body := rfl
  headers := fun name apart =>
    (getAll_injectContext first request.headers name apart).trans
      (getAll_injectContext second request.headers name apart).symm

/-! ## The route's number of retries -/

namespace Config

/-- No route of a loaded configuration has more than three retries, as validation refuses
more. -/
theorem Loaded.retries {config : AppConfig} (loaded : Loaded config) :
    ∀ route ∈ config.routes, route.retries ≤ 3 := by
  intro route member
  obtain ⟨externals, path, content, loads⟩ := loaded
  obtain ⟨_, _, _, _, _, _, validated⟩ := loadConfig_ok loads
  obtain ⟨_, _, _, passed⟩ := (validateRoutes_ok validated.routes).of_mem member
  have validated := validateRoute_ok passed
  rw [validated.result]
  exact validated.retries

end Config

/-! ## The response -/

/-- What a request comes to by the answer to its last attempt: the response, the gateway's
own text, the logged error, and the result that the upstream's health is told. -/
def Concluded (externals : Externals) (requestId : String) (handled : Handled) (index : Nat) :
    ClientAnswer → Prop
  | .response head =>
      handled.response = identified externals requestId head ∧ handled.text = none ∧
        handled.log.error = none ∧
        handled.upstreamResult = some (index, isServerError head.status)
  | .timedOut =>
      handled.response = responseWithRequestId externals 504 requestId ∧
        handled.text = some "upstream request timed out" ∧ handled.log.error = some "timeout" ∧
        handled.upstreamResult = some (index, true)
  | .failed reason =>
      handled.response = responseWithRequestId externals 502 requestId ∧
        handled.text = some "upstream request failed" ∧ handled.log.error = some reason ∧
        handled.upstreamResult = some (index, true)

/-- The response, its text, the logged error and the health of the upstream follow from the last
answer. -/
theorem Forward.concluded_of_finish (externals : Externals) (forward : Forward) (clock : Clock)
    (requestCapture : CaptureBuffer) (answer : ClientAnswer) (sent : List UpstreamRequest) :
    Concluded externals forward.facts.requestId
      (forward.finish externals clock ⟨answer.settled externals forward.facts.requestId, sent⟩
        requestCapture)
      forward.upstreamIndex answer := by
  cases answer with
  | response head => exact ⟨rfl, rfl, rfl, rfl⟩
  | timedOut => exact ⟨rfl, rfl, rfl, rfl⟩
  | failed reason => exact ⟨rfl, rfl, rfl, rfl⟩

variable {Component : Type}

/-- A request for which an upstream was contacted was sent to the selected upstream again and
again, always the same but for the trace context injected at each attempt, until it got a
response or its attempts were used up: more than once only if it may be retried, and never more
than four times. The client gets the response of the last attempt, or the gateway's own for its
failure.

What is sent is one request under the contexts of the attempts made, and the loading of a
configuration bounds the number of retries. -/
theorem sent_until_answered (externals : Externals) (wasm : Policy.Wasmtime Component)
    (config : AppConfig) (state : GatewayState Component) (request : InboundRequest)
    (remoteAddr : SocketAddr) (around : Surroundings Component) (handled : Handled)
    (loaded : Config.Loaded config) (agrees : Reloads.Agrees wasm config state)
    (returned : handle externals state request remoteAddr around = .ok handled)
    (contacted : handled.sent ≠ []) :
    ∃ (route : Route) (index : Nat) (upstream : Upstream) (sent : UpstreamRequest) (last : Nat),
      routeFor state request = some route ∧ around.selected = some (index, upstream) ∧
      handled.sent = (List.range (last + 1)).map
        (fun turn => sent.traced (around.attempts turn).context) ∧
      (∀ first ∈ handled.sent, ∀ second ∈ handled.sent, first.SameButTrace second) ∧
      (∀ one ∈ handled.sent, one.uri = upstream.origin ++ request.uri.pathAndQuery.getD "/") ∧
      last ≤ 3 ∧
      (0 < last → retryEligible request.method request.headers = true) ∧
      MadeUntil around.answers
        (if retryEligible request.method request.headers then route.retries + 1 else 1) last ∧
      Concluded externals
        (requestIdFromHeaders externals around.freshRequestId request.headers) handled index
        (around.answers last) := by
  obtain ⟨routeRuntime, builds⟩ := agrees
  have table : state.router = config.routes := (GatewayState.new_eq_ok wasm config _ builds).1
  rcases (handle_eq_ok externals state request remoteAddr around handled).mp returned with
    exits | ⟨forward, prepared, rfl⟩
  · exact absurd (sent_of_exit externals state request remoteAddr around handled exits) contacted
  · have way := prepare_cases externals state request remoteAddr around
    rw [prepared] at way
    cases way with
    | forward route bodyPreview body index upstream previewed undenied selected =>
      have member : route ∈ config.routes :=
        table ▸ matchRoute_mem _ _ _ route previewed.matched
      have few : route.retries ≤ 3 := loaded.retries route member
      have whole : min (route.retries + 1) u32Max = route.retries + 1 := by
        simp only [u32Max]
        omega
      obtain ⟨sent, built⟩ := (Forward.sent_iff_built externals _ around.attempts).mp contacted
      obtain ⟨last, made, ends⟩ := Forward.attempt_of_built externals _ around.attempts sent built
      simp only [Forward.allowed, forwardTo, whole] at made
      refine ⟨route, index, upstream, sent, last, previewed.matched, selected, ?_, ?_, ?_, ?_, ?_,
        made, ?_⟩
      · exact congrArg Attempted.sent ends
      · intro first firstSent second secondSent
        simp only [Forward.finish, ends, List.mem_map] at firstSent secondSent
        obtain ⟨_, _, rfl⟩ := firstSent
        obtain ⟨_, _, rfl⟩ := secondSent
        exact sent.sameButTrace_traced _ _
      · exact Forward.uri_of_sent externals _ around.attempts
      · have within := made.within
        split at within <;> omega
      · intro again
        have within := made.within
        split at within
        next eligible => exact eligible
        next => omega
      · rw [ends]
        exact Forward.concluded_of_finish externals _ around.clock _ (around.answers last) _

/-! A route with three retries. The first attempt of a GET times out, the second one fails, and
the third one is answered with an error of the upstream's. Each attempt has a `traceparent` of
its own. -/

def retryExternals : Config.Externals :=
  { Reloads.sampleExternals with
    parseToml := fun _ => .ok
      [("server", .table [("listen", .string "127.0.0.1:8080")]),
       ("routes", .array [.table
          [("id", .string "api"), ("hosts", .array [.string "*"]), ("path_prefix", .string "/"),
           ("upstreams", .array [.string "http://10.0.0.7"]), ("retries", .integer 3)]])] }

def retryConfig : AppConfig :=
  { Reloads.sampleConfig "x-first" with
    redaction := RedactionConfig.default, routes := [{ Reloads.sampleRoute with retries := 3 }] }

def retryState : GatewayState Unit :=
  let route := { Reloads.sampleRoute with retries := 3 }
  { router := [route], storageConfig := StorageConfig.default
    redaction := RedactionConfig.default, policy := .empty
    routeRuntime := Map.insert (fun _ => none) "api" (RouteRuntime.new route) }

def retryRequest : InboundRequest :=
  { Exchange.uploadRequest with method := "GET", headers := [], body := ⟨[], none⟩ }

def retryAround : Surroundings Unit :=
  { Exchange.uploadAround with
    selected := some (0, ⟨"http", "10.0.0.7"⟩)
    attempts := fun turn =>
      match turn with
      | 0 => ⟨Exchange.idleContext, .timedOut⟩
      | 1 => ⟨Exchange.generatedContext "00-2-2-01", .failed "connection reset"⟩
      | _ => ⟨Exchange.generatedContext "00-3-3-01", .response ⟨503, []⟩⟩ }

/-- One attempt times out, one fails and the third is answered, so a route with three retries
sends three requests. -/
theorem sent_until_answered_thrice :
    ∃ (handled : Handled) (index last : Nat) (sent : UpstreamRequest),
      handle Exchange.plainExternals retryState retryRequest Exchange.localAddr retryAround =
          .ok handled ∧
        handled.sent.length = 3 ∧ handled.sent.Nodup ∧ handled.response.status = 503 ∧
        handled.sent = (List.range (last + 1)).map
          (fun turn => sent.traced (retryAround.attempts turn).context) ∧
        (∀ first ∈ handled.sent, ∀ second ∈ handled.sent, first.SameButTrace second) ∧
        MadeUntil retryAround.answers 4 last ∧
        Concluded Exchange.plainExternals "r" handled index (retryAround.answers last) := by
  have loads : Config.loadConfig retryExternals "tracegate.toml" (.ok "") = .ok retryConfig := rfl
  obtain ⟨route, index, upstream, sent, last, matched, _, copies, same, _, _, _, made, concluded⟩ :=
    sent_until_answered Exchange.plainExternals Policy.permissiveWasm retryConfig retryState
      retryRequest Exchange.localAddr retryAround _ ⟨_, _, _, loads⟩ ⟨_, rfl⟩ rfl
      (List.cons_ne_nil _ _)
  obtain rfl : { Reloads.sampleRoute with retries := 3 } = route :=
    Option.some.inj matched
  exact ⟨_, index, last, sent, rfl, rfl, by decide +kernel, rfl, copies, same, made, concluded⟩

end TraceGate
