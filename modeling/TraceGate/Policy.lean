import TraceGate.Headers

/-!
# The policy engine

Plugins are loaded once per configuration and listed by route as positions in
the engine's plugin vector. Evaluating a request calls the route's plugins in
order, each on its own blocking task under a timeout, and stops at the first
plugin that denies or fails.

Wasmtime and the guests are outside: `Wasmtime` is what loading asks of them, and
a `TaskOutcome` is everything the host can observe of one call. A guest's raw
decision passes through `normalizeDecision` inside the task, so a rejected
decision is an error of the call.
-/

namespace TraceGate.Policy

structure Header where
  name : String
  value : String
deriving DecidableEq

structure PolicyEvent where
  name : String
  code : Option String
deriving DecidableEq

structure DenyResponse where
  status : Nat
  message : String
deriving DecidableEq

structure RequestPolicyInput where
  routeId : String
  requestId : String
  method : String
  path : String
  query : Option String
  headers : List Header
  config : List PluginConfigValue
  clientAddress : String
  bodyPreview : Option (List UInt8)
deriving DecidableEq

/-- What a guest returns: the interface carries both a flag and a response. -/
structure RequestPolicyDecision where
  allow : Bool
  deny : Option DenyResponse
  setHeaders : List Header
  removeHeaders : List String
  events : List PolicyEvent
deriving DecidableEq

inductive PolicyError where
  | engine (reason : String)
  | load (pluginId path reason : String)
  | contract (pluginId reason : String)
  | invocation (pluginId reason : String)
deriving DecidableEq

/-- The error texts of `PolicyError`. -/
def PolicyError.text : PolicyError → String
  | .engine reason => s!"failed to initialize Wasmtime engine: {reason}"
  | .load pluginId path reason => s!"failed to load plugin `{pluginId}` from `{path}`: {reason}"
  | .contract pluginId reason =>
      s!"plugin `{pluginId}` is not compatible with the TraceGate policy contract: {reason}"
  | .invocation pluginId reason => s!"plugin `{pluginId}` failed: {reason}"

structure PolicyDeny where
  status : Nat
  message : String
deriving DecidableEq

structure NormalizedDecision where
  deny : Option PolicyDeny
  setHeaders : List HeaderMutation
  removeHeaders : List String
  events : List PolicyEvent
deriving DecidableEq

structure PolicyDecisionRecord where
  pluginId : String
  routeId : String
  action : String
  denyStatus : Option Nat
  setHeaders : List String
  removeHeaders : List String
  events : List PolicyEvent
  duration : Duration
  timedOut : Bool
  error : Option String
deriving DecidableEq

structure PolicyEvaluation where
  denied : Option PolicyDeny
  setHeaders : List HeaderMutation
  removeHeaders : List String
  records : List PolicyDecisionRecord
deriving DecidableEq

structure PolicyRequest where
  routeId : String
  requestId : String
  method : String
  path : String
  query : Option String
  headers : List PolicyHeader
  sensitiveHeaders : List String
  clientAddress : String
  bodyPreview : Option (List UInt8)
deriving DecidableEq

def truncate (value : String) (maxChars : Nat) : String :=
  if value.length ≤ maxChars then value else Text.takeChars value maxChars

def normalizeRemoveHeader (http : HttpCrate) (pluginId name : String) :
    Except PolicyError String :=
  let name := Text.toAsciiLowercase (Text.trim name)
  match http.headerNameFromBytes name with
  | .error err => .error (.invocation pluginId s!"invalid header name `{name}`: {err}")
  | .ok _ => .ok name

def normalizeSetHeader (http : HttpCrate) (pluginId name value : String) :
    Except PolicyError HeaderMutation := do
  let name ← normalizeRemoveHeader http pluginId name
  match http.headerValueFromStr value with
  | .error err => .error (.invocation pluginId s!"invalid set header `{name}` value: {err}")
  | .ok _ => .ok ⟨name, truncate value 4096⟩

/-- A deny response keeps a status from 400 to 599; any other becomes 403. -/
def normalizeDeny (deny : DenyResponse) : PolicyDeny :=
  ⟨if 400 ≤ deny.status ∧ deny.status ≤ 599 then deny.status else 403,
    truncate deny.message 512⟩

def normalizeDecision (http : HttpCrate) (decision : RequestPolicyDecision)
    (pluginId : String) : Except PolicyError NormalizedDecision := do
  let deny := decision.deny.map normalizeDeny
  let setHeaders ← decision.setHeaders.mapM
    (fun header => normalizeSetHeader http pluginId header.name header.value)
  let removeHeaders ← decision.removeHeaders.mapM (normalizeRemoveHeader http pluginId)
  let events := decision.events.map fun event =>
    ⟨truncate event.name 128, event.code.map (truncate · 128)⟩
  return ⟨deny, setHeaders, removeHeaders, events⟩

/-- The input one plugin sees: sensitive headers are left out unless its own
`raw_headers` names them, and the preview is cut at its own limit. -/
def PolicyRequest.inputFor (request : PolicyRequest) (config : PluginConfig) :
    RequestPolicyInput :=
  let sensitiveHeaders := request.sensitiveHeaders.map Text.toAsciiLowercase
  let rawHeaders := config.rawHeaders.map Text.toAsciiLowercase
  let headers := (request.headers.filter fun header =>
      !sensitiveHeaders.contains header.name || rawHeaders.contains header.name).map
    fun header => ⟨header.name, header.value⟩
  let bodyPreview := request.bodyPreview.bind fun body =>
    if config.bodyPreviewBytes = 0 then none
    else some (body.take (min config.bodyPreviewBytes usizeMax))
  { routeId := request.routeId
    requestId := request.requestId
    method := request.method
    path := request.path
    query := request.query
    headers := headers
    config := config.config
    clientAddress := request.clientAddress
    bodyPreview := bodyPreview }

/-- Loading a component: reading it, the names it imports, and whether a store,
a linker and an instance can be made for it under a plugin's limits. -/
structure Wasmtime (Component : Type) where
  newEngine : Except String Unit
  fromFile : String → Except String Component
  importNames : Component → List String
  instantiate : PluginConfig → Component → Except String Unit

def isAllowedComponentImport (name : String) : Bool :=
  ["tracegate:policy/types@", "wasi:io/poll@", "wasi:io/error@", "wasi:io/streams@",
    "wasi:cli/environment@", "wasi:cli/exit@", "wasi:cli/stdin@", "wasi:cli/stdout@",
    "wasi:cli/stderr@", "wasi:cli/terminal-input@", "wasi:cli/terminal-output@",
    "wasi:cli/terminal-stdin@", "wasi:cli/terminal-stdout@",
    "wasi:cli/terminal-stderr@"].any (Text.startsWith name)

structure LoadedPlugin (Component : Type) where
  config : PluginConfig
  component : Component

structure PolicyEngine (Component : Type) where
  plugins : List (LoadedPlugin Component)
  routePlugins : Map String (List Nat)

variable {Component : Type}

def validateComponent (wasm : Wasmtime Component) (component : Component)
    (config : PluginConfig) : Except PolicyError Unit :=
  let disallowed := (wasm.importNames component).filter (fun name => !isAllowedComponentImport name)
  if !disallowed.isEmpty then
    .error (.contract config.id ("disallowed imports: " ++ ", ".intercalate disallowed))
  else
    match wasm.instantiate config component with
    | .error reason => .error (.contract config.id reason)
    | .ok () => .ok ()

/-- `entry(route).or_default().push(index)`. -/
def pushIndex (index : Nat) (routePlugins : Map String (List Nat)) (route : String) :
    Map String (List Nat) :=
  routePlugins.insert route ((routePlugins route).getD [] ++ [index])

/-- One iteration of the loading loop. -/
def PolicyEngine.load (wasm : Wasmtime Component) (engine : PolicyEngine Component)
    (config : PluginConfig) : Except PolicyError (PolicyEngine Component) :=
  if config.hook ≠ .beforeRequest then .ok engine
  else
    match wasm.fromFile config.path with
    | .error reason => .error (.load config.id config.path reason)
    | .ok component => do
        validateComponent wasm component config
        return ⟨engine.plugins ++ [⟨config, component⟩],
          config.routes.foldl (pushIndex engine.plugins.length) engine.routePlugins⟩

def PolicyEngine.empty : PolicyEngine Component := ⟨[], fun _ => none⟩

def PolicyEngine.new (wasm : Wasmtime Component) (configs : List PluginConfig) :
    Except PolicyError (PolicyEngine Component) :=
  match wasm.newEngine with
  | .error reason => .error (.engine reason)
  | .ok () => configs.foldlM (PolicyEngine.load wasm) PolicyEngine.empty

def PolicyEngine.maxBodyPreviewBytes (engine : PolicyEngine Component) (routeId : String) : Nat :=
  ((((engine.routePlugins routeId).getD []).filterMap (engine.plugins[·]?)).map
    (fun plugin => plugin.config.bodyPreviewBytes)).max?.getD 0

/-- What the host observes of one call: the guest's own result before its
deadline, a task that panicked or was cancelled, or the timeout. -/
inductive TaskOutcome where
  | returned (guest : Except PolicyError RequestPolicyDecision) (elapsed : Duration)
  | joinError (reason : String) (elapsed : Duration)
  | timedOut

/-- `LoadedPlugin::call`: the guest's result, then normalization. -/
def LoadedPlugin.call (http : HttpCrate) (plugin : LoadedPlugin Component)
    (guest : Except PolicyError RequestPolicyDecision) : Except PolicyError NormalizedDecision :=
  guest.bind (normalizeDecision http · plugin.config.id)

def recordFromDecision (pluginId routeId : String) (decision : NormalizedDecision)
    (duration : Duration) (timedOut : Bool) (error : Option String) : PolicyDecisionRecord :=
  { pluginId := pluginId
    routeId := routeId
    action := if decision.deny.isSome then "deny" else "allow"
    denyStatus := decision.deny.map PolicyDeny.status
    setHeaders := decision.setHeaders.map HeaderMutation.name
    removeHeaders := decision.removeHeaders
    events := decision.events
    duration := duration
    timedOut := timedOut
    error := error }

def errorRecord (pluginId routeId action : String) (duration : Duration) (timedOut : Bool)
    (error : String) : PolicyDecisionRecord :=
  { pluginId := pluginId
    routeId := routeId
    action := action
    denyStatus := some 403
    setHeaders := []
    removeHeaders := []
    events := []
    duration := duration
    timedOut := timedOut
    error := some (truncate error 512) }

/-- The four arms that turn one call into a decision or an error record. -/
def settle (http : HttpCrate) (plugin : LoadedPlugin Component) (routeId : String) :
    TaskOutcome → Except PolicyDecisionRecord (NormalizedDecision × PolicyDecisionRecord)
  | .returned guest elapsed =>
      match plugin.call http guest with
      | .ok decision =>
          .ok (decision,
            recordFromDecision plugin.config.id routeId decision elapsed false none)
      | .error err => .error (errorRecord plugin.config.id routeId "deny" elapsed false err.text)
  | .joinError reason elapsed =>
      .error (errorRecord plugin.config.id routeId "deny" elapsed false reason)
  | .timedOut =>
      .error (errorRecord plugin.config.id routeId "deny" plugin.config.timeout true
        "plugin invocation timed out")

/-- One call the engine made, with what it gave the plugin and what came back. -/
structure Invocation (Component : Type) where
  plugin : LoadedPlugin Component
  input : RequestPolicyInput
  outcome : TaskOutcome

/-- The outcome of each call, by its turn in the evaluation. -/
abbrev Outcomes (Component : Type) :=
  Nat → LoadedPlugin Component → RequestPolicyInput → TaskOutcome

/-- What the loop has accumulated: the returned evaluation, and the calls made. -/
structure Progress (Component : Type) where
  evaluation : PolicyEvaluation
  invocations : List (Invocation Component)

/-- A settled decision is merged before its deny response ends the loop. -/
def PolicyEvaluation.merge (evaluation : PolicyEvaluation) (decision : NormalizedDecision)
    (record : PolicyDecisionRecord) : PolicyEvaluation :=
  { evaluation with
    setHeaders := evaluation.setHeaders ++ decision.setHeaders
    removeHeaders := evaluation.removeHeaders ++ decision.removeHeaders
    records := evaluation.records ++ [record] }

/-- The loop over a route's plugin positions. A position outside the vector is
skipped, as the source's `continue` does. -/
def evaluateFrom (http : HttpCrate) (engine : PolicyEngine Component)
    (outcomes : Outcomes Component) (request : PolicyRequest) :
    List Nat → Nat → Progress Component → Progress Component
  | [], _, progress => progress
  | index :: rest, turn, progress =>
      match engine.plugins[index]? with
      | none => evaluateFrom http engine outcomes request rest turn progress
      | some plugin =>
          let input := request.inputFor plugin.config
          let outcome := outcomes turn plugin input
          let invocations := progress.invocations ++ [⟨plugin, input, outcome⟩]
          match settle http plugin request.routeId outcome with
          | .ok (decision, record) =>
              let evaluation := progress.evaluation.merge decision record
              match decision.deny with
              | some deny => ⟨{ evaluation with denied := some deny }, invocations⟩
              | none =>
                  evaluateFrom http engine outcomes request rest (turn + 1)
                    ⟨evaluation, invocations⟩
          | .error record =>
              ⟨{ progress.evaluation with
                  denied := some ⟨403, "request denied by policy"⟩
                  records := progress.evaluation.records ++ [record] }, invocations⟩

/-- `PolicyEngine::evaluate`, with the calls it made. -/
def PolicyEngine.evaluate (http : HttpCrate) (engine : PolicyEngine Component)
    (outcomes : Outcomes Component) (request : PolicyRequest) : Progress Component :=
  evaluateFrom http engine outcomes request ((engine.routePlugins request.routeId).getD []) 0
    ⟨⟨none, [], [], []⟩, []⟩

/-- `status_from_deny`: the status code crate takes 100 to 999. -/
def statusFromDeny (deny : PolicyDeny) : Nat :=
  if 100 ≤ deny.status ∧ deny.status ≤ 999 then deny.status else 403

end TraceGate.Policy
