import TraceGate.EvaluationRecords
import TraceGate.Exchange
import TraceGate.Reload

/-!
# The plugins that come with the gateway

Two guests are shipped: one that lets a request pass when it carries a key, and one that
sets and removes a header. What they are worth depends on the host as much as on them: the
host hides sensitive headers from a plugin unless its configuration names them, shows long
values cut, and turns every failure of a call into a denial.

A call that returns a decision returns the guest's. That a guest runs within its fuel and
its time is not assumed where a request is only let through if it does.
-/

namespace TraceGate

/-- `str::parse::<u64>`: digits, perhaps after a plus sign, and no overflow. -/
def parseU64 (text : String) : Option Nat :=
  let digits := match text.toList with
    | '+' :: rest => rest
    | chars => chars
  if digits.isEmpty || !digits.all Char.isDigit then none
  else
    let value := digits.foldl (fun value digit => value * 10 + (digit.toNat - '0'.toNat)) 0
    if value < 2 ^ 64 then some value else none

namespace Guests

open Policy

def configValue (request : RequestPolicyInput) (key : String) : Option String :=
  (request.config.find? fun value => decide (value.key = key)).map PluginConfigValue.value

namespace ApiKeyGuard

def hasValidKey (headerName expected : String) (headers : List Header) : Bool :=
  headers.any fun header =>
    Text.eqIgnoreAsciiCase header.name headerName && decide (header.value = expected)

def beforeRequest (request : RequestPolicyInput) : RequestPolicyDecision :=
  let headerName := (configValue request "header").getD "x-api-key"
  let expected := (configValue request "expected").getD "tracegate-demo-key"
  let message := (configValue request "message").getD "missing or invalid API key"
  if hasValidKey headerName expected request.headers then
    { allow := true, deny := none, setHeaders := [], removeHeaders := []
      events := [⟨"api-key-accepted", some "auth"⟩] }
  else
    { allow := false, deny := some ⟨403, message⟩, setHeaders := [], removeHeaders := []
      events := [⟨"api-key-denied", some "auth"⟩] }

end ApiKeyGuard

namespace HeaderNormalizer

def spinIterations (request : RequestPolicyInput) : Nat :=
  ((configValue request "spin_iterations").bind parseU64).getD 0

/-- The loop of `spin`, with this many rounds to go. -/
def spinFrom : Nat → UInt64 → UInt64 → UInt64
  | 0, _, marker => marker
  | rounds + 1, index, marker => spinFrom rounds (index + 1) (marker + index)

def spin (iterations : Nat) : UInt64 := spinFrom iterations 0 0

def beforeRequest (request : RequestPolicyInput) : RequestPolicyDecision :=
  let spinMarker := spin (spinIterations request)
  let setHeaders := match configValue request "set_header", configValue request "set_value" with
    | some name, some value => [⟨name, value⟩]
    | _, _ => []
  let removeHeaders := ((configValue request "remove_header").map fun value => [value]).getD []
  let bodySeen := (request.bodyPreview.map fun body => !body.isEmpty).getD false
  let eventName :=
    if bodySeen then "headers-normalized-with-body-preview" else "headers-normalized"
  let eventCode := if spinMarker = UInt64.ofNat (2 ^ 64 - 1) then "headers-spin" else "headers"
  { allow := true, deny := none, setHeaders := setHeaders, removeHeaders := removeHeaders
    events := [⟨eventName, some eventCode⟩] }

end HeaderNormalizer

/-- A call that returns a decision returns the guest's. -/
def Answers (guest : RequestPolicyInput → RequestPolicyDecision) (input : RequestPolicyInput)
    (outcome : TaskOutcome) : Prop :=
  ∀ decision elapsed, outcome = .returned (.ok decision) elapsed → decision = guest input

/-! ## The key -/

/-- What a plugin's configuration says under a key. -/
def settingOf (config : PluginConfig) (key : String) : Option String :=
  (config.config.find? fun value => decide (value.key = key)).map PluginConfigValue.value

def setting (config : PluginConfig) (key default : String) : String :=
  (settingOf config key).getD default

/-- The plugin is shown headers of this name: they are not sensitive, or its configuration
names them. -/
def Visible (redaction : RedactionConfig) (guard : PluginConfig) (name : String) : Prop :=
  Text.toAsciiLowercase name ∉ redaction.headers.map Text.toAsciiLowercase ∨
    Text.toAsciiLowercase name ∈ guard.rawHeaders.map Text.toAsciiLowercase

/-- The request carries the guard's key in a header that the guard is shown. -/
def ShowsKey (redaction : RedactionConfig) (guard : PluginConfig) (headers : HeaderMap) : Prop :=
  ∃ line ∈ headers,
    Text.toAsciiLowercase line.1 =
        Text.toAsciiLowercase (setting guard "header" "x-api-key") ∧
      recordedValue line.2 = setting guard "expected" "tracegate-demo-key" ∧
      Visible redaction guard line.1

/-- The guard's decision under its own configuration: it allows a request with the key and
denies any other. -/
theorem beforeRequest_inputFor (request : PolicyRequest) (guard : PluginConfig) :
    ApiKeyGuard.beforeRequest (request.inputFor guard) =
      if ApiKeyGuard.hasValidKey (setting guard "header" "x-api-key")
          (setting guard "expected" "tracegate-demo-key") (request.inputFor guard).headers then
        { allow := true, deny := none, setHeaders := [], removeHeaders := []
          events := [⟨"api-key-accepted", some "auth"⟩] }
      else
        { allow := false
          deny := some ⟨403, setting guard "message" "missing or invalid API key"⟩
          setHeaders := [], removeHeaders := []
          events := [⟨"api-key-denied", some "auth"⟩] } := rfl

/-- The guard's test over the client's headers.

It sees them without those that the redaction hides, unless its configuration asks for them
raw. -/
theorem hasValidKey_iff (request : PolicyRequest) (guard : PluginConfig) (headers : HeaderMap)
    (redaction : RedactionConfig) (given : request.headers = policyHeaders headers)
    (hidden : request.sensitiveHeaders = redaction.headers) :
    ApiKeyGuard.hasValidKey (setting guard "header" "x-api-key")
        (setting guard "expected" "tracegate-demo-key") (request.inputFor guard).headers = true ↔
      ShowsKey redaction guard headers := by
  simp only [ApiKeyGuard.hasValidKey, PolicyRequest.inputFor, given, hidden, policyHeaders,
    List.any_map, List.any_filter, List.any_eq_true, Function.comp, Text.eqIgnoreAsciiCase,
    Text.toAsciiLowercase_idem,
    Bool.and_eq_true, Bool.or_eq_true, Bool.not_eq_true', beq_iff_eq, decide_eq_true_eq,
    ← Bool.not_eq_true, List.contains_iff_mem, ShowsKey, Visible]
  refine exists_congr fun line => and_congr_right fun _ => ?_
  tauto

/-- The guard denies exactly the requests that do not show the key. -/
theorem deny_beforeRequest (request : PolicyRequest) (guard : PluginConfig) (headers : HeaderMap)
    (redaction : RedactionConfig) (given : request.headers = policyHeaders headers)
    (hidden : request.sensitiveHeaders = redaction.headers) :
    (ApiKeyGuard.beforeRequest (request.inputFor guard)).deny = none ↔
      ShowsKey redaction guard headers := by
  rw [← hasValidKey_iff request guard headers redaction given hidden, beforeRequest_inputFor]
  split
  next valid => simp [valid]
  next invalid => simp [invalid]

end Guests

/-- A check of all items succeeds when each of them passes. -/
theorem exists_mapM_iff {ε α β : Type} (check : α → Except ε β) (items : List α) :
    (∃ results, items.mapM check = .ok results) ↔
      ∀ item ∈ items, ∃ result, check item = .ok result := by
  induction items with
  | nil => simp [pure, Except.pure]
  | cons item rest inductionHypothesis =>
    simp only [List.mapM_cons, bind_ok_iff, pure, Except.pure, Except.ok.injEq,
      List.forall_mem_cons, ← inductionHypothesis]
    constructor
    · rintro ⟨_, result, passed, results, others, _⟩
      exact ⟨⟨result, passed⟩, results, others⟩
    · rintro ⟨⟨result, passed⟩, results, others⟩
      exact ⟨_, result, passed, results, others, rfl⟩

/-- A built gateway has the engine of the configured plugins and the configured redaction. -/
theorem GatewayState.policy_of_new {Component : Type} (wasm : Policy.Wasmtime Component)
    (config : AppConfig) (gateway : GatewayState Component)
    (built : GatewayState.new wasm config = .ok gateway) :
    Policy.PolicyEngine.new wasm config.plugins = .ok gateway.policy ∧
      gateway.redaction = config.redaction := by
  obtain ⟨policy, loaded, same⟩ := (bind_ok_iff _ _ _).mp built
  obtain rfl := Except.ok.inj same
  exact ⟨loaded, rfl⟩

namespace Policy

variable {Component : Type}

/-- Normalization accepts a decision whose mutations it accepts one by one. -/
theorem exists_normalizeDecision_iff (http : HttpCrate) (decision : RequestPolicyDecision)
    (pluginId : String) :
    (∃ normalized, normalizeDecision http decision pluginId = .ok normalized) ↔
      (∀ header ∈ decision.setHeaders, ∃ mutation,
          normalizeSetHeader http pluginId header.name header.value = .ok mutation) ∧
        ∀ name ∈ decision.removeHeaders, ∃ accepted,
          normalizeRemoveHeader http pluginId name = .ok accepted := by
  rw [← exists_mapM_iff, ← exists_mapM_iff]
  simp only [normalizeDecision, bind_ok_iff, pure, Except.pure, Except.ok.injEq]
  constructor
  · rintro ⟨_, sets, set, removes, removed, _⟩
    exact ⟨⟨sets, set⟩, removes, removed⟩
  · rintro ⟨⟨sets, set⟩, removes, removed⟩
    exact ⟨_, sets, set, removes, removed, rfl⟩

/-- The outcome of a call is the one of its turn. -/
theorem outcome_of_mem_callsFrom (outcomes : Outcomes Component) (request : PolicyRequest)
    (plugins : List (LoadedPlugin Component)) (turn : Nat) (call : Invocation Component)
    (made : call ∈ callsFrom outcomes request plugins turn) :
    ∃ turn, call.outcome = outcomes turn call.plugin call.input := by
  induction plugins generalizing turn with
  | nil => exact absurd made List.not_mem_nil
  | cons plugin rest inductionHypothesis =>
    rcases List.mem_cons.mp made with rfl | later
    · exact ⟨turn, rfl⟩
    · exact inductionHypothesis (turn + 1) later

/-- An evaluation that denies nothing has called every plugin that the configuration lists
for the route, and each call passed. -/
theorem passes_of_undenied (wasm : Wasmtime Component) (http : HttpCrate)
    (configs : List PluginConfig) (engine : PolicyEngine Component)
    (built : PolicyEngine.new wasm configs = .ok engine) (outcomes : Outcomes Component)
    (request : PolicyRequest)
    (undenied : (engine.evaluate http outcomes request).evaluation.denied = none)
    (config : PluginConfig) (configured : config ∈ configs)
    (listed : request.routeId ∈ config.routes) :
    ∃ turn plugin, plugin.config = config ∧
      Invocation.Passes http ⟨plugin, request.inputFor config,
        outcomes turn plugin (request.inputFor config)⟩ := by
  have passed := (evaluateFrom_undenied http engine outcomes request
    ((engine.routePlugins request.routeId).getD []) 0 ⟨⟨none, [], [], []⟩, []⟩ rfl).1.mp undenied
  have chained : config ∈ (engine.chain request.routeId).map LoadedPlugin.config := by
    rw [new_chain wasm configs engine built]
    exact List.mem_flatMap.mpr ⟨config, configured, List.mem_map.mpr
      ⟨request.routeId, List.mem_filter.mpr ⟨listed, decide_eq_true rfl⟩, rfl⟩⟩
  obtain ⟨plugin, inChain, rfl⟩ := List.mem_map.mp chained
  rw [← callsFrom_plugins outcomes request (engine.chain request.routeId) 0] at inChain
  obtain ⟨call, made, rfl⟩ := List.mem_map.mp inChain
  obtain ⟨turn, outcome⟩ := outcome_of_mem_callsFrom outcomes request _ 0 call made
  have input := (mem_callsFrom outcomes request _ 0 call made).2
  refine ⟨turn, call.plugin, rfl, ?_⟩
  have passes := passed call made
  rwa [show call = ⟨call.plugin, call.input, call.outcome⟩ from rfl, outcome, input] at passes

/-- A route's only plugin decides alone: what it returns in time lets the request pass when
the host accepts it and it does not deny. -/
theorem undenied_of_single_iff (http : HttpCrate) (engine : PolicyEngine Component)
    (outcomes : Outcomes Component) (request : PolicyRequest) (plugin : LoadedPlugin Component)
    (single : engine.chain request.routeId = [plugin]) (decision : RequestPolicyDecision)
    (elapsed : Duration) (returned : outcomes 0 plugin (request.inputFor plugin.config) =
      .returned (.ok decision) elapsed) :
    (engine.evaluate http outcomes request).evaluation.denied = none ↔
      (∃ normalized, normalizeDecision http decision plugin.config.id = .ok normalized) ∧
        decision.deny = none := by
  have passed := (evaluateFrom_undenied http engine outcomes request
    ((engine.routePlugins request.routeId).getD []) 0 ⟨⟨none, [], [], []⟩, []⟩ rfl).1
  have positions : engine.pluginsAt ((engine.routePlugins request.routeId).getD []) = [plugin] :=
    single
  rw [positions, callsFrom, callsFrom, List.forall_mem_singleton, returned] at passed
  refine passed.trans ⟨?_, ?_⟩
  · rintro ⟨other, ⟨time, normalized, same, accepted⟩, undenied⟩
    obtain ⟨sameDecision, _⟩ := TaskOutcome.returned.inj same
    obtain rfl := Except.ok.inj sameDecision
    exact ⟨⟨normalized, accepted⟩, undenied⟩
  · rintro ⟨⟨normalized, accepted⟩, undenied⟩
    exact ⟨decision, ⟨elapsed, normalized, rfl, accepted⟩, undenied⟩

end Policy

namespace Guests

open Policy

variable {Component : Type}

/-- A request that an upstream has seen came with a passing call of every plugin that is
configured for its route. -/
theorem passes_of_contacted (externals : Externals) (wasm : Wasmtime Component)
    (config : AppConfig) (gateway : GatewayState Component)
    (built : GatewayState.new wasm config = .ok gateway) (plugin : PluginConfig)
    (configured : plugin ∈ config.plugins) (request : InboundRequest) (remoteAddr : SocketAddr)
    (around : Surroundings Component) (route : Route)
    (matched : routeFor gateway request = some route) (listed : route.id ∈ plugin.routes)
    (handled : Handled)
    (returned : handle externals gateway request remoteAddr around = .ok handled)
    (contacted : handled.sent ≠ []) :
    ∃ (asked : PolicyRequest) (turn : Nat) (loaded : LoadedPlugin Component),
      asked.headers = policyHeaders request.headers ∧
      asked.sensitiveHeaders = config.redaction.headers ∧ loaded.config = plugin ∧
      Invocation.Passes externals.http ⟨loaded, asked.inputFor plugin,
        around.outcomes turn loaded (asked.inputFor plugin)⟩ := by
  obtain ⟨engine, redaction⟩ := GatewayState.policy_of_new wasm config gateway built
  have way := prepare_cases externals gateway request remoteAddr around
  rcases (handle_eq_ok externals gateway request remoteAddr around handled).mp returned with
    prepared | ⟨forward, prepared, rfl⟩
  · have silent := sent_of_exit externals gateway request remoteAddr around handled prepared
    exact absurd silent contacted
  · rw [prepared] at way
    cases way with
    | forward chosen bodyPreview body index upstream previewed undenied selected =>
      obtain rfl : chosen = route := Option.some.inj (previewed.matched.symm.trans matched)
      obtain ⟨turn, loaded, same, passes⟩ := passes_of_undenied wasm externals.http
        config.plugins gateway.policy engine around.outcomes _ undenied plugin configured listed
      exact ⟨_, turn, loaded, rfl, congrArg RedactionConfig.headers redaction, same, passes⟩

/-- A guarded route is protected, whatever else is configured for it and whatever the other
plugins do: no upstream sees a request unless the request shows the guard's key. -/
theorem forwarded_only_with_key (externals : Externals) (wasm : Wasmtime Component)
    (config : AppConfig) (gateway : GatewayState Component)
    (built : GatewayState.new wasm config = .ok gateway) (guard : PluginConfig)
    (configured : guard ∈ config.plugins) (request : InboundRequest) (remoteAddr : SocketAddr)
    (around : Surroundings Component) (route : Route)
    (matched : routeFor gateway request = some route) (listed : route.id ∈ guard.routes)
    (runsGuest : ∀ turn plugin input, plugin.config = guard →
      Answers ApiKeyGuard.beforeRequest input (around.outcomes turn plugin input))
    (handled : Handled)
    (returned : handle externals gateway request remoteAddr around = .ok handled)
    (contacted : handled.sent ≠ []) : ShowsKey config.redaction guard request.headers := by
  obtain ⟨asked, turn, loaded, given, hidden, rfl, decision, ⟨elapsed, _, outcome, _⟩, passed⟩ :=
    passes_of_contacted externals wasm config gateway built guard configured request remoteAddr
      around route matched listed handled returned contacted
  rw [runsGuest turn loaded _ rfl decision elapsed outcome] at passed
  exact (deny_beforeRequest asked loaded.config request.headers config.redaction given
    hidden).mp passed

/-- A guard that is shown the key although the key is sensitive. -/
def keyGuard : PluginConfig :=
  { guardConfig with rawHeaders := ["x-api-key"], config := [⟨"expected", "k"⟩] }

def ordersRoute : Route := { Exchange.uploadRoute with id := "orders" }

def ordersConfig (plugin : PluginConfig) : AppConfig :=
  { bareConfig with
    redaction := ⟨["x-api-key"], []⟩, routes := [ordersRoute], plugins := [plugin] }

/-- The gateway of `ordersConfig`. -/
def ordersGateway (plugin : PluginConfig) : GatewayState Unit :=
  { router := [ordersRoute], storageConfig := bareConfig.storage
    redaction := ⟨["x-api-key"], []⟩
    policy := ⟨[⟨plugin, ()⟩], plugin.routes.foldl (pushIndex 0) fun _ => none⟩
    routeRuntime := Map.insert (fun _ => none) "orders" (RouteRuntime.new ordersRoute) }

/-- Every plugin runs this guest and answers at once. -/
def aroundGuest (guest : RequestPolicyInput → RequestPolicyDecision) : Surroundings Unit :=
  let outcomes : Outcomes Unit := fun _ _ input => .returned (.ok (guest input)) 0
  { Exchange.uploadAround with outcomes := outcomes }

/-- In these surroundings a plugin's call answers what the guest decides. -/
theorem answers_aroundGuest (guest : RequestPolicyInput → RequestPolicyDecision) (turn : Nat)
    (plugin : LoadedPlugin Unit) (input : RequestPolicyInput) :
    Answers guest input ((aroundGuest guest).outcomes turn plugin input) := by
  intro decision elapsed same
  obtain ⟨sameDecision, _⟩ := TaskOutcome.returned.inj same
  exact (Except.ok.inj sameDecision).symm

def keyedRequest : InboundRequest :=
  { Exchange.uploadRequest with headers := [("X-Api-Key", .ofAscii "k")] }

/-- A request that shows the key is forwarded. -/
theorem forwarded_only_with_key_sent : ∃ handled,
    handle Exchange.plainExternals (ordersGateway keyGuard) keyedRequest Exchange.localAddr
        (aroundGuest ApiKeyGuard.beforeRequest) = .ok handled ∧
      handled.sent ≠ [] ∧ ShowsKey ⟨["x-api-key"], []⟩ keyGuard keyedRequest.headers :=
  ⟨_, rfl, List.cons_ne_nil _ _, forwarded_only_with_key Exchange.plainExternals permissiveWasm
    (ordersConfig keyGuard) (ordersGateway keyGuard) rfl keyGuard (List.mem_singleton.mpr rfl)
    keyedRequest Exchange.localAddr (aroundGuest ApiKeyGuard.beforeRequest) ordersRoute rfl
    (List.mem_singleton.mpr rfl)
    (fun turn plugin input _ => answers_aroundGuest ApiKeyGuard.beforeRequest turn plugin input)
    _ rfl (List.cons_ne_nil _ _)⟩

/-! ## The normalizer's settings -/

/-- What the normalizer is told to set and to remove is accepted by the host. -/
def WellConfigured (http : HttpCrate) (normalizer : PluginConfig) : Prop :=
  (∀ name value, settingOf normalizer "set_header" = some name →
      settingOf normalizer "set_value" = some value →
      ∃ mutation, normalizeSetHeader http normalizer.id name value = .ok mutation) ∧
    ∀ name, settingOf normalizer "remove_header" = some name →
      ∃ accepted, normalizeRemoveHeader http normalizer.id name = .ok accepted

/-- Whether the host accepts the normalizer's decision is a matter of its configuration: the
decision is the same for every request. -/
theorem accepts_normalizer_iff (http : HttpCrate) (request : PolicyRequest)
    (normalizer : PluginConfig) :
    (∃ normalized, normalizeDecision http
        (HeaderNormalizer.beforeRequest (request.inputFor normalizer)) normalizer.id =
      .ok normalized) ↔ WellConfigured http normalizer := by
  have sets : (HeaderNormalizer.beforeRequest (request.inputFor normalizer)).setHeaders =
      match settingOf normalizer "set_header", settingOf normalizer "set_value" with
      | some name, some value => [⟨name, value⟩]
      | _, _ => [] := rfl
  have removes : (HeaderNormalizer.beforeRequest (request.inputFor normalizer)).removeHeaders =
      (settingOf normalizer "remove_header").toList := by
    change ((settingOf normalizer "remove_header").map fun value => [value]).getD [] = _
    cases settingOf normalizer "remove_header" <;> rfl
  rw [exists_normalizeDecision_iff, sets, removes, WellConfigured]
  refine and_congr ?_ (by simp)
  cases settingOf normalizer "set_header" <;> cases settingOf normalizer "set_value" <;> simp

/-- A normalizer never looks at who asks. With settings that the host does not accept, no
request of its routes reaches an upstream, whatever other plugins there are. A route with no
other plugin lets a request pass the policy, when the normalizer returns in time, exactly if
its settings are accepted. -/
theorem normalizer_judged_by_settings (externals : Externals) (wasm : Wasmtime Component)
    (config : AppConfig) (gateway : GatewayState Component)
    (built : GatewayState.new wasm config = .ok gateway) (normalizer : PluginConfig)
    (configured : normalizer ∈ config.plugins) (request : InboundRequest)
    (remoteAddr : SocketAddr) (around : Surroundings Component) (route : Route)
    (matched : routeFor gateway request = some route) (listed : route.id ∈ normalizer.routes)
    (runsGuest : ∀ turn plugin input, plugin.config = normalizer →
      Answers HeaderNormalizer.beforeRequest input (around.outcomes turn plugin input)) :
    (∀ handled, handle externals gateway request remoteAddr around = .ok handled →
        handled.sent ≠ [] → WellConfigured externals.http normalizer) ∧
      (configuredFor config.plugins route.id = [normalizer] →
        (∀ turn plugin input, plugin.config = normalizer →
          ∃ decision elapsed,
            around.outcomes turn plugin input = .returned (.ok decision) elapsed) →
        ∀ bodyPreview,
          (evaluationFor externals gateway request remoteAddr around route bodyPreview).denied =
              none ↔ WellConfigured externals.http normalizer) := by
  constructor
  · intro handled returned contacted
    obtain ⟨asked, turn, loaded, _, _, rfl, decision, ⟨elapsed, normalized, outcome, accepted⟩,
      _⟩ := passes_of_contacted externals wasm config gateway built normalizer configured request
        remoteAddr around route matched listed handled returned contacted
    rw [runsGuest turn loaded _ rfl decision elapsed outcome] at accepted
    exact (accepts_normalizer_iff externals.http asked loaded.config).mp ⟨normalized, accepted⟩
  · intro alone returns bodyPreview
    obtain ⟨engine, _⟩ := GatewayState.policy_of_new wasm config gateway built
    have chained := new_chain wasm config.plugins gateway.policy engine route.id
    rw [alone] at chained
    obtain ⟨loaded, chain, rfl⟩ := List.map_eq_singleton_iff.mp chained
    obtain ⟨decision, elapsed, outcome⟩ := returns 0 loaded _ rfl
    have decides := undenied_of_single_iff externals.http gateway.policy around.outcomes
      (policyRequest externals gateway (requestFacts externals gateway.redaction
        around.freshRequestId request remoteAddr) route request.headers bodyPreview)
      loaded chain decision elapsed outcome
    rw [runsGuest 0 loaded _ rfl decision elapsed outcome, accepts_normalizer_iff] at decides
    exact decides.trans (and_iff_left rfl)

/-- A normalizer that marks requests. -/
def markNormalizer : PluginConfig :=
  { guardConfig with config := [⟨"set_header", "X-Policy"⟩, ⟨"set_value", "normalized"⟩] }

/-- A normalizer with a well-formed setting lets a request pass. -/
theorem normalizer_judged_by_settings_marked : ∃ handled,
    handle Exchange.plainExternals (ordersGateway markNormalizer) keyedRequest
        Exchange.localAddr (aroundGuest HeaderNormalizer.beforeRequest) = .ok handled ∧
      handled.sent ≠ [] ∧ WellConfigured Exchange.plainExternals.http markNormalizer :=
  ⟨_, rfl, List.cons_ne_nil _ _, (normalizer_judged_by_settings Exchange.plainExternals
    permissiveWasm (ordersConfig markNormalizer) (ordersGateway markNormalizer) rfl
    markNormalizer (List.mem_singleton.mpr rfl) keyedRequest Exchange.localAddr
    (aroundGuest HeaderNormalizer.beforeRequest) ordersRoute rfl (List.mem_singleton.mpr rfl)
    (fun turn plugin input _ =>
      answers_aroundGuest HeaderNormalizer.beforeRequest turn plugin input)).1 _ rfl
    (List.cons_ne_nil _ _)⟩

end Guests

end TraceGate
