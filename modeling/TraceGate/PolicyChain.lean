import TraceGate.Policy

/-!
# What an evaluation that denies nothing has seen

The chain of a route is the list of plugins its positions stand for. Loading
lists every configured plugin once for each time it names the route, in
configuration order, and no position ever points outside the plugin vector, so
the loop's `continue` is never taken. An evaluation ends without a denial exactly
when every call of the chain finished and its decision carried no deny response.

The decision's `allow` flag does not survive normalization. A chain therefore
fails closed exactly when it is not the case that all its plugins finish without
a deny response while one of them answers that the request is not allowed.
-/

namespace TraceGate.Policy

variable {Component : Type}

/-- The plugins a list of positions stands for. -/
def PolicyEngine.pluginsAt (engine : PolicyEngine Component) (indexes : List Nat) :
    List (LoadedPlugin Component) :=
  indexes.filterMap (engine.plugins[·]?)

/-- The plugins of a route in calling order. -/
def PolicyEngine.chain (engine : PolicyEngine Component) (routeId : String) :
    List (LoadedPlugin Component) :=
  engine.pluginsAt ((engine.routePlugins routeId).getD [])

/-- The plugins a configuration lists for a route: once per mention, in order. -/
def configuredFor (configs : List PluginConfig) (routeId : String) : List PluginConfig :=
  configs.flatMap fun config => (config.routes.filter (· = routeId)).map fun _ => config

/-- Every listed position is inside the plugin vector. -/
def PolicyEngine.Indexed (engine : PolicyEngine Component) : Prop :=
  ∀ routeId, ∀ index ∈ (engine.routePlugins routeId).getD [], index < engine.plugins.length

/-- Pushing one position for each route of a plugin appends it once per mention of the route. -/
theorem pushIndex_foldl (index : Nat) (routes : List String)
    (routePlugins : Map String (List Nat)) (routeId : String) :
    (routes.foldl (pushIndex index) routePlugins routeId).getD [] =
      (routePlugins routeId).getD [] ++ (routes.filter (· = routeId)).map fun _ => index := by
  induction routes generalizing routePlugins with
  | nil => simp
  | cons route rest inductionHypothesis =>
    rw [List.foldl_cons, inductionHypothesis]
    by_cases same : route = routeId
    · simp [pushIndex, Map.insert, same]
    · have apart : routeId ≠ route := fun equal => same equal.symm
      simp [pushIndex, Map.insert, same, apart]

/-- A successful iteration appends the plugin and lists its position for each of its routes. -/
theorem load_eq_ok (wasm : Wasmtime Component) (engine next : PolicyEngine Component)
    (config : PluginConfig) (loaded : engine.load wasm config = .ok next) :
    ∃ component, next = ⟨engine.plugins ++ [⟨config, component⟩],
      config.routes.foldl (pushIndex engine.plugins.length) engine.routePlugins⟩ := by
  have hooked : config.hook = .beforeRequest := by cases config.hook; rfl
  simp only [PolicyEngine.load, hooked, ne_eq, not_true_eq_false, if_false] at loaded
  cases read : wasm.fromFile config.path with
  | error reason => simp [read] at loaded
  | ok component =>
    cases valid : validateComponent wasm component config with
    | error err => simp [read, valid, bind, Except.bind] at loaded
    | ok checked =>
      simp only [read, valid, bind, Except.bind, pure, Except.pure, Except.ok.injEq] at loaded
      exact ⟨component, loaded.symm⟩

/-- One iteration keeps positions inside the vector: the one it lists is that of the plugin it
appends. -/
theorem load_indexed (wasm : Wasmtime Component) (engine next : PolicyEngine Component)
    (config : PluginConfig) (indexed : engine.Indexed)
    (loaded : engine.load wasm config = .ok next) : next.Indexed := by
  obtain ⟨component, rfl⟩ := load_eq_ok wasm engine next config loaded
  intro routeId index listed
  rw [pushIndex_foldl, List.mem_append] at listed
  rw [List.length_append, List.length_singleton]
  rcases listed with earlier | added
  · have bound := indexed routeId index earlier
    omega
  · obtain ⟨_, _, same⟩ := List.mem_map.mp added
    omega

/-- One iteration extends the chain of a route by the mentions of the route.

The positions listed before are inside the vector, so appending a plugin does not change what
they point at. -/
theorem load_chain (wasm : Wasmtime Component) (engine next : PolicyEngine Component)
    (config : PluginConfig) (indexed : engine.Indexed)
    (loaded : engine.load wasm config = .ok next) (routeId : String) :
    (next.chain routeId).map LoadedPlugin.config =
      (engine.chain routeId).map LoadedPlugin.config ++
        (config.routes.filter (· = routeId)).map fun _ => config := by
  obtain ⟨component, rfl⟩ := load_eq_ok wasm engine next config loaded
  have kept : ((engine.routePlugins routeId).getD []).filterMap
      ((engine.plugins ++ [⟨config, component⟩])[·]?) = engine.chain routeId := by
    refine List.filterMap_congr fun index listed => ?_
    exact List.getElem?_append_left (indexed routeId index listed)
  simp only [PolicyEngine.chain, PolicyEngine.pluginsAt, pushIndex_foldl,
    List.filterMap_append, kept, List.map_append]
  simp

/-- Loading the remaining plugins appends what they configure for the route, in their order.

By induction on the configurations, for every engine to start from. -/
theorem foldlM_load_chain (wasm : Wasmtime Component) (configs : List PluginConfig)
    (start engine : PolicyEngine Component) (indexed : start.Indexed)
    (loaded : configs.foldlM (PolicyEngine.load wasm) start = .ok engine) (routeId : String) :
    (engine.chain routeId).map LoadedPlugin.config =
      (start.chain routeId).map LoadedPlugin.config ++ configuredFor configs routeId := by
  induction configs generalizing start with
  | nil =>
    have same : start = engine := Except.ok.inj loaded
    simp [configuredFor, same]
  | cons config rest inductionHypothesis =>
    rw [List.foldlM_cons] at loaded
    cases first : start.load wasm config with
    | error err => simp [first, bind, Except.bind] at loaded
    | ok next =>
      simp only [first, bind, Except.bind] at loaded
      rw [inductionHypothesis next (load_indexed wasm start next config indexed first) loaded,
        load_chain wasm start next config indexed first routeId, List.append_assoc]
      rfl

/-- The chain of a loaded engine is what the configuration lists. -/
theorem new_chain (wasm : Wasmtime Component) (configs : List PluginConfig)
    (engine : PolicyEngine Component) (built : PolicyEngine.new wasm configs = .ok engine)
    (routeId : String) :
    (engine.chain routeId).map LoadedPlugin.config = configuredFor configs routeId := by
  cases started : wasm.newEngine with
  | error reason => simp [PolicyEngine.new, started] at built
  | ok _ =>
    simp only [PolicyEngine.new, started] at built
    have vacant : (PolicyEngine.empty : PolicyEngine Component).Indexed := by
      intro routeId index listed
      simp [PolicyEngine.empty] at listed
    simpa [PolicyEngine.chain, PolicyEngine.pluginsAt, PolicyEngine.empty] using
      foldlM_load_chain wasm configs .empty engine vacant built routeId

/-- The calls of a whole chain, from a given turn on. -/
def callsFrom (outcomes : Outcomes Component) (request : PolicyRequest) :
    List (LoadedPlugin Component) → Nat → List (Invocation Component)
  | [], _ => []
  | plugin :: rest, turn =>
      ⟨plugin, request.inputFor plugin.config,
        outcomes turn plugin (request.inputFor plugin.config)⟩ ::
          callsFrom outcomes request rest (turn + 1)

/-- The calls a request makes when no plugin ends its evaluation. -/
def PolicyEngine.calls (engine : PolicyEngine Component) (outcomes : Outcomes Component)
    (request : PolicyRequest) : List (Invocation Component) :=
  callsFrom outcomes request (engine.chain request.routeId) 0

/-- The calls of a chain go through its plugins in order. -/
theorem callsFrom_plugins (outcomes : Outcomes Component) (request : PolicyRequest)
    (plugins : List (LoadedPlugin Component)) (turn : Nat) :
    (callsFrom outcomes request plugins turn).map Invocation.plugin = plugins := by
  induction plugins generalizing turn with
  | nil => rfl
  | cons plugin rest inductionHypothesis => simp [callsFrom, inductionHypothesis]

/-- The call returned this decision before its deadline, and normalization
accepted it. -/
def Invocation.Finished (http : HttpCrate) (call : Invocation Component)
    (decision : RequestPolicyDecision) : Prop :=
  ∃ elapsed normalized, call.outcome = .returned (.ok decision) elapsed ∧
    normalizeDecision http decision call.plugin.config.id = .ok normalized

/-- Normalization keeps whether there is a deny response, and normalizes the one there is. -/
theorem normalizeDecision_deny (http : HttpCrate) (decision : RequestPolicyDecision)
    (pluginId : String) (normalized : NormalizedDecision)
    (accepted : normalizeDecision http decision pluginId = .ok normalized) :
    normalized.deny = decision.deny.map normalizeDeny := by
  simp only [normalizeDecision, bind, Except.bind] at accepted
  split at accepted
  · exact absurd accepted (by simp)
  · split at accepted
    · exact absurd accepted (by simp)
    · simp only [pure, Except.pure, Except.ok.injEq] at accepted
      rw [← accepted]

/-- A call settles into a decision exactly when it finished with one that can be normalized.

A timeout, a task that could not be joined, an error of the guest and a decision that cannot be
normalized are the failures, and none of them settles. -/
theorem settle_eq_ok_iff (http : HttpCrate) (plugin : LoadedPlugin Component)
    (routeId : String) (outcome : TaskOutcome) (normalized : NormalizedDecision)
    (record : PolicyDecisionRecord) :
    settle http plugin routeId outcome = .ok (normalized, record) ↔
      ∃ decision elapsed, outcome = .returned (.ok decision) elapsed ∧
        normalizeDecision http decision plugin.config.id = .ok normalized ∧
        record = recordFromDecision plugin.config.id routeId normalized elapsed false none := by
  cases outcome with
  | joinError reason elapsed => simp [settle]
  | timedOut => simp [settle]
  | returned guest elapsed =>
    cases guest with
    | error err => simp [settle, LoadedPlugin.call, Except.bind]
    | ok decision =>
      cases checked : normalizeDecision http decision plugin.config.id with
      | error err => simp [settle, LoadedPlugin.call, Except.bind, checked]
      | ok accepted =>
        simp only [settle, LoadedPlugin.call, Except.bind, checked, Except.ok.injEq,
          Prod.mk.injEq]
        constructor
        · rintro ⟨rfl, rfl⟩
          exact ⟨decision, elapsed, rfl, checked, rfl⟩
        · rintro ⟨other, time, same, acceptedToo, rfl⟩
          obtain ⟨sameDecision, rfl⟩ := TaskOutcome.returned.inj same
          obtain rfl := Except.ok.inj sameDecision
          obtain rfl := Except.ok.inj (checked.symm.trans acceptedToo)
          exact ⟨rfl, rfl⟩

/-- The call finished with a decision that carries no deny response. -/
def Invocation.Passes (http : HttpCrate) (call : Invocation Component) : Prop :=
  ∃ decision, call.Finished http decision ∧ decision.deny = none

/-- A call passes exactly when it settles into a decision without denial. -/
theorem passes_iff (http : HttpCrate) (call : Invocation Component) (routeId : String) :
    call.Passes http ↔ ∃ normalized record,
      settle http call.plugin routeId call.outcome = .ok (normalized, record) ∧
        normalized.deny = none := by
  constructor
  · rintro ⟨decision, ⟨elapsed, normalized, returned, accepted⟩, undenied⟩
    refine ⟨normalized, _, (settle_eq_ok_iff _ _ _ _ _ _).mpr
      ⟨decision, elapsed, returned, accepted, rfl⟩, ?_⟩
    rw [normalizeDecision_deny _ _ _ _ accepted, undenied, Option.map_none]
  · rintro ⟨normalized, record, settled, undenied⟩
    obtain ⟨decision, elapsed, returned, accepted, _⟩ :=
      (settle_eq_ok_iff _ _ _ _ _ _).mp settled
    refine ⟨decision, ⟨elapsed, normalized, returned, accepted⟩, ?_⟩
    rw [normalizeDecision_deny _ _ _ _ accepted] at undenied
    exact Option.map_eq_none_iff.mp undenied

/-- The loop ends without denial exactly when every remaining call passes, and
then it has made all of them.

Proof: follow the positions. A position outside the vector contributes no call.
A call that settles without denial moves on; a denial or an error record ends
the loop with a denial, and the call is then one that does not pass. -/
theorem evaluateFrom_undenied (http : HttpCrate) (engine : PolicyEngine Component)
    (outcomes : Outcomes Component) (request : PolicyRequest) (indexes : List Nat)
    (turn : Nat) (progress : Progress Component)
    (undecided : progress.evaluation.denied = none) :
    ((evaluateFrom http engine outcomes request indexes turn progress).evaluation.denied = none ↔
      ∀ call ∈ callsFrom outcomes request (engine.pluginsAt indexes) turn, call.Passes http) ∧
    ((evaluateFrom http engine outcomes request indexes turn progress).evaluation.denied = none →
      (evaluateFrom http engine outcomes request indexes turn progress).invocations =
        progress.invocations ++
          callsFrom outcomes request (engine.pluginsAt indexes) turn) := by
  induction indexes generalizing turn progress with
  | nil => simp [evaluateFrom, PolicyEngine.pluginsAt, callsFrom, undecided]
  | cons index rest inductionHypothesis =>
    cases found : engine.plugins[index]? with
    | none =>
      simpa [evaluateFrom, PolicyEngine.pluginsAt, found] using
        inductionHypothesis turn progress undecided
    | some plugin =>
      let call : Invocation Component := ⟨plugin, request.inputFor plugin.config,
        outcomes turn plugin (request.inputFor plugin.config)⟩
      have listed : callsFrom outcomes request (engine.pluginsAt (index :: rest)) turn =
          call :: callsFrom outcomes request (engine.pluginsAt rest) (turn + 1) := by
        simp [PolicyEngine.pluginsAt, found, callsFrom, call]
      have passing := passes_iff http call request.routeId
      rw [listed, List.forall_mem_cons, passing]
      cases settled : settle http plugin request.routeId call.outcome with
      | error record => simp [evaluateFrom, found, call, settled]
      | ok settledPair =>
        obtain ⟨normalized, record⟩ := settledPair
        cases denied : normalized.deny with
        | some deny => simp [evaluateFrom, found, call, settled, denied]
        | none =>
          have continued := inductionHypothesis (turn + 1)
            ⟨progress.evaluation.merge normalized record, progress.invocations ++ [call]⟩
            undecided
          simpa [evaluateFrom, found, call, settled, denied] using continued

/-- An evaluation that denies nothing invoked every plugin the configuration
lists for the route, and each of them finished without error and answered both
that the request is allowed and that there is no deny response. -/
def FailsClosed (http : HttpCrate) (configs : List PluginConfig)
    (engine : PolicyEngine Component) (outcomes : Outcomes Component)
    (request : PolicyRequest) : Prop :=
  let result := engine.evaluate http outcomes request
  result.evaluation.denied = none →
    result.invocations.map (fun call => call.plugin.config) =
        configuredFor configs request.routeId ∧
      ∀ call ∈ result.invocations, ∃ decision, call.Finished http decision ∧
        decision.allow = true ∧ decision.deny = none

/-- Every plugin of the chain finishes without a deny response, and one of them
answers that the request is not allowed. -/
def SilentRefusal (http : HttpCrate) (calls : List (Invocation Component)) : Prop :=
  (∀ call ∈ calls, call.Passes http) ∧
    ∃ call ∈ calls, ∃ decision, call.Finished http decision ∧ decision.allow = false

/-- A call finishes with one decision only. -/
theorem finished_unique (http : HttpCrate) (call : Invocation Component)
    (first second : RequestPolicyDecision) (once : call.Finished http first)
    (again : call.Finished http second) : first = second := by
  obtain ⟨_, _, returned, _⟩ := once
  obtain ⟨_, _, returnedAgain, _⟩ := again
  exact Except.ok.inj (TaskOutcome.returned.inj (returned.symm.trans returnedAgain)).1

/-- A policy chain fails closed exactly when no refusal is silent, that is when it is not the
case that every call passes and one of them still did not allow the request.

An undenied chain has made all its calls, so a missing permission was silent; and a silent
refusal leaves the chain undenied. -/
theorem failsClosed_iff_no_silentRefusal (wasm : Wasmtime Component) (http : HttpCrate)
    (configs : List PluginConfig) (engine : PolicyEngine Component)
    (built : PolicyEngine.new wasm configs = .ok engine) (outcomes : Outcomes Component)
    (request : PolicyRequest) :
    FailsClosed http configs engine outcomes request ↔
      ¬ SilentRefusal http (engine.calls outcomes request) := by
  obtain ⟨undenied, complete⟩ := evaluateFrom_undenied http engine outcomes request
    ((engine.routePlugins request.routeId).getD []) 0 ⟨⟨none, [], [], []⟩, []⟩ rfl
  change (engine.evaluate http outcomes request).evaluation.denied = none ↔
    ∀ call ∈ engine.calls outcomes request, call.Passes http at undenied
  change (engine.evaluate http outcomes request).evaluation.denied = none →
    (engine.evaluate http outcomes request).invocations =
      engine.calls outcomes request at complete
  constructor
  · rintro closed ⟨passed, call, made, decision, finished, refused⟩
    have undecided := undenied.mpr passed
    obtain ⟨_, allowed⟩ := closed undecided
    rw [complete undecided] at allowed
    obtain ⟨other, finishedToo, flag, _⟩ := allowed call made
    rw [finished_unique http call decision other finished finishedToo, flag] at refused
    exact Bool.noConfusion refused
  · intro loud undecided
    have passed := undenied.mp undecided
    rw [complete undecided]
    constructor
    · rw [← new_chain wasm configs engine built, ← callsFrom_plugins outcomes request
        (engine.chain request.routeId) 0, List.map_map]
      rfl
    · intro call made
      obtain ⟨decision, finished, undeniedCall⟩ := passed call made
      refine ⟨decision, finished, ?_, undeniedCall⟩
      cases flag : decision.allow with
      | true => rfl
      | false => exact absurd ⟨passed, call, made, decision, finished, flag⟩ loud

/-- A parser that takes every text. -/
def permissiveHttp : HttpCrate := ⟨.ok, fun text => .ok (.ofAscii text)⟩

/-- A host that loads every component. -/
def permissiveWasm : Wasmtime Unit := ⟨.ok (), fun _ => .ok (), fun _ => [], fun _ _ => .ok ()⟩

def guardConfig : PluginConfig :=
  { id := "guard", path := "guard.wasm", hook := .beforeRequest, routes := ["orders"]
    timeout := fromMillis 5, memoryLimitBytes := 16777216, fuel := 1000000
    bodyPreviewBytes := 0, rawHeaders := [], config := [] }

def guardEngine : PolicyEngine Unit :=
  ⟨[⟨guardConfig, ()⟩], pushIndex 0 (fun _ => none) "orders"⟩

def ordersRequest : PolicyRequest :=
  { routeId := "orders", requestId := "r", method := "GET", path := "/orders", query := none
    headers := [], sensitiveHeaders := [], clientAddress := "127.0.0.1", bodyPreview := none }

/-- A guest that only sets the flag of its decision. -/
def answering (allow : Bool) : Outcomes Unit :=
  fun _ _ _ => .returned (.ok ⟨allow, none, [], [], []⟩) 0

/-- A guard that allows leaves nothing silent. -/
theorem failsClosed_of_allowing_guard :
    FailsClosed permissiveHttp [guardConfig] guardEngine (answering true) ordersRequest := by
  refine (failsClosed_iff_no_silentRefusal permissiveWasm permissiveHttp [guardConfig]
    guardEngine rfl (answering true) ordersRequest).mpr ?_
  rintro ⟨_, call, made, decision, ⟨_, _, returned, _⟩, refused⟩
  obtain rfl : call = ⟨⟨guardConfig, ()⟩, ordersRequest.inputFor guardConfig,
      .returned (.ok ⟨true, none, [], [], []⟩) 0⟩ := List.mem_singleton.mp made
  obtain rfl := Except.ok.inj (TaskOutcome.returned.inj returned).1
  exact Bool.noConfusion refused

/-- A guard that refuses through the flag alone lets the request through: only the deny response
is looked at. -/
theorem refusing_guard_not_failsClosed :
    PolicyEngine.new permissiveWasm [guardConfig] = .ok guardEngine ∧
      ¬ FailsClosed permissiveHttp [guardConfig] guardEngine (answering false)
        ordersRequest := by
  refine ⟨rfl, fun closed => ?_⟩
  obtain ⟨_, allowed⟩ := closed rfl
  obtain ⟨decision, ⟨_, _, returned, _⟩, flag, _⟩ := allowed
    ⟨⟨guardConfig, ()⟩, ordersRequest.inputFor guardConfig,
      .returned (.ok ⟨false, none, [], [], []⟩) 0⟩ (List.mem_singleton.mpr rfl)
  obtain rfl := Except.ok.inj (TaskOutcome.returned.inj returned).1
  exact Bool.noConfusion flag

end TraceGate.Policy
