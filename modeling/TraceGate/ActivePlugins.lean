import TraceGate.AdminAccess
import TraceGate.EvaluationRecords
import TraceGate.Routing

/-!
# The plugins a gateway can call

Reloads come and go while requests are served, and a component is read, checked and
instantiated whenever a state is built. The state that serves requests at a moment was built
from one configuration that had been loaded: the current one, or the one that the holder of
the lock has stored a state for and is about to make current. So whatever a request calls was
vetted for that configuration, and is called within its limits.

Three layers meet here. Validation bounds every plugin and keeps identifiers apart, loading
admits a component only if everything it imports is on the list, and the steps of reloads
keep the state and the configuration together.
-/

namespace TraceGate

/-! ## What validation promises of plugins -/

namespace Config

/-- What validation promises of a plugin, given the identifiers of the routes. -/
structure AcceptedPlugin (routeIds : List String) (plugin : PluginConfig) : Prop where
  routes : ∀ route ∈ plugin.routes, route ∈ routeIds
  once : plugin.routes.Nodup
  timeout : fromMillis 1 ≤ plugin.timeout ∧ plugin.timeout ≤ fromMillis 5000
  memory : 65536 ≤ plugin.memoryLimitBytes ∧ plugin.memoryLimitBytes ≤ 134217728
  fuel : 0 < plugin.fuel
  preview : plugin.bodyPreviewBytes ≤ 65536
  settings : ∀ setting ∈ plugin.config, setting.value.length ≤ 4096

/-- A setting that is accepted has a value of at most 4096 characters, whatever its key. -/
theorem validatePluginConfigEntry_ok (pluginId : String) (entry : String × String)
    (setting : PluginConfigValue)
    (passed : validatePluginConfigEntry pluginId entry = .ok setting) :
    setting.value.length ≤ 4096 := by
  simp only [validatePluginConfigEntry, bind_ok_iff, pure, Except.pure, Except.ok.injEq] at passed
  obtain ⟨_, _, _, _, _, short, rfl⟩ := passed
  simpa using of_require short

/-- A validated plugin has what validation promises: its limits lie in their ranges, and its
routes and settings were checked one by one. -/
theorem ValidatedPlugin.accepted {routeIds : List String} {mode : RuntimeMode}
    {seen : List String} {raw : PluginRawConfig} {plugin : PluginConfig}
    (validated : ValidatedPlugin routeIds mode seen raw plugin) :
    AcceptedPlugin routeIds plugin := by
  obtain ⟨once, routes⟩ := validatePluginRoutes_ok validated.routes
  obtain ⟨timeoutMs, timeout, _, least, most⟩ := validated.timeout
  exact {
    routes := fun route member => (routes route member).1
    once := once
    timeout := by
      rw [timeout]
      exact ⟨Nat.mul_le_mul_right _ least, Nat.mul_le_mul_right _ most⟩
    memory := validated.memoryBetween
    fuel := validated.fuelled
    preview := validated.preview.1 ▸ validated.preview.2
    settings := forall_of_mapM _ _ _ validated.config (validatePluginConfigEntry_ok raw.id) }

/-- The configuration is what some file contained, in some surroundings. -/
def Loaded (config : AppConfig) : Prop :=
  ∃ externals path content, loadConfig externals path content = .ok config

/-- In a configuration that was loaded, every plugin is accepted for the configuration's own
routes, and no two plugins have one identifier. -/
theorem Loaded.plugins {config : AppConfig} (loaded : Loaded config) :
    (∀ plugin ∈ config.plugins, AcceptedPlugin (config.routes.map Route.id) plugin) ∧
      (config.plugins.map PluginConfig.id).Nodup := by
  obtain ⟨externals, path, content, loads⟩ := loaded
  obtain ⟨_, _, raw, _, _, _, validated⟩ := loadConfig_ok loads
  have table := validateRoutes_ok validated.routes
  have plugins := validatePlugins_ok validated.plugins
  constructor
  · intro plugin member
    obtain ⟨_, _, _, passed⟩ := plugins.of_mem member
    rw [table.map_eq Route.id fun _ _ _ passed => (validateRoute_ok passed).sameId]
    exact (validatePlugin_ok passed).accepted
  · rw [plugins.map_eq PluginConfig.id fun _ _ _ passed => (validatePlugin_ok passed).sameId]
    exact (plugins.nodup_names fun _ _ _ passed => (validatePlugin_ok passed).fresh).1

end Config

/-! ## What loading admits -/

namespace Policy

variable {Component : Type}

/-- The component was read from the plugin's file, imports only what the list names, and could
be instantiated under the plugin's limits. -/
structure LoadedPlugin.Vetted (wasm : Wasmtime Component) (plugin : LoadedPlugin Component) :
    Prop where
  read : wasm.fromFile plugin.config.path = .ok plugin.component
  imports : ∀ name ∈ wasm.importNames plugin.component, isAllowedComponentImport name = true
  instantiated : wasm.instantiate plugin.config plugin.component = .ok ()

/-- A component is accepted exactly when every import of it is allowed and it can be
instantiated.

The rejected imports are collected first, and instantiation is tried only if there are none. -/
theorem validateComponent_ok_iff (wasm : Wasmtime Component) (component : Component)
    (config : PluginConfig) :
    validateComponent wasm component config = .ok () ↔
      (∀ name ∈ wasm.importNames component, isAllowedComponentImport name = true) ∧
        wasm.instantiate config component = .ok () := by
  have disallowed : (wasm.importNames component).filter
      (fun name => !isAllowedComponentImport name) = [] ↔
        ∀ name ∈ wasm.importNames component, isAllowedComponentImport name = true := by
    simp [List.filter_eq_nil_iff]
  rw [← disallowed]
  simp only [validateComponent]
  generalize (wasm.importNames component).filter _ = rejected
  cases rejected with
  | cons name rest => simp
  | nil => cases wasm.instantiate config component <;> simp

/-- One iteration admits a vetted plugin only, and puts it behind those admitted before.

Each of the three things vetting asks for is a check that the iteration has passed. -/
theorem load_vetted (wasm : Wasmtime Component) (engine next : PolicyEngine Component)
    (config : PluginConfig) (loaded : engine.load wasm config = .ok next) :
    ∃ component, next.plugins = engine.plugins ++ [⟨config, component⟩] ∧
      LoadedPlugin.Vetted wasm ⟨config, component⟩ := by
  have hooked : config.hook = .beforeRequest := by cases config.hook; rfl
  simp only [PolicyEngine.load, hooked, ne_eq, not_true_eq_false, if_false] at loaded
  cases read : wasm.fromFile config.path with
  | error reason => simp [read] at loaded
  | ok component =>
    simp only [read, bind_ok_iff, pure, Except.pure, Except.ok.injEq] at loaded
    obtain ⟨_, valid, rfl⟩ := loaded
    obtain ⟨imports, instantiated⟩ := (validateComponent_ok_iff wasm component config).mp valid
    exact ⟨component, rfl, read, imports, instantiated⟩

/-- Loading on top of vetted plugins leaves vetted plugins: the induction is over the
configurations that are still to be loaded. -/
theorem foldlM_load_vetted (wasm : Wasmtime Component) (configs : List PluginConfig)
    (start engine : PolicyEngine Component)
    (vetted : ∀ plugin ∈ start.plugins, plugin.Vetted wasm)
    (loaded : configs.foldlM (PolicyEngine.load wasm) start = .ok engine) :
    ∀ plugin ∈ engine.plugins, plugin.Vetted wasm := by
  induction configs generalizing start with
  | nil =>
    obtain rfl := Except.ok.inj loaded
    exact vetted
  | cons config rest inductionHypothesis =>
    rw [List.foldlM_cons, bind_ok_iff] at loaded
    obtain ⟨next, first, following⟩ := loaded
    obtain ⟨component, plugins, added⟩ := load_vetted wasm start next config first
    apply inductionHypothesis next _ following
    intro plugin member
    rw [plugins, List.mem_append, List.mem_singleton] at member
    rcases member with earlier | rfl
    · exact vetted plugin earlier
    · exact added

/-- Every plugin of an engine that was built is vetted, since the engine starts with none. -/
theorem new_vetted (wasm : Wasmtime Component) (configs : List PluginConfig)
    (engine : PolicyEngine Component) (built : PolicyEngine.new wasm configs = .ok engine) :
    ∀ plugin ∈ engine.plugins, plugin.Vetted wasm := by
  unfold PolicyEngine.new at built
  split at built
  · exact absurd built (by simp)
  · exact foldlM_load_vetted wasm configs .empty engine (by simp [PolicyEngine.empty]) built

/-- A plugin of a chain is one of the vector: a chain is made of places in it. -/
theorem mem_plugins_of_chain {engine : PolicyEngine Component} {routeId : String}
    {plugin : LoadedPlugin Component} (listed : plugin ∈ engine.chain routeId) :
    plugin ∈ engine.plugins := by
  obtain ⟨index, _, found⟩ := List.mem_filterMap.mp listed
  exact List.mem_of_getElem? found

/-- What a plugin is given of a body is no longer than its own limit, also when the body preview
was taken for a plugin that may see more. -/
theorem length_bodyPreview_le (request : PolicyRequest) (config : PluginConfig)
    (bytes : List UInt8) (given : (request.inputFor config).bodyPreview = some bytes) :
    bytes.length ≤ config.bodyPreviewBytes := by
  obtain ⟨body, _, cut⟩ := Option.bind_eq_some_iff.mp given
  split at cut
  · exact absurd cut (by simp)
  · obtain rfl := Option.some.inj cut
    rw [List.length_take]
    omega

/-- A call of a plugin that the configuration lists for one of its routes, to a vetted
component, within the limits of validation. -/
structure Invocation.Sandboxed (wasm : Wasmtime Component) (config : AppConfig)
    (routeId : String) (call : Invocation Component) : Prop where
  configured : call.plugin.config ∈ config.plugins
  listed : routeId ∈ call.plugin.config.routes
  routed : ∃ route ∈ config.routes, route.id = routeId
  vetted : call.plugin.Vetted wasm
  limits : Config.AcceptedPlugin (config.routes.map Route.id) call.plugin.config
  settings : call.input.config = call.plugin.config.config
  preview : ∀ bytes, call.input.bodyPreview = some bytes → bytes.length ≤ 65536

section

variable (wasm : Wasmtime Component) (http : HttpCrate) (config : AppConfig)
  (engine : PolicyEngine Component) (outcomes : Outcomes Component) (request : PolicyRequest)

/-- The calls of an evaluation are made to the configuration's plugins for the route, in the
order in which it lists them.

The chain of an engine that was built is that list, and the calls go along the chain until one
of them denies. -/
theorem invocations_isPrefix (loaded : Config.Loaded config)
    (built : PolicyEngine.new wasm config.plugins = .ok engine) :
    (engine.evaluate http outcomes request).invocations.map (fun call => call.plugin.config) <+:
      listedFor config.plugins request.routeId := by
  have chained := new_chain wasm config.plugins engine built request.routeId
  rw [configuredFor_eq_listedFor config.plugins request.routeId
    fun plugin member => (loaded.plugins.1 plugin member).once] at chained
  obtain ⟨called, first, made, _⟩ :=
    (evaluationRecord_of_chain http config.plugins engine outcomes request chained).called
  exact made ▸ first

/-- Every call of an evaluation is sandboxed: to a plugin of the configuration for an existing
route, vetted, within its limits, and with no more of the body than it may see. -/
theorem sandboxed_of_mem_invocations (loaded : Config.Loaded config)
    (built : PolicyEngine.new wasm config.plugins = .ok engine) (call : Invocation Component)
    (made : call ∈ (engine.evaluate http outcomes request).invocations) :
    call.Sandboxed wasm config request.routeId := by
  have inOrder := invocations_isPrefix wasm http config engine outcomes request loaded built
  obtain ⟨inChain, given⟩ := mem_invocations engine outcomes request call made
  obtain ⟨configured, listed⟩ := List.mem_filter.mp (inOrder.subset (List.mem_map_of_mem made))
  have listed := of_decide_eq_true listed
  have limits := loaded.plugins.1 call.plugin.config configured
  constructor
  · exact configured
  · exact listed
  · obtain ⟨route, member, same⟩ := List.mem_map.mp (limits.routes request.routeId listed)
    exact ⟨route, member, same⟩
  · exact new_vetted wasm config.plugins engine built call.plugin (mem_plugins_of_chain inChain)
  · exact limits
  · rw [given]
    rfl
  · intro bytes shown
    rw [given] at shown
    exact Nat.le_trans (length_bodyPreview_le request _ bytes shown) limits.preview

/-- No plugin is called twice for one request: the calls follow the list of plugins, and no
identifier stands in it twice. -/
theorem nodup_invocations (loaded : Config.Loaded config)
    (built : PolicyEngine.new wasm config.plugins = .ok engine) :
    ((engine.evaluate http outcomes request).invocations.map
      fun call => call.plugin.config.id).Nodup := by
  have inOrder := invocations_isPrefix wasm http config engine outcomes request loaded built
  have kept := (inOrder.sublist.trans List.filter_sublist).map PluginConfig.id
  rw [List.map_map] at kept
  exact kept.nodup loaded.plugins.2

/-- The gateway asks for no more of a body than validation lets a plugin ask for.

What it asks for is the largest limit in the chain, and every limit was checked. -/
theorem maxBodyPreviewBytes_le (loaded : Config.Loaded config)
    (built : PolicyEngine.new wasm config.plugins = .ok engine) (routeId : String) :
    engine.maxBodyPreviewBytes routeId ≤ 65536 := by
  have chained := new_chain wasm config.plugins engine built routeId
  rw [configuredFor_eq_listedFor config.plugins routeId
    fun plugin member => (loaded.plugins.1 plugin member).once] at chained
  change ((engine.chain routeId).map fun plugin => plugin.config.bodyPreviewBytes).max?.getD 0 ≤
    65536
  cases largest : ((engine.chain routeId).map fun plugin =>
      plugin.config.bodyPreviewBytes).max? with
  | none => simp
  | some limit =>
    obtain ⟨plugin, inChain, rfl⟩ := List.mem_map.mp (List.max?_mem largest)
    have member : plugin.config ∈ listedFor config.plugins routeId :=
      chained ▸ List.mem_map_of_mem inChain
    exact (loaded.plugins.1 plugin.config (List.mem_filter.mp member).1).preview

end

end Policy

/-! ## The state that serves requests -/

namespace Reloads

variable {Component : Type}

/-- The plugin files and the configuration that the loaded state was built from: those of the
holder of the lock once it has stored its state, else the active ones. -/
def State.origin (state : State Component) : Policy.Wasmtime Component × AppConfig :=
  match state.writer with
  | some ⟨_, _, config, .stored wasm⟩ => (wasm, config)
  | _ => (state.active.wasm, state.currentConfig)

/-- The active state was built from the configuration it has its origin in: the current one, or
the one whose state the holder of the lock has already stored. -/
theorem agrees_origin (startup : AppConfig) (state : State Component)
    (consistent : Consistent startup state) :
    Agrees state.origin.1 state.origin.2 state.gatewayState := by
  unfold State.origin
  cases writer : state.writer with
  | none => exact consistent.free writer
  | some holder =>
    obtain ⟨id, reading, config, progress⟩ := holder
    have ensured := consistent.held _ writer
    cases progress with
    | locked => exact ensured
    | checked => exact ensured.1
    | built wasm built => exact ensured.1
    | stored wasm => exact ensured.2

/-- What holds of all configurations of a state holds of the one its active state comes from. -/
theorem AllConfigs.origin {property : AppConfig → Prop} {state : State Component}
    (all : AllConfigs property state) : property state.origin.2 := by
  unfold State.origin
  cases writer : state.writer with
  | none => exact all.current
  | some holder =>
    have held := all.held holder writer
    obtain ⟨id, reading, config, progress⟩ := holder
    cases progress with
    | stored wasm => exact held
    | _ => exact all.current

/-- At every point of every interleaving of reloads, edits of the file and changes of plugin
files, the state that serves requests was built from a configuration that had been loaded.
Whatever a request makes it call is configured there for the request's route, is a component
that imports only what the list allows, and is called at most once and within the limits of
validation. -/
theorem calls_sandboxed (faultText : Toml.Fault → String) (externals : Config.Externals)
    (wasm : Policy.Wasmtime Component) (file : Except String String) (configPath : Option String)
    (config : AppConfig) (built : GatewayState Component) (loaded : Config.Loaded config)
    (builds : GatewayState.new wasm config = .ok built) (events : List (Event Component))
    (final : State Component)
    (completed : Runs.run (step faultText)
      (start externals wasm file configPath config built) events = some final) :
    let served := final.origin.2
    let engine := final.gatewayState.policy
    Config.Loaded served ∧ final.gatewayState.router = served.routes ∧
      (∀ routeId, engine.maxBodyPreviewBytes routeId ≤ 65536) ∧
      ∀ http outcomes request,
        let calls := (engine.evaluate http outcomes request).invocations
        calls.map (fun call => call.plugin.config) <+:
            Policy.listedFor served.plugins request.routeId ∧
          (calls.map fun call => call.plugin.config.id).Nodup ∧
          ∀ call ∈ calls, call.Sandboxed final.origin.1 served request.routeId := by
  have consistent := consistent_run faultText externals wasm file configPath config built builds
    events final completed
  have all : AllConfigs Config.Loaded final := by
    apply Runs.run_invariant (step faultText) (AllConfigs Config.Loaded) _ _ final events _
      completed
    · exact allConfigs_step faultText fun externals path content config loads =>
        ⟨externals, path, content, loads⟩
    · exact ⟨loaded, by simp [start], by simp [start]⟩
  have loaded := all.origin
  obtain ⟨routeRuntime, builds⟩ := agrees_origin config final consistent
  obtain ⟨policy, engine, same⟩ := (bind_ok_iff _ _ _).mp builds
  obtain ⟨router, _, _, rfl, _⟩ := GatewayState.mk.inj (Except.ok.inj same)
  refine ⟨loaded, router.symm, Policy.maxBodyPreviewBytes_le _ _ _ loaded engine, ?_⟩
  intro http outcomes request
  exact ⟨Policy.invocations_isPrefix _ http _ _ outcomes request loaded engine,
    Policy.nodup_invocations _ http _ _ outcomes request loaded engine,
    Policy.sandboxed_of_mem_invocations _ http _ _ outcomes request loaded engine⟩

/-! A gateway with one plugin, whose file is edited to name a component that opens sockets and
then one that logs. Comparing texts of files takes some depth. -/

set_option maxRecDepth 4000

def pluginText (name : String) : String :=
  sampleText "x-first" ++ "[[plugins]]\nid = 'guard'\npath = '" ++ name ++
    "'\nhook = 'before_request'\nroutes = ['api', 'api']\n"

def pluginDocument (name : String) : List (String × Toml.Value) :=
  sampleDocument "x-first" ++
    [("plugins", .array [.table
      [("id", .string "guard"), ("path", .string name), ("hook", .string "before_request"),
       ("routes", .array [.string "api", .string "api"])]])]

def pluginExternals : Config.Externals :=
  { sampleExternals with
    parseToml := fun text =>
      match ["guard.wasm", "open.wasm", "log.wasm"].find? fun name => text == pluginText name with
      | some name => .ok (pluginDocument name)
      | none => .error "expected a document" }

/-- Components that are told by their files, with what they import. -/
def pluginWasm : Policy.Wasmtime String where
  newEngine := .ok ()
  fromFile path := .ok path
  importNames
    | "open.wasm" => ["wasi:sockets/tcp@0.2.0"]
    | _ => ["tracegate:policy/types@0.1.0", "wasi:cli/stderr@0.2.0"]
  instantiate _ _ := .ok ()

def guardPlugin (name : String) : PluginConfig :=
  { id := "guard", path := name, hook := .beforeRequest, routes := ["api"]
    timeout := fromMillis Config.defaultPluginTimeoutMs
    memoryLimitBytes := Config.defaultPluginMemoryLimitBytes, fuel := Config.defaultPluginFuel
    bodyPreviewBytes := 0, rawHeaders := [], config := [] }

def pluginConfig (name : String) : AppConfig :=
  { sampleConfig "x-first" with plugins := [guardPlugin name] }

def pluginState (name : String) : GatewayState String :=
  { router := [sampleRoute], storageConfig := StorageConfig.default
    redaction := (sampleConfig "x-first").redaction
    policy := ⟨[⟨guardPlugin name, name⟩], Policy.pushIndex 0 (fun _ => none) "api"⟩
    routeRuntime := Map.insert (fun _ => none) "api" (RouteRuntime.new sampleRoute) }

def pluginStart : State String :=
  start pluginExternals pluginWasm (.ok (pluginText "guard.wasm")) (some "tracegate.toml")
    (pluginConfig "guard.wasm") (pluginState "guard.wasm")

/-- The first reload is refused, and the second one has stored its state but not yet written
its configuration. -/
def pluginEvents : List (Event String) :=
  .edit (.ok (pluginText "open.wasm")) :: .arrive 0 bearerToken ::
    List.replicate 6 (.advance 0) ++
    .edit (.ok (pluginText "log.wasm")) :: .arrive 1 bearerToken ::
      List.replicate 7 (.advance 1)

/-- A reload has stored its state and not yet its configuration: requests call the plugin of the
new one, and it is vetted for that. -/
theorem calls_sandboxed_stored :
    ∃ final call, Runs.run (step fun _ => "fault") pluginStart pluginEvents = some final ∧
      final.currentConfig = pluginConfig "guard.wasm" ∧
      final.origin.2 = pluginConfig "log.wasm" ∧
      (∃ response, final.reloads 0 = some (.answered response) ∧ response.status = 400) ∧
      (final.gatewayState.policy.evaluate Policy.permissiveHttp (fun _ _ _ => .timedOut)
        { Policy.ordersRequest with routeId := "api" }).invocations = [call] ∧
      call.Sandboxed pluginWasm (pluginConfig "log.wasm") "api" := by
  have loads : Config.loadConfig pluginExternals "tracegate.toml"
      (.ok (pluginText "guard.wasm")) = .ok (pluginConfig "guard.wasm") := rfl
  have sandboxed := (calls_sandboxed (fun _ => "fault") pluginExternals pluginWasm
    (.ok (pluginText "guard.wasm")) (some "tracegate.toml") (pluginConfig "guard.wasm")
    (pluginState "guard.wasm") ⟨_, _, _, loads⟩ rfl pluginEvents _ rfl).2.2.2
    Policy.permissiveHttp (fun _ _ _ => .timedOut)
    { Policy.ordersRequest with routeId := "api" }
  exact ⟨_, _, rfl, rfl, rfl, ⟨_, rfl, rfl⟩, rfl, sandboxed.2.2 _ List.mem_cons_self⟩

end Reloads

end TraceGate
