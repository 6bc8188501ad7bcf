import TraceGate.AdminAccess
import TraceGate.Routing

/-!
# Which upstream a health status is about

`GET /admin/api/routes` clones the current configuration under the read lock, releases it,
and loads the gateway's state. It names the upstreams of the first and reads the counters of
the second, by a route's identifier and an upstream's position. The state routes by a table of
its own, and a request records its result at the position of the upstream it took from that
table. So an entry belongs to the upstream at its place in the table of its own state.

A reload between the two reads can put another upstream at a place, or none at all. The view
is right exactly if the two tables have every upstream of the first at the same place, and
they have if the state was not replaced.
-/

namespace TraceGate.Admin

variable {Component : Type}

/-! ## Entries and their owners -/

/-- The entry at this place belongs to the upstream that the table has there. -/
def Belongs (table : List Route) (routeId : String) (index : Nat) (origin : String) : Prop :=
  ∃ route ∈ table, route.id = routeId ∧
    (route.upstreams[index]?).map Upstream.origin = some origin

/-- The entries of a route, with these values. -/
def holding (values : Nat → UpstreamRuntime) (route : Route) : RouteRuntime :=
  { RouteRuntime.new route with upstreams := route.upstreams.mapIdx fun index _ => values index }

/-- The entries for the routes of a table, with these values. -/
def entries (table : List Route) (values : String → Nat → UpstreamRuntime) :
    Map String RouteRuntime := fun routeId =>
  (table.find? fun route => route.id == routeId).map (holding (values routeId))

/-- The state with these values in its counters. -/
def showing (gatewayState : GatewayState Component)
    (values : String → Nat → UpstreamRuntime) : GatewayState Component :=
  { gatewayState with routeRuntime := entries gatewayState.router values }

/-- The status shows what the entry holds. -/
structure Shows (nowMs : Int) (entry : UpstreamRuntime) (status : RouteUpstreamStatus) :
    Prop where
  failures : status.failures = entry.failures
  unhealthy : status.unhealthy = decide (entry.unhealthyUntilMs > nowMs)
  unhealthyUntilMs : status.unhealthyUntilMs =
    if entry.unhealthyUntilMs > nowMs then some entry.unhealthyUntilMs else none

/-- The status shows an entry of the state that belongs to the origin it names. -/
def Attributed (nowMs : Int) (gatewayState : GatewayState Component)
    (status : RouteUpstreamStatus) : Prop :=
  ∃ routeId index runtime entry, Belongs gatewayState.router routeId index status.origin ∧
    gatewayState.routeRuntime routeId = some runtime ∧
    runtime.upstreams[index]? = some entry ∧ Shows nowMs entry status

/-- The table has every upstream of the configuration at the same place. -/
def Aligned (config : AppConfig) (table : List Route) : Prop :=
  ∀ route ∈ config.routes, ∀ index upstream, route.upstreams[index]? = some upstream →
    Belongs table route.id index upstream.origin

/-- A configuration is aligned with its own table. -/
theorem aligned_self (config : AppConfig) : Aligned config config.routes :=
  fun route member index upstream found => ⟨route, member, rfl, by rw [found]; rfl⟩

/-! ## Reading an entry -/

section

variable {table : List Route}

/-- If no identifier comes twice, looking a route up by its own finds it. -/
theorem find_of_mem (distinct : (table.map Route.id).Nodup) {route : Route}
    (member : route ∈ table) : (table.find? fun other => other.id == route.id) = some route := by
  cases found : table.find? fun other => other.id == route.id with
  | none => exact absurd (List.find?_eq_none.mp found route member) (by simp)
  | some other =>
    have same : other.id = route.id := by simpa using List.find?_some found
    rw [List.inj_on_of_nodup_map distinct (List.mem_of_find?_eq_some found) member same]

/-- If no identifier comes twice, the last route under one is the first. -/
theorem find_reverse (distinct : (table.map Route.id).Nodup) (routeId : String) :
    (table.reverse.find? fun route => decide (route.id = routeId)) =
      table.find? fun route => route.id == routeId := by
  cases last : table.reverse.find? fun route => decide (route.id = routeId) with
  | none =>
    refine (List.find?_eq_none.mpr fun route member => ?_).symm
    simpa using List.find?_eq_none.mp last route (List.mem_reverse.mpr member)
  | some route =>
    have member := List.mem_reverse.mp (List.mem_of_find?_eq_some last)
    obtain rfl : route.id = routeId := by simpa using List.find?_some last
    exact (find_of_mem distinct member).symm

/-- A state that was built has the entries for its table, with nothing counted. -/
theorem showing_of_new (wasm : Policy.Wasmtime Component) (config : AppConfig)
    (state : GatewayState Component) (distinct : (config.routes.map Route.id).Nodup)
    (built : GatewayState.new wasm config = .ok state) :
    state = showing state fun _ _ => ⟨0, 0⟩ := by
  obtain ⟨table, _⟩ := GatewayState.new_eq_ok wasm config state built
  have runtimes : state.routeRuntime = entries state.router fun _ _ => ⟨0, 0⟩ := by
    funext routeId
    rw [entries, GatewayState.routeRuntime_of_new wasm config state built, find_reverse distinct,
      table]
    congr 1
    funext route
    simp [holding, RouteRuntime.new, List.mapIdx_eq_zipIdx_map, List.map_const']
  rw [showing, ← runtimes]

end

section

variable {gatewayState : GatewayState Component} {values : String → Nat → UpstreamRuntime}

/-- An entry at a place is the value given for that place. -/
theorem entry_eq_value {routeId : String} {runtime : RouteRuntime} {index : Nat}
    {entry : UpstreamRuntime}
    (found : (showing gatewayState values).routeRuntime routeId = some runtime)
    (stored : runtime.upstreams[index]? = some entry) : entry = values routeId index := by
  obtain ⟨route, _, rfl⟩ := Option.map_eq_some_iff.mp found
  simp only [holding, List.getElem?_mapIdx, Option.map_eq_some_iff] at stored
  obtain ⟨_, _, rfl⟩ := stored
  rfl

/-- There is an entry at every place that belongs to an upstream. -/
theorem exists_entry (distinct : (gatewayState.router.map Route.id).Nodup) {routeId : String}
    {index : Nat} {origin : String} (belongs : Belongs gatewayState.router routeId index origin) :
    ∃ runtime, (showing gatewayState values).routeRuntime routeId = some runtime ∧
      runtime.upstreams[index]? = some (values routeId index) := by
  obtain ⟨route, member, rfl, named⟩ := belongs
  obtain ⟨upstream, stored, _⟩ := Option.map_eq_some_iff.mp named
  refine ⟨holding (values route.id) route, ?_, ?_⟩
  · simp only [showing, entries, find_of_mem distinct member, Option.map_some]
  · simp only [holding, List.getElem?_mapIdx, stored, Option.map_some]

/-- A status counts the failures of the entry at its place, or none. -/
theorem failures_upstreamStatus (nowMs : Int) (routeId : String) (index : Nat)
    (upstream : Upstream) :
    (upstreamStatus nowMs ((showing gatewayState values).routeRuntime routeId) index
        upstream).failures = (values routeId index).failures ∨
      (upstreamStatus nowMs ((showing gatewayState values).routeRuntime routeId) index
        upstream).failures = 0 := by
  unfold upstreamStatus
  cases reading : ((showing gatewayState values).routeRuntime routeId).bind fun route =>
      route.upstreams[index]? with
  | none => exact Or.inr rfl
  | some entry =>
    obtain ⟨runtime, found, stored⟩ := Option.bind_eq_some_iff.mp reading
    rw [entry_eq_value found stored]
    exact Or.inl rfl

end

/-! ## The view of two tables -/

/-- The statuses of a configuration's upstreams, by place. -/
theorem mem_upstreams_routeStatus (nowMs : Int) (gatewayState : GatewayState Component)
    (route : Route) (status : RouteUpstreamStatus) :
    status ∈ (routeStatus nowMs gatewayState route).upstreams ↔
      ∃ index upstream, route.upstreams[index]? = some upstream ∧
        status = upstreamStatus nowMs (gatewayState.routeRuntime route.id) index upstream := by
  simp only [routeStatus, List.mem_iff_getElem?, List.getElem?_mapIdx, Option.map_eq_some_iff]
  constructor
  · rintro ⟨index, upstream, found, rfl⟩
    exact ⟨index, upstream, found, rfl⟩
  · rintro ⟨index, upstream, found, rfl⟩
    exact ⟨index, upstream, found, rfl⟩

/-- A status with an entry at its place shows that entry. -/
theorem shows_upstreamStatus (nowMs : Int) (runtime : RouteRuntime) (index : Nat)
    (upstream : Upstream) (entry : UpstreamRuntime)
    (stored : runtime.upstreams[index]? = some entry) :
    Shows nowMs entry (upstreamStatus nowMs (some runtime) index upstream) := by
  constructor <;> simp [upstreamStatus, stored]

/-- A status is right whatever the counters show if its upstream is at the same place of the
table, and only then: the counter read may be the only one with its value. -/
theorem attributed_iff_belongs (gatewayState : GatewayState Component)
    (distinct : (gatewayState.router.map Route.id).Nodup) (nowMs : Int) (routeId : String)
    (index : Nat) (upstream : Upstream) :
    (∀ values, Attributed nowMs (showing gatewayState values)
        (upstreamStatus nowMs ((showing gatewayState values).routeRuntime routeId) index
          upstream)) ↔
      Belongs gatewayState.router routeId index upstream.origin := by
  constructor
  · intro attributed
    obtain ⟨ownerId, place, runtime, entry, belongs, found, stored, shown⟩ :=
      attributed fun id place => ⟨if id = routeId ∧ place = index then 1 else 2, 0⟩
    obtain rfl := entry_eq_value found stored
    have counted := shown.failures
    by_cases same : ownerId = routeId ∧ place = index
    · obtain ⟨rfl, rfl⟩ := same
      exact belongs
    · rw [if_neg same] at counted
      rcases failures_upstreamStatus nowMs routeId index upstream with read | absent
      · rw [read] at counted
        simp at counted
      · exact absurd (absent.symm.trans counted) (by simp)
  · intro belongs values
    obtain ⟨runtime, found, stored⟩ := exists_entry distinct belongs
    refine ⟨routeId, index, runtime, _, belongs, found, stored, ?_⟩
    rw [found]
    exact shows_upstreamStatus nowMs runtime index upstream _ stored

/-! ## The table of the loaded state -/

/-- The loaded state routes by the table of the current configuration, or of the one that the
holder of the lock is about to make current. -/
theorem router_of_consistent (startup : AppConfig) (state : Reloads.State Component)
    (consistent : Reloads.Consistent startup state) :
    state.gatewayState.router = state.currentConfig.routes ∨
      ∃ holder, state.writer = some holder ∧
        state.gatewayState.router = holder.config.routes := by
  have table : ∀ wasm config, Reloads.Agrees wasm config state.gatewayState →
      state.gatewayState.router = config.routes := by
    rintro wasm config ⟨routeRuntime, builds⟩
    exact (GatewayState.new_eq_ok wasm config _ builds).1
  cases writer : state.writer with
  | none => exact Or.inl (table _ _ (consistent.free writer))
  | some holder =>
    have ensured := consistent.held holder writer
    unfold Reloads.Holder.Ensured at ensured
    cases progress : holder.progress with
    | locked =>
      rw [progress] at ensured
      exact Or.inl (table _ _ ensured)
    | checked =>
      rw [progress] at ensured
      exact Or.inl (table _ _ ensured.1)
    | built wasm built =>
      rw [progress] at ensured
      exact Or.inl (table _ _ ensured.1)
    | stored wasm =>
      rw [progress] at ensured
      exact Or.inr ⟨holder, rfl, table _ _ ensured.2⟩

/-- No identifier comes twice in the configuration's table. -/
def Distinct (config : AppConfig) : Prop := (config.routes.map Route.id).Nodup

/-- No identifier comes twice in a configuration that was loaded. -/
theorem distinct_of_loadConfig (externals : Config.Externals) (path : String)
    (content : Except String String) (config : AppConfig)
    (loaded : Config.loadConfig externals path content = .ok config) : Distinct config := by
  obtain ⟨_, _, _, _, _, _, validated⟩ := Config.loadConfig_ok loaded
  exact validated.acceptedRoutes.2

section

variable (faultText : Toml.Fault → String) (externals : Config.Externals)
  (wasm : Policy.Wasmtime Component) (file : Except String String) (configPath : Option String)
  (config : AppConfig) (built : GatewayState Component) (events : List (Event Component))
  (final : State Component)

/-- No identifier comes twice in the table of the state that a call loads.

The state in a run is built from the configuration of the start or of an accepted reload, which
was loaded. -/
theorem distinct_run (distinct : Distinct config)
    (builds : GatewayState.new wasm config = .ok built)
    (completed : Runs.run (step faultText)
      (started externals wasm file configPath config built) events = some final) :
    (final.reloads.gatewayState.router.map Route.id).Nodup := by
  have consistent := run_reloads faultText (Reloads.Consistent config)
    (Reloads.consistent_step faultText config) _ final events
    (Reloads.consistent_start externals wasm file configPath config built builds) completed
  have all := run_reloads faultText (Reloads.AllConfigs Distinct)
    (Reloads.allConfigs_step faultText distinct_of_loadConfig) _ final events
    ⟨distinct, by simp [started, start, Reloads.start], by simp [started, start, Reloads.start]⟩
    completed
  rcases router_of_consistent config final.reloads consistent with same | ⟨holder, held, same⟩
  · rw [same]
    exact all.current
  · rw [same]
    exact all.held holder held

end

/-! ## The answer -/

/-- Whatever the counters show by then, the call answers with statuses that are attributed
to the right upstreams. -/
def AnswersAttributed (faultText : Toml.Fault → String) (state : State Component) (id : Nat)
    (services : Services) : Prop :=
  ∀ values, ∃ final headers routes,
    Runs.run (step faultText) state
      [.reload (.serve (entries state.reloads.gatewayState.router values)),
        .answer id services] = some final ∧
    final.calls id = some ⟨.apiRoutes, headers, .answered ⟨200, .routes routes⟩⟩ ∧
    ∀ route ∈ routes, ∀ status ∈ route.upstreams,
      Attributed services.nowMs final.reloads.gatewayState status

section

variable (faultText : Toml.Fault → String) (state : State Component) (id : Nat)
  (services : Services) (headers : HeaderMap) (shown : AppConfig)

/-- A call that has read its configuration can be answered after any values were counted. -/
theorem run_answer (waits : state.calls id = some ⟨.apiRoutes, headers, .read shown⟩)
    (values : String → Nat → UpstreamRuntime) :
    ∃ final, Runs.run (step faultText) state
        [.reload (.serve (entries state.reloads.gatewayState.router values)),
          .answer id services] = some final ∧
      final.calls id = some ⟨.apiRoutes, headers, .answered
        (apiRoutes services shown (showing state.reloads.gatewayState values))⟩ ∧
      final.reloads.gatewayState = showing state.reloads.gatewayState values := by
  simp only [Runs.run, step, Reloads.step, Option.map_some, waits]
  refine ⟨_, rfl, ?_, rfl⟩
  rw [calls_put_self]
  rfl

/-- What the call answers is right whatever the counters show if and only if the tables it
joins are aligned. -/
theorem answersAttributed_iff (waits : state.calls id = some ⟨.apiRoutes, headers, .read shown⟩)
    (distinct : (state.reloads.gatewayState.router.map Route.id).Nodup) :
    AnswersAttributed faultText state id services ↔
      Aligned shown state.reloads.gatewayState.router := by
  constructor
  · intro answers route member index upstream found
    refine (attributed_iff_belongs _ distinct services.nowMs route.id index upstream).mp ?_
    intro values
    obtain ⟨final, _, routes, completed, answered, attributed⟩ := answers values
    obtain ⟨same, completedToo, given, loaded⟩ :=
      run_answer faultText state id services headers shown waits values
    obtain rfl : final = same := Option.some.inj (completed.symm.trans completedToo)
    rw [given] at answered
    obtain ⟨_, rfl⟩ : _ ∧ shown.routes.map (routeStatus services.nowMs
        (showing state.reloads.gatewayState values)) = routes := by
      simpa [apiRoutes] using answered
    rw [loaded] at attributed
    exact attributed _ (List.mem_map_of_mem member) _
      ((mem_upstreams_routeStatus _ _ _ _).mpr ⟨index, upstream, found, rfl⟩)
  · intro aligned values
    obtain ⟨final, completed, given, loaded⟩ :=
      run_answer faultText state id services headers shown waits values
    refine ⟨final, headers, _, completed, given, ?_⟩
    intro status listed
    obtain ⟨route, member, rfl⟩ := List.mem_map.mp listed
    intro status shownThere
    obtain ⟨index, upstream, found, rfl⟩ := (mem_upstreams_routeStatus _ _ _ _).mp shownThere
    rw [loaded]
    exact (attributed_iff_belongs _ distinct services.nowMs route.id index upstream).mpr
      (aligned route member index upstream found) values

end

/-- In every run from a validated configuration, and wherever its reloads fall, a call that has
cloned a configuration answers with statuses that are attributed to the right upstreams,
whatever the counters show, if and only if the table of the state it then loads has every
upstream of that configuration at the same place. -/
theorem route_view_attributed_iff (faultText : Toml.Fault → String)
    (externals loading : Config.Externals) (wasm : Policy.Wasmtime Component)
    (file : Except String String) (configPath : Option String) (raw : Config.RawConfig)
    (config : AppConfig) (built : GatewayState Component)
    (accepted : raw.validate loading = .ok config)
    (builds : GatewayState.new wasm config = .ok built) (events : List (Event Component))
    (state : State Component)
    (completed : Runs.run (step faultText)
      (started externals wasm file configPath config built) events = some state)
    (id : Nat) (headers : HeaderMap) (shown : AppConfig)
    (waits : state.calls id = some ⟨.apiRoutes, headers, .read shown⟩) (services : Services) :
    AnswersAttributed faultText state id services ↔
      Aligned shown state.reloads.gatewayState.router := by
  apply answersAttributed_iff faultText state id services headers shown waits
  exact distinct_run faultText externals wasm file configPath config built events state
    (Config.validate_ok accepted).acceptedRoutes.2 builds completed

/-! A gateway with one route and two upstreams, and a file that lists them the other way
round. -/

def pairDocument (first second : String) : List (String × Toml.Value) :=
  [("server", .table [("listen", .string "127.0.0.1:8080")]),
   ("routes", .array [.table
      [("id", .string "api"), ("hosts", .array [.string "*"]), ("path_prefix", .string "/"),
       ("upstreams", .array [.string first, .string second])]])]

/-- A file is read as the two upstreams in an order that its text names. -/
def pairExternals : Config.Externals where
  envVar _ := some "token"
  isFile _ := .ok true
  parseToml text :=
    .ok (if text == "turned" then pairDocument "http://10.0.0.8" "http://10.0.0.7"
      else pairDocument "http://10.0.0.7" "http://10.0.0.8")
  parseUrl _ := .ok ⟨"http", some (.ipv4 0x0A000007), none, "/", none, none⟩
  parseUri value := .ok (some "http", some (String.ofList (value.toList.drop 7)))

def pairRaw : Config.RawConfig :=
  { server := ⟨"demo", "127.0.0.1:8080", none, .default⟩
    admin := .default, upstreamTls := .default, storage := .default, redaction := .default
    logging := .default, observability := .default
    routes := [⟨"api", ["*"], "/", ["http://10.0.0.7", "http://10.0.0.8"], 3000, 0, 100, 3, 10000,
      "off", 500, false, 0⟩]
    plugins := [] }

def straight : List Upstream := [⟨"http", "10.0.0.7"⟩, ⟨"http", "10.0.0.8"⟩]

def pairRoute (upstreams : List Upstream) : Route :=
  { Reloads.sampleRoute with upstreams := upstreams }

def pairConfig (upstreams : List Upstream) : AppConfig :=
  { bareConfig with
    admin := ⟨some "TRACEGATE_ADMIN_TOKEN", some "token", false⟩
    storage := StorageConfig.default, redaction := RedactionConfig.default
    routes := [pairRoute upstreams] }

def pairState : GatewayState Unit :=
  { router := [pairRoute straight], storageConfig := StorageConfig.default
    redaction := RedactionConfig.default, policy := .empty
    routeRuntime := Map.insert (fun _ => none) "api" (RouteRuntime.new (pairRoute straight)) }

def pairStart : State Unit :=
  started pairExternals Policy.permissiveWasm (.ok "turned") (some "tracegate.toml")
    (pairConfig straight) pairState

/-- A call clones the configuration. -/
def cloneEvents : List (Event Unit) :=
  [.arrive 0 .apiRoutes Reloads.bearerToken, .check 0, .read 0]

/-- With no reload in between, the call finds the table it has cloned. -/
theorem route_view_attributed_unreloaded : ∃ state,
    Runs.run (step fun _ => "fault") pairStart cloneEvents = some state ∧
      ∀ services, AnswersAttributed (fun _ => "fault") state 0 services := by
  refine ⟨_, rfl, fun services => ?_⟩
  refine (route_view_attributed_iff (fun _ => "fault") pairExternals pairExternals
    Policy.permissiveWasm (.ok "turned") (some "tracegate.toml") pairRaw (pairConfig straight)
    pairState rfl rfl cloneEvents _ rfl 0 Reloads.bearerToken (pairConfig straight) rfl
    services).mpr ?_
  exact aligned_self (pairConfig straight)

/-- A reload is accepted once the configuration is cloned. -/
def turnedEvents : List (Event Unit) :=
  cloneEvents ++ (Reloads.reloadSteps 1 8).map .reload

/-- Three failures of the upstream that is first in the turned table. -/
def turnedValues (_ : String) (index : Nat) : UpstreamRuntime := ⟨if index = 0 then 3 else 0, 0⟩

/-- The failures of one upstream are shown as those of the other: a reload has turned the two
around between the two reads. -/
theorem turned_upstreams_misattributed : ∃ state,
    Runs.run (step fun _ => "fault") pairStart turnedEvents = some state ∧
      state.calls 0 = some ⟨.apiRoutes, Reloads.bearerToken, .read (pairConfig straight)⟩ ∧
      Belongs state.reloads.gatewayState.router "api" 0 "http://10.0.0.8" ∧
      ((pairConfig straight).routes.map fun route =>
        (routeStatus 1 (showing state.reloads.gatewayState turnedValues) route).upstreams) =
        [[⟨0, "http://10.0.0.7", 3, false, none⟩, ⟨1, "http://10.0.0.8", 0, false, none⟩]] ∧
      ∀ services, ¬ AnswersAttributed (fun _ => "fault") state 0 services := by
  refine ⟨_, rfl, rfl, ⟨_, List.mem_cons_self, rfl, rfl⟩, rfl, fun services answers => ?_⟩
  have aligned := (answersAttributed_iff (fun _ => "fault") _ 0 services Reloads.bearerToken
    (pairConfig straight) rfl (by decide)).mp answers
  obtain ⟨route, member, _, named⟩ := aligned (pairRoute straight) List.mem_cons_self 0 _ rfl
  obtain rfl := List.mem_singleton.mp member
  exact absurd named (by decide)

end TraceGate.Admin
