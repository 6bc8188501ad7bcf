import TraceGate.Health
import TraceGate.PolicyChain
import TraceGate.Routing
import TraceGate.Upstreams

/-!
# Calls on a route's runtime, one after another

`TraceGate.Upstreams` and `TraceGate.Health` take the accesses of `select_upstream` and
`record_upstream_result` one at a time, so that several calls interleave. Here each call
runs to its end before the next one starts, and what it returns is a function of the
runtime it finds. Two theorems tie the layers together: a call is a run of its accesses
with no other access between them.

Indexing and the remainder are checked by the language; a failed check ends the task and
is the error of the call.
-/

namespace TraceGate

open Runs

/-- The checked operations that can end a task. -/
inductive Panic where
  | indexOutOfBounds
  | remainderByZero
deriving DecidableEq

/-- `value % size`. -/
def checkedRem (value size : Nat) : Except Panic Nat :=
  if size = 0 then .error .remainderByZero else .ok (value % size)

/-- `items[index]`. -/
def indexed {Item : Type} (items : List Item) (index : Nat) : Except Panic Item :=
  match items[index]? with
  | none => .error .indexOutOfBounds
  | some item => .ok item

namespace RouteRuntime

/-- `fetch_add` on the counter, which has the width of a machine word. -/
def advanced (runtime : RouteRuntime) : RouteRuntime :=
  { runtime with nextUpstream := (runtime.nextUpstream + 1) % 2 ^ 64 }

/-- The loop of `select_upstream` with the probes it may still make. -/
def probe (route : Route) (now : Int) :
    Nat → RouteRuntime → Except Panic (Option (Nat × Upstream) × RouteRuntime)
  | 0, runtime => .ok (none, runtime)
  | remaining + 1, runtime => do
      let index ← checkedRem runtime.nextUpstream route.upstreams.length
      let health ← indexed runtime.upstreams index
      if health.unhealthyUntilMs ≤ now then
        let upstream ← indexed route.upstreams index
        return (some (index, upstream), runtime.advanced)
      else probe route now remaining runtime.advanced

/-- `select_upstream` when the clock shows `now`. -/
def selectUpstream (runtime : RouteRuntime) (route : Route) (now : Int) :
    Except Panic (Option (Nat × Upstream) × RouteRuntime) :=
  if route.upstreams.length = 0 then .ok (none, runtime)
  else probe route now route.upstreams.length runtime

end RouteRuntime

/-- The counters of an upstream after a result. The number of failures has thirty-two
bits. -/
def UpstreamRuntime.recorded (runtime : RouteRuntime) (health : UpstreamRuntime) (failed : Bool)
    (nowMs : Int) : UpstreamRuntime :=
  if failed then
    let failures := (health.failures + 1) % 2 ^ 32
    if runtime.failureThreshold ≤ failures then
      ⟨0, saturateI64 (nowMs + runtime.cooldownMs)⟩
    else { health with failures := failures }
  else ⟨0, 0⟩

/-- `record_upstream_result` when the clock shows `nowMs`. -/
def RouteRuntime.recordUpstreamResult (runtime : RouteRuntime) (index : Nat) (failed : Bool)
    (nowMs : Int) : RouteRuntime :=
  match runtime.upstreams[index]? with
  | none => runtime
  | some health =>
      { runtime with
        upstreams := runtime.upstreams.set index (health.recorded runtime failed nowMs) }

/-- The runtime has one entry for each upstream of the route. -/
def RouteRuntime.Serves (runtime : RouteRuntime) (route : Route) : Prop :=
  runtime.upstreams.length = route.upstreams.length

instance (runtime : RouteRuntime) (route : Route) : Decidable (runtime.Serves route) :=
  inferInstanceAs (Decidable (_ = _))

/-- The loop passes over the upstream when it points at it. -/
def RouteRuntime.skips (runtime : RouteRuntime) (now : Int) (index : Nat) : Bool :=
  !Selection.healthy runtime.upstreams now index

/-! ## What one call does -/

section Calls

variable {route : Route} {runtime : RouteRuntime}

/-- A fresh runtime has an entry for every upstream of its route. -/
theorem serves_new (route : Route) : (RouteRuntime.new route).Serves route := by
  simp [RouteRuntime.Serves, RouteRuntime.new]

/-- Moving the counter on takes no entry away. -/
theorem RouteRuntime.Serves.advanced (serves : runtime.Serves route) :
    runtime.advanced.Serves route := serves

/-- The place the counter points at has an entry and an upstream. -/
theorem exists_pointed (serves : runtime.Serves route) (nonempty : 0 < route.upstreams.length) :
    ∃ health upstream,
      runtime.upstreams[runtime.nextUpstream % route.upstreams.length]? = some health ∧
      route.upstreams[runtime.nextUpstream % route.upstreams.length]? = some upstream := by
  have inRoute := Nat.mod_lt runtime.nextUpstream nonempty
  have inRuntime := lt_of_lt_of_eq inRoute serves.symm
  exact ⟨_, _, List.getElem?_eq_getElem inRuntime, List.getElem?_eq_getElem inRoute⟩

/-- One probe: either the upstream pointed at is skipped and the loop goes on, or it is
returned. Neither check of the language fails. -/
theorem probe_succ (serves : runtime.Serves route) (nonempty : 0 < route.upstreams.length)
    (now : Int) (remaining : Nat) :
    ∃ upstream,
      route.upstreams[runtime.nextUpstream % route.upstreams.length]? = some upstream ∧
      RouteRuntime.probe route now (remaining + 1) runtime =
        if runtime.skips now (runtime.nextUpstream % route.upstreams.length) then
          RouteRuntime.probe route now remaining runtime.advanced
        else
          .ok (some (runtime.nextUpstream % route.upstreams.length, upstream),
            runtime.advanced) := by
  obtain ⟨health, upstream, healthFound, upstreamFound⟩ := exists_pointed serves nonempty
  refine ⟨upstream, upstreamFound, ?_⟩
  have positive : route.upstreams.length ≠ 0 := by omega
  by_cases expired : health.unhealthyUntilMs ≤ now
  · simp [RouteRuntime.probe, RouteRuntime.skips, Selection.healthy, checkedRem, indexed,
      positive, healthFound, upstreamFound, expired, bind, Except.bind, pure, Except.pure]
  · simp [RouteRuntime.probe, RouteRuntime.skips, Selection.healthy, checkedRem, indexed,
      positive, healthFound, expired, bind, Except.bind]

/-- Whatever the counter shows, the loop returns, and what it returns is an upstream of the
route at its own index. -/
theorem probe_returns (serves : runtime.Serves route) (nonempty : 0 < route.upstreams.length)
    (now : Int) (remaining : Nat) :
    ∃ result counter, RouteRuntime.probe route now remaining runtime =
        .ok (result, { runtime with nextUpstream := counter }) ∧
      ∀ index upstream, result = some (index, upstream) →
        runtime.skips now index = false ∧ route.upstreams[index]? = some upstream := by
  induction remaining generalizing runtime with
  | zero => exact ⟨none, runtime.nextUpstream, rfl, by simp⟩
  | succ remaining inductionHypothesis =>
    obtain ⟨upstream, upstreamFound, probes⟩ := probe_succ serves nonempty now remaining
    rw [probes]
    cases skips : runtime.skips now (runtime.nextUpstream % route.upstreams.length) with
    | true =>
      obtain ⟨result, counter, probed, chosen⟩ := inductionHypothesis serves.advanced
      exact ⟨result, counter, probed, chosen⟩
    | false =>
      refine ⟨_, _, rfl, ?_⟩
      intro index other same
      obtain ⟨rfl, rfl⟩ := Prod.mk.inj (Option.some.inj same)
      exact ⟨skips, upstreamFound⟩

/-- A selection returns, changes the counter alone, and what it finds is an upstream of the
route that is not skipped. -/
theorem selectUpstream_returns (serves : runtime.Serves route) (now : Int) :
    ∃ result counter, runtime.selectUpstream route now =
        .ok (result, { runtime with nextUpstream := counter }) ∧
      ∀ index upstream, result = some (index, upstream) →
        runtime.skips now index = false ∧ route.upstreams[index]? = some upstream := by
  by_cases empty : route.upstreams.length = 0
  · exact ⟨none, runtime.nextUpstream, by rw [RouteRuntime.selectUpstream, if_pos empty], by simp⟩
  · rw [RouteRuntime.selectUpstream, if_neg empty]
    exact probe_returns serves (Nat.pos_of_ne_zero empty) now route.upstreams.length

/-- A result modifies one entry, if it is there. -/
theorem recordUpstreamResult_eq (index : Nat) (failed : Bool) (nowMs : Int) :
    runtime.recordUpstreamResult index failed nowMs =
      { runtime with
        upstreams := runtime.upstreams.modify index fun health =>
          health.recorded runtime failed nowMs } := by
  rw [List.modify_eq_set_getElem?, RouteRuntime.recordUpstreamResult]
  cases runtime.upstreams[index]? with
  | none => rfl
  | some health => rfl

/-- A result neither adds nor removes an entry. -/
theorem recordUpstreamResult_length (index : Nat) (failed : Bool) (nowMs : Int) :
    (runtime.recordUpstreamResult index failed nowMs).upstreams.length =
      runtime.upstreams.length := by
  rw [recordUpstreamResult_eq, List.length_modify]

/-- A result leaves the threshold and the cooldown alone. -/
theorem recordUpstreamResult_limits (index : Nat) (failed : Bool) (nowMs : Int) :
    (runtime.recordUpstreamResult index failed nowMs).failureThreshold =
        runtime.failureThreshold ∧
      (runtime.recordUpstreamResult index failed nowMs).cooldownMs = runtime.cooldownMs := by
  rw [recordUpstreamResult_eq]
  exact ⟨rfl, rfl⟩

/-- A result changes the entry of its upstream and no other. -/
theorem getElem?_recordUpstreamResult (index other : Nat) (failed : Bool) (nowMs : Int) :
    (runtime.recordUpstreamResult index failed nowMs).upstreams[other]? =
      if index = other then
        runtime.upstreams[other]?.map fun health => health.recorded runtime failed nowMs
      else runtime.upstreams[other]? := by
  rw [recordUpstreamResult_eq, List.getElem?_modify]
  split
  · rfl
  · exact Option.map_id'

/-- A recording is the run of its accesses: the first one, then those it asks for. -/
theorem recorded_eq_accesses (health : UpstreamRuntime) (failed : Bool) (nowMs : Int) :
    health.recorded runtime failed nowMs =
      ((Health.recordUpstreamResult failed).1.followedBy runtime health
        (Health.recordUpstreamResult failed).2).foldl (Health.Access.apply runtime nowMs)
        ((Health.recordUpstreamResult failed).1.apply runtime nowMs health) := by
  cases failed with
  | false => rfl
  | true =>
    by_cases reached : runtime.failureThreshold ≤ (health.failures + 1) % 2 ^ 32
    · simp only [UpstreamRuntime.recorded, Health.recordUpstreamResult, ↓reduceIte,
        Health.Access.followedBy, if_pos reached, List.foldl, Health.Access.apply]
    · simp only [UpstreamRuntime.recorded, Health.recordUpstreamResult, ↓reduceIte,
        Health.Access.followedBy, if_neg reached, List.foldl, Health.Access.apply]

end Calls

/-! ## A call is a run of its accesses -/

section Accesses

variable {route : Route} {now : Int}

/-- The accesses of one call. -/
def Selection.Event.IsOf (call : Nat) : Selection.Event → Prop
  | .fetch other => other = call
  | .load other => other = call
  | _ => False

/-- One probe as two accesses: the loop goes on when the upstream is skipped and a probe is
left, and has returned otherwise. -/
theorem fetch_load (state : Selection.State) (call remaining : Nat)
    (serves : state.runtime.Serves route) (nonempty : 0 < route.upstreams.length)
    (probing : (state.calls call).phase = .probing now (remaining + 1)) :
    ∃ next loaded, run (Selection.step route) state [.fetch call, .load call] = some next ∧
      next.runtime = state.runtime.advanced ∧
      (next.calls call).phase =
        if state.runtime.skips now (state.runtime.nextUpstream % route.upstreams.length) then
          if remaining = 0 then .returned now none else .probing now remaining
        else
          .returned now
            (some (state.runtime.nextUpstream % route.upstreams.length, loaded)) := by
  obtain ⟨health, upstream, healthFound, _⟩ := exists_pointed serves nonempty
  simp only [run, Selection.step, probing, Function.update_self, healthFound]
  refine ⟨_, health.unhealthyUntilMs, rfl, rfl, ?_⟩
  by_cases expired : health.unhealthyUntilMs ≤ now
  · simp [RouteRuntime.skips, Selection.healthy, healthFound, expired]
  · simp [RouteRuntime.skips, Selection.healthy, healthFound, expired]

/-- The loop, taken access by access with no other access between, leaves the same runtime
and returns the same index. -/
theorem probe_is_run (state : Selection.State) (call remaining : Nat)
    (serves : state.runtime.Serves route) (nonempty : 0 < route.upstreams.length)
    (probing : (state.calls call).phase = .probing now (remaining + 1))
    (result : Option (Nat × Upstream)) (after : RouteRuntime)
    (probed : RouteRuntime.probe route now (remaining + 1) state.runtime = .ok (result, after)) :
    ∃ events final loaded, (∀ event ∈ events, Selection.Event.IsOf call event) ∧
      run (Selection.step route) state events = some final ∧ final.runtime = after ∧
      (final.calls call).phase = .returned now loaded ∧
      loaded.map Prod.fst = result.map Prod.fst := by
  have own : ∀ event ∈ [.fetch call, .load call], Selection.Event.IsOf call event := by
    simp [Selection.Event.IsOf]
  induction remaining generalizing state with
  | zero =>
    obtain ⟨next, value, taken, advances, phase⟩ := fetch_load state call 0 serves nonempty probing
    obtain ⟨upstream, _, probes⟩ := probe_succ serves nonempty now 0
    rw [probes] at probed
    refine ⟨[.fetch call, .load call], next, ?_⟩
    cases skips : state.runtime.skips now (state.runtime.nextUpstream % route.upstreams.length) with
    | true =>
      rw [if_pos skips] at probed phase
      obtain ⟨rfl, rfl⟩ := Prod.mk.inj (Except.ok.inj probed)
      exact ⟨none, own, taken, advances, phase, rfl⟩
    | false =>
      rw [skips] at probed phase
      obtain ⟨rfl, rfl⟩ := Prod.mk.inj (Except.ok.inj probed)
      exact ⟨_, own, taken, advances, phase, rfl⟩
  | succ remaining inductionHypothesis =>
    obtain ⟨next, value, taken, advances, phase⟩ :=
      fetch_load state call (remaining + 1) serves nonempty probing
    obtain ⟨upstream, _, probes⟩ := probe_succ serves nonempty now (remaining + 1)
    rw [probes] at probed
    cases skips : state.runtime.skips now (state.runtime.nextUpstream % route.upstreams.length) with
    | true =>
      rw [if_pos skips] at probed phase
      rw [← advances] at probed
      obtain ⟨events, final, loaded, ofCall, completed, rest⟩ :=
        inductionHypothesis next (advances ▸ serves.advanced) phase probed
      refine ⟨[.fetch call, .load call] ++ events, final, loaded, ?_, ?_, rest⟩
      · intro event member
        rcases List.mem_append.mp member with first | later
        · exact own event first
        · exact ofCall event later
      · rw [run_append, taken]
        exact completed
    | false =>
      rw [skips] at probed phase
      obtain ⟨rfl, rfl⟩ := Prod.mk.inj (Except.ok.inj probed)
      exact ⟨[.fetch call, .load call], next, _, own, taken, advances, phase, rfl⟩

end Accesses

/-! ## Windows of calls -/

inductive RouteCall where
  | select (now : Int)
  | record (index : Nat) (failed : Bool) (nowMs : Int)

/-- A route's runtime and what the selections have returned, in order. -/
structure Window where
  runtime : RouteRuntime
  selected : List (Option (Nat × Upstream))

/-- One call. A call that panics has no successor. -/
def Window.step (route : Route) (window : Window) : RouteCall → Option Window
  | .select now =>
      match window.runtime.selectUpstream route now with
      | .error _ => none
      | .ok (result, runtime) => some ⟨runtime, window.selected ++ [result]⟩
  | .record index failed nowMs =>
      some { window with runtime := window.runtime.recordUpstreamResult index failed nowMs }

def RouteCall.isSelect : RouteCall → Bool
  | .select _ => true
  | .record _ _ _ => false

/-! ## The runtime of a matched route -/

section Matched

variable {Component : Type} {route : Route}

/-- The state that a table with distinct identifiers builds has, for every route, the
runtime built from that route. -/
theorem runtimeFor_eq_new (wasm : Policy.Wasmtime Component) (config : AppConfig)
    (state : GatewayState Component) (built : GatewayState.new wasm config = .ok state)
    (distinct : (config.routes.map Route.id).Nodup) (listed : route ∈ config.routes) :
    state.runtimeFor route = some (RouteRuntime.new route) := by
  obtain ⟨_, present⟩ := GatewayState.new_eq_ok wasm config state built
  obtain ⟨runtime, found⟩ := Option.isSome_iff_exists.mp (present route listed)
  obtain ⟨owner, member, sameId, rfl⟩ :=
    GatewayState.route_of_runtime wasm config state built route.id runtime found
  rw [found, List.inj_on_of_nodup_map distinct member listed sameId]

/-- The checks of one probe pass for every value of the counter: the divisor is not zero, and
the remainder is within both lists. -/
theorem checks_pass {runtime : RouteRuntime} (serves : runtime.Serves route)
    (nonempty : 0 < route.upstreams.length) (counter : Nat) :
    ∃ index health upstream, checkedRem counter route.upstreams.length = .ok index ∧
      indexed runtime.upstreams index = .ok health ∧
      indexed route.upstreams index = .ok upstream := by
  have moved : ({ runtime with nextUpstream := counter } : RouteRuntime).Serves route := serves
  obtain ⟨health, upstream, healthFound, upstreamFound⟩ := exists_pointed moved nonempty
  refine ⟨counter % route.upstreams.length, health, upstream, ?_, ?_, ?_⟩
  · rw [checkedRem, if_neg (by omega)]
  · simp only [indexed, healthFound]
  · simp only [indexed, upstreamFound]

/-- A window whose runtime has an entry for each upstream, and in which only upstreams of
the route at their own index were selected. -/
structure Window.Sound (route : Route) (window : Window) : Prop where
  serves : window.runtime.Serves route
  own : ∀ index upstream, some (index, upstream) ∈ window.selected →
    route.upstreams[index]? = some upstream

/-- No call panics, whatever it finds in the counters. -/
theorem Window.Sound.step {window : Window} (sound : window.Sound route) (call : RouteCall) :
    ∃ next, Window.step route window call = some next ∧ next.Sound route := by
  cases call with
  | select now =>
    obtain ⟨result, counter, selects, chosen⟩ := selectUpstream_returns sound.serves now
    refine ⟨⟨{ window.runtime with nextUpstream := counter }, window.selected ++ [result]⟩,
      by simp only [Window.step, selects], sound.serves, ?_⟩
    intro index upstream listed
    rcases List.mem_append.mp listed with earlier | last
    · exact sound.own index upstream earlier
    · exact (chosen index upstream (List.mem_singleton.mp last).symm).2
  | record index failed nowMs =>
    exact ⟨_, rfl, (recordUpstreamResult_length index failed nowMs).trans sound.serves, sound.own⟩

/-- Any number of calls returns. -/
theorem Window.Sound.run {window : Window} (sound : window.Sound route)
    (calls : List RouteCall) :
    ∃ final, Runs.run (Window.step route) window calls = some final ∧ final.Sound route :=
  guarded_completes (Window.step route) (fun _ _ => True) (Window.Sound route)
    (fun _ call kept _ => kept.step call) window calls sound (guarded_true _ _ calls)

/-- An upstream of the route has its entry, and a result for it changes that entry only. -/
theorem recorded_of_upstream {runtime : RouteRuntime} (serves : runtime.Serves route)
    {index : Nat} {upstream : Upstream} (found : route.upstreams[index]? = some upstream)
    (failed : Bool) (nowMs : Int) :
    ∃ health, runtime.upstreams[index]? = some health ∧
      ∀ other, (runtime.recordUpstreamResult index failed nowMs).upstreams[other]? =
        if index = other then some (health.recorded runtime failed nowMs)
        else runtime.upstreams[other]? := by
  have inRange := (List.getElem?_eq_some_iff.mp found).1
  have healthFound := List.getElem?_eq_getElem (lt_of_lt_of_eq inRange serves.symm)
  refine ⟨_, healthFound, fun other => ?_⟩
  rw [getElem?_recordUpstreamResult]
  by_cases own : index = other
  · subst own
    rw [if_pos rfl, if_pos rfl, healthFound, Option.map_some]
  · rw [if_neg own, if_neg own]

/-- For a validated configuration, a matched route has the runtime built from it. That
runtime has an entry for each of the route's upstreams, of which there is one at least. So
the handler never answers that the runtime is unavailable; and in every runtime with these
entries, whatever its counters show, the checks of `select_upstream` pass, any sequence of
calls runs to its end, the upstream returned is the route's at the returned index, and a
result for that index changes the entry of that upstream and no other. -/
theorem matched_route_runtime (externals : Config.Externals) (raw : Config.RawConfig)
    (config : AppConfig) (accepted : raw.validate externals = .ok config)
    (wasm : Policy.Wasmtime Component) (state : GatewayState Component)
    (built : GatewayState.new wasm config = .ok state) :
    (∀ hostHeader path route, matchRoute state.router hostHeader path = some route →
      state.runtimeFor route = some (RouteRuntime.new route) ∧
      (RouteRuntime.new route).upstreams.length = route.upstreams.length ∧
      0 < route.upstreams.length ∧
      ∀ runtime : RouteRuntime,
        runtime.upstreams.length = (RouteRuntime.new route).upstreams.length →
        (∀ counter, ∃ index health upstream,
          checkedRem counter route.upstreams.length = .ok index ∧
            indexed runtime.upstreams index = .ok health ∧
            indexed route.upstreams index = .ok upstream) ∧
        (∀ calls, ∃ final, run (Window.step route) ⟨runtime, []⟩ calls = some final ∧
          ∀ index upstream, some (index, upstream) ∈ final.selected →
            route.upstreams[index]? = some upstream) ∧
        ∀ now, ∃ result counter,
          runtime.selectUpstream route now =
            .ok (result, { runtime with nextUpstream := counter }) ∧
          ∀ index upstream, result = some (index, upstream) →
            route.upstreams[index]? = some upstream ∧
            ∀ failed nowMs, ∃ health, runtime.upstreams[index]? = some health ∧
              ∀ other, (runtime.recordUpstreamResult index failed nowMs).upstreams[other]? =
                if index = other then some (health.recorded runtime failed nowMs)
                else runtime.upstreams[other]?) ∧
    ∀ handling request remoteAddr around response,
      prepare handling state request remoteAddr around ≠ .unavailable response := by
  obtain ⟨each, distinct⟩ := (Config.validate_ok accepted).acceptedRoutes
  obtain ⟨table, _⟩ := GatewayState.new_eq_ok wasm config state built
  constructor
  · intro hostHeader path route matched
    have listed : route ∈ config.routes :=
      table ▸ matchRoute_mem _ hostHeader path route matched
    have nonempty := (each route listed).upstreams
    refine ⟨runtimeFor_eq_new wasm config state built distinct listed, serves_new route, nonempty,
      ?_⟩
    intro runtime sized
    have serves : runtime.Serves route := sized.trans (serves_new route)
    refine ⟨checks_pass serves nonempty, ?_, ?_⟩
    · intro calls
      have sound : (Window.mk runtime []).Sound route := ⟨serves, by simp⟩
      obtain ⟨final, completed, kept⟩ := sound.run calls
      exact ⟨final, completed, kept.own⟩
    · intro now
      obtain ⟨result, counter, selects, chosen⟩ := selectUpstream_returns serves now
      refine ⟨result, counter, selects, ?_⟩
      intro index upstream same
      have found := (chosen index upstream same).2
      exact ⟨found, recorded_of_upstream serves found⟩
  · intro handling request remoteAddr around
    exact prepare_ne_unavailable wasm config handling state request remoteAddr around built

def tableState : GatewayState Unit :=
  { router := tableConfig.routes, storageConfig := StorageConfig.default
    redaction := RedactionConfig.default, policy := .empty
    routeRuntime := Map.insert (Map.insert (fun _ => none) "site"
      (RouteRuntime.new (tableRoute "site" "/"))) "orders"
      (RouteRuntime.new (tableRoute "orders" "/orders")) }

/-- With the largest value in the counter, the second route still finds its upstream. -/
theorem matched_route_runtime_of_table :
    tableRaw.validate tableExternals = .ok tableConfig ∧
      tableState.runtimeFor (tableRoute "orders" "/orders") =
        some (RouteRuntime.new (tableRoute "orders" "/orders")) ∧
      ∃ index health upstream, checkedRem (2 ^ 64 - 1) 1 = .ok index ∧
        indexed (RouteRuntime.new (tableRoute "orders" "/orders")).upstreams index = .ok health ∧
        indexed (tableRoute "orders" "/orders").upstreams index = .ok upstream := by
  obtain ⟨found, _, _, safe⟩ := (matched_route_runtime tableExternals tableRaw tableConfig
    tableRaw_accepted Policy.permissiveWasm tableState rfl).1 none "/orders/7"
    (tableRoute "orders" "/orders") rfl
  exact ⟨tableRaw_accepted, found, (safe _ rfl).1 (2 ^ 64 - 1)⟩

end Matched

end TraceGate
