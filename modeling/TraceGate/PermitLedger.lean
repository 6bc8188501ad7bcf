import Mathlib.Algebra.BigOperators.Fin
import Mathlib.Algebra.Order.BigOperators.Group.Finset
import TraceGate.Admission
import TraceGate.Simulation

/-!
# The ledger of permits

A permit belongs to the generation of the gateway that issued it. Whatever requests,
completions and reloads interleave, each generation keeps its own account for each of its
routes: the free permits and those held by requests in flight are as many as the limit of
the route in the configuration the generation was built from. No permit leaks and none is
made up. So the requests of a route in flight are at most the sum of its limits in the
configurations so far, and once all requests are done every permit is free again.
-/

namespace TraceGate.Admission

variable {Component : Type}

/-- The limit a configuration gives a route: that of the last one under its identifier. -/
def limitIn (routeId : String) (config : AppConfig) : Option Nat :=
  (config.routes.reverse.find? fun route => decide (route.id = routeId)).map
    Route.concurrencyLimit

/-- The configuration that an event's reload makes the active one. -/
def accepted (wasm : Policy.Wasmtime Component) (state : State Component) :
    Event → List AppConfig
  | .reload next =>
      match reloadGateway wasm state.config next with
      | .error _ => []
      | .ok _ => [next]
  | .arrive => []
  | .acquire _ _ _ => []
  | .drop _ => []

/-- A fresh generation has all permits of its configuration free. -/
theorem limitIn_of_new (wasm : Policy.Wasmtime Component) (config : AppConfig)
    (built : GatewayState Component) (new : GatewayState.new wasm config = .ok built)
    (routeId : String) (runtime : RouteRuntime)
    (present : built.routeRuntime routeId = some runtime) :
    limitIn routeId config = some runtime.semaphore := by
  rw [GatewayState.routeRuntime_of_new wasm config built new] at present
  obtain ⟨route, found, rfl⟩ := Option.map_eq_some_iff.mp present
  rw [limitIn, found]
  rfl

/-- Every generation accounts for its permits, and every request in flight holds one of a
generation and a route that exist. -/
structure Ledger (configs : List AppConfig) (state : State Component) : Prop where
  counted : state.generations.length = configs.length
  permits : ∀ generation loaded config routeId runtime,
    state.generations[generation]? = some loaded → configs[generation]? = some config →
    loaded.routeRuntime routeId = some runtime →
    limitIn routeId config =
      some (runtime.semaphore + flightsOf routeId generation state.inFlight)
  issued : ∀ flight ∈ state.inFlight, ∃ loaded runtime,
    state.generations[flight.generation]? = some loaded ∧
      loaded.routeRuntime flight.routeId = some runtime

namespace Ledger

variable {configs : List AppConfig} {state : State Component}

/-- A new generation starts its own account; those before keep theirs.

No request in flight belongs to the new generation, so all of its permits are free. -/
theorem reload (ledger : Ledger configs state) (wasm : Policy.Wasmtime Component)
    (next : AppConfig) (built : GatewayState Component)
    (new : GatewayState.new wasm next = .ok built) :
    Ledger (configs ++ [next])
      { state with generations := state.generations ++ [built], config := next } where
  counted := by simp [ledger.counted]
  permits := by
    intro generation loaded config routeId runtime found owner present
    by_cases old : generation < state.generations.length
    · rw [List.getElem?_append_left old] at found
      rw [List.getElem?_append_left (ledger.counted ▸ old)] at owner
      exact ledger.permits generation loaded config routeId runtime found owner present
    · have newest := Nat.le_of_not_lt old
      rw [List.getElem?_append_right newest] at found
      rw [List.getElem?_append_right (ledger.counted ▸ newest)] at owner
      obtain rfl := List.mem_singleton.mp (List.mem_of_getElem? found)
      obtain rfl := List.mem_singleton.mp (List.mem_of_getElem? owner)
      have unused : flightsOf routeId generation state.inFlight = 0 := by
        refine List.count_eq_zero.mpr fun member => ?_
        obtain ⟨_, _, exists?, _⟩ := ledger.issued _ member
        exact old (List.getElem?_eq_some_iff.mp exists?).1
      rw [unused, Nat.add_zero]
      exact limitIn_of_new wasm config loaded new routeId runtime present
  issued := by
    intro flight member
    obtain ⟨loaded, runtime, found, present⟩ := ledger.issued flight member
    have old := (List.getElem?_eq_some_iff.mp found).1
    exact ⟨loaded, runtime, (List.getElem?_append_left old).trans found, present⟩

/-- Taking a permit moves it from the free ones to those held.

The generation taken from still has every runtime it had, so the accounts of its other routes
and of the other generations are as before. -/
theorem acquire (ledger : Ledger configs state) (generation : Nat)
    (loaded acquired : GatewayState Component) (admitted : String) (host : Option String)
    (path : String) (arrived : List Nat)
    (found : state.generations[generation]? = some loaded)
    (taken : tryAcquire loaded host path = some (admitted, acquired)) :
    Ledger configs
      { state with
        generations := state.generations.set generation acquired
        arrived := arrived
        inFlight := state.inFlight ++ [⟨generation, admitted⟩] } := by
  obtain ⟨runtime, present, free, rfl⟩ :=
    tryAcquire_eq_some loaded acquired host path admitted taken
  refine ⟨(List.length_set ..).trans ledger.counted, ?_, ?_⟩
  · intro other later config routeId current laterFound owner laterPresent
    obtain ⟨before, earlier, beforeFound, beforePresent, lowered⟩ :=
      semaphore_of_acquired state.generations generation loaded later admitted routeId runtime
        current found present free other laterFound laterPresent
    rw [ledger.permits other before config routeId earlier beforeFound owner beforePresent,
      flightsOf_append, lowered, Option.some.injEq]
    omega
  · have inRange := (List.getElem?_eq_some_iff.mp found).1
    have kept : ∀ routeId earlier, loaded.routeRuntime routeId = some earlier → ∃ current,
        (setPermits loaded admitted runtime (runtime.semaphore - 1)).routeRuntime routeId =
          some current := by
      intro routeId earlier before
      rw [routeRuntime_setPermits]
      split
      · exact ⟨_, rfl⟩
      · exact ⟨earlier, before⟩
    intro flight member
    rcases List.mem_append.mp member with old | new
    · obtain ⟨before, earlier, beforeFound, beforePresent⟩ := ledger.issued flight old
      by_cases same : generation = flight.generation
      · rw [← same, found, Option.some.injEq] at beforeFound
        subst beforeFound
        obtain ⟨current, currentPresent⟩ := kept flight.routeId earlier beforePresent
        exact ⟨_, current, same ▸ List.getElem?_set_self inRange, currentPresent⟩
      · exact ⟨before, earlier, (List.getElem?_set_ne same).trans beforeFound, beforePresent⟩
    · obtain rfl := List.mem_singleton.mp new
      obtain ⟨current, currentPresent⟩ := kept admitted runtime present
      exact ⟨_, current, List.getElem?_set_self inRange, currentPresent⟩

/-- Dropping a permit moves it back to the free ones of its own generation, whichever generation
is the current one. -/
theorem drop (ledger : Ledger configs state) (position : Nat) (flight : Flight)
    (found : state.inFlight[position]? = some flight) :
    Ledger configs
      { state with
        generations := state.generations.modify flight.generation
          fun loaded => release loaded flight.routeId
        inFlight := state.inFlight.eraseIdx position } := by
  refine ⟨(List.length_modify ..).trans ledger.counted, ?_, ?_⟩
  · intro generation later config routeId current laterFound owner laterPresent
    obtain ⟨before, earlier, beforeFound, beforePresent, raised⟩ :=
      semaphore_of_released state.generations flight later routeId current generation laterFound
        laterPresent
    rw [ledger.permits generation before config routeId earlier beforeFound owner beforePresent,
      flightsOf_eraseIdx routeId generation position state.inFlight flight found, raised,
      Nat.add_assoc, Nat.add_comm (flightsOf ..)]
  · intro kept member
    obtain ⟨before, earlier, beforeFound, beforePresent⟩ :=
      ledger.issued kept (List.mem_of_mem_eraseIdx member)
    rw [List.getElem?_modify, beforeFound]
    by_cases same : flight.generation = kept.generation
    · have present : ∃ current,
          (release before flight.routeId).routeRuntime kept.routeId = some current := by
        rw [routeRuntime_release, beforePresent]
        split
        · exact ⟨_, rfl⟩
        · exact ⟨earlier, rfl⟩
      obtain ⟨current, currentPresent⟩ := present
      exact ⟨_, current, by simp [same], currentPresent⟩
    · exact ⟨before, earlier, by simp [same], beforePresent⟩

/-- A step keeps the ledger, with a new account if it adds a generation.

Each event that changes something is one of `reload`, `acquire` and `drop`. -/
theorem step (ledger : Ledger configs state) (wasm : Policy.Wasmtime Component) (event : Event)
    (next : State Component) (taken : Admission.step wasm state event = some next) :
    Ledger (configs ++ accepted wasm state event) next := by
  cases step_change wasm state event next taken with
  | arrived =>
    rw [accepted, List.append_nil]
    exact ⟨ledger.counted, ledger.permits, ledger.issued⟩
  | unserved position host path =>
    rw [accepted, List.append_nil]
    exact ⟨ledger.counted, ledger.permits, ledger.issued⟩
  | admitted position host path generation loaded acquired routeId loadedBy found granted =>
    rw [accepted, List.append_nil]
    exact ledger.acquire generation loaded acquired routeId host path _ found granted
  | dropped position flight found =>
    rw [accepted, List.append_nil]
    exact ledger.drop position flight found
  | refused config reason answer =>
    simp only [accepted, answer, List.append_nil]
    exact ledger
  | reloaded config built answer =>
    simp only [accepted, answer]
    exact ledger.reload wasm config built (reloadGateway_eq_ok wasm _ config built answer)

end Ledger

/-- The first generation has no request in flight. -/
theorem ledger_start (wasm : Policy.Wasmtime Component) (config : AppConfig)
    (built : GatewayState Component) (new : GatewayState.new wasm config = .ok built) :
    Ledger [config] (start config built) where
  counted := rfl
  permits := by
    intro generation loaded owner routeId runtime found owned present
    obtain rfl := List.mem_singleton.mp (List.mem_of_getElem? found)
    obtain rfl := List.mem_singleton.mp (List.mem_of_getElem? owned)
    exact limitIn_of_new wasm owner loaded new routeId runtime present
  issued := by simp [start]

/-- Each generation has at most its own limit of the route's requests in flight, since those
held and those free add up to it. -/
theorem flightsOf_le (owners : List AppConfig) (state : State Component)
    (ledger : Ledger owners state) (routeId : String) (generation : Nat) (config : AppConfig)
    (owner : owners[generation]? = some config) :
    flightsOf routeId generation state.inFlight ≤ (limitIn routeId config).getD 0 := by
  by_cases member : (⟨generation, routeId⟩ : Flight) ∈ state.inFlight
  · obtain ⟨loaded, runtime, found, present⟩ := ledger.issued _ member
    rw [ledger.permits generation loaded config routeId runtime found owner present]
    exact Nat.le_add_left ..
  · rw [flightsOf, List.count_eq_zero.mpr member]
    exact Nat.zero_le _

/-! ## One generation at a time -/

/-- A configuration that has the limit gives the route no more than that. -/
theorem limitIn_le (routeId : String) (limit : Nat) (config : AppConfig)
    (hasLimit : HasLimit routeId limit config) : (limitIn routeId config).getD 0 ≤ limit := by
  rw [limitIn]
  cases last : config.routes.reverse.find? fun route => decide (route.id = routeId) with
  | none => exact Nat.zero_le limit
  | some route =>
    have member := List.mem_reverse.mp (List.mem_of_find?_eq_some last)
    exact (hasLimit route member (by simpa using List.find?_some last)).le

/-- The ledger of a run in which the route keeps its limit, with its requests within it. -/
structure WithinLimit (routeId : String) (limit : Nat) (configs : List AppConfig)
    (state : State Component) : Prop where
  ledger : Ledger configs state
  limits : ∀ config ∈ configs, HasLimit routeId limit config
  within : flights routeId state ≤ limit

/-- While the route keeps its limit and one generation admits its requests, a step keeps them
within the limit.

Only an admission adds a request. If it is one of the route, then all requests of the route
hold permits of one generation, and the ledger bounds those by the generation's own limit. -/
theorem WithinLimit.step {routeId : String} {limit : Nat} {configs : List AppConfig}
    {state : State Component} (held : WithinLimit routeId limit configs state)
    (wasm : Policy.Wasmtime Component) (event : Event) (next : State Component)
    (guarded : KeepsLimit routeId limit state event ∧ OneGeneration routeId state event)
    (taken : Admission.step wasm state event = some next) :
    WithinLimit routeId limit (configs ++ accepted wasm state event) next := by
  have ledger := held.ledger.step wasm event next taken
  cases step_change wasm state event next taken with
  | arrived => exact ⟨ledger, by simpa [accepted] using held.limits, held.within⟩
  | unserved position host path =>
    exact ⟨ledger, by simpa [accepted] using held.limits, held.within⟩
  | admitted position host path generation loaded acquired admitted loadedBy found granted =>
    refine ⟨ledger, by simpa [accepted] using held.limits, ?_⟩
    have only := guarded.2
    simp only [OneGeneration, loadedBy, found, Option.bind_some, granted] at only
    by_cases sameRoute : admitted = routeId
    · obtain ⟨config, owner⟩ : ∃ config, configs[generation]? = some config :=
        ⟨_, List.getElem?_eq_getElem
          (held.ledger.counted ▸ (List.getElem?_eq_some_iff.mp found).1)⟩
      rw [accepted, List.append_nil] at ledger
      rw [flights, flights_eq_flightsOf routeId generation]
      · exact (flightsOf_le configs _ ledger routeId generation config owner).trans
          (limitIn_le routeId limit config (held.limits config (List.mem_of_getElem? owner)))
      · intro flight member named
        rcases List.mem_append.mp member with old | new
        · exact only sameRoute flight old named
        · rw [List.mem_singleton.mp new]
    · rw [flights, flights_append, if_neg sameRoute]
      exact held.within
  | dropped position flight found =>
    refine ⟨ledger, by simpa [accepted] using held.limits, ?_⟩
    exact (List.Sublist.countP_le (List.eraseIdx_sublist _ _)).trans held.within
  | refused config reason answer =>
    exact ⟨ledger, by simpa [accepted, answer] using held.limits, held.within⟩
  | reloaded config built answer =>
    refine ⟨ledger, ?_, held.within⟩
    simp only [accepted, answer, List.mem_append, List.mem_singleton]
    rintro owner (old | rfl)
    · exact held.limits owner old
    · exact guarded.1

/-- A route whose identifier and limit no reload changes stays within its limit in
every run in which its requests are admitted by one generation at a time. -/
theorem within_limit_of_oneGeneration (wasm : Policy.Wasmtime Component) (config : AppConfig)
    (built : GatewayState Component) (new : GatewayState.new wasm config = .ok built)
    (routeId : String) (limit : Nat) (hasLimit : HasLimit routeId limit config)
    (events : List Event) (final : State Component)
    (kept : Runs.Guarded (step wasm) (KeepsLimit routeId limit) (start config built) events)
    (single : Runs.Guarded (step wasm) (OneGeneration routeId) (start config built) events)
    (completed : Runs.run (step wasm) (start config built) events = some final) :
    flights routeId final ≤ limit := by
  have initial : WithinLimit routeId limit [config] (start config built) :=
    ⟨ledger_start wasm config built new, by simpa using hasLimit, by simp [start, flights]⟩
  exact (Runs.traced_invariant (step wasm)
    (fun state event => KeepsLimit routeId limit state event ∧ OneGeneration routeId state event)
    (accepted wasm) (WithinLimit routeId limit)
    (fun _ _ event next held guarded taken => held.step wasm event next guarded taken)
    [config] (start config built) final events initial (kept.and single) completed).within

def narrowRoute : Route := { Selection.pairedRoute with concurrencyLimit := 1 }

/-- One route with room for one request. -/
def narrowConfig : AppConfig := { bareConfig with routes := [narrowRoute] }

def narrowState : GatewayState Unit :=
  { router := narrowConfig.routes, storageConfig := narrowConfig.storage, redaction := ⟨[], []⟩
    policy := .empty
    routeRuntime := Map.insert (fun _ => none) "orders" (RouteRuntime.new narrowRoute) }

/-- A request arrives and is admitted. -/
def admitted : List Event := [.arrive, .acquire 0 none "/"]

/-- The first request is done before the reload, and the second is taken by the new
generation. -/
theorem within_limit_when_drained : ∃ final,
    Runs.run (step Policy.permissiveWasm) (start narrowConfig narrowState)
        (admitted ++ [.drop 0, .reload narrowConfig] ++ admitted) = some final ∧
      flights "orders" final ≤ 1 :=
  ⟨_, rfl, within_limit_of_oneGeneration Policy.permissiveWasm narrowConfig narrowState rfl
    "orders" 1 (by decide) (admitted ++ [.drop 0, .reload narrowConfig] ++ admitted) _
    (by decide) (by decide) rfl⟩

/-- A reload of the very same configuration lets a second request in beside the
first. -/
theorem reload_exceeds_limit : ∃ final,
    GatewayState.new Policy.permissiveWasm narrowConfig = .ok narrowState ∧
      HasLimit "orders" 1 narrowConfig ∧
      Runs.run (step Policy.permissiveWasm) (start narrowConfig narrowState)
        (admitted ++ [.reload narrowConfig] ++ admitted) = some final ∧
      ¬ flights "orders" final ≤ 1 :=
  ⟨_, rfl, by decide, rfl, by decide⟩

/-! ## All generations -/

/-- The configurations the generations of a run were built from, in order. -/
def configs (wasm : Policy.Wasmtime Component) (config : AppConfig)
    (built : GatewayState Component) (events : List Event) : List AppConfig :=
  [config] ++ Runs.trace (step wasm) (accepted wasm) (start config built) events

/-- The requests of a route in flight, counted generation by generation.

By induction on those in flight, each of which is counted for its own generation alone. -/
theorem flights_eq_sum (routeId : String) (generations : Nat) (inFlight : List Flight)
    (known : ∀ flight ∈ inFlight, flight.generation < generations) :
    inFlight.countP (fun flight => flight.routeId = routeId) =
      ∑ generation ∈ Finset.range generations, flightsOf routeId generation inFlight := by
  induction inFlight with
  | nil => simp [flightsOf]
  | cons flight rest inductionHypothesis =>
    have inRange := known flight List.mem_cons_self
    have one : ∑ generation ∈ Finset.range generations,
        (if flight = ⟨generation, routeId⟩ then 1 else 0) =
          if flight.routeId = routeId then 1 else 0 := by
      obtain ⟨flown, route⟩ := flight
      by_cases same : route = routeId
      · simpa [same] using inRange
      · simp [same]
    have others := inductionHypothesis fun other member =>
      known other (List.mem_cons_of_mem _ member)
    simp only [flightsOf, List.count_cons, beq_iff_eq, Finset.sum_add_distrib, one] at others ⊢
    rw [List.countP_cons, others]
    simp

/-- A route has at most the sum of its limits in all generations in flight.

Generation by generation, `flightsOf_le` bounds the requests by the limit. -/
theorem flights_le (owners : List AppConfig) (state : State Component)
    (ledger : Ledger owners state) (routeId : String) :
    flights routeId state ≤ (owners.map fun config => (limitIn routeId config).getD 0).sum := by
  have known : ∀ flight ∈ state.inFlight, flight.generation < owners.length := by
    intro flight member
    obtain ⟨_, _, found, _⟩ := ledger.issued flight member
    exact ledger.counted ▸ (List.getElem?_eq_some_iff.mp found).1
  calc flights routeId state
      = ∑ generation ∈ Finset.range owners.length, flightsOf routeId generation state.inFlight :=
        flights_eq_sum routeId owners.length state.inFlight known
    _ = ∑ generation : Fin owners.length, flightsOf routeId generation state.inFlight :=
        Finset.sum_range _
    _ ≤ ∑ generation : Fin owners.length, (limitIn routeId owners[generation.1]).getD 0 :=
        Finset.sum_le_sum fun generation _ => flightsOf_le owners state ledger routeId generation
          owners[generation.1] (List.getElem?_eq_getElem generation.2)
    _ = (owners.map fun config => (limitIn routeId config).getD 0).sum :=
        Fin.sum_univ_fun_getElem owners fun config => (limitIn routeId config).getD 0

/-- Whatever arrivals, admissions, completions and reloads interleave, each generation's free
permits of a route and those held by its requests in flight are the limit of the route in the
generation's own configuration, and the requests of the route in flight are at most the sum of
its limits over the accepted configurations. -/
theorem permits_conserved (wasm : Policy.Wasmtime Component) (config : AppConfig)
    (built : GatewayState Component) (new : GatewayState.new wasm config = .ok built)
    (events : List Event) (final : State Component)
    (completed : Runs.run (step wasm) (start config built) events = some final) :
    final.generations.length = (configs wasm config built events).length ∧
      (∀ generation loaded owner routeId runtime,
        final.generations[generation]? = some loaded →
        (configs wasm config built events)[generation]? = some owner →
        loaded.routeRuntime routeId = some runtime →
        limitIn routeId owner =
          some (runtime.semaphore + flightsOf routeId generation final.inFlight)) ∧
      ∀ routeId, flights routeId final ≤
        ((configs wasm config built events).map fun owner =>
          (limitIn routeId owner).getD 0).sum := by
  have ledger : Ledger (configs wasm config built events) final :=
    Runs.traced_invariant (step wasm) (fun _ _ => True) (accepted wasm) Ledger
      (fun _ _ event next ledger _ taken => ledger.step wasm event next taken)
      [config] (start config built) final events (ledger_start wasm config built new)
      (Runs.guarded_true (step wasm) (start config built) events) completed
  exact ⟨ledger.counted, ledger.permits, flights_le _ final ledger⟩

/-- After a reload beside a request in flight two requests hold permits, one of each
generation. -/
theorem permits_conserved_reloaded : ∃ final,
    Runs.run (step Policy.permissiveWasm) (start narrowConfig narrowState)
        (admitted ++ [.reload narrowConfig] ++ admitted) = some final ∧
      flights "orders" final = 2 ∧
      flights "orders" final ≤
        ((configs Policy.permissiveWasm narrowConfig narrowState
          (admitted ++ [.reload narrowConfig] ++ admitted)).map fun owner =>
            (limitIn "orders" owner).getD 0).sum :=
  ⟨_, rfl, by decide, (permits_conserved Policy.permissiveWasm narrowConfig narrowState rfl
    (admitted ++ [.reload narrowConfig] ++ admitted) _ rfl).2.2 "orders"⟩

end TraceGate.Admission
