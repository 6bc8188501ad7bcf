import TraceGate.PolicyChain
import TraceGate.Reload
import TraceGate.Runs

/-!
# Permits across reloads

Each generation of the gateway's state has its own semaphores, made when the
generation is built. A request takes a permit from the generation it loaded when
it arrived, and holds it until its response body is dropped, whatever generation
is active by then. Requests, completions and reloads interleave in any order, and
a reload may fall between a request's arrival and its admission.
-/

namespace TraceGate.Admission

variable {Component : Type}

/-- A request in flight: the generation and the route whose permit it holds. -/
structure Flight where
  generation : Nat
  routeId : String
deriving DecidableEq

/-- Every generation so far, the configuration of the last one, the generations
loaded by requests not yet admitted, and the requests in flight. -/
structure State (Component : Type) where
  generations : List (GatewayState Component)
  config : AppConfig
  arrived : List Nat
  inFlight : List Flight

inductive Event where
  | arrive
  | acquire (position : Nat) (host : Option String) (path : String)
  | drop (position : Nat)
  | reload (next : AppConfig)

/-- A semaphore of one generation set to a number of permits. -/
def setPermits (state : GatewayState Component) (routeId : String) (runtime : RouteRuntime)
    (permits : Nat) : GatewayState Component :=
  { state with
    routeRuntime := state.routeRuntime.insert routeId { runtime with semaphore := permits } }

/-- `try_acquire_owned` on the matched route of a generation: the route and the
generation with one permit less. -/
def tryAcquire (state : GatewayState Component) (host : Option String) (path : String) :
    Option (String × GatewayState Component) :=
  match matchRoute state.router host path with
  | none => none
  | some route =>
      match state.runtimeFor route with
      | none => none
      | some runtime =>
          if runtime.semaphore = 0 then none
          else some (route.id, setPermits state route.id runtime (runtime.semaphore - 1))

/-- Dropping a permit gives it back to its own generation. -/
def release (state : GatewayState Component) (routeId : String) : GatewayState Component :=
  match state.routeRuntime routeId with
  | none => state
  | some runtime => setPermits state routeId runtime (runtime.semaphore + 1)

/-- One event. A request is admitted by the generation it loaded when it arrived, active or
not. -/
def step (wasm : Policy.Wasmtime Component) (state : State Component) :
    Event → Option (State Component)
  | .arrive => some { state with arrived := state.arrived ++ [state.generations.length - 1] }
  | .acquire position host path =>
      match state.arrived[position]? with
      | none => none
      | some generation =>
          match state.generations[generation]? with
          | none => none
          | some loaded =>
              let arrived := state.arrived.eraseIdx position
              match tryAcquire loaded host path with
              | none => some { state with arrived := arrived }
              | some (routeId, acquired) =>
                  some
                    { state with
                      generations := state.generations.set generation acquired
                      arrived := arrived
                      inFlight := state.inFlight ++ [⟨generation, routeId⟩] }
  | .drop position =>
      match state.inFlight[position]? with
      | none => none
      | some flight =>
          some
            { state with
              generations := state.generations.modify flight.generation
                fun loaded => release loaded flight.routeId
              inFlight := state.inFlight.eraseIdx position }
  | .reload next =>
      match reloadGateway wasm state.config next with
      | .error _ => some state
      | .ok built =>
          some { state with generations := state.generations ++ [built], config := next }

def start (config : AppConfig) (built : GatewayState Component) : State Component :=
  ⟨[built], config, [], []⟩

/-- What one event does. A reload that is refused changes nothing, and so does an admission
that finds no permit, except that its request has gone. -/
inductive Change (wasm : Policy.Wasmtime Component) (state : State Component) :
    Event → State Component → Prop where
  | arrived : Change wasm state .arrive
      { state with arrived := state.arrived ++ [state.generations.length - 1] }
  | unserved (position : Nat) (host : Option String) (path : String) :
      Change wasm state (.acquire position host path)
        { state with arrived := state.arrived.eraseIdx position }
  | admitted (position : Nat) (host : Option String) (path : String) (generation : Nat)
      (loaded acquired : GatewayState Component) (routeId : String)
      (loadedBy : state.arrived[position]? = some generation)
      (found : state.generations[generation]? = some loaded)
      (granted : tryAcquire loaded host path = some (routeId, acquired)) :
      Change wasm state (.acquire position host path)
        { state with
          generations := state.generations.set generation acquired
          arrived := state.arrived.eraseIdx position
          inFlight := state.inFlight ++ [⟨generation, routeId⟩] }
  | dropped (position : Nat) (flight : Flight)
      (found : state.inFlight[position]? = some flight) :
      Change wasm state (.drop position)
        { state with
          generations := state.generations.modify flight.generation
            fun loaded => release loaded flight.routeId
          inFlight := state.inFlight.eraseIdx position }
  | refused (next : AppConfig) (reason : String)
      (answer : reloadGateway wasm state.config next = .error reason) :
      Change wasm state (.reload next) state
  | reloaded (next : AppConfig) (built : GatewayState Component)
      (answer : reloadGateway wasm state.config next = .ok built) :
      Change wasm state (.reload next)
        { state with generations := state.generations ++ [built], config := next }

/-- Every step is one of the changes, with what it has found out on the way.

The events are gone through one by one, with `tryAcquire_eq_some` for the admissions. -/
theorem step_change (wasm : Policy.Wasmtime Component) (state : State Component) (event : Event)
    (next : State Component) (taken : step wasm state event = some next) :
    Change wasm state event next := by
  cases event with
  | arrive =>
    obtain rfl := Option.some.inj taken
    exact .arrived
  | acquire position host path =>
    simp only [step] at taken
    cases loadedBy : state.arrived[position]? with
    | none => simp [loadedBy] at taken
    | some generation =>
      cases found : state.generations[generation]? with
      | none => simp [loadedBy, found] at taken
      | some loaded =>
        cases granted : tryAcquire loaded host path with
        | none =>
          simp only [loadedBy, found, granted, Option.some.injEq] at taken
          subst taken
          exact .unserved position host path
        | some pair =>
          obtain ⟨routeId, acquired⟩ := pair
          simp only [loadedBy, found, granted, Option.some.injEq] at taken
          subst taken
          exact .admitted position host path generation loaded acquired routeId loadedBy found
            granted
  | drop position =>
    simp only [step] at taken
    cases found : state.inFlight[position]? with
    | none => simp [found] at taken
    | some flight =>
      simp only [found, Option.some.injEq] at taken
      subst taken
      exact .dropped position flight found
  | reload config =>
    simp only [step] at taken
    cases answer : reloadGateway wasm state.config config with
    | error reason =>
      simp only [answer, Option.some.injEq] at taken
      exact taken ▸ .refused config reason answer
    | ok built =>
      simp only [answer, Option.some.injEq] at taken
      subst taken
      exact .reloaded config built answer

/-- Every route of the configuration under this identifier has this limit. -/
def HasLimit (routeId : String) (limit : Nat) (config : AppConfig) : Prop :=
  ∀ route ∈ config.routes, route.id = routeId → route.concurrencyLimit = limit

instance (routeId : String) (limit : Nat) (config : AppConfig) :
    Decidable (HasLimit routeId limit config) :=
  inferInstanceAs (Decidable (∀ route ∈ config.routes, _))

/-- A reload keeps the route's limit. -/
def KeepsLimit (routeId : String) (limit : Nat) (_ : State Component) (event : Event) : Prop :=
  match event with
  | .reload next => HasLimit routeId limit next
  | _ => True

/-- A request of the route is admitted only while every request of the route in
flight holds a permit of the same generation. -/
def OneGeneration (routeId : String) (state : State Component) (event : Event) : Prop :=
  match event with
  | .acquire position host path =>
      match state.arrived[position]? with
      | none => True
      | some generation =>
          match state.generations[generation]?.bind (tryAcquire · host path) with
          | none => True
          | some (admitted, _) => admitted = routeId →
              ∀ flight ∈ state.inFlight, flight.routeId = routeId → flight.generation = generation
  | _ => True

instance (routeId : String) (limit : Nat) (state : State Component) (event : Event) :
    Decidable (KeepsLimit routeId limit state event) := by
  unfold KeepsLimit
  split <;> infer_instance

instance (routeId : String) (state : State Component) (event : Event) :
    Decidable (OneGeneration routeId state event) := by
  unfold OneGeneration
  split
  · split
    · infer_instance
    · split <;> infer_instance
  · infer_instance

/-- The requests of a route in flight. -/
def flights (routeId : String) (state : State Component) : Nat :=
  state.inFlight.countP fun flight => flight.routeId = routeId

/-- The requests of a route that hold a permit of one generation. -/
def flightsOf (routeId : String) (generation : Nat) (inFlight : List Flight) : Nat :=
  inFlight.count ⟨generation, routeId⟩

/-- Setting the permits of a route changes its own runtime and leaves that of another. -/
theorem routeRuntime_setPermits (state : GatewayState Component) (other routeId : String)
    (runtime : RouteRuntime) (permits : Nat) :
    (setPermits state other runtime permits).routeRuntime routeId =
      if routeId = other then some { runtime with semaphore := permits }
      else state.routeRuntime routeId := rfl

/-- An admission has found a runtime with a free permit for its route, and has taken one.

The route is found first, then its runtime, and only then the permit. -/
theorem tryAcquire_eq_some (loaded acquired : GatewayState Component) (host : Option String)
    (path routeId : String) (taken : tryAcquire loaded host path = some (routeId, acquired)) :
    ∃ runtime, loaded.routeRuntime routeId = some runtime ∧ 0 < runtime.semaphore ∧
      acquired = setPermits loaded routeId runtime (runtime.semaphore - 1) := by
  unfold tryAcquire at taken
  split at taken
  · exact absurd taken (by simp)
  next route matched =>
    split at taken
    · exact absurd taken (by simp)
    next runtime present =>
      split at taken
      · exact absurd taken (by simp)
      next free =>
        obtain ⟨rfl, rfl⟩ := Prod.mk.inj (Option.some.inj taken)
        exact ⟨runtime, present, Nat.pos_of_ne_zero free, rfl⟩

/-- A new request counts for its own route only. -/
theorem flights_append (routeId : String) (inFlight : List Flight) (flight : Flight) :
    (inFlight ++ [flight]).countP (fun flight => flight.routeId = routeId) =
      inFlight.countP (fun flight => flight.routeId = routeId) +
        if flight.routeId = routeId then 1 else 0 := by
  simp [List.countP_append, List.countP_cons]

/-- When all flights of a route are of one generation, the route's are that
generation's. -/
theorem flights_eq_flightsOf (routeId : String) (generation : Nat) (inFlight : List Flight)
    (only : ∀ flight ∈ inFlight, flight.routeId = routeId → flight.generation = generation) :
    inFlight.countP (fun flight => flight.routeId = routeId) =
      flightsOf routeId generation inFlight := by
  rw [flightsOf, List.count]
  refine List.countP_congr fun flight member => ?_
  obtain ⟨flown, route⟩ := flight
  have same := only ⟨flown, route⟩ member
  simp only [decide_eq_true_eq, beq_iff_eq, Flight.mk.injEq] at same ⊢
  exact ⟨fun named => ⟨same named, named⟩, And.right⟩

/-- A new request counts for its own route and generation only. -/
theorem flightsOf_append (routeId : String) (generation : Nat) (inFlight : List Flight)
    (flight : Flight) :
    flightsOf routeId generation (inFlight ++ [flight]) =
      flightsOf routeId generation inFlight +
        if flight = ⟨generation, routeId⟩ then 1 else 0 := by
  simp [flightsOf, List.count_append, List.count_singleton]

/-- Taking a permit lowers one semaphore, that of the admitted route in the loaded
generation, by one. -/
theorem semaphore_of_acquired (generations : List (GatewayState Component)) (generation : Nat)
    (loaded later : GatewayState Component) (admitted routeId : String)
    (runtime current : RouteRuntime) (found : generations[generation]? = some loaded)
    (present : loaded.routeRuntime admitted = some runtime) (free : 0 < runtime.semaphore)
    (other : Nat)
    (laterFound : (generations.set generation
      (setPermits loaded admitted runtime (runtime.semaphore - 1)))[other]? = some later)
    (laterPresent : later.routeRuntime routeId = some current) :
    ∃ before earlier, generations[other]? = some before ∧
      before.routeRuntime routeId = some earlier ∧
      earlier.semaphore = current.semaphore +
        if (⟨generation, admitted⟩ : Flight) = ⟨other, routeId⟩ then 1 else 0 := by
  by_cases sameGeneration : generation = other
  · subst sameGeneration
    rw [List.getElem?_set_self (List.getElem?_eq_some_iff.mp found).1,
      Option.some.injEq] at laterFound
    subst laterFound
    rw [routeRuntime_setPermits] at laterPresent
    by_cases sameRoute : routeId = admitted
    · subst sameRoute
      simp only [if_true, Option.some.injEq] at laterPresent
      subst laterPresent
      refine ⟨loaded, runtime, found, present, ?_⟩
      simp only [if_true]
      omega
    · have apart : admitted ≠ routeId := fun same => sameRoute same.symm
      simp only [sameRoute, if_false] at laterPresent
      exact ⟨loaded, current, found, laterPresent, by simp [apart]⟩
  · rw [List.getElem?_set_ne sameGeneration] at laterFound
    exact ⟨later, current, laterFound, laterPresent, by simp [sameGeneration]⟩

/-- A request that ends counted for its own route and generation only.

Taking an element out of a list and putting it in front is a permutation. -/
theorem flightsOf_eraseIdx (routeId : String) (generation position : Nat)
    (inFlight : List Flight) (flight : Flight) (found : inFlight[position]? = some flight) :
    flightsOf routeId generation inFlight =
      flightsOf routeId generation (inFlight.eraseIdx position) +
        if flight = ⟨generation, routeId⟩ then 1 else 0 := by
  obtain ⟨inRange, rfl⟩ := List.getElem?_eq_some_iff.mp found
  rw [flightsOf, ← (List.getElem_cons_eraseIdx_perm inRange).count_eq, List.count_cons]
  simp [flightsOf]

/-- A released permit shows in the runtime of its own route only, and nowhere if the generation
has no runtime for the route. -/
theorem routeRuntime_release (loaded : GatewayState Component) (other routeId : String) :
    (release loaded other).routeRuntime routeId =
      if routeId = other then (loaded.routeRuntime routeId).map fun runtime =>
        { runtime with semaphore := runtime.semaphore + 1 }
      else loaded.routeRuntime routeId := by
  cases present : loaded.routeRuntime other with
  | none =>
    by_cases same : routeId = other
    · simp [release, same, present]
    · simp [release, same, present]
  | some runtime =>
    by_cases same : routeId = other
    · simp [release, routeRuntime_setPermits, same, present]
    · simp [release, routeRuntime_setPermits, same, present]

/-- Giving a permit back raises one semaphore, that of its own route and
generation, by one. -/
theorem semaphore_of_released (generations : List (GatewayState Component)) (flight : Flight)
    (later : GatewayState Component) (routeId : String) (current : RouteRuntime)
    (generation : Nat)
    (laterFound : (generations.modify flight.generation
      fun loaded => release loaded flight.routeId)[generation]? = some later)
    (laterPresent : later.routeRuntime routeId = some current) :
    ∃ before earlier, generations[generation]? = some before ∧
      before.routeRuntime routeId = some earlier ∧
      current.semaphore = earlier.semaphore +
        if flight = ⟨generation, routeId⟩ then 1 else 0 := by
  rw [List.getElem?_modify] at laterFound
  obtain ⟨loaded, before, rfl⟩ := Option.map_eq_some_iff.mp laterFound
  by_cases hit : flight = ⟨generation, routeId⟩
  · subst hit
    simp only [if_true, routeRuntime_release] at laterPresent
    obtain ⟨runtime, present, rfl⟩ := Option.map_eq_some_iff.mp laterPresent
    exact ⟨loaded, runtime, before, present, by simp⟩
  · have unchanged : loaded.routeRuntime routeId = some current := by
      by_cases sameGeneration : flight.generation = generation
      · have apart : routeId ≠ flight.routeId := by
          rintro rfl
          exact hit (by rw [← sameGeneration])
        simpa [sameGeneration, routeRuntime_release, apart] using laterPresent
      · simpa [sameGeneration] using laterPresent
    exact ⟨loaded, current, before, unchanged, by simp [hit]⟩

end TraceGate.Admission
