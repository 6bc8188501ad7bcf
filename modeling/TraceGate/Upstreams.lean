import Mathlib.Data.Finset.Card
import Mathlib.Logic.Function.Basic
import TraceGate.Core
import TraceGate.Runs

/-!
# Choosing an upstream while other requests choose too

A route's runtime is shared by all its requests. One call of `select_upstream`
reads the clock once and then makes up to as many probes as the route has
upstreams; a probe takes the next value of the shared counter and then loads the
health of the upstream it points at. Every such access is one step, so the probes
of several calls, and the stores that record results, interleave in any order.

A call carries three things the code does not: the indexes it has drawn, the
upstreams that were healthy at every moment since it began, and the number of its
own steps. The counter has the width of a machine word and wraps.
-/

namespace TraceGate

structure UpstreamRuntime where
  failures : Nat
  unhealthyUntilMs : Int
deriving DecidableEq

structure RouteRuntime where
  semaphore : Nat
  upstreams : List UpstreamRuntime
  nextUpstream : Nat
  failureThreshold : Nat
  cooldownMs : Int
deriving DecidableEq

def RouteRuntime.new (route : Route) : RouteRuntime :=
  { semaphore := route.concurrencyLimit
    upstreams := route.upstreams.map fun _ => ⟨0, 0⟩
    nextUpstream := 0
    failureThreshold := route.passiveHealthFailures
    cooldownMs := min (asMillis route.passiveHealthCooldown) i64Max }

namespace Selection

/-- Where a call of `select_upstream` stands. -/
inductive Phase where
  | idle
  | probing (now : Int) (remaining : Nat)
  | loading (now : Int) (remaining index : Nat)
  | returned (now : Int) (result : Option (Nat × Int))
deriving DecidableEq

structure Call where
  phase : Phase
  drawn : List Nat
  steady : List Nat
  steps : Nat
deriving DecidableEq

def Call.idle : Call := ⟨.idle, [], [], 0⟩

/-- The runtime shared by all calls, and each call. -/
structure State where
  runtime : RouteRuntime
  calls : Nat → Call

inductive Event where
  | begin (call : Nat) (now : Int)
  | fetch (call : Nat)
  | load (call : Nat)
  | store (index : Nat) (unhealthyUntilMs : Int)

def healthy (upstreams : List UpstreamRuntime) (now : Int) (index : Nat) : Bool :=
  (upstreams[index]?.map fun upstream => decide (upstream.unhealthyUntilMs ≤ now)).getD false

/-- The upstreams that were steady and still are, after a store. -/
def Call.observe (upstreams : List UpstreamRuntime) (call : Call) : Call :=
  match call.phase with
  | .probing now _ => { call with steady := call.steady.filter (healthy upstreams now) }
  | .loading now _ _ => { call with steady := call.steady.filter (healthy upstreams now) }
  | .idle => call
  | .returned _ _ => call

/-- One atomic step. A returned call keeps the index it chose with the value it had loaded. A
load always finds its entry, since the index was taken modulo the number of upstreams. -/
def step (route : Route) (state : State) : Event → Option State
  | .begin call now =>
      if (state.calls call).phase ≠ .idle then none
      else
        let len := route.upstreams.length
        let phase := if len = 0 then .returned now none else .probing now len
        let steady := (List.range len).filter (healthy state.runtime.upstreams now)
        let next : Call := ⟨phase, [], steady, 1⟩
        some { state with calls := Function.update state.calls call next }
  | .fetch call =>
      let current := state.calls call
      match current.phase with
      | .probing now remaining =>
          let index := state.runtime.nextUpstream % route.upstreams.length
          let counter := (state.runtime.nextUpstream + 1) % 2 ^ 64
          let next : Call :=
            { current with
              phase := .loading now (remaining - 1) index
              drawn := index :: current.drawn
              steps := current.steps + 1 }
          some ⟨{ state.runtime with nextUpstream := counter },
            Function.update state.calls call next⟩
      | _ => none
  | .load call =>
      let current := state.calls call
      match current.phase with
      | .loading now remaining index =>
          match state.runtime.upstreams[index]? with
          | none => none
          | some upstream =>
              let phase :=
                if upstream.unhealthyUntilMs ≤ now then
                  .returned now (some (index, upstream.unhealthyUntilMs))
                else if remaining = 0 then .returned now none
                else .probing now remaining
              let next : Call := { current with phase := phase, steps := current.steps + 1 }
              some { state with calls := Function.update state.calls call next }
      | _ => none
  | .store index unhealthyUntilMs =>
      let upstreams := state.runtime.upstreams.modify index fun upstream =>
        { upstream with unhealthyUntilMs := unhealthyUntilMs }
      some
        { runtime := { state.runtime with upstreams := upstreams }
          calls := fun call => (state.calls call).observe upstreams }

/-- A route that no request has used yet. -/
def start (route : Route) : State := ⟨RouteRuntime.new route, fun _ => .idle⟩

/-- The call draws an index it has not drawn before. -/
def DrawsFresh (route : Route) (state : State) : Event → Prop
  | .fetch call =>
      state.runtime.nextUpstream % route.upstreams.length ∉ (state.calls call).drawn
  | _ => True

instance (route : Route) (state : State) (event : Event) :
    Decidable (DrawsFresh route state event) := by
  cases event <;> unfold DrawsFresh <;> infer_instance

/-- What is asked of a call: once it has returned, an upstream that was healthy
all along means that one was chosen, and a chosen one was healthy when loaded;
and after two steps for each upstream it has returned. -/
def Call.Correct (route : Route) (call : Call) : Prop :=
  (∀ now result, call.phase = .returned now result →
    (call.steady ≠ [] → result ≠ none) ∧
      ∀ index loaded, result = some (index, loaded) →
        index < route.upstreams.length ∧ loaded ≤ now) ∧
    (2 * route.upstreams.length < call.steps →
      ∃ now result, call.phase = .returned now result)

/-- A set of distinct indexes below a bound, as many as the bound, is all
of them. -/
theorem mem_of_nodup_of_full {bound : Nat} {drawn : List Nat} (distinct : drawn.Nodup)
    (bounded : ∀ index ∈ drawn, index < bound) (full : drawn.length = bound)
    {index : Nat} (below : index < bound) : index ∈ drawn := by
  have subset : drawn.toFinset ⊆ Finset.range bound := by
    intro index member
    exact Finset.mem_range.mpr (bounded index (List.mem_toFinset.mp member))
  have same : drawn.toFinset = Finset.range bound := by
    refine Finset.eq_of_subset_of_card_le subset ?_
    rw [Finset.card_range, List.toFinset_card_of_nodup distinct, full]
  exact List.mem_toFinset.mp (same ▸ Finset.mem_range.mpr below)

/-- The probes made so far: distinct, in range, and together with the probes left
as many as there are upstreams. Steady upstreams are in range and healthy now. -/
structure Call.Probing (route : Route) (upstreams : List UpstreamRuntime) (call : Call)
    (now : Int) (remaining : Nat) : Prop where
  counted : call.drawn.length + remaining = route.upstreams.length
  distinct : call.drawn.Nodup
  bounded : ∀ index ∈ call.drawn, index < route.upstreams.length
  inRange : ∀ index ∈ call.steady, index < route.upstreams.length
  steadyHealthy : ∀ index ∈ call.steady, healthy upstreams now index = true

/-- The invariant of one call. -/
def Call.Inv (route : Route) (upstreams : List UpstreamRuntime) (call : Call) : Prop :=
  match call.phase with
  | .idle => call.steps = 0
  | .probing now remaining =>
      call.Probing route upstreams now remaining ∧ 0 < remaining ∧
        (∀ index ∈ call.steady, index ∉ call.drawn) ∧
        call.steps = 2 * call.drawn.length + 1
  | .loading now remaining index =>
      call.Probing route upstreams now remaining ∧ index ∈ call.drawn ∧
        (∀ other ∈ call.steady, other ∈ call.drawn → other = index) ∧
        call.steps = 2 * call.drawn.length
  | .returned now result =>
      (call.steady ≠ [] → result ≠ none) ∧
        ∀ index loaded, result = some (index, loaded) →
          index < route.upstreams.length ∧ loaded ≤ now

structure Inv (route : Route) (state : State) : Prop where
  sized : state.runtime.upstreams.length = route.upstreams.length
  calls : ∀ call, (state.calls call).Inv route state.runtime.upstreams

/-- Replacing one call keeps the invariant when the new call has it. -/
theorem Inv.update {route : Route} {state : State} (inv : Inv route state) (call : Nat)
    (next : Call) (good : next.Inv route state.runtime.upstreams) :
    Inv route { state with calls := Function.update state.calls call next } where
  sized := inv.sized
  calls := by
    intro other
    by_cases same : other = call
    · subst same
      simpa using good
    · simpa [Function.update_of_ne same] using inv.calls other

/-- An upstream is healthy exactly when its cooldown is over. -/
theorem healthy_iff (upstreams : List UpstreamRuntime) (now : Int) (index : Nat) :
    healthy upstreams now index = true ↔
      ∃ upstream, upstreams[index]? = some upstream ∧ upstream.unhealthyUntilMs ≤ now := by
  cases found : upstreams[index]? with
  | none => simp [healthy, found]
  | some upstream => simp [healthy, found]

/-- A call that begins has drawn nothing, and what is healthy is steady so far.

Without upstreams the call returns at once. -/
theorem begin_inv (route : Route) (state next : State) (call : Nat) (now : Int)
    (inv : Inv route state) (taken : step route state (.begin call now) = some next) :
    Inv route next := by
  simp only [step] at taken
  split at taken
  · exact absurd taken (by simp)
  · obtain rfl := Option.some.inj taken
    refine inv.update call _ ?_
    by_cases empty : route.upstreams.length = 0
    · simp [Call.Inv, empty]
    · have probing : Call.Probing route state.runtime.upstreams
          ⟨.probing now route.upstreams.length, [],
            (List.range route.upstreams.length).filter (healthy state.runtime.upstreams now), 1⟩
          now route.upstreams.length :=
        { counted := by simp
          distinct := List.nodup_nil
          bounded := by simp
          inRange := fun index member => List.mem_range.mp (List.mem_filter.mp member).1
          steadyHealthy := fun index member => (List.mem_filter.mp member).2 }
      simp only [Call.Inv, empty, if_false]
      exact ⟨probing, Nat.pos_of_ne_zero empty, by simp, by simp⟩

/-- A fresh draw keeps the drawn indexes distinct; the steady upstreams have not
been drawn before, so at most the new one is among the drawn. -/
theorem fetch_inv (route : Route) (state next : State) (call : Nat) (inv : Inv route state)
    (fresh : DrawsFresh route state (.fetch call))
    (taken : step route state (.fetch call) = some next) : Inv route next := by
  have current := inv.calls call
  simp only [step] at taken
  cases phase : (state.calls call).phase with
  | idle => simp [phase] at taken
  | loading now remaining index => simp [phase] at taken
  | returned now result => simp [phase] at taken
  | probing now remaining =>
    simp only [phase, Option.some.injEq] at taken
    simp only [Call.Inv, phase] at current
    obtain ⟨probing, positive, apart, stepped⟩ := current
    have counted := probing.counted
    have inRange : state.runtime.nextUpstream % route.upstreams.length <
        route.upstreams.length := Nat.mod_lt _ (by omega)
    subst taken
    have moved : Inv route
        { state with runtime := { state.runtime with
            nextUpstream := (state.runtime.nextUpstream + 1) % 2 ^ 64 } } :=
      ⟨inv.sized, inv.calls⟩
    refine moved.update call _ ?_
    simp only [Call.Inv]
    refine ⟨?_, List.mem_cons_self, ?_, ?_⟩
    · exact
        { counted := by rw [List.length_cons]; omega
          distinct := List.nodup_cons.mpr ⟨fresh, probing.distinct⟩
          bounded := List.forall_mem_cons.mpr ⟨inRange, probing.bounded⟩
          inRange := probing.inRange
          steadyHealthy := probing.steadyHealthy }
    · intro other steady member
      rcases List.mem_cons.mp member with same | earlier
      · exact same
      · exact absurd earlier (apart other steady)
    · rw [List.length_cons, stepped]
      omega

/-- A load keeps the invariant.

One that finds the upstream unhealthy shows that it was not steady: a steady upstream among
those drawn is the one just found. When no probe is left, as many distinct indexes have been
drawn as there are upstreams, so all have been drawn and none was steady. -/
theorem load_inv (route : Route) (state next : State) (call : Nat) (inv : Inv route state)
    (taken : step route state (.load call) = some next) : Inv route next := by
  have current := inv.calls call
  simp only [step] at taken
  cases phase : (state.calls call).phase with
  | idle => simp [phase] at taken
  | probing now remaining => simp [phase] at taken
  | returned now result => simp [phase] at taken
  | loading now remaining index =>
    cases found : state.runtime.upstreams[index]? with
    | none => simp [phase, found] at taken
    | some upstream =>
      simp only [phase, found, Option.some.injEq] at taken
      simp only [Call.Inv, phase] at current
      obtain ⟨probing, drawn, only, stepped⟩ := current
      subst taken
      refine inv.update call _ ?_
      by_cases well : upstream.unhealthyUntilMs ≤ now
      · simp only [Call.Inv, well, if_true]
        refine ⟨by simp, ?_⟩
        rintro _ _ ⟨⟩
        exact ⟨probing.bounded index drawn, well⟩
      · have unsteady : ∀ other ∈ (state.calls call).steady,
            other ∉ (state.calls call).drawn := by
          intro other steady member
          obtain rfl := only other steady member
          obtain ⟨loaded, same, good⟩ :=
            (healthy_iff _ _ _).mp (probing.steadyHealthy other steady)
          rw [found] at same
          exact well (Option.some.inj same ▸ good)
        by_cases last : remaining = 0
        · have full : (state.calls call).drawn.length = route.upstreams.length := by
            have counted := probing.counted
            omega
          have noneSteady : (state.calls call).steady = [] := by
            refine List.eq_nil_iff_forall_not_mem.mpr fun other steady => ?_
            exact unsteady other steady (mem_of_nodup_of_full probing.distinct probing.bounded
              full (probing.inRange other steady))
          simp [Call.Inv, well, last, noneSteady]
        · simp only [Call.Inv, well, last, if_false]
          exact ⟨⟨probing.counted, probing.distinct, probing.bounded, probing.inRange,
            probing.steadyHealthy⟩, Nat.pos_of_ne_zero last, unsteady, by omega⟩

/-- Observing a store keeps the steady upstreams that are still healthy. -/
theorem Call.Probing.observe {route : Route} {upstreams later : List UpstreamRuntime}
    {call : Call} {now : Int} {remaining : Nat}
    (probing : call.Probing route upstreams now remaining) :
    Call.Probing route later { call with steady := call.steady.filter (healthy later now) }
      now remaining where
  counted := probing.counted
  distinct := probing.distinct
  bounded := probing.bounded
  inRange := fun index member => probing.inRange index (List.mem_filter.mp member).1
  steadyHealthy := fun _ member => (List.mem_filter.mp member).2

/-- Observing a store keeps the invariant of a call.

Steady upstreams only become fewer, and nothing else of the call changes. -/
theorem Call.Inv.observe {route : Route} {upstreams : List UpstreamRuntime} {call : Call}
    (inv : call.Inv route upstreams) (later : List UpstreamRuntime) :
    (call.observe later).Inv route later := by
  obtain ⟨phase, drawn, steady, steps⟩ := call
  cases phase with
  | idle => exact inv
  | returned now result => exact inv
  | probing now remaining =>
    obtain ⟨probing, positive, apart, stepped⟩ := inv
    exact ⟨probing.observe, positive,
      fun other member => apart other (List.mem_filter.mp member).1, stepped⟩
  | loading now remaining index =>
    obtain ⟨probing, drawnToo, only, stepped⟩ := inv
    exact ⟨probing.observe, drawnToo,
      fun other member => only other (List.mem_filter.mp member).1, stepped⟩

/-- A store keeps the invariant, as every call observes it. -/
theorem store_inv (route : Route) (state next : State) (index : Nat) (value : Int)
    (inv : Inv route state) (taken : step route state (.store index value) = some next) :
    Inv route next := by
  obtain rfl := Option.some.inj taken
  exact ⟨by simpa using inv.sized, fun call => (inv.calls call).observe _⟩

/-- Every step keeps the invariant, if no call draws an index twice. -/
theorem step_inv (route : Route) (state : State) (event : Event) (next : State)
    (inv : Inv route state) (fresh : DrawsFresh route state event)
    (taken : step route state event = some next) : Inv route next := by
  cases event with
  | begin call now => exact begin_inv route state next call now inv taken
  | fetch call => exact fetch_inv route state next call inv fresh taken
  | load call => exact load_inv route state next call inv taken
  | store index value => exact store_inv route state next index value inv taken

/-- At the start no call has begun. -/
theorem start_inv (route : Route) : Inv route (start route) :=
  ⟨by simp [start, RouteRuntime.new], fun _ => by simp [start, Call.idle, Call.Inv]⟩

/-- The invariant of a call gives what is asked of it: while it is active it has
made fewer than two steps for each upstream. -/
theorem Call.Inv.correct {route : Route} {upstreams : List UpstreamRuntime} {call : Call}
    (inv : call.Inv route upstreams) : call.Correct route := by
  obtain ⟨phase, drawn, steady, steps⟩ := call
  cases phase with
  | idle =>
    simp only [Call.Inv] at inv
    exact ⟨by simp, by simp [inv]⟩
  | returned now result =>
    refine ⟨?_, fun _ => ⟨now, result, rfl⟩⟩
    rintro _ _ ⟨⟩
    exact inv
  | probing now remaining =>
    obtain ⟨probing, positive, _, stepped⟩ := inv
    have counted := probing.counted
    refine ⟨by simp, fun many => ?_⟩
    simp only at stepped many counted
    omega
  | loading now remaining index =>
    obtain ⟨probing, _, _, stepped⟩ := inv
    have counted := probing.counted
    refine ⟨by simp, fun many => ?_⟩
    simp only at stepped many counted
    omega

/-- In every run in which no call draws an index twice, every call is correct. -/
theorem calls_correct_of_fresh_draws (route : Route) (events : List Event) (final : State)
    (fresh : Runs.Guarded (step route) (DrawsFresh route) (start route) events)
    (completed : Runs.run (step route) (start route) events = some final) (call : Nat) :
    (final.calls call).Correct route := by
  have inv := Runs.guarded_invariant (step route) (DrawsFresh route) (Inv route)
    (fun state event next => step_inv route state event next) (start route) final events
    (start_inv route) fresh completed
  exact (inv.calls call).correct

def pairedRoute : Route :=
  { id := "orders", hosts := ["*"], pathPrefix := "/"
    upstreams := [⟨"http", "a:1"⟩, ⟨"http", "b:1"⟩], timeout := fromMillis 1000, retries := 0
    capture := ⟨.off, 0, false, 0⟩, concurrencyLimit := 8, passiveHealthFailures := 1
    passiveHealthCooldown := fromMillis 1000 }

/-- The first upstream is in cooldown; two calls then take turns. -/
def undisturbed : List Event :=
  [.store 0 100, .begin 0 50, .fetch 0, .load 0, .fetch 0, .load 0]

def interleaved : List Event :=
  [.store 0 100, .begin 0 50, .begin 1 50, .fetch 0, .load 0, .fetch 1, .fetch 0, .load 0]

/-- A call on its own draws both indexes and finds the healthy upstream. -/
theorem undisturbed_call_correct : ∃ final,
    Runs.run (step pairedRoute) (start pairedRoute) undisturbed = some final ∧
      (final.calls 0).phase = .returned 50 (some (1, 0)) ∧
      (final.calls 0).Correct pairedRoute :=
  ⟨_, rfl, by decide, calls_correct_of_fresh_draws pairedRoute undisturbed _ (by decide) rfl 0⟩

/-- Between its two draws another call takes the counter value of the healthy
upstream, so the call draws the unhealthy one twice and reports none. -/
theorem interleaved_call_not_correct : ∃ final,
    Runs.run (step pairedRoute) (start pairedRoute) interleaved = some final ∧
      (final.calls 0).phase = .returned 50 none ∧ (final.calls 0).steady = [1] ∧
      ¬ (final.calls 0).Correct pairedRoute := by
  refine ⟨_, rfl, by decide, by decide, fun correct => ?_⟩
  exact (correct.1 50 none (by decide)).1 (by decide) rfl

end Selection

end TraceGate
