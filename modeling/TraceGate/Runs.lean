import Mathlib.Tactic.Common

/-!
# Finite runs of a partial step function

A system is given by a step function that answers none when an event cannot
happen in a state. A run takes a list of events in order, so any interleaving of
several parties is one list. The laws at the end carry a property from one step
to a whole run: without a side condition, when every step taken meets a guard on
the state before it and the event it takes, and exactly when it does.
-/

namespace TraceGate.Runs

universe u v
variable {State : Type u} {Event : Type v}

/-- Take the events in order. A disabled event has no successor and ends the
whole run; it is never skipped. -/
def run (step : State → Event → Option State) : State → List Event → Option State
  | state, [] => some state
  | state, event :: rest =>
      match step state event with
      | none => none
      | some next => run step next rest

/-- Every event taken meets the guard in the state it is taken from. Nothing is
asked of events after a disabled one. -/
def Guarded (step : State → Event → Option State) (guard : State → Event → Prop) :
    State → List Event → Prop
  | _, [] => True
  | state, event :: rest =>
      guard state event ∧
        match step state event with
        | none => True
        | some next => Guarded step guard next rest

/-- A decidable guard is checked by executing the run. -/
instance decidableGuarded (step : State → Event → Option State)
    (guard : State → Event → Prop) [decided : ∀ state event, Decidable (guard state event)] :
    ∀ (state : State) (events : List Event), Decidable (Guarded step guard state events)
  | _, [] => isTrue trivial
  | state, event :: rest =>
      @instDecidableAnd _ _ (decided state event)
        (match step state event with
        | none => isTrue trivial
        | some next => decidableGuarded step guard next rest)

/-- A completed nonempty run is its first step followed by a completed rest. -/
theorem run_cons_iff (step : State → Event → Option State) (state final : State)
    (event : Event) (rest : List Event) :
    run step state (event :: rest) = some final ↔
      ∃ next, step state event = some next ∧ run step next rest = some final := by
  cases taken : step state event with
  | none => simp [run, taken]
  | some next => simp [run, taken]

/-- A guarded nonempty run has a guarded first step and, once that step is
taken, a guarded rest. -/
theorem guarded_cons_iff (step : State → Event → Option State)
    (guard : State → Event → Prop) (state next : State) (event : Event)
    (rest : List Event) (taken : step state event = some next) :
    Guarded step guard state (event :: rest) ↔
      guard state event ∧ Guarded step guard next rest := by
  simp [Guarded, taken]

/-- Meeting two guards along a run is meeting both. -/
theorem Guarded.and {step : State → Event → Option State} {first second : State → Event → Prop}
    {state : State} {events : List Event} (left : Guarded step first state events)
    (right : Guarded step second state events) :
    Guarded step (fun state event => first state event ∧ second state event) state events := by
  induction events generalizing state with
  | nil => trivial
  | cons event rest inductionHypothesis =>
    cases taken : step state event with
    | none =>
      simp only [Guarded, taken, and_true] at left right ⊢
      exact ⟨left, right⟩
    | some next =>
      rw [guarded_cons_iff _ _ _ next _ _ taken] at left right ⊢
      exact ⟨⟨left.1, right.1⟩, inductionHypothesis left.2 right.2⟩

/-- A property that every step preserves holds after every run.

By induction on the events, for every state to start from. -/
theorem run_invariant (step : State → Event → Option State) (invariant : State → Prop)
    (preserved : ∀ state event next, invariant state → step state event = some next →
      invariant next)
    (state final : State) (events : List Event) (initial : invariant state)
    (completed : run step state events = some final) : invariant final := by
  induction events generalizing state with
  | nil =>
    have same : state = final := Option.some.inj completed
    exact same ▸ initial
  | cons event rest inductionHypothesis =>
    obtain ⟨next, taken, following⟩ := (run_cons_iff step state final event rest).mp completed
    exact inductionHypothesis next (preserved state event next initial taken) following

/-- A run of two lists is the run of the first and then of the second. -/
theorem run_append (step : State → Event → Option State) (state : State)
    (first second : List Event) :
    run step state (first ++ second) =
      (run step state first).bind fun middle => run step middle second := by
  induction first generalizing state with
  | nil => rfl
  | cons event rest inductionHypothesis =>
    cases taken : step state event with
    | none => simp [run, taken]
    | some next => simp [run, taken, inductionHypothesis]

/-- A run that ends with a property it did not start with has a step that brings it
about. -/
theorem exists_entering_step (step : State → Event → Option State) (property : State → Prop)
    (state final : State) (events : List Event) (without : ¬ property state)
    (reached : property final) (completed : run step state events = some final) :
    ∃ before event after earlier later, events = before ++ event :: after ∧
      run step state before = some earlier ∧ step earlier event = some later ∧
      ¬ property earlier ∧ property later := by
  induction events generalizing state with
  | nil =>
    have same : state = final := Option.some.inj completed
    exact absurd (same ▸ reached) without
  | cons event rest inductionHypothesis =>
    obtain ⟨next, taken, following⟩ := (run_cons_iff step state final event rest).mp completed
    by_cases entered : property next
    · exact ⟨[], event, rest, state, next, rfl, rfl, taken, without, entered⟩
    · obtain ⟨before, entering, after, earlier, later, split, reached, steps⟩ :=
        inductionHypothesis next entered following
      refine ⟨event :: before, entering, after, earlier, later, by rw [split]; rfl, ?_, steps⟩
      exact (run_cons_iff step state earlier event before).mpr ⟨next, taken, reached⟩

/-- A property that every guarded step preserves holds after every guarded run.

By induction on the events, as for `run_invariant`, with the guard of each step at hand. -/
theorem guarded_invariant (step : State → Event → Option State)
    (guard : State → Event → Prop) (invariant : State → Prop)
    (preserved : ∀ state event next, invariant state → guard state event →
      step state event = some next → invariant next)
    (state final : State) (events : List Event) (initial : invariant state)
    (guarded : Guarded step guard state events)
    (completed : run step state events = some final) : invariant final := by
  induction events generalizing state with
  | nil =>
    have same : state = final := Option.some.inj completed
    exact same ▸ initial
  | cons event rest inductionHypothesis =>
    obtain ⟨next, taken, following⟩ := (run_cons_iff step state final event rest).mp completed
    obtain ⟨first, remaining⟩ :=
      (guarded_cons_iff step guard state next event rest taken).mp guarded
    exact inductionHypothesis next (preserved state event next initial first taken)
      remaining following

/-- Without a side condition every run is guarded. -/
theorem guarded_true (step : State → Event → Option State) (state : State)
    (events : List Event) : Guarded step (fun _ _ => True) state events := by
  induction events generalizing state with
  | nil => trivial
  | cons event rest inductionHypothesis =>
    refine ⟨trivial, ?_⟩
    cases step state event with
    | none => trivial
    | some next => exact inductionHypothesis next

/-- A guarded run whose guarded steps are all possible completes, with the property they
preserve. -/
theorem guarded_completes (step : State → Event → Option State)
    (guard : State → Event → Prop) (invariant : State → Prop)
    (possible : ∀ state event, invariant state → guard state event →
      ∃ next, step state event = some next ∧ invariant next)
    (state : State) (events : List Event) (initial : invariant state)
    (guarded : Guarded step guard state events) :
    ∃ final, run step state events = some final ∧ invariant final := by
  induction events generalizing state with
  | nil => exact ⟨state, rfl, initial⟩
  | cons event rest inductionHypothesis =>
    obtain ⟨next, taken, kept⟩ := possible state event initial guarded.1
    obtain ⟨_, remaining⟩ := (guarded_cons_iff step guard state next event rest taken).mp guarded
    obtain ⟨final, completed, holds⟩ := inductionHypothesis next kept remaining
    exact ⟨final, (run_cons_iff step state final event rest).mpr ⟨next, taken, completed⟩, holds⟩

/-- When each step keeps a property exactly if it meets a guard, a whole run keeps
it exactly if it is guarded. -/
theorem run_iff_guarded (step : State → Event → Option State)
    (guard : State → Event → Prop) (invariant property : State → Prop)
    (kept : ∀ state event next, invariant state → step state event = some next →
      invariant next ∧ (property next ↔ property state ∧ guard state event))
    (state final : State) (events : List Event) (initial : invariant state)
    (completed : run step state events = some final) :
    property final ↔ property state ∧ Guarded step guard state events := by
  induction events generalizing state with
  | nil =>
    have same : state = final := Option.some.inj completed
    simp [Guarded, same]
  | cons event rest inductionHypothesis =>
    obtain ⟨next, taken, following⟩ := (run_cons_iff step state final event rest).mp completed
    obtain ⟨invariantNext, exactly⟩ := kept state event next initial taken
    rw [inductionHypothesis next invariantNext following, exactly,
      guarded_cons_iff step guard state next event rest taken, and_assoc]

/-- From a state with the property, the runs that end with it are the guarded
ones. -/
theorem run_keeps_iff_guarded (step : State → Event → Option State)
    (guard : State → Event → Prop) (invariant property : State → Prop)
    (kept : ∀ state event next, invariant state → step state event = some next →
      invariant next ∧ (property next ↔ property state ∧ guard state event))
    (state final : State) (events : List Event) (initial : invariant state)
    (holds : property state) (completed : run step state events = some final) :
    property final ↔ Guarded step guard state events := by
  rw [run_iff_guarded step guard invariant property kept state final events initial completed,
    and_iff_right holds]

end TraceGate.Runs
