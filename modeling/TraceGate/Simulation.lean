import TraceGate.Runs

/-!
# Refinement, and what runs leave behind

A concrete system refines an abstract one, whose events may have several outcomes, through a
map of states when every concrete step is one of those outcomes. Then every run of the
concrete system is a run of the abstract one over the same events.

Steps may also leave labels behind, which depend on the state they are taken from. The laws
below relate the labels of a whole run to its states.
-/

namespace TraceGate.Runs

universe u v w x

variable {State : Type u} {Event : Type v} {Abstract : Type w} {Label : Type x}

/-- The labels a run leaves behind. -/
def trace (step : State → Event → Option State) (label : State → Event → List Label) :
    State → List Event → List Label
  | _, [] => []
  | state, event :: rest =>
      label state event ++
        match step state event with
        | none => []
        | some next => trace step label next rest

/-- A run of a system whose events may have several outcomes. -/
inductive Path (moves : Abstract → Event → Abstract → Prop) :
    Abstract → List Event → Abstract → Prop where
  | nil (state : Abstract) : Path moves state [] state
  | cons {state next final : Abstract} {event : Event} {rest : List Event}
      (taken : moves state event next) (following : Path moves next rest final) :
      Path moves state (event :: rest) final

/-- When every step is one of the outcomes its event may have on the abstract side, every run
is a run of the abstract system over the same events.

Proof: induction on the events. The invariant under which steps simulate is carried along,
so each step meets what its simulation asks for. -/
theorem run_refines (step : State → Event → Option State)
    (moves : Abstract → Event → Abstract → Prop) (guard : State → Event → Prop)
    (invariant : State → Prop) (read : State → Abstract)
    (refines : ∀ state event next, invariant state → guard state event →
      step state event = some next → invariant next ∧ moves (read state) event (read next))
    (state final : State) (events : List Event) (initial : invariant state)
    (guarded : Guarded step guard state events)
    (completed : run step state events = some final) :
    Path moves (read state) events (read final) := by
  induction events generalizing state with
  | nil =>
    obtain rfl := Option.some.inj completed
    exact Path.nil _
  | cons event rest inductionHypothesis =>
    obtain ⟨next, taken, following⟩ := (run_cons_iff step state final event rest).mp completed
    obtain ⟨first, remaining⟩ :=
      (guarded_cons_iff step guard state next event rest taken).mp guarded
    obtain ⟨kept, moved⟩ := refines state event next initial first taken
    exact Path.cons moved (inductionHypothesis next kept remaining following)

/-- A guard on the events alone holds along a run when it holds of each of them. -/
theorem guarded_of_forall (step : State → Event → Option State) (guard : Event → Prop)
    (events : List Event) (all : ∀ event ∈ events, guard event) (state : State) :
    Guarded step (fun _ event => guard event) state events := by
  induction events generalizing state with
  | nil => trivial
  | cons event rest inductionHypothesis =>
    obtain ⟨first, others⟩ := List.forall_mem_cons.mp all
    refine ⟨first, ?_⟩
    split
    · trivial
    · exact inductionHypothesis others _

/-- When every event has itself as its label, the labels of a completed run are its
events. -/
theorem trace_self (step : State → Event → Option State) (state final : State)
    (events : List Event) (completed : run step state events = some final) :
    trace step (fun _ event => [event]) state events = events := by
  induction events generalizing state with
  | nil => rfl
  | cons event rest inductionHypothesis =>
    obtain ⟨next, taken, following⟩ := (run_cons_iff step state final event rest).mp completed
    simp only [trace, taken, inductionHypothesis next following, List.singleton_append]

/-- An invariant between the state and what the run has left behind so far.

By induction on the events, for everything that was left behind before. -/
theorem traced_invariant (step : State → Event → Option State)
    (guard : State → Event → Prop) (label : State → Event → List Label)
    (invariant : List Label → State → Prop)
    (preserved : ∀ left state event next, invariant left state → guard state event →
      step state event = some next → invariant (left ++ label state event) next)
    (left : List Label) (state final : State) (events : List Event)
    (initial : invariant left state) (guarded : Guarded step guard state events)
    (completed : run step state events = some final) :
    invariant (left ++ trace step label state events) final := by
  induction events generalizing left state with
  | nil =>
    obtain rfl := Option.some.inj completed
    simpa [trace] using initial
  | cons event rest inductionHypothesis =>
    obtain ⟨next, taken, following⟩ := (run_cons_iff step state final event rest).mp completed
    obtain ⟨first, remaining⟩ :=
      (guarded_cons_iff step guard state next event rest taken).mp guarded
    have later := inductionHypothesis _ next (preserved left state event next initial first taken)
      remaining following
    simpa only [trace, taken, List.append_assoc] using later

/-- What every step takes in comes behind what is held, and what it lets out comes from the
front. Then a run lets out, and holds, what it held and took in, in that order. -/
theorem trace_conserves (step : State → Event → Option State)
    (taking leaving : State → Event → List Label) (holds : State → List Label)
    (conserves : ∀ state event next, step state event = some next →
      holds state ++ taking state event = leaving state event ++ holds next)
    (state final : State) (events : List Event)
    (completed : run step state events = some final) :
    holds state ++ trace step taking state events =
      trace step leaving state events ++ holds final := by
  induction events generalizing state with
  | nil =>
    obtain rfl := Option.some.inj completed
    simp [trace]
  | cons event rest inductionHypothesis =>
    obtain ⟨next, taken, following⟩ := (run_cons_iff step state final event rest).mp completed
    simp only [trace, taken, ← List.append_assoc, conserves state event next taken]
    rw [List.append_assoc, inductionHypothesis next following, List.append_assoc]

/-- A run whose steps leave nothing behind leaves nothing. -/
theorem trace_nil (step : State → Event → Option State) (state : State) (events : List Event) :
    trace step (fun _ _ => ([] : List Label)) state events = [] := by
  induction events generalizing state with
  | nil => rfl
  | cons event rest inductionHypothesis =>
    rw [trace]
    split
    · rfl
    · exact inductionHypothesis _

/-- Filtering what a run left behind is filtering what each step leaves. -/
theorem filter_trace (step : State → Event → Option State)
    (label : State → Event → List Label) (kept : Label → Bool) (state : State)
    (events : List Event) :
    (trace step label state events).filter kept =
      trace step (fun state event => (label state event).filter kept) state events := by
  induction events generalizing state with
  | nil => rfl
  | cons event rest inductionHypothesis =>
    simp only [trace, List.filter_append]
    congr 1
    split
    · rfl
    · exact inductionHypothesis _

/-- What a run leaves behind was left by one of its events. -/
theorem exists_of_mem_trace (step : State → Event → Option State)
    (label : State → Event → List Label) (state : State) (events : List Event) (item : Label)
    (left : item ∈ trace step label state events) :
    ∃ event ∈ events, ∃ before, item ∈ label before event := by
  induction events generalizing state with
  | nil => exact absurd left List.not_mem_nil
  | cons event rest inductionHypothesis =>
    rw [trace] at left
    rcases List.mem_append.mp left with now | later
    · exact ⟨event, List.mem_cons_self, state, now⟩
    · split at later
      · exact absurd later List.not_mem_nil
      · obtain ⟨source, listed, before, own⟩ := inductionHypothesis _ later
        exact ⟨source, List.mem_cons_of_mem _ listed, before, own⟩

/-- A part of the state that only grows has grown by what the run left behind. -/
theorem grown_by_trace (step : State → Event → Option State)
    (taking : State → Event → List Label) (holds : State → List Label)
    (grows : ∀ state event next, step state event = some next →
      holds next = holds state ++ taking state event)
    (state final : State) (events : List Event)
    (completed : run step state events = some final) :
    holds final = holds state ++ trace step taking state events := by
  have conserved := trace_conserves step taking (fun _ _ => []) holds
    (fun state event next taken => (grows state event next taken).symm) state final events
    completed
  rw [trace_nil, List.nil_append] at conserved
  exact conserved.symm

/-- Whatever such a part holds at the end of a run that it was empty at the start of was taken
in by one of its events. -/
theorem exists_of_grown (step : State → Event → Option State)
    (taking : State → Event → List Label) (holds : State → List Label)
    (grows : ∀ state event next, step state event = some next →
      holds next = holds state ++ taking state event)
    (state final : State) (events : List Event) (vacant : holds state = [])
    (completed : run step state events = some final) (item : Label) (held : item ∈ holds final) :
    ∃ event ∈ events, ∃ before, item ∈ taking before event := by
  rw [grown_by_trace step taking holds grows state final events completed, vacant,
    List.nil_append] at held
  exact exists_of_mem_trace step taking state events item held

/-- Steps that leave less leave less along a run. -/
theorem trace_sublist (step : State → Event → Option State)
    (fewer more : State → Event → List Label)
    (within : ∀ state event, (fewer state event).Sublist (more state event)) (state : State)
    (events : List Event) :
    (trace step fewer state events).Sublist (trace step more state events) := by
  induction events generalizing state with
  | nil => exact List.Sublist.refl _
  | cons event rest inductionHypothesis =>
    simp only [trace]
    refine (within state event).append ?_
    split
    · exact List.Sublist.refl _
    · exact inductionHypothesis _

/-- Labels that are stamped with a clock which never runs backwards come in the order of
their stamps. -/
theorem trace_increasing (step : State → Event → Option State)
    (label : State → Event → List Label) (stamp : Label → Nat) (clock : State → Nat)
    (invariant : State → Prop)
    (stamps : ∀ state event next, invariant state → step state event = some next →
      invariant next ∧ clock state ≤ clock next ∧
        ((label state event).map stamp).Pairwise (· < ·) ∧
        ∀ item ∈ label state event, clock state ≤ stamp item ∧ stamp item < clock next)
    (state final : State) (events : List Event) (initial : invariant state)
    (completed : run step state events = some final) :
    ((trace step label state events).map stamp).Pairwise (· < ·) ∧
      ∀ item ∈ trace step label state events, clock state ≤ stamp item := by
  induction events generalizing state with
  | nil => simp [trace]
  | cons event rest inductionHypothesis =>
    obtain ⟨next, taken, following⟩ := (run_cons_iff step state final event rest).mp completed
    obtain ⟨kept, forward, ordered, between⟩ := stamps state event next initial taken
    obtain ⟨laterOrdered, later⟩ := inductionHypothesis next kept following
    simp only [trace, taken, List.map_append, List.pairwise_append, List.mem_append,
      List.mem_map, forall_exists_index, and_imp, forall_apply_eq_imp_iff₂]
    refine ⟨⟨ordered, laterOrdered, fun first early second late => ?_⟩, ?_⟩
    · exact Nat.lt_of_lt_of_le (between first early).2 (later second late)
    · rintro item (early | late)
      · exact (between item early).1
      · exact Nat.le_trans forward (later item late)

end TraceGate.Runs
