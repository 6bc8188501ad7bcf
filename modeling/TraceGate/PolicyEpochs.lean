import Mathlib.Logic.Function.Basic
import TraceGate.PolicyChain
import TraceGate.Runs

/-!
# Timeouts and the engine's epoch

All plugins of an engine run under one epoch counter. A call's store is created
with a deadline one epoch after the current one, and a guest that is running when
the counter reaches its deadline traps. The only thing that moves the counter is
a call that exceeds its timeout. Calls of any requests, on any routes, start,
finish and time out in any order.

Each call has a behaviour of its own: what it would do if it were alone. Assumed
of Wasmtime is only what is said above of stores, deadlines and traps; the text of
a trap and the time it takes are parameters.
-/

namespace TraceGate.Policy.Epochs

variable {Component : Type}

/-- What a call does by itself: it returns a decision within its limits, it fails
within its timeout, or it does not end before its timeout. -/
inductive Behaviour where
  | decides (decision : RequestPolicyDecision) (elapsed : Duration)
  | fails (err : PolicyError) (elapsed : Duration)
  | overruns

structure Guest (Component : Type) where
  plugin : LoadedPlugin Component
  routeId : String
  behaviour : Behaviour

/-- What the call is reported with when nothing interferes, if that is a decision. -/
def Guest.report (http : HttpCrate) (guest : Guest Component) :
    Option (NormalizedDecision × PolicyDecisionRecord) :=
  match guest.behaviour with
  | .decides decision elapsed =>
      (settle http guest.plugin guest.routeId (.returned (.ok decision) elapsed)).toOption
  | .fails _ _ => none
  | .overruns => none

/-- A running call has its deadline, and knows how many timeouts there were since
it started. -/
inductive Phase where
  | idle
  | running (deadline timeouts : Nat)
  | reported (outcome : TaskOutcome)

structure State where
  epoch : Nat
  calls : Nat → Phase

/-- The text of a trap, and the time the trapped call took. -/
structure Trap where
  reason : String
  elapsed : Duration

inductive Event where
  | start (call : Nat)
  | finish (call : Nat) (trap : Trap)
  | timeout (call : Nat)

def Phase.observeTimeout : Phase → Phase
  | .idle => .idle
  | .running deadline timeouts => .running deadline (timeouts + 1)
  | .reported outcome => .reported outcome

/-- The guest's own result, unless the epoch has reached its deadline. -/
def outcomeOf (trap : Trap) (guest : Guest Component) (epoch deadline : Nat) :
    Option TaskOutcome :=
  if deadline ≤ epoch then
    some (.returned (.error (.invocation guest.plugin.config.id trap.reason)) trap.elapsed)
  else
    match guest.behaviour with
    | .decides decision elapsed => some (.returned (.ok decision) elapsed)
    | .fails err elapsed => some (.returned (.error err) elapsed)
    | .overruns => none

/-- One event of the calls. `increment_epoch` is seen by every running call, not only by the one
that timed out. -/
def step (guests : Nat → Guest Component) (state : State) : Event → Option State
  | .start call =>
      match state.calls call with
      | .idle =>
          some
            { state with calls := Function.update state.calls call (.running (state.epoch + 1) 0) }
      | _ => none
  | .finish call trap =>
      match state.calls call with
      | .running deadline _ =>
          (outcomeOf trap (guests call) state.epoch deadline).map fun outcome =>
            { state with calls := Function.update state.calls call (.reported outcome) }
      | _ => none
  | .timeout call =>
      match state.calls call, (guests call).behaviour with
      | .running _ _, .overruns =>
          let others := fun other => (state.calls other).observeTimeout
          some ⟨state.epoch + 1, Function.update others call (.reported .timedOut)⟩
      | _, _ => none

def start : State := ⟨0, fun _ => .idle⟩

/-- A call that by itself returns a decision, once reported, is reported with it. -/
def IsolatedCall (http : HttpCrate) (guest : Guest Component) (phase : Phase) : Prop :=
  ∀ report outcome, guest.report http = some report → phase = .reported outcome →
    settle http guest.plugin guest.routeId outcome = .ok report

def Isolated (http : HttpCrate) (guests : Nat → Guest Component) (state : State) : Prop :=
  ∀ call, IsolatedCall http (guests call) (state.calls call)

/-- A call that by itself returns a decision finishes without a timeout of another
call since it started. -/
def Undisturbed (http : HttpCrate) (guests : Nat → Guest Component) (state : State)
    (event : Event) : Prop :=
  match event with
  | .finish call _ =>
      match state.calls call with
      | .running _ timeouts => ((guests call).report http).isSome = true → timeouts = 0
      | _ => True
  | _ => True

instance (http : HttpCrate) (guests : Nat → Guest Component) (state : State) (event : Event) :
    Decidable (Undisturbed http guests state event) := by
  unfold Undisturbed
  split
  · split <;> infer_instance
  · infer_instance

/-- A deadline is one epoch after the start, and the epoch has counted the timeouts
since. -/
def Counted (epoch : Nat) (phase : Phase) : Prop :=
  ∀ deadline timeouts, phase = .running deadline timeouts → deadline + timeouts = epoch + 1

def Inv (state : State) : Prop := ∀ call, Counted state.epoch (state.calls call)

/-- Replacing one call's phase by a counted one keeps all of them counted. -/
theorem counted_update {epoch : Nat} {calls : Nat → Phase}
    (inv : ∀ call, Counted epoch (calls call))
    (call : Nat) {phase : Phase} (counted : Counted epoch phase) :
    ∀ other, Counted epoch (Function.update calls call phase other) :=
  (Function.forall_update_iff calls fun _ phase => Counted epoch phase).mpr
    ⟨counted, fun other _ => inv other⟩

/-- A timeout raises the epoch and the number of timeouts a running call has seen, both by
one. -/
theorem counted_observeTimeout {epoch : Nat} {phase : Phase} (counted : Counted epoch phase) :
    Counted (epoch + 1) phase.observeTimeout := by
  cases phase with
  | idle => simp [Counted, Phase.observeTimeout]
  | reported outcome => simp [Counted, Phase.observeTimeout]
  | running deadline timeouts =>
    rintro _ _ ⟨⟩
    have before := counted deadline timeouts rfl
    omega

/-- A call whose guest ended with an error does not settle into a decision. -/
theorem settle_error (http : HttpCrate) (plugin : LoadedPlugin Component) (routeId : String)
    (err : PolicyError) (elapsed : Duration)
    (report : NormalizedDecision × PolicyDecisionRecord) :
    settle http plugin routeId (.returned (.error err) elapsed) ≠ .ok report := by
  simp [settle, LoadedPlugin.call, Except.bind]

/-- A finishing call is reported with its own decision exactly when there was no timeout since
it started.

The count of the timeouts makes a reached deadline the same as a timeout since the start. -/
theorem isolatedCall_finish_iff (http : HttpCrate) (trap : Trap) (guest : Guest Component)
    (epoch deadline timeouts : Nat) (outcome : TaskOutcome)
    (counted : deadline + timeouts = epoch + 1)
    (finished : outcomeOf trap guest epoch deadline = some outcome) :
    IsolatedCall http guest (.reported outcome) ↔
      ((guest.report http).isSome = true → timeouts = 0) := by
  cases alone : guest.report http with
  | none => simp [IsolatedCall, alone]
  | some report =>
    have decides : ∃ decision elapsed, guest.behaviour = .decides decision elapsed ∧
        settle http guest.plugin guest.routeId (.returned (.ok decision) elapsed) =
          .ok report := by
      cases behaviour : guest.behaviour with
      | fails err elapsed => simp [Guest.report, behaviour] at alone
      | overruns => simp [Guest.report, behaviour] at alone
      | decides decision elapsed =>
        refine ⟨decision, elapsed, rfl, ?_⟩
        cases settled : settle http guest.plugin guest.routeId
            (.returned (.ok decision) elapsed) with
        | error record => simp [Guest.report, behaviour, settled, Except.toOption] at alone
        | ok found =>
          simp only [Guest.report, behaviour, settled, Except.toOption,
            Option.some.injEq] at alone
          rw [alone]
    obtain ⟨decision, elapsed, behaviour, settled⟩ := decides
    by_cases reached : deadline ≤ epoch
    · simp only [outcomeOf, reached, if_true, Option.some.injEq] at finished
      subst finished
      have disturbed : timeouts ≠ 0 := by omega
      simp only [Option.isSome_some, true_implies, disturbed, iff_false]
      exact fun isolated => settle_error http _ _ _ _ _ (isolated report _ alone rfl)
    · simp only [outcomeOf, reached, if_false, behaviour, Option.some.injEq] at finished
      subst finished
      have undisturbed : timeouts = 0 := by omega
      simp only [Option.isSome_some, undisturbed, implies_true, iff_true]
      rintro other _ same ⟨⟩
      rw [settled, Option.some.inj (alone.symm.trans same)]

/-- A call that is not reported is isolated so far. -/
theorem isolatedCall_of_not_reported (http : HttpCrate) (guest : Guest Component)
    (phase : Phase) (pending : ∀ outcome, phase ≠ .reported outcome) :
    IsolatedCall http guest phase :=
  fun _ outcome _ reported => absurd reported (pending outcome)

/-- Reporting a call that was not reported: all calls are isolated after it if the others were
and this one is. -/
theorem isolated_update_iff (http : HttpCrate) (guests : Nat → Guest Component) (state : State)
    (call : Nat) (phase : Phase) (pending : ∀ outcome, state.calls call ≠ .reported outcome) :
    (∀ other, IsolatedCall http (guests other) (Function.update state.calls call phase other)) ↔
      Isolated http guests state ∧ IsolatedCall http (guests call) phase := by
  rw [Function.forall_update_iff state.calls
    (fun other phase => IsolatedCall http (guests other) phase)]
  constructor
  · rintro ⟨reported, others⟩
    refine ⟨fun other => ?_, reported⟩
    by_cases same : other = call
    · subst same
      exact isolatedCall_of_not_reported http _ _ pending
    · exact others other same
  · rintro ⟨isolated, reported⟩
    exact ⟨reported, fun other _ => isolated other⟩

/-- Seeing a timeout reports no call, so it changes nothing about whether a call is isolated. -/
theorem isolatedCall_observeTimeout_iff (http : HttpCrate) (guest : Guest Component)
    (phase : Phase) : IsolatedCall http guest phase.observeTimeout ↔
      IsolatedCall http guest phase := by
  cases phase with
  | idle => rfl
  | reported outcome => rfl
  | running deadline timeouts =>
    constructor <;> intro _ <;>
      exact isolatedCall_of_not_reported http _ _ (by simp [Phase.observeTimeout])

/-- A step keeps the invariant, and the calls are isolated after it exactly if they were and the
step reports no disturbed call.

Only a finishing call can be disturbed, and `isolatedCall_finish_iff` says when. A call that
times out does so alone as well, and to the others its timeout is only one more that they have
seen. -/
theorem step_exact (http : HttpCrate) (guests : Nat → Guest Component) (state : State)
    (event : Event) (next : State) (inv : Inv state)
    (taken : step guests state event = some next) :
    Inv next ∧ (Isolated http guests next ↔
      Isolated http guests state ∧ Undisturbed http guests state event) := by
  cases event with
  | start call =>
    cases phase : state.calls call with
    | running deadline timeouts => simp [step, phase] at taken
    | reported outcome => simp [step, phase] at taken
    | idle =>
      simp only [step, phase, Option.some.injEq] at taken
      subst taken
      refine ⟨counted_update inv call ?_, ?_⟩
      · rintro _ _ ⟨⟩
        rfl
      · rw [Isolated, isolated_update_iff http guests state call _ (by simp [phase])]
        have started : IsolatedCall http (guests call) (.running (state.epoch + 1) 0) :=
          isolatedCall_of_not_reported http _ _ (by simp)
        simp [Undisturbed, started]
  | finish call trap =>
    cases phase : state.calls call with
    | idle => simp [step, phase] at taken
    | reported outcome => simp [step, phase] at taken
    | running deadline timeouts =>
      simp only [step, phase, Option.map_eq_some_iff] at taken
      obtain ⟨outcome, finished, rfl⟩ := taken
      refine ⟨counted_update inv call (by simp [Counted]), ?_⟩
      · rw [Isolated, isolated_update_iff http guests state call _ (by simp [phase]),
          isolatedCall_finish_iff http trap (guests call) state.epoch deadline timeouts outcome
            (inv call deadline timeouts phase) finished]
        simp only [Undisturbed, phase]
  | timeout call =>
    cases phase : state.calls call with
    | idle => simp [step, phase] at taken
    | reported outcome => simp [step, phase] at taken
    | running deadline timeouts =>
      cases behaviour : (guests call).behaviour with
      | decides decision elapsed => simp [step, phase, behaviour] at taken
      | fails err elapsed => simp [step, phase, behaviour] at taken
      | overruns =>
        simp only [step, phase, behaviour, Option.some.injEq] at taken
        subst taken
        refine ⟨counted_update (fun other => counted_observeTimeout (inv other)) call
          (by simp [Counted]), ?_⟩
        · have silent : IsolatedCall http (guests call) (.reported .timedOut) := by
            intro report outcome alone
            simp [Guest.report, behaviour] at alone
          rw [Isolated, isolated_update_iff http guests
            ⟨state.epoch, fun other => (state.calls other).observeTimeout⟩ call _
            (by simp [phase, Phase.observeTimeout])]
          simp [Isolated, isolatedCall_observeTimeout_iff, silent, Undisturbed]

/-- Every call is reported with the decision it returns by itself, exactly in the
runs in which no such call finishes after another's timeout. -/
theorem isolated_iff_undisturbed (http : HttpCrate) (guests : Nat → Guest Component)
    (events : List Event) (final : State)
    (completed : Runs.run (step guests) start events = some final) :
    Isolated http guests final ↔
      Runs.Guarded (step guests) (Undisturbed http guests) start events := by
  have initially : Isolated http guests start :=
    fun call => isolatedCall_of_not_reported http _ _ (by simp [start])
  exact Runs.run_keeps_iff_guarded (step guests) (Undisturbed http guests) Inv
    (Isolated http guests) (fun state event next => step_exact http guests state event next)
    start final events (by simp [Inv, Counted, start]) initially completed

/-- The first call overruns; every other allows. -/
def mixedGuests : Nat → Guest Unit
  | 0 => ⟨⟨guardConfig, ()⟩, "orders", .overruns⟩
  | _ => ⟨⟨guardConfig, ()⟩, "orders", .decides ⟨true, none, [], [], []⟩ 1⟩

/-- Calls one after another do not disturb each other: the second starts after the timeout of
the first. -/
theorem isolated_when_sequential : ∃ final,
    Runs.run (step mixedGuests) start
        [.start 0, .timeout 0, .start 1, .finish 1 ⟨"interrupt", 5⟩] = some final ∧
      Isolated permissiveHttp mixedGuests final :=
  ⟨_, rfl, (isolated_iff_undisturbed permissiveHttp mixedGuests
    [.start 0, .timeout 0, .start 1, .finish 1 ⟨"interrupt", 5⟩] _ rfl).mpr (by decide)⟩

/-- A call that runs while another times out is reported as an error. -/
theorem timeout_disturbs_running_call : ∃ final,
    Runs.run (step mixedGuests) start
        [.start 0, .start 1, .timeout 0, .finish 1 ⟨"interrupt", 5⟩] = some final ∧
      ¬ Isolated permissiveHttp mixedGuests final := by
  refine ⟨_, rfl, fun isolated => ?_⟩
  exact settle_error permissiveHttp _ _ _ _ _ (isolated 1 _ _ rfl rfl)

end TraceGate.Policy.Epochs
