import TraceGate.Health
import TraceGate.RouteCalls
import TraceGate.Simulation
import TraceGate.Telemetry

/-!
# Why an upstream is passed over

The accesses of `record_upstream_result` interleave: a failure counted by one request may
be cleared by another before the first enters the cooldown. Each access to the counters of
one upstream leaves a mark with the recording it belongs to. Whatever the interleaving, an
upstream is passed over only for cause: one of its failed results brought the failures since
they were last cleared to the threshold, and the cooldown that the recording of this result
then started still lasts and was not lifted.
-/

namespace TraceGate

variable {Component : Type}

/-- All counters of the upstreams are zero. -/
def GatewayState.Fresh (gateway : GatewayState Component) : Prop :=
  ∀ routeId runtime, gateway.routeRuntime routeId = some runtime →
    ∀ health ∈ runtime.upstreams, health = ⟨0, 0⟩

/-- A state that has just been built has all counters at zero, since every runtime in it is
new. -/
theorem GatewayState.fresh_of_new (wasm : Policy.Wasmtime Component) (config : AppConfig)
    (gateway : GatewayState Component) (new : GatewayState.new wasm config = .ok gateway) :
    gateway.Fresh := by
  intro routeId runtime found health member
  obtain ⟨route, _, _, rfl⟩ :=
    GatewayState.route_of_runtime wasm config gateway new routeId runtime found
  obtain ⟨_, _, rfl⟩ := List.mem_map.mp member
  rfl

namespace Health

/-- What an access to the counters of an upstream leaves behind: the recording it belongs to,
by its place among all recordings, and its time. -/
structure Mark where
  recording : Nat
  access : Access
  nowMs : Int
deriving DecidableEq

/-- The mark of an access on one upstream. -/
def marksOf (generation : Nat) (routeId : String) (index : Nat) (cause : Cause) (mark : Mark) :
    List Mark :=
  if cause.At generation routeId index then [mark] else []

/-- The marks of an event on one upstream. A result that is recorded makes the first access of
a new recording, and later ones are those of a recording that has begun. -/
def marks (externals : Externals) (generation : Nat) (routeId : String) (index : Nat)
    (state : State Component) : Event Component → List Mark
  | .reload _ => []
  | .finish entered request remoteAddr around =>
      match state.generations[entered]?.bind fun gateway =>
        recorded externals gateway entered request remoteAddr around with
      | none => []
      | some (cause, failed) =>
          marksOf generation routeId index cause
            ⟨state.recordings.length, (recordUpstreamResult failed).1, around.clock.nowMs⟩
  | .access position nowMs =>
      match state.recordings[position]? with
      | some (cause, access :: _) =>
          marksOf generation routeId index cause ⟨position, access, nowMs⟩
      | _ => []

/-- The failures counted since they were last cleared. -/
def sinceCleared (left : List Mark) : Nat :=
  (left.reverse.takeWhile fun mark => decide (mark.access ≠ .clearFailures)).countP
    fun mark => decide (mark.access = .countFailure)

/-- A recording has counted a failure that brought the count to the threshold, and has done
nothing else. -/
def Due (threshold recording : Nat) (left : List Mark) : Prop :=
  ∃ before failure after, left = before ++ failure :: after ∧
    failure.recording = recording ∧ failure.access = .countFailure ∧
    threshold ≤ sinceCleared (before ++ [failure]) ∧
    ∀ mark ∈ before ++ after, mark.recording ≠ recording

/-- The cooldown until this time was started by a recording whose own failure had reached the
threshold, and neither another one nor a success came after it. -/
def Caused (runtime : RouteRuntime) (left : List Mark) (unhealthyUntilMs : Int) : Prop :=
  ∃ before cooldown after, left = before ++ cooldown :: after ∧
    cooldown.access = .enterCooldown ∧
    Due runtime.failureThreshold cooldown.recording before ∧
    (∀ mark ∈ after, mark.access = .countFailure ∨ mark.access = .clearFailures) ∧
    unhealthyUntilMs = saturateI64 (cooldown.nowMs + runtime.cooldownMs)

section Marks

variable (left : List Mark) (mark : Mark)

/-- Every access but one that clears the failures leaves those counted before, and adds one if
it counts one. -/
theorem sinceCleared_append (other : mark.access ≠ .clearFailures) :
    sinceCleared (left ++ [mark]) =
      sinceCleared left + if mark.access = .countFailure then 1 else 0 := by
  simp [sinceCleared, other, List.countP_cons]

/-- Clearing leaves no failure counted. -/
theorem sinceCleared_cleared (clears : mark.access = .clearFailures) :
    sinceCleared (left ++ [mark]) = 0 := by
  simp [sinceCleared, clears]

/-- A failure is due as long as its recording does nothing further, whatever others do. -/
theorem Due.append {threshold recording : Nat} {left : List Mark}
    (due : Due threshold recording left) (more : List Mark)
    (others : ∀ mark ∈ more, mark.recording ≠ recording) :
    Due threshold recording (left ++ more) := by
  obtain ⟨before, failure, after, rfl, own, counts, reached, alone⟩ := due
  refine ⟨before, failure, after ++ more, by simp, own, counts, reached, ?_⟩
  rw [← List.append_assoc]
  exact List.forall_mem_append.mpr ⟨alone, others⟩

/-- Failures that are counted or cleared leave a cooldown as it was: they neither start another
one nor lift it. -/
theorem Caused.append {runtime : RouteRuntime} {left : List Mark} {untilMs : Int}
    (caused : Caused runtime left untilMs) (mark : Mark)
    (quiet : mark.access = .countFailure ∨ mark.access = .clearFailures) :
    Caused runtime (left ++ [mark]) untilMs := by
  obtain ⟨before, cooldown, after, rfl, cools, due, others, same⟩ := caused
  exact ⟨before, cooldown, after ++ [mark], by simp, cools, due,
    List.forall_mem_append.mpr ⟨others, List.forall_mem_singleton.mpr quiet⟩, same⟩

end Marks

/-- The runtime of a route in one generation. -/
def State.runtimeAt (state : State Component) (generation : Nat) (routeId : String) :
    Option RouteRuntime :=
  state.generations[generation]?.bind fun gateway => gateway.routeRuntime routeId

/-- An access changes the counters it is for in the runtime they belong to, and nothing else of
any generation. -/
theorem runtimeAt_perform (state next : State Component) (cause : Cause) (nowMs : Int)
    (access : Access) (rest left : List Access)
    (performed : state.perform cause nowMs access rest = some (next, left)) :
    ∃ runtime health,
      state.runtimeAt cause.generation cause.route.id = some runtime ∧
      runtime.upstreams[cause.index]? = some health ∧
      left = access.followedBy runtime health rest ∧
      next.recordings = state.recordings ∧
      next.generations.length = state.generations.length ∧
      ∀ generation routeId, next.runtimeAt generation routeId =
        if cause.generation = generation ∧ cause.route.id = routeId then
          some { runtime with
            upstreams := runtime.upstreams.set cause.index (access.apply runtime nowMs health) }
        else state.runtimeAt generation routeId := by
  obtain ⟨⟨gateway, runtime, health⟩, found, same⟩ := Option.map_eq_some_iff.mp performed
  obtain ⟨rfl, rfl⟩ := Prod.mk.inj same
  obtain ⟨generationFound, runtimeFound, healthFound⟩ :=
    (target_eq_some state cause gateway runtime health).mp found
  obtain ⟨inGenerations, sameGateway⟩ := List.getElem?_eq_some_iff.mp generationFound
  refine ⟨runtime, health, by simp [State.runtimeAt, generationFound, runtimeFound], healthFound,
    rfl, rfl, List.length_set .., ?_⟩
  intro generation routeId
  by_cases sameGeneration : cause.generation = generation
  · subst sameGeneration
    by_cases sameRoute : cause.route.id = routeId
    · subst sameRoute
      simp [State.runtimeAt, Map.insert, inGenerations]
    · simp [State.runtimeAt, Map.insert, inGenerations, sameGateway, sameRoute,
        Ne.symm sameRoute]
  · simp [State.runtimeAt, sameGeneration]

/-- An access is to a generation that exists, before and after it. -/
theorem born_of_perform {state next : State Component} {cause : Cause} {nowMs : Int}
    {access : Access} {rest further : List Access}
    (performed : state.perform cause nowMs access rest = some (next, further)) :
    cause.generation < state.generations.length ∧
      cause.generation < next.generations.length := by
  obtain ⟨runtime, _, found, _, _, _, length, _⟩ :=
    runtimeAt_perform state next cause nowMs access rest further performed
  obtain ⟨gateway, gatewayFound, _⟩ := Option.bind_eq_some_iff.mp found
  rw [length, and_self]
  exact (List.getElem?_eq_some_iff.mp gatewayFound).1

/-- The limits of a runtime stay, whatever counters of it change. -/
theorem limits_perform (state next : State Component) (cause : Cause) (nowMs : Int)
    (access : Access) (rest further : List Access)
    (performed : state.perform cause nowMs access rest = some (next, further))
    (generation : Nat) (routeId : String) (later : RouteRuntime)
    (found : next.runtimeAt generation routeId = some later) :
    ∃ earlier, state.runtimeAt generation routeId = some earlier ∧
      later.failureThreshold = earlier.failureThreshold := by
  obtain ⟨runtime, _, before, _, _, _, _, runtimes⟩ :=
    runtimeAt_perform state next cause nowMs access rest further performed
  rw [runtimes] at found
  split at found
  next same =>
    obtain ⟨rfl, rfl⟩ := same
    obtain rfl := Option.some.inj found
    exact ⟨runtime, before, rfl⟩
  next => exact ⟨later, found, rfl⟩

/-! ## The counters and their marks -/

/-- The counters of an upstream are those its marks stand for. -/
def Counted (generation : Nat) (routeId : String) (index : Nat) (left : List Mark)
    (state : State Component) : Prop :=
  ∀ runtime health, state.runtimeAt generation routeId = some runtime →
    runtime.upstreams[index]? = some health →
    health.failures = sinceCleared left % 2 ^ 32 ∧
      (health.unhealthyUntilMs = 0 ∨ Caused runtime left health.unhealthyUntilMs)

/-- The counters after an access are those its mark stands for, if a cooldown it starts was
due to its own recording. -/
theorem counted_apply (runtime : RouteRuntime) (health : UpstreamRuntime) (mark : Mark)
    (left : List Mark) (counted : health.failures = sinceCleared left % 2 ^ 32)
    (caused : health.unhealthyUntilMs = 0 ∨ Caused runtime left health.unhealthyUntilMs)
    (due : mark.access = .enterCooldown → Due runtime.failureThreshold mark.recording left) :
    (mark.access.apply runtime mark.nowMs health).failures =
        sinceCleared (left ++ [mark]) % 2 ^ 32 ∧
      ((mark.access.apply runtime mark.nowMs health).unhealthyUntilMs = 0 ∨
        Caused runtime (left ++ [mark])
          (mark.access.apply runtime mark.nowMs health).unhealthyUntilMs) := by
  cases kind : mark.access with
  | countFailure =>
    refine ⟨?_, caused.imp_right fun caused => caused.append mark (Or.inl kind)⟩
    rw [sinceCleared_append left mark (by simp [kind]), if_pos kind]
    simp only [Access.apply, counted]
    omega
  | enterCooldown =>
    refine ⟨?_, Or.inr ⟨left, mark, [], rfl, kind, due kind, by simp, rfl⟩⟩
    rw [sinceCleared_append left mark (by simp [kind]), if_neg (by simp [kind]), Nat.add_zero]
    exact counted
  | clearFailures =>
    refine ⟨?_, caused.imp_right fun caused => caused.append mark (Or.inr kind)⟩
    rw [sinceCleared_cleared left mark kind]
    rfl
  | clearCooldown =>
    refine ⟨?_, Or.inl rfl⟩
    rw [sinceCleared_append left mark (by simp [kind]), if_neg (by simp [kind]), Nat.add_zero]
    exact counted

/-- An access keeps the counters and the marks of every upstream in step.

An access to another upstream leaves no mark here and no counter. One to this upstream is taken
case by case, and a cooldown needs its recording's failure to be due. -/
theorem Counted.perform {generation : Nat} {routeId : String} {index : Nat} {left : List Mark}
    {state next : State Component} (counted : Counted generation routeId index left state)
    (cause : Cause) (recording : Nat) (nowMs : Int) (access : Access) (rest further : List Access)
    (performed : state.perform cause nowMs access rest = some (next, further))
    (due : ∀ runtime, state.runtimeAt generation routeId = some runtime →
      cause.At generation routeId index → access = .enterCooldown →
      Due runtime.failureThreshold recording left) :
    Counted generation routeId index
      (left ++ marksOf generation routeId index cause ⟨recording, access, nowMs⟩) next := by
  obtain ⟨runtime, health, found, healthFound, _, _, _, runtimes⟩ :=
    runtimeAt_perform state next cause nowMs access rest further performed
  intro later changed laterFound changedFound
  rw [runtimes] at laterFound
  by_cases same : cause.generation = generation ∧ cause.route.id = routeId
  · obtain ⟨rfl, rfl⟩ := same
    rw [if_pos ⟨rfl, rfl⟩] at laterFound
    obtain rfl := Option.some.inj laterFound
    by_cases sameIndex : cause.index = index
    · subst sameIndex
      have located : cause.At cause.generation cause.route.id cause.index := ⟨rfl, rfl, rfl⟩
      simp only [List.getElem?_set_self (List.getElem?_eq_some_iff.mp healthFound).1,
        Option.some.injEq] at changedFound
      subst changedFound
      obtain ⟨failures, caused⟩ := counted runtime health found healthFound
      rw [marksOf, if_pos located]
      exact counted_apply runtime health ⟨recording, access, nowMs⟩ left failures caused
        (due runtime found located)
    · have elsewhere : ¬cause.At cause.generation cause.route.id index := fun located =>
        sameIndex located.2.2
      simp only [List.getElem?_set_ne sameIndex] at changedFound
      rw [marksOf, if_neg elsewhere, List.append_nil]
      exact counted runtime changed found changedFound
  · have elsewhere : ¬cause.At generation routeId index := fun located =>
      same ⟨located.1, located.2.1⟩
    rw [if_neg same] at laterFound
    rw [marksOf, if_neg elsewhere, List.append_nil]
    exact counted later changed laterFound changedFound

/-! ## Recordings under way -/

/-- What a recording may still have to do. A cooldown is entered first or not at all. -/
def Waiting (accesses : List Access) : Prop :=
  accesses = [] ∨ accesses = [.enterCooldown, .clearFailures] ∨ accesses = [.clearFailures] ∨
    accesses = [.clearCooldown]

/-- After the first access of a recording: a cooldown waits exactly when the failure just
counted reached the threshold. -/
theorem followedBy_first (runtime : RouteRuntime) (health : UpstreamRuntime) (failed : Bool) :
    Waiting ((recordUpstreamResult failed).1.followedBy runtime health
        (recordUpstreamResult failed).2) ∧
      ∀ rest, (recordUpstreamResult failed).1.followedBy runtime health
          (recordUpstreamResult failed).2 = .enterCooldown :: rest →
        (recordUpstreamResult failed).1 = .countFailure ∧
          runtime.failureThreshold ≤ (health.failures + 1) % 2 ^ 32 := by
  cases failed with
  | true =>
    by_cases reached : runtime.failureThreshold ≤ (health.failures + 1) % 2 ^ 32
    · exact ⟨Or.inr (Or.inl (if_pos reached)), fun _ _ => ⟨rfl, reached⟩⟩
    · have nothing : (recordUpstreamResult true).1.followedBy runtime health
          (recordUpstreamResult true).2 = [] := if_neg reached
      exact ⟨Or.inl nothing, fun _ cooling => absurd (nothing.symm.trans cooling) (by simp)⟩
  | false => simp [recordUpstreamResult, Access.followedBy, Waiting]

/-- After a later access of a recording no cooldown waits any more: only the first access of a
recording is followed by one. -/
theorem followedBy_later (runtime : RouteRuntime) (health : UpstreamRuntime) (access : Access)
    (rest : List Access) (waiting : Waiting (access :: rest)) :
    Waiting (access.followedBy runtime health rest) ∧
      ∀ more, access.followedBy runtime health rest ≠ .enterCooldown :: more := by
  rcases waiting with none | cooling | clearing | lifting
  · exact absurd none (by simp)
  · obtain ⟨rfl, rfl⟩ := List.cons.inj cooling
    exact ⟨Or.inr (Or.inr (Or.inl rfl)), by simp [Access.followedBy]⟩
  · obtain ⟨rfl, rfl⟩ := List.cons.inj clearing
    exact ⟨Or.inl rfl, by simp [Access.followedBy]⟩
  · obtain ⟨rfl, rfl⟩ := List.cons.inj lifting
    exact ⟨Or.inl rfl, by simp [Access.followedBy]⟩

/-- What the marks on an upstream say about its counters, and about the recordings of it that
have still to start a cooldown. Before its generation exists there are neither. -/
structure Accounted (generation : Nat) (routeId : String) (index : Nat) (left : List Mark)
    (state : State Component) : Prop where
  unborn : state.generations.length ≤ generation →
    left = [] ∧ ∀ recording ∈ state.recordings, ¬recording.1.At generation routeId index
  known : ∀ mark ∈ left, mark.recording < state.recordings.length
  counted : Counted generation routeId index left state
  waiting : ∀ recording ∈ state.recordings, Waiting recording.2
  due : ∀ runtime, state.runtimeAt generation routeId = some runtime →
    ∀ (position : Nat) (cause : Cause) (rest : List Access),
      state.recordings[position]? = some (cause, .enterCooldown :: rest) →
      cause.At generation routeId index → Due runtime.failureThreshold position left

/-- A mark of the upstream is of its own recording, since an access leaves at most one mark. -/
theorem recording_of_mem_marksOf {generation : Nat} {routeId : String} {index : Nat}
    {cause : Cause} {mark own : Mark} (member : mark ∈ marksOf generation routeId index cause own) :
    mark = own := by
  unfold marksOf at member
  split at member
  · exact List.mem_singleton.mp member
  · exact absurd member List.not_mem_nil

namespace Accounted

variable {generation : Nat} {routeId : String} {index : Nat} {left : List Mark}
  {state next : State Component}

/-- A new generation starts with all counters at zero; the others keep theirs.

If the account is that of the new generation, nothing has been recorded for it yet. -/
theorem reload (accounted : Accounted generation routeId index left state)
    (gateway : GatewayState Component) (fresh : gateway.Fresh) :
    Accounted generation routeId index left
      { state with generations := state.generations ++ [gateway] } := by
  have old : ∀ runtime, generation < state.generations.length →
      State.runtimeAt { state with generations := state.generations ++ [gateway] } generation
        routeId = some runtime → state.runtimeAt generation routeId = some runtime := by
    intro runtime born found
    simpa only [State.runtimeAt, List.getElem?_append_left born] using found
  refine ⟨?_, accounted.known, ?_, accounted.waiting, ?_⟩
  · intro unborn
    rw [List.length_append] at unborn
    exact accounted.unborn (by omega)
  · intro runtime health found healthFound
    by_cases born : generation < state.generations.length
    · exact accounted.counted runtime health (old runtime born found) healthFound
    · obtain ⟨rfl, _⟩ := accounted.unborn (Nat.le_of_not_lt born)
      simp only [State.runtimeAt, List.getElem?_append_right (Nat.le_of_not_lt born),
        Option.bind_eq_some_iff] at found
      obtain ⟨built, builtFound, runtimeFound⟩ := found
      obtain rfl := List.mem_singleton.mp (List.mem_of_getElem? builtFound)
      obtain rfl := fresh routeId runtime runtimeFound health (List.mem_of_getElem? healthFound)
      exact ⟨rfl, Or.inl rfl⟩
  · intro runtime found position cause rest recorded located
    by_cases born : generation < state.generations.length
    · exact accounted.due runtime (old runtime born found) position cause rest recorded located
    · exact absurd located
        ((accounted.unborn (Nat.le_of_not_lt born)).2 _ (List.mem_of_getElem? recorded))

/-- What an access of a recording leaves of the account, once it is known which recordings
there are then.

The recording whose access it was is told apart by its position: a cooldown that waits in
another one stays due, and of one that waits in this one it must be said anew. -/
theorem perform (accounted : Accounted generation routeId index left state) (cause : Cause)
    (recording : Nat) (nowMs : Int) (access : Access) (rest further : List Access)
    (performed : state.perform cause nowMs access rest = some (next, further))
    (recordings : List (Cause × List Access))
    (longer : state.recordings.length ≤ recordings.length) (placed : recording < recordings.length)
    (own : recordings[recording]? = some (cause, further))
    (others : ∀ position, position ≠ recording → recordings[position]? =
      state.recordings[position]?)
    (waiting : Waiting further)
    (dueNow : ∀ runtime, state.runtimeAt generation routeId = some runtime →
      cause.At generation routeId index → access = .enterCooldown →
      Due runtime.failureThreshold recording left)
    (dueLater : ∀ runtime, state.runtimeAt generation routeId = some runtime →
      cause.At generation routeId index → ∀ more, further = .enterCooldown :: more →
      Due runtime.failureThreshold recording
        (left ++ marksOf generation routeId index cause ⟨recording, access, nowMs⟩)) :
    Accounted generation routeId index
      (left ++ marksOf generation routeId index cause ⟨recording, access, nowMs⟩)
      { next with recordings := recordings } := by
  obtain ⟨_, _, _, _, _, _, length, _⟩ :=
    runtimeAt_perform state next cause nowMs access rest further performed
  have born := (born_of_perform performed).1
  have among : ∀ recorded ∈ recordings, recorded = (cause, further) ∨
      recorded ∈ state.recordings := by
    intro recorded member
    obtain ⟨position, found⟩ := List.getElem?_of_mem member
    by_cases same : position = recording
    · subst same
      exact Or.inl (Option.some.inj (found.symm.trans own))
    · rw [others position same] at found
      exact Or.inr (List.mem_of_getElem? found)
  refine ⟨?_, ?_, ?_, ?_, ?_⟩
  · intro unborn
    have early : state.generations.length ≤ generation := length ▸ unborn
    obtain ⟨rfl, before⟩ := accounted.unborn early
    have elsewhere : ¬cause.At generation routeId index := by
      rintro ⟨rfl, _, _⟩
      exact absurd born (Nat.not_lt_of_le early)
    rw [marksOf, if_neg elsewhere]
    refine ⟨rfl, fun recorded member => ?_⟩
    rcases among recorded member with rfl | earlier
    · exact elsewhere
    · exact before recorded earlier
  · refine List.forall_mem_append.mpr ⟨fun mark member => ?_, fun mark member => ?_⟩
    · exact Nat.lt_of_lt_of_le (accounted.known mark member) longer
    · rw [recording_of_mem_marksOf member]
      exact placed
  · have kept := accounted.counted.perform cause recording nowMs access rest further performed
      dueNow
    exact fun runtime health found => kept runtime health found
  · intro recorded member
    rcases among recorded member with rfl | earlier
    · exact waiting
    · exact accounted.waiting recorded earlier
  · intro later laterFound position holder more recorded located
    obtain ⟨earlier, found, threshold⟩ := limits_perform state next cause nowMs access rest
      further performed generation routeId later laterFound
    rw [threshold]
    by_cases same : position = recording
    · subst same
      obtain ⟨rfl, cooling⟩ := Prod.mk.inj (Option.some.inj (recorded.symm.trans own))
      exact dueLater earlier found located more cooling.symm
    · have before : state.recordings[position]? = some (holder, .enterCooldown :: more) :=
        (others position same).symm.trans recorded
      refine (accounted.due earlier found position holder more before located).append _ ?_
      intro mark member
      rw [recording_of_mem_marksOf member]
      exact Ne.symm same

/-- A finished request opens a recording, and the failure it counts makes a cooldown due to
it. -/
theorem finish (accounted : Accounted generation routeId index left state) (cause : Cause)
    (failed : Bool) (nowMs : Int) (further : List Access)
    (performed : state.perform cause nowMs (recordUpstreamResult failed).1
      (recordUpstreamResult failed).2 = some (next, further)) :
    Accounted generation routeId index
      (left ++ marksOf generation routeId index cause
        ⟨state.recordings.length, (recordUpstreamResult failed).1, nowMs⟩)
      { next with recordings := next.recordings ++ [(cause, further)] } := by
  obtain ⟨runtime, health, found, healthFound, rfl, recordings, _, _⟩ :=
    runtimeAt_perform state next cause nowMs _ _ further performed
  obtain ⟨waiting, reached⟩ := followedBy_first runtime health failed
  rw [recordings]
  refine accounted.perform cause _ nowMs _ _ _ performed _ (by simp) (by simp) (by simp) ?_
    waiting ?_ ?_
  · intro position other
    rcases Nat.lt_or_gt_of_ne other with earlier | beyond
    · exact List.getElem?_append_left earlier
    · rw [List.getElem?_eq_none (by simpa using beyond), List.getElem?_eq_none (by omega)]
  · intro _ _ _ cools
    cases failed <;> simp [recordUpstreamResult] at cools
  · intro earlier earlierFound located more cooling
    obtain ⟨counts, enough⟩ := reached more cooling
    obtain ⟨rfl, rfl, rfl⟩ := id located
    obtain rfl : runtime = earlier := Option.some.inj (found.symm.trans earlierFound)
    obtain ⟨failures, _⟩ := accounted.counted runtime health found healthFound
    rw [marksOf, if_pos located]
    refine ⟨left, _, [], rfl, rfl, counts, ?_, ?_⟩
    · rw [sinceCleared_append _ _ (by simp [counts]), if_pos counts]
      have small := Nat.mod_le (sinceCleared left + 1) (2 ^ 32)
      omega
    · intro mark member
      rw [List.append_nil] at member
      exact Nat.ne_of_lt (accounted.known mark member)

/-- A later access of a recording ends its wait for a cooldown, and the other recordings wait as
before. -/
theorem access (accounted : Accounted generation routeId index left state) (position : Nat)
    (cause : Cause) (access : Access) (rest further : List Access) (nowMs : Int)
    (recorded : state.recordings[position]? = some (cause, access :: rest))
    (performed : state.perform cause nowMs access rest = some (next, further)) :
    Accounted generation routeId index
      (left ++ marksOf generation routeId index cause ⟨position, access, nowMs⟩)
      { next with recordings := next.recordings.set position (cause, further) } := by
  obtain ⟨runtime, health, _, _, rfl, recordings, _, _⟩ :=
    runtimeAt_perform state next cause nowMs _ _ further performed
  have inRange := (List.getElem?_eq_some_iff.mp recorded).1
  obtain ⟨waiting, settled⟩ := followedBy_later runtime health access rest
    (accounted.waiting _ (List.mem_of_getElem? recorded))
  rw [recordings]
  refine accounted.perform cause position nowMs access rest _ performed _ (by simp)
    (by simpa using inRange) (List.getElem?_set_self inRange) ?_ waiting ?_ ?_
  · intro other different
    exact List.getElem?_set_ne (Ne.symm different)
  · rintro runtime found located rfl
    exact accounted.due runtime found position cause rest recorded located
  · intro _ _ _ more cooling
    exact absurd cooling (settled more)

/-- Every event keeps the account.

A reload adds a generation, a handled request begins a recording with its first access, and a
further access continues one. -/
theorem step (accounted : Accounted generation routeId index left state) (externals : Externals)
    (event : Event Component) (fresh : ∀ gateway, event = .reload gateway → gateway.Fresh)
    (taken : Health.step externals state event = some next) :
    Accounted generation routeId index
      (left ++ marks externals generation routeId index state event) next := by
  cases event with
  | reload gateway =>
    obtain rfl := Option.some.inj taken
    rw [marks, List.append_nil]
    exact accounted.reload gateway (fresh gateway rfl)
  | finish entered request remoteAddr around =>
    simp only [Health.step, bind, pure, Option.bind_eq_some_iff, Option.some.injEq] at taken
    obtain ⟨gateway, found, ⟨cause, failed⟩, recording, ⟨after, further⟩, performed, rfl⟩ := taken
    simp only [marks, found, Option.bind_some, recording]
    exact accounted.finish cause failed around.clock.nowMs further performed
  | access position nowMs =>
    simp only [Health.step, bind, Option.bind_eq_some_iff] at taken
    obtain ⟨⟨cause, accesses⟩, found, taken⟩ := taken
    cases accesses with
    | nil => exact absurd taken (by simp)
    | cons access rest =>
      simp only [pure, Option.bind_eq_some_iff, Option.some.injEq] at taken
      obtain ⟨⟨after, further⟩, performed, rfl⟩ := taken
      simp only [marks, found]
      exact accounted.access position cause access rest further nowMs found performed

end Accounted

/-- A gateway that has just been built has no marks and needs none. -/
theorem accounted_start (gateway : GatewayState Component) (fresh : gateway.Fresh)
    (generation : Nat) (routeId : String) (index : Nat) :
    Accounted generation routeId index [] (start gateway) := by
  refine ⟨fun _ => ⟨rfl, by simp [start]⟩, by simp, ?_, by simp [start], by simp [start]⟩
  intro runtime health found healthFound
  obtain ⟨built, builtFound, runtimeFound⟩ := Option.bind_eq_some_iff.mp found
  obtain rfl := List.mem_singleton.mp (List.mem_of_getElem? builtFound)
  obtain rfl := fresh routeId runtime runtimeFound health (List.mem_of_getElem? healthFound)
  exact ⟨rfl, Or.inl rfl⟩

/-- The gateway of a reload was built from a configuration. -/
def Built (wasm : Policy.Wasmtime Component) : Event Component → Prop
  | .reload gateway => ∃ config, GatewayState.new wasm config = .ok gateway
  | _ => True

/-- In every interleaving of requests, accesses and reloads, an upstream is passed over at
some time only for cause. The last cooldown of it still lasts and was started by a recording
that had done nothing but count its own failure, which brought the failures since they were
last cleared to the threshold; and since then no result has lifted the cooldown. -/
theorem passed_over_for_cause (externals : Externals) (wasm : Policy.Wasmtime Component)
    (config : AppConfig) (gateway : GatewayState Component)
    (new : GatewayState.new wasm config = .ok gateway) (events : List (Event Component))
    (built : ∀ event ∈ events, Built wasm event) (final : State Component)
    (completed : Runs.run (step externals) (start gateway) events = some final)
    (generation : Nat) (routeId : String) (index : Nat) (runtime : RouteRuntime)
    (found : final.runtimeAt generation routeId = some runtime)
    (inRange : index < runtime.upstreams.length) (now : Int) (later : 0 ≤ now)
    (skipped : runtime.skips now index = true) :
    ∃ before cooldown after,
      Runs.trace (step externals) (marks externals generation routeId index) (start gateway)
        events = before ++ cooldown :: after ∧
      cooldown.access = .enterCooldown ∧
      Due runtime.failureThreshold cooldown.recording before ∧
      (∀ mark ∈ after, mark.access = .countFailure ∨ mark.access = .clearFailures) ∧
      now < saturateI64 (cooldown.nowMs + runtime.cooldownMs) := by
  have accounted : Accounted generation routeId index
      (Runs.trace (step externals) (marks externals generation routeId index) (start gateway)
        events) final :=
    Runs.traced_invariant (step externals) (fun _ event => Built wasm event)
      (marks externals generation routeId index) (Accounted generation routeId index)
      (fun _ _ event _ accounted built taken => accounted.step externals event
        (fun gateway same => by
          subst same
          obtain ⟨config, new⟩ := built
          exact GatewayState.fresh_of_new wasm config gateway new) taken)
      [] (start gateway) final events
      (accounted_start gateway (GatewayState.fresh_of_new wasm config gateway new) generation
        routeId index)
      (Runs.guarded_of_forall (step externals) (Built wasm) events built (start gateway)) completed
  have healthFound := List.getElem?_eq_getElem inRange
  have cooling : now < runtime.upstreams[index].unhealthyUntilMs := by
    simpa [RouteRuntime.skips, Selection.healthy, healthFound] using skipped
  rcases (accounted.counted runtime _ found healthFound).2 with none | caused
  · omega
  · obtain ⟨before, cooldown, after, split, cools, due, quiet, same⟩ := caused
    exact ⟨before, cooldown, after, split, cools, due, quiet, same ▸ cooling⟩

/-- Two failures in a row start a cooldown of one second. -/
def twiceConfig : AppConfig :=
  { bareConfig with routes := [{ Exchange.uploadRoute with passiveHealthFailures := 2 }] }

def twiceState : GatewayState Unit :=
  { uploadState with
    router := twiceConfig.routes
    routeRuntime := Map.insert (fun _ => none) "upload"
      (RouteRuntime.new { Exchange.uploadRoute with passiveHealthFailures := 2 }) }

/-- Two requests time out, and the second one starts the cooldown. -/
def twiceTimedOut : List (Event Unit) :=
  let around :=
    { Exchange.uploadAround with attempts := fun _ => ⟨Exchange.idleContext, .timedOut⟩ }
  [.finish 0 Exchange.uploadRequest Exchange.localAddr around,
    .finish 0 Exchange.uploadRequest Exchange.localAddr around, .access 1 500]

/-- Two timeouts reach a threshold of two, and the upstream is passed over because of the
second. -/
theorem passed_over_for_cause_twice : ∃ final runtime,
    Runs.run (step Exchange.plainExternals) (start twiceState) twiceTimedOut = some final ∧
      final.runtimeAt 0 "upload" = some runtime ∧ runtime.skips 600 0 = true ∧
      ∃ before cooldown after,
        Runs.trace (step Exchange.plainExternals) (marks Exchange.plainExternals 0 "upload" 0)
          (start twiceState) twiceTimedOut = before ++ cooldown :: after ∧
        cooldown.access = .enterCooldown ∧
        Due runtime.failureThreshold cooldown.recording before ∧
        (∀ mark ∈ after, mark.access = .countFailure ∨ mark.access = .clearFailures) ∧
        600 < saturateI64 (cooldown.nowMs + runtime.cooldownMs) :=
  ⟨_, _, rfl, rfl, by decide, passed_over_for_cause Exchange.plainExternals Policy.permissiveWasm
    twiceConfig twiceState rfl twiceTimedOut (by simp [twiceTimedOut, Built]) _ rfl 0 "upload" 0 _
    rfl (by decide) 600 (by decide) (by decide)⟩

end Health

end TraceGate
