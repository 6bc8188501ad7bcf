import TraceGate.ForwardedBodies

/-!
# What counts against an upstream

When the attempts of a request end, the gateway records for the chosen upstream whether
they failed. Recording is one to three accesses to two shared counters, and the
recordings of several requests interleave. Each access that changes a counter is noted
with its cause: the request's upstream and what was handed to the client for it.

A failure to build the upstream request is recorded like a failure of the upstream. So
the changes are all caused by requests that left the gateway exactly when every recorded
request could be built.

A reload adds a generation with runtimes of its own; a request records in the generation
it entered. Which upstream a call of `select_upstream` returns is studied in
`TraceGate.Upstreams`; here it is any one of the route's.
-/

namespace TraceGate

/-! ## Building and failing -/

section Attempts

variable (externals : Externals) (upstream : Upstream) (template : RequestTemplate)
  (requestId : String) (remoteAddr : SocketAddr)

/-- The upstream's origin and the path and query form a URI, and the upstream's authority
and the client's address are header values. -/
def CanBeBuilt (uri : Uri) : Bool :=
  (externals.parseUri (upstream.origin ++ uri.pathAndQuery.getD "/")).isOk &&
    (headerValue externals upstream.authority).isOk &&
    (headerValue externals (externals.ipText remoteAddr.ip)).isOk

/-- A request can be built exactly when the three texts it needs are well formed: the authority,
the address of the client and the target. -/
theorem buildable_eq_canBeBuilt :
    Buildable externals upstream template requestId remoteAddr =
      CanBeBuilt externals upstream remoteAddr template.uri := by
  simp only [Buildable, CanBeBuilt, untracedRequest, upstreamTarget, Upstream.origin]
  cases externals.parseUri (upstream.scheme ++ "://" ++ upstream.authority ++
      template.uri.pathAndQuery.getD "/") with
  | error err => simp [Except.isOk, Except.toBool]
  | ok parsed =>
    cases authority : headerValue externals upstream.authority with
    | error err => simp [bind, Except.bind, Except.isOk, Except.toBool]
    | ok host =>
      cases address : headerValue externals (externals.ipText remoteAddr.ip) with
      | error err => simp [bind, Except.bind, Except.isOk, Except.toBool]
      | ok client => simp [bind, Except.bind, pure, Except.pure, Except.isOk, Except.toBool]

end Attempts

/-- A forwarded request leaves the gateway exactly when it can be built. -/
theorem Forward.sent_iff_canBeBuilt (externals : Externals) (forward : Forward)
    (attempts : Nat → Attempt) :
    (forward.attempt externals attempts).sent ≠ [] ↔
      CanBeBuilt externals forward.upstream forward.facts.remoteAddr forward.template.uri =
        true := by
  rw [forward.sent_iff, buildable_eq_canBeBuilt]

namespace Health

/-! ## The accesses of `record_upstream_result` -/

/-- One access to the counters of an upstream. -/
inductive Access where
  | countFailure
  | enterCooldown
  | clearFailures
  | clearCooldown
deriving DecidableEq

/-- The counters after an access. The number of failures has thirty-two bits. -/
def Access.apply (runtime : RouteRuntime) (nowMs : Int) (health : UpstreamRuntime) :
    Access → UpstreamRuntime
  | .countFailure => { health with failures := (health.failures + 1) % 2 ^ 32 }
  | .enterCooldown =>
      { health with unhealthyUntilMs := saturateI64 (nowMs + runtime.cooldownMs) }
  | .clearFailures => { health with failures := 0 }
  | .clearCooldown => { health with unhealthyUntilMs := 0 }

/-- The first access of `record_upstream_result` and those known to follow it. -/
def recordUpstreamResult (failed : Bool) : Access × List Access :=
  if failed then (.countFailure, []) else (.clearFailures, [.clearCooldown])

/-- The accesses after one of them: a failure that reaches the threshold starts a
cooldown. -/
def Access.followedBy (runtime : RouteRuntime) (health : UpstreamRuntime) (rest : List Access) :
    Access → List Access
  | .countFailure =>
      if runtime.failureThreshold ≤ (health.failures + 1) % 2 ^ 32 then
        [.enterCooldown, .clearFailures]
      else rest
  | _ => rest

/-! ## Requests that record -/

/-- The request behind a recording. -/
structure Cause where
  generation : Nat
  route : Route
  index : Nat
  upstream : Upstream
  sent : List UpstreamRequest

/-- The request was handed to the client, each time for the recorded upstream. -/
def Cause.Sent (cause : Cause) : Prop :=
  cause.sent ≠ [] ∧ ∀ request ∈ cause.sent, ∃ rest, request.uri = cause.upstream.origin ++ rest

/-- A change of an upstream's counters. -/
structure Change where
  cause : Cause
  before : UpstreamRuntime
  after : UpstreamRuntime

variable {Component : Type}

structure State (Component : Type) where
  generations : List (GatewayState Component)
  recordings : List (Cause × List Access)
  changes : List Change

inductive Event (Component : Type) where
  | reload (gateway : GatewayState Component)
  | finish (generation : Nat) (request : InboundRequest) (remoteAddr : SocketAddr)
      (around : Surroundings Component)
  | access (position : Nat) (nowMs : Int)

/-- What a forwarded request records when its attempts have ended. -/
def recorded (externals : Externals) (gateway : GatewayState Component) (generation : Nat)
    (request : InboundRequest) (remoteAddr : SocketAddr) (around : Surroundings Component) :
    Option (Cause × Bool) :=
  match prepare externals gateway request remoteAddr around with
  | .unavailable _ => none
  | .exit _ => none
  | .forward forward =>
      let handled := forward.finish externals around.clock
        (forward.attempt externals around.attempts) (forward.captureAfter around.polled)
      if forward.route.upstreams[forward.upstreamIndex]? = some forward.upstream then
        handled.upstreamResult.map fun (index, failed) =>
          (⟨generation, forward.route, index, forward.upstream, handled.sent⟩, failed)
      else none

/-- The runtime and the counters that a cause records in. -/
def State.target (state : State Component) (cause : Cause) :
    Option (GatewayState Component × RouteRuntime × UpstreamRuntime) := do
  let gateway ← state.generations[cause.generation]?
  let runtime ← gateway.runtimeFor cause.route
  let health ← runtime.upstreams[cause.index]?
  return (gateway, runtime, health)

/-- Perform one access, note a change, and tell what is left to do. -/
def State.perform (state : State Component) (cause : Cause) (nowMs : Int) (access : Access)
    (rest : List Access) : Option (State Component × List Access) :=
  (state.target cause).map fun (gateway, runtime, health) =>
    let after := access.apply runtime nowMs health
    let upstreams := runtime.upstreams.set cause.index after
    let runtimes := gateway.routeRuntime.insert cause.route.id
      { runtime with upstreams := upstreams }
    let generations := state.generations.set cause.generation
      { gateway with routeRuntime := runtimes }
    let noted := if after = health then [] else [⟨cause, health, after⟩]
    ({ state with generations := generations, changes := state.changes ++ noted },
      access.followedBy runtime health rest)

def step (externals : Externals) (state : State Component) :
    Event Component → Option (State Component)
  | .reload gateway => some { state with generations := state.generations ++ [gateway] }
  | .finish generation request remoteAddr around => do
      let gateway ← state.generations[generation]?
      let (cause, failed) ← recorded externals gateway generation request remoteAddr around
      let (first, rest) := recordUpstreamResult failed
      let (next, left) ← state.perform cause around.clock.nowMs first rest
      return { next with recordings := next.recordings ++ [(cause, left)] }
  | .access position nowMs => do
      let (cause, accesses) ← state.recordings[position]?
      match accesses with
      | [] => none
      | access :: rest =>
          let (next, left) ← state.perform cause nowMs access rest
          return { next with recordings := next.recordings.set position (cause, left) }

def start (gateway : GatewayState Component) : State Component := ⟨[gateway], [], []⟩

/-- The counters of an upstream. -/
def State.health (state : State Component) (generation : Nat) (routeId : String) (index : Nat) :
    Option UpstreamRuntime := do
  let gateway ← state.generations[generation]?
  let runtime ← gateway.routeRuntime routeId
  runtime.upstreams[index]?

/-! ## What one access does -/

/-- The cause records in this upstream. -/
def Cause.At (cause : Cause) (generation : Nat) (routeId : String) (index : Nat) : Prop :=
  cause.generation = generation ∧ cause.route.id = routeId ∧ cause.index = index

instance (cause : Cause) (generation : Nat) (routeId : String) (index : Nat) :
    Decidable (cause.At generation routeId index) :=
  inferInstanceAs (Decidable (_ ∧ _ ∧ _))

/-- What a recording is about is found step by step: the generation, the route's runtime in it,
and the upstream's counters there. -/
theorem target_eq_some (state : State Component) (cause : Cause)
    (gateway : GatewayState Component) (runtime : RouteRuntime) (health : UpstreamRuntime) :
    state.target cause = some (gateway, runtime, health) ↔
      state.generations[cause.generation]? = some gateway ∧
        gateway.routeRuntime cause.route.id = some runtime ∧
        runtime.upstreams[cause.index]? = some health := by
  simp [State.target, Option.bind_eq_some_iff, GatewayState.runtimeFor]

/-- An access writes the counters it is for and no others, and leaves a change exactly if it
changes them. -/
theorem health_perform (state next : State Component) (cause : Cause) (nowMs : Int)
    (access : Access) (rest left : List Access)
    (performed : state.perform cause nowMs access rest = some (next, left)) :
    ∃ runtime health, state.health cause.generation cause.route.id cause.index = some health ∧
      next.recordings = state.recordings ∧
      next.changes = state.changes ++ (if access.apply runtime nowMs health = health then []
        else [⟨cause, health, access.apply runtime nowMs health⟩]) ∧
      ∀ generation routeId index, next.health generation routeId index =
        if cause.At generation routeId index then some (access.apply runtime nowMs health)
        else state.health generation routeId index := by
  obtain ⟨⟨gateway, runtime, health⟩, found, same⟩ := Option.map_eq_some_iff.mp performed
  obtain ⟨rfl, rfl⟩ := Prod.mk.inj same
  obtain ⟨generationFound, runtimeFound, healthFound⟩ :=
    (target_eq_some state cause gateway runtime health).mp found
  obtain ⟨inGenerations, sameGateway⟩ := List.getElem?_eq_some_iff.mp generationFound
  have inUpstreams := (List.getElem?_eq_some_iff.mp healthFound).1
  refine ⟨runtime, health, by simp [State.health, generationFound, runtimeFound, healthFound],
    rfl, rfl, ?_⟩
  intro generation routeId index
  by_cases sameGeneration : cause.generation = generation
  · subst sameGeneration
    by_cases sameRoute : cause.route.id = routeId
    · subst sameRoute
      by_cases sameIndex : cause.index = index
      · subst sameIndex
        simp [State.health, Cause.At, Map.insert, inGenerations, inUpstreams]
      · simp [State.health, Cause.At, Map.insert, inGenerations, sameGateway, runtimeFound,
          sameIndex]
    · simp [State.health, Cause.At, Map.insert, inGenerations, sameGateway, sameRoute,
        Ne.symm sameRoute]
  · simp [State.health, Cause.At, sameGeneration]

/-- A forwarded request is for the selected upstream and keeps its client and its URI. -/
theorem forward_selected (externals : Externals) (gateway : GatewayState Component)
    (request : InboundRequest) (remoteAddr : SocketAddr) (around : Surroundings Component)
    (forward : Forward)
    (prepared : prepare externals gateway request remoteAddr around = .forward forward) :
    around.selected = some (forward.upstreamIndex, forward.upstream) ∧
      forward.facts.remoteAddr = remoteAddr ∧ forward.template.uri = request.uri := by
  have way := prepare_cases externals gateway request remoteAddr around
  rw [prepared] at way
  cases way with
  | forward route bodyPreview body index upstream previewed undenied selected =>
    exact ⟨selected, rfl, rfl⟩

/-- The request of a recording leaves the gateway exactly when it can be built; when it
does not, a failure is recorded. -/
theorem recorded_cases (externals : Externals) (gateway : GatewayState Component)
    (generation : Nat) (request : InboundRequest) (remoteAddr : SocketAddr)
    (around : Surroundings Component) (cause : Cause) (failed : Bool)
    (recording : recorded externals gateway generation request remoteAddr around =
      some (cause, failed)) :
    around.selected = some (cause.index, cause.upstream) ∧
      (cause.Sent ↔ CanBeBuilt externals cause.upstream remoteAddr request.uri = true) ∧
      (¬cause.Sent → failed = true) := by
  unfold recorded at recording
  cases prepared : prepare externals gateway request remoteAddr around with
  | unavailable response => simp [prepared] at recording
  | exit handled => simp [prepared] at recording
  | forward forward =>
    simp only [prepared, Forward.finish, Option.map_some, Option.ite_none_right_eq_some,
      Option.some.injEq, Prod.mk.injEq] at recording
    obtain ⟨_, rfl, rfl⟩ := recording
    obtain ⟨selected, client, uri⟩ :=
      forward_selected externals gateway request remoteAddr around forward prepared
    have targets : ∀ sent ∈ (forward.attempt externals around.attempts).sent, ∃ rest,
        sent.uri = forward.upstream.origin ++ rest := fun sent member =>
      ⟨_, forward.uri_of_sent externals around.attempts sent member⟩
    refine ⟨selected, ?_, ?_⟩
    · rw [← client, ← uri, ← forward.sent_iff_canBeBuilt externals around.attempts]
      exact and_iff_left targets
    · intro unsent
      have nothing : (forward.attempt externals around.attempts).sent = [] := by
        by_contra something
        exact unsent ⟨something, targets⟩
      obtain ⟨err, failed⟩ := forward.failed_of_unsent externals around.attempts nothing
      rw [failed]
      cases err <;> rfl

/-! ## Whole runs -/

/-- Every change was caused by a request that was sent to the upstream. -/
def State.OnlySentCount (state : State Component) : Prop :=
  ∀ change ∈ state.changes, change.cause.Sent

/-- While only sent requests have counted, so it is for the recordings under way. -/
def State.Inv (state : State Component) : Prop :=
  state.OnlySentCount → ∀ recording ∈ state.recordings, recording.1.Sent

/-- The request for the selected upstream can be built. -/
def Builds (externals : Externals) : Event Component → Prop
  | .finish _ request remoteAddr around =>
      match around.selected with
      | none => True
      | some (_, upstream) => CanBeBuilt externals upstream remoteAddr request.uri = true
  | _ => True

instance (externals : Externals) : ∀ event : Event Component, Decidable (Builds externals event)
  | .reload _ => isTrue trivial
  | .access _ _ => isTrue trivial
  | .finish _ request remoteAddr around =>
      match selected : around.selected with
      | none => isTrue (by simp [Builds, selected])
      | some (_, upstream) =>
          decidable_of_iff (CanBeBuilt externals upstream remoteAddr request.uri = true)
            (by simp [Builds, selected])

/-- A failure counted is a change, also at the largest count, where the number wraps around. -/
theorem countFailure_changes (runtime : RouteRuntime) (nowMs : Int) (health : UpstreamRuntime) :
    Access.countFailure.apply runtime nowMs health ≠ health := by
  intro same
  have failures : (health.failures + 1) % 2 ^ 32 = health.failures :=
    congrArg UpstreamRuntime.failures same
  omega

/-- An access of a sent request keeps the property; one of another request keeps it only
if it changes nothing. -/
theorem onlySentCount_perform (state next : State Component) (cause : Cause) (nowMs : Int)
    (access : Access) (rest left : List Access)
    (performed : state.perform cause nowMs access rest = some (next, left)) :
    (cause.Sent → (next.OnlySentCount ↔ state.OnlySentCount)) ∧
      (next.OnlySentCount → state.OnlySentCount) ∧
      (access = .countFailure → next.OnlySentCount → cause.Sent) := by
  obtain ⟨runtime, health, _, _, changes, _⟩ :=
    health_perform state next cause nowMs access rest left performed
  simp only [State.OnlySentCount, changes, List.forall_mem_append]
  refine ⟨?_, And.left, ?_⟩
  · intro sent
    refine and_iff_left fun change member => ?_
    split at member
    · exact absurd member List.not_mem_nil
    · exact List.mem_singleton.mp member ▸ sent
  · rintro rfl ⟨_, noted⟩
    rw [if_neg (countFailure_changes runtime nowMs health)] at noted
    exact noted _ List.mem_cons_self

/-- A finished request performs the first access of its recording, and the rest waits. -/
theorem performed_of_finish (externals : Externals) (state next : State Component)
    (generation : Nat) (request : InboundRequest) (remoteAddr : SocketAddr)
    (around : Surroundings Component)
    (taken : step externals state (.finish generation request remoteAddr around) = some next) :
    ∃ gateway cause failed after left,
      recorded externals gateway generation request remoteAddr around = some (cause, failed) ∧
        state.perform cause around.clock.nowMs (recordUpstreamResult failed).1
          (recordUpstreamResult failed).2 = some (after, left) ∧
        next = { after with recordings := after.recordings ++ [(cause, left)] } := by
  simp only [step, bind, pure, Option.bind_eq_some_iff, Option.some.injEq] at taken
  obtain ⟨gateway, _, ⟨cause, failed⟩, recording, ⟨after, left⟩, performed, rfl⟩ := taken
  exact ⟨gateway, cause, failed, after, left, recording, performed, rfl⟩

/-- A later access is the next of a recording that has begun. -/
theorem performed_of_access (externals : Externals) (state next : State Component)
    (position : Nat) (nowMs : Int)
    (taken : step externals state (.access position nowMs) = some next) :
    ∃ cause access rest after left, (cause, access :: rest) ∈ state.recordings ∧
      state.perform cause nowMs access rest = some (after, left) ∧
      next = { after with recordings := after.recordings.set position (cause, left) } := by
  simp only [step, bind, Option.bind_eq_some_iff] at taken
  obtain ⟨⟨cause, accesses⟩, found, taken⟩ := taken
  cases accesses with
  | nil => exact absurd taken (by simp)
  | cons access rest =>
    simp only [pure, Option.bind_eq_some_iff, Option.some.injEq] at taken
    obtain ⟨⟨after, left⟩, performed, rfl⟩ := taken
    exact ⟨cause, access, rest, after, left, List.mem_of_getElem? found, performed, rfl⟩

/-- The request's first access keeps the property exactly when its request can be built.

A request that cannot be built counts as a failure of its upstream, and that changes a
counter. -/
theorem finish_keeps (externals : Externals) (state next : State Component) (generation : Nat)
    (request : InboundRequest) (remoteAddr : SocketAddr) (around : Surroundings Component)
    (inv : state.Inv)
    (taken : step externals state (.finish generation request remoteAddr around) = some next) :
    next.Inv ∧ (next.OnlySentCount ↔ state.OnlySentCount ∧
      Builds externals (.finish generation request remoteAddr around)) := by
  obtain ⟨gateway, cause, failed, after, left, recording, performed, rfl⟩ :=
    performed_of_finish externals state next generation request remoteAddr around taken
  obtain ⟨selected, sentIff, failsUnsent⟩ := recorded_cases externals gateway generation request
    remoteAddr around cause failed recording
  have builds : Builds externals (.finish generation request remoteAddr around) ↔ cause.Sent := by
    simp only [Builds, selected]
    exact sentIff.symm
  obtain ⟨ofSent, earlier, ofFailure⟩ := onlySentCount_perform state after cause _ _ _ left
    performed
  obtain ⟨_, _, _, recordings, _⟩ := health_perform state after cause _ _ _ left performed
  have sentOf : after.OnlySentCount → cause.Sent := by
    intro holds
    by_contra unsent
    refine unsent (ofFailure ?_ holds)
    rw [failsUnsent unsent]
    rfl
  refine ⟨?_, ?_⟩
  · intro holds recording member
    rcases List.mem_append.mp member with before | new
    · exact inv (earlier holds) recording (recordings ▸ before)
    · rw [List.mem_singleton.mp new]
      exact sentOf holds
  · rw [builds]
    constructor
    · intro holds
      exact ⟨earlier holds, sentOf holds⟩
    · rintro ⟨holds, sent⟩
      exact (ofSent sent).mpr holds

/-- A later access belongs to a recording whose first access was noted already, so it adds no
new cause. -/
theorem access_keeps (externals : Externals) (state next : State Component) (position : Nat)
    (nowMs : Int) (inv : state.Inv)
    (taken : step externals state (.access position nowMs) = some next) :
    next.Inv ∧ (next.OnlySentCount ↔ state.OnlySentCount) := by
  obtain ⟨cause, access, rest, after, left, member, performed, rfl⟩ :=
    performed_of_access externals state next position nowMs taken
  obtain ⟨ofSent, earlier, _⟩ := onlySentCount_perform state after cause _ _ _ left performed
  obtain ⟨_, _, _, recordings, _⟩ := health_perform state after cause _ _ _ left performed
  refine ⟨?_, earlier, ?_⟩
  · intro holds recording later
    rcases List.mem_or_eq_of_mem_set later with before | rfl
    · exact inv (earlier holds) recording (recordings ▸ before)
    · exact inv (earlier holds) (cause, access :: rest) member
  · intro holds
    exact (ofSent (inv holds _ member)).mpr holds

/-- A step keeps the invariant, and only sent requests count after it exactly if that was so and
the request it finishes can be built. -/
theorem step_keeps (externals : Externals) (state : State Component) (event : Event Component)
    (next : State Component) (inv : state.Inv)
    (taken : step externals state event = some next) :
    next.Inv ∧ (next.OnlySentCount ↔ state.OnlySentCount ∧ Builds externals event) := by
  cases event with
  | reload gateway =>
    obtain rfl := Option.some.inj taken
    exact ⟨inv, (and_iff_left trivial).symm⟩
  | finish generation request remoteAddr around =>
    exact finish_keeps externals state next generation request remoteAddr around inv taken
  | access position nowMs =>
    obtain ⟨kept, same⟩ := access_keeps externals state next position nowMs inv taken
    exact ⟨kept, same.trans (and_iff_left trivial).symm⟩

/-- The counters differ from earlier ones only where a change has been noted since. -/
def Noted (earlier later : State Component) : Prop :=
  ∃ new, later.changes = earlier.changes ++ new ∧
    ∀ generation routeId index before, earlier.health generation routeId index = some before →
      ∃ after, later.health generation routeId index = some after ∧
        (after = before ∨ ∃ change ∈ new, change.cause.At generation routeId index)

/-- Where nothing happens there is nothing to note. -/
theorem Noted.refl (state : State Component) : Noted state state :=
  ⟨[], by simp, fun _ _ _ before found => ⟨before, found, Or.inl rfl⟩⟩

/-- What is noted over two stretches is noted over both.

A counter that is changed over both was changed in one of them. -/
theorem Noted.trans {first second third : State Component} (early : Noted first second)
    (late : Noted second third) : Noted first third := by
  obtain ⟨new, changes, noted⟩ := early
  obtain ⟨newer, changesToo, notedToo⟩ := late
  refine ⟨new ++ newer, by rw [changesToo, changes, List.append_assoc], ?_⟩
  intro generation routeId index before found
  obtain ⟨middle, foundToo, way⟩ := noted generation routeId index before found
  obtain ⟨after, foundLast, wayToo⟩ := notedToo generation routeId index middle foundToo
  refine ⟨after, foundLast, ?_⟩
  rcases wayToo with rfl | ⟨change, member, located⟩
  · rcases way with same | ⟨change, member, located⟩
    · exact Or.inl same
    · exact Or.inr ⟨change, List.mem_append_left _ member, located⟩
  · exact Or.inr ⟨change, List.mem_append_right _ member, located⟩

/-- An access that changes something notes it.

It touches the one entry of its cause, and notes the cause if the entry is another one after
it. -/
theorem noted_perform (state next : State Component) (cause : Cause) (nowMs : Int)
    (access : Access) (rest left : List Access)
    (performed : state.perform cause nowMs access rest = some (next, left))
    (recordings : List (Cause × List Access)) :
    Noted state { next with recordings := recordings } := by
  obtain ⟨runtime, health, found, _, changes, healths⟩ :=
    health_perform state next cause nowMs access rest left performed
  refine ⟨_, changes, ?_⟩
  intro generation routeId index before foundBefore
  have later : State.health { next with recordings := recordings } generation routeId index =
      next.health generation routeId index := rfl
  rw [later, healths]
  by_cases located : cause.At generation routeId index
  · refine ⟨_, if_pos located, ?_⟩
    obtain ⟨rfl, rfl, rfl⟩ := id located
    have same : before = health := Option.some.inj (foundBefore.symm.trans found)
    by_cases unchanged : access.apply runtime nowMs health = health
    · exact Or.inl (unchanged.trans same.symm)
    · rw [if_neg unchanged]
      exact Or.inr ⟨_, List.mem_cons_self, located⟩
  · exact ⟨before, (if_neg located).trans foundBefore, Or.inl rfl⟩

/-- Every counter that a step changes is noted with its cause.

A reload adds counters and changes none. The two other events perform one access. -/
theorem step_noted (externals : Externals) (state : State Component) (event : Event Component)
    (next : State Component) (taken : step externals state event = some next) :
    Noted state next := by
  cases event with
  | reload gateway =>
    obtain rfl := Option.some.inj taken
    refine ⟨[], by simp, fun generation routeId index before found => ⟨before, ?_, Or.inl rfl⟩⟩
    simp only [State.health, bind, Option.bind_eq_some_iff] at found ⊢
    obtain ⟨old, present, others⟩ := found
    exact ⟨old, List.getElem?_append_left (List.getElem?_eq_some_iff.mp present).1 ▸ present,
      others⟩
  | finish generation request remoteAddr around =>
    obtain ⟨_, cause, _, after, left, _, performed, rfl⟩ :=
      performed_of_finish externals state next generation request remoteAddr around taken
    exact noted_perform state after cause _ _ _ left performed _
  | access position nowMs =>
    obtain ⟨cause, _, _, after, left, _, performed, rfl⟩ :=
      performed_of_access externals state next position nowMs taken
    exact noted_perform state after cause _ _ _ left performed _

/-- In every run the counters change only where it is noted, and every noted change has a
request that was sent to that upstream exactly when every recorded request could be
built. -/
theorem only_sent_requests_count_iff (externals : Externals) (gateway : GatewayState Component)
    (events : List (Event Component)) (final : State Component)
    (completed : Runs.run (step externals) (start gateway) events = some final) :
    (∀ generation routeId index before after,
      (start gateway).health generation routeId index = some before →
        final.health generation routeId index = some after → after ≠ before →
        ∃ change ∈ final.changes, change.cause.At generation routeId index) ∧
      (final.OnlySentCount ↔
        Runs.Guarded (step externals) (fun _ event => Builds externals event) (start gateway)
          events) := by
  constructor
  · intro generation routeId index before after found foundAfter differs
    obtain ⟨new, changes, noted⟩ := Runs.run_invariant (step externals) (Noted (start gateway))
      (fun state event next earlier taken =>
        earlier.trans (step_noted externals state event next taken))
      (start gateway) final events (Noted.refl _) completed
    obtain ⟨last, foundLast, way⟩ := noted generation routeId index before found
    obtain rfl : last = after := Option.some.inj (foundLast.symm.trans foundAfter)
    rcases way with same | ⟨change, member, located⟩
    · exact absurd same differs
    · exact ⟨change, by rw [changes]; exact List.mem_append_right _ member, located⟩
  · exact Runs.run_keeps_iff_guarded (step externals) (fun _ event => Builds externals event)
      State.Inv State.OnlySentCount (step_keeps externals) (start gateway) final events
      (fun _ => by simp [start]) (by simp [State.OnlySentCount, start]) completed

/-- A request that times out, which starts a cooldown. -/
def timedOutEvents : List (Event Unit) :=
  let around :=
    { Exchange.uploadAround with attempts := fun _ => ⟨Exchange.idleContext, .timedOut⟩ }
  [.finish 0 Exchange.uploadRequest Exchange.localAddr around, .access 0 500]

/-- An upload times out, and its upstream has one failure and a cooldown. -/
theorem only_sent_requests_count_upload :
    ∃ final, Runs.run (step Exchange.plainExternals) (start Exchange.uploadGateway)
        timedOutEvents = some final ∧
      final.health 0 "upload" 0 = some ⟨1, 1500⟩ ∧ final.OnlySentCount :=
  ⟨_, rfl, by decide, (only_sent_requests_count_iff Exchange.plainExternals
    Exchange.uploadGateway timedOutEvents _ rfl).2.mpr (by decide)⟩

/-- A parser with the length limit of the HTTP crate. -/
def limitedExternals : Externals :=
  let parseUri := fun uri : String =>
    if uri.utf8ByteSize ≤ 65534 then .ok () else .error "uri too long"
  { Exchange.plainExternals with parseUri := parseUri }

section LongPath

variable (path : String) (long : path.utf8ByteSize = 65533 + 1)

/-- A request for a path of the greatest length a client's URI can have. -/
def longRequest : InboundRequest :=
  { Exchange.uploadRequest with uri := ⟨path, none, some path⟩ }

def longForward : Forward :=
  { Exchange.uploadForward with
    facts := requestFacts limitedExternals ⟨[], []⟩ "r" (longRequest path) Exchange.localAddr
    template := ⟨"POST", ⟨path, none, some path⟩, .http11, Exchange.uploadRequest.headers⟩ }

include long in
/-- The client's URI parses and the upstream's does not, since it is longer by the origin. -/
theorem parseUri_long :
    limitedExternals.parseUri path = .ok () ∧
      limitedExternals.parseUri ((⟨"http", "a:1"⟩ : Upstream).origin ++ path) =
        .error "uri too long" := by
  constructor
  · exact if_pos long.le
  · refine if_neg ?_
    rw [String.utf8ByteSize_append, long]
    decide

include long in
/-- The request records a failure and has not been sent.

Its URI cannot be parsed with the origin in front, so no attempt is built. -/
theorem recorded_long :
    recorded limitedExternals Exchange.uploadGateway 0 (longRequest path) Exchange.localAddr
        Exchange.uploadAround =
      some (⟨0, Exchange.uploadRoute, 0, ⟨"http", "a:1"⟩, []⟩, true) := by
  have prepared : prepare limitedExternals Exchange.uploadGateway (longRequest path)
      Exchange.localAddr Exchange.uploadAround = .forward (longForward path) := rfl
  have unsent : ((longForward path).attempt limitedExternals
      Exchange.uploadAround.attempts).sent = [] := by
    by_contra something
    have built := ((longForward path).sent_iff_canBeBuilt limitedExternals _).mp something
    change ((limitedExternals.parseUri ((⟨"http", "a:1"⟩ : Upstream).origin ++ path)).isOk &&
      _ && _) = true at built
    rw [(parseUri_long path long).2] at built
    exact absurd built (by simp [Except.isOk, Except.toBool])
  obtain ⟨err, failed⟩ := (longForward path).failed_of_unsent limitedExternals _ unsent
  simp only [recorded, prepared, Forward.finish, unsent, failed]
  cases err <;> rfl

end LongPath

/-- There are paths of every length. -/
theorem exists_path (count : Nat) :
    ∃ path : String, path.toList.head? = some '/' ∧ path.utf8ByteSize = count + 1 := by
  refine ⟨String.ofList ('/' :: List.replicate count 'a'), by simp, ?_⟩
  rw [String.utf8ByteSize_ofList, String.utf8Len_cons]
  refine congrArg (· + 1) ?_
  induction count with
  | zero => rfl
  | succ count inductionHypothesis =>
    rw [List.replicate_succ, String.utf8Len_cons, inductionHypothesis]
    rfl

/-- One request that never leaves the gateway makes the route's only upstream
unhealthy. -/
theorem unsent_request_exhausts_upstreams :
    ∃ path : String, path.toList.head? = some '/' ∧ limitedExternals.parseUri path = .ok () ∧
      ∃ final, Runs.run (step limitedExternals) (start Exchange.uploadGateway)
          [.finish 0 (longRequest path) Exchange.localAddr Exchange.uploadAround, .access 0 500,
            .access 0 500] = some final ∧
        (∀ recording ∈ final.recordings, recording.1.sent = []) ∧
        final.health 0 "upload" 0 = some ⟨0, 1500⟩ ∧ ¬final.OnlySentCount := by
  obtain ⟨path, rooted, long⟩ := exists_path 65533
  refine ⟨path, rooted, (parseUri_long path long).1, ?_⟩
  simp only [Runs.run, step, start, List.getElem?_cons_zero, recorded_long path long, bind,
    Option.bind_some, recordUpstreamResult]
  refine ⟨_, rfl, ?_, ?_, ?_⟩
  · decide
  · decide
  · intro only
    exact (only _ (List.Mem.head _)).1 rfl

end Health

end TraceGate
