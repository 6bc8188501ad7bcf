import TraceGate.ReplayAudit
import TraceGate.Runs

/-!
# What may be replayed, and where

Before a replay is dispatched its target has to be an origin, other than the one the
request was sent to, and a method with side effects has to be confirmed. Methods are
tokens of any kind, and the code asks for a confirmation of four of them. Every other
method that is not safe goes out unconfirmed.

A check that fails ends the call with its error: nothing is sent and the store stays as it
is. Stored text of an upstream that does not parse has no origin to compare.
-/

namespace TraceGate.Replay

/-- The methods that HTTP defines as safe. -/
def isSafeMethod (method : String) : Bool :=
  method == "GET" || method == "HEAD" || method == "OPTIONS" || method == "TRACE"

/-- An HTTP URL that has nothing but an origin. -/
structure Url.IsOrigin (parsed : Url) : Prop where
  scheme : parsed.scheme = "http" ∨ parsed.scheme = "https"
  host : parsed.host.isSome = true
  path : parsed.path = "/"
  query : parsed.query = none
  fragment : parsed.fragment = none

/-- The stored upstream, if it has an origin, has another one. -/
def ElsewhereThan (parsers : Parsers) (details : RequestDetails) (origin : String) : Prop :=
  ∀ upstream, details.request.upstream = some upstream →
    ∀ original, parsers.url upstream = .ok original → original.origin ≠ origin

/-- The target is an origin, and not that of the stored upstream. -/
def TargetAccepted (parsers : Parsers) (target : String) (details : RequestDetails) : Prop :=
  ∃ parsed, parsers.url target = .ok parsed ∧ parsed.IsOrigin ∧
    ElsewhereThan parsers details parsed.origin

/-- What is asked of a replay that is sent. -/
structure Permitted (parsers : Parsers) (options : ReplayOptions) (details : RequestDetails) :
    Prop where
  target : TargetAccepted parsers options.target details
  method : options.confirmSideEffects = true ∨ isSafeMethod details.request.method = true

/-- A body is stored, and it is cut off or marked as evicted. -/
def BodyIncomplete (details : RequestDetails) : Prop :=
  ∃ capture, details.capture = some capture ∧ capture.requestBody.isSome = true ∧
    (capture.requestBodyTruncated = true ∨ capture.bodyEvicted = true)

/-! ## The checks -/

/-- A target is accepted exactly when it parses as a URL that is nothing but an origin, and
gives that origin.

The checks are gone through in their order: the scheme, the host, and that nothing follows. -/
theorem validateTarget_eq_ok (parsers : Parsers) (target origin : String) :
    validateTarget parsers target = .ok origin ↔
      ∃ parsed, parsers.url target = .ok parsed ∧ parsed.IsOrigin ∧ parsed.origin = origin := by
  unfold validateTarget
  cases parsers.url target with
  | error reason => simp
  | ok parsed =>
    simp only [Except.ok.injEq, exists_eq_left']
    constructor
    · intro accepted
      split at accepted
      · exact absurd accepted (by simp)
      next scheme =>
        split at accepted
        · exact absurd accepted (by simp)
        next host =>
          split at accepted
          · exact absurd accepted (by simp)
          next bare =>
            simp only [ne_eq, Bool.or_eq_true, decide_eq_true_eq, not_or, not_not,
              Bool.not_eq_true, Option.isSome_eq_false_iff, Option.isNone_iff_eq_none] at bare
            obtain ⟨⟨path, query⟩, fragment⟩ := bare
            have present : parsed.host.isSome = true := by
              rw [Option.isSome_iff_ne_none]
              simpa using host
            exact ⟨⟨not_not.mp scheme, present, path, query, fragment⟩, Except.ok.inj accepted⟩
    · rintro ⟨valid, rfl⟩
      have host : parsed.host.isNone = false := by simpa using valid.host
      simp [valid.scheme, host, valid.path, valid.query, valid.fragment]

/-- The check passes exactly when the recorded upstream, if there is one, has another origin. -/
theorem rejectOriginalUpstream_eq_ok (parsers : Parsers) (details : RequestDetails)
    (origin : String) :
    rejectOriginalUpstream parsers details origin = .ok () ↔
      ElsewhereThan parsers details origin := by
  unfold rejectOriginalUpstream ElsewhereThan
  cases details.request.upstream with
  | none => simp
  | some upstream =>
    simp only [Option.some.injEq, forall_eq']
    cases parsers.url upstream with
    | error reason => simp
    | ok original =>
      by_cases same : original.origin = origin
      · simp [same]
      · simp [same]

/-- A method without side effects is sent with the body there is, and refused only over
an incomplete one. -/
theorem replayBody_eq_ok (details : RequestDetails) (method : String)
    (harmless : isSideEffectMethod method = false) :
    (∃ body, replayBody details method = .ok body) ↔ ¬ BodyIncomplete details := by
  have uncaptured : methodRequiresCapturedBody method = false := by
    simp only [isSideEffectMethod, Bool.or_eq_false_iff] at harmless
    simp only [methodRequiresCapturedBody, Bool.or_eq_false_iff]
    exact harmless.1
  unfold replayBody BodyIncomplete
  cases details.capture with
  | none => simp [uncaptured]
  | some capture =>
    cases body : capture.requestBody with
    | none => simp [uncaptured, body]
    | some bytes =>
      cases truncated : capture.requestBodyTruncated with
      | true => simp [uncaptured, body, truncated]
      | false =>
        cases evicted : capture.bodyEvicted with
        | true => simp [uncaptured, body, truncated, evicted]
        | false => simp [uncaptured, body, truncated, evicted]

/-- What a replay that is prepared has passed: its target, its method's text, the confirmation
and its body. -/
theorem prepareReplay_eq_ok (parsers : Parsers) (options : ReplayOptions) (fresh : FreshIds)
    (details : RequestDetails) :
    (∃ request, prepareReplay parsers options fresh details = .ok request) ↔
      TargetAccepted parsers options.target details ∧
        parsers.method details.request.method = .ok () ∧
        (isSideEffectMethod details.request.method = true → options.confirmSideEffects = true) ∧
        ∃ body, replayBody details details.request.method = .ok body := by
  simp only [prepareReplay, bind_ok_iff, buildReplayRequest_eq_ok, validateTarget_eq_ok]
  constructor
  · rintro ⟨request, _, ⟨parsed, read, valid, rfl⟩, _, elsewhere, token, confirmed, body,
      available, rfl⟩
    exact ⟨⟨parsed, read, valid, (rejectOriginalUpstream_eq_ok _ _ _).mp elsewhere⟩, token,
      confirmed, body, available⟩
  · rintro ⟨⟨parsed, read, valid, elsewhere⟩, token, confirmed, body, available⟩
    exact ⟨_, _, ⟨parsed, read, valid, rfl⟩, (), (rejectOriginalUpstream_eq_ok _ _ _).mpr elsewhere,
      token, confirmed, body, available, rfl⟩

/-! ## The step that dispatches -/

/-- The call dispatches a permitted replay, or ends with an error, having sent nothing and
left the store as it was. -/
def DispatchGuarded (parsers : Parsers) (options : ReplayOptions) (details : RequestDetails)
    (state next : State) : Prop :=
  (∃ request, next = { state with phase := .dispatched details request } ∧
      Permitted parsers options details) ∨
    ∃ err, next = state.finish none (.error err)

/-- The method is safe, confirmed or one of the four that have to be, or the replay is
refused for its target, its method's text or its body. -/
def MethodCovered (parsers : Parsers) (options : ReplayOptions) (details : RequestDetails) :
    Prop :=
  options.confirmSideEffects = true ∨ isSafeMethod details.request.method = true ∨
    isSideEffectMethod details.request.method = true ∨
    ¬ TargetAccepted parsers options.target details ∨
    parsers.method details.request.method ≠ .ok () ∨ BodyIncomplete details

/-- A replay that is not covered is sent, as none of the reasons to refuse it holds. -/
theorem prepareReplay_of_not_covered (parsers : Parsers) (options : ReplayOptions)
    (fresh : FreshIds) (details : RequestDetails)
    (uncovered : ¬ MethodCovered parsers options details) :
    ∃ request, prepareReplay parsers options fresh details = .ok request := by
  simp only [MethodCovered, not_or, not_not, ne_eq] at uncovered
  obtain ⟨_, _, harmless, target, token, complete⟩ := uncovered
  have available := (replayBody_eq_ok details details.request.method
    (Bool.eq_false_iff.mpr harmless)).mpr complete
  exact (prepareReplay_eq_ok parsers options fresh details).mpr
    ⟨target, token, fun effects => absurd effects harmless, available⟩

/-- A prepared replay is permitted exactly when it is covered: of the conditions, only
those on the method can be what lets it through. -/
theorem permitted_iff_covered (parsers : Parsers) (options : ReplayOptions) (fresh : FreshIds)
    (details : RequestDetails) (request : ReplayRequest)
    (prepared : prepareReplay parsers options fresh details = .ok request) :
    Permitted parsers options details ↔ MethodCovered parsers options details := by
  obtain ⟨target, token, confirmed, available⟩ :=
    (prepareReplay_eq_ok parsers options fresh details).mp ⟨request, prepared⟩
  constructor
  · intro permitted
    rcases permitted.method with confirmation | safe
    · exact Or.inl confirmation
    · exact Or.inr (Or.inl safe)
  · rintro (confirmation | safe | effects | refused | malformed | incomplete)
    · exact ⟨target, Or.inl confirmation⟩
    · exact ⟨target, Or.inr safe⟩
    · exact ⟨target, Or.inl (confirmed effects)⟩
    · exact absurd target refused
    · exact absurd token malformed
    · cases effects : isSideEffectMethod details.request.method with
      | true => exact ⟨target, Or.inl (confirmed effects)⟩
      | false =>
        exact absurd incomplete
          ((replayBody_eq_ok details details.request.method effects).mp available)

/-- The step that dispatches is guarded exactly when the method is covered.

A replay that is prepared over an incomplete body has a method with side effects, for only such
a method is sent over one, and then it was confirmed. -/
theorem dispatch_guarded_iff (sql : SqlExternals) (parsers : Parsers) (options : ReplayOptions)
    (state next : State) (details : RequestDetails) (fresh : FreshIds)
    (selected : state.phase = .selected details)
    (taken : step sql parsers options state (.dispatch fresh) = some next) :
    DispatchGuarded parsers options details state next ↔
      MethodCovered parsers options details := by
  simp only [step, selected] at taken
  split at taken
  · exact absurd taken (by simp)
  cases prepared : prepareReplay parsers options fresh details with
  | error err =>
    simp only [prepared, Option.some.injEq] at taken
    refine iff_of_true (Or.inr ⟨err, taken.symm⟩) ?_
    by_contra uncovered
    obtain ⟨request, sent⟩ :=
      prepareReplay_of_not_covered parsers options fresh details uncovered
    rw [sent] at prepared
    cases prepared
  | ok request =>
    simp only [prepared, Option.some.injEq] at taken
    subst taken
    rw [← permitted_iff_covered parsers options fresh details request prepared]
    constructor
    · rintro (⟨_, _, permitted⟩ | ⟨err, ended⟩)
      · exact permitted
      · exact absurd (congrArg State.phase ended) (by simp [State.finish])
    · intro permitted
      exact Or.inl ⟨request, rfl, permitted⟩

/-- A store with one request of the given method. -/
def storeWith (method : String) : Store :=
  Store.empty.apply plainSql (.insertRequest { sampleRecord with method := method } [] [] none [])

/-- An unconfirmed `DELETE` ends with an error. -/
theorem dispatch_guarded_delete : ∃ state details next,
    Runs.run (step plainSql plainParsers replayOptions) (start (storeWith "DELETE")) [.select] =
        some state ∧
      step plainSql plainParsers replayOptions state (.dispatch ⟨"p", "q"⟩) = some next ∧
      details.request.method = "DELETE" ∧
      DispatchGuarded plainParsers replayOptions details state next :=
  ⟨_, _, _, rfl, rfl, rfl, (dispatch_guarded_iff plainSql plainParsers replayOptions _ _ _
    ⟨"p", "q"⟩ rfl rfl).mpr (Or.inr (Or.inr (Or.inl (by decide))))⟩

/-- A `PURGE` that nobody confirmed is sent: it is none of the four methods that have to be
confirmed. -/
theorem unconfirmed_purge_dispatched : ∃ state details next request,
    Runs.run (step plainSql plainParsers replayOptions) (start (storeWith "PURGE")) [.select] =
        some state ∧
      state.phase = .selected details ∧ details.request.method = "PURGE" ∧
      replayOptions.confirmSideEffects = false ∧
      step plainSql plainParsers replayOptions state (.dispatch ⟨"p", "q"⟩) = some next ∧
      next.phase = .dispatched details request ∧
      ¬ DispatchGuarded plainParsers replayOptions details state next := by
  refine ⟨_, _, _, _, rfl, rfl, rfl, rfl, rfl, rfl, ?_⟩
  rintro (⟨_, _, permitted⟩ | ⟨err, ended⟩)
  · rcases permitted.method with confirmation | safe
    · exact absurd confirmation (by decide)
    · exact absurd safe (by decide)
  · cases congrArg State.phase ended

/-! ## Whole runs -/

/-- The method of the request to be dispatched is covered. -/
def DispatchCovered (parsers : Parsers) (options : ReplayOptions) (state : State) :
    Event → Prop
  | .dispatch _ =>
      ∀ details, state.phase = .selected details → MethodCovered parsers options details
  | _ => True

/-- What is in flight was permitted. -/
def InFlightPermitted (parsers : Parsers) (options : ReplayOptions) (state : State) : Prop :=
  ∀ details request, state.phase = .dispatched details request →
    Permitted parsers options details

/-- A replay in flight was so before, or has just been prepared and sent. -/
theorem dispatched_of_step (sql : SqlExternals) (parsers : Parsers) (options : ReplayOptions)
    (state next : State) (event : Event) (details : RequestDetails) (request : ReplayRequest)
    (taken : step sql parsers options state event = some next)
    (dispatched : next.phase = .dispatched details request) :
    state.phase = .dispatched details request ∨
      ∃ fresh, event = .dispatch fresh ∧ state.phase = .selected details ∧
        prepareReplay parsers options fresh details = .ok request := by
  cases step_move sql parsers options state next event taken with
  | gateway written own => exact Or.inl dispatched
  | unsent phase waits unsent other =>
    obtain rfl : phase = .dispatched details request := dispatched
    exact absurd unsent (by simp [Phase.Unsent, Phase.Waits])
  | dispatch fresh sent built selected unused prepared =>
    obtain ⟨rfl, rfl⟩ := Phase.dispatched.inj dispatched
    exact Or.inr ⟨fresh, rfl, selected, prepared⟩
  | record result latencyMs nowMs sent built _ inFlight finished =>
    obtain ⟨returned, ended⟩ := finished
    exact absurd (ended.symm.trans dispatched) (by simp)

/-- A step keeps what is in flight permitted, if the dispatch it makes is covered. -/
theorem inFlightPermitted_step (sql : SqlExternals) (parsers : Parsers) (options : ReplayOptions)
    (state : State) (event : Event) (next : State)
    (before : InFlightPermitted parsers options state)
    (covered : DispatchCovered parsers options state event)
    (taken : step sql parsers options state event = some next) :
    InFlightPermitted parsers options next := by
  intro details request dispatched
  rcases dispatched_of_step sql parsers options state next event details request taken
    dispatched with earlier | ⟨fresh, rfl, selected, prepared⟩
  · exact before details request earlier
  · exact (permitted_iff_covered parsers options fresh details request prepared).mpr
      (covered details selected)

/-- Whatever the gateway writes meanwhile, a call whose method is covered sends only what
is permitted. -/
theorem inFlightPermitted_run (sql : SqlExternals) (parsers : Parsers) (options : ReplayOptions)
    (store : Store) (events : List Event) (final : State)
    (covered : Runs.Guarded (step sql parsers options) (DispatchCovered parsers options)
      (start store) events)
    (completed : Runs.run (step sql parsers options) (start store) events = some final) :
    InFlightPermitted parsers options final :=
  Runs.guarded_invariant (step sql parsers options) (DispatchCovered parsers options)
    (InFlightPermitted parsers options) (inFlightPermitted_step sql parsers options)
    (start store) final events (by simp [InFlightPermitted, start]) covered completed

end TraceGate.Replay
