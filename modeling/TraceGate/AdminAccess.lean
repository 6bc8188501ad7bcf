import TraceGate.Admin
import TraceGate.ProductionCaps

/-!
# Who gets past the check of an admin endpoint

A production configuration has a token, and a reload keeps the mode while it may bring
another token. Two facts carry the rest. Every configuration that the system holds was
validated, so the current one has a token that is not empty in production. And a caller
gets past its check in one step only, in which the check reads the configuration that is
then current.
-/

namespace TraceGate

/-- The text of the first `Authorization` header is the bearer token. -/
def Presents (headers : HeaderMap) (token : String) : Prop :=
  ∃ value, HeaderMap.get headers "authorization" = some value ∧
    value.toStr = some ("Bearer " ++ token)

/-- The check of the bearer token passes exactly when the first `Authorization` header reads
`Bearer` followed by the token. -/
theorem bearerMatches_iff (headers : HeaderMap) (token : String) :
    bearerMatches headers token = true ↔ Presents headers token := by
  have text : s!"Bearer {token}" = "Bearer " ++ token := rfl
  unfold bearerMatches Presents
  cases HeaderMap.get headers "authorization" with
  | none => simp
  | some value =>
    cases read : value.toStr with
    | none => simp [read]
    | some written => simp [read, text]

/-! ## Validated configurations -/

/-- A token is not empty, and in production there is one. -/
structure AppConfig.Secured (config : AppConfig) : Prop where
  filled : ∀ token, config.admin.token = some token → token ≠ ""
  present : config.mode = .production → config.admin.token.isSome = true

namespace Config

/-- A validated configuration is secured: a token is what trimming left of a variable, and the
check of the admin section asks for one in production. -/
theorem Validated.secured {externals : Externals} {raw : RawConfig} {config : AppConfig}
    (validated : Validated externals raw config) : config.Secured := by
  have admin := validateAdmin_ok validated.admin
  refine ⟨?_, admin.present⟩
  intro token found
  exact trimmed_ne_empty _ token (admin.token.symm.trans found)

/-- A configuration that was loaded is secured, since loading ends with validation. -/
theorem secured_of_loadConfig (externals : Externals) (path : String)
    (content : Except String String) (config : AppConfig)
    (loaded : loadConfig externals path content = .ok config) : config.Secured := by
  obtain ⟨_, _, _, _, _, _, validated⟩ := loadConfig_ok loaded
  exact validated.secured

end Config

namespace Reloads

variable {Component : Type}

/-! ## What a step does to a reload -/

/-- The reload has passed its check and not gone away. -/
def Phase.Past : Phase → Prop
  | .authorized | .read _ _ _ | .loaded _ _ | .writing => True
  | .answered response => response ≠ unauthorized
  | .arrived _ | .disconnected => False

def State.Past (state : State Component) (id : Nat) : Prop :=
  ∃ phase, state.reloads id = some phase ∧ phase.Past

/-- Where a reload gets outside the lock: what it has loaded was validated, and past its
check it was before, or it is checked now. -/
structure State.Reaches (state : State Component) (id : Nat) (phase : Phase) : Prop where
  loaded : ∀ reading config, phase = .loaded reading config →
    ∃ externals path content, Config.loadConfig externals path content = .ok config
  entered : phase.Past → state.Past id ∨
    ∃ headers, state.reloads id = some (.arrived headers) ∧
      legacyAuthorized headers state.currentConfig.admin "/admin/reload" = true

/-- A phase with nothing loaded, of a reload that is past its check or does not get
there. -/
theorem reaches_plain (state : State Component) (id : Nat) (phase : Phase)
    (unloaded : ∀ reading config, phase ≠ .loaded reading config)
    (entered : phase.Past → state.Past id) : state.Reaches id phase :=
  ⟨fun reading config same => absurd same (unloaded reading config),
    fun past => Or.inl (entered past)⟩

/-- A step of a reload outside of the lock leads past the check only if the reload was past it,
and a configuration that it brings was loaded. -/
theorem reaches_outside (faultText : Toml.Fault → String) (state : State Component) (id : Nat)
    (old new : Phase) (found : state.reloads id = some old)
    (taken : state.outside faultText old = some new) : state.Reaches id new := by
  cases old with
  | authorized =>
    have past : state.Past id := ⟨_, found, trivial⟩
    simp only [State.outside] at taken
    split at taken
    all_goals
      obtain rfl := Option.some.inj taken
      exact reaches_plain state id _ (by simp) fun _ => past
  | read reading path content =>
    have past : state.Past id := ⟨_, found, trivial⟩
    simp only [State.outside] at taken
    split at taken
    · obtain rfl := Option.some.inj taken
      exact reaches_plain state id _ (by simp) fun _ => past
    next config loads =>
      obtain rfl := Option.some.inj taken
      refine ⟨?_, fun _ => Or.inl past⟩
      rintro _ _ ⟨⟩
      exact ⟨_, _, _, loads⟩
  | _ => exact absurd taken (by simp [State.outside])

/-- Whatever moves a reload, it gets past its check by passing it or from beyond it.

The cases are the ways in which a reload moves by itself. -/
theorem Moves.reaches {faultText : Toml.Fault → String} {state : State Component} {id : Nat}
    {event : Event Component} {phase : Phase} (moves : Moves faultText state id event phase) :
    state.Reaches id phase := by
  cases moves with
  | arrive headers absent => exact reaches_plain state id _ (by simp) (by simp [Phase.Past])
  | disconnect old found awaits => exact reaches_plain state id _ (by simp) (by simp [Phase.Past])
  | pass headers found passed => exact ⟨by simp, fun _ => Or.inr ⟨headers, found, passed⟩⟩
  | refuse headers found => exact reaches_plain state id _ (by simp) (by simp [Phase.Past])
  | outside old new found inside => exact reaches_outside faultText state id old phase found inside

/-! ## The configurations of the system -/

/-- The current configuration, the one that the holder of the lock brings, and those that
reloads have loaded have the property. -/
structure AllConfigs (property : AppConfig → Prop) (state : State Component) : Prop where
  current : property state.currentConfig
  held : ∀ holder, state.writer = some holder → property holder.config
  loaded : ∀ id reading config, state.reloads id = some (.loaded reading config) →
    property config

section

variable {property : AppConfig → Prop}

/-- A reload that moves adds no configuration to the state but the one it has just loaded. -/
theorem AllConfigs.put {state : State Component} (all : AllConfigs property state) (id : Nat)
    (phase : Phase) (kept : ∀ reading config, phase = .loaded reading config → property config) :
    AllConfigs property (state.put id phase) := by
  refine ⟨all.current, all.held, ?_⟩
  intro other reading config found
  by_cases same : other = id
  · subst same
    rw [reloads_put_self] at found
    exact kept reading config (Option.some.inj found)
  · rw [reloads_put_other state phase same] at found
    exact all.loaded other reading config found

/-- A reload that answers adds no configuration. -/
theorem AllConfigs.finish {state : State Component} (all : AllConfigs property state) (id : Nat)
    (response : AdminResponse) : AllConfigs property (state.finish id response) :=
  ⟨all.current, by simp [State.finish], (all.put id (.answered response) (by simp)).loaded⟩

/-- The holder of the lock keeps its configuration while it makes progress. -/
theorem AllConfigs.progressed {state : State Component} (all : AllConfigs property state)
    (holder : Holder Component) (held : state.writer = some holder)
    (progress : Progress Component) : AllConfigs property (state.progressed holder progress) := by
  refine ⟨all.current, ?_, all.loaded⟩
  intro next taken
  obtain rfl := Option.some.inj taken
  exact all.held holder held

/-- The holder's next step makes no configuration but the one it brings current, and that one it
has held since it took the lock. -/
theorem AllConfigs.write {state : State Component} (all : AllConfigs property state)
    (holder : Holder Component) (held : state.writer = some holder) :
    AllConfigs property (state.write holder) := by
  unfold State.write
  cases holder.progress with
  | locked =>
    simp only
    split
    · exact all.finish holder.id _
    · exact all.progressed holder held _
  | checked =>
    simp only
    split
    · exact all.finish holder.id _
    · exact all.progressed holder held _
  | built wasm built =>
    have after := all.progressed holder held (.stored wasm)
    exact ⟨after.current, after.held, after.loaded⟩
  | stored wasm =>
    have after := all.finish holder.id (reloaded holder.config)
    exact ⟨all.held holder held, after.held, after.loaded⟩

/-- What holds of every configuration that loads is kept by every step.

A configuration enters the system by being loaded and then only changes its place: into the
reload, into the lock, and to the current one. -/
theorem allConfigs_step (faultText : Toml.Fault → String)
    (ofLoad : ∀ externals path content config,
      Config.loadConfig externals path content = .ok config → property config)
    (state : State Component) (event : Event Component) (next : State Component)
    (all : AllConfigs property state) (taken : step faultText state event = some next) :
    AllConfigs property next := by
  cases step_taken faultText state next event taken with
  | surroundings => exact ⟨all.current, all.held, all.loaded⟩
  | moved id phase moves =>
    apply all.put id phase
    intro reading config same
    obtain ⟨externals, path, content, loads⟩ := moves.reaches.loaded reading config same
    exact ofLoad externals path content config loads
  | lock id reading config loaded free =>
    refine ⟨all.current, ?_, (all.put id .writing (by simp)).loaded⟩
    intro holder held
    obtain rfl := Option.some.inj held
    exact all.loaded id reading config loaded
  | write holder held writing => exact all.write holder held

end

/-! ## Past the check of a reload -/

/-- When a reload is put into a phase, those past their check are the ones that were, and
perhaps that one. -/
theorem past_put {state : State Component} {id other : Nat} {phase : Phase}
    (past : (state.put id phase).Past other) : state.Past other ∨ other = id ∧ phase.Past := by
  obtain ⟨found, stored, isPast⟩ := past
  by_cases same : other = id
  · subst same
    rw [reloads_put_self] at stored
    obtain rfl := Option.some.inj stored
    exact Or.inr ⟨rfl, isPast⟩
  · exact Or.inl ⟨found, (reloads_put_other state phase same).symm.trans stored, isPast⟩

/-- A reload gets past its check by the step that checks it, against the token that is
then current. -/
theorem entering_step (faultText : Toml.Fault → String) (state next : State Component)
    (event : Event Component) (id : Nat) (taken : step faultText state event = some next)
    (before : ¬ state.Past id) (after : next.Past id) :
    ∃ headers, state.reloads id = some (.arrived headers) ∧
      legacyAuthorized headers state.currentConfig.admin "/admin/reload" = true := by
  cases step_taken faultText state next event taken with
  | surroundings => exact absurd after before
  | moved other phase moves =>
    rcases past_put after with earlier | ⟨rfl, past⟩
    · exact absurd earlier before
    · rcases moves.reaches.entered past with earlier | checked
      · exact absurd earlier before
      · exact checked
  | lock other reading config loaded free =>
    have moved : (state.put other .writing).Past id := after
    rcases past_put moved with earlier | ⟨rfl, _⟩
    · exact absurd earlier before
    · exact absurd ⟨_, loaded, trivial⟩ before
  | write holder held writing =>
    by_cases own : id = holder.id
    · subst own
      exact absurd ⟨_, writing, trivial⟩ before
    · obtain ⟨phase, stored, isPast⟩ := after
      rw [reloads_write_other state holder own] at stored
      exact absurd ⟨phase, stored, isPast⟩ before

/-- The configuration is replaced, or the state by more than the counters of traffic. -/
def Swaps (state next : State Component) : Prop :=
  next.currentConfig ≠ state.currentConfig ∨
    ∀ routeRuntime,
      next.gatewayState ≠ { state.gatewayState with routeRuntime := routeRuntime }

/-- Only a reload past its check swaps the configuration or the state.

Other steps leave both, up to the counters of the upstreams, which requests change as well. -/
theorem past_of_swaps (faultText : Toml.Fault → String) (state next : State Component)
    (event : Event Component) (taken : step faultText state event = some next)
    (swaps : Swaps state next) : ∃ id, event = .advance id ∧ state.Past id := by
  cases step_taken faultText state next event taken with
  | surroundings externals wasm file edits routeRuntime later other =>
    rcases swaps with config | gateway
    · exact absurd rfl config
    · exact absurd rfl (gateway routeRuntime)
  | moved id phase moves =>
    rcases swaps with config | gateway
    · exact absurd rfl config
    · exact absurd rfl (gateway state.gatewayState.routeRuntime)
  | lock id reading config loaded free => exact ⟨id, rfl, _, loaded, trivial⟩
  | write holder held writing => exact ⟨holder.id, rfl, _, writing, trivial⟩

end Reloads

namespace Admin

variable {Component : Type}

/-! ## Past the check of any endpoint -/

/-- A call of `POST /admin/reload`, or of another endpoint. -/
inductive Caller where
  | reload (id : Nat)
  | call (id : Nat) (endpoint : Endpoint)

/-- The caller asks for a reload or for the API. -/
def Caller.AsksApi : Caller → Prop
  | .reload _ => True
  | .call _ endpoint => endpoint.legacyPath = none

/-- The handler was authorized, or has answered what it answers past its check. -/
def Phase.Past : Phase → Prop
  | .authorized | .read _ | .answered _ => True
  | .arrived | .refused _ | .disconnected => False

namespace State

def token (state : State Component) : Option String := state.reloads.currentConfig.admin.token

def Past (state : State Component) : Caller → Prop
  | .reload id => state.reloads.Past id
  | .call id endpoint =>
      ∃ headers phase, state.calls id = some ⟨endpoint, headers, phase⟩ ∧ phase.Past

/-- The caller waits for its check with these headers. -/
def Waits (state : State Component) (headers : HeaderMap) : Caller → Prop
  | .reload id => state.reloads.reloads id = some (.arrived headers)
  | .call id endpoint => state.calls id = some ⟨endpoint, headers, .arrived⟩

end State

/-- Where a call gets by a step of its own: past its check it was before, or it is checked
now, and a refusal is the one of its endpoint. -/
structure State.Reaches (state : State Component) (id : Nat) (call : Call) (phase : Phase) :
    Prop where
  entered : phase.Past → state.calls id = some call ∧
    (call.phase.Past ∨ call.phase = .arrived ∧
      call.endpoint.authorized call.headers state.reloads.currentConfig.admin = true)
  refused : ∀ response, phase = .refused response → response = call.endpoint.unauthorized

/-- The kinds of steps: one of a reload, or one of another call. -/
inductive Change (faultText : Toml.Fault → String) (state : State Component) :
    Event Component → State Component → Prop where
  | reload (own : Reloads.Event Component) (reloads : Reloads.State Component)
      (inside : Reloads.step faultText state.reloads own = some reloads) :
      Change faultText state (.reload own) { state with reloads := reloads }
  | moved {event : Event Component} (id : Nat) (call : Call) (phase : Phase)
      (reaches : state.Reaches id call phase) :
      Change faultText state event (state.put id call phase)

/-- Every step of the whole is a step of the reloads, or moves one call as its handler would.

The events are gone through one by one, and for a call also its phases; those that do not fit
are no steps. -/
theorem step_change (faultText : Toml.Fault → String) (state next : State Component)
    (event : Event Component) (taken : step faultText state event = some next) :
    Change faultText state event next := by
  cases event with
  | reload own =>
    simp only [step, Option.map_eq_some_iff] at taken
    obtain ⟨reloads, inside, rfl⟩ := taken
    exact Change.reload own reloads inside
  | arrive id endpoint headers =>
    simp only [step] at taken
    split at taken
    · exact absurd taken (by simp)
    · obtain rfl := Option.some.inj taken
      exact Change.moved id _ _ ⟨by simp [Phase.Past], by simp⟩
  | check id =>
    simp only [step] at taken
    split at taken
    next endpoint headers found free =>
      split at taken
      next passed =>
        obtain rfl := Option.some.inj taken
        exact Change.moved id _ _ ⟨fun _ => ⟨found, Or.inr ⟨rfl, passed⟩⟩, by simp⟩
      · obtain rfl := Option.some.inj taken
        exact Change.moved id _ _ ⟨by simp [Phase.Past], by simp⟩
    · exact absurd taken (by simp)
  | read id =>
    simp only [step] at taken
    split at taken
    next endpoint headers found free =>
      split at taken
      · obtain rfl := Option.some.inj taken
        exact Change.moved id _ _ ⟨fun _ => ⟨found, Or.inl trivial⟩, by simp⟩
      · exact absurd taken (by simp)
    · exact absurd taken (by simp)
  | answer id services =>
    simp only [step] at taken
    split at taken
    next endpoint headers found =>
      split at taken
      · exact absurd taken (by simp)
      · obtain rfl := Option.some.inj taken
        exact Change.moved id _ _ ⟨fun _ => ⟨found, Or.inl trivial⟩, by simp⟩
    next endpoint headers config found =>
      obtain rfl := Option.some.inj taken
      exact Change.moved id _ _ ⟨fun _ => ⟨found, Or.inl trivial⟩, by simp⟩
    · exact absurd taken (by simp)
  | disconnect id =>
    simp only [step] at taken
    split at taken
    case h_4 => exact absurd taken (by simp)
    all_goals
      obtain rfl := Option.some.inj taken
      exact Change.moved id _ _ ⟨by simp [Phase.Past], by simp⟩

/-- A step of the whole is a step of the reloads or leaves them. -/
theorem step_reloads (faultText : Toml.Fault → String) (state next : State Component)
    (event : Event Component) (taken : step faultText state event = some next) :
    next.reloads = state.reloads ∨
      ∃ own, event = .reload own ∧
        Reloads.step faultText state.reloads own = some next.reloads := by
  cases step_change faultText state next event taken with
  | reload own reloads inside => exact Or.inr ⟨own, rfl, inside⟩
  | moved id call phase reaches => exact Or.inl rfl

/-- What the steps of reloads keep, the steps of the whole keep, and so its runs: calls of the
other endpoints do not touch a reload. -/
theorem run_reloads (faultText : Toml.Fault → String) (property : Reloads.State Component → Prop)
    (preserved : ∀ state event next, property state →
      Reloads.step faultText state event = some next → property next)
    (state final : State Component) (events : List (Event Component))
    (initially : property state.reloads)
    (completed : Runs.run (step faultText) state events = some final) :
    property final.reloads := by
  refine Runs.run_invariant (step faultText) (fun state => property state.reloads) ?_ state final
    events initially completed
  intro state event next holds taken
  rcases step_reloads faultText state next event taken with same | ⟨own, _, inside⟩
  · rw [same]
    exact holds
  · exact preserved state.reloads own next.reloads holds inside

/-! ## The step that enters -/

/-- Moving a call leaves the others. -/
theorem calls_put_other (state : State Component) {id other : Nat} (call : Call) (phase : Phase)
    (distinct : other ≠ id) : (state.put id call phase).calls other = state.calls other := by
  simp [State.put, Map.insert, distinct]

/-- A call that is moved has its new phase, and the endpoint and headers it came with. -/
@[simp]
theorem calls_put_self (state : State Component) (id : Nat) (call : Call) (phase : Phase) :
    (state.put id call phase).calls id = some { call with phase := phase } := by
  simp [State.put, Map.insert]

/-- A call that is moved is past its check exactly if the new phase is. -/
theorem past_put_iff (state : State Component) (id : Nat) (call : Call) (phase : Phase)
    (endpoint : Endpoint) :
    (state.put id call phase).Past (.call id endpoint) ↔
      call.endpoint = endpoint ∧ phase.Past := by
  simp only [State.Past, calls_put_self, Option.some.injEq, Call.mk.injEq]
  constructor
  · rintro ⟨headers, found, ⟨same, _, rfl⟩, past⟩
    exact ⟨same, past⟩
  · rintro ⟨same, past⟩
    exact ⟨call.headers, phase, ⟨same, rfl, rfl⟩, past⟩

/-- A call other than a reload gets past its check by the step that checks it, with the headers
it arrived with and the configuration that is then current. -/
theorem entering_call (faultText : Toml.Fault → String) (state next : State Component)
    (event : Event Component) (id : Nat) (endpoint : Endpoint)
    (taken : step faultText state event = some next)
    (before : ¬ state.Past (.call id endpoint)) (after : next.Past (.call id endpoint)) :
    ∃ headers, state.calls id = some ⟨endpoint, headers, .arrived⟩ ∧
      endpoint.authorized headers state.reloads.currentConfig.admin = true := by
  cases step_change faultText state next event taken with
  | reload own reloads inside => exact absurd after before
  | moved other call phase reaches =>
    by_cases same : id = other
    · subst same
      obtain ⟨rfl, past⟩ := (past_put_iff state id call phase endpoint).mp after
      obtain ⟨found, earlier | ⟨waiting, passed⟩⟩ := reaches.entered past
      · exact absurd ⟨call.headers, call.phase, found, earlier⟩ before
      · exact ⟨call.headers, waiting ▸ found, passed⟩
    · obtain ⟨headers, reached, stored, past⟩ := after
      rw [calls_put_other state call phase same] at stored
      exact absurd ⟨headers, reached, stored, past⟩ before

/-- While there is a token, the older endpoints let pass only a request that presents it. -/
theorem presents_of_legacyAuthorized (headers : HeaderMap) (admin : AdminConfig)
    (path token : String) (current : admin.token = some token)
    (passed : legacyAuthorized headers admin path = true) : Presents headers token := by
  simp only [legacyAuthorized, current] at passed
  exact (bearerMatches_iff headers token).mp passed

/-- While there is a token, every endpoint lets pass only a request that presents it.

The two kinds of check differ only in what they do when there is no token. -/
theorem presents_of_authorized (endpoint : Endpoint) (headers : HeaderMap) (admin : AdminConfig)
    (token : String) (current : admin.token = some token)
    (passed : endpoint.authorized headers admin = true) : Presents headers token := by
  unfold Endpoint.authorized at passed
  split at passed
  next path _ => exact presents_of_legacyAuthorized headers admin path token current passed
  next =>
    simp only [apiAuthorized, current] at passed
    exact (bearerMatches_iff headers token).mp passed

/-- Whoever gets past its check waited for it, and presents the current token if there is
one; there is one if it asks for a reload or for the API. -/
theorem entering (faultText : Toml.Fault → String) (state next : State Component)
    (event : Event Component) (caller : Caller)
    (taken : step faultText state event = some next) (before : ¬ state.Past caller)
    (after : next.Past caller) :
    ∃ headers, state.Waits headers caller ∧
      (∀ token, state.token = some token → Presents headers token) ∧
      (caller.AsksApi → state.token ≠ none) := by
  cases caller with
  | reload id =>
    rcases step_reloads faultText state next event taken with same | ⟨own, _, inside⟩
    · simp only [State.Past, same] at after
      exact absurd after before
    · obtain ⟨headers, waits, passed⟩ := Reloads.entering_step faultText state.reloads
        next.reloads own id inside before after
      refine ⟨headers, waits, ?_, ?_⟩
      · exact fun token current => presents_of_legacyAuthorized headers _ _ token current passed
      · intro _ absent
        have refused : state.reloads.currentConfig.admin.token = none := absent
        simp [legacyAuthorized, refused] at passed
  | call id endpoint =>
    obtain ⟨headers, waits, passed⟩ :=
      entering_call faultText state next event id endpoint taken before after
    refine ⟨headers, waits, ?_, ?_⟩
    · exact fun token current => presents_of_authorized endpoint headers _ token current passed
    · intro api absent
      have refused : state.reloads.currentConfig.admin.token = none := absent
      have isApi : endpoint.legacyPath = none := api
      simp [Endpoint.authorized, isApi, apiAuthorized, refused] at passed

/-! ## Every run -/

/-- At one step of the run the caller got past its check, presenting the token that was
current then. -/
def EnteredWithToken (faultText : Toml.Fault → String) (state : State Component)
    (events : List (Event Component)) (caller : Caller) : Prop :=
  ∃ before event after earlier later headers token, events = before ++ event :: after ∧
    Runs.run (step faultText) state before = some earlier ∧
    step faultText earlier event = some later ∧ ¬ earlier.Past caller ∧ later.Past caller ∧
    earlier.Waits headers caller ∧ earlier.token = some token ∧ token ≠ "" ∧
    Presents headers token

/-- A gateway that has started on a configuration, with no call yet. -/
def started (externals : Config.Externals) (wasm : Policy.Wasmtime Component)
    (file : Except String String) (configPath : Option String) (config : AppConfig)
    (built : GatewayState Component) : State Component :=
  start (Reloads.start externals wasm file configPath config built)

section

variable (faultText : Toml.Fault → String) (externals : Config.Externals)
  (wasm : Policy.Wasmtime Component) (file : Except String String) (configPath : Option String)
  (config : AppConfig) (built : GatewayState Component) (events : List (Event Component))
  (final : State Component)

/-- When the gateway has started, nobody is past a check, since nobody has called. -/
theorem not_past_started (caller : Caller) :
    ¬ (started externals wasm file configPath config built).Past caller := by
  cases caller with
  | reload id => simp [State.Past, Reloads.State.Past, started, start, Reloads.start]
  | call id endpoint => simp [State.Past, started, start]

/-- In every state reached the mode is the first one, and the current configuration is
secured if the first one is. -/
theorem secured_run (secured : config.Secured) (builds : GatewayState.new wasm config = .ok built)
    (completed : Runs.run (step faultText)
      (started externals wasm file configPath config built) events = some final) :
    final.reloads.currentConfig.mode = config.mode ∧ final.reloads.currentConfig.Secured := by
  have consistent := run_reloads faultText (Reloads.Consistent config)
    (Reloads.consistent_step faultText config) _ final events
    (Reloads.consistent_start externals wasm file configPath config built builds) completed
  have all := run_reloads faultText (Reloads.AllConfigs AppConfig.Secured)
    (Reloads.allConfigs_step faultText Config.secured_of_loadConfig) _ final events
    ⟨secured, by simp [started, start, Reloads.start], by simp [started, start, Reloads.start]⟩
    completed
  exact ⟨consistent.fixed.mode.symm, all.current⟩

/-- A caller that is past its check entered with the current token, if there was one
whenever it could have entered. -/
theorem enteredWithToken (caller : Caller) (secured : config.Secured)
    (builds : GatewayState.new wasm config = .ok built)
    (completed : Runs.run (step faultText)
      (started externals wasm file configPath config built) events = some final)
    (required : config.mode = .production ∨ caller.AsksApi) (past : final.Past caller) :
    EnteredWithToken faultText (started externals wasm file configPath config built) events
      caller := by
  obtain ⟨before, event, after, earlier, later, split, reached, taken, outside, inside⟩ :=
    Runs.exists_entering_step (step faultText) (fun state => state.Past caller) _ final events
      (not_past_started externals wasm file configPath config built caller) past completed
  obtain ⟨mode, current⟩ := secured_run faultText externals wasm file configPath config built
    before earlier secured builds reached
  obtain ⟨headers, waits, presents, needs⟩ :=
    entering faultText earlier later event caller taken outside inside
  have present : earlier.token ≠ none := by
    rcases required with production | api
    · exact Option.isSome_iff_ne_none.mp (current.present (mode.trans production))
    · exact needs api
  obtain ⟨token, found⟩ := Option.ne_none_iff_exists'.mp present
  exact ⟨before, event, after, earlier, later, headers, token, split, reached, taken, outside,
    inside, waits, found, current.filled token found, presents token found⟩

/-- Without a token nobody reloads, so there never is one.

The two are one induction: a token could only come with a reload, and a reload without a token
never gets past its check. -/
theorem closed_run (tokenless : config.admin.token = none)
    (completed : Runs.run (step faultText)
      (started externals wasm file configPath config built) events = some final) :
    final.token = none ∧ ∀ caller : Caller, caller.AsksApi → ¬ final.Past caller := by
  refine Runs.run_invariant (step faultText) (fun state => state.token = none ∧
    ∀ caller : Caller, caller.AsksApi → ¬ state.Past caller) ?_
    (started externals wasm file configPath config built) final events
    ⟨tokenless, fun caller _ => not_past_started externals wasm file configPath config built
      caller⟩ completed
  rintro state event next ⟨absent, closed⟩ taken
  constructor
  · rcases step_reloads faultText state next event taken with same | ⟨own, _, inside⟩
    · simpa only [State.token, same] using absent
    · by_cases unchanged : next.reloads.currentConfig = state.reloads.currentConfig
      · simpa only [State.token, unchanged] using absent
      · obtain ⟨id, _, past⟩ := Reloads.past_of_swaps faultText state.reloads next.reloads own
          inside (Or.inl unchanged)
        exact absurd past (closed (.reload id) trivial)
  · intro caller api past
    obtain ⟨_, _, _, needs⟩ :=
      entering faultText state next event caller taken (closed caller api) past
    exact needs api absent

end

/-! ## What is returned without the token -/

/-- What a call has been answered. -/
def Phase.response : Phase → Option Response
  | .refused response | .answered response => some response
  | .arrived | .authorized | .read _ | .disconnected => none

/-- Whoever is not past the check of an endpoint has been answered the endpoint's refusal or
nothing. -/
structure Withholds (state : State Component) : Prop where
  calls : ∀ id call response, state.calls id = some call →
    call.phase.response = some response →
      response = call.endpoint.unauthorized ∨ state.Past (.call id call.endpoint)
  reloads : ∀ id response, state.reloads.reloads id = some (.answered response) →
    response = Reloads.unauthorized ∨ state.Past (.reload id)

/-- A refused call was answered the refusal of its endpoint. -/
def RefusedPlainly (state : State Component) : Prop :=
  ∀ id call response, state.calls id = some call → call.phase = .refused response →
    response = call.endpoint.unauthorized

/-- Every step leaves plain refusals: the only one that refuses gives the refusal of the
endpoint that was called. -/
theorem refusedPlainly_step (faultText : Toml.Fault → String) (state : State Component)
    (event : Event Component) (next : State Component) (plainly : RefusedPlainly state)
    (taken : step faultText state event = some next) : RefusedPlainly next := by
  cases step_change faultText state next event taken with
  | reload own reloads inside => exact plainly
  | moved id call phase reaches =>
    intro other found response stored refused
    by_cases same : other = id
    · subst same
      rw [calls_put_self] at stored
      obtain rfl := Option.some.inj stored
      exact reaches.refused response refused
    · rw [calls_put_other state call phase same] at stored
      exact plainly other found response stored refused

/-- Plain refusals withhold everything: a response that is no refusal was given past the
check. -/
theorem RefusedPlainly.withholds {state : State Component} (plainly : RefusedPlainly state) :
    Withholds state := by
  constructor
  · intro id call response found answered
    obtain ⟨endpoint, headers, phase⟩ := call
    cases phase with
    | refused refusal =>
      obtain rfl := Option.some.inj answered
      exact Or.inl (plainly id _ refusal found rfl)
    | answered answer => exact Or.inr ⟨headers, _, found, trivial⟩
    | _ => exact absurd answered (by simp [Phase.response])
  · intro id response answered
    by_cases refusal : response = Reloads.unauthorized
    · exact Or.inl refusal
    · exact Or.inr ⟨_, answered, refusal⟩

/-- In every run from a validated configuration, and whatever is reloaded in it: in
production there is a token, and whoever is past the check of an admin endpoint presented
the token that was current at the check. In demo mode this holds of reloads and of the
API, which nobody gets past without a token. Only reloads past their check swap, and whoever
is not past the check has been answered nothing but the endpoint's refusal. -/
theorem admin_endpoints_protected (faultText : Toml.Fault → String)
    (externals loading : Config.Externals) (wasm : Policy.Wasmtime Component)
    (file : Except String String) (configPath : Option String) (raw : Config.RawConfig)
    (config : AppConfig) (built : GatewayState Component)
    (accepted : raw.validate loading = .ok config)
    (builds : GatewayState.new wasm config = .ok built) (events : List (Event Component))
    (final : State Component)
    (completed : Runs.run (step faultText)
      (started externals wasm file configPath config built) events = some final) :
    (config.mode = .production →
      (∃ token, final.token = some token ∧ token ≠ "") ∧
        ∀ caller, final.Past caller →
          EnteredWithToken faultText (started externals wasm file configPath config built) events
            caller) ∧
    (config.mode = .demo →
      (∀ caller : Caller, caller.AsksApi → final.Past caller →
        EnteredWithToken faultText (started externals wasm file configPath config built) events
          caller) ∧
      (config.admin.token = none → ∀ caller : Caller, caller.AsksApi → ¬ final.Past caller)) ∧
    (∀ event next, step faultText final event = some next →
      Reloads.Swaps final.reloads next.reloads →
      ∃ id, event = .reload (.advance id) ∧ final.Past (.reload id)) ∧
    Withholds final := by
  have secured := (Config.validate_ok accepted).secured
  obtain ⟨mode, current⟩ := secured_run faultText externals wasm file configPath config built
    events final secured builds completed
  refine ⟨fun production => ⟨?_, fun caller => ?_⟩, fun _ => ⟨fun caller api => ?_, ?_⟩, ?_, ?_⟩
  · obtain ⟨token, found⟩ :=
      Option.isSome_iff_exists.mp (current.present (mode.trans production))
    exact ⟨token, found, current.filled token found⟩
  · exact enteredWithToken faultText externals wasm file configPath config built events final
      caller secured builds completed (Or.inl production)
  · exact enteredWithToken faultText externals wasm file configPath config built events final
      caller secured builds completed (Or.inr api)
  · intro tokenless
    exact (closed_run faultText externals wasm file configPath config built events final
      tokenless completed).2
  · intro event next taken swaps
    rcases step_reloads faultText final next event taken with same | ⟨own, isReload, inside⟩
    · rw [same] at swaps
      rcases swaps with changed | replaced
      · exact absurd rfl changed
      · exact absurd rfl (replaced final.reloads.gatewayState.routeRuntime)
    · obtain ⟨id, advances, past⟩ :=
        Reloads.past_of_swaps faultText final.reloads next.reloads own inside swaps
      exact ⟨id, by rw [isReload, advances], past⟩
  · refine RefusedPlainly.withholds (Runs.run_invariant (step faultText) RefusedPlainly
      (refusedPlainly_step faultText) _ final events ?_ completed)
    intro id call response found
    exact absurd found (by simp [started, start])

/-! A production gateway that is asked for its metrics. -/

def productionRaw : Config.RawConfig :=
  { server := ⟨"production", "0.0.0.0:8443", none, ⟨true, some "tls.crt", some "tls.key"⟩⟩
    admin := .default, upstreamTls := .default, storage := .default, redaction := .default
    logging := .default, observability := .default
    routes := [⟨"api", ["*"], "/", ["https://10.0.0.7"], 3000, 0, 100, 3, 10000, "off", 500,
      false, 0⟩]
    plugins := [] }

def productionRoute : Route :=
  { Reloads.sampleRoute with upstreams := [⟨"https", "10.0.0.7"⟩] }

def productionConfig : AppConfig :=
  { bareConfig with
    mode := .production, listen := ⟨.v4 0, 8443, 0⟩
    serverTls := ⟨true, some "tls.crt", some "tls.key"⟩
    admin := ⟨some "TRACEGATE_ADMIN_TOKEN", some "token", false⟩
    storage := StorageConfig.default, redaction := RedactionConfig.default
    routes := [productionRoute] }

def productionState : GatewayState Unit :=
  { router := [productionRoute], storageConfig := StorageConfig.default
    redaction := RedactionConfig.default, policy := .empty
    routeRuntime := Map.insert (fun _ => none) "api" (RouteRuntime.new productionRoute) }

def productionStart : State Unit :=
  started (Config.productionExternals []) Policy.permissiveWasm (.ok "") (some "tracegate.toml")
    productionConfig productionState

def metricsEvents : List (Event Unit) := [.arrive 0 .metrics Reloads.bearerToken, .check 0]

/-- In production a request for the metrics gets past its check, and it has presented the
token. -/
theorem admin_endpoints_protected_metrics : ∃ final,
    productionRaw.validate (Config.productionExternals []) = .ok productionConfig ∧
      productionConfig.mode = .production ∧
      Runs.run (step fun _ => "fault") productionStart metricsEvents = some final ∧
      final.token = some "token" ∧
      EnteredWithToken (fun _ => "fault") productionStart metricsEvents (.call 0 .metrics) := by
  refine ⟨_, rfl, rfl, rfl, rfl, ?_⟩
  have protects := (admin_endpoints_protected (fun _ => "fault") (Config.productionExternals [])
    (Config.productionExternals []) Policy.permissiveWasm (.ok "") (some "tracegate.toml")
    productionRaw productionConfig productionState rfl rfl metricsEvents _ rfl).1 rfl
  exact protects.2 (.call 0 .metrics) ⟨_, _, rfl, trivial⟩

end Admin

end TraceGate
