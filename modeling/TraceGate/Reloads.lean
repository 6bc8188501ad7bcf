import TraceGate.Config
import TraceGate.PolicyChain
import TraceGate.Reload
import TraceGate.Runs

/-!
# Concurrent reloads

`POST /admin/reload` as it interleaves with other reloads, with edits of the
configuration file and with traffic. A reload reads and validates the file before it
takes the write lock on the current configuration. Under the lock it checks the
immutable fields, builds a new state, stores it, and writes the configuration. Only
these two stores touch the shared cells, and nothing is awaited between them.

The lock says who holds it and how far the holder has got, so there is one writer at
a time by construction. Beside the cells, the state records what was activated so
far, with the edits of the file that each reload had seen when it read it.
-/

namespace TraceGate

/-! ## The handler's own decisions -/

def bearerMatches (headers : HeaderMap) (token : String) : Bool :=
  match (HeaderMap.get headers "authorization").bind HeaderValue.toStr with
  | none => false
  | some value => value == s!"Bearer {token}"

def legacyAuthorized (headers : HeaderMap) (admin : AdminConfig) (path : String) : Bool :=
  match admin.token with
  | some token => bearerMatches headers token
  | none => path != "/admin/reload"

structure ReloadResponse where
  status : String
  error : Option String
  routes : Option Nat
  plugins : Option Nat
deriving DecidableEq

def ReloadResponse.rejected (error : String) : ReloadResponse :=
  ⟨"rejected", some error, none, none⟩

inductive AdminBody where
  | plain (text : String)
  | json (response : ReloadResponse)
deriving DecidableEq

structure AdminResponse where
  status : Nat
  body : AdminBody
deriving DecidableEq

namespace Reloads

variable {Component : Type}

def unauthorized : AdminResponse := ⟨401, .plain "unauthorized\n"⟩

def pathUnavailable : AdminResponse := ⟨400, .plain "reload config path unavailable\n"⟩

def rejected (error : String) : AdminResponse := ⟨400, .json (.rejected error)⟩

def reloaded (config : AppConfig) : AdminResponse :=
  ⟨200, .json ⟨"reloaded", none, some config.routes.length, some config.plugins.length⟩⟩

/-! ## The system -/

/-- When a reload read the file: after how many edits, and after how many accepted
reloads. -/
structure Reading where
  version : Nat
  accepted : Nat
deriving DecidableEq

/-- How far a reload outside the lock has got. -/
inductive Phase where
  | arrived (headers : HeaderMap)
  | authorized
  | read (reading : Reading) (path : String) (content : Except String String)
  | loaded (reading : Reading) (config : AppConfig)
  | writing
  | answered (response : AdminResponse)
  | disconnected

/-- How far the holder of the lock has got, with the plugin files it built from. -/
inductive Progress (Component : Type) where
  | locked
  | checked
  | built (wasm : Policy.Wasmtime Component) (state : GatewayState Component)
  | stored (wasm : Policy.Wasmtime Component)

structure Holder (Component : Type) where
  id : Nat
  reading : Reading
  config : AppConfig
  progress : Progress Component

/-- A configuration that became active: at startup, or by a reload. -/
structure Activation (Component : Type) where
  reload : Option Nat
  version : Nat
  config : AppConfig
  wasm : Policy.Wasmtime Component

/-- The surroundings, the file and the number of its edits, the two cells with the
lock, the reloads, and the activations so far. -/
structure State (Component : Type) where
  externals : Config.Externals
  wasm : Policy.Wasmtime Component
  file : Except String String
  edits : Nat
  configPath : Option String
  gatewayState : GatewayState Component
  currentConfig : AppConfig
  writer : Option (Holder Component)
  reloads : Map Nat Phase
  superseded : List (Activation Component)
  active : Activation Component

/-- What can happen next: the file is edited, another file or the environment
changes, traffic moves the counters of the active routes, a reload arrives, its
client goes away, or it takes its next step. -/
inductive Event (Component : Type) where
  | edit (content : Except String String)
  | surround (externals : Config.Externals) (wasm : Policy.Wasmtime Component)
  | serve (routeRuntime : Map String RouteRuntime)
  | arrive (id : Nat) (headers : HeaderMap)
  | disconnect (id : Nat)
  | advance (id : Nat)

namespace State

def put (state : State Component) (id : Nat) (phase : Phase) : State Component :=
  { state with reloads := state.reloads.insert id phase }

/-- An answer is given, and the lock is released. -/
def finish (state : State Component) (id : Nat) (response : AdminResponse) : State Component :=
  { state.put id (.answered response) with writer := none }

def progressed (state : State Component) (holder : Holder Component)
    (progress : Progress Component) : State Component :=
  { state with writer := some { holder with progress := progress } }

/-- The next step under the lock. -/
def write (state : State Component) (holder : Holder Component) : State Component :=
  match holder.progress with
  | .locked =>
      match validateReloadImmutables state.currentConfig holder.config with
      | .error reason => state.finish holder.id (rejected reason)
      | .ok () => state.progressed holder .checked
  | .checked =>
      match GatewayState.new state.wasm holder.config with
      | .error err => state.finish holder.id (rejected err.text)
      | .ok built => state.progressed holder (.built state.wasm built)
  | .built wasm built => { state.progressed holder (.stored wasm) with gatewayState := built }
  | .stored wasm =>
      { state.finish holder.id (reloaded holder.config) with
        currentConfig := holder.config
        superseded := state.superseded ++ [state.active]
        active := ⟨some holder.id, holder.reading.version, holder.config, wasm⟩ }

/-- Where a reload gets by a step that needs neither lock. -/
def outside (faultText : Toml.Fault → String) (state : State Component) : Phase → Option Phase
  | .authorized =>
      match state.configPath with
      | none => some (.answered pathUnavailable)
      | some path => some (.read ⟨state.edits, state.superseded.length⟩ path state.file)
  | .read reading path content =>
      match Config.loadConfig state.externals path content with
      | .error err => some (.answered (rejected (err.text faultText)))
      | .ok config => some (.loaded reading config)
  | _ => none

/-- The next step of a reload. The read lock of the first step and the write lock are
both refused while there is a writer. -/
def advance (faultText : Toml.Fault → String) (state : State Component) (id : Nat) :
    Phase → Option (State Component)
  | .arrived headers =>
      match state.writer with
      | some _ => none
      | none =>
          if legacyAuthorized headers state.currentConfig.admin "/admin/reload" then
            some (state.put id .authorized)
          else some (state.put id (.answered unauthorized))
  | .loaded reading config =>
      match state.writer with
      | some _ => none
      | none => some { state.put id .writing with writer := some ⟨id, reading, config, .locked⟩ }
  | .writing =>
      match state.writer with
      | none => none
      | some holder => if holder.id = id then some (state.write holder) else none
  | phase => (state.outside faultText phase).map (state.put id)

end State

/-- A client that goes away drops its reload where it awaits a lock. -/
def Phase.awaits : Phase → Bool
  | .arrived _ | .loaded _ _ => true
  | _ => false

def step (faultText : Toml.Fault → String) (state : State Component) :
    Event Component → Option (State Component)
  | .edit content => some { state with file := content, edits := state.edits + 1 }
  | .surround externals wasm => some { state with externals := externals, wasm := wasm }
  | .serve routeRuntime =>
      some { state with
        gatewayState := { state.gatewayState with routeRuntime := routeRuntime } }
  | .arrive id headers =>
      match state.reloads id with
      | none => some (state.put id (.arrived headers))
      | some _ => none
  | .disconnect id =>
      match state.reloads id with
      | none => none
      | some phase => if phase.awaits then some (state.put id .disconnected) else none
  | .advance id => (state.reloads id).bind (state.advance faultText id)

/-- A gateway that has started on a configuration, read before the first edit. -/
def start (externals : Config.Externals) (wasm : Policy.Wasmtime Component)
    (file : Except String String) (configPath : Option String) (config : AppConfig)
    (built : GatewayState Component) : State Component :=
  { externals := externals, wasm := wasm, file := file, edits := 0, configPath := configPath
    gatewayState := built, currentConfig := config, writer := none, reloads := fun _ => none
    superseded := [], active := ⟨none, 0, config, wasm⟩ }

/-! ## What a step can do -/

/-- What a reload outside the lock has read. -/
def Phase.reading : Phase → Option Reading
  | .read reading _ _ | .loaded reading _ => some reading
  | _ => none

/-- A phase that only the reload under the lock leaves, or none at all. -/
def Phase.Settled : Phase → Prop
  | .writing | .answered _ => True
  | _ => False

/-- A new phase of a reload outside the lock: it is not accepted, and what it has read
it had read before or reads now. -/
structure Phase.Follows (state : State Component) (old : Option Phase) (new : Phase) : Prop where
  unsettled : ∀ phase ∈ old, ¬ phase.Settled
  unlocked : new ≠ .writing
  unaccepted : ∀ response, new = .answered response → response.status ≠ 200
  reading : ∀ reading, new.reading = some reading →
    old.bind Phase.reading = some reading ∨
      reading = ⟨state.edits, state.superseded.length⟩

/-- A step outside the lock neither takes the lock nor accepts the reload, and a reading it
starts is one of the present. -/
theorem outside_follows (faultText : Toml.Fault → String) (state : State Component) (id : Nat)
    (old new : Phase) (found : state.reloads id = some old)
    (taken : state.outside faultText old = some new) :
    Phase.Follows state (state.reloads id) new := by
  rw [found]
  cases old with
  | authorized =>
    simp only [State.outside] at taken
    split at taken
    all_goals
      obtain rfl := Option.some.inj taken
      constructor <;> simp [Phase.Settled, Phase.reading, pathUnavailable]
  | read reading path content =>
    simp only [State.outside] at taken
    split at taken
    all_goals
      obtain rfl := Option.some.inj taken
      constructor <;> simp [Phase.Settled, Phase.reading, rejected]
  | _ => exact absurd taken (by simp [State.outside])

/-- The moves of a reload outside the lock: it arrives, its client goes away, it passes its check
or not, or it takes a step that needs no lock. -/
inductive Moves (faultText : Toml.Fault → String) (state : State Component) (id : Nat) :
    Event Component → Phase → Prop where
  | arrive (headers : HeaderMap) (absent : state.reloads id = none) :
      Moves faultText state id (.arrive id headers) (.arrived headers)
  | disconnect (old : Phase) (found : state.reloads id = some old) (awaits : old.awaits = true) :
      Moves faultText state id (.disconnect id) .disconnected
  | pass (headers : HeaderMap) (found : state.reloads id = some (.arrived headers))
      (passed : legacyAuthorized headers state.currentConfig.admin "/admin/reload" = true) :
      Moves faultText state id (.advance id) .authorized
  | refuse (headers : HeaderMap) (found : state.reloads id = some (.arrived headers)) :
      Moves faultText state id (.advance id) (.answered unauthorized)
  | outside (old new : Phase) (found : state.reloads id = some old)
      (inside : state.outside faultText old = some new) :
      Moves faultText state id (.advance id) new

/-- The kinds of steps: around the reloads, where nothing changes in a cell but the counters
of traffic, of a reload outside the lock, taking the lock, and the next step of its holder. -/
inductive Taken (faultText : Toml.Fault → String) (state : State Component) :
    Event Component → State Component → Prop where
  | surroundings {event : Event Component} (externals : Config.Externals)
      (wasm : Policy.Wasmtime Component) (file : Except String String) (edits : Nat)
      (routeRuntime : Map String RouteRuntime) (later : state.edits ≤ edits)
      (other : ∀ id, event ≠ .advance id) :
      Taken faultText state event
        { state with
          externals := externals, wasm := wasm, file := file, edits := edits
          gatewayState := { state.gatewayState with routeRuntime := routeRuntime } }
  | moved {event : Event Component} (id : Nat) (phase : Phase)
      (moves : Moves faultText state id event phase) :
      Taken faultText state event (state.put id phase)
  | lock (id : Nat) (reading : Reading) (config : AppConfig)
      (loaded : state.reloads id = some (.loaded reading config)) (free : state.writer = none) :
      Taken faultText state (.advance id)
        { state.put id .writing with writer := some ⟨id, reading, config, .locked⟩ }
  | write (holder : Holder Component) (held : state.writer = some holder)
      (writing : state.reloads holder.id = some .writing) :
      Taken faultText state (.advance holder.id) (state.write holder)

/-- A reload that moves on by itself does so outside the lock, takes the lock, or takes a step
as its holder. -/
theorem advance_taken (faultText : Toml.Fault → String) (state next : State Component) (id : Nat)
    (old : Phase) (found : state.reloads id = some old)
    (taken : state.advance faultText id old = some next) :
    Taken faultText state (.advance id) next := by
  cases old with
  | arrived headers =>
    simp only [State.advance] at taken
    split at taken
    · exact absurd taken (by simp)
    · split at taken
      next passed =>
        obtain rfl := Option.some.inj taken
        exact Taken.moved id _ (Moves.pass headers found passed)
      · obtain rfl := Option.some.inj taken
        exact Taken.moved id _ (Moves.refuse headers found)
  | loaded reading config =>
    simp only [State.advance] at taken
    split at taken
    · exact absurd taken (by simp)
    next free =>
      obtain rfl := Option.some.inj taken
      exact Taken.lock id reading config found free
  | writing =>
    simp only [State.advance] at taken
    split at taken
    · exact absurd taken (by simp)
    next holder held =>
      split at taken
      next own =>
        obtain rfl := Option.some.inj taken
        subst own
        exact Taken.write holder held found
      · exact absurd taken (by simp)
  | _ =>
    simp only [State.advance, Option.map_eq_some_iff] at taken
    obtain ⟨phase, inside, rfl⟩ := taken
    exact Taken.moved id phase (Moves.outside _ phase found inside)

/-- Every step is taken in one of these ways.

The events are gone through one by one, with `advance_taken` for a reload that moves on. -/
theorem step_taken (faultText : Toml.Fault → String) (state next : State Component)
    (event : Event Component) (taken : step faultText state event = some next) :
    Taken faultText state event next := by
  cases event with
  | edit content =>
    obtain rfl := Option.some.inj taken
    exact Taken.surroundings _ _ _ _ _ (Nat.le_succ _) (by simp)
  | surround externals wasm =>
    obtain rfl := Option.some.inj taken
    exact Taken.surroundings _ _ _ _ _ (Nat.le_refl _) (by simp)
  | serve routeRuntime =>
    obtain rfl := Option.some.inj taken
    exact Taken.surroundings _ _ _ _ _ (Nat.le_refl _) (by simp)
  | arrive id headers =>
    simp only [step] at taken
    split at taken
    next absent =>
      obtain rfl := Option.some.inj taken
      exact Taken.moved id _ (Moves.arrive headers absent)
    · exact absurd taken (by simp)
  | disconnect id =>
    simp only [step] at taken
    split at taken
    · exact absurd taken (by simp)
    next phase found =>
      split at taken
      next awaits =>
        obtain rfl := Option.some.inj taken
        exact Taken.moved id _ (Moves.disconnect phase found awaits)
      · exact absurd taken (by simp)
  | advance id =>
    obtain ⟨phase, found, taken⟩ := Option.bind_eq_some_iff.mp taken
    exact advance_taken faultText state next id phase found taken

/-- A reload that moves outside the lock follows its old phase.

The moves are gone through one by one; none leads from a settled phase or to the lock. -/
theorem Moves.follows {faultText : Toml.Fault → String} {state : State Component} {id : Nat}
    {event : Event Component} {phase : Phase} (moves : Moves faultText state id event phase) :
    Phase.Follows state (state.reloads id) phase := by
  cases moves with
  | arrive headers absent =>
    rw [absent]
    constructor <;> simp [Phase.reading]
  | disconnect old found awaits =>
    rw [found]
    have unsettled : ¬ old.Settled := by
      cases old <;> simp [Phase.awaits, Phase.Settled] at awaits ⊢
    constructor <;> simp [Phase.reading, unsettled]
  | pass headers found passed =>
    rw [found]
    constructor <;> simp [Phase.Settled, Phase.reading]
  | refuse headers found =>
    rw [found]
    constructor <;> simp [Phase.Settled, Phase.reading, unauthorized]
  | outside old new found inside => exact outside_follows faultText state id old phase found inside

/-! ## All or nothing -/

/-- The state is what the configuration builds, up to the counters of traffic. -/
def Agrees (wasm : Policy.Wasmtime Component) (config : AppConfig)
    (state : GatewayState Component) : Prop :=
  ∃ routeRuntime, GatewayState.new wasm config = .ok { state with routeRuntime := routeRuntime }

/-- The two cells belong together. -/
def State.Paired (state : State Component) : Prop :=
  Agrees state.active.wasm state.currentConfig state.gatewayState

/-- What the holder of the lock has made sure of so far. -/
def Holder.Ensured (state : State Component) (holder : Holder Component) : Prop :=
  match holder.progress with
  | .locked => state.Paired
  | .checked => state.Paired ∧ SameImmutables state.currentConfig holder.config
  | .built wasm built =>
      state.Paired ∧ SameImmutables state.currentConfig holder.config ∧
        GatewayState.new wasm holder.config = .ok built
  | .stored wasm =>
      SameImmutables state.currentConfig holder.config ∧
        Agrees wasm holder.config state.gatewayState

/-- The cells belong together whenever the lock is free, and the immutable fields are
those of the startup. -/
structure Consistent (startup : AppConfig) (state : State Component) : Prop where
  fixed : SameImmutables startup state.currentConfig
  current : state.currentConfig = state.active.config
  free : state.writer = none → state.Paired
  held : ∀ holder, state.writer = some holder → holder.Ensured state

/-- At the start the two cells agree and nobody holds the lock. -/
theorem consistent_start (externals : Config.Externals) (wasm : Policy.Wasmtime Component)
    (file : Except String String) (configPath : Option String) (config : AppConfig)
    (built : GatewayState Component) (builds : GatewayState.new wasm config = .ok built) :
    Consistent config (start externals wasm file configPath config built) where
  fixed := SameImmutables.refl config
  current := rfl
  free := fun _ => ⟨built.routeRuntime, builds⟩
  held := fun holder held => absurd held (by simp [start])

/-- The holder's next step ends with the cells paired again, or with one thing more
made sure of. -/
theorem consistent_write (startup : AppConfig) (state : State Component)
    (holder : Holder Component) (consistent : Consistent startup state)
    (held : state.writer = some holder) : Consistent startup (state.write holder) := by
  have ensured := consistent.held holder held
  unfold Holder.Ensured at ensured
  unfold State.write
  cases progress : holder.progress with
  | locked =>
    simp only [progress] at ensured ⊢
    split
    · exact ⟨consistent.fixed, consistent.current, fun _ => ensured, by simp [State.finish]⟩
    next accepted =>
      have same := (validateReloadImmutables_ok_iff _ _).mp accepted
      refine ⟨consistent.fixed, consistent.current, by simp [State.progressed], ?_⟩
      intro next taken
      obtain rfl := Option.some.inj taken
      exact ⟨ensured, same⟩
  | checked =>
    simp only [progress] at ensured ⊢
    split
    · exact ⟨consistent.fixed, consistent.current, fun _ => ensured.1, by simp [State.finish]⟩
    next built builds =>
      refine ⟨consistent.fixed, consistent.current, by simp [State.progressed], ?_⟩
      intro next taken
      obtain rfl := Option.some.inj taken
      exact ⟨ensured.1, ensured.2, builds⟩
  | built wasm built =>
    simp only [progress] at ensured ⊢
    obtain ⟨_, same, builds⟩ := ensured
    refine ⟨consistent.fixed, consistent.current, by simp [State.progressed], ?_⟩
    intro next taken
    obtain rfl := Option.some.inj taken
    exact ⟨same, built.routeRuntime, builds⟩
  | stored wasm =>
    simp only [progress] at ensured ⊢
    obtain ⟨same, agrees⟩ := ensured
    exact ⟨consistent.fixed.trans same, rfl, fun _ => agrees, by simp [State.finish]⟩

/-- Steps outside the lock leave a holder what it has made sure of: they change neither the
configuration nor the activation, and nothing of the gateway state but its runtimes. -/
theorem ensured_of_cells {state next : State Component} {holder : Holder Component}
    (config : next.currentConfig = state.currentConfig) (active : next.active = state.active)
    (gateway : ∃ routeRuntime,
      next.gatewayState = { state.gatewayState with routeRuntime := routeRuntime })
    (ensured : holder.Ensured state) : holder.Ensured next := by
  obtain ⟨routeRuntime, gateway⟩ := gateway
  unfold Holder.Ensured State.Paired at ensured ⊢
  rw [config, active, gateway]
  exact ensured

/-- A step keeps the cells consistent.

What a step outside the lock changes is not part of the invariant. A holder writes the gateway
state first and the configuration after it, and the invariant says of each point in between what
the cells have in common. -/
theorem consistent_step (faultText : Toml.Fault → String) (startup : AppConfig)
    (state : State Component) (event : Event Component) (next : State Component)
    (consistent : Consistent startup state) (taken : step faultText state event = some next) :
    Consistent startup next := by
  cases step_taken faultText state next event taken with
  | surroundings externals wasm file edits routeRuntime later other =>
    refine ⟨consistent.fixed, consistent.current, consistent.free, ?_⟩
    intro holder held
    exact ensured_of_cells rfl rfl ⟨routeRuntime, rfl⟩ (consistent.held holder held)
  | moved id phase moves =>
    refine ⟨consistent.fixed, consistent.current, consistent.free, ?_⟩
    intro holder held
    exact ensured_of_cells rfl rfl ⟨_, rfl⟩ (consistent.held holder held)
  | lock id reading config loaded free =>
    refine ⟨consistent.fixed, consistent.current, by simp, ?_⟩
    intro holder held
    obtain rfl := Option.some.inj held
    exact consistent.free free
  | write holder held writing => exact consistent_write startup state holder consistent held

/-- The cells are consistent in every state that a run from the start reaches. -/
theorem consistent_run (faultText : Toml.Fault → String) (externals : Config.Externals)
    (wasm : Policy.Wasmtime Component) (file : Except String String) (configPath : Option String)
    (config : AppConfig) (built : GatewayState Component)
    (builds : GatewayState.new wasm config = .ok built) (events : List (Event Component))
    (final : State Component)
    (completed : Runs.run (step faultText)
      (start externals wasm file configPath config built) events = some final) :
    Consistent config final := by
  apply Runs.run_invariant (step faultText) (Consistent config) _ _ final events _ completed
  · exact consistent_step faultText config
  · exact consistent_start externals wasm file configPath config built builds

/-- The reload has stored its state: it is accepted, or about to be. -/
def Committed (id : Nat) (state : State Component) : Prop :=
  (∃ config, state.reloads id = some (.answered (reloaded config))) ∨
    state.reloads id = some .writing ∧
      ∃ holder wasm, state.writer = some holder ∧ holder.id = id ∧ holder.progress = .stored wasm

/-- A reload is in the phase it was put in. -/
@[simp]
theorem reloads_put_self (state : State Component) (id : Nat) (phase : Phase) :
    (state.put id phase).reloads id = some phase := by
  simp [State.put, Map.insert]

/-- Putting one reload in a phase leaves the others where they are. -/
theorem reloads_put_other (state : State Component) {id other : Nat} (phase : Phase)
    (distinct : other ≠ id) : (state.put id phase).reloads other = state.reloads other := by
  simp [State.put, Map.insert, distinct]

/-- The holder of the lock moves no other reload. -/
theorem reloads_write_other (state : State Component) (holder : Holder Component) {other : Nat}
    (distinct : other ≠ holder.id) :
    (state.write holder).reloads other = state.reloads other := by
  unfold State.write
  repeat' split
  all_goals first
    | rfl
    | exact reloads_put_other state _ distinct

/-- A step of the holder leaves both cells alone or commits it. -/
theorem cells_write (state : State Component) (holder : Holder Component)
    (writing : state.reloads holder.id = some .writing) :
    (state.write holder).gatewayState = state.gatewayState ∧
        (state.write holder).currentConfig = state.currentConfig ∨
      Committed holder.id (state.write holder) := by
  unfold State.write
  cases progress : holder.progress with
  | locked =>
    simp only
    split <;> exact Or.inl ⟨rfl, rfl⟩
  | checked =>
    simp only
    split <;> exact Or.inl ⟨rfl, rfl⟩
  | built wasm built => exact Or.inr (Or.inr ⟨writing, _, wasm, rfl, rfl, rfl⟩)
  | stored wasm => exact Or.inr (Or.inl ⟨holder.config, reloads_put_self state _ _⟩)

/-- A reload that moved outside the lock was not settled, so it is not one that is. -/
theorem ne_of_settled {state : State Component} {id other : Nat} {phase settled : Phase}
    (follows : Phase.Follows state (state.reloads id) phase)
    (found : state.reloads other = some settled) (isSettled : settled.Settled) : other ≠ id := by
  rintro rfl
  exact follows.unsettled settled found isSettled

/-- Once committed, always committed.

A committed reload is the holder after its first write, or has answered. The holder stays so
until it has answered, and an answered one moves no more. -/
theorem committed_step (faultText : Toml.Fault → String) (id : Nat) (state : State Component)
    (event : Event Component) (next : State Component) (committed : Committed id state)
    (taken : step faultText state event = some next) : Committed id next := by
  cases step_taken faultText state next event taken with
  | surroundings externals wasm file edits routeRuntime later other => exact committed
  | moved moving phase moves =>
    rcases committed with ⟨config, answered⟩ | ⟨writing, stored⟩
    · have distinct := ne_of_settled moves.follows answered trivial
      exact Or.inl ⟨config, (reloads_put_other state phase distinct).trans answered⟩
    · have distinct := ne_of_settled moves.follows writing trivial
      exact Or.inr ⟨(reloads_put_other state phase distinct).trans writing, stored⟩
  | lock locking reading config loaded free =>
    rcases committed with ⟨config, answered⟩ | ⟨_, holder, _, held, _⟩
    · have distinct : id ≠ locking := by
        rintro rfl
        exact absurd (answered.symm.trans loaded) (by simp)
      exact Or.inl ⟨config, (reloads_put_other state .writing distinct).trans answered⟩
    · exact absurd (held.symm.trans free) (by simp)
  | write holder held writing =>
    rcases committed with ⟨config, answered⟩ | ⟨_, owner, wasm, owned, rfl, stored⟩
    · have distinct : id ≠ holder.id := by
        rintro rfl
        exact absurd (answered.symm.trans writing) (by simp)
      exact Or.inl ⟨config, (reloads_write_other state holder distinct).trans answered⟩
    · obtain rfl : owner = holder := Option.some.inj (owned.symm.trans held)
      refine Or.inl ⟨owner.config, ?_⟩
      unfold State.write
      simp only [stored]
      exact reloads_put_self state _ _

/-- A step of the reload leaves both cells as they are. -/
def LeavesCells (faultText : Toml.Fault → String) (id : Nat) (state : State Component)
    (event : Event Component) : Prop :=
  event = .advance id → ∀ next, step faultText state event = some next →
    next.gatewayState = state.gatewayState ∧ next.currentConfig = state.currentConfig

/-- A step of a reload leaves both cells alone or commits it, since only the holder writes
them. -/
theorem leaves_or_committed (faultText : Toml.Fault → String) (id : Nat)
    (state next : State Component) (taken : step faultText state (.advance id) = some next) :
    (next.gatewayState = state.gatewayState ∧ next.currentConfig = state.currentConfig) ∨
      Committed id next := by
  cases step_taken faultText state next (.advance id) taken with
  | surroundings externals wasm file edits routeRuntime later other => exact absurd rfl (other id)
  | moved moving phase moves => exact Or.inl ⟨rfl, rfl⟩
  | lock reading config loaded free => exact Or.inl ⟨rfl, rfl⟩
  | write holder held writing => exact cells_write state holder writing

/-- Every step of a reload that ends uncommitted left both cells alone.

By induction on the run: a step that did not leave them alone committed the reload, and it would
have stayed so. -/
theorem leavesCells_of_uncommitted (faultText : Toml.Fault → String) (id : Nat)
    (state final : State Component) (events : List (Event Component))
    (completed : Runs.run (step faultText) state events = some final)
    (uncommitted : ¬ Committed id final) :
    Runs.Guarded (step faultText) (LeavesCells faultText id) state events := by
  induction events generalizing state with
  | nil => trivial
  | cons event rest inductionHypothesis =>
    obtain ⟨next, taken, following⟩ := (Runs.run_cons_iff _ _ _ _ _).mp completed
    rw [Runs.guarded_cons_iff _ _ _ next _ _ taken]
    refine ⟨?_, inductionHypothesis next following⟩
    rintro rfl other otherTaken
    obtain rfl : next = other := Option.some.inj (taken.symm.trans otherTaken)
    rcases leaves_or_committed faultText id state next taken with left | committed
    · exact left
    · exact absurd (Runs.run_invariant (step faultText) (Committed id)
        (fun state event next => committed_step faultText id state event next) next final rest
        committed following) uncommitted

/-- In every state that any interleaving of reloads reaches with the lock free, the
gateway's state is the one its configuration builds, and the immutable fields are
those of the startup; and a reload that was refused changed neither cell in any of
its steps. -/
theorem reloads_all_or_nothing (faultText : Toml.Fault → String) (externals : Config.Externals)
    (wasm : Policy.Wasmtime Component) (file : Except String String) (configPath : Option String)
    (config : AppConfig) (built : GatewayState Component)
    (builds : GatewayState.new wasm config = .ok built) (events : List (Event Component))
    (final : State Component)
    (completed : Runs.run (step faultText)
      (start externals wasm file configPath config built) events = some final) :
    (final.writer = none →
      Agrees final.active.wasm final.currentConfig final.gatewayState ∧
        SameImmutables config final.currentConfig) ∧
      ∀ id response, final.reloads id = some (.answered response) → response.status ≠ 200 →
        Runs.Guarded (step faultText) (LeavesCells faultText id)
          (start externals wasm file configPath config built) events := by
  have consistent := consistent_run faultText externals wasm file configPath config built builds
    events final completed
  refine ⟨fun free => ⟨consistent.free free, consistent.fixed⟩, ?_⟩
  intro id response answered refused
  apply leavesCells_of_uncommitted faultText id _ final events completed
  rintro (⟨config, accepted⟩ | ⟨writing, _⟩)
  · obtain rfl : response = reloaded config := by
      simpa using answered.symm.trans accepted
    exact refused rfl
  · exact absurd (answered.symm.trans writing) (by simp)

/-! ## The section under the lock as one step

Models that do not look inside a reload take `reloadGateway` as one step. With nothing
in between, the holder's steps amount to it.
-/

/-- A holder that is accepted writes both cells, in four steps. -/
theorem run_of_accepted (faultText : Toml.Fault → String) (state : State Component) (id : Nat)
    (reading : Reading) (config : AppConfig) (built : GatewayState Component)
    (held : state.writer = some ⟨id, reading, config, .locked⟩)
    (writing : state.reloads id = some .writing)
    (accepted : reloadGateway state.wasm state.currentConfig config = .ok built) :
    ∃ final, Runs.run (step faultText) state (List.replicate 4 (.advance id)) = some final ∧
      final.gatewayState = built ∧ final.currentConfig = config ∧ final.writer = none ∧
      final.reloads id = some (.answered (reloaded config)) := by
  have builds := reloadGateway_eq_ok state.wasm state.currentConfig config built accepted
  have checked := (validateReloadImmutables_ok_iff _ _).mpr
    (sameImmutables_of_reloadGateway state.wasm state.currentConfig config built accepted)
  simp [Runs.run, List.replicate, step, writing, State.advance, held, State.write, checked,
    State.progressed, builds, State.finish, State.put, Map.insert]

/-- A holder that is refused writes neither, and answers with the reason.

The check refuses it in its first step, or the state cannot be built in its second. -/
theorem run_of_refused (faultText : Toml.Fault → String) (state : State Component) (id : Nat)
    (reading : Reading) (config : AppConfig) (reason : String)
    (held : state.writer = some ⟨id, reading, config, .locked⟩)
    (writing : state.reloads id = some .writing)
    (refused : reloadGateway state.wasm state.currentConfig config = .error reason) :
    ∃ count, Runs.run (step faultText) state (List.replicate count (.advance id)) =
      some (state.finish id (rejected reason)) := by
  unfold reloadGateway at refused
  split at refused
  next unchecked =>
    obtain rfl := Except.error.inj refused
    refine ⟨1, ?_⟩
    simp [Runs.run, List.replicate, step, writing, State.advance, held, State.write, unchecked]
  next checked =>
    split at refused
    next err fails =>
      obtain rfl := Except.error.inj refused
      refine ⟨2, ?_⟩
      simp [Runs.run, List.replicate, step, writing, State.advance, held, State.write, checked,
        State.progressed, fails, State.finish, State.put]
    · exact absurd refused (by simp)

/-! A gateway whose file lists one sensitive header. Comparing texts of files takes
some depth. -/

set_option maxRecDepth 4000

def sampleText (header : String) : String :=
  "[server]\nlisten = '127.0.0.1:8080'\n[redaction]\nheaders = ['" ++ header ++ "']\n" ++
    "[[routes]]\nid = 'api'\nhosts = ['*']\npath_prefix = '/'\nupstreams = ['http://10.0.0.7']\n"

def sampleDocument (header : String) : List (String × Toml.Value) :=
  [("server", .table [("listen", .string "127.0.0.1:8080")]),
   ("redaction", .table [("headers", .array [.string header])]),
   ("routes", .array [.table
      [("id", .string "api"), ("hosts", .array [.string "*"]), ("path_prefix", .string "/"),
       ("upstreams", .array [.string "http://10.0.0.7"])]])]

def sampleExternals : Config.Externals where
  envVar _ := some "token"
  isFile _ := .ok true
  parseToml text :=
    match ["x-first", "x-second", "x-third"].find? fun header => text == sampleText header with
    | some header => .ok (sampleDocument header)
    | none => .error "expected a document"
  parseUrl _ := .ok ⟨"http", some (.ipv4 0x0A000007), none, "/", none, none⟩
  parseUri _ := .ok (some "http", some "10.0.0.7")

def sampleRoute : Route :=
  { id := "api", hosts := ["*"], pathPrefix := "/", upstreams := [⟨"http", "10.0.0.7"⟩]
    timeout := fromMillis 3000, retries := 0, capture := ⟨.off, fromMillis 500, false, 0⟩
    concurrencyLimit := 100, passiveHealthFailures := 3
    passiveHealthCooldown := fromMillis 10000 }

def sampleConfig (header : String) : AppConfig :=
  { bareConfig with
    admin := ⟨some "TRACEGATE_ADMIN_TOKEN", some "token", false⟩
    storage := StorageConfig.default
    redaction := ⟨[header], RedactionConfig.default.queryParams⟩
    routes := [sampleRoute] }

example :
    Config.loadConfig sampleExternals "tracegate.toml" (.ok (sampleText "x-first")) =
      .ok (sampleConfig "x-first") := rfl

def sampleState (header : String) : GatewayState Unit :=
  { router := [sampleRoute], storageConfig := StorageConfig.default
    redaction := (sampleConfig header).redaction, policy := .empty
    routeRuntime := Map.insert (fun _ => none) "api" (RouteRuntime.new sampleRoute) }

/-- The gateway after startup, with the file as it was then. -/
def sampleStart : State Unit :=
  start sampleExternals Policy.permissiveWasm (.ok (sampleText "x-first")) (some "tracegate.toml")
    (sampleConfig "x-first") (sampleState "x-first")

def bearerToken : HeaderMap := [("authorization", HeaderValue.ofAscii "Bearer token")]

/-- An authorized reload arrives and takes some steps. -/
def reloadSteps (id count : Nat) : List (Event Unit) :=
  .arrive id bearerToken :: List.replicate count (.advance id)

/-- One reload finds a file that cannot be read, the next one finds a new one. -/
def sampleEvents : List (Event Unit) :=
  .edit (.error "permission denied") :: reloadSteps 0 3 ++
    .edit (.ok (sampleText "x-second")) :: reloadSteps 1 8

/-- One reload finds a file that cannot be read and leaves both cells alone, and the next one is
accepted. -/
theorem reloads_all_or_nothing_sample :
    ∃ final, Runs.run (step fun _ => "fault") sampleStart sampleEvents = some final ∧
      final.currentConfig = sampleConfig "x-second" ∧
      Agrees final.active.wasm final.currentConfig final.gatewayState ∧
      SameImmutables (sampleConfig "x-first") final.currentConfig ∧
      Runs.Guarded (step fun _ => "fault") (LeavesCells (fun _ => "fault") 0) sampleStart
        sampleEvents := by
  have all := reloads_all_or_nothing (fun _ => "fault") sampleExternals Policy.permissiveWasm
    (.ok (sampleText "x-first")) (some "tracegate.toml") (sampleConfig "x-first")
    (sampleState "x-first") rfl sampleEvents _ rfl
  exact ⟨_, rfl, rfl, (all.1 rfl).1, (all.1 rfl).2, all.2 0 _ rfl (by decide)⟩

end Reloads

end TraceGate
