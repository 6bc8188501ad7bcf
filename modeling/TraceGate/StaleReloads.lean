import TraceGate.Reloads

/-!
# Which of several reloads stays active

A reload reads the file before it takes the lock, so reloads can take the lock in
another order than they read in. Then the last one to take it activates what an
earlier content said, after a later content had been accepted. Nothing of the kind
happens when, at the moment a reload takes the lock, the file has not been edited
since it read it, or no other reload has been accepted since.
-/

namespace TraceGate.Reloads

variable {Component : Type}

/-- All activations, in order. -/
def State.log (state : State Component) : List (Activation Component) :=
  state.superseded ++ [state.active]

/-- No activation was made from an older content than one before it. -/
def Ordered (log : List (Activation Component)) : Prop :=
  log.Pairwise fun earlier later => earlier.version ≤ later.version

/-- A reload that takes the lock read the file as it still is, or before no other
reload was accepted. -/
def undisturbed (state : State Component) : Event Component → Bool
  | .advance id =>
      match state.reloads id with
      | some (.loaded reading _) =>
          reading.version == state.edits || reading.accepted == state.superseded.length
      | _ => true
  | _ => true

/-! ## What readings know -/

/-- A reading is no newer than the file, and no older than what had been activated
before it. -/
structure Reading.Dated (state : State Component) (reading : Reading) : Prop where
  notNewer : reading.version ≤ state.edits
  counted : reading.accepted ≤ state.superseded.length
  notOlder : ∀ activation ∈ state.log.take (reading.accepted + 1),
    activation.version ≤ reading.version

/-- What holds of every run: activations are no newer than the file, readings are
dated, and accepted reloads are in the log. -/
structure Recorded (state : State Component) : Prop where
  activated : ∀ activation ∈ state.log, activation.version ≤ state.edits
  readings : ∀ id phase reading, state.reloads id = some phase → phase.reading = some reading →
    reading.Dated state
  held : ∀ holder, state.writer = some holder → holder.reading.version ≤ state.edits
  accepted : ∀ id response, state.reloads id = some (.answered response) →
    response.status = 200 → ∃ activation ∈ state.log, activation.reload = some id

/-- At the start nothing but the first configuration is activated and nothing is read. -/
theorem recorded_start (externals : Config.Externals) (wasm : Policy.Wasmtime Component)
    (file : Except String String) (configPath : Option String) (config : AppConfig)
    (built : GatewayState Component) :
    Recorded (start externals wasm file configPath config built) := by
  constructor <;> simp [start, State.log]

/-- The log holds the superseded activations and the active one. -/
theorem length_log (state : State Component) :
    state.log.length = state.superseded.length + 1 := by
  simp [State.log]

/-- Later edits and activations leave a reading dated. -/
theorem Reading.Dated.mono {state next : State Component} {reading : Reading}
    (dated : reading.Dated state) (grown : state.log <+: next.log)
    (later : state.edits ≤ next.edits) : reading.Dated next := by
  have lengths := grown.length_le
  rw [length_log, length_log] at lengths
  refine ⟨Nat.le_trans dated.notNewer later, ?_, ?_⟩
  · have counted := dated.counted
    omega
  · obtain ⟨added, log⟩ := grown
    have within : reading.accepted + 1 ≤ state.log.length := by
      rw [length_log]
      exact Nat.succ_le_succ dated.counted
    rw [← log, List.take_append_of_le_length within]
    exact dated.notOlder

/-- What is read now is dated. -/
theorem dated_now (state : State Component)
    (activated : ∀ activation ∈ state.log, activation.version ≤ state.edits) :
    Reading.Dated state ⟨state.edits, state.superseded.length⟩ where
  notNewer := Nat.le_refl _
  counted := Nat.le_refl _
  notOlder := fun activation member => activated activation (List.mem_of_mem_take member)

/-- What the holder's next step does to the log and to the holder: it adds the
holder's own activation and accepts it, or leaves the log and does not accept it. -/
structure Written (state next : State Component) (holder : Holder Component) : Prop where
  edits : next.edits = state.edits
  log : next.log = state.log ∧ (∀ response,
        next.reloads holder.id = some (.answered response) → response.status ≠ 200) ∨
      ∃ activation, next.log = state.log ++ [activation] ∧
        activation.reload = some holder.id ∧ activation.version = holder.reading.version
  reading : ∀ phase, next.reloads holder.id = some phase → phase.reading = none
  writer : ∀ other, next.writer = some other → other.reading = holder.reading

/-- A refused holder activates nothing.

Its answer is no acceptance, and the lock is free after it. -/
theorem written_finish (state : State Component) (holder : Holder Component)
    (response : AdminResponse) (refused : response.status ≠ 200) :
    Written state (state.finish holder.id response) holder where
  edits := rfl
  log := by
    refine Or.inl ⟨rfl, ?_⟩
    intro other answered
    have same := (reloads_put_self state holder.id (.answered response)).symm.trans answered
    obtain rfl : response = other := by simpa using same
    exact refused
  reading := by
    intro phase found
    obtain rfl := Option.some.inj ((reloads_put_self state holder.id _).symm.trans found)
    rfl
  writer := by simp [State.finish]

/-- A holder that goes on without committing activates nothing and is not answered.

It stays the holder, with the reading it had. -/
theorem written_progressed (state : State Component) (holder : Holder Component)
    (progress : Progress Component) (gateway : GatewayState Component)
    (writing : state.reloads holder.id = some .writing) :
    Written state { state.progressed holder progress with gatewayState := gateway } holder where
  edits := rfl
  log := by
    refine Or.inl ⟨rfl, ?_⟩
    intro response answered
    exact absurd (writing.symm.trans answered) (by simp)
  reading := by
    intro phase found
    obtain rfl := Option.some.inj (writing.symm.trans found)
    rfl
  writer := by
    intro other held
    obtain rfl := Option.some.inj held
    rfl

/-- A step of the holder activates nothing, or activates what the holder has read.

The stages of the holder are gone through one by one; only the last one activates. -/
theorem written_write (state : State Component) (holder : Holder Component)
    (writing : state.reloads holder.id = some .writing) :
    Written state (state.write holder) holder := by
  unfold State.write
  cases progress : holder.progress with
  | locked =>
    simp only
    split
    · exact written_finish state holder _ (by simp [rejected])
    · exact written_progressed state holder .checked state.gatewayState writing
  | checked =>
    simp only
    split
    · exact written_finish state holder _ (by simp [rejected])
    · exact written_progressed state holder _ state.gatewayState writing
  | built wasm built => exact written_progressed state holder (.stored wasm) built writing
  | stored wasm =>
    refine ⟨rfl, Or.inr ⟨_, rfl, rfl, rfl⟩, ?_, by simp [State.finish]⟩
    intro phase found
    obtain rfl := Option.some.inj ((reloads_put_self state holder.id _).symm.trans found)
    rfl

/-- The log only grows. -/
theorem Written.grown {state next : State Component} {holder : Holder Component}
    (written : Written state next holder) : state.log <+: next.log := by
  rcases written.log with ⟨same, _⟩ | ⟨activation, added, _⟩
  · rw [same]
  · rw [added]
    exact List.prefix_append _ _

/-- A step of the holder keeps the record.

What was dated stays so since the log grows, and what is activated is dated as the holder's own
reading. -/
theorem recorded_write (state : State Component) (holder : Holder Component)
    (recorded : Recorded state) (held : state.writer = some holder)
    (writing : state.reloads holder.id = some .writing) : Recorded (state.write holder) := by
  have written := written_write state holder writing
  have grown := written.grown
  have holderVersion := recorded.held holder held
  refine ⟨?_, ?_, ?_, ?_⟩
  · intro activation member
    rw [written.edits]
    rcases written.log with ⟨same, _⟩ | ⟨new, added, _, version⟩
    · exact recorded.activated activation (same ▸ member)
    · rw [added] at member
      rcases List.mem_append.mp member with old | last
      · exact recorded.activated activation old
      · rw [List.mem_singleton.mp last, version]
        exact holderVersion
  · intro id phase reading found reads
    by_cases own : id = holder.id
    · subst own
      rw [written.reading phase found] at reads
      exact absurd reads (by simp)
    · rw [reloads_write_other state holder own] at found
      exact (recorded.readings id phase reading found reads).mono grown
        (Nat.le_of_eq written.edits.symm)
  · intro other otherHeld
    rw [written.writer other otherHeld, written.edits]
    exact holderVersion
  · intro id response answered ok
    by_cases own : id = holder.id
    · subst own
      rcases written.log with ⟨_, refused⟩ | ⟨new, added, owner, _⟩
      · exact absurd ok (refused response answered)
      · exact ⟨new, by simp [added], owner⟩
    · rw [reloads_write_other state holder own] at answered
      obtain ⟨activation, member, owner⟩ := recorded.accepted id response answered ok
      exact ⟨activation, grown.subset member, owner⟩

/-- A reload outside the lock moves on, or takes it, with what it has read dated.

The other reloads are where they were. -/
theorem recorded_put (state : State Component) (id : Nat) (phase : Phase)
    (writer : Option (Holder Component)) (recorded : Recorded state)
    (dated : ∀ reading, phase.reading = some reading → reading.Dated state)
    (unaccepted : ∀ response, phase = .answered response → response.status ≠ 200)
    (held : ∀ holder, writer = some holder → holder.reading.version ≤ state.edits) :
    Recorded { state.put id phase with writer := writer } := by
  refine ⟨recorded.activated, ?_, held, ?_⟩
  · intro other found reading lookup reads
    suffices known : reading.Dated state from known.mono (List.prefix_refl _) (Nat.le_refl _)
    by_cases own : other = id
    · subst own
      obtain rfl := Option.some.inj ((reloads_put_self state other phase).symm.trans lookup)
      exact dated reading reads
    · exact recorded.readings other found reading
        ((reloads_put_other state phase own).symm.trans lookup) reads
  · intro other response answered ok
    by_cases own : other = id
    · subst own
      have same := Option.some.inj ((reloads_put_self state other phase).symm.trans answered)
      exact absurd ok (unaccepted response same)
    · exact recorded.accepted other response
        ((reloads_put_other state phase own).symm.trans answered) ok

/-- Every step keeps the record.

Edits leave every reading dated. A reload that moves reads nothing new or what is there now, and
one that takes the lock takes its dated reading with it. -/
theorem recorded_step (faultText : Toml.Fault → String) (state : State Component)
    (event : Event Component) (next : State Component) (recorded : Recorded state)
    (taken : step faultText state event = some next) : Recorded next := by
  cases step_taken faultText state next event taken with
  | surroundings externals wasm file edits routeRuntime later other =>
    refine ⟨?_, ?_, ?_, recorded.accepted⟩
    · intro activation member
      exact Nat.le_trans (recorded.activated activation member) later
    · intro id phase reading found reads
      exact (recorded.readings id phase reading found reads).mono (List.prefix_refl _) later
    · intro holder held
      exact Nat.le_trans (recorded.held holder held) later
  | moved id phase moves =>
    have follows := moves.follows
    apply recorded_put state id phase state.writer recorded _ follows.unaccepted recorded.held
    intro reading reads
    rcases follows.reading reading reads with before | now
    · obtain ⟨old, found, oldReads⟩ := Option.bind_eq_some_iff.mp before
      exact recorded.readings id old reading found oldReads
    · rw [now]
      exact dated_now state recorded.activated
  | lock id reading config loaded free =>
    apply recorded_put state id .writing _ recorded
    · simp [Phase.reading]
    · simp
    · intro holder held
      obtain rfl := Option.some.inj held
      exact (recorded.readings id _ reading loaded rfl).notNewer
  | write holder held writing => exact recorded_write state holder recorded held writing

/-! ## Undisturbed reloads -/

/-- The log is ordered, and what is about to be activated keeps it so. -/
structure Fresh (state : State Component) : Prop where
  ordered : Ordered state.log
  held : ∀ holder, state.writer = some holder →
    ∀ activation ∈ state.log, activation.version ≤ holder.reading.version

/-- A reload that takes the lock undisturbed has read no less than was activated.

Nothing was activated since it read, and what was activated before was of an earlier edit. -/
theorem notOlder_of_undisturbed (state : State Component) (id : Nat) (reading : Reading)
    (config : AppConfig) (recorded : Recorded state)
    (loaded : state.reloads id = some (.loaded reading config))
    (guarded : undisturbed state (.advance id) = true) :
    ∀ activation ∈ state.log, activation.version ≤ reading.version := by
  intro activation member
  simp only [undisturbed, loaded, Bool.or_eq_true, beq_iff_eq] at guarded
  rcases guarded with unedited | alone
  · rw [unedited]
    exact recorded.activated activation member
  · apply (recorded.readings id _ reading loaded rfl).notOlder
    rwa [alone, ← length_log, List.take_length]

/-- In an undisturbed run activations stay in the order of the edits.

A reload becomes the holder with a reading that is not older than any activation, and while it
holds the lock nobody else activates anything. -/
theorem fresh_step (faultText : Toml.Fault → String) (state : State Component)
    (event : Event Component) (next : State Component) (recorded : Recorded state)
    (fresh : Fresh state) (guarded : undisturbed state event = true)
    (taken : step faultText state event = some next) : Fresh next := by
  cases step_taken faultText state next event taken with
  | surroundings externals wasm file edits routeRuntime later other =>
    exact ⟨fresh.ordered, fresh.held⟩
  | moved id phase moves => exact ⟨fresh.ordered, fresh.held⟩
  | lock id reading config loaded free =>
    refine ⟨fresh.ordered, ?_⟩
    intro holder held
    obtain rfl := Option.some.inj held
    exact notOlder_of_undisturbed state id reading config recorded loaded guarded
  | write holder held writing =>
    have written := written_write state holder writing
    have notOlder := fresh.held holder held
    rcases written.log with ⟨same, _⟩ | ⟨new, added, _, version⟩
    · refine ⟨by rw [same]; exact fresh.ordered, ?_⟩
      intro other otherHeld
      rw [same, written.writer other otherHeld]
      exact notOlder
    · have last : ∀ activation ∈ state.log ++ [new],
          activation.version ≤ holder.reading.version := by
        intro activation member
        rcases List.mem_append.mp member with old | own
        · exact notOlder activation old
        · rw [List.mem_singleton.mp own, version]
      rw [← added] at last
      refine ⟨?_, fun other otherHeld => by rw [written.writer other otherHeld]; exact last⟩
      rw [added, Ordered, List.pairwise_append]
      refine ⟨fresh.ordered, List.pairwise_singleton _ _, ?_⟩
      intro earlier old later own
      rw [List.mem_singleton.mp own, version]
      exact notOlder earlier old

/-- In a run in which every reload takes the lock undisturbed, no content overwrites
a newer one, and whenever the lock is free the active configuration is the one read
last among those of all accepted reloads. -/
theorem newest_active_of_undisturbed (faultText : Toml.Fault → String)
    (externals : Config.Externals) (wasm : Policy.Wasmtime Component)
    (file : Except String String) (configPath : Option String) (config : AppConfig)
    (built : GatewayState Component) (builds : GatewayState.new wasm config = .ok built)
    (events : List (Event Component)) (final : State Component)
    (completed : Runs.run (step faultText)
      (start externals wasm file configPath config built) events = some final)
    (guarded : Runs.Guarded (step faultText) (fun state event => undisturbed state event = true)
      (start externals wasm file configPath config built) events) :
    Ordered final.log ∧
      (final.writer = none →
        final.currentConfig = final.active.config ∧
          Agrees final.active.wasm final.active.config final.gatewayState ∧
          ∀ id response, final.reloads id = some (.answered response) → response.status = 200 →
            ∃ activation ∈ final.log, activation.reload = some id ∧
              activation.version ≤ final.active.version) := by
  have consistent := consistent_run faultText externals wasm file configPath config built builds
    events final completed
  have ⟨recorded, fresh⟩ : Recorded final ∧ Fresh final :=
    Runs.guarded_invariant (step faultText) _ (fun state => Recorded state ∧ Fresh state)
      (fun state event next both guarded taken =>
        ⟨recorded_step faultText state event next both.1 taken,
          fresh_step faultText state event next both.1 both.2 guarded taken⟩)
      _ final events
      ⟨recorded_start externals wasm file configPath config built, by
        constructor <;> simp [start, State.log, Ordered]⟩
      guarded completed
  refine ⟨fresh.ordered, fun free => ⟨consistent.current, ?_, ?_⟩⟩
  · rw [← consistent.current]
    exact consistent.free free
  · intro id response answered ok
    obtain ⟨activation, member, owner⟩ := recorded.accepted id response answered ok
    refine ⟨activation, member, owner, ?_⟩
    rcases List.mem_append.mp member with old | own
    · exact (List.pairwise_append.mp fresh.ordered).2.2 activation old final.active
        List.mem_cons_self
    · rw [List.mem_singleton.mp own]

/-! Two reloads that overlap. -/

set_option maxRecDepth 4000

/-- Both read and take the lock one after the other. -/
def serialEvents : List (Event Unit) :=
  .edit (.ok (sampleText "x-second")) :: reloadSteps 0 8 ++
    .edit (.ok (sampleText "x-third")) :: reloadSteps 1 8

/-- Two reloads one after the other, and the second one's content is active. -/
theorem newest_active_of_serial_reloads :
    ∃ final, Runs.run (step fun _ => "fault") sampleStart serialEvents = some final ∧
      Ordered final.log ∧ final.currentConfig = sampleConfig "x-third" := by
  have guarded : Runs.Guarded (step fun _ => "fault")
      (fun state event => undisturbed state event = true) sampleStart serialEvents := by
    decide +kernel
  exact ⟨_, rfl, (newest_active_of_undisturbed (fun _ => "fault") sampleExternals
    Policy.permissiveWasm (.ok (sampleText "x-first")) (some "tracegate.toml")
    (sampleConfig "x-first") (sampleState "x-first") rfl serialEvents _ rfl guarded).1, rfl⟩

/-- The first reload has read the second content when the third one is activated. -/
def overlappingEvents : List (Event Unit) :=
  .edit (.ok (sampleText "x-second")) :: reloadSteps 0 3 ++
    .edit (.ok (sampleText "x-third")) :: reloadSteps 1 8 ++ List.replicate 5 (.advance 0)

/-- Both reloads are accepted, and the older content overwrites the newer one. -/
theorem stale_content_activated :
    ∃ final, Runs.run (step fun _ => "fault") sampleStart overlappingEvents = some final ∧
      final.writer = none ∧
      final.reloads 0 = some (.answered (reloaded (sampleConfig "x-second"))) ∧
      final.reloads 1 = some (.answered (reloaded (sampleConfig "x-third"))) ∧
      final.file = .ok (sampleText "x-third") ∧
      final.currentConfig = sampleConfig "x-second" ∧
      final.gatewayState.redaction.headers = ["x-second"] ∧
      final.log.map Activation.version = [0, 2, 1] :=
  ⟨_, rfl, rfl, rfl, rfl, rfl, rfl, rfl, rfl⟩

end TraceGate.Reloads
