import TraceGate.EvidenceOrigin
import TraceGate.ReplayUrls
import TraceGate.Simulation

/-!
# Replay calls beside the gateway

Any number of replay calls run beside the gateway: responses end and are handed over, the
queue and the writer persist them, retention deletes and evicts, and every call selects,
dispatches and records on the same store. No two statements of a call belong together: a
selection first finds the row of a request and then, statement by statement, its headers, its
capture and the rest, and in between the request may be deleted or written again under its
identifier.

What a call hands to its HTTP client is for the identifier it was asked for: the one that was
given, or the first that the store listed as failed at the moment the call asked for it. Where
the client then goes, and whether it follows a redirect, is outside of the gateway.

Identifiers of replays are fresh UUIDs, so no two requests are handed over under one. What
retention evicts, and when, is left open: its statements may delete or evict anything at any
time.
-/

namespace TraceGate

/-! ## The steps of one call -/

namespace Replay

/-- A step of the call's own, apart from its reads: it lists, gives up, dispatches, or ends with
or without its row written. -/
inductive Own (sql : SqlExternals) (parsers : Parsers) (options : ReplayOptions) (store : Store)
    (phase : Phase) : Event → Store → Phase → Prop where
  | listed (first : RequestSummary) (waits : phase.Waits)
      (asks : options.selector = .lastFailed)
      (found : (store.val.listRequests sql lastFailedFilters).head? = some first) :
      Own sql parsers options store phase .list store (.listed first.requestId)
  | gaveUp {event : Event} (err : ReplayError) (waits : phase.Waits) :
      Own sql parsers options store phase event store (.finished none (.error err))
  | dispatched (fresh : FreshIds) (details : RequestDetails) (request : ReplayRequest)
      (selected : phase = .selected details)
      (prepared : prepareReplay parsers options fresh details = .ok request) :
      Own sql parsers options store phase (.dispatch fresh) store (.dispatched details request)
  | recorded (result : DispatchResult) (latencyMs : Nat) (nowMs : Int) (details : RequestDetails)
      (request : ReplayRequest) (next : Store) (inFlight : phase = .dispatched details request)
      (written : store.perform sql
        (.insertReplayRun (replayRun details.request request latencyMs nowMs result)) = .ok next) :
      Own sql parsers options store phase (.record result latencyMs nowMs) next
        (.finished (some request.replayId)
          (replayReturn details.request request latencyMs result))
  | unrecorded (result : DispatchResult) (latencyMs : Nat) (nowMs : Int)
      (details : RequestDetails) (request : ReplayRequest) (err : DbError)
      (inFlight : phase = .dispatched details request) :
      Own sql parsers options store phase (.record result latencyMs nowMs) store
        (.finished (some request.replayId) (.error (.storage err)))

section

variable (sql : SqlExternals) (parsers : Parsers) (options : ReplayOptions)

/-- A step of a call by itself changes its phase and the store as one of these cases says.

The events are gone through one by one. A write of the gateway and the selection, which reads in
several statements here, are left out. -/
theorem step_own (state next : State) (event : Event) (own : ∀ other, event ≠ .gateway other)
    (reads : event ≠ .select) (taken : step sql parsers options state event = some next) :
    Own sql parsers options state.store state.phase event next.store next.phase := by
  cases event with
  | gateway other => exact absurd rfl (own other)
  | list =>
    simp only [step] at taken
    split at taken
    next phase asks =>
      have waits : state.phase.Waits := by simp [phase, Phase.Waits]
      split at taken
      next first found =>
        obtain rfl := Option.some.inj taken
        exact Own.listed first waits asks found
      next =>
        obtain rfl := Option.some.inj taken
        exact Own.gaveUp _ waits
    · exact absurd taken (by simp)
  | select => exact absurd rfl reads
  | dispatch fresh =>
    simp only [step] at taken
    split at taken
    next details phase =>
      split at taken
      · exact absurd taken (by simp)
      · split at taken
        · obtain rfl := Option.some.inj taken
          exact Own.gaveUp _ (by simp [phase, Phase.Waits])
        next request prepared =>
          obtain rfl := Option.some.inj taken
          exact Own.dispatched fresh details request phase prepared
    · exact absurd taken (by simp)
  | record result latencyMs nowMs =>
    simp only [step] at taken
    split at taken
    next details request phase =>
      split at taken
      next store written =>
        obtain rfl := Option.some.inj taken
        exact Own.recorded result latencyMs nowMs details request store phase written
      next err _ =>
        obtain rfl := Option.some.inj taken
        exact Own.unrecorded result latencyMs nowMs details request err phase
    · exact absurd taken (by simp)

end

end Replay

/-! ## The gateway and its replays -/

namespace Replays

variable {Component : Type} {capacity : Nat}

/-- A request that is being shown: what has been read, and what is read next. -/
structure Reading where
  stage : Stage
  details : RequestDetails

structure Call where
  options : Replay.ReplayOptions
  phase : Replay.Phase
  reading : Option Reading

/-- The identifier under which the call shows a request. -/
def Call.wanted (call : Call) : Option String :=
  match call.phase, call.options.selector with
  | .selecting, .id requestId => some requestId
  | .listed requestId, _ => some requestId
  | _, _ => none

/-- The next statement of `show_request`, and the end of `select_request` after the last. -/
def Call.read (sql : SqlExternals) (db : Database) (requestId : String) (call : Call) : Call :=
  match call.reading with
  | none =>
      match db.requests.find? fun row => row.requestId = requestId with
      | none => { call with phase := .finished none (.error (.requestNotFound requestId)) }
      | some row => { call with reading := some ⟨.requestHeaders, Database.bareDetails row⟩ }
  | some reading =>
      let details := db.readStage sql reading.details reading.stage
      match reading.stage.next with
      | some stage => { call with reading := some ⟨stage, details⟩ }
      | none => { call with phase := .selected details, reading := none }

/-- Six statements on one store select as a single step does. -/
theorem read_alone (sql : SqlExternals) (state : Replay.State) (requestId : String)
    (options : Replay.ReplayOptions) :
    ((Call.read sql state.store.val requestId)^[6] ⟨options, state.phase, none⟩).phase =
      (state.show sql requestId).phase := by
  unfold Replay.State.show
  rw [Database.showRequest_eq_stages]
  cases found : state.store.val.requests.find? fun row => decide (row.requestId = requestId) with
  | none => simp [Call.read, found, Replay.State.finish]
  | some row => simp [Call.read, found, Stage.next]

/-- A request that a call handed to its HTTP client, with what it had selected. -/
structure Sent where
  call : Nat
  options : Replay.ReplayOptions
  details : RequestDetails
  request : Replay.ReplayRequest

def Sent.replayId (sent : Sent) : String := sent.request.replayId

/-- The gateway's side, the calls, and what they have sent so far. -/
structure State (capacity : Nat) where
  capture : CaptureMarks.State capacity
  calls : Map Nat Call
  sent : List Sent

/-- The gateway's side moves on, retention deletes or evicts, a call is made, or it takes its
next step: a statement of its selection, or another. -/
inductive Event (Component : Type) where
  | capture (event : CaptureMarks.Event Component)
  | deleteExpired (cutoff : Int)
  | evictBody (requestId : String)
  | ask (id : Nat) (options : Replay.ReplayOptions)
  | read (id : Nat)
  | advance (id : Nat) (event : Replay.Event)

/-- What a call sends by a step to a phase. -/
def newlySent (id : Nat) (options : Replay.ReplayOptions) (event : Replay.Event)
    (after : Replay.Phase) : List Sent :=
  match event, after with
  | .dispatch _, .dispatched details request => [⟨id, options, details, request⟩]
  | _, _ => []

/-- The gateway's writes are not a call's, a selection takes its statements one by one, and an
identifier that was used is not drawn. -/
def permitted (sent : List Sent) : Replay.Event → Bool
  | .gateway _ | .select => false
  | .dispatch fresh => decide (fresh.replayId ∉ sent.map Sent.replayId)
  | .list | .record _ _ _ => true

def step (externals : Externals) (sql : SqlExternals) (parsers : Replay.Parsers)
    (state : State capacity) : Event Component → Option (State capacity)
  | .capture event =>
      if CaptureMarks.ofGateway event then
        (CaptureMarks.step externals sql state.capture event).map fun capture =>
          { state with capture := capture }
      else none
  | .deleteExpired cutoff =>
      let store := state.capture.store.deleteRequests fun row => decide (row.createdAtMs < cutoff)
      some { state with capture := { state.capture with store := store } }
  | .evictBody requestId =>
      let store := state.capture.store.evictBody requestId
      some { state with capture := { state.capture with store := store } }
  | .ask id options =>
      match state.calls id with
      | none => some { state with calls := state.calls.insert id ⟨options, .selecting, none⟩ }
      | some _ => none
  | .read id =>
      match state.calls id with
      | none => none
      | some call => call.wanted.map fun requestId =>
          { state with
            calls := state.calls.insert id (call.read sql state.capture.store.val requestId) }
  | .advance id event =>
      match state.calls id with
      | none => none
      | some call =>
          if permitted state.sent event then
            (Replay.step sql parsers call.options ⟨state.capture.store, call.phase, []⟩
              event).map fun next =>
                { capture := { state.capture with store := next.store }
                  calls := state.calls.insert id { call with phase := next.phase }
                  sent := state.sent ++ newlySent id call.options event next.phase }
          else none

def start (capacity : Nat) (closed : Bool) : State capacity :=
  ⟨CaptureMarks.start capacity closed, fun _ => none, []⟩

/-! ## What a step can do -/

inductive Change (externals : Externals) (sql : SqlExternals) (parsers : Replay.Parsers)
    (state : State capacity) : Event Component → State capacity → Prop where
  | capture (event : CaptureMarks.Event Component) (gateway : CaptureMarks.ofGateway event = true)
      (capture : CaptureMarks.State capacity)
      (taken : CaptureMarks.step externals sql state.capture event = some capture) :
      Change externals sql parsers state (.capture event) { state with capture := capture }
  | deleted (cutoff : Int) :
      Change externals sql parsers state (.deleteExpired cutoff)
        { state with capture := { state.capture with
            store := state.capture.store.deleteRequests fun row =>
              decide (row.createdAtMs < cutoff) } }
  | evicted (requestId : String) :
      Change externals sql parsers state (.evictBody requestId)
        { state with capture := { state.capture with
            store := state.capture.store.evictBody requestId } }
  | ask (id : Nat) (options : Replay.ReplayOptions) (absent : state.calls id = none) :
      Change externals sql parsers state (.ask id options)
        { state with calls := state.calls.insert id ⟨options, .selecting, none⟩ }
  | read (id : Nat) (call : Call) (requestId : String) (found : state.calls id = some call)
      (wanted : call.wanted = some requestId) :
      Change externals sql parsers state (.read id)
        { state with
          calls := state.calls.insert id (call.read sql state.capture.store.val requestId) }
  | advance (id : Nat) (event : Replay.Event) (call : Call) (store : Store)
      (phase : Replay.Phase) (found : state.calls id = some call)
      (allowed : permitted state.sent event = true)
      (own : Replay.Own sql parsers call.options state.capture.store call.phase event store
        phase) :
      Change externals sql parsers state (.advance id event)
        { capture := { state.capture with store := store }
          calls := state.calls.insert id { call with phase := phase }
          sent := state.sent ++ newlySent id call.options event phase }

/-- Every step changes the state in one of these ways.

The events are gone through one by one, with `step_own` for a call that moves by itself. -/
theorem step_change (externals : Externals) (sql : SqlExternals) (parsers : Replay.Parsers)
    (state next : State capacity) (event : Event Component)
    (taken : step externals sql parsers state event = some next) :
    Change externals sql parsers state event next := by
  cases event with
  | capture event =>
    simp only [step] at taken
    split at taken
    next gateway =>
      obtain ⟨capture, stepped, rfl⟩ := Option.map_eq_some_iff.mp taken
      exact Change.capture event gateway capture stepped
    · exact absurd taken (by simp)
  | deleteExpired cutoff =>
    obtain rfl := Option.some.inj taken
    exact Change.deleted cutoff
  | evictBody requestId =>
    obtain rfl := Option.some.inj taken
    exact Change.evicted requestId
  | ask id options =>
    simp only [step] at taken
    split at taken
    next absent =>
      obtain rfl := Option.some.inj taken
      exact Change.ask id options absent
    · exact absurd taken (by simp)
  | read id =>
    simp only [step] at taken
    split at taken
    · exact absurd taken (by simp)
    next call found =>
      obtain ⟨requestId, wanted, rfl⟩ := Option.map_eq_some_iff.mp taken
      exact Change.read id call requestId found wanted
  | advance id event =>
    simp only [step] at taken
    split at taken
    · exact absurd taken (by simp)
    next call found =>
      split at taken
      next allowed =>
        obtain ⟨after, stepped, rfl⟩ := Option.map_eq_some_iff.mp taken
        refine Change.advance id event call after.store after.phase found allowed ?_
        refine Replay.step_own sql parsers call.options
          ⟨state.capture.store, call.phase, []⟩ after event ?_ ?_ stepped
        · rintro other rfl
          exact absurd allowed (by simp [permitted])
        · rintro rfl
          exact absurd allowed (by simp [permitted])
      · exact absurd taken (by simp)

/-! ## What a call selects -/

/-- What the store lists first as failed for a call that asks for it. -/
def listings (sql : SqlExternals) (state : State capacity) : Event Component → List (Nat × String)
  | .advance id .list =>
      ((state.capture.store.val.listRequests sql Replay.lastFailedFilters).head?.map fun first =>
        (id, first.requestId)).toList
  | _ => []

/-- The identifier is the one that the call was given, or one that was listed for it. -/
def Selects (listed : List (Nat × String)) (id : Nat) (options : Replay.ReplayOptions)
    (requestId : String) : Prop :=
  match options.selector with
  | .id given => requestId = given
  | .lastFailed => (id, requestId) ∈ listed

/-- A request that was selected stays one when more is listed. -/
theorem Selects.mono {listed : List (Nat × String)} {id : Nat} {options : Replay.ReplayOptions}
    {requestId : String} (selects : Selects listed id options requestId)
    (later : List (Nat × String)) : Selects (listed ++ later) id options requestId := by
  unfold Selects at selects ⊢
  split at selects
  · exact selects
  · exact List.mem_append_left _ selects

/-- What was listed for a call, what it reads and what it has selected is under an identifier it
asks for. -/
structure Call.Selecting (listed : List (Nat × String)) (id : Nat) (call : Call) : Prop where
  named : ∀ requestId, call.phase = .listed requestId →
    Selects listed id call.options requestId
  reading : ∀ reading, call.reading = some reading →
    Selects listed id call.options reading.details.requestId
  selected : ∀ details, call.phase = .selected details →
    Selects listed id call.options details.requestId

namespace Call.Selecting

variable {listed : List (Nat × String)} {id : Nat} {call : Call}

/-- Later listings change nothing for a call that is selecting. -/
theorem mono (selecting : call.Selecting listed id) (later : List (Nat × String)) :
    call.Selecting (listed ++ later) id where
  named := fun requestId phase => (selecting.named requestId phase).mono later
  reading := fun reading begun => (selecting.reading reading begun).mono later
  selected := fun details phase => (selecting.selected details phase).mono later

/-- The request that a call shows is one it asks for: the one of its options, or the one that
was listed for it. -/
theorem wanted (selecting : call.Selecting listed id) (requestId : String)
    (wanted : call.wanted = some requestId) : Selects listed id call.options requestId := by
  unfold Call.wanted at wanted
  split at wanted
  next given asked =>
    obtain rfl := Option.some.inj wanted
    simp [Selects, asked]
  next other phase =>
    obtain rfl := Option.some.inj wanted
    exact selecting.named other phase
  · exact absurd wanted (by simp)

/-- A statement of the selection reads on under the identifier of the row that it found first.

A statement that finds nothing ends the call. Any other adds its part to what was read, and the
identifier stays that of the first row. -/
theorem read (selecting : call.Selecting listed id) (sql : SqlExternals) (db : Database)
    (requestId : String) (asked : call.wanted = some requestId) :
    (call.read sql db requestId).Selecting listed id := by
  have unselected : ∀ details, call.phase ≠ .selected details := by
    intro details same
    simp [Call.wanted, same] at asked
  unfold Call.read
  split
  next unread =>
    split
    next => exact ⟨by simp, by simp [unread], by simp⟩
    next row stored =>
      obtain rfl : row.requestId = requestId := by simpa using List.find?_some stored
      refine ⟨selecting.named, ?_, fun details same => absurd same (unselected details)⟩
      rintro _ ⟨⟩
      exact selecting.wanted row.requestId asked
  next reading half =>
    have same : (db.readStage sql reading.details reading.stage).requestId =
        reading.details.requestId := by
      cases reading.stage <;> rfl
    have begun := selecting.reading reading half
    rw [← same] at begun
    split
    next =>
      refine ⟨selecting.named, ?_, fun details same => absurd same (unselected details)⟩
      rintro _ ⟨⟩
      exact begun
    next =>
      refine ⟨by simp, by simp, ?_⟩
      rintro _ ⟨⟩
      exact begun

/-- A call that has handed its request over, or ended, selects no more. -/
theorem past (selecting : call.Selecting listed id) (phase : Replay.Phase)
    (waitsNot : ¬ phase.Waits) : { call with phase := phase }.Selecting listed id where
  named := by
    rintro requestId rfl
    exact absurd trivial waitsNot
  reading := selecting.reading
  selected := by
    rintro details rfl
    exact absurd trivial waitsNot

end Call.Selecting

/-- Every call, and everything handed over, keeps to the identifier that was asked for. -/
structure Chosen (listed : List (Nat × String)) (state : State capacity) : Prop where
  calls : ∀ id call, state.calls id = some call → call.Selecting listed id
  sent : ∀ sent ∈ state.sent, Selects listed sent.call sent.options sent.details.requestId

namespace Chosen

variable {externals : Externals} {sql : SqlExternals} {parsers : Replay.Parsers}
  {listed : List (Nat × String)} {state : State capacity}

/-- Later listings change nothing for what was chosen. -/
theorem mono (chosen : Chosen listed state) (later : List (Nat × String)) :
    Chosen (listed ++ later) state where
  calls := fun id call found => (chosen.calls id call found).mono later
  sent := fun sent member => (chosen.sent sent member).mono later

/-- A call moves on and hands over what it may.

The other calls are untouched, and what was handed over before was chosen before. -/
theorem moved (chosen : Chosen listed state) (id : Nat) (call : Call)
    (selecting : call.Selecting listed id) (capture : CaptureMarks.State capacity)
    (more : List Sent)
    (own : ∀ sent ∈ more, Selects listed sent.call sent.options sent.details.requestId) :
    Chosen listed
      { capture := capture, calls := state.calls.insert id call, sent := state.sent ++ more } where
  calls := by
    intro other caller found
    simp only [Map.insert] at found
    split at found
    next same =>
      obtain rfl := Option.some.inj found
      exact same ▸ selecting
    · exact chosen.calls other caller found
  sent := List.forall_mem_append.mpr ⟨chosen.sent, own⟩

/-- One step of the whole. The identifier that a call gets by listing is left behind by the
listing. -/
theorem step (chosen : Chosen listed state) (event : Event Component) (next : State capacity)
    (taken : Replays.step externals sql parsers state event = some next) :
    Chosen (listed ++ listings sql state event) next := by
  cases step_change externals sql parsers state next event taken with
  | capture event gateway capture stepped =>
    exact ⟨(chosen.mono _).calls, (chosen.mono _).sent⟩
  | deleted cutoff => exact ⟨(chosen.mono _).calls, (chosen.mono _).sent⟩
  | evicted requestId => exact ⟨(chosen.mono _).calls, (chosen.mono _).sent⟩
  | ask id options absent =>
    have more := (chosen.mono (listings sql state (.ask id options : Event Component))).moved id
      ⟨options, .selecting, none⟩ ⟨by simp, by simp, by simp⟩ state.capture [] (by simp)
    rwa [List.append_nil] at more
  | read id call requestId found wanted =>
    have selecting := (chosen.calls id call found).read sql state.capture.store.val requestId
      wanted
    have more := (chosen.mono (listings sql state (.read id : Event Component))).moved id _
      (selecting.mono _) state.capture [] (by simp)
    rwa [List.append_nil] at more
  | advance id event call store phase found allowed own =>
    have later := chosen.mono (listings sql state (.advance id event : Event Component))
    have selecting := later.calls id call found
    cases own with
    | listed first waits asks stored =>
      refine later.moved id { call with phase := .listed first.requestId }
        ⟨?_, selecting.reading, by simp⟩ _ [] (by simp)
      rintro _ ⟨⟩
      simp [Selects, asks, listings, stored]
    | gaveUp err waits =>
      refine later.moved id _ (selecting.past _ (by simp [Replay.Phase.Waits])) _ _ ?_
      unfold newlySent
      split
      next found => exact absurd found (by simp)
      · simp
    | dispatched fresh details request ready prepared =>
      refine later.moved id _ (selecting.past _ (by simp [Replay.Phase.Waits])) _ _ ?_
      exact List.forall_mem_singleton.mpr (selecting.selected details ready)
    | recorded result latencyMs nowMs details request _ inFlight written =>
      exact later.moved id _ (selecting.past _ (by simp [Replay.Phase.Waits])) _ _
        (by simp [newlySent])
    | unrecorded result latencyMs nowMs details request err inFlight =>
      exact later.moved id _ (selecting.past _ (by simp [Replay.Phase.Waits])) _ _
        (by simp [newlySent])

end Chosen

/-- Over a whole run, what a call handed over is for the identifier that it was given, or that
was listed first as failed when it asked. -/
theorem selects_of_run (externals : Externals) (sql : SqlExternals) (parsers : Replay.Parsers)
    (capacity : Nat) (closed : Bool) (events : List (Event Component)) (final : State capacity)
    (completed : Runs.run (step externals sql parsers) (start capacity closed) events =
      some final)
    (sent : Sent) (member : sent ∈ final.sent) :
    Selects (Runs.trace (step externals sql parsers) (listings sql) (start capacity closed) events)
      sent.call sent.options sent.details.requestId := by
  have chosen := Runs.traced_invariant (step externals sql parsers) (fun _ _ => True)
    (listings sql) Chosen
    (fun listed state event next chosen _ taken => chosen.step event next taken)
    [] (start capacity closed) final events ⟨by simp [start], by simp [start]⟩
    (Runs.guarded_true _ _ events) completed
  rw [List.nil_append] at chosen
  exact chosen.sent sent member

end Replays

end TraceGate
