import TraceGate.Replay
import TraceGate.Store

/-!
# A replay against the running gateway

One replay call and the gateway's own writes take turns on one store. The call
selects a request (in two statements when it asks for the last failed one),
checks and builds what it will send, dispatches it, and then writes its audit row
under a foreign key to the request it selected. Nothing holds that request in the
store in the meantime.

The replay's identifier is a fresh UUID: no row of the store has it.
-/

namespace TraceGate.Replay

/-- Where the call stands. A finished call knows which identifier it dispatched
under, if it dispatched at all. -/
inductive Phase where
  | selecting
  | listed (requestId : String)
  | selected (details : RequestDetails)
  | dispatched (details : RequestDetails) (request : ReplayRequest)
  | finished (dispatchedAs : Option String) (result : Except ReplayError ReplayOutcome)

/-- The store, the call, and the audit rows the call has written. -/
structure State where
  store : Store
  phase : Phase
  written : List ReplayRun

inductive Event where
  | gateway (event : StoreEvent)
  | list
  | select
  | dispatch (fresh : FreshIds)
  | record (result : DispatchResult) (latencyMs : Nat) (nowMs : Int)

def State.finish (state : State) (dispatchedAs : Option String)
    (result : Except ReplayError ReplayOutcome) : State :=
  { state with phase := .finished dispatchedAs result }

/-- `show_request` of the identifier to replay. -/
def State.show (sql : SqlExternals) (state : State) (requestId : String) : State :=
  match state.store.val.showRequest sql requestId with
  | some details => { state with phase := .selected details }
  | none => state.finish none (.error (.requestNotFound requestId))

def lastFailedFilters : ListFilters :=
  { failed := true, slow := false, routeId := none, sinceCreatedAtMs := none, limit := 1 }

/-- One event of the call or of the gateway beside it. Identifiers are fresh: the dispatch with
a used one does not happen. Where the audit row cannot be written, the request has been sent and
only the error tells of it. -/
def step (sql : SqlExternals) (parsers : Parsers) (options : ReplayOptions) (state : State) :
    Event → Option State
  | .gateway (.insertReplayRun _) => none
  | .gateway event => some { state with store := state.store.apply sql event }
  | .list =>
      match state.phase, options.selector with
      | .selecting, .lastFailed =>
          match (state.store.val.listRequests sql lastFailedFilters).head? with
          | some request => some { state with phase := .listed request.requestId }
          | none => some (state.finish none (.error .noFailedRequest))
      | _, _ => none
  | .select =>
      match state.phase, options.selector with
      | .selecting, .id requestId => some (state.show sql requestId)
      | .listed requestId, _ => some (state.show sql requestId)
      | _, _ => none
  | .dispatch fresh =>
      match state.phase with
      | .selected details =>
          if fresh.replayId ∈ state.store.val.replayRuns.map ReplayRunInsert.replayId then none
          else
            match prepareReplay parsers options fresh details with
            | .error err => some (state.finish none (.error err))
            | .ok request => some { state with phase := .dispatched details request }
      | _ => none
  | .record result latencyMs nowMs =>
      match state.phase with
      | .dispatched details request =>
          let run := replayRun details.request request latencyMs nowMs result
          match state.store.perform sql (.insertReplayRun run) with
          | .ok store =>
              some
                { store := store
                  phase := .finished (some request.replayId)
                    (replayReturn details.request request latencyMs result)
                  written := state.written ++ [run.row] }
          | .error err => some (state.finish (some request.replayId) (.error (.storage err)))
      | _ => none

def start (store : Store) : State := ⟨store, .selecting, []⟩

/-! ## What a step can do -/

/-- The call has neither dispatched nor finished. -/
def Phase.Waits : Phase → Prop
  | .selecting | .listed _ | .selected _ => True
  | .dispatched _ _ | .finished _ _ => False

/-- The call waits, or has finished without dispatching. -/
def Phase.Unsent : Phase → Prop
  | .finished none _ => True
  | phase => phase.Waits

/-- The kinds of steps: a write of the gateway, a step of a call that sends nothing, the
dispatch, and the end of a call that dispatched. -/
inductive Move (sql : SqlExternals) (parsers : Parsers) (options : ReplayOptions) (state : State) :
    Event → State → Prop where
  | gateway (event : StoreEvent) (own : ∀ run, event ≠ .insertReplayRun run) :
      Move sql parsers options state (.gateway event)
        { state with store := state.store.apply sql event }
  | unsent {event : Event} (phase : Phase) (waits : state.phase.Waits) (unsent : phase.Unsent)
      (other : ∀ result latencyMs nowMs, event ≠ .record result latencyMs nowMs) :
      Move sql parsers options state event { state with phase := phase }
  | dispatch (fresh : FreshIds) (details : RequestDetails) (request : ReplayRequest)
      (selected : state.phase = .selected details)
      (unused : fresh.replayId ∉ state.store.val.replayRuns.map ReplayRunInsert.replayId)
      (prepared : prepareReplay parsers options fresh details = .ok request) :
      Move sql parsers options state (.dispatch fresh)
        { state with phase := .dispatched details request }
  | record (result : DispatchResult) (latencyMs : Nat) (nowMs : Int) (details : RequestDetails)
      (request : ReplayRequest) (next : State)
      (inFlight : state.phase = .dispatched details request)
      (finished : ∃ returned, next.phase = .finished (some request.replayId) returned) :
      Move sql parsers options state (.record result latencyMs nowMs) next

/-- Showing the request changes only the phase, and sends nothing. -/
theorem unsent_show (sql : SqlExternals) (state : State) (requestId : String) :
    ∃ phase, state.show sql requestId = { state with phase := phase } ∧ phase.Unsent := by
  unfold State.show
  split
  · exact ⟨_, rfl, trivial⟩
  · exact ⟨_, rfl, trivial⟩

/-- Every step is one of these kinds.

The events and phases are gone through one by one; the pairs that do not fit are no steps. -/
theorem step_move (sql : SqlExternals) (parsers : Parsers) (options : ReplayOptions)
    (state next : State) (event : Event)
    (taken : step sql parsers options state event = some next) :
    Move sql parsers options state event next := by
  cases event with
  | gateway written =>
    cases written with
    | insertReplayRun run => simp [step] at taken
    | insertRequest record requestHeaders responseHeaders capture pluginDecisions =>
      obtain rfl := Option.some.inj taken
      exact Move.gateway _ (by simp)
    | runRetention nowMs retentionDays maxTotal =>
      obtain rfl := Option.some.inj taken
      exact Move.gateway _ (by simp)
  | list =>
    simp only [step] at taken
    split at taken
    next phase _ =>
      split at taken
      all_goals
        obtain rfl := Option.some.inj taken
        exact Move.unsent _ (by simp [phase, Phase.Waits]) trivial (by simp)
    · exact absurd taken (by simp)
  | select =>
    have shown : ∀ requestId, state.phase.Waits → some (state.show sql requestId) = some next →
        Move sql parsers options state .select next := by
      intro requestId waits given
      obtain rfl := Option.some.inj given
      obtain ⟨phase, same, unsent⟩ := unsent_show sql state requestId
      rw [same]
      exact Move.unsent phase waits unsent (by simp)
    simp only [step] at taken
    split at taken
    next phase _ => exact shown _ (by simp [phase, Phase.Waits]) taken
    next phase => exact shown _ (by simp [phase, Phase.Waits]) taken
    · exact absurd taken (by simp)
  | dispatch fresh =>
    simp only [step] at taken
    split at taken
    next details phase =>
      split at taken
      · exact absurd taken (by simp)
      next unused =>
        split at taken
        · obtain rfl := Option.some.inj taken
          exact Move.unsent _ (by simp [phase, Phase.Waits]) trivial (by simp)
        next request prepared =>
          obtain rfl := Option.some.inj taken
          exact Move.dispatch fresh details request phase unused prepared
    · exact absurd taken (by simp)
  | record result latencyMs nowMs =>
    simp only [step] at taken
    split at taken
    next details request phase =>
      split at taken
      all_goals
        obtain rfl := Option.some.inj taken
        exact Move.record result latencyMs nowMs details request _ phase ⟨_, rfl⟩
    · exact absurd taken (by simp)

/-! ## The audit row -/

/-- A finished call that dispatched has written a row under its identifier. -/
def Audited (state : State) : Prop :=
  ∀ replayId result, state.phase = .finished (some replayId) result →
    ∃ row ∈ state.written, row.replayId = replayId

/-- The original request is in the store when the audit row is written. -/
def OriginalPresent (state : State) (event : Event) : Prop :=
  match event, state.phase with
  | .record _ _ _, .dispatched details _ =>
      details.request.requestId ∈ state.store.val.requestIds
  | _, _ => True

instance (state : State) (event : Event) : Decidable (OriginalPresent state event) := by
  unfold OriginalPresent
  split <;> infer_instance

/-- Until the call has finished it has written nothing, and no row of the store has
the identifier it dispatched under. -/
structure Inv (state : State) : Prop where
  fresh : ∀ details request, state.phase = .dispatched details request →
    request.replayId ∉ state.store.val.replayRuns.map ReplayRunInsert.replayId
  unwritten : (∀ dispatchedAs result, state.phase ≠ .finished dispatchedAs result) →
    state.written = []

/-- The gateway's writes add no replay run: an insertion deletes those of an earlier request,
and retention those of expired ones. -/
theorem replayRuns_apply_subset (sql : SqlExternals) (store : Store) (event : StoreEvent)
    (own : ∀ run, event ≠ .insertReplayRun run) :
    (store.apply sql event).val.replayRuns ⊆ store.val.replayRuns := by
  rcases store.apply_cases sql event with same | performed
  · rw [same]
    exact List.Subset.refl _
  · cases event with
    | insertReplayRun run => exact absurd rfl (own run)
    | insertRequest record requestHeaders responseHeaders capture pluginDecisions =>
      obtain ⟨_, _, _, same⟩ := (Database.insertRequest_ok_iff sql store.property record
        requestHeaders responseHeaders capture pluginDecisions _).mp performed
      rw [same]
      exact List.filter_subset_self _
    | runRetention nowMs retentionDays maxTotal =>
      obtain ⟨change, _, same⟩ := store.val.runRetention_evicts sql.captureOrder
        (retentionCutoff nowMs retentionDays) maxTotal
      rw [← Except.ok.inj performed, same]
      exact List.filter_subset_self _

/-- A prepared request carries the fresh identifier. -/
theorem replayId_of_prepareReplay (parsers : Parsers) (options : ReplayOptions)
    (fresh : FreshIds) (details : RequestDetails) (request : ReplayRequest)
    (prepared : prepareReplay parsers options fresh details = .ok request) :
    request.replayId = fresh.replayId := by
  simp only [prepareReplay, buildReplayRequest, bind, Except.bind] at prepared
  repeat' split at prepared
  all_goals first
    | exact absurd prepared (by simp)
    | (obtain rfl := Except.ok.inj prepared; rfl)

/-- A call that has not dispatched, or not finished, is audited so far. -/
theorem audited_of_not_finished {state : State}
    (pending : ∀ replayId result, state.phase ≠ .finished (some replayId) result) :
    Audited state :=
  fun replayId result finished => absurd finished (pending replayId result)

/-- Moving from one such phase to another keeps everything. -/
theorem exact_of_pending {state next : State} {event : Event} (inv : Inv next)
    (before : ∀ replayId result, state.phase ≠ .finished (some replayId) result)
    (after : ∀ replayId result, next.phase ≠ .finished (some replayId) result)
    (unguarded : OriginalPresent state event) :
    Inv next ∧ (Audited next ↔ Audited state ∧ OriginalPresent state event) :=
  ⟨inv, by simp [audited_of_not_finished before, audited_of_not_finished after, unguarded]⟩

/-- The gateway's writes keep the invariant: an identifier that was not used stays unused. -/
theorem gateway_exact (sql : SqlExternals) (state : State) (event : StoreEvent)
    (own : ∀ run, event ≠ .insertReplayRun run) (inv : Inv state) :
    Inv { state with store := state.store.apply sql event } := by
  refine ⟨fun details request dispatched taken => ?_, inv.unwritten⟩
  exact inv.fresh details request dispatched
    (List.map_subset _ (replayRuns_apply_subset sql state.store event own) taken)

/-- Writing the audit row: the identifier is fresh, so the row is written exactly
when the request it refers to is there. -/
theorem record_exact (sql : SqlExternals) (state next : State) (details : RequestDetails)
    (request : ReplayRequest) (result : DispatchResult) (latencyMs : Nat) (nowMs : Int)
    (parsers : Parsers) (options : ReplayOptions) (inv : Inv state)
    (phase : state.phase = .dispatched details request)
    (taken : step sql parsers options state (.record result latencyMs nowMs) = some next) :
    Inv next ∧ (Audited next ↔ Audited state ∧
      OriginalPresent state (.record result latencyMs nowMs)) := by
  have pending : Audited state := audited_of_not_finished (by simp [phase])
  have unwritten := inv.unwritten (by simp [phase])
  have present : OriginalPresent state (.record result latencyMs nowMs) ↔
      details.request.requestId ∈ state.store.val.requestIds := by
    simp only [OriginalPresent, phase]
  rw [present]
  simp only [step, phase] at taken
  cases performed : state.store.perform sql
      (.insertReplayRun (replayRun details.request request latencyMs nowMs result)) with
  | ok store =>
    simp only [performed, Option.some.injEq] at taken
    subst taken
    obtain ⟨_, owned, _⟩ := (Database.insertReplayRun_ok_iff _ _ _).mp
      ((Store.perform_ok_iff sql state.store store _).mp performed)
    rw [originalRequestId_replayRun] at owned
    refine ⟨⟨by simp, by simp⟩, ?_⟩
    simp only [pending, owned, and_self, iff_true]
    rintro _ _ ⟨⟩
    exact ⟨_, List.mem_append_right _ (List.mem_singleton.mpr rfl),
      replayId_replayRun details.request request latencyMs nowMs result⟩
  | error err =>
    simp only [performed, Option.some.injEq] at taken
    subst taken
    have absent : details.request.requestId ∉ state.store.val.requestIds := by
      intro owned
      have written := (Database.insertReplayRun_ok_iff state.store.val _
        (replayRun details.request request latencyMs nowMs result)).mpr
        ⟨by rw [replayId_replayRun]; exact inv.fresh details request phase,
          by rw [originalRequestId_replayRun]; exact owned, rfl⟩
      have valid := state.store.property.insertReplayRun _ written
      have succeeded := (Store.perform_ok_iff sql state.store ⟨_, valid⟩
        (.insertReplayRun (replayRun details.request request latencyMs nowMs result))).mpr written
      rw [succeeded] at performed
      cases performed
    refine ⟨⟨by simp [State.finish], by simp [State.finish]⟩, ?_⟩
    simp only [pending, absent, and_false, iff_false]
    intro audited
    obtain ⟨row, member, _⟩ := audited request.replayId _ rfl
    simp [State.finish, unwritten] at member

/-- A step keeps the invariant, and the call is audited after it exactly if it was before and
the recorded request was still there.

Only the end of a dispatched call matters. The row's identifier is unused by the invariant, so
what can refuse the insertion is the reference to the original request. -/
theorem step_exact (sql : SqlExternals) (parsers : Parsers) (options : ReplayOptions)
    (state : State) (event : Event) (next : State) (inv : Inv state)
    (taken : step sql parsers options state event = some next) :
    Inv next ∧ (Audited next ↔ Audited state ∧ OriginalPresent state event) := by
  cases step_move sql parsers options state next event taken with
  | gateway written own =>
    exact ⟨gateway_exact sql state written own inv, by simp [Audited, OriginalPresent]⟩
  | unsent phase waits unsent other =>
    have unwritten := inv.unwritten (by rintro _ _ same; simp [same, Phase.Waits] at waits)
    refine exact_of_pending ⟨?_, fun _ => unwritten⟩ ?_ ?_ ?_
    · rintro _ _ rfl
      exact absurd unsent (by simp [Phase.Unsent, Phase.Waits])
    · rintro _ _ same
      simp [same, Phase.Waits] at waits
    · rintro _ _ rfl
      exact absurd unsent (by simp [Phase.Unsent, Phase.Waits])
    · cases event with
      | record result latencyMs nowMs => exact absurd rfl (other result latencyMs nowMs)
      | _ => simp [OriginalPresent]
  | dispatch fresh details request selected unused prepared =>
    have unwritten := inv.unwritten (by simp [selected])
    refine exact_of_pending ⟨?_, fun _ => unwritten⟩ (by simp [selected]) (by simp)
      (by simp [OriginalPresent])
    rintro _ _ ⟨⟩
    rw [replayId_of_prepareReplay parsers options fresh details request prepared]
    exact unused
  | record result latencyMs nowMs details request _ inFlight _ =>
    exact record_exact sql state next details request result latencyMs nowMs parsers options
      inv inFlight taken

/-- A replay that dispatched has its audit row written, exactly in the runs in which
the request it selected is still stored when it writes the row. -/
theorem audited_iff_originalPresent (sql : SqlExternals) (parsers : Parsers)
    (options : ReplayOptions) (store : Store) (events : List Event) (final : State)
    (completed : Runs.run (step sql parsers options) (start store) events = some final) :
    Audited final ↔
      Runs.Guarded (step sql parsers options) OriginalPresent (start store) events := by
  have initially : Audited (start store) := audited_of_not_finished (by simp [start])
  exact Runs.run_keeps_iff_guarded (step sql parsers options) OriginalPresent Inv Audited
    (fun state event next => step_exact sql parsers options state event next)
    (start store) final events ⟨by simp [start], fun _ => rfl⟩ initially completed

/-- Parsers for which every target is an origin of its own. -/
def plainParsers : Parsers :=
  ⟨fun text => .ok ⟨"http", some "staging", "/", none, none, text⟩, fun _ => .ok (),
    ⟨.ok, fun text => .ok (.ofAscii text)⟩⟩

def recordedStore : Store := Store.empty.apply plainSql (.insertRequest sampleRecord [] [] none [])

def replayOptions : ReplayOptions := ⟨.id "r", "http://staging", false⟩

def replaySteps : List Event := [.select, .dispatch ⟨"p", "q"⟩]

/-- With nothing in between, the audit row is written. -/
theorem audited_without_interference : ∃ final,
    Runs.run (step plainSql plainParsers replayOptions) (start recordedStore)
        (replaySteps ++ [.record (.answered 200 0) 3 2000]) = some final ∧
      Audited final :=
  ⟨_, rfl, (audited_iff_originalPresent plainSql plainParsers replayOptions recordedStore
    (replaySteps ++ [.record (.answered 200 0) 3 2000]) _ rfl).mpr (by decide)⟩

/-- A retention run after the dispatch deletes the request; the target has answered,
and no audit row is written. -/
theorem retention_silences_replay : ∃ final,
    Runs.run (step plainSql plainParsers replayOptions) (start recordedStore)
        (replaySteps ++ [.gateway (.runRetention 1500 0 1024), .record (.answered 200 0) 3 2000]) =
          some final ∧
      final.store.val.replayRuns = [] ∧ ¬ Audited final := by
  refine ⟨_, rfl, by decide, fun audited => ?_⟩
  obtain ⟨row, member, _⟩ := audited "p" _ rfl
  exact List.not_mem_nil member

end TraceGate.Replay
