import TraceGate.CaptureMarks
import TraceGate.CaptureOrder
import TraceGate.ConcurrentRetention
import TraceGate.RequestIds
import TraceGate.StoreArchive

/-!
# Where shown evidence comes from

What `show_request` returns is put together from six tables that many responses, replays
and retention runs have written to. Here the whole way is followed: responses end and hand
over one write each, the queue forwards or strips it, the writer inserts it, and retention
deletes and evicts. At every moment, what the tables have of a request is of the last write
persisted under its identifier.

The six tables are read one after another, outside a transaction. A request that is written
again in between is shown with the row of one write and further parts of a later one, never of
an earlier one; one that is deleted in between loses the parts that were not yet read.
-/

namespace TraceGate

/-! ## Showing a request, statement by statement -/

/-- The statements of `assemble_request_details` after the one that finds the row. -/
inductive Stage where
  | requestHeaders
  | responseHeaders
  | capture
  | replayRuns
  | pluginDecisions
deriving DecidableEq

def Stage.next : Stage → Option Stage
  | .requestHeaders => some .responseHeaders
  | .responseHeaders => some .capture
  | .capture => some .replayRuns
  | .replayRuns => some .pluginDecisions
  | .pluginDecisions => none

namespace Database

/-- What is known of a request when its row has been found. -/
def bareDetails (row : RequestSummary) : RequestDetails := ⟨row, [], [], none, [], []⟩

def readStage (sql : SqlExternals) (db : Database) (details : RequestDetails) :
    Stage → RequestDetails
  | .requestHeaders =>
      { details with requestHeaders := headersOf db.requestHeaders details.requestId }
  | .responseHeaders =>
      { details with responseHeaders := headersOf db.responseHeaders details.requestId }
  | .capture =>
      { details with
        capture := (db.captures.find? fun row => row.requestId = details.requestId).map
          CaptureRow.details }
  | .replayRuns => { details with replayRuns := db.listReplayRuns sql details.requestId }
  | .pluginDecisions =>
      { details with pluginDecisions := db.listPluginDecisions sql details.requestId }

/-- With nothing in between, the statements show the request as one. -/
theorem showRequest_eq_stages (sql : SqlExternals) (db : Database) (requestId : String) :
    db.showRequest sql requestId =
      (db.requests.find? fun row => row.requestId = requestId).map fun row =>
        [.requestHeaders, .responseHeaders, .capture, .replayRuns, .pluginDecisions].foldl
          (db.readStage sql) (bareDetails row) := by
  cases found : db.requests.find? fun row => decide (row.requestId = requestId) with
  | none => simp [showRequest, found]
  | some row =>
    have same : row.requestId = requestId := by simpa using List.find?_some found
    subst same
    simp only [showRequest, found]
    rfl

/-- The parts of a request that is shown, and of one that is not there: the tables have no
headers and no capture without their request. -/
theorem parts_of_showRequest (sql : SqlExternals) (db : Database) (valid : db.Valid)
    (requestId : String) :
    (db.showRequest sql requestId = none → headersOf db.requestHeaders requestId = [] ∧
      (db.captures.find? fun row => row.requestId = requestId).map CaptureRow.details = none) ∧
    ∀ details, db.showRequest sql requestId = some details →
      headersOf db.requestHeaders requestId = details.requestHeaders ∧
        (db.captures.find? fun row => row.requestId = requestId).map CaptureRow.details =
          details.capture := by
  constructor
  · intro missing
    have absent : requestId ∉ db.requestIds := by
      intro listed
      obtain ⟨row, stored, rfl⟩ := List.mem_map.mp listed
      rw [showRequest_of_mem sql valid stored] at missing
      exact absurd missing (by simp)
    constructor
    · rw [headersOf, filter_absent valid.requestHeaderOwners absent]
      rfl
    · rw [← List.head?_filter, filter_absent valid.captureOwners absent]
      rfl
  · intro details shown
    obtain ⟨row, _, rfl⟩ := Option.map_eq_some_iff.mp shown
    exact ⟨rfl, rfl⟩

end Database

/-! ## The evidence of a write -/

def CaptureWrite.shown (write : CaptureWrite) : RequestDetails :=
  write.record.shown write.requestHeaders write.responseHeaders write.capture
    write.pluginDecisions

/-- What is shown is what was written, up to eviction; replay runs came later. -/
structure EvidenceOf (write : CaptureWrite) (details : RequestDetails) : Prop where
  request : details.request = write.shown.request
  requestHeaders : details.requestHeaders = write.shown.requestHeaders
  responseHeaders : details.responseHeaders = write.shown.responseHeaders
  capture : Option.Rel CaptureDetails.EvictedFrom details.capture write.shown.capture
  pluginDecisions : details.pluginDecisions = write.shown.pluginDecisions

namespace EvidenceOf

/-- What is written is evidence of itself. -/
theorem own (write : CaptureWrite) : EvidenceOf write write.shown := by
  refine ⟨rfl, rfl, rfl, ?_, rfl⟩
  cases write.shown.capture with
  | none => exact Option.Rel.none
  | some capture => exact Option.Rel.some (Or.inl rfl)

/-- Evidence of a write is under the identifier of the write. -/
theorem requestId {write : CaptureWrite} {details : RequestDetails}
    (evidence : EvidenceOf write details) : details.requestId = write.record.requestId := by
  rw [RequestDetails.requestId, evidence.request]
  rfl

/-- Other replay runs leave what is evidence of a write evidence of it. -/
theorem withRuns {write : CaptureWrite} {details : RequestDetails}
    (evidence : EvidenceOf write details) (runs : List ReplayRun) :
    EvidenceOf write { details with replayRuns := runs } :=
  ⟨evidence.request, evidence.requestHeaders, evidence.responseHeaders, evidence.capture,
    evidence.pluginDecisions⟩

/-- Evidence of a write stays evidence when the bodies of its capture go.

Evicting an evicted capture changes nothing, and evicting a whole one is the change that
evidence allows. -/
theorem evict {write : CaptureWrite} {details : RequestDetails}
    (evidence : EvidenceOf write details) : EvidenceOf write details.evict := by
  refine ⟨evidence.request, evidence.requestHeaders, evidence.responseHeaders, ?_,
    evidence.pluginDecisions⟩
  have before := evidence.capture
  simp only [RequestDetails.evict]
  cases shown : details.capture with
  | none =>
    rw [shown] at before
    exact before
  | some capture =>
    rw [shown] at before
    cases written : write.shown.capture with
    | none =>
      rw [written] at before
      cases before
    | some original =>
      rw [written] at before
      cases before with
      | some evicted =>
        refine Option.Rel.some ?_
        rcases evicted with rfl | rfl
        · exact Or.inr rfl
        · exact Or.inr rfl

end EvidenceOf

namespace CaptureMarks

open CaptureQueue

variable {Component : Type} {capacity : Nat}

/-- The writes that an event's response hands over. -/
def responseWrites (externals : Externals) : Event Component → List CaptureWrite
  | .finish gateway request remoteAddr around redaction polls requestCapture =>
      match handle externals gateway request remoteAddr around with
      | .error _ => []
      | .ok handled =>
          (attachStorageFinalizer redaction handled.response.headers handled.finalizer).writes
            externals.sha256 polls requestCapture
  | _ => []

/-- What the gateway's side does by itself: replay runs are written by the replays, and
retention runs statement by statement. -/
def ofGateway : Event Component → Bool
  | .insertReplayRun _ | .runRetention _ _ _ => false
  | .finish .. | .retry _ | .receive | .insert _ => true

/-- The details are those of the last persisted write of their identifier. -/
def LastPersisted (persisted : List Ticket) (details : RequestDetails) : Prop :=
  ∃ before ticket after, persisted = before ++ ticket :: after ∧
    EvidenceOf ticket.write details ∧
    ∀ later ∈ after, later.write.record.requestId ≠ details.requestId

/-- Every write keeps the law that its decisions are for its request: the handler makes them
with the identifier it has given the request. -/
theorem decisions_of_handle (externals : Externals) (gateway : GatewayState Component)
    (request : InboundRequest) (remoteAddr : SocketAddr) (around : Surroundings Component)
    (handled : Handled)
    (returned : handle externals gateway request remoteAddr around = .ok handled) :
    ∀ decision ∈ handled.finalizer.pluginDecisions,
      decision.requestId = handled.finalizer.record.requestId := by
  rcases (handle_eq_ok externals gateway request remoteAddr around handled).mp returned with
    prepared | ⟨forward, prepared, rfl⟩
  · obtain ⟨pluginMetrics, own, rfl⟩ :=
      exit_inv externals gateway request remoteAddr around handled prepared
    exact requestId_pluginDecisionInserts _ own.records around.clock.decisionNowMs
  · exact requestId_pluginDecisionInserts _ forward.records around.clock.decisionNowMs

/-- The decisions of a write are for its request. -/
def OwnDecisions (write : CaptureWrite) : Prop :=
  ∀ decision ∈ write.pluginDecisions, decision.requestId = write.record.requestId

/-- The fallback leaves the decisions of a write alone. -/
theorem ownDecisions_write_ticket (ticket : Ticket) (own : OwnDecisions ticket.handed.val) :
    OwnDecisions ticket.write := by
  unfold Ticket.write
  split
  · exact own
  · exact own

/-- What a response hands over is one write, marked, with decisions of its own. -/
theorem responseWrites_finish (externals : Externals) (gateway : GatewayState Component)
    (request : InboundRequest) (remoteAddr : SocketAddr) (around : Surroundings Component)
    (redaction : RedactionConfig) (polls : List (CaptureBuffer × Poll))
    (requestCapture : CaptureBuffer) (handled : Handled)
    (returned : handle externals gateway request remoteAddr around = .ok handled) :
    ∃ write, responseWrites externals (.finish gateway request remoteAddr around redaction polls
        requestCapture) = [write] ∧ write.Marked ∧ OwnDecisions write := by
  obtain ⟨write, written, marked, _⟩ := accounts_of_write externals gateway request
    remoteAddr around handled returned redaction polls requestCapture
  obtain ⟨_, writtenToo, sameRecord, _, sameDecisions⟩ := exists_write_attach externals.sha256
    redaction handled.response.headers handled.finalizer polls requestCapture
  obtain rfl : write = _ := List.singleton_inj.mp (written.symm.trans writtenToo)
  refine ⟨write, by rw [responseWrites, returned]; exact written, marked, ?_⟩
  rw [OwnDecisions, sameRecord, sameDecisions]
  exact decisions_of_handle externals gateway request remoteAddr around handled returned

/-- What a step of the whole does to the queue and to the store. -/
inductive Change (externals : Externals) (sql : SqlExternals) (state : State capacity) :
    Event Component → State capacity → Prop where
  | finished (event : Event Component) (write : CaptureWrite) (marked : write.Marked)
      (own : OwnDecisions write) (written : responseWrites externals event = [write])
      (queue : CaptureQueue.State capacity)
      (taken : CaptureQueue.step state.queue (.enqueue ⟨write, marked⟩) = some queue) :
      Change externals sql state event { state with queue := queue }
  | moved (event : Event Component) (silent : responseWrites externals event = [])
      (move : CaptureQueue.Event) (handsNothing : move.handing = [])
      (persistsNothing : persistedBy state.queue move = []) (queue : CaptureQueue.State capacity)
      (taken : CaptureQueue.step state.queue move = some queue) :
      Change externals sql state event { state with queue := queue }
  | persisted (ticket : Ticket) (held : state.queue.inserting = some ticket) (store : Store)
      (performed : state.store.perform sql (insertion ticket.write) = .ok store)
      (queue : CaptureQueue.State capacity)
      (taken : CaptureQueue.step state.queue (.inserted true) = some queue) :
      Change externals sql state (.insert true) ⟨queue, store⟩
  | replayed (run : ReplayRunInsert) :
      Change externals sql state (.insertReplayRun run)
        { state with store := state.store.apply sql (.insertReplayRun run) }
  | retained (nowMs : Int) (retentionDays maxTotal : Nat) :
      Change externals sql state (.runRetention nowMs retentionDays maxTotal)
        { state with store := state.store.apply sql (.runRetention nowMs retentionDays maxTotal) }

/-- Every step of the whole is one of the changes, with what it has found out on the way.

The events are gone through one by one, each with what it does to the queue. -/
theorem step_change (externals : Externals) (sql : SqlExternals) (state next : State capacity)
    (event : Event Component) (taken : step externals sql state event = some next) :
    Change externals sql state event next := by
  cases event with
  | finish gateway request remoteAddr around redaction polls requestCapture =>
    simp only [step] at taken
    cases returned : handle externals gateway request remoteAddr around with
    | error response => simp [returned] at taken
    | ok handled =>
      obtain ⟨write, written, marked, own⟩ := responseWrites_finish externals gateway request
        remoteAddr around redaction polls requestCapture handled returned
      have same := written
      simp only [responseWrites, returned] at same
      simp only [returned, same, enqueueAll, marked, dite_true, Option.bind_fun_some,
        Option.map_eq_some_iff] at taken
      obtain ⟨queue, enqueued, rfl⟩ := taken
      exact Change.finished _ write marked own written queue enqueued
  | retry position =>
    obtain ⟨queue, moved, rfl⟩ := Option.map_eq_some_iff.mp taken
    exact Change.moved _ rfl _ rfl rfl queue moved
  | receive =>
    obtain ⟨queue, moved, rfl⟩ := Option.map_eq_some_iff.mp taken
    exact Change.moved _ rfl _ rfl rfl queue moved
  | insert reachable =>
    simp only [step] at taken
    cases held : state.queue.inserting with
    | none => simp [held] at taken
    | some ticket =>
      simp only [held] at taken
      split at taken
      next store performed =>
        obtain ⟨queue, inserted, rfl⟩ := Option.map_eq_some_iff.mp taken
        exact Change.persisted ticket held store performed queue inserted
      · obtain ⟨queue, inserted, rfl⟩ := Option.map_eq_some_iff.mp taken
        exact Change.moved _ rfl _ rfl rfl queue inserted
  | insertReplayRun run =>
    obtain rfl := Option.some.inj taken
    exact Change.replayed run
  | runRetention nowMs retentionDays maxTotal =>
    obtain rfl := Option.some.inj taken
    exact Change.retained nowMs retentionDays maxTotal

/-- What the list says of the store, and what the queue holds. -/
structure Origins (sql : SqlExternals) (state : State capacity) : Prop where
  balanced : state.queue.ledger.Balanced
  own : ∀ write ∈ state.queue.handed, OwnDecisions write.val
  aligned : state.store.val.Aligned
  entries : ∀ details ∈ (state.store.archive sql).entries,
    LastPersisted state.queue.persisted details

namespace LastPersisted

variable {persisted : List Ticket} {details : RequestDetails}

/-- A write that has just been persisted is the last one of its identifier. -/
theorem new (persisted : List Ticket) (ticket : Ticket) :
    LastPersisted (persisted ++ [ticket]) ticket.write.shown :=
  ⟨persisted, ticket, [], rfl, EvidenceOf.own _, fun _ member => absurd member List.not_mem_nil⟩

/-- A write of another identifier comes later and leaves the last one the last. -/
theorem append (last : LastPersisted persisted details) (ticket : Ticket)
    (other : ticket.write.record.requestId ≠ details.requestId) :
    LastPersisted (persisted ++ [ticket]) details := by
  obtain ⟨before, own, after, rfl, evidence, apart⟩ := last
  refine ⟨before, own, after ++ [ticket], by simp, evidence, ?_⟩
  exact List.forall_mem_append.mpr ⟨apart, List.forall_mem_singleton.mpr other⟩

/-- Other replay runs, or the same in another order, leave the last write the last. -/
theorem withRuns (last : LastPersisted persisted details) (runs : List ReplayRun) :
    LastPersisted persisted { details with replayRuns := runs } := by
  obtain ⟨before, own, after, same, evidence, apart⟩ := last
  exact ⟨before, own, after, same, evidence.withRuns runs, apart⟩

/-- Eviction leaves the last write the last. -/
theorem evict (last : LastPersisted persisted details) :
    LastPersisted persisted details.evict := by
  obtain ⟨before, own, after, same, evidence, apart⟩ := last
  exact ⟨before, own, after, same, evidence.evict, apart⟩

end LastPersisted

/-- The write with the writer keeps what holds of every write handed over. -/
theorem Origins.own_inserting {sql : SqlExternals} {state : State capacity}
    (origins : Origins sql state) (ticket : Ticket)
    (held : state.queue.inserting = some ticket) : OwnDecisions ticket.write := by
  have waiting : ticket ∈ state.queue.ledger.tickets := by
    simp [Ledger.tickets, State.ledger, State.pending, held]
  have known := origins.balanced.known ticket waiting
  exact ownDecisions_write_ticket ticket (origins.own ticket.handed (List.mem_of_getElem? known))

/-- A move of the queue that persists nothing leaves the store as it was, and with it every
entry. -/
theorem Origins.queue_step {sql : SqlExternals} {state : State capacity}
    (origins : Origins sql state) (event : CaptureQueue.Event)
    (queue : CaptureQueue.State capacity)
    (handing : ∀ write ∈ event.handing, OwnDecisions write.val)
    (silent : persistedBy state.queue event = [])
    (taken : CaptureQueue.step state.queue event = some queue) :
    Origins sql { state with queue := queue } where
  balanced := step_balanced state.queue queue event origins.balanced taken
  own := by
    rw [handed_of_step state.queue queue event taken]
    exact List.forall_mem_append.mpr ⟨origins.own, handing⟩
  aligned := origins.aligned
  entries := by
    rw [persisted_of_step state.queue event queue taken, silent, List.append_nil]
    exact origins.entries

/-- A write that is persisted becomes the last one of its identifier, and the entries of the
other identifiers keep theirs.

On the archive the insertion is a recording, which replaces the entry of the identifier and
leaves the others. -/
theorem Origins.persist {sql : SqlExternals} (inverts : sql.Inverts) {state : State capacity}
    (origins : Origins sql state) (ticket : Ticket)
    (held : state.queue.inserting = some ticket) (store : Store)
    (performed : state.store.perform sql (insertion ticket.write) = .ok store)
    (queue : CaptureQueue.State capacity)
    (taken : CaptureQueue.step state.queue (.inserted true) = some queue) :
    Origins sql ⟨queue, store⟩ := by
  have own := origins.own_inserting ticket held
  have applied : state.store.apply sql (insertion ticket.write) = store := by
    simp [Store.apply, performed, Except.toOption]
  have committed := (Store.perform_ok_iff sql state.store store _).mp performed
  obtain ⟨distinct, distinctToo, _, _⟩ := (Database.insertRequest_ok_iff sql
    state.store.property _ _ _ _ _ _).mp committed
  have recorded : store.archive sql =
      (state.store.archive sql).record ticket.write.shown := by
    rw [← applied, insertion, Store.archive_insertRequest inverts _ _ _ _ _ own]
    exact if_pos ⟨distinct, distinctToo⟩
  refine ⟨step_balanced state.queue queue _ origins.balanced taken, ?_, ?_, ?_⟩
  · rw [handed_of_step state.queue queue _ taken]
    simpa [CaptureQueue.Event.handing] using origins.own
  · rw [← applied]
    exact Store.aligned_apply sql origins.aligned _
  · have grown : queue.persisted = state.queue.persisted ++ [ticket] := by
      rw [persisted_of_step state.queue _ queue taken]
      simp [persistedBy, held]
    rw [recorded, grown]
    refine List.forall_mem_append.mpr ⟨fun details member => ?_,
      List.forall_mem_singleton.mpr (LastPersisted.new _ ticket)⟩
    obtain ⟨listed, other⟩ := List.mem_filter.mp member
    exact (origins.entries details listed).append ticket (of_decide_eq_true other).symm

/-- A replay run changes nothing of what is shown but the runs. -/
theorem Origins.replay {sql : SqlExternals} {state : State capacity}
    (origins : Origins sql state) (run : ReplayRunInsert) :
    Origins sql { state with store := state.store.apply sql (.insertReplayRun run) } := by
  refine ⟨origins.balanced, origins.own, Store.aligned_apply sql origins.aligned _, ?_⟩
  rw [Store.archive_insertReplayRun, Archive.insertReplayRun]
  split
  · intro details member
    obtain ⟨entry, listed, rfl⟩ := List.mem_map.mp member
    split
    · exact (origins.entries entry listed).withRuns _
    · exact origins.entries entry listed
  · exact origins.entries

/-- Every step keeps the origins: a step of the queue leaves the store, an insertion that
succeeds persists, and what retention does only deletes and evicts. -/
theorem origins_of_step (externals : Externals) (sql : SqlExternals) (inverts : sql.Inverts)
    (state : State capacity) (event : Event Component) (next : State capacity)
    (origins : Origins sql state) (gateway : ofGateway event = true)
    (stepped : step externals sql state event = some next) : Origins sql next := by
  cases step_change externals sql state next event stepped with
  | finished _ write marked own written queue taken =>
    exact origins.queue_step (.enqueue ⟨write, marked⟩) queue
      (List.forall_mem_singleton.mpr own) rfl taken
  | moved _ silent move handsNothing persistsNothing queue taken =>
    refine origins.queue_step move queue ?_ persistsNothing taken
    rw [handsNothing]
    exact fun write member => absurd member List.not_mem_nil
  | persisted ticket held store performed queue taken =>
    exact origins.persist inverts ticket held store performed queue taken
  | replayed run => exact absurd gateway (by simp [ofGateway])
  | retained nowMs retentionDays maxTotal => exact absurd gateway (by simp [ofGateway])

/-- At the start there are no entries to account for. -/
theorem start_origins (sql : SqlExternals) (capacity : Nat) (closed : Bool) :
    Origins sql (start capacity closed) where
  balanced := start_balanced capacity closed
  own := fun _ member => absurd member List.not_mem_nil
  aligned := ⟨List.Sublist.refl _, fun _ member => absurd member List.not_mem_nil⟩
  entries := fun _ member => absurd member List.not_mem_nil

/-- What was handed over came from the responses of the run, in their order.

Only a step that finishes a response hands anything over, and it hands over its one write. -/
theorem handed_of_change (externals : Externals) (sql : SqlExternals) (state : State capacity)
    (event : Event Component) (next : State capacity)
    (stepped : step externals sql state event = some next) :
    next.queue.handed.map Subtype.val =
      state.queue.handed.map Subtype.val ++ responseWrites externals event := by
  cases step_change externals sql state next event stepped with
  | finished _ write marked own written queue taken =>
    rw [written, handed_of_step state.queue queue _ taken]
    simp [CaptureQueue.Event.handing]
  | moved _ silent move handsNothing persistsNothing queue taken =>
    rw [silent, handed_of_step state.queue queue move taken, handsNothing]
    simp
  | persisted ticket held store performed queue taken =>
    rw [handed_of_step state.queue queue _ taken]
    simp [CaptureQueue.Event.handing, responseWrites]
  | replayed run => simp [responseWrites]
  | retained nowMs retentionDays maxTotal => simp [responseWrites]

section

variable {sql : SqlExternals} {state : State capacity}

/-- What the store shows of a request is of the last persisted write of its identifier. -/
theorem Origins.lastPersisted (origins : Origins sql state) {requestId : String}
    {details : RequestDetails}
    (shown : state.store.val.showRequest sql requestId = some details) :
    details.requestId = requestId ∧ LastPersisted state.queue.persisted details := by
  rw [(reads_archive sql state.store).showRequest] at shown
  obtain ⟨entry, found, rfl⟩ := Option.map_eq_some_iff.mp shown
  have named := List.find?_some found
  exact ⟨of_decide_eq_true named,
    (origins.entries entry (List.mem_of_find?_eq_some found)).withRuns _⟩

/-- What was persisted had been handed over. -/
theorem Origins.handed_of_persisted (origins : Origins sql state) (ticket : Ticket)
    (persisted : ticket ∈ state.queue.persisted) : ticket.handed ∈ state.queue.handed := by
  have settled : ticket ∈ state.queue.ledger.tickets :=
    List.mem_append_left _ (List.mem_append_right _ persisted)
  exact List.mem_of_getElem? (origins.balanced.known ticket settled)

end

/-! ## Where what is read comes from -/

/-- The write at the index is one under the identifier. -/
def Source (persisted : List Ticket) (requestId : String) (index : Nat) (ticket : Ticket) : Prop :=
  persisted[index]? = some ticket ∧ ticket.write.record.requestId = requestId

/-- A write under the identifier, at the index or later, is as required. -/
def FromLater (persisted : List Ticket) (requestId : String) (index : Nat)
    (required : CaptureWrite → Prop) : Prop :=
  ∃ later ticket, index ≤ later ∧ Source persisted requestId later ticket ∧ required ticket.write

/-- What has been read of a request: its row is that of a write, and each part that was read
since is missing or that of the same or a later write. -/
structure SourcedAt (persisted : List Ticket) (details : RequestDetails) (index : Nat)
    (ticket : Ticket) : Prop where
  source : Source persisted details.requestId index ticket
  request : details.request = ticket.write.shown.request
  requestHeaders : details.requestHeaders = [] ∨
    FromLater persisted details.requestId index fun write =>
      details.requestHeaders = write.shown.requestHeaders
  capture : details.capture = none ∨
    FromLater persisted details.requestId index fun write =>
      Option.Rel CaptureDetails.EvictedFrom details.capture write.shown.capture

def Sourced (persisted : List Ticket) (details : RequestDetails) : Prop :=
  ∃ index ticket, SourcedAt persisted details index ticket

section

variable {persisted later : List Ticket} {requestId : String} {index : Nat} {ticket : Ticket}
  {details : RequestDetails}

/-- Writes that are persisted later leave a source where it is. -/
theorem Source.mono (source : Source persisted requestId index ticket)
    (grown : persisted <+: later) : Source later requestId index ticket := by
  obtain ⟨added, rfl⟩ := grown
  obtain ⟨placed, same⟩ := source
  refine ⟨?_, same⟩
  rw [List.getElem?_append_left (List.getElem?_eq_some_iff.mp placed).1]
  exact placed

/-- Writes that are persisted later leave a later source where it is. -/
theorem FromLater.mono {required : CaptureWrite → Prop}
    (found : FromLater persisted requestId index required) (grown : persisted <+: later) :
    FromLater later requestId index required := by
  obtain ⟨place, ticket, after, source, fits⟩ := found
  exact ⟨place, ticket, after, source.mono grown, fits⟩

/-- Writes that are persisted later leave the sources of what was read where they are. -/
theorem Sourced.mono (sourced : Sourced persisted details) (grown : persisted <+: later) :
    Sourced later details := by
  obtain ⟨index, ticket, source, request, headers, capture⟩ := sourced
  exact ⟨index, ticket, source.mono grown, request, headers.imp id fun found => found.mono grown,
    capture.imp id fun found => found.mono grown⟩

/-- Of the writes under an identifier, the last one comes after each, or is it. -/
theorem LastPersisted.fromLater (last : LastPersisted persisted details)
    (source : Source persisted details.requestId index ticket) :
    FromLater persisted details.requestId index fun write => EvidenceOf write details := by
  obtain ⟨before, own, after, rfl, evidence, apart⟩ := last
  refine ⟨before.length, own, ?_, ⟨by simp, evidence.requestId.symm⟩, evidence⟩
  by_contra! past
  obtain ⟨placed, same⟩ := source
  obtain ⟨offset, rfl⟩ : ∃ offset, index = before.length + (offset + 1) :=
    ⟨index - before.length - 1, by omega⟩
  rw [List.getElem?_append_right (by omega)] at placed
  simp only [Nat.add_sub_cancel_left, List.getElem?_cons_succ] at placed
  exact apart ticket (List.mem_of_getElem? placed) same

end

section

variable {sql : SqlExternals} {state : State capacity}

/-- A row that is found is that of a write, of which nothing else has been read yet. -/
theorem Origins.sourced_row (origins : Origins sql state) {requestId : String}
    {row : RequestSummary}
    (found : state.store.val.requests.find? (fun row => row.requestId = requestId) = some row) :
    Sourced state.queue.persisted (Database.bareDetails row) := by
  obtain ⟨details, shown, rfl⟩ : ∃ details,
      state.store.val.showRequest sql requestId = some details ∧ details.request = row :=
    ⟨_, by rw [Database.showRequest, found]; rfl, rfl⟩
  obtain ⟨_, before, ticket, after, placed, evidence, _⟩ := origins.lastPersisted shown
  exact ⟨before.length, ticket, ⟨by simp [placed], evidence.requestId.symm⟩, evidence.request,
    Or.inl rfl, Or.inl rfl⟩

/-- Each further part is missing, or that of the write that the store shows now, which is not
older than the row's own write. -/
theorem Origins.sourced_stage (origins : Origins sql state) {details : RequestDetails}
    (sourced : Sourced state.queue.persisted details) (stage : Stage) :
    Sourced state.queue.persisted (state.store.val.readStage sql details stage) := by
  obtain ⟨index, ticket, source, request, headers, capture⟩ := sourced
  have parts := state.store.val.parts_of_showRequest sql state.store.property details.requestId
  cases shown : state.store.val.showRequest sql details.requestId with
  | none =>
    obtain ⟨noHeaders, noCapture⟩ := parts.1 shown
    cases stage with
    | requestHeaders => exact ⟨index, ticket, source, request, Or.inl noHeaders, capture⟩
    | capture => exact ⟨index, ticket, source, request, headers, Or.inl noCapture⟩
    | _ => exact ⟨index, ticket, source, request, headers, capture⟩
  | some now =>
    obtain ⟨sameHeaders, sameCapture⟩ := parts.2 now shown
    obtain ⟨sameId, last⟩ := origins.lastPersisted shown
    obtain ⟨later, other, after, placed, evidence⟩ := last.fromLater (sameId ▸ source)
    rw [sameId] at placed
    cases stage with
    | requestHeaders =>
      exact ⟨index, ticket, source, request,
        Or.inr ⟨later, other, after, placed, sameHeaders.trans evidence.requestHeaders⟩, capture⟩
    | capture =>
      refine ⟨index, ticket, source, request, headers, Or.inr ⟨later, other, after, placed, ?_⟩⟩
      simp only [Database.readStage, sameCapture]
      exact evidence.capture
    | _ => exact ⟨index, ticket, source, request, headers, capture⟩

/-- Deleting expired requests leaves the others as they were. -/
theorem Origins.deleteExpired (origins : Origins sql state) (cutoff : Int) :
    Origins sql { state with
      store := state.store.deleteRequests fun row => decide (row.createdAtMs < cutoff) } := by
  refine ⟨origins.balanced, origins.own,
    origins.aligned.deleteRequests state.store.property _, fun details member => ?_⟩
  have kept : details ∈ (state.store.val.unexpired cutoff).entriesOf sql := member
  rw [Database.entriesOf_unexpired sql state.store.property] at kept
  exact origins.entries details (List.mem_filter.mp kept).1

/-- Evicting a body leaves every entry of its own write, one of them without bodies. -/
theorem Origins.evictBody (origins : Origins sql state) (requestId : String) :
    Origins sql { state with store := state.store.evictBody requestId } := by
  refine ⟨origins.balanced, origins.own, origins.aligned.evictBody requestId,
    fun details member => ?_⟩
  have changed : details ∈ (state.store.val.evictBody requestId).entriesOf sql := member
  rw [Database.entriesOf_evictBody] at changed
  obtain ⟨entry, listed, rfl⟩ := List.mem_map.mp changed
  split
  · exact (origins.entries entry listed).evict
  · exact origins.entries entry listed

end

end CaptureMarks

end TraceGate
