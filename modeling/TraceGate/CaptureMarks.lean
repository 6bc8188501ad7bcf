import TraceGate.CaptureQueue
import TraceGate.Exchange
import TraceGate.PolicyChain

/-!
# Captured, or marked as dropped

A request's row says under which policy it was recorded, whether it was an error and
whether it was slow. When the policy asks for a capture of such a request, there should
be a row of captures for it, or a mark that the capture was dropped, and never both.

The gateway, the writer's queue and the store take turns here: responses end and hand
over their writes, the queue forwards, strips or loses them, the writer inserts them, and
retention deletes and evicts. The law of the rows holds in every run in which no request
is refused, by a failed body preview or by a plugin, where its policy asks for a capture:
these two exits neither capture nor mark.
-/

namespace TraceGate

/-- No two policies have one text, so the text that is stored tells the policy. -/
theorem CapturePolicy.asStr_injective (left right : CapturePolicy)
    (same : left.asStr = right.asStr) : left = right := by
  cases left <;> cases right <;> first | rfl | exact absurd same (by decide)

/-! ## What a request hands over -/

/-- A capture is there, or marked as dropped, where the recorded policy asks for one, and
not both. -/
structure Accounts (record : RequestInsert) (captured : Bool) : Prop where
  kept : ∀ policy : CapturePolicy, policy.asStr = record.capturePolicy →
    policy.shouldCapture record.isError record.isSlow = true →
      captured = true ∨ record.captureDropped = true
  apart : record.captureDropped = true → captured = false

/-- A record with its policy's text accounts for itself when it does so under the
policy. -/
theorem accounts_iff (record : RequestInsert) (captured : Bool) (policy : CapturePolicy)
    (text : record.capturePolicy = policy.asStr) :
    Accounts record captured ↔
      (policy.shouldCapture record.isError record.isSlow = true →
        captured = true ∨ record.captureDropped = true) ∧
      (record.captureDropped = true → captured = false) := by
  constructor
  · intro accounts
    exact ⟨accounts.kept policy text.symm, accounts.apart⟩
  · rintro ⟨kept, apart⟩
    refine ⟨fun other same asked => ?_, apart⟩
    obtain rfl := CapturePolicy.asStr_injective other policy (same.trans text)
    exact kept asked

section Exits

variable {Component : Type} (externals : Externals) (gateway : GatewayState Component)
  (request : InboundRequest) (remoteAddr : SocketAddr) (around : Surroundings Component)

/-- The request is refused where its route's policy asks for a capture: a failed preview
counts as neither an error nor slow, a denial as an error by its status. -/
def refusedUncaptured : Bool :=
  match routeFor gateway request with
  | none => false
  | some route =>
      if around.admitted then
        match previewFor gateway route request.body with
        | .error _ => route.capture.policy.shouldCapture false false
        | .ok (bodyPreview, _) =>
            match (evaluationFor externals gateway request remoteAddr around route
                bodyPreview).denied with
            | none => false
            | some deny =>
                route.capture.policy.shouldCapture (isServerError (Policy.statusFromDeny deny))
                  (decide (route.capture.slowThreshold ≤ around.clock.slowElapsed))
      else false

/-- What a request hands over accounts for itself exactly when it is not refused where its
policy asks for a capture. -/
theorem accounts_of_handle (handled : Handled)
    (returned : handle externals gateway request remoteAddr around = .ok handled) :
    Accounts handled.finalizer.record handled.finalizer.shouldCapture ↔
      refusedUncaptured externals gateway request remoteAddr around = false := by
  have way := prepare_cases externals gateway request remoteAddr around
  rcases (handle_eq_ok externals gateway request remoteAddr around handled).mp returned with
    prepared | ⟨forward, prepared, rfl⟩
  · rw [prepared] at way
    cases way with
    | noRoute unmatched =>
      rw [accounts_iff _ _ .off rfl]
      simp [refusedUncaptured, unmatched, CapturePolicy.shouldCapture, exitHandled,
        LocalExit.handled]
    | limited route matched runtime refused =>
      rw [accounts_iff _ _ route.capture.policy rfl]
      simp [refusedUncaptured, matched, refused, exitHandled, LocalExit.handled,
        concurrencyLimitExit]
    | previewFailed route err matched runtime admitted failed =>
      rw [accounts_iff _ _ route.capture.policy rfl]
      simp [refusedUncaptured, matched, admitted, failed, exitHandled, LocalExit.handled,
        previewFailedExit]
    | denied route bodyPreview body deny previewed denied =>
      rw [accounts_iff _ _ route.capture.policy rfl]
      simp [refusedUncaptured, previewed.matched, previewed.admitted, previewed.preview, denied,
        exitHandled, LocalExit.handled, policyDeniedExit]
    | unhealthy route bodyPreview body previewed undenied unselected =>
      rw [accounts_iff _ _ route.capture.policy rfl]
      simp [refusedUncaptured, previewed.matched, previewed.admitted, previewed.preview,
        undenied, exitHandled, LocalExit.handled, allUpstreamsUnhealthyExit]
  · rw [prepared] at way
    cases way with
    | forward route bodyPreview body index upstream previewed undenied selected =>
      rw [accounts_iff _ _ route.capture.policy rfl]
      simp [refusedUncaptured, previewed.matched, previewed.admitted, previewed.preview,
        undenied, Forward.finish, forwardTo]

end Exits

/-- The write of a response accounts for itself as its finalizer's input does, and is
marked. -/
theorem accounts_of_write {Component : Type} (externals : Externals)
    (gateway : GatewayState Component) (request : InboundRequest) (remoteAddr : SocketAddr)
    (around : Surroundings Component) (handled : Handled)
    (returned : handle externals gateway request remoteAddr around = .ok handled)
    (redaction : RedactionConfig) (polls : List (CaptureBuffer × Poll))
    (requestCapture : CaptureBuffer) :
    ∃ write, (attachStorageFinalizer redaction handled.response.headers
        handled.finalizer).writes externals.sha256 polls requestCapture = [write] ∧
      write.Marked ∧
      (Accounts write.record write.capture.isSome ↔
        refusedUncaptured externals gateway request remoteAddr around = false) := by
  obtain ⟨write, written, sameRecord, sameCapture, _⟩ := exists_write_attach externals.sha256
    redaction handled.response.headers handled.finalizer polls requestCapture
  refine ⟨write, written, ?_, ?_⟩
  · intro carried
    rw [sameRecord]
    exact captureDropped_of_handle externals gateway request remoteAddr around handled returned
      (sameCapture ▸ carried)
  · rw [sameRecord, sameCapture]
    exact accounts_of_handle externals gateway request remoteAddr around handled returned

/-- The fallback's write accounts for itself, since it is marked as dropped and carries
nothing. -/
theorem accounts_write_ticket (ticket : CaptureQueue.Ticket)
    (accounts : Accounts ticket.handed.val.record ticket.handed.val.capture.isSome) :
    Accounts ticket.write.record ticket.write.capture.isSome := by
  unfold CaptureQueue.Ticket.write
  split
  · exact ⟨fun _ _ _ => Or.inr rfl, fun _ => rfl⟩
  · exact accounts

/-! ## What the store keeps -/

/-- Some row of captures belongs to the request. -/
def Database.captured (db : Database) (requestId : String) : Bool :=
  decide (requestId ∈ db.captures.map CaptureRow.requestId)

/-- Every row accounts for itself. -/
def Database.AllAccount (db : Database) : Prop :=
  ∀ row ∈ db.requests, Accounts row (db.captured row.requestId)

/-- Deleting requests leaves the others with their captures: a capture goes only with its own
request, by cascade. -/
theorem Database.AllAccount.deleteRequests {db : Database} (all : db.AllAccount)
    (valid : db.Valid) (gone : RequestSummary → Bool) :
    (db.deleteRequests gone).AllAccount := by
  intro row member
  obtain ⟨stored, kept⟩ := List.mem_filter.mp member
  have others : row.requestId ∉ (db.requests.filter gone).map RequestInsert.requestId := by
    intro listed
    obtain ⟨other, deleted, same⟩ := List.mem_map.mp listed
    obtain ⟨storedToo, goneToo⟩ := List.mem_filter.mp deleted
    obtain rfl := List.inj_on_of_nodup_map valid.requestKeys storedToo stored same
    simp [goneToo] at kept
  have same : (db.deleteRequests gone).captured row.requestId = db.captured row.requestId := by
    refine decide_eq_decide.mpr ?_
    constructor
    · intro listed
      obtain ⟨capture, present, owner⟩ := List.mem_map.mp listed
      exact List.mem_map.mpr ⟨capture, (List.mem_filter.mp present).1, owner⟩
    · intro listed
      obtain ⟨capture, present, owner⟩ := List.mem_map.mp listed
      exact List.mem_map.mpr ⟨capture, List.mem_filter.mpr
        ⟨present, decide_eq_true (owner ▸ others)⟩, owner⟩
  rw [same]
  exact all row stored

/-- A committed request leaves the other rows with their captures and has its own, whether or
not it replaces an earlier one of its identifier. -/
theorem Database.AllAccount.inserted {db : Database} (all : db.AllAccount) (valid : db.Valid)
    (sql : SqlExternals) (write : CaptureWrite)
    (accounts : Accounts write.record write.capture.isSome) :
    (db.inserted sql write.record write.requestHeaders write.responseHeaders write.capture
      write.pluginDecisions).AllAccount := by
  intro row member
  have keptValid : (db.without write.record.requestId).Valid := valid.deleteRequests _
  have keptCaptures := Database.ref_ne_of_references keptValid.captureOwners
  have ownCaptures := Database.requestId_captureRow write.record write.capture
  rcases List.mem_append.mp member with old | new
  · have other : row.requestId ≠ write.record.requestId := by
      intro same
      exact Database.not_mem_requestIds_without db write.record.requestId
        (List.mem_map.mpr ⟨row, old, same⟩)
    have same : (db.inserted sql write.record write.requestHeaders write.responseHeaders
        write.capture write.pluginDecisions).captured row.requestId =
          (db.without write.record.requestId).captured row.requestId := by
      refine decide_eq_decide.mpr ?_
      simp only [Database.inserted, List.map_append, List.mem_append, or_iff_left_iff_imp]
      intro listed
      obtain ⟨capture, present, owner⟩ := List.mem_map.mp listed
      exact absurd (owner.symm.trans (ownCaptures capture present)) other
    rw [same]
    exact all.deleteRequests valid _ row old
  · obtain rfl := List.mem_singleton.mp new
    have same : (db.inserted sql write.record write.requestHeaders write.responseHeaders
        write.capture write.pluginDecisions).captured write.record.requestId =
          write.capture.isSome := by
      have absent : write.record.requestId ∉
          (db.without write.record.requestId).captures.map CaptureRow.requestId := by
        intro listed
        obtain ⟨capture, present, owner⟩ := List.mem_map.mp listed
        exact keptCaptures capture present owner
      cases carried : write.capture with
      | none => simp [Database.captured, Database.inserted, absent]
      | some capture => simp [Database.captured, Database.inserted, CaptureInsert.row]
    change Accounts write.record.row (Database.captured _ write.record.requestId)
    rw [same]
    exact ⟨accounts.kept, accounts.apart⟩

/-- Evicting bodies keeps every row of captures, so every request that had one still has one.

Eviction changes a row under its own identifier. -/
theorem Database.AllAccount.evicts {before after : Database} (all : before.AllAccount)
    (evicts : Eviction.Evicts before after) : after.AllAccount := by
  obtain ⟨change, evicted, rfl⟩ := evicts
  have owners : ∀ row, (change row).requestId = row.requestId := by
    intro row
    rcases evicted row with same | gone
    · rw [same]
    · rw [gone]
      rfl
  intro row member
  have same : (before.mapCaptures change).captured row.requestId =
      before.captured row.requestId := by
    simp [Database.captured, Database.mapCaptures, owners]
  rw [same]
  exact all row member

/-- Retention keeps the law of the rows: it deletes requests and then evicts bodies, and either
keeps it. -/
theorem Database.AllAccount.runRetention {db : Database} (all : db.AllAccount) (valid : db.Valid)
    (order : CaptureOrder) (cutoff : Int) (maxTotal : Nat) :
    (db.runRetention order cutoff maxTotal).1.AllAccount :=
  (all.deleteRequests valid _).evicts (db.runRetention_evicts order cutoff maxTotal)

namespace CaptureMarks

/-! ## Requests, queue and store together -/

variable {Component : Type} {capacity : Nat}

structure State (capacity : Nat) where
  queue : CaptureQueue.State capacity
  store : Store

/-- A response body comes to its end, the queue moves on, the writer inserts, or another
task uses the store. The redaction loaded for the response and the buffers that its polls
see are the run's own. -/
inductive Event (Component : Type) where
  | finish (gateway : GatewayState Component) (request : InboundRequest)
      (remoteAddr : SocketAddr) (around : Surroundings Component) (redaction : RedactionConfig)
      (polls : List (CaptureBuffer × Poll)) (requestCapture : CaptureBuffer)
  | retry (position : Nat)
  | receive
  | insert (reachable : Bool)
  | insertReplayRun (run : ReplayRunInsert)
  | runRetention (nowMs : Int) (retentionDays : Nat) (maxTotalCaptureBytes : Nat)

/-- Hand writes over one after another. -/
def enqueueAll (queue : CaptureQueue.State capacity) :
    List CaptureWrite → Option (CaptureQueue.State capacity)
  | [] => some queue
  | write :: rest =>
      if marked : write.Marked then
        (CaptureQueue.step queue (.enqueue ⟨write, marked⟩)).bind fun next => enqueueAll next rest
      else none

/-- The call the writer makes for a write. -/
def insertion (write : CaptureWrite) : StoreEvent :=
  .insertRequest write.record write.requestHeaders write.responseHeaders write.capture
    write.pluginDecisions

def step (externals : Externals) (sql : SqlExternals) (state : State capacity) :
    Event Component → Option (State capacity)
  | .finish gateway request remoteAddr around redaction polls requestCapture =>
      match handle externals gateway request remoteAddr around with
      | .error _ => none
      | .ok handled =>
          let body := attachStorageFinalizer redaction handled.response.headers handled.finalizer
          (enqueueAll state.queue (body.writes externals.sha256 polls requestCapture)).map
            fun queue => { state with queue := queue }
  | .retry position =>
      (CaptureQueue.step state.queue (.retry position)).map fun queue =>
        { state with queue := queue }
  | .receive =>
      (CaptureQueue.step state.queue .receive).map fun queue => { state with queue := queue }
  | .insert reachable =>
      match state.queue.inserting with
      | none => none
      | some ticket =>
          match reachable, state.store.perform sql (insertion ticket.write) with
          | true, .ok store =>
              (CaptureQueue.step state.queue (.inserted true)).map fun queue => ⟨queue, store⟩
          | _, _ =>
              (CaptureQueue.step state.queue (.inserted false)).map fun queue =>
                { state with queue := queue }
  | .insertReplayRun run =>
      some { state with store := state.store.apply sql (.insertReplayRun run) }
  | .runRetention nowMs retentionDays maxTotal =>
      some { state with
        store := state.store.apply sql (.runRetention nowMs retentionDays maxTotal) }

def start (capacity : Nat) (closed : Bool) : State capacity :=
  ⟨CaptureQueue.start capacity closed, Store.empty⟩

/-- No request is refused where its route's policy asks for a capture. -/
def Captures (externals : Externals) : Event Component → Prop
  | .finish gateway request remoteAddr around _ _ _ =>
      refusedUncaptured externals gateway request remoteAddr around = false
  | _ => True

instance (externals : Externals) : ∀ event : Event Component, Decidable (Captures externals event)
  | .finish gateway request remoteAddr around _ _ _ =>
      inferInstanceAs (Decidable (refusedUncaptured externals gateway request remoteAddr around =
        false))
  | .retry _ => isTrue trivial
  | .receive => isTrue trivial
  | .insert _ => isTrue trivial
  | .insertReplayRun _ => isTrue trivial
  | .runRetention _ _ _ => isTrue trivial

/-- A handled request is never held up: its write is marked, and a marked write can be handed
over in every state of the queue. -/
theorem finish_enabled (externals : Externals) (sql : SqlExternals) (state : State capacity)
    (gateway : GatewayState Component) (request : InboundRequest) (remoteAddr : SocketAddr)
    (around : Surroundings Component) (redaction : RedactionConfig)
    (polls : List (CaptureBuffer × Poll)) (requestCapture : CaptureBuffer) (handled : Handled)
    (returned : handle externals gateway request remoteAddr around = .ok handled) :
    (step externals sql state (.finish gateway request remoteAddr around redaction polls
      requestCapture)).isSome = true := by
  obtain ⟨write, written, marked, _⟩ := accounts_of_write externals gateway request remoteAddr
    around handled returned redaction polls requestCapture
  have enqueues : (CaptureQueue.step state.queue (.enqueue ⟨write, marked⟩)).isSome = true := by
    simp only [CaptureQueue.step]
    split <;> rfl
  simp only [step, returned, written, enqueueAll, marked, dite_true, Option.isSome_map,
    Option.bind_fun_some, enqueues]

/-- Every write that was handed over accounts for itself, and so does every row. -/
structure Inv (state : State capacity) : Prop where
  balanced : state.queue.ledger.Balanced
  handed : ∀ write ∈ state.queue.handed, Accounts write.val.record write.val.capture.isSome
  rows : state.store.val.AllAccount

/-- A step of the queue keeps the invariant when what it hands over accounts for
itself. -/
theorem Inv.queue_step {state : State capacity} (inv : Inv state) (event : CaptureQueue.Event)
    (queue : CaptureQueue.State capacity)
    (handing : ∀ write ∈ event.handing, Accounts write.val.record write.val.capture.isSome)
    (taken : CaptureQueue.step state.queue event = some queue) :
    Inv { state with queue := queue } where
  balanced := (CaptureQueue.step_exact state.queue event queue inv.balanced taken).1
  handed := by
    rw [CaptureQueue.handed_of_step state.queue queue event taken]
    exact List.forall_mem_append.mpr ⟨inv.handed, handing⟩
  rows := inv.rows

/-- The write that is being inserted accounts for itself, as the one that was handed over or as
what the fallback has made of it. -/
theorem Inv.accounts_inserting {state : State capacity} (inv : Inv state)
    (ticket : CaptureQueue.Ticket) (held : state.queue.inserting = some ticket) :
    Accounts ticket.write.record ticket.write.capture.isSome := by
  have waiting : ticket ∈ state.queue.ledger.tickets := by
    simp [CaptureQueue.Ledger.tickets, CaptureQueue.State.ledger, CaptureQueue.State.pending, held]
  have known := inv.balanced.known ticket waiting
  exact accounts_write_ticket ticket (inv.handed ticket.handed (List.mem_of_getElem? known))

/-- A call of the store that keeps the law of the rows keeps the invariant; a call that fails
leaves the store. -/
theorem Inv.apply {state : State capacity} (inv : Inv state) (sql : SqlExternals)
    (event : StoreEvent)
    (keeps : ∀ db, state.store.val.perform sql event = .ok db → db.AllAccount) :
    Inv { state with store := state.store.apply sql event } := by
  refine ⟨inv.balanced, inv.handed, ?_⟩
  rcases state.store.apply_cases sql event with same | performed
  · rw [same]
    exact inv.rows
  · exact keeps _ performed

/-- A response that ends keeps the invariant if it was not refused without a capture: the write
it hands over accounts for itself. -/
theorem finish_inv (externals : Externals) (sql : SqlExternals) (state next : State capacity)
    (gateway : GatewayState Component) (request : InboundRequest) (remoteAddr : SocketAddr)
    (around : Surroundings Component) (redaction : RedactionConfig)
    (polls : List (CaptureBuffer × Poll)) (requestCapture : CaptureBuffer) (inv : Inv state)
    (captures : refusedUncaptured externals gateway request remoteAddr around = false)
    (taken : step externals sql state (.finish gateway request remoteAddr around redaction polls
      requestCapture) = some next) : Inv next := by
  simp only [step] at taken
  cases returned : handle externals gateway request remoteAddr around with
  | error response => simp [returned] at taken
  | ok handled =>
    obtain ⟨write, written, marked, accounts⟩ := accounts_of_write externals gateway request
      remoteAddr around handled returned redaction polls requestCapture
    simp only [returned, written, enqueueAll, marked, dite_true, Option.bind_fun_some,
      Option.map_eq_some_iff] at taken
    obtain ⟨queue, enqueued, rfl⟩ := taken
    refine inv.queue_step (.enqueue ⟨write, marked⟩) queue ?_ enqueued
    exact List.forall_mem_singleton.mpr (accounts.mpr captures)

/-- The writer's insertion keeps the invariant, also when it fails, because what it inserts
accounts for itself. -/
theorem insert_inv (externals : Externals) (sql : SqlExternals) (state next : State capacity)
    (reachable : Bool) (inv : Inv state)
    (taken : step externals sql state (.insert reachable : Event Component) = some next) :
    Inv next := by
  simp only [step] at taken
  cases held : state.queue.inserting with
  | none => simp [held] at taken
  | some ticket =>
    simp only [held] at taken
    split at taken
    next store performed =>
      obtain ⟨queue, inserted, rfl⟩ := Option.map_eq_some_iff.mp taken
      have stored := inv.queue_step (.inserted true) queue (by simp [CaptureQueue.Event.handing])
        inserted
      refine ⟨stored.balanced, stored.handed, ?_⟩
      have committed := (Store.perform_ok_iff sql state.store store _).mp performed
      obtain ⟨_, _, _, same⟩ := (Database.insertRequest_ok_iff sql state.store.property _ _ _ _ _
        _).mp committed
      rw [same]
      exact inv.rows.inserted state.store.property sql ticket.write
        (inv.accounts_inserting ticket held)
    · obtain ⟨queue, inserted, rfl⟩ := Option.map_eq_some_iff.mp taken
      exact inv.queue_step (.inserted false) queue (by simp [CaptureQueue.Event.handing]) inserted

/-- Every step keeps the invariant, except a response that was refused without a capture.

Retries and receipts move writes within the queue. A replay run and a retention run leave rows
that account for the same captures. -/
theorem step_inv (externals : Externals) (sql : SqlExternals) (state : State capacity)
    (event : Event Component) (next : State capacity) (inv : Inv state)
    (captures : Captures externals event)
    (taken : step externals sql state event = some next) : Inv next := by
  cases event with
  | finish gateway request remoteAddr around redaction polls requestCapture =>
    exact finish_inv externals sql state next gateway request remoteAddr around redaction polls
      requestCapture inv captures taken
  | retry position =>
    obtain ⟨queue, moved, rfl⟩ := Option.map_eq_some_iff.mp taken
    exact inv.queue_step _ queue (by simp [CaptureQueue.Event.handing]) moved
  | receive =>
    obtain ⟨queue, moved, rfl⟩ := Option.map_eq_some_iff.mp taken
    exact inv.queue_step _ queue (by simp [CaptureQueue.Event.handing]) moved
  | insert reachable => exact insert_inv externals sql state next reachable inv taken
  | insertReplayRun run =>
    obtain rfl := Option.some.inj taken
    refine inv.apply sql _ fun db performed => ?_
    obtain ⟨_, _, rfl⟩ := (Database.insertReplayRun_ok_iff _ _ _).mp performed
    exact inv.rows
  | runRetention nowMs retentionDays maxTotal =>
    obtain rfl := Option.some.inj taken
    refine inv.apply sql _ fun db performed => ?_
    obtain rfl := Except.ok.inj performed
    exact inv.rows.runRetention state.store.property sql.captureOrder _ maxTotal

/-- At the start there are no rows and no writes to account for. -/
theorem start_inv (capacity : Nat) (closed : Bool) : Inv (start capacity closed) where
  balanced := CaptureQueue.start_balanced capacity closed
  handed := by simp [start, CaptureQueue.start]
  rows := by simp [start, Store.empty, Database.empty, Database.AllAccount]

/-- In every run in which no request is refused where its policy asks for a capture, every
stored row that should have been captured has a capture or is marked as dropped, and none
has both. -/
theorem captured_or_dropped (externals : Externals) (sql : SqlExternals) (capacity : Nat)
    (closed : Bool) (events : List (Event Component)) (final : State capacity)
    (captures : Runs.Guarded (step externals sql) (fun _ event => Captures externals event)
      (start capacity closed) events)
    (completed : Runs.run (step externals sql) (start capacity closed) events = some final) :
    ∀ row ∈ final.store.val.requests, Accounts row (final.store.val.captured row.requestId) := by
  have inv := Runs.guarded_invariant (step externals sql)
    (fun _ event => Captures externals event) Inv (step_inv externals sql)
    (start capacity closed) final events (start_inv capacity closed) captures completed
  exact inv.rows

/-- A route that captures errors, behind the guard. -/
def guardedRoute : Route :=
  { Exchange.uploadRoute with
    id := "orders"
    capture := { Exchange.uploadRoute.capture with policy := .errors } }

def guardedGateway : GatewayState Unit :=
  { Exchange.uploadGateway with
    router := [guardedRoute]
    policy := Policy.guardEngine
    routeRuntime := fun _ => some (RouteRuntime.new guardedRoute) }

/-- The guard answers with this decision and the upstream with an error. -/
def guardedAround (deny : Option Policy.DenyResponse) : Surroundings Unit :=
  let outcomes : Policy.Outcomes Unit :=
    fun _ _ _ => .returned (.ok ⟨deny.isNone, deny, [], [], []⟩) 0
  { Exchange.uploadAround with
    outcomes := outcomes
    attempts := fun _ => ⟨Exchange.idleContext, .response ⟨500, []⟩⟩ }

/-- A response to the request ends, and its write is inserted. -/
def guardedEvents (deny : Option Policy.DenyResponse) : List (Event Unit) :=
  [.finish guardedGateway Exchange.uploadRequest Exchange.localAddr (guardedAround deny) ⟨[], []⟩
      [(.disabled, .ended)] .disabled,
    .receive, .insert true]

/-- A request that an upstream answers with an error is stored with its capture. -/
theorem captured_or_dropped_of_upstream_error : ∃ final,
    Runs.run (step Exchange.plainExternals plainSql) (start 1 false) (guardedEvents none) =
        some final ∧
      final.store.val.requests.length = 1 ∧
      ∀ row ∈ final.store.val.requests,
        Accounts row (final.store.val.captured row.requestId) :=
  ⟨_, rfl, rfl, captured_or_dropped Exchange.plainExternals plainSql 1 false
    (guardedEvents none) _ (by decide +kernel) rfl⟩

/-- A guard that denies with an error leaves neither a capture nor a mark, although the policy
asks for errors to be captured. -/
theorem denied_error_unmarked : ∃ final,
    Runs.run (step Exchange.plainExternals plainSql) (start 1 false)
        (guardedEvents (some ⟨503, "maintenance"⟩)) = some final ∧
      ∃ row ∈ final.store.val.requests, row.isError = true ∧ row.capturePolicy = "errors" ∧
        ¬Accounts row (final.store.val.captured row.requestId) := by
  refine ⟨_, rfl, _, List.mem_singleton.mpr rfl, rfl, rfl, fun accounts => ?_⟩
  exact absurd (accounts.kept .errors rfl rfl) (by decide +kernel)

end CaptureMarks

end TraceGate
