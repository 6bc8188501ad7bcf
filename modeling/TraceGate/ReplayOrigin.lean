import TraceGate.ReplayCalls

/-!
# What replays resend, and what their audit rows tell

Two things hold in every interleaving of the gateway with replay calls. What a call hands to its
HTTP client was put together from responses of the gateway that were persisted under the
identifier it selected, the row from one of them and nothing from an earlier one, with a body only
if it is marked whole; if none was persisted later, all of it is from one response. And every
audit row tells the result of one request that was handed over, each call having handed over one
at most.
-/

namespace TraceGate

/-! ## Bodies -/

namespace Replay

/-- A body that is sent is the captured one, not truncated and not evicted, and a method that
needs one is sent with it. -/
theorem replayBody_sound (details : RequestDetails) (method : String)
    (body : Option (List UInt8)) (sends : replayBody details method = .ok body) :
    (∀ bytes, body = some bytes → ∃ capture, details.capture = some capture ∧
      capture.requestBody = some bytes ∧ capture.requestBodyTruncated = false ∧
      capture.bodyEvicted = false) ∧
    (methodRequiresCapturedBody method = true → body.isSome = true) := by
  unfold replayBody validateCaptureBody at sends
  cases captured : details.capture with
  | none =>
    cases needed : methodRequiresCapturedBody method with
    | true => simp [captured, needed] at sends
    | false =>
      simp only [captured, needed, Bool.false_eq_true, if_false, Except.ok.injEq] at sends
      simp [← sends]
  | some capture =>
    obtain ⟨requestType, responseType, requestBody, responseBody, truncated, responseTruncated,
      requestDigest, responseDigest, evicted, createdAtMs⟩ := capture
    cases needed : methodRequiresCapturedBody method <;> cases truncated <;> cases evicted <;>
      cases requestBody <;>
      simp [captured, needed, bind, Except.bind] at sends <;> simp [← sends]

end Replay

namespace Replays

variable {Component : Type} {capacity : Nat}

/-! ## What the gateway's side leaves alone -/

/-- A run of the gateway's side only adds to what was persisted.

Every change that moves the queue is a step of it, and such a step only adds. -/
theorem persisted_isPrefix (externals : Externals) (sql : SqlExternals)
    (state next : CaptureMarks.State capacity) (event : CaptureMarks.Event Component)
    (taken : CaptureMarks.step externals sql state event = some next) :
    state.queue.persisted <+: next.queue.persisted := by
  have grows : ∀ (move : CaptureQueue.Event) (queue : CaptureQueue.State capacity),
      CaptureQueue.step state.queue move = some queue →
        state.queue.persisted <+: queue.persisted := by
    intro move queue moved
    rw [CaptureQueue.persisted_of_step state.queue move queue moved]
    exact List.prefix_append _ _
  cases CaptureMarks.step_change externals sql state next event taken with
  | finished _ write marked own written queue moved => exact grows _ queue moved
  | moved _ silent move handsNothing persistsNothing queue moved => exact grows move queue moved
  | persisted ticket held store performed queue moved => exact grows _ queue moved
  | replayed run => exact List.prefix_refl _
  | retained nowMs retentionDays maxTotal => exact List.prefix_refl _

/-- The gateway's side writes no replay run. -/
theorem replayRuns_subset (externals : Externals) (sql : SqlExternals)
    (state next : CaptureMarks.State capacity) (event : CaptureMarks.Event Component)
    (gateway : CaptureMarks.ofGateway event = true)
    (taken : CaptureMarks.step externals sql state event = some next) :
    next.store.val.replayRuns ⊆ state.store.val.replayRuns := by
  cases CaptureMarks.step_change externals sql state next event taken with
  | finished _ write marked own written queue moved => exact List.Subset.refl _
  | moved _ silent move handsNothing persistsNothing queue moved => exact List.Subset.refl _
  | persisted ticket held store performed queue moved =>
    have applied : state.store.apply sql (CaptureMarks.insertion ticket.write) = store := by
      simp [Store.apply, performed, Except.toOption]
    rw [← applied]
    exact Replay.replayRuns_apply_subset sql state.store _ (by simp [CaptureMarks.insertion])
  | replayed run => exact absurd gateway (by simp [CaptureMarks.ofGateway])
  | retained nowMs retentionDays maxTotal =>
    exact absurd gateway (by simp [CaptureMarks.ofGateway])

/-! ## The invariant -/

/-- Whatever a call has read was persisted. -/
structure Call.Known (persisted : List CaptureQueue.Ticket) (call : Call) : Prop where
  selected : ∀ details, call.phase = .selected details → CaptureMarks.Sourced persisted details
  reading : ∀ reading, call.reading = some reading →
    CaptureMarks.Sourced persisted reading.details

/-- The row tells the result of the request, as the call got it in the run. -/
def Tells (events : List (Event Component)) (row : ReplayRun) (sent : Sent) : Prop :=
  ∃ result latencyMs nowMs,
    Event.advance sent.call (.record result latencyMs nowMs) ∈ events ∧
      row = (Replay.replayRun sent.details.request sent.request latencyMs nowMs result).row

/-- What a sent request and its call keep to. -/
structure Sent.Sound (parsers : Replay.Parsers) (state : State capacity) (sent : Sent) : Prop where
  sourced : CaptureMarks.Sourced state.capture.queue.persisted sent.details
  prepared : ∃ fresh, Replay.prepareReplay parsers sent.options fresh sent.details =
    .ok sent.request
  caller : ∃ call, state.calls sent.call = some call ∧ ¬ call.phase.Waits

structure Truthful (sql : SqlExternals) (parsers : Replay.Parsers)
    (events : List (Event Component)) (state : State capacity) : Prop where
  origins : CaptureMarks.Origins sql state.capture
  known : ∀ id call, state.calls id = some call → call.Known state.capture.queue.persisted
  inFlight : ∀ id call details request, state.calls id = some call →
    call.phase = .dispatched details request → ⟨id, call.options, details, request⟩ ∈ state.sent
  sent : ∀ sent ∈ state.sent, sent.Sound parsers state
  once : (state.sent.map Sent.call).Nodup
  fresh : (state.sent.map Sent.replayId).Nodup
  rows : ∀ row ∈ state.capture.store.val.replayRuns, ∃ sent ∈ state.sent, Tells events row sent

section

variable {externals : Externals} {sql : SqlExternals} {parsers : Replay.Parsers}
  {events : List (Event Component)} {state : State capacity}

/-- What a row told of a run it tells of a longer one. -/
theorem Tells.mono {row : ReplayRun} {sent : Sent} (tells : Tells events row sent)
    (event : Event Component) : Tells (events ++ [event]) row sent := by
  obtain ⟨result, latencyMs, nowMs, member, same⟩ := tells
  exact ⟨result, latencyMs, nowMs, List.mem_append_left _ member, same⟩

/-- The rows there were tell what they told. -/
theorem Truthful.old_rows (truthful : Truthful sql parsers events state)
    (event : Event Component) :
    ∀ row ∈ state.capture.store.val.replayRuns, ∃ sent ∈ state.sent,
      Tells (events ++ [event]) row sent := by
  intro row member
  obtain ⟨sent, listed, tells⟩ := truthful.rows row member
  exact ⟨sent, listed, tells.mono event⟩

/-- The gateway's side moves on: it persists more, and writes no replay run.

What calls know is kept, since what was persisted stays so. -/
theorem Truthful.beside (truthful : Truthful sql parsers events state)
    (event : Event Component) (capture : CaptureMarks.State capacity)
    (origins : CaptureMarks.Origins sql capture)
    (grown : state.capture.queue.persisted <+: capture.queue.persisted)
    (rows : capture.store.val.replayRuns ⊆ state.capture.store.val.replayRuns) :
    Truthful sql parsers (events ++ [event]) { state with capture := capture } := by
  refine ⟨origins, ?_, truthful.inFlight, ?_, truthful.once, truthful.fresh, ?_⟩
  · intro id call found
    have known := truthful.known id call found
    exact ⟨fun details phase => (known.selected details phase).mono grown,
      fun reading begun => (known.reading reading begun).mono grown⟩
  · intro sent listed
    have sound := truthful.sent sent listed
    exact ⟨sound.sourced.mono grown, sound.prepared, sound.caller⟩
  · exact fun row member => truthful.old_rows _ row (rows member)

/-- A call begins, or moves on to a phase in which it has nothing in flight.

Nothing is sent, so all about what was sent is kept but for the call's own phase, which has
passed the waiting if it had before. -/
theorem Truthful.moved (truthful : Truthful sql parsers events state)
    (event : Event Component) (id : Nat) (after : Call)
    (landed : ∀ details request, after.phase ≠ .dispatched details request)
    (known : after.Known state.capture.queue.persisted)
    (begun : ∀ call, state.calls id = some call → ¬ call.phase.Waits → ¬ after.phase.Waits)
    (store : Store) (origins : CaptureMarks.Origins sql { state.capture with store := store })
    (rows : ∀ row ∈ store.val.replayRuns, ∃ sent ∈ state.sent,
      Tells (events ++ [event]) row sent) :
    Truthful sql parsers (events ++ [event])
      { capture := { state.capture with store := store }
        calls := state.calls.insert id after, sent := state.sent } := by
  refine ⟨origins, ?_, ?_, ?_, truthful.once, truthful.fresh, rows⟩
  · intro other call found
    simp only [Map.insert] at found
    split at found
    · obtain rfl := Option.some.inj found
      exact known
    · exact truthful.known other call found
  · intro other call details request found same
    simp only [Map.insert] at found
    split at found
    · obtain rfl := Option.some.inj found
      exact absurd same (landed details request)
    · exact truthful.inFlight other call details request found same
  · intro sent listed
    obtain ⟨sourced, prepared, caller, found, waitsNot⟩ := truthful.sent sent listed
    refine ⟨sourced, prepared, ?_⟩
    by_cases same : sent.call = id
    · exact ⟨after, if_pos same, begun caller (same ▸ found) waitsNot⟩
    · exact ⟨caller, by simpa [Map.insert, same] using found, waitsNot⟩

/-- A read leaves the call waiting, or without a request, and adds a part that was persisted.

Each statement reads the rows of one identifier, and the store's rows are those of persisted
captures; the parts belong together because the first of them fixed the identifier. -/
theorem Truthful.read (truthful : Truthful sql parsers events state) (id : Nat) (call : Call)
    (requestId : String) (found : state.calls id = some call)
    (wanted : call.wanted = some requestId) :
    Truthful sql parsers (events ++ [.read id])
      { state with
        calls := state.calls.insert id
          (call.read sql state.capture.store.val requestId) } := by
  have known := truthful.known id call found
  have waits : call.phase.Waits := by
    unfold Call.wanted at wanted
    split at wanted <;> simp_all [Replay.Phase.Waits]
  have unsent : ∀ details request, call.phase ≠ .dispatched details request := by
    intro details request same
    rw [same] at waits
    exact waits
  have unselected : ∀ details, call.phase ≠ .selected details := by
    intro details same
    simp [Call.wanted, same] at wanted
  have begun : ∀ caller, state.calls id = some caller → ¬ caller.phase.Waits →
      ¬ (call.read sql state.capture.store.val requestId).phase.Waits := by
    intro caller foundToo waitsNot
    obtain rfl := Option.some.inj (foundToo.symm.trans found)
    exact absurd waits waitsNot
  refine truthful.moved (.read id) id _ ?_ ?_ begun _ truthful.origins (truthful.old_rows _)
  · intro details request
    unfold Call.read
    split
    · split
      · simp
      · exact unsent details request
    · split
      · exact unsent details request
      · simp
  · unfold Call.read
    split
    next unread =>
      split
      next =>
        exact ⟨by simp, by simp [unread]⟩
      next row stored =>
        refine ⟨fun details same => absurd same (unselected details), ?_⟩
        rintro _ ⟨⟩
        exact truthful.origins.sourced_row stored
    next reading half =>
      have sourced := truthful.origins.sourced_stage (known.reading reading half) reading.stage
      split
      next =>
        refine ⟨fun details same => absurd same (unselected details), ?_⟩
        rintro _ ⟨⟩
        exact sourced
      next =>
        refine ⟨?_, by simp⟩
        rintro _ ⟨⟩
        exact sourced

/-- A call sends its request: the first of the call, and the first under its identifier.

It was waiting until now, so nothing sent carries its number, and `permitted` keeps the fresh
identifier apart from all those used. -/
theorem Truthful.dispatched (truthful : Truthful sql parsers events state) (id : Nat)
    (call : Call) (found : state.calls id = some call) (fresh : Replay.FreshIds)
    (allowed : permitted state.sent (.dispatch fresh) = true) (details : RequestDetails)
    (request : Replay.ReplayRequest) (selected : call.phase = .selected details)
    (prepared : Replay.prepareReplay parsers call.options fresh details = .ok request) :
    Truthful sql parsers (events ++ [.advance id (.dispatch fresh)])
      { capture := state.capture
        calls := state.calls.insert id { call with phase := .dispatched details request }
        sent := state.sent ++ [⟨id, call.options, details, request⟩] } := by
  have known := truthful.known id call found
  have unsent : id ∉ state.sent.map Sent.call := by
    intro earlier
    obtain ⟨sent, listed, rfl⟩ := List.mem_map.mp earlier
    obtain ⟨_, _, caller, foundToo, begun⟩ := truthful.sent sent listed
    obtain rfl : caller = call := Option.some.inj (foundToo.symm.trans found)
    exact begun (by simp [selected, Replay.Phase.Waits])
  have unused : request.replayId ∉ state.sent.map Sent.replayId := by
    rw [Replay.replayId_of_prepareReplay parsers call.options fresh details request prepared]
    simpa [permitted] using allowed
  refine ⟨truthful.origins, ?_, ?_, ?_, ?_, ?_, ?_⟩
  · intro other caller foundToo
    simp only [Map.insert] at foundToo
    split at foundToo
    · obtain rfl := Option.some.inj foundToo
      exact ⟨by simp, known.reading⟩
    · exact truthful.known other caller foundToo
  · intro other caller shown sending foundToo phase
    simp only [Map.insert] at foundToo
    split at foundToo
    next same =>
      obtain rfl := Option.some.inj foundToo
      obtain ⟨rfl, rfl⟩ := Replay.Phase.dispatched.inj phase
      exact List.mem_append_right _ (by simp [same])
    next =>
      exact List.mem_append_left _
        (truthful.inFlight other caller shown sending foundToo phase)
  · intro sent listed
    rcases List.mem_append.mp listed with earlier | new
    · obtain ⟨sourced, preparedToo, caller, foundToo, begun⟩ := truthful.sent sent earlier
      refine ⟨sourced, preparedToo, caller, ?_, begun⟩
      have apart : sent.call ≠ id := by
        rintro rfl
        exact unsent (List.mem_map_of_mem earlier)
      simpa [Map.insert, apart] using foundToo
    · obtain rfl := List.mem_singleton.mp new
      exact ⟨known.selected details selected, ⟨fresh, prepared⟩, _, if_pos rfl,
        by simp [Replay.Phase.Waits]⟩
  · rw [List.map_append]
    exact truthful.once.append (List.nodup_singleton _) (by simpa using unsent)
  · rw [List.map_append]
    exact truthful.fresh.append (List.nodup_singleton _) (by simpa [Sent.replayId] using unused)
  · intro row member
    obtain ⟨sent, listed, tells⟩ := truthful.old_rows _ row member
    exact ⟨sent, List.mem_append_left _ listed, tells⟩

/-- A call writes the row of what it sent.

The insertion adds one row and changes no other table, and the row is that of the event
itself. -/
theorem Truthful.recorded (truthful : Truthful sql parsers events state)
    (id : Nat) (call : Call) (found : state.calls id = some call)
    (result : Replay.DispatchResult) (latencyMs : Nat) (nowMs : Int) (details : RequestDetails)
    (request : Replay.ReplayRequest) (inFlight : call.phase = .dispatched details request)
    (store : Store)
    (written : state.capture.store.perform sql (.insertReplayRun
      (Replay.replayRun details.request request latencyMs nowMs result)) = .ok store) :
    CaptureMarks.Origins sql { state.capture with store := store } ∧
      ∀ row ∈ store.val.replayRuns, ∃ sent ∈ state.sent,
        Tells (events ++ [.advance id (.record result latencyMs nowMs)]) row sent := by
  let run := Replay.replayRun details.request request latencyMs nowMs result
  have applied : state.capture.store.apply sql (.insertReplayRun run) = store := by
    simp only [Store.apply]
    rw [written]
    rfl
  constructor
  · rw [← applied]
    exact truthful.origins.replay run
  · obtain ⟨_, _, same⟩ := (Database.insertReplayRun_ok_iff _ _ _).mp
      ((Store.perform_ok_iff sql state.capture.store store _).mp written)
    rw [same]
    intro row member
    rcases List.mem_append.mp member with earlier | new
    · exact truthful.old_rows _ row earlier
    · obtain rfl := List.mem_singleton.mp new
      exact ⟨_, truthful.inFlight id call details request found inFlight, result, latencyMs, nowMs,
        List.mem_append_right _ List.mem_cons_self, rfl⟩

/-- A call comes nearer to sending, or ends. -/
theorem Truthful.landed (truthful : Truthful sql parsers events state)
    (event : Event Component) (id : Nat) (call : Call) (found : state.calls id = some call)
    (phase : Replay.Phase) (landed : ∀ details request, phase ≠ .dispatched details request)
    (unselected : ∀ details, phase ≠ .selected details)
    (begun : ¬ call.phase.Waits → ¬ phase.Waits) (store : Store)
    (origins : CaptureMarks.Origins sql { state.capture with store := store })
    (rows : ∀ row ∈ store.val.replayRuns, ∃ sent ∈ state.sent,
      Tells (events ++ [event]) row sent) :
    Truthful sql parsers (events ++ [event])
      { capture := { state.capture with store := store }
        calls := state.calls.insert id { call with phase := phase }, sent := state.sent } := by
  have known := truthful.known id call found
  refine truthful.moved event id { call with phase := phase } landed
    ⟨fun details same => absurd same (unselected details), known.reading⟩ ?_ store origins rows
  intro caller foundToo
  obtain rfl := Option.some.inj (foundToo.symm.trans found)
  exact begun

/-- A step of a call apart from its reads.

The cases are those of `Own`: the listing and the ends are `landed`, and the two that remain are
`dispatched` and `recorded`. -/
theorem Truthful.advanced
    (truthful : Truthful sql parsers events state) (id : Nat) (event : Replay.Event)
    (call : Call) (store : Store) (phase : Replay.Phase) (found : state.calls id = some call)
    (allowed : permitted state.sent event = true)
    (own : Replay.Own sql parsers call.options state.capture.store call.phase event store
      phase) :
    Truthful sql parsers (events ++ [.advance id event])
      { capture := { state.capture with store := store }
        calls := state.calls.insert id { call with phase := phase }
        sent := state.sent ++ newlySent id call.options event phase } := by
  cases own with
  | listed first waits asks stored =>
    simp only [newlySent, List.append_nil]
    exact truthful.landed _ id call found _ (by simp) (by simp)
      (fun waitsNot => absurd waits waitsNot) _ truthful.origins (truthful.old_rows _)
  | gaveUp err waits =>
    have nothing : newlySent id call.options event (.finished none (.error err)) = [] := by
      unfold newlySent
      split
      next found => exact absurd found (by simp)
      next => rfl
    rw [nothing, List.append_nil]
    exact truthful.landed _ id call found _ (by simp) (by simp)
      (fun waitsNot => absurd waits waitsNot) _ truthful.origins (truthful.old_rows _)
  | dispatched fresh details request selected prepared =>
    exact truthful.dispatched id call found fresh allowed details request selected prepared
  | recorded result latencyMs nowMs details request _ inFlight written =>
    obtain ⟨origins, rows⟩ := truthful.recorded id call found result latencyMs nowMs
      details request inFlight store written
    simp only [newlySent, List.append_nil]
    exact truthful.landed _ id call found _ (by simp) (by simp)
      (fun _ => by simp [Replay.Phase.Waits]) store origins rows
  | unrecorded result latencyMs nowMs details request err inFlight =>
    simp only [newlySent, List.append_nil]
    exact truthful.landed _ id call found _ (by simp) (by simp)
      (fun _ => by simp [Replay.Phase.Waits]) _ truthful.origins (truthful.old_rows _)

/-- Every step keeps the state truthful about the run so far.

The cases are those of `step_change`: the gateway's side is `beside`, the statements of a
selection are `read`, and a call's own steps are `advanced`. -/
theorem Truthful.step (inverts : sql.Inverts) (truthful : Truthful sql parsers events state)
    (event : Event Component) (next : State capacity)
    (taken : Replays.step externals sql parsers state event = some next) :
    Truthful sql parsers (events ++ [event]) next := by
  cases step_change externals sql parsers state next event taken with
  | capture event gateway capture stepped =>
    exact truthful.beside _ capture
      (CaptureMarks.origins_of_step externals sql inverts state.capture event capture
        truthful.origins gateway stepped)
      (persisted_isPrefix externals sql state.capture capture event stepped)
      (replayRuns_subset externals sql state.capture capture event gateway stepped)
  | deleted cutoff =>
    exact truthful.beside _ _ (truthful.origins.deleteExpired cutoff) (List.prefix_refl _)
      (fun _ member => (List.mem_filter.mp member).1)
  | evicted requestId =>
    exact truthful.beside _ _ (truthful.origins.evictBody requestId) (List.prefix_refl _)
      (List.Subset.refl _)
  | ask id options absent =>
    refine truthful.moved _ id ⟨options, .selecting, none⟩ (by simp) ⟨by simp, by simp⟩ ?_ _
      truthful.origins (truthful.old_rows _)
    intro call found
    exact absurd (found.symm.trans absent) (by simp)
  | read id call requestId found wanted => exact truthful.read id call requestId found wanted
  | advance id event call store phase found allowed own =>
    exact truthful.advanced id event call store phase found allowed own

end

/-- At the start nothing is known, nothing is sent and there are no rows. -/
theorem truthful_start (sql : SqlExternals) (parsers : Replay.Parsers) (capacity : Nat)
    (closed : Bool) :
    Truthful sql parsers ([] : List (Event Component)) (start capacity closed) where
  origins := CaptureMarks.start_origins sql capacity closed
  known := by simp [start]
  inFlight := by simp [start]
  sent := by simp [start]
  once := List.nodup_nil
  fresh := List.nodup_nil
  rows := fun _ member => absurd member List.not_mem_nil

/-- The writes that the gateway's responses hand over in a step. -/
def responseWrites (externals : Externals) : Event Component → List CaptureWrite
  | .capture event => CaptureMarks.responseWrites externals event
  | .deleteExpired _ | .evictBody _ | .ask _ _ | .read _ | .advance _ _ => []

/-- A step hands over what the response in it writes, and nothing otherwise. -/
theorem handed_of_change (externals : Externals) (sql : SqlExternals) (parsers : Replay.Parsers)
    (state : State capacity) (event : Event Component) (next : State capacity)
    (taken : step externals sql parsers state event = some next) :
    next.capture.queue.handed.map Subtype.val =
      state.capture.queue.handed.map Subtype.val ++ responseWrites externals event := by
  cases step_change externals sql parsers state next event taken with
  | capture event gateway capture stepped =>
    exact CaptureMarks.handed_of_change externals sql state.capture event capture stepped
  | _ => simp [responseWrites]

/-! ## What is sent -/

/-- The request handed to the client is that of the write at the index, for another origin: its
method, and as its path the text of the stored path and query. A method with side effects was
confirmed. Headers are missing, or those that may be replayed of the same or a later write under
the identifier. So is the body: the captured one, marked whole, and a method that needs one has
it. -/
structure Resends (parsers : Replay.Parsers) (persisted : List CaptureQueue.Ticket)
    (index : Nat) (write : CaptureWrite) (sent : Sent) : Prop where
  original : sent.details.request.requestId = write.record.requestId
  method : sent.request.method = write.record.method
  path : sent.request.path =
    write.record.path ++ (write.record.redactedQuery.map fun query => "?" ++ query).getD ""
  confirmed : Replay.isSideEffectMethod write.record.method = true →
    sent.options.confirmSideEffects = true
  elsewhere : ∀ upstream, write.record.upstream = some upstream →
    ∀ parsed, parsers.url upstream = .ok parsed → parsed.origin ≠ sent.request.target
  headers : sent.request.headers = [] ∨
    CaptureMarks.FromLater persisted write.record.requestId index fun source =>
      sent.request.headers =
        Replay.allowedHeaders parsers.http (source.requestHeaders.insertionSort storedHeaderLe)
  body : ∀ bytes, sent.request.body = some bytes →
    CaptureMarks.FromLater persisted write.record.requestId index fun source =>
      ∃ capture, source.capture = some capture ∧ capture.requestBody = some bytes ∧
        capture.requestBodyTruncated = false
  whole : Replay.methodRequiresCapturedBody write.record.method = true →
    sent.request.body.isSome = true

/-- A capture that is not marked as evicted is the one that was written.

What eviction changes is marked, so an unmarked capture was not changed. -/
theorem capture_of_evictedFrom {write : CaptureWrite} {capture : CaptureDetails}
    (related : Option.Rel CaptureDetails.EvictedFrom (some capture) write.shown.capture)
    (kept : capture.bodyEvicted = false) :
    ∃ written, write.capture = some written ∧ capture = written.shown write.record := by
  cases shown : write.shown.capture with
  | none =>
    rw [shown] at related
    cases related
  | some original =>
    rw [shown] at related
    obtain ⟨written, inserted, rfl⟩ := Option.map_eq_some_iff.mp shown
    cases related with
    | some evicted =>
      rcases evicted with same | rfl
      · exact ⟨written, inserted, same⟩
      · exact absurd kept (by simp)

/-- A replay prepared from what a persisted capture shows resends that capture.

The target is checked against the recorded upstream and side effects are confirmed. The method,
the path and the headers are those of the row, and the body is the one persisted unless it is
marked as evicted. -/
theorem resends_of_prepared (parsers : Replay.Parsers) (persisted : List CaptureQueue.Ticket)
    (index : Nat) (ticket : CaptureQueue.Ticket) (sent : Sent)
    (sourced : CaptureMarks.SourcedAt persisted sent.details index ticket)
    (fresh : Replay.FreshIds)
    (prepared : Replay.prepareReplay parsers sent.options fresh sent.details =
      .ok sent.request) : Resends parsers persisted index ticket.write sent := by
  obtain ⟨call, options, details, request⟩ := sent
  simp only [Replay.prepareReplay, bind_ok_iff, Replay.buildReplayRequest_eq_ok] at prepared
  obtain ⟨origin, _, _, elsewhere, _, confirmed, body, sends, rfl⟩ := prepared
  have elsewhere := (Replay.rejectOriginalUpstream_eq_ok _ _ _).mp elsewhere
  obtain ⟨bodies, needed⟩ := Replay.replayBody_sound _ _ _ sends
  obtain ⟨⟨placed, sameId⟩, row, headers, captured⟩ := sourced
  have same : details.request = ticket.write.shown.request := row
  constructor
  · exact sameId.symm
  · exact (congrArg RequestInsert.method same).trans rfl
  · refine (Replay.storedPathAndQuery_eq details).trans ?_
    rw [same]
    rfl
  · intro effects
    exact confirmed (by rw [same]; exact effects)
  · intro upstream known
    exact elsewhere upstream (by rw [same]; exact known)
  · rw [sameId]
    rcases headers with none | ⟨later, other, after, source, stored⟩
    · exact Or.inl (congrArg (Replay.allowedHeaders parsers.http) none)
    · exact Or.inr ⟨later, other, after, source,
        congrArg (Replay.allowedHeaders parsers.http) stored⟩
  · intro bytes given
    obtain ⟨capture, known, stored, whole, kept⟩ := bodies bytes given
    rw [known] at captured
    rcases captured with none | ⟨later, other, after, source, related⟩
    · exact absurd none (by simp)
    · obtain ⟨written, inserted, rfl⟩ := capture_of_evictedFrom related kept
      exact ⟨later, other, after, sameId ▸ source, written, inserted, stored, whole⟩
  · intro needs
    exact needed (by rw [same]; exact needs)

section

variable (externals : Externals) (sql : SqlExternals) (inverts : sql.Inverts)
  (parsers : Replay.Parsers) (capacity : Nat) (closed : Bool) (events : List (Event Component))
  (final : State capacity)
  (completed : Runs.run (step externals sql parsers) (start capacity closed) events =
    some final)

include inverts completed

/-- A run from the start is told truthfully by the state it ends in. -/
theorem truthful_run : Truthful sql parsers events final := by
  have truthful := Runs.traced_invariant (step externals sql parsers) (fun _ _ => True)
    (fun _ event => [event]) (Truthful sql parsers)
    (fun events state event next truthful _ taken => truthful.step inverts event next taken)
    [] (start capacity closed) final events (truthful_start sql parsers capacity closed)
    (Runs.guarded_of_forall _ (fun _ => True) events (fun _ _ => trivial) _) completed
  rwa [Runs.trace_self _ _ final events completed, List.nil_append] at truthful

/-- What is persisted was handed over by a response of the run. -/
theorem responded_of_persisted (ticket : CaptureQueue.Ticket)
    (persisted : ticket ∈ final.capture.queue.persisted) :
    ∃ event ∈ events, ticket.handed.val ∈ responseWrites externals event := by
  have origins := (truthful_run externals sql inverts parsers capacity closed events final
    completed).origins
  obtain ⟨event, member, _, own⟩ := Runs.exists_of_grown (step externals sql parsers)
    (fun _ event => responseWrites externals event)
    (fun state => state.capture.queue.handed.map Subtype.val)
    (handed_of_change externals sql parsers) (start capacity closed) final events rfl
    completed _ (List.mem_map_of_mem (origins.handed_of_persisted ticket persisted))
  exact ⟨event, member, own⟩

end

/-- In every interleaving of the gateway's responses, its queue and writer, the statements of
retention and those of any number of replay calls: what a call hands to its HTTP client is for the
identifier it was given, or that was listed first as failed when it asked, and resends what was
persisted of responses of the run, its row that of one of them and no part that of an earlier one;
every audit row tells the result of one such request; and no call hands over two, nor are two
handed over under one identifier. -/
theorem replays_resend_recorded (externals : Externals) (sql : SqlExternals)
    (inverts : sql.Inverts) (parsers : Replay.Parsers) (capacity : Nat) (closed : Bool)
    (events : List (Event Component)) (final : State capacity)
    (completed : Runs.run (step externals sql parsers) (start capacity closed) events =
      some final) :
    (∀ sent ∈ final.sent,
      Selects (Runs.trace (step externals sql parsers) (listings sql) (start capacity closed)
        events) sent.call sent.options sent.details.requestId ∧
      ∃ index ticket, final.capture.queue.persisted[index]? = some ticket ∧
        Resends parsers final.capture.queue.persisted index ticket.write sent) ∧
    (∀ ticket ∈ final.capture.queue.persisted, ∃ event ∈ events,
      ticket.handed.val ∈ responseWrites externals event) ∧
    (∀ row ∈ final.capture.store.val.replayRuns, ∃ sent ∈ final.sent, Tells events row sent) ∧
    (final.sent.map Sent.call).Nodup ∧ (final.sent.map Sent.replayId).Nodup := by
  have truthful := truthful_run externals sql inverts parsers capacity closed events final
    completed
  refine ⟨?_, responded_of_persisted externals sql inverts parsers capacity closed events final
    completed, truthful.rows, truthful.once, truthful.fresh⟩
  intro sent listed
  obtain ⟨⟨index, ticket, sourced⟩, ⟨fresh, prepared⟩, _⟩ := truthful.sent sent listed
  exact ⟨selects_of_run externals sql parsers capacity closed events final completed sent listed,
    index, ticket, sourced.source.1,
    resends_of_prepared parsers _ index ticket sent sourced fresh prepared⟩

/-! Two replays of a failed GET, one by its identifier and one as the last that failed. The
first is half through its selection when the request is written again, and retention evicts
before the second begins to read. -/

def failedGet : List (Event Unit) :=
  [.capture (.finish CaptureMarks.guardedGateway
      { Exchange.uploadRequest with method := "GET" } Exchange.localAddr
      (CaptureMarks.guardedAround none) ⟨[], []⟩ [(.disabled, .ended)] .disabled),
    .capture .receive, .capture (.insert true)]

def replayedEvents : List (Event Unit) :=
  failedGet ++
  [.ask 0 ⟨.id "r", "http://staging", false⟩, .ask 1 ⟨.lastFailed, "http://staging", false⟩,
    .read 0, .read 0, .advance 1 .list] ++ failedGet ++
  [.read 0, .read 0, .read 0, .read 0, .evictBody "r"] ++ List.replicate 6 (.read 1) ++
  [.deleteExpired 0, .advance 0 (.dispatch ⟨"p0", "q0"⟩), .advance 1 (.dispatch ⟨"p1", "q1"⟩),
    .advance 1 (.record (.answered 200 5) 3 2000), .advance 0 (.record (.failed "refused") 3 2000)]

/-- Two calls replay the same failed request, and both are sent and recorded. -/
theorem replays_resend_recorded_twice : ∃ final,
    Runs.run (step Exchange.plainExternals markedSql Replay.plainParsers) (start 1 false)
        replayedEvents = some final ∧
      final.sent.length = 2 ∧ final.capture.store.val.replayRuns.length = 2 ∧
      (∀ sent ∈ final.sent,
        Selects (Runs.trace (step Exchange.plainExternals markedSql Replay.plainParsers)
          (listings markedSql) (start 1 false) replayedEvents) sent.call sent.options
          sent.details.requestId ∧
        ∃ index ticket, final.capture.queue.persisted[index]? = some ticket ∧
          Resends Replay.plainParsers final.capture.queue.persisted index ticket.write sent) ∧
      ∀ row ∈ final.capture.store.val.replayRuns, ∃ sent ∈ final.sent,
        Tells replayedEvents row sent := by
  have counts : (Runs.run (step Exchange.plainExternals markedSql Replay.plainParsers)
      (start 1 false) replayedEvents).map (fun final =>
        (final.sent.length, final.capture.store.val.replayRuns.length)) = some (2, 2) := by
    decide +kernel
  obtain ⟨final, completed, counted⟩ := Option.map_eq_some_iff.mp counts
  obtain ⟨resends, _, tells, _⟩ := replays_resend_recorded Exchange.plainExternals markedSql
    markedSql_inverts Replay.plainParsers 1 false replayedEvents final completed
  exact ⟨final, completed, (Prod.mk.inj counted).1, (Prod.mk.inj counted).2, resends, tells⟩

/-- At every moment of every such interleaving, whatever is shown of a request comes from one
response of the run, the last one persisted under its identifier: its row, its headers, its
decisions and its capture up to eviction, as they were handed over or, if the write met a full
queue, as the metadata-only fallback left them: without the capture, and marked as dropped.

The details are compared with what was persisted; what was persisted is what was handed over,
apart from the fallback. -/
theorem shown_of_last_persisted (externals : Externals) (sql : SqlExternals)
    (inverts : sql.Inverts) (parsers : Replay.Parsers) (capacity : Nat) (closed : Bool)
    (events : List (Event Component)) (final : State capacity)
    (completed : Runs.run (step externals sql parsers) (start capacity closed) events =
      some final)
    (requestId : String) (details : RequestDetails)
    (shown : final.capture.store.val.showRequest sql requestId = some details) :
    ∃ before ticket after, final.capture.queue.persisted = before ++ ticket :: after ∧
      ticket.write.record.requestId = requestId ∧ EvidenceOf ticket.write details ∧
      (ticket.write = ticket.handed.val ∨
        ticket.write =
          { ticket.handed.val with
            capture := none
            record := { ticket.handed.val.record with captureDropped := true } }) ∧
      (∀ later ∈ after, later.write.record.requestId ≠ requestId) ∧
      ∃ event ∈ events, ticket.handed.val ∈ responseWrites externals event := by
  have origins := (truthful_run externals sql inverts parsers capacity closed events final
    completed).origins
  obtain ⟨sameId, before, ticket, after, placed, evidence, apart⟩ := origins.lastPersisted shown
  rw [sameId] at apart
  refine ⟨before, ticket, after, placed, evidence.requestId.symm.trans sameId, evidence,
    ticket.write_cases, apart, ?_⟩
  exact responded_of_persisted externals sql inverts parsers capacity closed events final
    completed ticket (by simp [placed])

/-- The request is recorded twice and replayed twice, and shown as its last capture tells. -/
theorem shown_of_last_persisted_replayed : ∃ final details,
    Runs.run (step Exchange.plainExternals markedSql Replay.plainParsers) (start 1 false)
        replayedEvents = some final ∧
      final.capture.store.val.showRequest markedSql "r" = some details ∧
      ∃ before ticket after, final.capture.queue.persisted = before ++ ticket :: after ∧
        EvidenceOf ticket.write details ∧
        ∀ later ∈ after, later.write.record.requestId ≠ "r" := by
  have listed : (Runs.run (step Exchange.plainExternals markedSql Replay.plainParsers)
      (start 1 false) replayedEvents).map (fun final =>
        (final.capture.store.val.showRequest markedSql "r").isSome) = some true := by
    decide +kernel
  obtain ⟨final, completed, isShown⟩ := Option.map_eq_some_iff.mp listed
  obtain ⟨details, shown⟩ := Option.isSome_iff_exists.mp isShown
  obtain ⟨before, ticket, after, placed, _, evidence, _, apart, _⟩ :=
    shown_of_last_persisted Exchange.plainExternals markedSql markedSql_inverts
      Replay.plainParsers 1 false replayedEvents final completed "r" details shown
  exact ⟨final, details, completed, shown, before, ticket, after, placed, evidence, apart⟩

end Replays

end TraceGate
