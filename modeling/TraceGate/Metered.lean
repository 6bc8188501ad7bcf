import Mathlib.Data.List.Perm.Basic
import TraceGate.Metrics

/-!
# What the metrics and the evidence tell

A request is counted and recorded at different moments. Its plugin decisions are counted when the
plugins have decided, before an upstream is contacted. The request itself is counted when its
handler returns. Its record, with the decisions, is handed to the capture writer when the body of
the response has come to its end. Between the first two moments the handler waits for the
upstream, and when the client's connection is lost then, it is dropped: its decisions stay
counted, and nothing else of it is ever counted or recorded. A handler that is dropped before its
plugins have decided leaves nothing at all.

So the metrics are ahead of the evidence, and over any run it can be told by what. The counters of
requests are ahead by the responses whose body has not ended. The counters of decisions are ahead
by those responses, by the requests that wait for an upstream, and by the handlers dropped there.
Once every body has ended and if no handler was dropped, both tell the same.
-/

namespace TraceGate

namespace Metered

variable {Component : Type} {externals : Externals} {capacity : Nat}

/-- A request with the gateway that handles it and what happens around it. -/
structure Serving (Component : Type) where
  gateway : GatewayState Component
  request : InboundRequest
  remoteAddr : SocketAddr
  around : Surroundings Component

namespace Serving

def prepare (externals : Externals) (serving : Serving Component) : Prepared :=
  TraceGate.prepare externals serving.gateway serving.request serving.remoteAddr serving.around

def handle (externals : Externals) (serving : Serving Component) :
    Except ResponseHead Handled :=
  TraceGate.handle externals serving.gateway serving.request serving.remoteAddr serving.around

/-- With the attempts that were made, the frames they polled and the clock at their end. -/
def ending (serving : Serving Component) (attempts : Nat → Attempt) (polled : List Frame)
    (clock : Clock) : Serving Component :=
  { serving with
    around := { serving.around with attempts := attempts, polled := polled, clock := clock } }

/-- A request that leaves by an exit of the gateway's own returns there. -/
theorem handle_of_exit (externals : Externals) (serving : Serving Component) (handled : Handled)
    (prepared : serving.prepare externals = .exit handled) :
    serving.handle externals = .ok handled :=
  (handle_eq_ok externals _ _ _ _ handled).mpr (Or.inl prepared)

/-- A request that waits for an upstream returns what its attempts come to. The choice made for it
does not depend on them. -/
theorem handle_of_forward (externals : Externals) (serving : Serving Component)
    (forward : Forward) (prepared : serving.prepare externals = .forward forward)
    (attempts : Nat → Attempt) (polled : List Frame) (clock : Clock) :
    (serving.ending attempts polled clock).handle externals =
      .ok (forward.finish externals clock (forward.attempt externals attempts)
        (forward.captureAfter polled)) :=
  (handle_eq_ok externals _ _ _ _ _).mpr (Or.inr ⟨forward,
    prepare_forward_ending externals _ _ _ _ forward prepared attempts polled clock, rfl⟩)

end Serving

/-- A request whose handler waits for an upstream. -/
structure Forwarding (externals : Externals) (Component : Type) where
  serving : Serving Component
  forward : Forward
  prepared : serving.prepare externals = .forward forward

/-- A response whose body has not come to its end. -/
structure Responding (externals : Externals) (Component : Type) where
  serving : Serving Component
  handled : Handled
  returned : serving.handle externals = .ok handled

/-- Queue and store, the metrics beside them, the requests and responses under way, and what was
forwarded by the handlers that were dropped. -/
structure State (externals : Externals) (Component : Type) (capacity : Nat) where
  system : CaptureMarks.State capacity
  requests : Telemetry
  plugins : PluginTelemetry
  forwarding : List (Forwarding externals Component)
  responding : List (Responding externals Component)
  dropped : List Forward

/-- The plugins have decided on a request; the attempts of a request at a place come to an end,
and its handler returns; the handler at a place is dropped; the body of the response at a place
comes to its end; or the queue, the writer and other tasks move on. -/
inductive Event (Component : Type) where
  | decided (serving : Serving Component)
  | returned (place : Nat) (attempts : Nat → Attempt) (polled : List Frame) (clock : Clock)
  | dropped (place : Nat)
  | ended (place : Nat) (redaction : RedactionConfig) (polls : List (CaptureBuffer × Poll))
      (requestCapture : CaptureBuffer)
  | moved (event : CaptureMarks.Event Component)

/-- A response comes to its end in its own event only. -/
def finishes : CaptureMarks.Event Component → Bool
  | .finish .. => true
  | .retry _ | .receive | .insert _ | .insertReplayRun _ | .runRetention _ _ _ => false

/-- An exit of the gateway's own returns without an await, so the request is counted with its
decisions. A gateway without the route's runtime answers without counting anything. -/
def step (sql : SqlExternals) (state : State externals Component capacity) :
    Event Component → Option (State externals Component capacity)
  | .decided serving =>
      match prepared : serving.prepare externals with
      | .unavailable _ => some state
      | .exit handled =>
          some { state with
            plugins := state.plugins.recordPluginMetrics handled.pluginMetrics
            requests := state.requests.recordRequest handled.metric
            responding := state.responding ++
              [⟨serving, handled, serving.handle_of_exit externals handled prepared⟩] }
      | .forward forward =>
          some { state with
            plugins := state.plugins.recordPluginMetrics forward.records
            forwarding := state.forwarding ++ [⟨serving, forward, prepared⟩] }
  | .returned place attempts polled clock =>
      match state.forwarding[place]? with
      | none => none
      | some ⟨serving, forward, prepared⟩ =>
          let handled := forward.finish externals clock (forward.attempt externals attempts)
            (forward.captureAfter polled)
          some { state with
            requests := state.requests.recordRequest handled.metric
            forwarding := state.forwarding.eraseIdx place
            responding := state.responding ++
              [⟨serving.ending attempts polled clock, handled,
                serving.handle_of_forward externals forward prepared attempts polled clock⟩] }
  | .dropped place =>
      match state.forwarding[place]? with
      | none => none
      | some entry =>
          some { state with
            forwarding := state.forwarding.eraseIdx place
            dropped := state.dropped ++ [entry.forward] }
  | .ended place redaction polls requestCapture =>
      match state.responding[place]? with
      | none => none
      | some ⟨serving, _, _⟩ =>
          (CaptureMarks.step externals sql state.system
            (.finish serving.gateway serving.request serving.remoteAddr serving.around redaction
              polls requestCapture)).map fun system =>
                { state with system := system, responding := state.responding.eraseIdx place }
  | .moved event =>
      if finishes event then none
      else
        (CaptureMarks.step externals sql state.system event).map fun system =>
          { state with system := system }

def start (externals : Externals) (Component : Type) (capacity : Nat) (closed : Bool) :
    State externals Component capacity :=
  ⟨CaptureMarks.start capacity closed, .new, .new, [], [], []⟩

namespace State

variable (state : State externals Component capacity)

/-- The writes handed over so far. -/
def writes : List CaptureWrite := state.system.queue.handed.map Subtype.val

/-- The decisions stored with these writes. -/
def decisions : List PluginDecisionInsert := state.writes.flatMap (·.pluginDecisions)

/-- The records of the responses whose body has not ended. -/
def unwritten : List RequestInsert := state.responding.map (·.handled.finalizer.record)

/-- The decisions made on the requests without a write: of the responses whose body has not ended,
of the requests that wait for an upstream, and of the handlers that were dropped there. -/
def unstored : List Policy.PolicyDecisionRecord :=
  state.responding.flatMap (·.handled.pluginMetrics) ++
    state.forwarding.flatMap (·.forward.records) ++ state.dropped.flatMap (·.records)

end State

/-! ## What an event does -/

/-- What is at a place of a list is apart from the rest. -/
theorem perm_of_getElem? {α : Type} {list : List α} {place : Nat} {entry : α}
    (found : list[place]? = some entry) : list.Perm (entry :: list.eraseIdx place) := by
  obtain ⟨within, rfl⟩ := List.getElem?_eq_some_iff.mp found
  exact (List.getElem_cons_eraseIdx_perm within).symm

/-- Everything an event can do. -/
inductive Change (state : State externals Component capacity) :
    Event Component → State externals Component capacity → Prop where
  | refused (serving : Serving Component) : Change state (.decided serving) state
  | exited (entry : Responding externals Component)
      (prepared : entry.serving.prepare externals = .exit entry.handled) :
      Change state (.decided entry.serving)
        { state with
          plugins := state.plugins.recordPluginMetrics entry.handled.pluginMetrics
          requests := state.requests.recordRequest entry.handled.metric
          responding := state.responding ++ [entry] }
  | forwarded (entry : Forwarding externals Component) :
      Change state (.decided entry.serving)
        { state with
          plugins := state.plugins.recordPluginMetrics entry.forward.records
          forwarding := state.forwarding ++ [entry] }
  | returned (place : Nat) (attempts : Nat → Attempt) (polled : List Frame) (clock : Clock)
      (entry : Forwarding externals Component) (rest : List (Forwarding externals Component))
      (found : state.forwarding.Perm (entry :: rest)) (response : Responding externals Component)
      (sameDecisions : response.handled.pluginMetrics = entry.forward.records) :
      Change state (.returned place attempts polled clock)
        { state with
          requests := state.requests.recordRequest response.handled.metric
          forwarding := rest
          responding := state.responding ++ [response] }
  | dropped (place : Nat) (entry : Forwarding externals Component)
      (rest : List (Forwarding externals Component))
      (found : state.forwarding.Perm (entry :: rest)) :
      Change state (.dropped place)
        { state with forwarding := rest, dropped := state.dropped ++ [entry.forward] }
  | ended (place : Nat) (redaction : RedactionConfig) (polls : List (CaptureBuffer × Poll))
      (requestCapture : CaptureBuffer) (entry : Responding externals Component)
      (rest : List (Responding externals Component))
      (found : state.responding.Perm (entry :: rest)) (system : CaptureMarks.State capacity)
      (write : CaptureWrite) (sameRecord : write.record = entry.handled.finalizer.record)
      (sameDecisions : write.pluginDecisions = entry.handled.finalizer.pluginDecisions)
      (handed : system.queue.handed.map Subtype.val = state.writes ++ [write]) :
      Change state (.ended place redaction polls requestCapture)
        { state with system := system, responding := rest }
  | moved (event : CaptureMarks.Event Component) (system : CaptureMarks.State capacity)
      (same : system.queue.handed.map Subtype.val = state.writes) :
      Change state (.moved event) { state with system := system }

/-- Every event does one of these things. The write of a response that ends is the only one of its
body, and no other event of the system hands one over. -/
theorem step_change (sql : SqlExternals) (state next : State externals Component capacity)
    (event : Event Component) (taken : step sql state event = some next) :
    Change state event next := by
  cases event with
  | decided serving =>
    simp only [step] at taken
    split at taken
    · obtain rfl := Option.some.inj taken
      exact .refused serving
    next handled prepared =>
      obtain rfl := Option.some.inj taken
      exact .exited ⟨serving, handled, serving.handle_of_exit externals handled prepared⟩ prepared
    next forward prepared =>
      obtain rfl := Option.some.inj taken
      exact .forwarded ⟨serving, forward, prepared⟩
  | returned place attempts polled clock =>
    simp only [step] at taken
    split at taken
    · exact absurd taken (by simp)
    next serving forward prepared found =>
      obtain rfl := Option.some.inj taken
      exact .returned place attempts polled clock ⟨serving, forward, prepared⟩ _
        (perm_of_getElem? found)
        ⟨_, _, serving.handle_of_forward externals forward prepared attempts polled clock⟩ rfl
  | dropped place =>
    simp only [step] at taken
    split at taken
    · exact absurd taken (by simp)
    next entry found =>
      obtain rfl := Option.some.inj taken
      exact .dropped place entry _ (perm_of_getElem? found)
  | ended place redaction polls requestCapture =>
    simp only [step] at taken
    split at taken
    · exact absurd taken (by simp)
    next serving handled returned found =>
      obtain ⟨system, finished, rfl⟩ := Option.map_eq_some_iff.mp taken
      obtain ⟨write, written, sameRecord, _, sameDecisions⟩ := exists_write_attach
        externals.sha256 redaction handled.response.headers handled.finalizer polls requestCapture
      refine .ended place redaction polls requestCapture _ _ (perm_of_getElem? found) system write
        sameRecord sameDecisions ?_
      have returnedToo : TraceGate.handle externals serving.gateway serving.request
          serving.remoteAddr serving.around = .ok handled := returned
      rw [CaptureMarks.handed_of_change externals sql state.system _ system finished,
        CaptureMarks.responseWrites, returnedToo]
      exact congrArg (state.writes ++ ·) written
  | moved event =>
    simp only [step] at taken
    split at taken
    · exact absurd taken (by simp)
    next other =>
      obtain ⟨system, stepped, rfl⟩ := Option.map_eq_some_iff.mp taken
      refine .moved event system ?_
      rw [CaptureMarks.handed_of_change externals sql state.system event system stepped]
      cases event with
      | finish => exact absurd rfl other
      | retry | receive | insert | insertReplayRun | runRetention => exact List.append_nil _

/-! ## The metrics are ahead by what is under way -/

/-- The metrics come from requests with these records and from decisions told like this, each
counted in some order. -/
structure Agrees (requests : Telemetry) (plugins : PluginTelemetry) (kept : List RequestInsert)
    (told : List Told) : Prop where
  requests : ∃ counted, requests.Counted counted ∧ counted.Perm kept
  decisions : ∃ records, plugins = PluginTelemetry.new.recordPluginMetrics records ∧
    (records.map (·.told)).Perm told

namespace Agrees

variable {requests : Telemetry} {plugins : PluginTelemetry} {kept : List RequestInsert}
  {told : List Told}

/-- The order of what was counted does not matter, since the metrics are compared with it up to
order only. -/
theorem of_perm (agrees : Agrees requests plugins kept told) {keptToo : List RequestInsert}
    {toldToo : List Told} (sameKept : kept.Perm keptToo) (sameTold : told.Perm toldToo) :
    Agrees requests plugins keptToo toldToo := by
  obtain ⟨⟨counted, same, order⟩, records, recorded, toldAlike⟩ := agrees
  exact ⟨⟨counted, same, order.trans sameKept⟩, records, recorded, toldAlike.trans sameTold⟩

/-- Counting a returned request adds its record: the labels of its metric are read off the
record. -/
theorem recordRequest (agrees : Agrees requests plugins kept told)
    (entry : Responding externals Component) :
    Agrees (requests.recordRequest entry.handled.metric) plugins
      (kept ++ [entry.handled.finalizer.record]) told := by
  obtain ⟨⟨counted, same, order⟩, decisions⟩ := agrees
  have tells := told_of_handle externals _ _ _ _ entry.handled entry.returned
  exact ⟨⟨_, same.record tells, order.append_right _⟩, decisions⟩

/-- Counting decisions adds them to those told. -/
theorem recordPluginMetrics (agrees : Agrees requests plugins kept told)
    (more : List Policy.PolicyDecisionRecord) :
    Agrees requests (plugins.recordPluginMetrics more) kept (told ++ more.map (·.told)) := by
  obtain ⟨counted, records, recorded, toldAlike⟩ := agrees
  refine ⟨counted, records ++ more, ?_, ?_⟩
  · rw [recorded, PluginTelemetry.recordPluginMetrics_append]
  · rw [List.map_append]
    exact toldAlike.append_right _

end Agrees

namespace State

variable (state : State externals Component capacity)

/-- The records written and those to be written. -/
def kept : List RequestInsert := state.writes.map (·.record) ++ state.unwritten

/-- The decisions stored, to be stored, and never to be. -/
def told : List Told := state.decisions.map (·.told) ++ state.unstored.map (·.told)

/-- How often a decision was made, by where it is: with a write, with a response, with a request
still being forwarded, or dropped. -/
theorem count_told (one : Told) :
    state.told.count one = (state.decisions.map (·.told)).count one +
      ((state.responding.flatMap (·.handled.pluginMetrics)).map (·.told)).count one +
      ((state.forwarding.flatMap (·.forward.records)).map (·.told)).count one +
      ((state.dropped.flatMap (·.records)).map (·.told)).count one := by
  simp only [told, unstored, List.map_append, List.count_append, Nat.add_assoc]

end State

/-- The decisions of a response are told alike in the metrics and in what will be stored. -/
theorem Responding.told_decisions (entry : Responding externals Component) :
    entry.handled.finalizer.pluginDecisions.map (·.told) =
      entry.handled.pluginMetrics.map (·.told) := by
  obtain ⟨nowMs, stored⟩ := (told_of_handle externals _ _ _ _ entry.handled
    entry.returned).decisions
  rw [stored, map_told_pluginDecisionInserts]

/-- One event keeps the account.

Deciding and returning count what is then under way. Dropping and ending move it on: the record of
a response that ends becomes the record of its write. -/
theorem agrees_of_step (sql : SqlExternals) (state : State externals Component capacity)
    (event : Event Component) (next : State externals Component capacity)
    (agrees : Agrees state.requests state.plugins state.kept state.told)
    (taken : step sql state event = some next) :
    Agrees next.requests next.plugins next.kept next.told := by
  cases step_change sql state next event taken with
  | refused serving => exact agrees
  | exited entry prepared =>
    refine ((agrees.recordPluginMetrics entry.handled.pluginMetrics).recordRequest entry).of_perm
      (List.Perm.of_eq ?_) (List.perm_iff_count.mpr fun one => ?_)
    · simp only [State.kept, State.unwritten, List.map_append, List.append_assoc]
      rfl
    · rw [List.count_append, State.count_told, State.count_told]
      simp only [List.flatMap_append, List.flatMap_cons, List.flatMap_nil, List.append_nil,
        List.map_append, List.count_append, State.decisions, State.writes]
      omega
  | forwarded entry =>
    refine (agrees.recordPluginMetrics entry.forward.records).of_perm (List.Perm.refl _)
      (List.perm_iff_count.mpr fun one => ?_)
    rw [List.count_append, State.count_told, State.count_told]
    simp only [List.flatMap_append, List.flatMap_cons, List.flatMap_nil, List.append_nil,
      List.map_append, List.count_append, State.decisions, State.writes]
    omega
  | returned place attempts polled clock entry rest found response sameDecisions =>
    refine (agrees.recordRequest response).of_perm (List.Perm.of_eq ?_)
      (List.perm_iff_count.mpr fun one => ?_)
    · simp only [State.kept, State.unwritten, List.map_append, List.append_assoc]
      rfl
    · have moved := ((found.flatMap_right (·.forward.records)).map (·.told)).count_eq one
      rw [State.count_told, State.count_told]
      simp only [List.flatMap_append, List.flatMap_cons, List.flatMap_nil, List.append_nil,
        List.map_append, List.count_append, State.decisions, State.writes, sameDecisions] at moved ⊢
      omega
  | dropped place entry rest found =>
    refine agrees.of_perm (List.Perm.refl _) (List.perm_iff_count.mpr fun one => ?_)
    have moved := ((found.flatMap_right (·.forward.records)).map (·.told)).count_eq one
    rw [State.count_told, State.count_told]
    simp only [List.flatMap_append, List.flatMap_cons, List.flatMap_nil, List.append_nil,
      List.map_append, List.count_append, State.decisions, State.writes] at moved ⊢
    omega
  | ended place redaction polls requestCapture entry rest found system write sameRecord
      sameDecisions handed =>
    refine agrees.of_perm ?_ (List.perm_iff_count.mpr fun one => ?_)
    · have moved := found.map (·.handled.finalizer.record)
      simp only [State.kept, State.unwritten, State.writes, handed, List.map_append,
        List.append_assoc, List.map_cons, List.map_nil, sameRecord,
        List.singleton_append] at moved ⊢
      exact moved.append_left _
    · have moved := ((found.flatMap_right (·.handled.pluginMetrics)).map (·.told)).count_eq one
      rw [State.count_told, State.count_told]
      simp only [State.decisions, State.writes, handed, List.flatMap_append, List.flatMap_cons,
        List.flatMap_nil, List.append_nil, List.map_append, List.count_append, sameDecisions,
        entry.told_decisions] at moved ⊢
      omega
  | moved event system handed =>
    simpa only [State.kept, State.told, State.unwritten, State.unstored, State.decisions,
      State.writes, handed] using agrees

/-- Decisions that are told alike are counted alike, whatever is counted. -/
theorem countP_told {records unstored : List Policy.PolicyDecisionRecord}
    {decisions : List PluginDecisionInsert}
    (same : (records.map (·.told)).Perm (decisions.map (·.told) ++ unstored.map (·.told)))
    (counted : Told → Bool) :
    (records.countP fun record => counted record.told) =
      (decisions.countP fun decision => counted decision.told) +
        unstored.countP fun record => counted record.told := by
  have mapped := same.countP_eq counted
  rwa [List.countP_append, List.countP_map, List.countP_map, List.countP_map] at mapped

/-- Decisions that are told alike took the same times, however they are filtered. -/
theorem durations_told {records unstored : List Policy.PolicyDecisionRecord}
    {decisions : List PluginDecisionInsert}
    (same : (records.map (·.told)).Perm (decisions.map (·.told) ++ unstored.map (·.told)))
    (kept : Told → Bool) :
    ((records.filter fun record => kept record.told).map fun record =>
        asMillis record.duration).Perm
      (((decisions.filter fun decision => kept decision.told).map (·.durationMs)) ++
        (unstored.filter fun record => kept record.told).map fun record =>
          asMillis record.duration) := by
  have filtered := (same.filter kept).map Told.durationMs
  rwa [List.filter_append, List.filter_map, List.filter_map, List.filter_map, List.map_append,
    List.map_map, List.map_map, List.map_map] at filtered

/-- Along every run, the counters of requests and of upstream errors are the numbers of records
with their labels that were handed over, and of those whose response has not ended. The counters
of plugin decisions, timeouts and errors are the numbers of decisions with their labels that were
handed over, and of those made on requests without a write: under way, or of a handler that was
dropped while it waited for an upstream. -/
theorem metrics_tell_writes (externals : Externals) (sql : SqlExternals) (capacity : Nat)
    (closed : Bool) (events : List (Event Component))
    (final : State externals Component capacity)
    (completed : Runs.run (step sql) (start externals Component capacity closed) events =
      some final) :
    (∀ labels : RequestLabels,
      final.requests.requests.value labels 0 =
          (final.writes.countP fun write => decide (write.record.labels = labels)) +
            (final.unwritten.countP fun record => decide (record.labels = labels)) ∧
        (final.requests.requestDuration.value labels []).length =
          (final.writes.countP fun write => decide (write.record.labels = labels)) +
            final.unwritten.countP fun record => decide (record.labels = labels)) ∧
      (∀ labels : UpstreamErrorLabels, final.requests.upstreamErrors.value labels 0 =
        (final.writes.countP fun write =>
            decide (write.record.errorLabels = labels) && write.record.isError) +
          final.unwritten.countP fun record =>
            decide (record.errorLabels = labels) && record.isError) ∧
      (∀ labels : PluginDecisionLabels,
        final.plugins.pluginDecisions.value labels 0 =
            (final.decisions.countP fun decision => decide (decision.labels = labels)) +
              (final.unstored.countP fun record => decide (record.labels = labels)) ∧
          ((final.plugins.pluginDuration.value labels []).map asMillis).Perm
            (((final.decisions.filter fun decision => decide (decision.labels = labels)).map
                (·.durationMs)) ++
              (final.unstored.filter fun record => decide (record.labels = labels)).map
                fun record => asMillis record.duration)) ∧
      ∀ labels : PluginFailureLabels,
        final.plugins.pluginTimeouts.value labels 0 =
            (final.decisions.countP fun decision =>
                decide (decision.failureLabels = labels) && decision.timedOut) +
              (final.unstored.countP fun record =>
                decide (record.failureLabels = labels) && record.timedOut) ∧
          final.plugins.pluginErrors.value labels 0 =
            (final.decisions.countP fun decision =>
                decide (decision.failureLabels = labels) && decision.error.isSome) +
              final.unstored.countP fun record =>
                decide (record.failureLabels = labels) && record.error.isSome := by
  obtain ⟨⟨counted, same, order⟩, records, recorded, told⟩ := Runs.run_invariant (step sql)
    (fun state => Agrees state.requests state.plugins state.kept state.told) (agrees_of_step sql)
    (start externals Component capacity closed) final events
    ⟨⟨[], ⟨rfl, ⟨[], rfl, rfl⟩, rfl⟩, List.Perm.refl _⟩, [], rfl, List.Perm.refl _⟩ completed
  have requests : ∀ counts : RequestInsert → Bool, counted.countP counts =
      (final.writes.countP fun write => counts write.record) + final.unwritten.countP counts := by
    intro counts
    rw [order.countP_eq, State.kept, List.countP_append, List.countP_map]
    rfl
  have decided := countP_told told
  rw [PluginTelemetry.recordPluginMetrics_eq] at recorded
  refine ⟨fun labels => ⟨?_, ?_⟩, fun labels => ?_, fun labels => ⟨?_, ?_⟩, fun labels =>
    ⟨?_, ?_⟩⟩
  · rw [same.requests, Family.value_tally_map]
    exact requests fun record => decide (record.labels = labels)
  · obtain ⟨seen, gathered, sameLabels⟩ := same.durations
    have listed := congrArg (List.countP fun other => decide (other = labels)) sameLabels
    rw [List.countP_map, List.countP_map] at listed
    rw [gathered, Family.value_gather, List.length_append, List.length_map,
      ← List.countP_eq_length_filter]
    exact ((Nat.zero_add _).trans listed).trans
      (requests fun record => decide (record.labels = labels))
  · rw [same.errors, Family.value_tally_filter]
    exact requests fun record => decide (record.errorLabels = labels) && record.isError
  · rw [recorded]
    exact (Family.value_tally_map _ _ _).trans
      (decided fun told => decide (told.labels = labels))
  · rw [recorded]
    have times := durations_told told fun told => decide (told.labels = labels)
    have gathered := congrArg (List.map asMillis) (Family.value_gather_map records
      Policy.PolicyDecisionRecord.labels Policy.PolicyDecisionRecord.duration labels)
    rw [List.map_map] at gathered
    exact (List.Perm.of_eq gathered).trans times
  · rw [recorded]
    exact (Family.value_tally_filter _ _ _ _).trans
      (decided fun told => decide (told.failureLabels = labels) && told.timedOut)
  · rw [recorded]
    exact (Family.value_tally_filter _ _ _ _).trans
      (decided fun told => decide (told.failureLabels = labels) && told.errored)

/-! A route with a guard. One request is denied, and its response ends. Another one is let through,
and its handler is dropped while it waits for the upstream. -/

def guardedServing (deny : Option Policy.DenyResponse) : Serving Unit :=
  ⟨CaptureMarks.guardedGateway, Exchange.uploadRequest, Exchange.localAddr,
    CaptureMarks.guardedAround deny⟩

def droppedEvents : List (Event Unit) :=
  [.decided (guardedServing (some ⟨503, "maintenance"⟩)), .decided (guardedServing none),
    .ended 0 ⟨[], []⟩ [(.disabled, .ended)] .disabled, .dropped 0]

/-- Two decisions are counted and one of them is stored: the other request was dropped while it
was being forwarded. -/
theorem metrics_tell_writes_guarded :
    ∃ final : State Exchange.plainExternals Unit 1,
      Runs.run (step plainSql) (start Exchange.plainExternals Unit 1 false) droppedEvents =
          some final ∧
        final.writes.length = 1 ∧ final.dropped.length = 1 ∧ final.unwritten = [] ∧
        ∀ labels : PluginDecisionLabels, final.plugins.pluginDecisions.value labels 0 =
          (final.decisions.countP fun decision => decide (decision.labels = labels)) +
            final.unstored.countP fun record => decide (record.labels = labels) :=
  ⟨_, rfl, rfl, rfl, rfl, fun labels => ((metrics_tell_writes Exchange.plainExternals plainSql 1
    false droppedEvents _ rfl).2.2.1 labels).1⟩

/-! ## The labels of the plugins -/

/-- The gateway that decides on the request was built from one of the configurations. -/
def BuiltFrom (wasm : Policy.Wasmtime Component) (configs : List AppConfig) :
    Event Component → Prop
  | .decided serving => ∃ config ∈ configs, GatewayState.new wasm config = .ok serving.gateway
  | _ => True

/-- The plugin metrics come from well-formed records of configured plugins. -/
def Configured (configs : List AppConfig) (plugins : PluginTelemetry) : Prop :=
  ∃ records, plugins = PluginTelemetry.new.recordPluginMetrics records ∧
    ∀ record ∈ records,
      record.WellFormed ∧ (record.pluginId, record.routeId) ∈ configuredPairs configs

/-- The decisions on a request add records of plugins that its gateway's configuration names. -/
theorem Configured.decided (externals : Externals) {configs : List AppConfig}
    {plugins : PluginTelemetry}
    (configured : Configured configs plugins) (wasm : Policy.Wasmtime Component)
    (serving : Serving Component)
    (built : ∃ config ∈ configs, GatewayState.new wasm config = .ok serving.gateway) :
    Configured configs (plugins.recordPluginMetrics (serving.prepare externals).records) := by
  obtain ⟨records, same, known⟩ := configured
  obtain ⟨config, listed, loaded⟩ := built
  refine ⟨records ++ (serving.prepare externals).records, ?_,
    List.forall_mem_append.mpr ⟨known, ?_⟩⟩
  · rw [same, PluginTelemetry.recordPluginMetrics_append]
  · intro record member
    obtain ⟨wellFormed, plugin, chained, named⟩ := record_of_prepare externals serving.gateway
      serving.request serving.remoteAddr serving.around record member
    rw [named]
    exact ⟨wellFormed, mem_configuredPairs wasm configs config listed serving.gateway loaded
      record.routeId plugin chained⟩

/-- Only deciding on a request changes the plugin metrics, so every record they hold stays one
of a configured plugin. -/
theorem configured_of_step (sql : SqlExternals) (wasm : Policy.Wasmtime Component)
    (configs : List AppConfig) (state : State externals Component capacity)
    (event : Event Component) (next : State externals Component capacity)
    (configured : Configured configs state.plugins) (built : BuiltFrom wasm configs event)
    (taken : step sql state event = some next) : Configured configs next.plugins := by
  cases step_change sql state next event taken with
  | exited entry prepared =>
    have more := Configured.decided externals configured wasm entry.serving built
    rw [prepared] at more
    exact more
  | forwarded entry =>
    have more := Configured.decided externals configured wasm entry.serving built
    rw [entry.prepared] at more
    exact more
  | refused | returned | dropped | ended | moved => exact configured

/-- Over every run, whatever plugins answer and however often gateways are rebuilt, the
plugin metrics have at most four label sets for each configured pair of a plugin and a
route, and one for its failures; and the counters of timeouts and errors are those of the
decisions with that outcome, which are all denials. -/
theorem plugin_metrics_bounded (externals : Externals) (sql : SqlExternals)
    (wasm : Policy.Wasmtime Component) (configs : List AppConfig) (capacity : Nat)
    (closed : Bool) (events : List (Event Component))
    (final : State externals Component capacity)
    (built : ∀ event ∈ events, BuiltFrom wasm configs event)
    (completed : Runs.run (step sql) (start externals Component capacity closed) events =
      some final) :
    (final.plugins.pluginDecisions.size ≤ 4 * (configuredPairs configs).length ∧
        final.plugins.pluginDuration.size ≤ 4 * (configuredPairs configs).length ∧
        final.plugins.pluginTimeouts.size ≤ (configuredPairs configs).length ∧
        final.plugins.pluginErrors.size ≤ (configuredPairs configs).length) ∧
      ∀ pluginId routeId,
        final.plugins.pluginTimeouts.value ⟨pluginId, routeId⟩ 0 =
            final.plugins.pluginDecisions.value ⟨pluginId, routeId, "deny", "timeout"⟩ 0 ∧
          final.plugins.pluginErrors.value ⟨pluginId, routeId⟩ 0 =
            final.plugins.pluginDecisions.value ⟨pluginId, routeId, "deny", "timeout"⟩ 0 +
              final.plugins.pluginDecisions.value ⟨pluginId, routeId, "deny", "error"⟩ 0 := by
  obtain ⟨records, same, known⟩ := Runs.guarded_invariant (step sql)
    (fun _ event => BuiltFrom wasm configs event) (fun state => Configured configs state.plugins)
    (configured_of_step sql wasm configs) (start externals Component capacity closed) final events
    ⟨[], rfl, fun record member => absurd member List.not_mem_nil⟩
    (Runs.guarded_of_forall _ _ events built _) completed
  rw [same]
  exact ⟨PluginTelemetry.size_of_pairs records _ known,
    PluginTelemetry.failures_of_wellFormed records fun record member => (known record member).1⟩

def guardedConfig : AppConfig :=
  { bareConfig with routes := [CaptureMarks.guardedRoute], plugins := [Policy.guardConfig] }

/-- The gateway of `guardedConfig`. -/
def guardedState : GatewayState Unit :=
  { CaptureMarks.guardedGateway with
    routeRuntime :=
      Map.insert (fun _ => none) "orders" (RouteRuntime.new CaptureMarks.guardedRoute) }

/-- A request whose plugin does not answer in time. -/
def timedOutEvents : List (Event Unit) :=
  [.decided ⟨guardedState, Exchange.uploadRequest, Exchange.localAddr,
    { Exchange.uploadAround with outcomes := fun _ _ _ => .timedOut }⟩]

/-- One call that timed out is one error, within the bound of the one configured pair. -/
theorem plugin_metrics_bounded_timeout :
    ∃ final : State Exchange.plainExternals Unit 1,
      Runs.run (step plainSql) (start Exchange.plainExternals Unit 1 false) timedOutEvents =
          some final ∧
        final.plugins.pluginErrors.value ⟨"guard", "orders"⟩ 0 = 1 ∧
        final.plugins.pluginDecisions.size ≤ 4 * (configuredPairs [guardedConfig]).length := by
  have built : ∀ event ∈ timedOutEvents, BuiltFrom Policy.permissiveWasm [guardedConfig] event :=
    List.forall_mem_singleton.mpr ⟨guardedConfig, List.mem_singleton.mpr rfl, rfl⟩
  exact ⟨_, rfl, rfl, (plugin_metrics_bounded Exchange.plainExternals plainSql
    Policy.permissiveWasm [guardedConfig] 1 false timedOutEvents _ built rfl).1.1⟩

end Metered

end TraceGate
