import TraceGate.OldestFirst
import TraceGate.Simulation
import TraceGate.StoredEvidence
import TraceGate.StoredRows

/-!
# The store as a list of documents

What the store is for can be said without tables: it is a list of recorded requests, each
with everything known about it, in the order of recording and with no identifier twice.
Recording a request replaces an earlier one of its identifier. A replay run is added to the
request it replays, behind the others. Retention drops the requests that are too old, and
then empties captures, the oldest request first, one at a time, until the bodies that are
left fit. Which of several requests of one time goes first is left open, so retention has
several outcomes.

Six tables with keys, references and cascades implement this list. Every call on the tables
is a call on the list, and every query returns what can be read off the list, so whoever
uses the store may think of the list. Where a query sorts by time it is the database that
orders what has the same time, and the list is given the same order to read with.
-/

namespace TraceGate

/-! ## The list -/

namespace CaptureDetails

def bytes (capture : CaptureDetails) : Nat :=
  (capture.requestBody.map List.length).getD 0 + (capture.responseBody.map List.length).getD 0

def evict (capture : CaptureDetails) : CaptureDetails :=
  { capture with requestBody := none, responseBody := none, bodyEvicted := true }

def evictable (capture : CaptureDetails) : Bool :=
  !capture.bodyEvicted && (capture.requestBody.isSome || capture.responseBody.isSome)

end CaptureDetails

namespace RequestDetails

def requestId (details : RequestDetails) : String := details.request.requestId

/-- The bytes of its bodies. -/
def bytes (details : RequestDetails) : Nat := (details.capture.map CaptureDetails.bytes).getD 0

def evict (details : RequestDetails) : RequestDetails :=
  { details with capture := details.capture.map CaptureDetails.evict }

def evictable (details : RequestDetails) : Bool := details.capture.any CaptureDetails.evictable

/-- With another replay run. -/
def addRun (details : RequestDetails) (run : ReplayRun) : RequestDetails :=
  { details with replayRuns := details.replayRuns ++ [run] }

/-- As it is shown: the replay runs newest first. -/
def arranged (sql : SqlExternals) (details : RequestDetails) : RequestDetails :=
  { details with replayRuns := sql.runOrder.sort details.replayRuns }

/-- Without replay runs there is nothing to arrange. -/
theorem arranged_of_replayRuns_nil (sql : SqlExternals) {details : RequestDetails}
    (none : details.replayRuns = []) : details.arranged sql = details := by
  rw [arranged, none, Ordering.Sorting.sort_nil, ← none]

end RequestDetails

@[ext]
structure Archive where
  entries : List RequestDetails
  distinct : (entries.map RequestDetails.requestId).Nodup

namespace Archive

def empty : Archive := ⟨[], List.nodup_nil⟩

def ids (archive : Archive) : List String := archive.entries.map RequestDetails.requestId

/-- The entries of a list with distinct identifiers keep them distinct when some go. -/
def keep (archive : Archive) (kept : RequestDetails → Bool) : Archive :=
  ⟨archive.entries.filter kept, archive.distinct.sublist (List.filter_sublist.map _)⟩

/-- Every entry changed, under its own identifier. -/
def change (archive : Archive) (changed : RequestDetails → RequestDetails)
    (sameId : ∀ details, (changed details).requestId = details.requestId) : Archive :=
  ⟨archive.entries.map changed, by
    rw [List.map_map, show RequestDetails.requestId ∘ changed = RequestDetails.requestId from
      funext sameId]
    exact archive.distinct⟩

/-- A request takes the place of an earlier one of its identifier, at the end. -/
def record (archive : Archive) (details : RequestDetails) : Archive :=
  ⟨archive.entries.filter (fun entry => decide (entry.requestId ≠ details.requestId)) ++ [details],
    by
      rw [List.map_append]
      refine (archive.distinct.sublist (List.filter_sublist.map _)).append
        (List.nodup_singleton _) ?_
      intro name listed single
      obtain ⟨entry, member, rfl⟩ := List.mem_map.mp listed
      exact of_decide_eq_true (List.mem_filter.mp member).2 (List.mem_singleton.mp single)⟩

/-- A replay run joins the request it replays. -/
def addRun (archive : Archive) (run : ReplayRun) : Archive :=
  archive.change
    (fun entry => if entry.requestId = run.originalRequestId then entry.addRun run else entry)
    (fun entry => by split <;> rfl)

/-- The identifiers of all replay runs. -/
def replayIds (archive : Archive) : List String :=
  archive.entries.flatMap fun entry => entry.replayRuns.map ReplayRunInsert.replayId

/-- The requests with a body to evict, by identifier and time. -/
def evictable (archive : Archive) : List (String × Int) :=
  (archive.entries.filter RequestDetails.evictable).map fun entry =>
    (entry.requestId, entry.request.createdAtMs)

/-- Emptying a capture leaves every identifier in its place. -/
theorem ids_emptied (name : String) (entries : List RequestDetails) :
    (Budget.emptied RequestDetails.requestId RequestDetails.evict name entries).map
      RequestDetails.requestId = entries.map RequestDetails.requestId := by
  rw [Budget.emptied, List.map_map]
  refine List.map_congr_left fun entry _ => ?_
  simp only [Function.comp]
  split <;> rfl

/-- Evicting bodies leaves every identifier in its place, however many are evicted. -/
theorem ids_fit (limit : Nat) (order : List String) (entries : List RequestDetails) :
    (Budget.fit RequestDetails.requestId RequestDetails.bytes RequestDetails.evict limit order
      entries).map RequestDetails.requestId = entries.map RequestDetails.requestId := by
  induction order generalizing entries with
  | nil => rfl
  | cons name order inductionHypothesis =>
    rw [Budget.fit]
    split
    · rfl
    · rw [inductionHypothesis, ids_emptied]

/-- Evict bodies in the given order until those that are left fit. -/
def fit (archive : Archive) (order : List String) (maxTotal : Nat) : Archive :=
  ⟨Budget.fit RequestDetails.requestId RequestDetails.bytes RequestDetails.evict maxTotal
      order archive.entries, by
    rw [ids_fit]
    exact archive.distinct⟩

/-- A request whose headers repeat is refused whole. -/
def insertRequest (archive : Archive) (record : RequestInsert)
    (requestHeaders responseHeaders : List StoredHeader) (capture : Option CaptureInsert)
    (pluginDecisions : List PluginDecisionInsert) : Archive :=
  if requestHeaders.Nodup ∧ responseHeaders.Nodup then
    archive.record (record.shown requestHeaders responseHeaders capture pluginDecisions)
  else archive

/-- A run whose identifier is taken or whose request is not there is refused. -/
def insertReplayRun (archive : Archive) (run : ReplayRunInsert) : Archive :=
  if run.replayId ∉ archive.replayIds ∧ run.originalRequestId ∈ archive.ids then
    archive.addRun run.row
  else archive

/-- The requests that are not older than the cutoff. -/
def recent (archive : Archive) (cutoff : Int) : Archive :=
  archive.keep fun entry => decide (cutoff ≤ entry.request.createdAtMs)

/-- What the calls that change the store may do to the list. Retention chooses among requests
of one time, so it has an outcome for every order with the oldest first. -/
inductive Moves (archive : Archive) : StoreEvent → Archive → Prop where
  | insertRequest (record : RequestInsert) (requestHeaders responseHeaders : List StoredHeader)
      (capture : Option CaptureInsert) (pluginDecisions : List PluginDecisionInsert) :
      Moves archive
        (.insertRequest record requestHeaders responseHeaders capture pluginDecisions)
        (archive.insertRequest record requestHeaders responseHeaders capture pluginDecisions)
  | insertReplayRun (run : ReplayRunInsert) :
      Moves archive (.insertReplayRun run) (archive.insertReplayRun run)
  | runRetention (nowMs : Int) (retentionDays maxTotal : Nat) (queue : List (String × Int))
      (oldestFirst : Ordering.Arranged (fun left right => left.2 ≤ right.2)
        (archive.recent (retentionCutoff nowMs retentionDays)).evictable queue) :
      Moves archive (.runRetention nowMs retentionDays maxTotal)
        ((archive.recent (retentionCutoff nowMs retentionDays)).fit (queue.map Prod.fst) maxTotal)

/-! Queries on the list. -/

/-- The entry of an identifier. -/
def entry (archive : Archive) (requestId : String) : Option RequestDetails :=
  archive.entries.find? fun entry => entry.requestId = requestId

def showRequest (sql : SqlExternals) (archive : Archive) (requestId : String) :
    Option RequestDetails :=
  (archive.entry requestId).map (RequestDetails.arranged sql)

/-- The requests a filter accepts, newest first, between 1 and 1000 of them. -/
def listRequests (sql : SqlExternals) (archive : Archive) (filters : ListFilters) :
    List RequestSummary :=
  ((sql.requestOrder filters).sort
    ((archive.entries.map RequestDetails.request).filter filters.accepts)).take
      (max 1 (min filters.limit 1000))

def listPluginDecisions (archive : Archive) (requestId : String) : List PluginDecision :=
  ((archive.entry requestId).map RequestDetails.pluginDecisions).getD []

/-- The replay runs of a request, newest first. -/
def listReplayRuns (sql : SqlExternals) (archive : Archive) (requestId : String) :
    List ReplayRun :=
  sql.runOrder.sort (((archive.entry requestId).map RequestDetails.replayRuns).getD [])

end Archive

end TraceGate
