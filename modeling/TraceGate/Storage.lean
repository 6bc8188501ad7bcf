import TraceGate.Headers
import TraceGate.Ordering
import TraceGate.Tables

/-!
# The capture store

Six tables and the statements the storage crate runs on them. A statement
succeeds with the next database or fails with the constraint it violates; a
transaction is the composition of its statements, and its failure leaves the
caller with the database it started from. The two backends run the same
statements, so there is one definition of each operation.

`Valid` is what the schema enforces: unique primary keys, and children of
existing requests. A `Store` is a database that is valid. The rowid of a plugin
decision only orders rows by insertion, which is the order of the list. Rows that are
listed by their time alone come, where times are equal, in an order of the database's own.
-/

namespace TraceGate

structure RequestInsert where
  requestId : String
  traceId : Option String
  routeId : Option String
  method : String
  path : String
  redactedQuery : Option String
  queryHash : Option String
  status : Nat
  latencyMs : Nat
  upstream : Option String
  isError : Bool
  isSlow : Bool
  capturePolicy : String
  captureDropped : Bool
  createdAtMs : Int
deriving DecidableEq

structure CaptureInsert where
  requestContentType : Option String
  responseContentType : Option String
  requestBody : Option (List UInt8)
  responseBody : Option (List UInt8)
  requestBodyTruncated : Bool
  responseBodyTruncated : Bool
  requestBodySha256 : Option String
  responseBodySha256 : Option String
deriving DecidableEq

structure PluginEvent where
  name : String
  code : Option String
deriving DecidableEq

structure PluginDecisionInsert where
  requestId : String
  pluginId : String
  routeId : String
  action : String
  denyStatus : Option Nat
  setHeaders : List String
  removeHeaders : List String
  events : List PluginEvent
  durationMs : Nat
  timedOut : Bool
  error : Option String
  createdAtMs : Int
deriving DecidableEq

structure ReplayRunInsert where
  replayId : String
  originalRequestId : String
  replayRequestId : String
  target : String
  method : String
  path : String
  status : Option Nat
  latencyMs : Nat
  error : Option String
  diffSummary : Option String
  createdAtMs : Int
deriving DecidableEq

/-- A row of `requests`; a summary has the same columns. -/
abbrev RequestSummary := RequestInsert

structure HeaderRow where
  requestId : String
  name : String
  value : String
deriving DecidableEq

structure CaptureRow where
  requestId : String
  requestContentType : Option String
  responseContentType : Option String
  requestBody : Option (List UInt8)
  responseBody : Option (List UInt8)
  requestBodyTruncated : Bool
  responseBodyTruncated : Bool
  requestBodySha256 : Option String
  responseBodySha256 : Option String
  bodyEvicted : Bool
  createdAtMs : Int
deriving DecidableEq

structure PluginDecisionRow where
  requestId : String
  pluginId : String
  routeId : String
  action : String
  denyStatus : Option Nat
  setHeadersJson : String
  removeHeadersJson : String
  eventsJson : String
  durationMs : Nat
  timedOut : Bool
  error : Option String
  createdAtMs : Int
deriving DecidableEq

/-- A row of `replay_runs`. -/
abbrev ReplayRun := ReplayRunInsert

/-- The primary key of the two header tables is the whole row. -/
def HeaderRow.key (row : HeaderRow) : String × String × String :=
  (row.requestId, row.name, row.value)

inductive TableName where
  | requests
  | requestHeaders
  | responseHeaders
  | captures
  | pluginDecisions
  | replayRuns
deriving DecidableEq

/-- The constraint a statement violated, and the table it is on. -/
structure DbError where
  table : TableName
  violation : Tables.Violation
deriving DecidableEq

structure Database where
  requests : List RequestSummary
  requestHeaders : List HeaderRow
  responseHeaders : List HeaderRow
  captures : List CaptureRow
  pluginDecisions : List PluginDecisionRow
  replayRuns : List ReplayRun
deriving DecidableEq

structure ListFilters where
  failed : Bool
  slow : Bool
  routeId : Option String
  sinceCreatedAtMs : Option Int
  limit : Nat

/-! The orders that statements ask for. None of them tells rows of one time apart. -/

/-- `ORDER BY created_at_ms DESC`. -/
def newerRun (left right : ReplayRun) : Prop := right.createdAtMs ≤ left.createdAtMs

def newerRequest (left right : RequestSummary) : Prop := right.createdAtMs ≤ left.createdAtMs

/-- `ORDER BY created_at_ms ASC`. -/
def olderCapture (left right : CaptureRow) : Prop := left.createdAtMs ≤ right.createdAtMs

instance : DecidableRel newerRun := fun left right =>
  inferInstanceAs (Decidable (right.createdAtMs ≤ left.createdAtMs))

instance : DecidableRel newerRequest := fun left right =>
  inferInstanceAs (Decidable (right.createdAtMs ≤ left.createdAtMs))

instance : DecidableRel olderCapture := fun left right =>
  inferInstanceAs (Decidable (left.createdAtMs ≤ right.createdAtMs))

instance : Std.Total newerRun := ⟨fun left right => le_total right.createdAtMs left.createdAtMs⟩

instance : Std.Total newerRequest :=
  ⟨fun left right => le_total right.createdAtMs left.createdAtMs⟩

instance : Std.Total olderCapture :=
  ⟨fun left right => le_total left.createdAtMs right.createdAtMs⟩

instance : IsTrans ReplayRun newerRun := ⟨fun _ _ _ left right => le_trans right left⟩

instance : IsTrans RequestSummary newerRequest := ⟨fun _ _ _ left right => le_trans right left⟩

instance : IsTrans CaptureRow olderCapture := ⟨fun _ _ _ => le_trans⟩

/-- An order in which captures may come when they are asked for the oldest first. -/
abbrev CaptureOrder := Ordering.Sorting olderCapture

/-- Captures of the same age in the order of their insertion. -/
def insertionOrder : CaptureOrder := Ordering.stable olderCapture

/-- What the storage crate leaves to others: `serde_json` on the lists a plugin decision
stores as text, and the database on the rows of one time, whose order it chooses for each
statement. -/
structure SqlExternals where
  namesToString : List String → Option String
  namesFromStr : String → Option (List String)
  eventsToString : List PluginEvent → Option String
  eventsFromStr : String → Option (List PluginEvent)
  requestOrder : ListFilters → Ordering.Sorting newerRequest
  runOrder : Ordering.Sorting newerRun
  captureOrder : CaptureOrder

def jsonOrEmptyArray (encoded : Option String) : String := encoded.getD "[]"

/-- The bound columns of a request: latency is clamped to `i64`. -/
def RequestInsert.row (record : RequestInsert) : RequestSummary :=
  { record with latencyMs := min record.latencyMs i64Max }

def StoredHeader.row (requestId : String) (header : StoredHeader) : HeaderRow :=
  ⟨requestId, header.name, header.value⟩

def CaptureInsert.row (record : RequestInsert) (capture : CaptureInsert) : CaptureRow :=
  { requestId := record.requestId
    requestContentType := capture.requestContentType
    responseContentType := capture.responseContentType
    requestBody := capture.requestBody
    responseBody := capture.responseBody
    requestBodyTruncated := capture.requestBodyTruncated
    responseBodyTruncated := capture.responseBodyTruncated
    requestBodySha256 := capture.requestBodySha256
    responseBodySha256 := capture.responseBodySha256
    bodyEvicted := false
    createdAtMs := record.createdAtMs }

def PluginDecisionInsert.row (sql : SqlExternals) (decision : PluginDecisionInsert) :
    PluginDecisionRow :=
  { requestId := decision.requestId
    pluginId := decision.pluginId
    routeId := decision.routeId
    action := decision.action
    denyStatus := decision.denyStatus
    setHeadersJson := jsonOrEmptyArray (sql.namesToString decision.setHeaders)
    removeHeadersJson := jsonOrEmptyArray (sql.namesToString decision.removeHeaders)
    eventsJson := jsonOrEmptyArray (sql.eventsToString decision.events)
    durationMs := min decision.durationMs i64Max
    timedOut := decision.timedOut
    error := decision.error
    createdAtMs := decision.createdAtMs }

def ReplayRunInsert.row (run : ReplayRunInsert) : ReplayRun :=
  { run with latencyMs := min run.latencyMs i64Max }

namespace Database

def empty : Database := ⟨[], [], [], [], [], []⟩

/-- The keys children refer to. -/
def requestIds (db : Database) : List String := db.requests.map RequestInsert.requestId

/-- `DELETE FROM requests WHERE …`, with `ON DELETE CASCADE` on every child. -/
def deleteRequests (db : Database) (gone : RequestSummary → Bool) : Database :=
  let ids := (db.requests.filter gone).map RequestInsert.requestId
  { requests := db.requests.filter fun row => !gone row
    requestHeaders := db.requestHeaders.filter fun row => decide (row.requestId ∉ ids)
    responseHeaders := db.responseHeaders.filter fun row => decide (row.requestId ∉ ids)
    captures := db.captures.filter fun row => decide (row.requestId ∉ ids)
    pluginDecisions := db.pluginDecisions.filter fun row => decide (row.requestId ∉ ids)
    replayRuns := db.replayRuns.filter fun row => decide (row.originalRequestId ∉ ids) }

/-- A statement on one table, its refusal named after the table. -/
def statement {Row : Type} (table : TableName) (result : Except Tables.Violation (List Row)) :
    Except DbError (List Row) :=
  result.mapError (DbError.mk table)

def insertRequestRow (db : Database) (row : RequestSummary) : Except DbError Database := do
  let rows ← statement .requests
    (Tables.insertKeyed RequestInsert.requestId row db.requests)
  return { db with requests := rows }

def insertRequestHeaders (db : Database) (rows : List HeaderRow) : Except DbError Database := do
  let rows ← statement .requestHeaders (rows.foldlM (fun table row =>
    Tables.insertChild HeaderRow.key HeaderRow.requestId db.requestIds row table)
    db.requestHeaders)
  return { db with requestHeaders := rows }

def insertResponseHeaders (db : Database) (rows : List HeaderRow) : Except DbError Database := do
  let rows ← statement .responseHeaders (rows.foldlM (fun table row =>
    Tables.insertChild HeaderRow.key HeaderRow.requestId db.requestIds row table)
    db.responseHeaders)
  return { db with responseHeaders := rows }

/-- At most one capture row. -/
def insertCapture (db : Database) (row : Option CaptureRow) : Except DbError Database := do
  let rows ← statement .captures (row.toList.foldlM (fun table row =>
    Tables.insertChild CaptureRow.requestId CaptureRow.requestId db.requestIds row table)
    db.captures)
  return { db with captures := rows }

def insertPluginDecisions (db : Database) (rows : List PluginDecisionRow) :
    Except DbError Database := do
  let rows ← statement .pluginDecisions (rows.foldlM (fun table row =>
    Tables.insertReferring PluginDecisionRow.requestId db.requestIds row table)
    db.pluginDecisions)
  return { db with pluginDecisions := rows }

/-- The transaction of `insert_request`. The rows of an earlier request with this identifier go
by cascade. -/
def insertRequest (sql : SqlExternals) (db : Database) (record : RequestInsert)
    (requestHeaders responseHeaders : List StoredHeader) (capture : Option CaptureInsert)
    (pluginDecisions : List PluginDecisionInsert) : Except DbError Database := do
  let db := db.deleteRequests fun row => row.requestId = record.requestId
  let db ← db.insertRequestRow record.row
  let db ← db.insertRequestHeaders (requestHeaders.map (StoredHeader.row record.requestId))
  let db ← db.insertResponseHeaders (responseHeaders.map (StoredHeader.row record.requestId))
  let db ← db.insertCapture (capture.map (CaptureInsert.row record))
  db.insertPluginDecisions (pluginDecisions.map (PluginDecisionInsert.row sql))

def insertReplayRun (db : Database) (run : ReplayRunInsert) : Except DbError Database := do
  let rows ← statement .replayRuns (Tables.insertChild ReplayRunInsert.replayId
    ReplayRunInsert.originalRequestId db.requestIds run.row db.replayRuns)
  return { db with replayRuns := rows }

end Database

/-! ## Reading -/

structure CaptureDetails where
  requestContentType : Option String
  responseContentType : Option String
  requestBody : Option (List UInt8)
  responseBody : Option (List UInt8)
  requestBodyTruncated : Bool
  responseBodyTruncated : Bool
  requestBodySha256 : Option String
  responseBodySha256 : Option String
  bodyEvicted : Bool
  createdAtMs : Int
deriving DecidableEq

structure PluginDecision where
  pluginId : String
  routeId : String
  action : String
  denyStatus : Option Nat
  setHeaders : List String
  removeHeaders : List String
  events : List PluginEvent
  durationMs : Nat
  timedOut : Bool
  error : Option String
  createdAtMs : Int
deriving DecidableEq

structure RequestDetails where
  request : RequestSummary
  requestHeaders : List StoredHeader
  responseHeaders : List StoredHeader
  capture : Option CaptureDetails
  pluginDecisions : List PluginDecision
  replayRuns : List ReplayRun
deriving DecidableEq

def CaptureRow.details (row : CaptureRow) : CaptureDetails :=
  { requestContentType := row.requestContentType
    responseContentType := row.responseContentType
    requestBody := row.requestBody
    responseBody := row.responseBody
    requestBodyTruncated := row.requestBodyTruncated
    responseBodyTruncated := row.responseBodyTruncated
    requestBodySha256 := row.requestBodySha256
    responseBodySha256 := row.responseBodySha256
    bodyEvicted := row.bodyEvicted
    createdAtMs := row.createdAtMs }

def PluginDecisionRow.decision (sql : SqlExternals) (row : PluginDecisionRow) : PluginDecision :=
  { pluginId := row.pluginId
    routeId := row.routeId
    action := row.action
    denyStatus := row.denyStatus
    setHeaders := (sql.namesFromStr row.setHeadersJson).getD []
    removeHeaders := (sql.namesFromStr row.removeHeadersJson).getD []
    events := (sql.eventsFromStr row.eventsJson).getD []
    durationMs := row.durationMs
    timedOut := row.timedOut
    error := row.error
    createdAtMs := row.createdAtMs }

/-- The header rows of a request, ordered by name and value. -/
def headersOf (rows : List HeaderRow) (requestId : String) : List StoredHeader :=
  ((rows.filter fun row => row.requestId = requestId).map
    fun row => ⟨row.name, row.value⟩).insertionSort storedHeaderLe

/-- The conditions `request_list_query` pushes. -/
def ListFilters.accepts (filters : ListFilters) (row : RequestSummary) : Bool :=
  (!filters.failed || row.isError) && (!filters.slow || row.isSlow) &&
    (filters.routeId.map (fun routeId => row.routeId == some routeId)).getD true &&
    (filters.sinceCreatedAtMs.map (fun cutoff => decide (cutoff ≤ row.createdAtMs))).getD true

namespace Database

/-- `list_replay_runs`: newest first. -/
def listReplayRuns (sql : SqlExternals) (db : Database) (originalRequestId : String) :
    List ReplayRun :=
  sql.runOrder.sort (db.replayRuns.filter fun row => row.originalRequestId = originalRequestId)

def listPluginDecisions (sql : SqlExternals) (db : Database) (requestId : String) :
    List PluginDecision :=
  (db.pluginDecisions.filter fun row => row.requestId = requestId).map
    (PluginDecisionRow.decision sql)

def showRequest (sql : SqlExternals) (db : Database) (requestId : String) :
    Option RequestDetails :=
  (db.requests.find? fun row => row.requestId = requestId).map fun request =>
    { request := request
      requestHeaders := headersOf db.requestHeaders requestId
      responseHeaders := headersOf db.responseHeaders requestId
      capture := (db.captures.find? fun row => row.requestId = requestId).map CaptureRow.details
      pluginDecisions := db.listPluginDecisions sql requestId
      replayRuns := db.listReplayRuns sql requestId }

/-- `list_requests`: newest first, between 1 and 1000 rows. -/
def listRequests (sql : SqlExternals) (db : Database) (filters : ListFilters) :
    List RequestSummary :=
  ((sql.requestOrder filters).sort (db.requests.filter filters.accepts)).take
    (max 1 (min filters.limit 1000))

end Database

/-! ## Retention -/

/-- `COALESCE(length(request_body), 0) + COALESCE(length(response_body), 0)`. -/
def CaptureRow.bytes (row : CaptureRow) : Nat :=
  (row.requestBody.map List.length).getD 0 + (row.responseBody.map List.length).getD 0

/-- What the eviction statement does to a row. -/
def CaptureRow.evict (row : CaptureRow) : CaptureRow :=
  { row with requestBody := none, responseBody := none, bodyEvicted := true }

/-- The row still has a body to evict. -/
def CaptureRow.evictable (row : CaptureRow) : Bool :=
  !row.bodyEvicted && (row.requestBody.isSome || row.responseBody.isSome)

structure RetentionOutcome where
  deletedRequests : Nat
  evictedCaptures : Nat
deriving DecidableEq

/-- The variables of the eviction loop, with the database. -/
structure Eviction where
  db : Database
  total : Int
  evictedCaptures : Nat
deriving DecidableEq

namespace Database

def totalCaptureBytes (db : Database) : Nat := (db.captures.map CaptureRow.bytes).sum

/-- `EVICTION_CANDIDATES`. -/
def evictionCandidates (order : CaptureOrder) (db : Database) : List CaptureRow :=
  (order.sort (db.captures.filter CaptureRow.evictable)).take 100

/-- `UPDATE captures SET … WHERE request_id = ?`. -/
def evictBody (db : Database) (requestId : String) : Database :=
  { db with captures := db.captures.map fun row =>
      if row.requestId = requestId then row.evict else row }

end Database

/-- One iteration of the inner loop. -/
def Eviction.evict (eviction : Eviction) (candidate : CaptureRow) : Eviction :=
  { db := eviction.db.evictBody candidate.requestId
    total := saturateI64 (eviction.total - candidate.bytes)
    evictedCaptures := eviction.evictedCaptures + 1 }

/-- The inner loop: it breaks once the total is within the maximum. -/
def Eviction.evictBatch (maxTotal : Int) : List CaptureRow → Eviction → Eviction
  | [], eviction => eviction
  | candidate :: rest, eviction =>
      let eviction := eviction.evict candidate
      if eviction.total ≤ maxTotal then eviction else evictBatch maxTotal rest eviction

/-- The outer loop, with a bound on its iterations. -/
def Eviction.evictBodies (order : CaptureOrder) (maxTotal : Int) : Nat → Eviction → Eviction
  | 0, eviction => eviction
  | fuel + 1, eviction =>
      if eviction.total ≤ maxTotal then eviction
      else
        let candidates := eviction.db.evictionCandidates order
        if candidates.isEmpty then eviction
        else evictBodies order maxTotal fuel (eviction.evictBatch maxTotal candidates)

/-- The cutoff of a retention run, by the clock and the configured days. -/
def retentionCutoff (nowMs : Int) (retentionDays : Nat) : Int :=
  nowMs -
    saturateI64 (saturateI64 (saturateI64 (saturateI64 (retentionDays * 24) * 60) * 60) * 1000)

/-- `run_retention` at a cutoff. Every iteration of the outer loop evicts a
capture, so there is one iteration more than captures at most. -/
def Database.runRetention (order : CaptureOrder) (db : Database) (cutoff : Int)
    (maxTotalCaptureBytes : Nat) : Database × RetentionOutcome :=
  let expired : RequestSummary → Bool := fun row => decide (row.createdAtMs < cutoff)
  let kept := db.deleteRequests expired
  let eviction := Eviction.evictBodies order (min maxTotalCaptureBytes i64Max : Nat)
    (kept.captures.length + 1) ⟨kept, kept.totalCaptureBytes, 0⟩
  (eviction.db, ⟨(db.requests.filter expired).length, eviction.evictedCaptures⟩)

/-! ## What the schema enforces -/

/-- Unique primary keys, and every child row of an existing request. -/
structure Database.Valid (db : Database) : Prop where
  requestKeys : Tables.Unique RequestInsert.requestId db.requests
  requestHeaderKeys : Tables.Unique HeaderRow.key db.requestHeaders
  responseHeaderKeys : Tables.Unique HeaderRow.key db.responseHeaders
  captureKeys : Tables.Unique CaptureRow.requestId db.captures
  replayKeys : Tables.Unique ReplayRunInsert.replayId db.replayRuns
  requestHeaderOwners : Tables.References HeaderRow.requestId db.requestIds db.requestHeaders
  responseHeaderOwners : Tables.References HeaderRow.requestId db.requestIds db.responseHeaders
  captureOwners : Tables.References CaptureRow.requestId db.requestIds db.captures
  decisionOwners : Tables.References PluginDecisionRow.requestId db.requestIds db.pluginDecisions
  replayOwners : Tables.References ReplayRunInsert.originalRequestId db.requestIds db.replayRuns

/-- A database that satisfies its schema. -/
abbrev Store := { db : Database // db.Valid }

end TraceGate
