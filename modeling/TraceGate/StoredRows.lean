import TraceGate.Store

/-!
# What a stored request reads back as

One request is spread over five tables and read back with one query for each. What
`show_request` returns for an identifier depends on the rows of that identifier only. A
committed `insert_request` leaves exactly its own rows under its identifier, and the rows of
every other identifier as they were.

A plugin decision is stored under the identifier it carries itself. The handler makes the
decisions of a request with the identifier of its record, so the two are the same.
-/

namespace TraceGate

/-- `serde_json` encodes every list of names and of events, and reads it back. -/
structure SqlExternals.Inverts (sql : SqlExternals) : Prop where
  names : ∀ names, ∃ text, sql.namesToString names = some text ∧
    sql.namesFromStr text = some names
  events : ∀ events, ∃ text, sql.eventsToString events = some text ∧
    sql.eventsFromStr text = some events

/-! ## What is expected -/

def CaptureInsert.shown (record : RequestInsert) (capture : CaptureInsert) : CaptureDetails :=
  { requestContentType := capture.requestContentType
    responseContentType := capture.responseContentType
    requestBody := capture.requestBody
    responseBody := capture.responseBody
    requestBodyTruncated := capture.requestBodyTruncated
    responseBodyTruncated := capture.responseBodyTruncated
    requestBodySha256 := capture.requestBodySha256
    responseBodySha256 := capture.responseBodySha256
    bodyEvicted := false
    createdAtMs := record.createdAtMs }

def PluginDecisionInsert.shown (decision : PluginDecisionInsert) : PluginDecision :=
  { pluginId := decision.pluginId
    routeId := decision.routeId
    action := decision.action
    denyStatus := decision.denyStatus
    setHeaders := decision.setHeaders
    removeHeaders := decision.removeHeaders
    events := decision.events
    durationMs := min decision.durationMs i64Max
    timedOut := decision.timedOut
    error := decision.error
    createdAtMs := decision.createdAtMs }

/-- A request as it was handed over, with clamped numbers and sorted headers. -/
def RequestInsert.shown (record : RequestInsert)
    (requestHeaders responseHeaders : List StoredHeader) (capture : Option CaptureInsert)
    (pluginDecisions : List PluginDecisionInsert) : RequestDetails :=
  { request := { record with latencyMs := min record.latencyMs i64Max }
    requestHeaders := requestHeaders.insertionSort storedHeaderLe
    responseHeaders := responseHeaders.insertionSort storedHeaderLe
    capture := capture.map (CaptureInsert.shown record)
    pluginDecisions := pluginDecisions.map PluginDecisionInsert.shown
    replayRuns := [] }

/-! ## The rows of an identifier -/

namespace Database

/-- What the database holds of one request. -/
def rowsOf (db : Database) (requestId : String) : Database :=
  { requests := db.requests.filter fun row => row.requestId = requestId
    requestHeaders := db.requestHeaders.filter fun row => row.requestId = requestId
    responseHeaders := db.responseHeaders.filter fun row => row.requestId = requestId
    captures := db.captures.filter fun row => row.requestId = requestId
    pluginDecisions := db.pluginDecisions.filter fun row => row.requestId = requestId
    replayRuns := db.replayRuns.filter fun row => row.originalRequestId = requestId }

/-- Reading a request looks at its own rows only. -/
theorem showRequest_rowsOf (sql : SqlExternals) (db : Database) (requestId : String) :
    (db.rowsOf requestId).showRequest sql requestId = db.showRequest sql requestId := by
  simp only [showRequest, rowsOf, headersOf, listPluginDecisions, listReplayRuns,
    List.find?_filter, List.filter_filter, Bool.and_self, and_self, Bool.decide_eq_true]

section Committed

variable (sql : SqlExternals) {db : Database} (record : RequestInsert)
  (requestHeaders responseHeaders : List StoredHeader) (capture : Option CaptureInsert)
  {pluginDecisions : List PluginDecisionInsert}

/-- The decision rows of a request carry its identifier. -/
theorem requestId_decisionRow
    (own : ∀ decision ∈ pluginDecisions, decision.requestId = record.requestId) :
    ∀ row ∈ pluginDecisions.map (PluginDecisionInsert.row sql),
      row.requestId = record.requestId :=
  List.forall_mem_map.mpr own

/-- Under its own identifier a committed request leaves its own rows and no others.

All rows of an earlier request with the identifier are gone, and what is added has it. -/
theorem rowsOf_inserted_self (valid : db.Valid)
    (own : ∀ decision ∈ pluginDecisions, decision.requestId = record.requestId) :
    (db.inserted sql record requestHeaders responseHeaders capture pluginDecisions).rowsOf
        record.requestId =
      { requests := [record.row]
        requestHeaders := requestHeaders.map (StoredHeader.row record.requestId)
        responseHeaders := responseHeaders.map (StoredHeader.row record.requestId)
        captures := (capture.map (CaptureInsert.row record)).toList
        pluginDecisions := pluginDecisions.map (PluginDecisionInsert.row sql)
        replayRuns := [] } := by
  have kept : (db.without record.requestId).Valid := valid.deleteRequests _
  have replayRuns : (db.without record.requestId).replayRuns.filter
      (fun row => row.originalRequestId = record.requestId) = [] := by
    have none : ∀ row ∈ ([] : List ReplayRun), row.originalRequestId = record.requestId := by simp
    have nothing := filter_appended ReplayRunInsert.originalRequestId kept.replayOwners none
    rwa [List.append_nil] at nothing
  simp only [rowsOf, inserted, replayRuns, mk.injEq, and_true]
  exact ⟨filter_appended _ (references_requestIds _) (by simp [RequestInsert.row]),
    filter_appended _ kept.requestHeaderOwners (requestId_row _ _),
    filter_appended _ kept.responseHeaderOwners (requestId_row _ _),
    filter_appended _ kept.captureOwners (requestId_captureRow _ _),
    filter_appended _ kept.decisionOwners (requestId_decisionRow sql record own)⟩

/-- Rows of a table under another identifier stay through the deletion and the insertion. -/
theorem filter_other (db : Database) {Row : Type} (ref : Row → String) {requestId other : String}
    (different : other ≠ requestId) {added : List Row}
    (own : ∀ row ∈ added, ref row = requestId) (rows : List Row) :
    ((rows.filter fun row => decide (ref row ∉ (db.requests.filter fun row =>
          decide (row.requestId = requestId)).map RequestInsert.requestId)) ++ added).filter
        (fun row => ref row = other) =
      rows.filter fun row => ref row = other := by
  have stays : other ∉ (db.requests.filter fun row =>
      decide (row.requestId = requestId)).map RequestInsert.requestId := by
    intro gone
    obtain ⟨row, member, same⟩ := List.mem_map.mp gone
    have deleted : row.requestId = requestId := by simpa using (List.mem_filter.mp member).2
    exact different (same.symm.trans deleted)
  have others : ∀ row ∈ added, ref row ≠ other :=
    fun row member same => different (same.symm.trans (own row member))
  exact (Tables.filter_append_of_ne ref others _).trans (Tables.filter_cascade ref stays rows)

/-- A committed request leaves the rows of every other identifier.

Table by table: what is deleted and what is added has the identifier of the request. -/
theorem rowsOf_inserted_other {other : String} (different : other ≠ record.requestId)
    (own : ∀ decision ∈ pluginDecisions, decision.requestId = record.requestId) :
    (db.inserted sql record requestHeaders responseHeaders capture pluginDecisions).rowsOf
        other = db.rowsOf other := by
  have requests : ((db.without record.requestId).requests ++ [record.row]).filter
      (fun row => row.requestId = other) = db.requests.filter fun row => row.requestId = other := by
    have others : ∀ row ∈ [record.row], RequestInsert.requestId row ≠ other :=
      List.forall_mem_singleton.mpr (Ne.symm different)
    refine (Tables.filter_append_of_ne RequestInsert.requestId others _).trans ?_
    simp only [without, deleteRequests, List.filter_filter]
    refine List.filter_congr fun row _ => ?_
    by_cases owned : row.requestId = other
    · simp [owned, different]
    · simp [owned]
  have none : ∀ row ∈ ([] : List ReplayRun), row.originalRequestId = record.requestId := by simp
  have replayRuns := filter_other db ReplayRunInsert.originalRequestId different none db.replayRuns
  rw [List.append_nil] at replayRuns
  simp only [rowsOf, inserted, mk.injEq]
  exact ⟨requests, filter_other db _ different (requestId_row _ _) _,
    filter_other db _ different (requestId_row _ _) _,
    filter_other db _ different (requestId_captureRow _ _) _,
    filter_other db _ different (requestId_decisionRow sql record own) _, replayRuns⟩

end Committed

end Database

/-! ## Round trip -/

/-- A stored decision reads back as it was handed over, if reading inverts writing. -/
theorem decision_row (sql : SqlExternals) (inverts : sql.Inverts)
    (decision : PluginDecisionInsert) : (decision.row sql).decision sql = decision.shown := by
  obtain ⟨sets, setsWritten, setsRead⟩ := inverts.names decision.setHeaders
  obtain ⟨removes, removesWritten, removesRead⟩ := inverts.names decision.removeHeaders
  obtain ⟨events, eventsWritten, eventsRead⟩ := inverts.events decision.events
  simp [PluginDecisionInsert.row, PluginDecisionRow.decision, PluginDecisionInsert.shown,
    jsonOrEmptyArray, setsWritten, setsRead, removesWritten, removesRead, eventsWritten,
    eventsRead]

/-- The stored headers read back sorted. -/
theorem headersOf_rows (requestId : String) (headers : List StoredHeader) :
    headersOf (headers.map (StoredHeader.row requestId)) requestId =
      headers.insertionSort storedHeaderLe := by
  have all : (headers.map (StoredHeader.row requestId)).filter
      (fun row => row.requestId = requestId) = headers.map (StoredHeader.row requestId) :=
    List.filter_eq_self.mpr fun row member =>
      decide_eq_true (Database.requestId_row requestId headers row member)
  rw [headersOf, all, List.map_map]
  exact congrArg _ (List.map_id headers)

/-- A request that is alone in the database reads back as it was handed over.

Every row has its identifier, so all are found, and the decisions are read as they were
written. -/
theorem showRequest_own (sql : SqlExternals) (inverts : sql.Inverts) (record : RequestInsert)
    (requestHeaders responseHeaders : List StoredHeader) (capture : Option CaptureInsert)
    {pluginDecisions : List PluginDecisionInsert}
    (own : ∀ decision ∈ pluginDecisions, decision.requestId = record.requestId) :
    Database.showRequest sql
      { requests := [record.row]
        requestHeaders := requestHeaders.map (StoredHeader.row record.requestId)
        responseHeaders := responseHeaders.map (StoredHeader.row record.requestId)
        captures := (capture.map (CaptureInsert.row record)).toList
        pluginDecisions := pluginDecisions.map (PluginDecisionInsert.row sql)
        replayRuns := [] } record.requestId =
      some (record.shown requestHeaders responseHeaders capture pluginDecisions) := by
  have rows : ([record.row].find? fun row => row.requestId = record.requestId) =
      some record.row := List.find?_cons_of_pos (decide_eq_true rfl)
  have captures : ((capture.map (CaptureInsert.row record)).toList.find?
      fun row => row.requestId = record.requestId).map CaptureRow.details =
        capture.map (CaptureInsert.shown record) := by
    cases capture with
    | none => rfl
    | some insert =>
      have found : ([insert.row record].find? fun row => row.requestId = record.requestId) =
          some (insert.row record) := List.find?_cons_of_pos (decide_eq_true rfl)
      simp only [Option.map_some, Option.toList_some, found]
      rfl
  have decisions : ((pluginDecisions.map (PluginDecisionInsert.row sql)).filter
      fun row => row.requestId = record.requestId).map (PluginDecisionRow.decision sql) =
        pluginDecisions.map PluginDecisionInsert.shown := by
    rw [List.filter_eq_self.mpr fun row member =>
      decide_eq_true (Database.requestId_decisionRow sql record own row member), List.map_map]
    exact List.map_congr_left fun decision _ => decision_row sql inverts decision
  simp only [Database.showRequest, rows, Option.map_some, headersOf_rows, captures,
    Database.listPluginDecisions, decisions, Database.listReplayRuns, List.filter_nil,
    Ordering.Sorting.sort_nil]
  rfl

/-- With distinct headers on either side, a request whose decisions carry its identifier is
stored, reads back as it was handed over, and changes what no other identifier reads back
as. A call that fails leaves the whole store. -/
theorem insertRequest_round_trip (sql : SqlExternals) (inverts : sql.Inverts) (store : Store)
    (record : RequestInsert) (requestHeaders responseHeaders : List StoredHeader)
    (capture : Option CaptureInsert) (pluginDecisions : List PluginDecisionInsert)
    (own : ∀ decision ∈ pluginDecisions, decision.requestId = record.requestId) :
    (requestHeaders.Nodup → responseHeaders.Nodup →
      ∃ next, store.perform sql (.insertRequest record requestHeaders responseHeaders capture
          pluginDecisions) = .ok next ∧
        next.val.showRequest sql record.requestId =
          some (record.shown requestHeaders responseHeaders capture pluginDecisions) ∧
        ∀ other, other ≠ record.requestId →
          next.val.showRequest sql other = store.val.showRequest sql other) ∧
    ∀ err, store.perform sql (.insertRequest record requestHeaders responseHeaders capture
        pluginDecisions) = .error err →
      store.apply sql (.insertRequest record requestHeaders responseHeaders capture
        pluginDecisions) = store := by
  constructor
  · intro distinct distinctToo
    have owned : ∀ decision ∈ pluginDecisions, decision.requestId ∈
        (store.val.without record.requestId).requestIds ++ [record.requestId] := by
      intro decision member
      rw [own decision member]
      exact List.mem_append_right _ List.mem_cons_self
    have committed := (Database.insertRequest_ok_iff sql store.property record requestHeaders
      responseHeaders capture pluginDecisions _).mpr ⟨distinct, distinctToo, owned, rfl⟩
    refine ⟨⟨_, store.property.insertRequest sql record requestHeaders responseHeaders capture
      pluginDecisions committed⟩, (Store.perform_ok_iff sql store _ _).mpr committed, ?_, ?_⟩
    · rw [← Database.showRequest_rowsOf,
        Database.rowsOf_inserted_self sql record requestHeaders responseHeaders capture
          store.property own]
      exact showRequest_own sql inverts record requestHeaders responseHeaders capture own
    · intro other different
      rw [← Database.showRequest_rowsOf,
        Database.rowsOf_inserted_other sql record requestHeaders responseHeaders capture
          different own, Database.showRequest_rowsOf]
  · intro err failed
    simp [Store.apply, failed, Except.toOption]

/-! An encoding that can be read back: a mark before each letter and after each name. -/

def markedText (names : List String) : List Char :=
  names.flatMap fun name => name.toList.flatMap (fun letter => ['+', letter]) ++ ['.']

/-- Read marked names back, with the letters of the current one in reverse. -/
def readMarked : List Char → List Char → Option (List String)
  | [], [] => some []
  | '.' :: rest, letters => (readMarked rest []).map (String.ofList letters.reverse :: ·)
  | '+' :: letter :: rest, letters => readMarked rest (letter :: letters)
  | _, _ => none

/-- A marked name is read up to its point. -/
theorem readMarked_name (name letters rest : List Char) :
    readMarked (name.flatMap (fun letter => ['+', letter]) ++ '.' :: rest) letters =
      (readMarked rest []).map (String.ofList (letters.reverse ++ name) :: ·) := by
  induction name generalizing letters with
  | nil => simp [readMarked]
  | cons letter name inductionHypothesis =>
    simp [readMarked, inductionHypothesis]

/-- Marked names are read back. -/
theorem readMarked_markedText (names : List String) :
    readMarked (markedText names) [] = some names := by
  induction names with
  | nil => rfl
  | cons name names inductionHypothesis =>
    have split : markedText (name :: names) =
        name.toList.flatMap (fun letter => ['+', letter]) ++ '.' :: markedText names := by
      simp [markedText]
    rw [split, readMarked_name, inductionHypothesis]
    simp

/-- An event as three names. -/
def eventNames (event : PluginEvent) : List String :=
  [event.name, if event.code.isSome then "some" else "none", event.code.getD ""]

def readEvents : List String → Option (List PluginEvent)
  | [] => some []
  | name :: "some" :: code :: rest => (readEvents rest).map (⟨name, some code⟩ :: ·)
  | name :: "none" :: _ :: rest => (readEvents rest).map (⟨name, none⟩ :: ·)
  | _ => none

/-- Events written as names are read back. -/
theorem readEvents_eventNames (events : List PluginEvent) :
    readEvents (events.flatMap eventNames) = some events := by
  induction events with
  | nil => rfl
  | cons event events inductionHypothesis =>
    obtain ⟨name, code⟩ := event
    cases code with
    | none => simp [eventNames, readEvents, inductionHypothesis]
    | some code => simp [eventNames, readEvents, inductionHypothesis]

def markedSql : SqlExternals :=
  { plainSql with
    namesToString := fun names => some (String.ofList (markedText names))
    namesFromStr := fun text => readMarked text.toList []
    eventsToString := fun events => some (String.ofList (markedText (events.flatMap eventNames)))
    eventsFromStr := fun text => (readMarked text.toList []).bind readEvents }

/-- In the sample database reading inverts writing. -/
theorem markedSql_inverts : markedSql.Inverts where
  names names := ⟨_, rfl, by simp [markedSql, readMarked_markedText]⟩
  events events :=
    ⟨_, rfl, by simp [markedSql, readMarked_markedText, readEvents_eventNames]⟩

def sampleDecision : PluginDecisionInsert :=
  { requestId := "r", pluginId := "guard", routeId := "orders", action := "allow"
    denyStatus := none, setHeaders := ["x-b", "x-a"], removeHeaders := []
    events := [⟨"seen", none⟩, ⟨"limit", some "soft"⟩], durationMs := 2 ^ 64, timedOut := false
    error := none, createdAtMs := 1000 }

def sampleHeaders : List StoredHeader := [⟨"b", "2"⟩, ⟨"a", "1"⟩, ⟨"b", "1"⟩]

/-- A stored request with three headers and one decision. -/
theorem insertRequest_round_trip_sample :
    ∃ next, Store.empty.perform markedSql
        (.insertRequest sampleRecord sampleHeaders [] none [sampleDecision]) = .ok next ∧
      next.val.showRequest markedSql "r" =
        some (sampleRecord.shown sampleHeaders [] none [sampleDecision]) := by
  obtain ⟨next, performed, shown, _⟩ := (insertRequest_round_trip markedSql markedSql_inverts
    Store.empty sampleRecord sampleHeaders [] none [sampleDecision]
    (by simp [sampleDecision, sampleRecord])).1 (by decide) List.nodup_nil
  exact ⟨next, performed, shown⟩

/-- A store with one request, under another identifier. -/
def otherStore : Store :=
  Store.empty.apply markedSql (.insertRequest { sampleRecord with requestId := "s" } [] [] none [])

/-- A decision that carries the identifier of another stored request is stored with that
request: what the other one reads back as changes, and the inserted one is shown without
it. -/
theorem insertRequest_writes_to_other : ∃ next before after own,
    otherStore.perform markedSql (.insertRequest sampleRecord [] [] none
        [{ sampleDecision with requestId := "s" }]) = .ok next ∧
      otherStore.val.showRequest markedSql "s" = some before ∧
      next.val.showRequest markedSql "s" = some after ∧
      before.pluginDecisions = [] ∧
      after.pluginDecisions = [sampleDecision.shown] ∧
      next.val.showRequest markedSql "r" = some own ∧ own.pluginDecisions = [] := by
  refine ⟨_, _, _, _, rfl, rfl, rfl, rfl, by decide +kernel, rfl, by decide +kernel⟩

end TraceGate
