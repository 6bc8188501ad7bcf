import TraceGate.Archive

/-!
# The tables implement the list

The list is read off the tables: one entry for each row of `requests`, put together as
`show_request` does. Each call on the tables is compared with the call on the list. What
carries the comparison over a whole run is that captures stand in the order of their
requests and have their times, so the captures that may be evicted next are those of the
requests that may be emptied next.
-/

namespace TraceGate

namespace Database

/-- What `show_request` puts together for a row of `requests`, with the replay runs in the
order of their insertion. -/
def detailsOf (sql : SqlExternals) (db : Database) (row : RequestSummary) : RequestDetails :=
  { request := row
    requestHeaders := headersOf db.requestHeaders row.requestId
    responseHeaders := headersOf db.responseHeaders row.requestId
    capture := (db.captures.find? fun capture =>
      capture.requestId = row.requestId).map CaptureRow.details
    pluginDecisions := db.listPluginDecisions sql row.requestId
    replayRuns := db.replayRuns.filter fun run => run.originalRequestId = row.requestId }

/-- An entry has the identifier of its row. -/
@[simp]
theorem requestId_detailsOf (sql : SqlExternals) (db : Database) (row : RequestSummary) :
    (db.detailsOf sql row).requestId = row.requestId := rfl

/-- An entry has its row. -/
@[simp]
theorem request_detailsOf (sql : SqlExternals) (db : Database) (row : RequestSummary) :
    (db.detailsOf sql row).request = row := rfl

def entriesOf (sql : SqlExternals) (db : Database) : List RequestDetails :=
  db.requests.map (db.detailsOf sql)

/-- The entries have the identifiers of the requests, in their order. -/
theorem map_requestId_entriesOf (sql : SqlExternals) (db : Database) :
    (db.entriesOf sql).map RequestDetails.requestId = db.requestIds := by
  rw [entriesOf, List.map_map]
  rfl

/-- The list a database stands for. -/
def archiveOf (sql : SqlExternals) (db : Database) (valid : db.Valid) : Archive :=
  ⟨db.entriesOf sql, by
    rw [map_requestId_entriesOf]
    exact valid.requestKeys⟩

/-- Showing a request is looking its entry up and arranging its replay runs. -/
theorem showRequest_eq_find? (sql : SqlExternals) (db : Database) (requestId : String) :
    db.showRequest sql requestId =
      ((db.entriesOf sql).find? fun entry => entry.requestId = requestId).map
        (RequestDetails.arranged sql) := by
  rw [entriesOf, List.find?_map, showRequest, Option.map_map]
  change _ = (db.requests.find? fun row => row.requestId = requestId).map
    (RequestDetails.arranged sql ∘ db.detailsOf sql)
  cases found : db.requests.find? fun row => decide (row.requestId = requestId) with
  | none => rfl
  | some row =>
    have same : row.requestId = requestId := by simpa using List.find?_some found
    subst same
    rfl

/-- A stored request is shown as its entry, arranged. -/
theorem showRequest_of_mem (sql : SqlExternals) {db : Database} (valid : db.Valid)
    {row : RequestSummary} (stored : row ∈ db.requests) :
    db.showRequest sql row.requestId = some ((db.detailsOf sql row).arranged sql) := by
  have found : (db.requests.find? fun other => other.requestId = row.requestId) = some row := by
    cases found : db.requests.find? fun other => decide (other.requestId = row.requestId) with
    | none => simpa using List.find?_eq_none.mp found row stored
    | some other =>
      have same : other.requestId = row.requestId := by simpa using List.find?_some found
      rw [valid.requestKeys.eq_of_key_eq (List.mem_of_find?_eq_some found) stored same]
  rw [showRequest, found]
  rfl

/-- An entry is put together from the rows of its identifier. -/
theorem detailsOf_rowsOf (sql : SqlExternals) (db : Database) (row : RequestSummary) :
    (db.rowsOf row.requestId).detailsOf sql row = db.detailsOf sql row := by
  simp only [detailsOf, rowsOf, headersOf, listPluginDecisions,
    List.find?_filter, List.filter_filter, Bool.and_self, and_self, Bool.decide_eq_true]

/-- An entry is the same in every database with the same rows of its identifier. -/
theorem detailsOf_congr (sql : SqlExternals) {db other : Database} {row : RequestSummary}
    (same : db.rowsOf row.requestId = other.rowsOf row.requestId) :
    db.detailsOf sql row = other.detailsOf sql row := by
  rw [← detailsOf_rowsOf, same, detailsOf_rowsOf]

/-! ## Recording a request -/

section Recording

variable (sql : SqlExternals) {db : Database} (record : RequestInsert)
  (requestHeaders responseHeaders : List StoredHeader) (capture : Option CaptureInsert)
  {pluginDecisions : List PluginDecisionInsert}

/-- A committed request is recorded in the list.

The entries of the other identifiers have the rows they had, and that of the request has its own
rows alone, which read back as they were handed over. -/
theorem entriesOf_inserted (inverts : sql.Inverts) (valid : db.Valid)
    (own : ∀ decision ∈ pluginDecisions, decision.requestId = record.requestId) :
    (db.inserted sql record requestHeaders responseHeaders capture pluginDecisions).entriesOf
        sql =
      (db.entriesOf sql).filter (fun entry => decide (entry.requestId ≠ record.requestId)) ++
        [record.shown requestHeaders responseHeaders capture pluginDecisions] := by
  have self : (db.inserted sql record requestHeaders responseHeaders capture
      pluginDecisions).detailsOf sql record.row =
        record.shown requestHeaders responseHeaders capture pluginDecisions := by
    have alone := showRequest_own sql inverts record requestHeaders responseHeaders capture own
    have rows := rowsOf_inserted_self sql record requestHeaders responseHeaders capture valid own
    have mine : record.row.requestId = record.requestId := rfl
    have only : ((db.inserted sql record requestHeaders responseHeaders capture
        pluginDecisions).rowsOf record.requestId).requests = [record.row] := by rw [rows]
    have noRuns : (((db.inserted sql record requestHeaders responseHeaders capture
        pluginDecisions).rowsOf record.requestId).detailsOf sql record.row).replayRuns = [] := by
      rw [rows]
      rfl
    rw [← rows, showRequest_eq_find?, entriesOf, only, List.map_singleton, List.find?_singleton,
      requestId_detailsOf, mine, if_pos (decide_eq_true rfl), Option.map_some,
      RequestDetails.arranged_of_replayRuns_nil sql noRuns, Option.some.injEq] at alone
    rw [← alone]
    exact (detailsOf_rowsOf sql _ record.row).symm
  have others : ∀ row ∈ (db.without record.requestId).requests,
      (db.inserted sql record requestHeaders responseHeaders capture pluginDecisions).detailsOf
        sql row = db.detailsOf sql row := by
    intro row member
    have different : row.requestId ≠ record.requestId := by
      simpa using (List.mem_filter.mp member).2
    exact detailsOf_congr sql (rowsOf_inserted_other sql record requestHeaders responseHeaders
      capture different own)
  rw [entriesOf, entriesOf]
  change ((db.without record.requestId).requests ++ [record.row]).map _ = _
  rw [List.map_append, List.map_congr_left others, List.map_singleton, self, List.filter_map]
  refine congrArg (fun rows => rows.map (db.detailsOf sql) ++ _)
    (List.filter_congr fun row _ => ?_)
  by_cases same : row.requestId = record.requestId
  · simp [same]
  · simp [same]

end Recording

/-! ## Adding a replay run -/

/-- A written run joins the entry of the request it replays.

The run is appended to the table, and so to the runs of its request. -/
theorem detailsOf_addRun (sql : SqlExternals) (db : Database) (run : ReplayRun)
    (row : RequestSummary) :
    ({ db with replayRuns := db.replayRuns ++ [run] } : Database).detailsOf sql row =
      if (db.detailsOf sql row).requestId = run.originalRequestId then
        (db.detailsOf sql row).addRun run
      else db.detailsOf sql row := by
  by_cases replayed : row.requestId = run.originalRequestId
  · have joined : (db.replayRuns ++ [run]).filter
        (fun run => decide (run.originalRequestId = row.requestId)) =
          db.replayRuns.filter (fun run => run.originalRequestId = row.requestId) ++ [run] := by
      rw [List.filter_append, List.filter_singleton, decide_eq_true replayed.symm, cond_true]
    rw [requestId_detailsOf, if_pos replayed]
    simp only [RequestDetails.addRun, detailsOf, joined]
    rfl
  · have others : ∀ added ∈ [run], added.originalRequestId ≠ row.requestId :=
      List.forall_mem_singleton.mpr (Ne.symm replayed)
    rw [requestId_detailsOf, if_neg replayed]
    simp only [detailsOf, Tables.filter_append_of_ne ReplayRunInsert.originalRequestId others]
    rfl

/-- A written run joins one entry, and leaves the others. -/
theorem entriesOf_addRun (sql : SqlExternals) (db : Database) (run : ReplayRun) :
    ({ db with replayRuns := db.replayRuns ++ [run] } : Database).entriesOf sql =
      (db.entriesOf sql).map fun entry =>
        if entry.requestId = run.originalRequestId then entry.addRun run else entry := by
  rw [entriesOf, entriesOf, List.map_map]
  exact List.map_congr_left fun row _ => detailsOf_addRun sql db run row

/-- Every run of the table is in the entry of its request. -/
theorem mem_replayIds_iff (sql : SqlExternals) {db : Database} (valid : db.Valid)
    (replayId : String) :
    replayId ∈ (db.archiveOf sql valid).replayIds ↔
      replayId ∈ db.replayRuns.map ReplayRunInsert.replayId := by
  simp only [Archive.replayIds, archiveOf, entriesOf, List.mem_flatMap, List.mem_map]
  constructor
  · rintro ⟨_, ⟨row, _, rfl⟩, run, listed, same⟩
    exact ⟨run, (List.mem_filter.mp listed).1, same⟩
  · rintro ⟨run, stored, same⟩
    obtain ⟨row, requested, owner⟩ := List.mem_map.mp (valid.replayOwners run stored)
    exact ⟨_, ⟨row, requested, rfl⟩, run,
      List.mem_filter.mpr ⟨stored, decide_eq_true owner.symm⟩, same⟩

/-! ## Deleting what is too old -/

/-- The rows of a request that is not expired stay.

No expired request has its identifier, so the cascade takes none of its rows. -/
theorem rowsOf_unexpired {db : Database} (valid : db.Valid) (cutoff : Int) {row : RequestSummary}
    (stored : row ∈ db.requests) (recent : cutoff ≤ row.createdAtMs) :
    (db.unexpired cutoff).rowsOf row.requestId = db.rowsOf row.requestId := by
  have only : ∀ other ∈ db.requests, other.requestId = row.requestId →
      ¬ other.createdAtMs < cutoff := by
    intro other member sameId
    rw [valid.requestKeys.eq_of_key_eq member stored sameId]
    omega
  have stays : row.requestId ∉ (db.requests.filter fun row =>
      decide (row.createdAtMs < cutoff)).map RequestInsert.requestId := by
    intro gone
    obtain ⟨other, member, sameId⟩ := List.mem_map.mp gone
    obtain ⟨inTable, expired⟩ := List.mem_filter.mp member
    exact only other inTable sameId (of_decide_eq_true expired)
  have requests : ((db.unexpired cutoff).requests.filter fun other =>
      decide (other.requestId = row.requestId)) =
        db.requests.filter fun other => other.requestId = row.requestId := by
    rw [unexpired_requests, List.filter_filter]
    refine List.filter_congr fun other member => ?_
    by_cases owned : other.requestId = row.requestId
    · simp [owned, Int.not_lt.mp (only other member owned)]
    · simp [owned]
  simp only [rowsOf, requests, mk.injEq, true_and]
  exact ⟨Tables.filter_cascade _ stays _, Tables.filter_cascade _ stays _,
    Tables.filter_cascade _ stays _, Tables.filter_cascade _ stays _,
    Tables.filter_cascade _ stays _⟩

/-- Deleting expired requests keeps the entries of the others. -/
theorem entriesOf_unexpired (sql : SqlExternals) {db : Database} (valid : db.Valid)
    (cutoff : Int) :
    (db.unexpired cutoff).entriesOf sql =
      (db.entriesOf sql).filter fun entry => decide (cutoff ≤ entry.request.createdAtMs) := by
  rw [entriesOf, entriesOf, List.filter_map, unexpired_requests]
  refine List.map_congr_left fun row member => ?_
  obtain ⟨stored, recent⟩ := List.mem_filter.mp member
  exact detailsOf_congr sql (rowsOf_unexpired valid cutoff stored (of_decide_eq_true recent))

/-! ## Captures beside their requests -/

/-- Captures stand in the order of their requests and have their times. -/
structure Aligned (db : Database) : Prop where
  order : (db.captures.map CaptureRow.requestId).Sublist db.requestIds
  ages : ∀ capture ∈ db.captures, ∀ row ∈ db.requests, row.requestId = capture.requestId →
    row.createdAtMs = capture.createdAtMs

/-- The capture of a row of `requests`. -/
def captureOf (db : Database) (row : RequestSummary) : Option CaptureRow :=
  db.captures.find? fun capture => capture.requestId = row.requestId

/-- The capture of a request is one of the table, with the identifier of the request. -/
theorem captureOf_eq_some {db : Database} {row : RequestSummary} {capture : CaptureRow}
    (found : db.captureOf row = some capture) :
    capture ∈ db.captures ∧ capture.requestId = row.requestId :=
  ⟨List.mem_of_find?_eq_some found, by simpa using List.find?_some found⟩

/-- The captures, one request after another, are the table of the captures. -/
theorem Aligned.captures_eq {db : Database} (aligned : db.Aligned) (valid : db.Valid) :
    db.requests.filterMap db.captureOf = db.captures := by
  have found := Tables.filterMap_find?_of_sublist aligned.order valid.requestKeys
  rw [requestIds, List.filterMap_map] at found
  exact found

/-- The entries weigh what the captures weigh. -/
theorem Aligned.total_entriesOf (sql : SqlExternals) {db : Database} (aligned : db.Aligned)
    (valid : db.Valid) :
    Budget.total RequestDetails.bytes (db.entriesOf sql) =
      Budget.total CaptureRow.bytes db.captures := by
  rw [← aligned.captures_eq valid, Budget.total_filterMap, Budget.total, entriesOf, List.map_map]
  refine congrArg List.sum (List.map_congr_left fun row _ => ?_)
  change (((db.captureOf row).map CaptureRow.details).map CaptureDetails.bytes).getD 0 = _
  cases db.captureOf row with
  | none => rfl
  | some capture => rfl

/-- Evicting the body of an identifier empties its entry, and no other.

Captures keep their identifiers, so the capture of a request is the evicted one exactly if the
request has the identifier. -/
theorem detailsOf_evictBody (sql : SqlExternals) (db : Database) (name : String)
    (row : RequestSummary) :
    (db.evictBody name).detailsOf sql row =
      if (db.detailsOf sql row).requestId = name then (db.detailsOf sql row).evict
      else db.detailsOf sql row := by
  have found : (db.evictBody name).captureOf row = (db.captureOf row).map fun capture =>
      if capture.requestId = name then capture.evict else capture := by
    have sameId : ∀ capture : CaptureRow,
        (if capture.requestId = name then capture.evict else capture).requestId =
          capture.requestId := by
      intro capture
      split <;> rfl
    simp only [captureOf, evictBody, List.find?_map, Function.comp_def, sameId]
  have shape : (db.evictBody name).detailsOf sql row =
      { db.detailsOf sql row with
        capture := ((db.evictBody name).captureOf row).map CaptureRow.details } := rfl
  have before : (db.detailsOf sql row).capture =
      (db.captureOf row).map CaptureRow.details := rfl
  rw [shape, found, requestId_detailsOf]
  cases present : db.captureOf row with
  | none =>
    rw [present] at before
    split
    · simp only [RequestDetails.evict, before, Option.map_none]
    · rw [Option.map_none, Option.map_none, ← Option.map_none, ← before]
  | some capture =>
    rw [present] at before
    have owner := (captureOf_eq_some present).2
    by_cases named : row.requestId = name
    · simp only [RequestDetails.evict, before, owner, named, if_true, Option.map_some]
      rfl
    · simp only [owner, named, if_false, Option.map_some] at before ⊢
      rw [← before]

/-- Captures changed in place, under their own identifiers and times, stay aligned. -/
theorem Aligned.mapCaptures {db : Database} (aligned : db.Aligned)
    (change : CaptureRow → CaptureRow)
    (sameId : ∀ capture, (change capture).requestId = capture.requestId)
    (sameTime : ∀ capture, (change capture).createdAtMs = capture.createdAtMs) :
    (db.mapCaptures change).Aligned := by
  constructor
  · have ids : (db.captures.map change).map CaptureRow.requestId =
        db.captures.map CaptureRow.requestId := by
      rw [List.map_map]
      exact List.map_congr_left fun capture _ => sameId capture
    exact ids ▸ aligned.order
  · intro capture member row stored owner
    obtain ⟨original, inTable, rfl⟩ := List.mem_map.mp member
    rw [sameTime]
    exact aligned.ages original inTable row stored (owner.trans (sameId original))

/-- Evicting the body of an identifier keeps the captures aligned. -/
theorem Aligned.evictBody {db : Database} (aligned : db.Aligned) (name : String) :
    (db.evictBody name).Aligned := by
  refine aligned.mapCaptures _ (fun capture => ?_) (fun capture => ?_)
  · split <;> rfl
  · split <;> rfl

/-- Evicting the body of an identifier keeps the constraints. -/
theorem Valid.evictBody {db : Database} (valid : db.Valid) (name : String) :
    (db.evictBody name).Valid := by
  refine valid.mapCaptures _ fun capture => ?_
  split <;> rfl

/-- Evicting the body of an identifier empties the entry of that identifier. -/
theorem entriesOf_evictBody (sql : SqlExternals) (db : Database) (name : String) :
    (db.evictBody name).entriesOf sql =
      Budget.emptied RequestDetails.requestId RequestDetails.evict name (db.entriesOf sql) := by
  rw [entriesOf, entriesOf, Budget.emptied, List.map_map]
  exact List.map_congr_left fun row _ => detailsOf_evictBody sql db name row

/-- Fitting the captures into a total is fitting the entries.

By induction on the order: both sides weigh the same before each step, so both stop at once or
both empty what is under the next identifier. -/
theorem entriesOf_fit (sql : SqlExternals) (maxTotal : Nat) (order : List String) {db : Database}
    (valid : db.Valid) (aligned : db.Aligned) :
    ({ db with
        captures := Budget.fit CaptureRow.requestId CaptureRow.bytes CaptureRow.evict maxTotal
          order db.captures } : Database).entriesOf sql =
      Budget.fit RequestDetails.requestId RequestDetails.bytes RequestDetails.evict maxTotal order
        (db.entriesOf sql) := by
  induction order generalizing db with
  | nil => rfl
  | cons name order inductionHypothesis =>
    simp only [Budget.fit, aligned.total_entriesOf sql valid]
    split
    · rfl
    · rw [← entriesOf_evictBody]
      exact inductionHypothesis (valid.evictBody name) (aligned.evictBody name)

/-- The captures and the entries with a body to evict have the same identifiers and times.

Each capture is that of one request, with its time, and the captures come in the order of the
requests. -/
theorem Aligned.evictable_archiveOf (sql : SqlExternals) {db : Database} (aligned : db.Aligned)
    (valid : db.Valid) :
    (db.archiveOf sql valid).evictable =
      (db.captures.filter CaptureRow.evictable).map
        fun capture => (capture.requestId, capture.createdAtMs) := by
  have read := Tables.map_filter_owners (db.detailsOf sql) db.captureOf
    RequestDetails.evictable CaptureRow.evictable
    (fun entry => (entry.requestId, entry.request.createdAtMs))
    (fun capture => (capture.requestId, capture.createdAtMs)) db.requests ?_ ?_
  · rw [aligned.captures_eq valid] at read
    exact read
  · intro row _ lacking
    change ((db.captureOf row).map CaptureRow.details).any CaptureDetails.evictable = false
    rw [lacking]
    rfl
  · intro row stored capture found
    obtain ⟨inTable, owner⟩ := captureOf_eq_some found
    constructor
    · change ((db.captureOf row).map CaptureRow.details).any CaptureDetails.evictable = _
      rw [found]
      rfl
    · simp only [requestId_detailsOf, request_detailsOf, owner,
        aligned.ages capture inTable row stored owner.symm]

/-! ## Every call keeps captures beside their requests -/

/-- Deleting requests leaves the identifiers of the others.

Identifiers are unique, so no deleted request has that of one that stays. -/
theorem requestIds_deleteRequests {db : Database} (valid : db.Valid)
    (gone : RequestSummary → Bool) :
    (db.deleteRequests gone).requestIds = db.requestIds.filter fun name =>
      decide (name ∉ (db.requests.filter gone).map RequestInsert.requestId) := by
  rw [requestIds, requestIds, List.filter_map]
  refine congrArg (List.map RequestInsert.requestId) (List.filter_congr fun row stored => ?_)
  cases deleted : gone row with
  | true =>
    have listed : row.requestId ∈ (db.requests.filter gone).map RequestInsert.requestId :=
      List.mem_map_of_mem (List.mem_filter.mpr ⟨stored, deleted⟩)
    simp only [Function.comp, listed, not_true_eq_false, decide_false, Bool.not_true]
  | false =>
    have absent : row.requestId ∉ (db.requests.filter gone).map RequestInsert.requestId := by
      intro listed
      obtain ⟨other, member, same⟩ := List.mem_map.mp listed
      obtain ⟨otherStored, otherDeleted⟩ := List.mem_filter.mp member
      rw [valid.requestKeys.eq_of_key_eq otherStored stored same, deleted] at otherDeleted
      exact absurd otherDeleted (by simp)
    simp only [Function.comp, absent, not_false_eq_true, decide_true, Bool.not_false]

/-- Deleting requests with their captures leaves the others aligned. -/
theorem Aligned.deleteRequests {db : Database} (aligned : db.Aligned) (valid : db.Valid)
    (gone : RequestSummary → Bool) : (db.deleteRequests gone).Aligned := by
  constructor
  · rw [requestIds_deleteRequests valid]
    have captures : (db.deleteRequests gone).captures.map CaptureRow.requestId =
        (db.captures.map CaptureRow.requestId).filter fun name =>
          decide (name ∉ (db.requests.filter gone).map RequestInsert.requestId) := by
      rw [List.filter_map]
      rfl
    rw [captures]
    exact aligned.order.filter _
  · intro capture member row stored owner
    exact aligned.ages capture (List.mem_filter.mp member).1 row (List.mem_filter.mp stored).1 owner

/-- A committed request keeps the captures aligned.

Its own capture, if it has one, comes last as its row does, and those of an earlier request with
its identifier are gone. -/
theorem Aligned.inserted (sql : SqlExternals) {db : Database} (aligned : db.Aligned)
    (valid : db.Valid) (record : RequestInsert) (requestHeaders responseHeaders : List StoredHeader)
    (capture : Option CaptureInsert) (pluginDecisions : List PluginDecisionInsert) :
    (db.inserted sql record requestHeaders responseHeaders capture pluginDecisions).Aligned := by
  have kept : (db.without record.requestId).Aligned := aligned.deleteRequests valid _
  have keptValid : (db.without record.requestId).Valid := valid.deleteRequests _
  constructor
  · have ids : (db.inserted sql record requestHeaders responseHeaders capture
        pluginDecisions).requestIds =
          (db.without record.requestId).requestIds ++ [record.requestId] := List.map_append
    rw [ids]
    change (((db.without record.requestId).captures ++
      (capture.map (CaptureInsert.row record)).toList).map CaptureRow.requestId).Sublist _
    rw [List.map_append]
    refine kept.order.append ?_
    cases capture with
    | none => exact List.nil_sublist _
    | some insert => exact List.Sublist.refl _
  · intro capture member row stored owner
    have apart : ∀ capture ∈ (db.without record.requestId).captures,
        capture.requestId ≠ record.requestId := ref_ne_of_references keptValid.captureOwners
    have others : ∀ row ∈ (db.without record.requestId).requests,
        row.requestId ≠ record.requestId := ref_ne_of_references (references_requestIds _)
    rcases List.mem_append.mp member with old | new
    · rcases List.mem_append.mp stored with oldRow | newRow
      · exact kept.ages capture old row oldRow owner
      · rw [List.mem_singleton.mp newRow] at owner
        exact absurd owner.symm (apart capture old)
    · have mine := requestId_captureRow record _ capture new
      rcases List.mem_append.mp stored with oldRow | newRow
      · exact absurd (owner.trans mine) (others row oldRow)
      · obtain ⟨insert, _, rfl⟩ := Option.map_eq_some_iff.mp (Option.mem_toList.mp new)
        rw [List.mem_singleton.mp newRow]
        rfl

/-- A retention run keeps the captures aligned: it deletes requests and changes captures in
place. -/
theorem Aligned.runRetention {db : Database} (aligned : db.Aligned) (valid : db.Valid)
    (order : CaptureOrder) (cutoff : Int) (maxTotal : Nat) :
    (db.runRetention order cutoff maxTotal).1.Aligned := by
  obtain ⟨change, evicted, same⟩ := db.runRetention_evicts order cutoff maxTotal
  rw [same]
  refine (aligned.deleteRequests valid _).mapCaptures change (fun capture => ?_) fun capture => ?_
  · rcases evicted capture with kept | gone
    · rw [kept]
    · rw [gone]
      rfl
  · rcases evicted capture with kept | gone
    · rw [kept]
    · rw [gone]
      rfl

end Database

/-! ## Runs of calls -/

namespace Store

variable (sql : SqlExternals)

/-- The list a store stands for. -/
def archive (store : Store) : Archive := store.val.archiveOf sql store.property

/-- Every call keeps the captures aligned.

The calls are gone through one by one; one that fails changes nothing, and a replay run is no
capture. -/
theorem aligned_apply {store : Store} (aligned : store.val.Aligned) (event : StoreEvent) :
    (store.apply sql event).val.Aligned := by
  rcases store.apply_cases sql event with same | performed
  · rw [same]
    exact aligned
  · cases event with
    | insertRequest record requestHeaders responseHeaders capture pluginDecisions =>
      obtain ⟨_, _, _, same⟩ := (Database.insertRequest_ok_iff sql store.property record
        requestHeaders responseHeaders capture pluginDecisions _).mp performed
      rw [same]
      exact aligned.inserted sql store.property record requestHeaders responseHeaders capture
        pluginDecisions
    | insertReplayRun run =>
      obtain ⟨_, _, same⟩ := (Database.insertReplayRun_ok_iff _ _ run).mp performed
      rw [same]
      exact ⟨aligned.order, aligned.ages⟩
    | runRetention nowMs retentionDays maxTotal =>
      rw [← Except.ok.inj performed]
      exact aligned.runRetention store.property sql.captureOrder _ maxTotal

/-- A call as the system makes them: the decisions of a request carry its identifier, and a
retention run finds bodies whose sum the database can express. -/
def Regular (store : Store) : StoreEvent → Prop
  | .insertRequest record _ _ _ pluginDecisions =>
      ∀ decision ∈ pluginDecisions, decision.requestId = record.requestId
  | .insertReplayRun _ => True
  | .runRetention nowMs retentionDays _ =>
      WithinSqlite (store.val.unexpired (retentionCutoff nowMs retentionDays))

/-- A call that succeeds leaves its database. -/
theorem val_apply_of_ok (store : Store) (event : StoreEvent) (db : Database)
    (performed : store.val.perform sql event = .ok db) :
    (store.apply sql event).val = db := by
  rcases store.apply_cases sql event with same | done
  · have taken := (perform_ok_iff sql store ⟨db, store.property.perform sql event performed⟩
      event).mpr performed
    simp [apply, taken, Except.toOption]
  · exact Except.ok.inj (done.symm.trans performed)

/-- A call that fails leaves the store. -/
theorem apply_of_not_ok {store : Store} {event : StoreEvent}
    (refused : ∀ db, store.val.perform sql event ≠ .ok db) :
    store.apply sql event = store :=
  (store.apply_cases sql event).resolve_right (refused _)

section Calls

variable {sql} {store : Store}

/-- Inserting a request into the tables is inserting it into the list.

Both refuse a request whose headers repeat. One that is taken is recorded, by
`entriesOf_inserted`. -/
theorem archive_insertRequest (inverts : sql.Inverts) (record : RequestInsert)
    (requestHeaders responseHeaders : List StoredHeader) (capture : Option CaptureInsert)
    (pluginDecisions : List PluginDecisionInsert)
    (own : ∀ decision ∈ pluginDecisions, decision.requestId = record.requestId) :
    (store.apply sql (.insertRequest record requestHeaders responseHeaders capture
        pluginDecisions)).archive sql =
      (store.archive sql).insertRequest record requestHeaders responseHeaders capture
        pluginDecisions := by
  have law := Database.insertRequest_ok_iff sql store.property record requestHeaders
    responseHeaders capture pluginDecisions
  rw [Archive.insertRequest]
  split
  next distinct =>
    have owned : ∀ decision ∈ pluginDecisions, decision.requestId ∈
        (store.val.without record.requestId).requestIds ++ [record.requestId] := by
      intro decision member
      rw [own decision member]
      exact List.mem_append_right _ List.mem_cons_self
    have performed := (law _).mpr ⟨distinct.1, distinct.2, owned, rfl⟩
    refine Archive.ext ?_
    change (store.apply sql _).val.entriesOf sql = _
    rw [val_apply_of_ok sql store (.insertRequest record requestHeaders responseHeaders capture
      pluginDecisions) _ performed]
    exact Database.entriesOf_inserted sql record requestHeaders responseHeaders capture inverts
      store.property own
  next repeated =>
    refine congrArg (archive sql) (apply_of_not_ok sql fun db performed => repeated ?_)
    obtain ⟨distinct, distinctToo, _, _⟩ := (law db).mp performed
    exact ⟨distinct, distinctToo⟩

/-- Inserting a replay run into the tables is inserting it into the list.

Both refuse a run with a used identifier and one whose request is not there. -/
theorem archive_insertReplayRun (run : ReplayRunInsert) :
    (store.apply sql (.insertReplayRun run)).archive sql =
      (store.archive sql).insertReplayRun run := by
  have law := fun db => Database.insertReplayRun_ok_iff store.val db run
  have taken := Database.mem_replayIds_iff sql store.property run.replayId
  have known : (store.archive sql).ids = store.val.requestIds :=
    store.val.map_requestId_entriesOf sql
  rw [Archive.insertReplayRun, known]
  split
  next free =>
    have performed := (law _).mpr ⟨fun used => free.1 (taken.mpr used), free.2, rfl⟩
    refine Archive.ext ?_
    change (store.apply sql _).val.entriesOf sql = _
    rw [val_apply_of_ok sql store (.insertReplayRun run) _ performed]
    exact store.val.entriesOf_addRun sql run.row
  next clash =>
    refine congrArg (archive sql) (apply_of_not_ok sql fun db performed => clash ?_)
    obtain ⟨fresh, owned, _⟩ := (law db).mp performed
    exact ⟨fun used => fresh (taken.mp used), owned⟩

/-- A retention run on the tables is one of those on the list: the order in which the
captures went, read by identifier and time, is an order with the oldest requests first. -/
theorem archive_runRetention (aligned : store.val.Aligned) (nowMs : Int)
    (retentionDays maxTotal : Nat)
    (within : WithinSqlite (store.val.unexpired (retentionCutoff nowMs retentionDays))) :
    (store.archive sql).Moves (.runRetention nowMs retentionDays maxTotal)
      ((store.apply sql (.runRetention nowMs retentionDays maxTotal)).archive sql) := by
  let cutoff := retentionCutoff nowMs retentionDays
  have kept : (store.val.unexpired cutoff).Aligned := aligned.deleteRequests store.property _
  have keptValid : (store.val.unexpired cutoff).Valid := store.property.deleteRequests _
  have recent : (store.val.unexpired cutoff).archiveOf sql keptValid =
      (store.archive sql).recent cutoff :=
    Archive.ext (Database.entriesOf_unexpired sql store.property cutoff)
  obtain ⟨queue, oldest, evicted⟩ := Database.runRetention_eq store.property sql.captureOrder
    cutoff maxTotal within
  have performed : store.val.perform sql (.runRetention nowMs retentionDays maxTotal) =
      .ok (store.val.runRetention sql.captureOrder cutoff maxTotal).1 := rfl
  have timed : Ordering.Arranged (fun left right : String × Int => left.2 ≤ right.2) _ _ :=
    oldest.map (fun capture : CaptureRow => (capture.requestId, capture.createdAtMs))
      fun _ _ older => older
  rw [← kept.evictable_archiveOf sql keptValid, recent] at timed
  have fitted : (store.apply sql (.runRetention nowMs retentionDays maxTotal)).archive sql =
      ((store.archive sql).recent cutoff).fit
        ((queue.map fun capture => (capture.requestId, capture.createdAtMs)).map Prod.fst)
        maxTotal := by
    refine Archive.ext ?_
    change (store.apply sql _).val.entriesOf sql = _
    rw [val_apply_of_ok sql store _ _ performed, evicted, evictInOrder,
      Database.entriesOf_fit sql maxTotal _ keptValid kept, ← recent, List.map_map]
    rfl
  rw [fitted]
  exact Archive.Moves.runRetention nowMs retentionDays maxTotal _ timed

end Calls

/-- Every call on the tables is a call on the list. -/
theorem archive_apply (inverts : sql.Inverts) {store : Store} (aligned : store.val.Aligned)
    (event : StoreEvent) (regular : Regular store event) :
    (store.archive sql).Moves event ((store.apply sql event).archive sql) := by
  cases event with
  | insertRequest record requestHeaders responseHeaders capture pluginDecisions =>
    rw [archive_insertRequest inverts record requestHeaders responseHeaders capture
      pluginDecisions regular]
    exact Archive.Moves.insertRequest _ _ _ _ _
  | insertReplayRun run =>
    rw [archive_insertReplayRun run]
    exact Archive.Moves.insertReplayRun run
  | runRetention nowMs retentionDays maxTotal =>
    exact archive_runRetention aligned nowMs retentionDays maxTotal regular

end Store

instance (store : Store) : ∀ event, Decidable (Store.Regular store event)
  | .insertRequest record _ _ _ pluginDecisions =>
      inferInstanceAs
        (Decidable (∀ decision ∈ pluginDecisions, decision.requestId = record.requestId))
  | .insertReplayRun _ => isTrue trivial
  | .runRetention nowMs retentionDays _ =>
      inferInstanceAs (Decidable ((store.val.unexpired
        (retentionCutoff nowMs retentionDays)).totalCaptureBytes < 2 ^ 63))

/-- Queries on the tables are answered as the list answers them. -/
structure Reads (sql : SqlExternals) (db : Database) (archive : Archive) : Prop where
  showRequest : ∀ requestId, db.showRequest sql requestId = archive.showRequest sql requestId
  listRequests : ∀ filters, db.listRequests sql filters = archive.listRequests sql filters
  listPluginDecisions : ∀ requestId,
    db.listPluginDecisions sql requestId = archive.listPluginDecisions requestId
  listReplayRuns : ∀ requestId,
    db.listReplayRuns sql requestId = archive.listReplayRuns sql requestId

/-- Rows that refer to a request that is not there do not exist. -/
theorem Database.filter_absent {db : Database} {Row : Type} {ref : Row → String}
    {rows : List Row} (owned : Tables.References ref db.requestIds rows) {requestId : String}
    (absent : requestId ∉ db.requestIds) :
    rows.filter (fun row => decide (ref row = requestId)) = [] := by
  refine List.filter_eq_nil_iff.mpr fun row member => ?_
  simp only [decide_eq_true_eq]
  rintro rfl
  exact absent (owned row member)

/-- The entry of an identifier has the rows that refer to it, and an identifier without an
entry has none. -/
theorem Store.entry_archive (sql : SqlExternals) (store : Store) (requestId : String) :
    (((store.archive sql).entry requestId).map RequestDetails.pluginDecisions).getD [] =
        store.val.listPluginDecisions sql requestId ∧
      (((store.archive sql).entry requestId).map RequestDetails.replayRuns).getD [] =
        store.val.replayRuns.filter fun run => run.originalRequestId = requestId := by
  cases found : (store.archive sql).entry requestId with
  | none =>
    have absent : requestId ∉ store.val.requestIds := by
      intro listed
      obtain ⟨row, stored, rfl⟩ := List.mem_map.mp listed
      have entry : store.val.detailsOf sql row ∈ (store.archive sql).entries :=
        List.mem_map_of_mem stored
      exact absurd (List.find?_eq_none.mp found _ entry) (by simp)
    rw [Database.listPluginDecisions,
      Database.filter_absent store.property.decisionOwners absent,
      Database.filter_absent store.property.replayOwners absent]
    exact ⟨rfl, rfl⟩
  | some details =>
    obtain ⟨row, _, rfl⟩ := List.mem_map.mp (List.mem_of_find?_eq_some found)
    have named := List.find?_some found
    obtain rfl : row.requestId = requestId := of_decide_eq_true named
    exact ⟨rfl, rfl⟩

/-- Every query reads the list that the tables stand for. -/
theorem reads_archive (sql : SqlExternals) (store : Store) :
    Reads sql store.val (store.archive sql) := by
  refine ⟨fun requestId => store.val.showRequest_eq_find? sql requestId, fun filters => ?_,
    fun requestId => (store.entry_archive sql requestId).1.symm, fun requestId => ?_⟩
  · have requests : (store.archive sql).entries.map RequestDetails.request =
        store.val.requests := by
      change (store.val.requests.map (store.val.detailsOf sql)).map RequestDetails.request = _
      rw [List.map_map]
      exact List.map_id _
    rw [Archive.listRequests, requests]
    rfl
  · rw [Archive.listReplayRuns, (store.entry_archive sql requestId).2]
    rfl

/-- From an empty store, every run of calls leaves the tables of a list that the same calls
may leave, and every query then reads the list.

Calls on the list have one outcome, except that retention may empty requests of one time in
any order. Queries that sort by time read the list with the order that the database gives to
rows of one time, whatever it is. -/
theorem store_implements_archive (sql : SqlExternals) (inverts : sql.Inverts)
    (events : List StoreEvent) (final : Store)
    (regular : Runs.Guarded (storeStep sql) Store.Regular Store.empty events)
    (completed : Runs.run (storeStep sql) Store.empty events = some final) :
    ∃ archive, Runs.Path Archive.Moves Archive.empty events archive ∧
      Reads sql final.val archive := by
  have initially : Store.empty.val.Aligned :=
    ⟨List.Sublist.refl _, fun capture member => absurd member List.not_mem_nil⟩
  refine ⟨final.archive sql, ?_, reads_archive sql final⟩
  refine Runs.run_refines (storeStep sql) Archive.Moves Store.Regular
    (fun store => store.val.Aligned) (Store.archive sql) ?_ Store.empty final events initially
    regular completed
  intro store event next aligned guarded taken
  obtain rfl := Option.some.inj taken
  exact ⟨Store.aligned_apply sql aligned event,
    Store.archive_apply sql inverts aligned event guarded⟩

/-- A request with a capture and a decision is recorded and replayed, recorded anew without
its capture, and at last another one's body is evicted. -/
def archivedCalls : List StoreEvent :=
  [.insertRequest sampleRecord sampleHeaders [] (some sampleCapture) [sampleDecision],
    .insertReplayRun sampleReplay,
    .insertRequest sampleRecord sampleHeaders [] none [],
    .insertRequest { sampleRecord with requestId := "s" } [] [] (some sampleCapture) [],
    .runRetention 500 0 1]

/-- A few calls of every kind, on the tables and on the list. -/
theorem store_implements_archive_sample : ∃ final archive,
    Runs.run (storeStep markedSql) Store.empty archivedCalls = some final ∧
      Runs.Path Archive.Moves Archive.empty archivedCalls archive ∧
      Reads markedSql final.val archive := by
  obtain ⟨archive, listed, reads⟩ := store_implements_archive markedSql markedSql_inverts
    archivedCalls _ (by decide +kernel) rfl
  exact ⟨_, archive, rfl, listed, reads⟩

end TraceGate
