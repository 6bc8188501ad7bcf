import TraceGate.Runs
import TraceGate.Storage

/-!
# Operations on a valid store

Each operation keeps the schema's constraints, so it is an operation on `Store`.
A transaction that fails leaves the store as it was, which is why the operations
of the running system are total here.

The effect of a committed request is one equation, `insertRequest_ok_iff`: the old
rows of its identifier are gone with everything that referred to them, and the
new rows stand at the end of their tables.
-/

namespace TraceGate

namespace Database

/-- Binding a statement's rows into the next database. -/
theorem bind_statement_ok_iff {Row : Type} (table : TableName)
    (result : Except Tables.Violation (List Row)) (next : List Row → Database)
    (final : Database) :
    (statement table result >>= fun rows => (pure (next rows) : Except DbError Database)) =
        .ok final ↔ ∃ rows, result = .ok rows ∧ final = next rows := by
  cases result with
  | error violation => simp [statement, Except.mapError, bind, Except.bind]
  | ok rows => simp [statement, Except.mapError, bind, Except.bind, pure, Except.pure, eq_comm]

/-- Deleting requests with their children keeps the constraints. -/
theorem Valid.deleteRequests {db : Database} (valid : db.Valid) (gone : RequestSummary → Bool) :
    (db.deleteRequests gone).Valid where
  requestKeys := valid.requestKeys.filter _
  requestHeaderKeys := valid.requestHeaderKeys.filter _
  responseHeaderKeys := valid.responseHeaderKeys.filter _
  captureKeys := valid.captureKeys.filter _
  replayKeys := valid.replayKeys.filter _
  requestHeaderOwners := valid.requestHeaderOwners.cascade gone
  responseHeaderOwners := valid.responseHeaderOwners.cascade gone
  captureOwners := valid.captureOwners.cascade gone
  decisionOwners := valid.decisionOwners.cascade gone
  replayOwners := valid.replayOwners.cascade gone

/-- The database once the rows of an identifier, and all that refers to them, are
deleted. -/
def without (db : Database) (requestId : String) : Database :=
  db.deleteRequests fun row => row.requestId = requestId

/-- An identifier that has been deleted is no parent. -/
theorem not_mem_requestIds_without (db : Database) (requestId : String) :
    requestId ∉ (db.without requestId).requestIds := by
  intro listed
  obtain ⟨row, member, same⟩ := List.mem_map.mp listed
  have kept := (List.mem_filter.mp member).2
  simp [same] at kept

/-- Rows that refer to existing requests do not refer to a deleted one. -/
theorem ref_ne_of_references {Row : Type} {ref : Row → String} {db : Database}
    {requestId : String} {rows : List Row}
    (references : Tables.References ref (db.without requestId).requestIds rows) :
    ∀ row ∈ rows, ref row ≠ requestId := by
  intro row member same
  exact not_mem_requestIds_without db requestId (same ▸ references row member)

/-- The database a committed request leaves. -/
def inserted (sql : SqlExternals) (db : Database) (record : RequestInsert)
    (requestHeaders responseHeaders : List StoredHeader) (capture : Option CaptureInsert)
    (pluginDecisions : List PluginDecisionInsert) : Database :=
  let kept := db.without record.requestId
  { requests := kept.requests ++ [record.row]
    requestHeaders := kept.requestHeaders ++
      requestHeaders.map (StoredHeader.row record.requestId)
    responseHeaders := kept.responseHeaders ++
      responseHeaders.map (StoredHeader.row record.requestId)
    captures := kept.captures ++ (capture.map (CaptureInsert.row record)).toList
    pluginDecisions := kept.pluginDecisions ++
      pluginDecisions.map (PluginDecisionInsert.row sql)
    replayRuns := kept.replayRuns }

/-- Keys of one request's headers are distinct exactly when the headers are. -/
theorem unique_rows_iff (requestId : String) (headers : List StoredHeader) :
    Tables.Unique HeaderRow.key (headers.map (StoredHeader.row requestId)) ↔ headers.Nodup := by
  have injective : Function.Injective (HeaderRow.key ∘ StoredHeader.row requestId) := by
    rintro ⟨name, value⟩ ⟨otherName, otherValue⟩ same
    simp only [Function.comp, HeaderRow.key, StoredHeader.row, Prod.mk.injEq, true_and] at same
    rw [same.1, same.2]
  rw [Tables.Unique, List.map_map]
  exact List.nodup_map_iff injective

/-- The header rows of a request carry its identifier. -/
theorem requestId_row (requestId : String) (headers : List StoredHeader) :
    ∀ row ∈ headers.map (StoredHeader.row requestId), row.requestId = requestId := by
  intro row member
  obtain ⟨header, _, rfl⟩ := List.mem_map.mp member
  rfl

/-- The capture row of a request carries its identifier. -/
theorem requestId_captureRow (record : RequestInsert) (capture : Option CaptureInsert) :
    ∀ row ∈ (capture.map (CaptureInsert.row record)).toList,
      row.requestId = record.requestId := by
  intro row member
  obtain ⟨insert, _, rfl⟩ := Option.map_eq_some_iff.mp (Option.mem_toList.mp member)
  rfl

/-! One law for each statement of the transaction. -/

/-- The row of a request is inserted exactly when its identifier is free. -/
theorem insertRequestRow_ok_iff (db next : Database) (row : RequestSummary) :
    db.insertRequestRow row = .ok next ↔
      row.requestId ∉ db.requestIds ∧ next = { db with requests := db.requests ++ [row] } := by
  rw [insertRequestRow, bind_statement_ok_iff]
  simp only [Tables.insertKeyed_ok_iff]
  constructor
  · rintro ⟨_, ⟨fresh, rfl⟩, rfl⟩
    exact ⟨fresh, rfl⟩
  · rintro ⟨fresh, rfl⟩
    exact ⟨_, ⟨fresh, rfl⟩, rfl⟩

/-- Request headers are inserted exactly when their keys are distinct and free and their request
is there. -/
theorem insertRequestHeaders_ok_iff (db next : Database) (rows : List HeaderRow) :
    db.insertRequestHeaders rows = .ok next ↔
      Tables.Unique HeaderRow.key rows ∧
        (∀ row ∈ rows, row.key ∉ db.requestHeaders.map HeaderRow.key) ∧
        Tables.References HeaderRow.requestId db.requestIds rows ∧
        next = { db with requestHeaders := db.requestHeaders ++ rows } := by
  rw [insertRequestHeaders, bind_statement_ok_iff]
  simp only [Tables.insertChildren_ok_iff]
  constructor
  · rintro ⟨_, ⟨unique, absent, owned, rfl⟩, rfl⟩
    exact ⟨unique, absent, owned, rfl⟩
  · rintro ⟨unique, absent, owned, rfl⟩
    exact ⟨_, ⟨unique, absent, owned, rfl⟩, rfl⟩

/-- Response headers are inserted exactly when their keys are distinct and free and their
request is there. -/
theorem insertResponseHeaders_ok_iff (db next : Database) (rows : List HeaderRow) :
    db.insertResponseHeaders rows = .ok next ↔
      Tables.Unique HeaderRow.key rows ∧
        (∀ row ∈ rows, row.key ∉ db.responseHeaders.map HeaderRow.key) ∧
        Tables.References HeaderRow.requestId db.requestIds rows ∧
        next = { db with responseHeaders := db.responseHeaders ++ rows } := by
  rw [insertResponseHeaders, bind_statement_ok_iff]
  simp only [Tables.insertChildren_ok_iff]
  constructor
  · rintro ⟨_, ⟨unique, absent, owned, rfl⟩, rfl⟩
    exact ⟨unique, absent, owned, rfl⟩
  · rintro ⟨unique, absent, owned, rfl⟩
    exact ⟨_, ⟨unique, absent, owned, rfl⟩, rfl⟩

/-- A capture is inserted exactly when its key is free and its request is there. -/
theorem insertCapture_ok_iff (db next : Database) (row : Option CaptureRow) :
    db.insertCapture row = .ok next ↔
      (∀ added ∈ row.toList, added.requestId ∉ db.captures.map CaptureRow.requestId) ∧
        Tables.References CaptureRow.requestId db.requestIds row.toList ∧
        next = { db with captures := db.captures ++ row.toList } := by
  have unique : Tables.Unique CaptureRow.requestId row.toList := by
    cases row with
    | none => exact List.nodup_nil
    | some row => exact List.nodup_singleton _
  rw [insertCapture, bind_statement_ok_iff]
  simp only [Tables.insertChildren_ok_iff]
  constructor
  · rintro ⟨_, ⟨_, absent, owned, rfl⟩, rfl⟩
    exact ⟨absent, owned, rfl⟩
  · rintro ⟨absent, owned, rfl⟩
    exact ⟨_, ⟨unique, absent, owned, rfl⟩, rfl⟩

/-- Decisions are inserted exactly when their requests are there. -/
theorem insertPluginDecisions_ok_iff (db next : Database) (rows : List PluginDecisionRow) :
    db.insertPluginDecisions rows = .ok next ↔
      Tables.References PluginDecisionRow.requestId db.requestIds rows ∧
        next = { db with pluginDecisions := db.pluginDecisions ++ rows } := by
  rw [insertPluginDecisions, bind_statement_ok_iff]
  simp only [Tables.insertAllReferring_ok_iff]
  constructor
  · rintro ⟨_, ⟨owned, rfl⟩, rfl⟩
    exact ⟨owned, rfl⟩
  · rintro ⟨owned, rfl⟩
    exact ⟨_, ⟨owned, rfl⟩, rfl⟩

/-- A replay run is inserted exactly when its identifier is free and its original request is
there. -/
theorem insertReplayRun_ok_iff (db next : Database) (run : ReplayRunInsert) :
    db.insertReplayRun run = .ok next ↔
      run.replayId ∉ db.replayRuns.map ReplayRunInsert.replayId ∧
        run.originalRequestId ∈ db.requestIds ∧
        next = { db with replayRuns := db.replayRuns ++ [run.row] } := by
  rw [insertReplayRun, bind_statement_ok_iff]
  simp only [Tables.insertChild_ok_iff]
  constructor
  · rintro ⟨_, ⟨fresh, owned, rfl⟩, rfl⟩
    exact ⟨fresh, owned, rfl⟩
  · rintro ⟨fresh, owned, rfl⟩
    exact ⟨_, ⟨fresh, owned, rfl⟩, rfl⟩

/-- A transaction commits exactly when each header list is without repetition and
every plugin decision belongs to a request that is there; then it leaves
`inserted`.

Proof: one statement after another. The deletion removed every row under the
identifier, so the request's key is fresh, and the keys of the new children can
only clash among themselves. -/
theorem insertRequest_ok_iff (sql : SqlExternals) {db : Database} (valid : db.Valid)
    (record : RequestInsert) (requestHeaders responseHeaders : List StoredHeader)
    (capture : Option CaptureInsert) (pluginDecisions : List PluginDecisionInsert)
    (next : Database) :
    db.insertRequest sql record requestHeaders responseHeaders capture pluginDecisions =
        .ok next ↔
      requestHeaders.Nodup ∧ responseHeaders.Nodup ∧
        (∀ decision ∈ pluginDecisions, decision.requestId ∈
          (db.without record.requestId).requestIds ++ [record.requestId]) ∧
        next = db.inserted sql record requestHeaders responseHeaders capture
          pluginDecisions := by
  have kept : (db.without record.requestId).Valid := valid.deleteRequests _
  have fresh := not_mem_requestIds_without db record.requestId
  have parents : ∀ kept : Database,
      ({ kept with requests := kept.requests ++ [record.row] } : Database).requestIds =
        kept.requestIds ++ [record.requestId] := fun kept => List.map_append
  have sameOwner : ∀ first second : HeaderRow, first.key = second.key →
      first.requestId = second.requestId := fun _ _ same => congrArg Prod.fst same
  have own : record.requestId ∈
      (db.without record.requestId).requestIds ++ [record.requestId] := by simp
  rw [insertRequest, ← without]
  simp only [bind_ok_iff, insertRequestRow_ok_iff, insertRequestHeaders_ok_iff,
    insertResponseHeaders_ok_iff, insertCapture_ok_iff, insertPluginDecisions_ok_iff,
    unique_rows_iff]
  constructor
  · rintro ⟨_, ⟨_, rfl⟩, _, ⟨distinct, _, _, rfl⟩, _, ⟨distinctToo, _, _, rfl⟩,
      _, ⟨_, _, rfl⟩, owned, rfl⟩
    refine ⟨distinct, distinctToo, ?_, rfl⟩
    have owners := List.forall_mem_map.mp owned
    exact fun decision member => parents (db.without record.requestId) ▸ owners decision member
  · rintro ⟨distinct, distinctToo, owned, rfl⟩
    refine ⟨_, ⟨fresh, rfl⟩, _, ⟨distinct, ?_, ?_, rfl⟩, _, ⟨distinctToo, ?_, ?_, rfl⟩,
      _, ⟨?_, ?_, rfl⟩, ?_, rfl⟩
    · exact Tables.absent_of_owner sameOwner (ref_ne_of_references kept.requestHeaderOwners)
        (requestId_row _ _)
    · intro row member
      exact parents _ ▸ requestId_row _ _ row member ▸ own
    · exact Tables.absent_of_owner sameOwner (ref_ne_of_references kept.responseHeaderOwners)
        (requestId_row _ _)
    · intro row member
      exact parents _ ▸ requestId_row _ _ row member ▸ own
    · exact Tables.absent_of_owner (fun _ _ same => same)
        (ref_ne_of_references kept.captureOwners) (requestId_captureRow _ _)
    · intro row member
      exact parents _ ▸ requestId_captureRow _ _ row member ▸ own
    · refine List.forall_mem_map.mpr fun decision member => ?_
      exact parents (db.without record.requestId) ▸ owned decision member

/-- After a deletion, no row of a table refers to the identifier; the rows appended under
it are what is left of it. -/
theorem filter_appended {db : Database} {Row : Type} (ref : Row → String) {requestId : String}
    {rows added : List Row}
    (gone : Tables.References ref (db.without requestId).requestIds rows)
    (own : ∀ row ∈ added, ref row = requestId) :
    (rows ++ added).filter (fun row => ref row = requestId) = added := by
  have none : rows.filter (fun row => ref row = requestId) = [] := by
    refine List.filter_eq_nil_iff.mpr fun row member => ?_
    simpa using ref_ne_of_references gone row member
  have all : added.filter (fun row => ref row = requestId) = added :=
    List.filter_eq_self.mpr fun row member => decide_eq_true (own row member)
  rw [List.filter_append, none, all, List.nil_append]

/-- Every request refers to itself. -/
theorem references_requestIds (db : Database) :
    Tables.References RequestInsert.requestId db.requestIds db.requests :=
  fun _ member => List.mem_map_of_mem member

/-- A committed request is shown with its own row and headers.

No other row has its identifier, since those of an earlier request are gone. -/
theorem showRequest_inserted (sql : SqlExternals) {db : Database} (valid : db.Valid)
    (record : RequestInsert) (requestHeaders responseHeaders : List StoredHeader)
    (capture : Option CaptureInsert) (pluginDecisions : List PluginDecisionInsert)
    (details : RequestDetails)
    (shown : (db.inserted sql record requestHeaders responseHeaders capture
      pluginDecisions).showRequest sql record.requestId = some details) :
    details.request = record.row ∧
      details.requestHeaders = requestHeaders.insertionSort storedHeaderLe := by
  have kept : (db.without record.requestId).Valid := valid.deleteRequests _
  have ownRow : ((db.without record.requestId).requests ++ [record.row]).find?
      (fun row => row.requestId = record.requestId) = some record.row := by
    rw [← List.head?_filter, filter_appended _ (references_requestIds _)
      (by simp [RequestInsert.row])]
    rfl
  have ownHeaders := filter_appended _ kept.requestHeaderOwners
    (requestId_row record.requestId requestHeaders)
  simp only [showRequest, inserted, ownRow, Option.map_some, Option.some.injEq] at shown
  subst shown
  refine ⟨rfl, ?_⟩
  simp only [headersOf, ownHeaders, List.map_map]
  exact congrArg _ (List.map_id _)

/-- A committed request keeps the constraints.

The deletion keeps them with its cascade, and what each statement adds is what the statement has
checked. -/
theorem Valid.insertRequest (sql : SqlExternals) {db next : Database} (valid : db.Valid)
    (record : RequestInsert) (requestHeaders responseHeaders : List StoredHeader)
    (capture : Option CaptureInsert) (pluginDecisions : List PluginDecisionInsert)
    (committed : db.insertRequest sql record requestHeaders responseHeaders capture
      pluginDecisions = .ok next) : next.Valid := by
  have kept : (db.without record.requestId).Valid := valid.deleteRequests _
  rw [Database.insertRequest, ← without] at committed
  simp only [bind_ok_iff, insertRequestRow_ok_iff, insertRequestHeaders_ok_iff,
    insertResponseHeaders_ok_iff, insertCapture_ok_iff,
    insertPluginDecisions_ok_iff] at committed
  obtain ⟨_, ⟨fresh, rfl⟩, _, ⟨unique, absent, owned, rfl⟩,
    _, ⟨uniqueToo, absentToo, ownedToo, rfl⟩, _, ⟨newCapture, ownedCapture, rfl⟩,
    ownedDecisions, rfl⟩ := committed
  have larger : (db.without record.requestId).requestIds ⊆
      ((db.without record.requestId).requests ++ [record.row]).map RequestInsert.requestId := by
    rw [List.map_append]
    exact List.subset_append_left _ _
  have uniqueCapture : Tables.Unique CaptureRow.requestId
      (capture.map (CaptureInsert.row record)).toList := by
    cases capture with
    | none => exact List.nodup_nil
    | some insert => exact List.nodup_singleton _
  exact
    { requestKeys := kept.requestKeys.append (List.nodup_singleton _)
        (List.forall_mem_singleton.mpr fresh)
      requestHeaderKeys := kept.requestHeaderKeys.append unique absent
      responseHeaderKeys := kept.responseHeaderKeys.append uniqueToo absentToo
      captureKeys := kept.captureKeys.append uniqueCapture newCapture
      replayKeys := kept.replayKeys
      requestHeaderOwners := (kept.requestHeaderOwners.mono larger).append owned
      responseHeaderOwners := (kept.responseHeaderOwners.mono larger).append ownedToo
      captureOwners := (kept.captureOwners.mono larger).append ownedCapture
      decisionOwners := (kept.decisionOwners.mono larger).append ownedDecisions
      replayOwners := kept.replayOwners.mono larger }

/-- A written replay run keeps the constraints. -/
theorem Valid.insertReplayRun {db next : Database} (valid : db.Valid) (run : ReplayRunInsert)
    (written : db.insertReplayRun run = .ok next) : next.Valid := by
  obtain ⟨fresh, owned, rfl⟩ := (insertReplayRun_ok_iff db next run).mp written
  exact
    { valid with
      replayKeys := valid.replayKeys.append (List.nodup_singleton _)
        (List.forall_mem_singleton.mpr fresh)
      replayOwners := valid.replayOwners.append (List.forall_mem_singleton.mpr owned) }

/-- A database whose captures have been changed without their keys. -/
def mapCaptures (db : Database) (change : CaptureRow → CaptureRow) : Database :=
  { db with captures := db.captures.map change }

/-- Changing captures under their keys keeps the constraints. -/
theorem Valid.mapCaptures {db : Database} (valid : db.Valid) (change : CaptureRow → CaptureRow)
    (sameKey : ∀ row, (change row).requestId = row.requestId) :
    (db.mapCaptures change).Valid :=
  { valid with
    captureKeys := valid.captureKeys.map change sameKey
    captureOwners := List.forall_mem_map.mpr fun row member =>
      (sameKey row).symm ▸ valid.captureOwners row member }

end Database

/-- The row is as it was, or as it was after eviction. -/
def CaptureRow.EvictedFrom (after before : CaptureRow) : Prop :=
  after = before ∨ after = before.evict

/-- Evicting twice is evicting. -/
theorem CaptureRow.EvictedFrom.trans {last middle first : CaptureRow}
    (after : last.EvictedFrom middle) (before : middle.EvictedFrom first) :
    last.EvictedFrom first := by
  rcases before with rfl | rfl
  · exact after
  · rcases after with same | gone
    · exact Or.inr same
    · exact Or.inr gone

namespace Eviction

/-- The effect of any number of evictions: captures change row by row, each to
itself or to its eviction, and nothing else changes. -/
def Evicts (before after : Database) : Prop :=
  ∃ change : CaptureRow → CaptureRow, (∀ row, (change row).EvictedFrom row) ∧
    after = before.mapCaptures change

/-- Nothing was evicted where nothing changed. -/
theorem Evicts.refl (db : Database) : Evicts db db :=
  ⟨id, fun _ => Or.inl rfl, by simp [Database.mapCaptures]⟩

/-- What is evicted in two stretches is evicted in both. -/
theorem Evicts.trans {first second third : Database} (before : Evicts first second)
    (after : Evicts second third) : Evicts first third := by
  obtain ⟨change, evicted, rfl⟩ := before
  obtain ⟨changeToo, evictedToo, rfl⟩ := after
  refine ⟨changeToo ∘ change, fun row => ?_, by simp [Database.mapCaptures]⟩
  exact (evictedToo (change row)).trans (evicted row)

/-- Evicting a candidate changes captures by eviction only. -/
theorem evict_evicts (eviction : Eviction) (candidate : CaptureRow) :
    Evicts eviction.db (eviction.evict candidate).db := by
  refine ⟨fun row => if row.requestId = candidate.requestId then row.evict else row, ?_, rfl⟩
  intro row
  by_cases chosen : row.requestId = candidate.requestId
  · exact Or.inr (if_pos chosen)
  · exact Or.inl (if_neg chosen)

/-- The inner loop changes captures by eviction only. -/
theorem evictBatch_evicts (maxTotal : Int) (candidates : List CaptureRow) (eviction : Eviction) :
    Evicts eviction.db (eviction.evictBatch maxTotal candidates).db := by
  induction candidates generalizing eviction with
  | nil => exact Evicts.refl _
  | cons candidate rest inductionHypothesis =>
    have first := evict_evicts eviction candidate
    by_cases enough : (eviction.evict candidate).total ≤ maxTotal
    · simpa [evictBatch, enough] using first
    · simpa [evictBatch, enough] using first.trans (inductionHypothesis _)

/-- The loop changes captures by eviction only.

By induction on the fuel, with the inner loop for each turn. -/
theorem evictBodies_evicts (order : CaptureOrder) (maxTotal : Int) (fuel : Nat)
    (eviction : Eviction) :
    Evicts eviction.db (eviction.evictBodies order maxTotal fuel).db := by
  induction fuel generalizing eviction with
  | zero => exact Evicts.refl _
  | succ fuel inductionHypothesis =>
    rw [evictBodies]
    split
    · exact Evicts.refl _
    · dsimp only
      split
      · exact Evicts.refl _
      · exact (evictBatch_evicts _ _ _).trans (inductionHypothesis _)

end Eviction

/-- A retention run deletes the expired requests and then only evicts bodies. -/
theorem Database.runRetention_evicts (order : CaptureOrder) (db : Database) (cutoff : Int)
    (maxTotal : Nat) :
    Eviction.Evicts (db.deleteRequests fun row => decide (row.createdAtMs < cutoff))
      (db.runRetention order cutoff maxTotal).1 :=
  Eviction.evictBodies_evicts _ _ _ _

/-- A retention run keeps the constraints. -/
theorem Database.Valid.runRetention {db : Database} (valid : db.Valid) (order : CaptureOrder)
    (cutoff : Int) (maxTotal : Nat) : (db.runRetention order cutoff maxTotal).1.Valid := by
  obtain ⟨change, evicted, same⟩ := db.runRetention_evicts order cutoff maxTotal
  rw [same]
  refine (valid.deleteRequests _).mapCaptures change fun row => ?_
  rcases evicted row with kept | gone
  · rw [kept]
  · rw [gone]
    rfl

/-! ## The operations of the running system -/

/-- A call that changes the store. -/
inductive StoreEvent where
  | insertRequest (record : RequestInsert) (requestHeaders responseHeaders : List StoredHeader)
      (capture : Option CaptureInsert) (pluginDecisions : List PluginDecisionInsert)
  | insertReplayRun (run : ReplayRunInsert)
  | runRetention (nowMs : Int) (retentionDays : Nat) (maxTotalCaptureBytes : Nat)

/-- The database after a call, or the constraint the call violates. -/
def Database.perform (sql : SqlExternals) (db : Database) : StoreEvent → Except DbError Database
  | .insertRequest record requestHeaders responseHeaders capture pluginDecisions =>
      db.insertRequest sql record requestHeaders responseHeaders capture pluginDecisions
  | .insertReplayRun run => db.insertReplayRun run
  | .runRetention nowMs retentionDays maxTotal =>
      let cutoff := retentionCutoff nowMs retentionDays
      .ok (db.runRetention sql.captureOrder cutoff maxTotal).1

/-- Every call that succeeds keeps the constraints. -/
theorem Database.Valid.perform (sql : SqlExternals) {db next : Database} (valid : db.Valid)
    (event : StoreEvent) (performed : db.perform sql event = .ok next) : next.Valid := by
  cases event with
  | insertRequest record requestHeaders responseHeaders capture pluginDecisions =>
    exact valid.insertRequest sql record requestHeaders responseHeaders capture
      pluginDecisions performed
  | insertReplayRun run => exact valid.insertReplayRun run performed
  | runRetention nowMs retentionDays maxTotal =>
    obtain rfl := Except.ok.inj performed
    exact valid.runRetention sql.captureOrder _ maxTotal

namespace Store

/-- The store of a fresh deployment. -/
def empty : Store :=
  ⟨Database.empty, by
    constructor <;> simp [Database.empty, Tables.Unique, Tables.References]⟩

/-- The next store of a call, or the constraint it violates. -/
def perform (sql : SqlExternals) (store : Store) (event : StoreEvent) : Except DbError Store :=
  match performed : store.val.perform sql event with
  | .ok db => .ok ⟨db, store.property.perform sql event performed⟩
  | .error err => .error err

/-- A call that fails changes nothing. -/
def apply (sql : SqlExternals) (store : Store) (event : StoreEvent) : Store :=
  (store.perform sql event).toOption.getD store

/-- A call on the store succeeds exactly when it does on its database. -/
theorem perform_ok_iff (sql : SqlExternals) (store next : Store) (event : StoreEvent) :
    store.perform sql event = .ok next ↔
      store.val.perform sql event = .ok next.val := by
  unfold perform
  split
  next db performed => simp [performed, Subtype.ext_iff]
  next err performed => simp [performed]

/-- A call either changes nothing or ends in its database. -/
theorem apply_cases (sql : SqlExternals) (store : Store) (event : StoreEvent) :
    store.apply sql event = store ∨
      store.val.perform sql event = .ok (store.apply sql event).val := by
  cases performed : store.perform sql event with
  | error err => exact Or.inl (by simp [apply, performed, Except.toOption])
  | ok next =>
    have same : store.apply sql event = next := by simp [apply, performed, Except.toOption]
    exact Or.inr (same ▸ (perform_ok_iff sql store next event).mp performed)

end Store

/-- An encoder that writes nothing, over a database that returns rows of one time in the
order of their insertion. -/
def plainSql : SqlExternals where
  namesToString _ := none
  namesFromStr _ := none
  eventsToString _ := none
  eventsFromStr _ := none
  requestOrder _ := Ordering.stable newerRequest
  runOrder := Ordering.stable newerRun
  captureOrder := insertionOrder

def sampleRecord : RequestInsert :=
  { requestId := "r", traceId := none, routeId := some "orders", method := "GET", path := "/"
    redactedQuery := none, queryHash := none, status := 200, latencyMs := 1, upstream := none
    isError := false, isSlow := false, capturePolicy := "off", captureDropped := false
    createdAtMs := 1000 }

example : (Store.empty.apply plainSql (.insertRequest sampleRecord [] [] none [])).val.requestIds =
    ["r"] := by decide

end TraceGate
