import TraceGate.HeaderKeys

/-!
# How long a stored request lasts

What `show_request` returns for an identifier is read off the rows of that
identifier. Persisting a request of another identifier leaves those rows alone,
writing a replay run adds to them, and a retention run whose cutoff is not later
than the request only evicts bodies. So along every run of such calls a request
stays, its capture changes at most by eviction, and its replay runs stay.
-/

namespace TraceGate

/-- The request's row is unchanged, its capture rows are the same up to eviction,
and its replay runs are still there. -/
structure Kept (requestId : String) (before after : Database) : Prop where
  requests : (after.requests.filter fun row => row.requestId = requestId) =
    before.requests.filter fun row => row.requestId = requestId
  captures : ∃ change : CaptureRow → CaptureRow, (∀ row, (change row).EvictedFrom row) ∧
    (after.captures.filter fun row => row.requestId = requestId) =
      (before.captures.filter fun row => row.requestId = requestId).map change
  replayRuns : (before.replayRuns.filter fun row => row.originalRequestId = requestId) ⊆
    after.replayRuns.filter fun row => row.originalRequestId = requestId

/-- Where nothing happens a request is kept. -/
theorem Kept.refl (requestId : String) (db : Database) : Kept requestId db db :=
  ⟨rfl, ⟨id, fun _ => Or.inl rfl, by simp⟩, List.Subset.refl _⟩

/-- What is kept over two stretches is kept over both. -/
theorem Kept.trans {requestId : String} {first second third : Database}
    (before : Kept requestId first second) (after : Kept requestId second third) :
    Kept requestId first third := by
  obtain ⟨change, evicted, same⟩ := before.captures
  obtain ⟨changeToo, evictedToo, sameToo⟩ := after.captures
  refine ⟨after.requests.trans before.requests, ⟨changeToo ∘ change, ?_, ?_⟩,
    List.Subset.trans before.replayRuns after.replayRuns⟩
  · exact fun row => (evictedToo (change row)).trans (evicted row)
  · rw [sameToo, same, List.map_map]

/-- A kept request is still in the table. -/
theorem Kept.mem {row : RequestSummary} {before after : Database}
    (kept : Kept row.requestId before after) (stored : row ∈ before.requests) :
    row ∈ after.requests := by
  have member : row ∈ before.requests.filter fun other => other.requestId = row.requestId :=
    List.mem_filter.mpr ⟨stored, by simp⟩
  rw [← kept.requests] at member
  exact (List.mem_filter.mp member).1

/-- A request of another identifier leaves the rows alone.

The deletion before the insertion is by the other identifier, and what is inserted has it
too. -/
theorem inserted_kept (sql : SqlExternals) (db : Database) (record : RequestInsert)
    (requestHeaders responseHeaders : List StoredHeader) (capture : Option CaptureInsert)
    (pluginDecisions : List PluginDecisionInsert) (requestId : String)
    (other : record.requestId ≠ requestId) :
    Kept requestId db
      (db.inserted sql record requestHeaders responseHeaders capture pluginDecisions) := by
  have stays : requestId ∉ (db.requests.filter fun row =>
      decide (row.requestId = record.requestId)).map RequestInsert.requestId := by
    intro gone
    obtain ⟨row, member, same⟩ := List.mem_map.mp gone
    have deleted : row.requestId = record.requestId := by
      simpa using (List.mem_filter.mp member).2
    exact other (deleted.symm.trans same)
  have keptRequests : ((db.without record.requestId).requests.filter fun row =>
      decide (row.requestId = requestId)) =
        db.requests.filter fun row => row.requestId = requestId := by
    simp only [Database.without, Database.deleteRequests, List.filter_filter]
    refine List.filter_congr fun row _ => ?_
    by_cases owned : row.requestId = requestId
    · simp [owned, Ne.symm other]
    · simp [owned]
  have keptCaptures := Tables.filter_cascade CaptureRow.requestId stays db.captures
  refine ⟨?_, ⟨id, fun _ => Or.inl rfl, ?_⟩, ?_⟩
  · have others : ∀ row ∈ [record.row], RequestInsert.requestId row ≠ requestId :=
      List.forall_mem_singleton.mpr other
    exact (Tables.filter_append_of_ne RequestInsert.requestId others _).trans keptRequests
  · have others : ∀ row ∈ (capture.map (CaptureInsert.row record)).toList,
        row.requestId ≠ requestId := by
      intro row member
      rw [Database.requestId_captureRow record capture row member]
      exact other
    rw [List.map_id]
    exact (Tables.filter_append_of_ne CaptureRow.requestId others _).trans keptCaptures
  · rw [← Tables.filter_cascade ReplayRunInsert.originalRequestId stays]
    exact List.Subset.refl _

/-- A request newer than the cutoff is only touched by eviction.

No expired request has its identifier, so the cascade takes none of its rows, and what follows
the deletion changes captures only. -/
theorem runRetention_kept {db : Database} (valid : db.Valid) (order : CaptureOrder)
    (cutoff : Int) (maxTotal : Nat)
    (row : RequestSummary) (stored : row ∈ db.requests) (recent : cutoff ≤ row.createdAtMs) :
    Kept row.requestId db (db.runRetention order cutoff maxTotal).1 := by
  obtain ⟨change, evicted, same⟩ := db.runRetention_evicts order cutoff maxTotal
  have only : ∀ other ∈ db.requests, other.requestId = row.requestId →
      ¬ other.createdAtMs < cutoff := by
    intro other member sameId
    rw [valid.requestKeys.eq_of_key_eq member stored sameId]
    omega
  have stays : row.requestId ∉ (db.requests.filter fun row =>
      decide (row.createdAtMs < cutoff)).map RequestInsert.requestId := by
    intro gone
    obtain ⟨other, member, sameId⟩ := List.mem_map.mp gone
    obtain ⟨inTable, expired⟩ := List.mem_filter.mp member
    exact only other inTable sameId (of_decide_eq_true expired)
  rw [same]
  refine ⟨?_, ⟨change, evicted, ?_⟩, ?_⟩
  · simp only [Database.mapCaptures, Database.deleteRequests, List.filter_filter]
    refine List.filter_congr fun other member => ?_
    by_cases owned : other.requestId = row.requestId
    · simp [owned, only other member owned]
    · simp [owned]
  · have sameKey : ∀ capture, (change capture).requestId = capture.requestId := by
      intro capture
      rcases evicted capture with unchanged | gone
      · rw [unchanged]
      · rw [gone]
        rfl
    simp only [Database.mapCaptures, List.filter_map, Function.comp_def, sameKey]
    rw [← Tables.filter_cascade CaptureRow.requestId stays db.captures]
    rfl
  · rw [← Tables.filter_cascade ReplayRunInsert.originalRequestId stays]
    exact List.Subset.refl _

/-- A written replay run leaves everything that was there. -/
theorem insertReplayRun_kept {db next : Database} (run : ReplayRunInsert) (requestId : String)
    (written : db.insertReplayRun run = .ok next) : Kept requestId db next := by
  obtain ⟨_, _, rfl⟩ := (Database.insertReplayRun_ok_iff db next run).mp written
  refine ⟨rfl, ⟨id, fun _ => Or.inl rfl, by simp⟩, ?_⟩
  rw [List.filter_append]
  exact List.subset_append_left _ _

/-- The details of a capture are the same, or the same without the bodies. -/
def CaptureDetails.EvictedFrom (after before : CaptureDetails) : Prop :=
  after = before ∨
    after = { before with requestBody := none, responseBody := none, bodyEvicted := true }

/-- What is shown later keeps what was shown: the request's row, its capture up to
eviction, and every replay run. -/
structure Retained (before after : RequestDetails) : Prop where
  request : after.request = before.request
  capture : Option.Rel CaptureDetails.EvictedFrom after.capture before.capture
  replayRuns : before.replayRuns ⊆ after.replayRuns

/-- What a row lost by eviction is lost in what is shown of it. -/
theorem EvictedFrom.details {after before : CaptureRow} (evicted : after.EvictedFrom before) :
    after.details.EvictedFrom before.details := by
  rcases evicted with rfl | rfl
  · exact Or.inl rfl
  · exact Or.inr rfl

/-- Kept rows are shown as retained.

The row that is found first is the same, its capture is evicted at most, and its runs are still
there. -/
theorem Kept.retained (sql : SqlExternals) {requestId : String} {before after : Database}
    (kept : Kept requestId before after) (details : RequestDetails)
    (shown : before.showRequest sql requestId = some details) :
    ∃ later, after.showRequest sql requestId = some later ∧ Retained details later := by
  obtain ⟨row, found, rfl⟩ := Option.map_eq_some_iff.mp shown
  have foundToo : (after.requests.find? fun row => row.requestId = requestId) = some row := by
    rw [← List.head?_filter, kept.requests, List.head?_filter, found]
  refine ⟨_, Option.map_eq_some_iff.mpr ⟨row, foundToo, rfl⟩, rfl, ?_, ?_⟩
  · obtain ⟨change, evicted, same⟩ := kept.captures
    have changed : (after.captures.find? fun row => row.requestId = requestId) =
        (before.captures.find? fun row => row.requestId = requestId).map change := by
      rw [← List.head?_filter, same, List.head?_map, List.head?_filter]
    rw [changed]
    cases before.captures.find? fun row => decide (row.requestId = requestId) with
    | none => exact Option.Rel.none
    | some capture => exact Option.Rel.some (EvictedFrom.details (evicted capture))
  · intro run listed
    have inBefore := (sql.runOrder.mem_sort _).mp listed
    exact (sql.runOrder.mem_sort _).mpr (kept.replayRuns inBefore)

/-- The call does not persist another request under the identifier, and is no
retention run with a cutoff later than the request. -/
def Spares (sql : SqlExternals) (requestId : String) (createdAtMs : Int) (store : Store)
    (event : StoreEvent) : Prop :=
  match event with
  | .insertRequest record _ _ _ _ =>
      record.requestId = requestId → (store.perform sql event).isOk = false
  | .insertReplayRun _ => True
  | .runRetention nowMs retentionDays _ => retentionCutoff nowMs retentionDays ≤ createdAtMs

instance (sql : SqlExternals) (requestId : String) (createdAtMs : Int) (store : Store)
    (event : StoreEvent) : Decidable (Spares sql requestId createdAtMs store event) := by
  unfold Spares
  split <;> infer_instance

/-- A call that spares a stored request keeps it.

The calls are gone through one by one; one that fails changes nothing. -/
theorem apply_kept (sql : SqlExternals) (store : Store) (event : StoreEvent)
    (row : RequestSummary) (stored : row ∈ store.val.requests)
    (spared : Spares sql row.requestId row.createdAtMs store event) :
    Kept row.requestId store.val (store.apply sql event).val := by
  rcases store.apply_cases sql event with same | performed
  · rw [same]
    exact Kept.refl _ _
  · cases event with
    | insertRequest record requestHeaders responseHeaders capture pluginDecisions =>
      obtain ⟨_, _, _, same⟩ := (Database.insertRequest_ok_iff sql store.property record
        requestHeaders responseHeaders capture pluginDecisions _).mp performed
      rw [same]
      refine inserted_kept sql _ _ _ _ _ _ _ fun clash => ?_
      have refused := spared clash
      rw [(Store.perform_ok_iff sql store _ _).mpr performed] at refused
      exact Bool.noConfusion refused
    | insertReplayRun run => exact insertReplayRun_kept run _ performed
    | runRetention nowMs retentionDays maxTotal =>
      rw [← Except.ok.inj performed]
      exact runRetention_kept store.property sql.captureOrder _ maxTotal row stored spared

/-- The calls of the running system, one after another. -/
def storeStep (sql : SqlExternals) (store : Store) (event : StoreEvent) : Option Store :=
  some (store.apply sql event)

/-- A retention run that deletes a request deletes all rows of its replay runs with it,
however new they are.

The rows that stay belong to requests that stay, and the request's own row, which is the only
one of its identifier, is older than the cutoff. -/
theorem runRetention_cascades (sql : SqlExternals) (store : Store) (row : RequestSummary)
    (stored : row ∈ store.val.requests) (nowMs : Int) (retentionDays maxTotal : Nat)
    (expired : row.createdAtMs < retentionCutoff nowMs retentionDays) :
    (store.apply sql (.runRetention nowMs retentionDays maxTotal)).val.showRequest sql
        row.requestId = none ∧
      ∀ run ∈ (store.apply sql (.runRetention nowMs retentionDays maxTotal)).val.replayRuns,
        run.originalRequestId ≠ row.requestId := by
  obtain ⟨change, _, same⟩ := store.val.runRetention_evicts sql.captureOrder
    (retentionCutoff nowMs retentionDays) maxTotal
  have left : (store.apply sql (.runRetention nowMs retentionDays maxTotal)).val =
      (store.val.runRetention sql.captureOrder (retentionCutoff nowMs retentionDays) maxTotal).1 :=
    rfl
  rw [left, same]
  constructor
  · rw [Database.showRequest, Option.map_eq_none_iff, List.find?_eq_none]
    intro other member
    obtain ⟨inTable, recent⟩ := List.mem_filter.mp member
    simp only [decide_eq_true_eq]
    intro sameId
    rw [store.property.requestKeys.eq_of_key_eq inTable stored sameId] at recent
    simp [expired] at recent
  · intro run member sameId
    have kept := of_decide_eq_true (List.mem_filter.mp member).2
    exact kept (List.mem_map.mpr ⟨row, List.mem_filter.mpr ⟨stored, decide_eq_true expired⟩,
      sameId.symm⟩)

/-- A stored request stays, with its capture up to eviction and with its replay runs, in
every run of calls that spare it. The first retention run whose cutoff is later than the
request's own row then takes the request, and with it all its replay runs, whatever their own
times are. -/
theorem evidence_retained (sql : SqlExternals) (store final : Store) (requestId : String)
    (details : RequestDetails) (shown : store.val.showRequest sql requestId = some details)
    (events : List StoreEvent)
    (spared : Runs.Guarded (storeStep sql)
      (Spares sql requestId details.request.createdAtMs) store events)
    (completed : Runs.run (storeStep sql) store events = some final) :
    ∃ later, final.val.showRequest sql requestId = some later ∧ Retained details later ∧
      ∀ (nowMs : Int) (retentionDays maxTotal : Nat),
        details.request.createdAtMs < retentionCutoff nowMs retentionDays →
        (final.apply sql (.runRetention nowMs retentionDays maxTotal)).val.showRequest sql
            requestId = none ∧
          ∀ run ∈ (final.apply sql (.runRetention nowMs retentionDays maxTotal)).val.replayRuns,
            run.originalRequestId ≠ requestId := by
  obtain ⟨row, found, same⟩ := Option.map_eq_some_iff.mp shown
  have rowOf : details.request = row := by rw [← same]
  rw [rowOf] at spared
  have sameId : row.requestId = requestId := by simpa using List.find?_some found
  have stored : row ∈ store.val.requests := List.mem_of_find?_eq_some found
  subst sameId
  have kept := Runs.guarded_invariant (storeStep sql)
    (Spares sql row.requestId row.createdAtMs)
    (fun current => Kept row.requestId store.val current.val)
    (fun current event next keptSoFar spares taken => by
      obtain rfl := Option.some.inj taken
      exact keptSoFar.trans
        (apply_kept sql current event row (keptSoFar.mem stored) spares))
    store final events (Kept.refl _ _) spared completed
  obtain ⟨later, shownLater, retained⟩ := kept.retained sql details shown
  refine ⟨later, shownLater, retained, fun nowMs retentionDays maxTotal expired => ?_⟩
  exact runRetention_cascades sql final row (kept.mem stored) nowMs retentionDays maxTotal
    (rowOf ▸ expired)

def sampleCapture : CaptureInsert :=
  { requestContentType := some "text/plain", responseContentType := none
    requestBody := some [1, 2], responseBody := none, requestBodyTruncated := false
    responseBodyTruncated := false, requestBodySha256 := some "digest"
    responseBodySha256 := none }

def sampleReplay : ReplayRunInsert :=
  { replayId := "p", originalRequestId := "r", replayRequestId := "q"
    target := "http://staging:1", method := "GET", path := "/", status := some 200
    latencyMs := 1, error := none, diffSummary := none, createdAtMs := 5000 }

/-- A request with a capture, and a later replay of it. -/
def replayedStore : Store :=
  (Store.empty.apply plainSql (.insertRequest sampleRecord [] [] (some sampleCapture) [])).apply
    plainSql (.insertReplayRun sampleReplay)

/-- Another client's request, a retention run that evicts every body, and a second
replay spare the request. -/
def sparingEvents : List StoreEvent :=
  [.insertRequest { sampleRecord with requestId := "s" } [] [] none [], .runRetention 1000 0 0,
    .insertReplayRun { sampleReplay with replayId := "p2" }]

/-- A request with a replay run is shown with it after calls that spare it. -/
theorem evidence_retained_through_sparing_events : ∃ details later,
    replayedStore.val.showRequest plainSql "r" = some details ∧
      sampleReplay ∈ details.replayRuns ∧
      (sparingEvents.foldl (Store.apply plainSql) replayedStore).val.showRequest plainSql "r" =
        some later ∧ Retained details later := by
  obtain ⟨later, shown, retained, _⟩ := evidence_retained plainSql replayedStore
    (sparingEvents.foldl (Store.apply plainSql) replayedStore) "r" _ rfl sparingEvents
    (by decide) rfl
  exact ⟨_, later, rfl, by decide, shown, retained⟩

/-- A second request under the identifier removes the first one's capture and its
replay; and a retention run removes a replay that is newer than its cutoff. -/
theorem evidence_lost_before_retention :
    (∃ details later, replayedStore.val.showRequest plainSql "r" = some details ∧
      details.capture.isSome = true ∧ sampleReplay ∈ details.replayRuns ∧
      (replayedStore.apply plainSql (.insertRequest { sampleRecord with path := "/other" } [] []
        none [])).val.showRequest plainSql "r" = some later ∧
      later.request.path = "/other" ∧ later.capture = none ∧ later.replayRuns = []) ∧
    (2000 ≤ sampleReplay.createdAtMs ∧
      (replayedStore.apply plainSql (.runRetention 2000 0 1024)).val.replayRuns = []) := by
  refine ⟨⟨_, _, rfl, by decide, by decide, rfl, by decide, by decide, by decide⟩,
    by decide, by decide⟩

end TraceGate
