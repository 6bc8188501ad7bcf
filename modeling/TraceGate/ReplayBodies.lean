import TraceGate.ReplayAudit
import TraceGate.StoredEvidence

/-!
# Replays of incomplete bodies

A capture row says whether the request had a body, by its digest, and whether the
body is still there whole. For methods that need their captured body the replay
crate refuses every other row. For the rest it refuses only a body that is present:
a truncated one, and one that is marked as evicted. Eviction sets the bodies to
NULL, so the second of these rows is in no store, and a request whose body was
evicted is sent without it.
-/

namespace TraceGate

/-- The request had a body, and it is not stored whole. -/
def CaptureDetails.Incomplete (capture : CaptureDetails) : Prop :=
  capture.requestBodySha256.isSome = true ∧
    (capture.requestBodyTruncated = true ∨
      capture.bodyEvicted = true ∧ capture.requestBody = none ∧ capture.responseBody = none)

instance (capture : CaptureDetails) : Decidable capture.Incomplete :=
  inferInstanceAs (Decidable (_ ∧ (_ ∨ _)))

/-- An evicted row has no bodies. -/
def CaptureRow.Emptied (row : CaptureRow) : Prop :=
  row.bodyEvicted = true → row.requestBody = none ∧ row.responseBody = none

/-- A row that had lost its bodies when it was marked still has none. -/
theorem CaptureRow.EvictedFrom.emptied {after before : CaptureRow}
    (evicted : after.EvictedFrom before) (emptied : before.Emptied) : after.Emptied := by
  rcases evicted with rfl | rfl
  · exact emptied
  · exact fun _ => ⟨rfl, rfl⟩

/-- Every call keeps evicted rows without bodies: an inserted row is not evicted,
and a retention run evicts rows as a whole. -/
theorem perform_emptied (sql : SqlExternals) {db next : Database} (valid : db.Valid)
    (event : StoreEvent) (performed : db.perform sql event = .ok next)
    (emptied : ∀ row ∈ db.captures, row.Emptied) : ∀ row ∈ next.captures, row.Emptied := by
  have deleted : ∀ gone, ∀ row ∈ (db.deleteRequests gone).captures, row.Emptied :=
    fun gone row member => emptied row (List.mem_of_mem_filter member)
  cases event with
  | insertRequest record requestHeaders responseHeaders capture pluginDecisions =>
    obtain ⟨_, _, _, rfl⟩ := (Database.insertRequest_ok_iff sql valid record requestHeaders
      responseHeaders capture pluginDecisions next).mp performed
    intro row member
    rcases List.mem_append.mp member with kept | new
    · exact deleted _ row kept
    · obtain ⟨insert, _, rfl⟩ := Option.map_eq_some_iff.mp (Option.mem_toList.mp new)
      intro evicted
      exact Bool.noConfusion evicted
  | insertReplayRun run =>
    obtain ⟨_, _, rfl⟩ := (Database.insertReplayRun_ok_iff db next run).mp performed
    exact emptied
  | runRetention nowMs retentionDays maxTotal =>
    obtain rfl := Except.ok.inj performed
    obtain ⟨change, evicted, same⟩ := db.runRetention_evicts sql.captureOrder
      (retentionCutoff nowMs retentionDays) maxTotal
    rw [same]
    intro row member
    obtain ⟨before, kept, rfl⟩ := List.mem_map.mp member
    exact (evicted before).emptied (deleted _ before kept)

/-- In every store that the calls of the running system reach, an evicted row has
no bodies. -/
theorem emptied_of_reached (sql : SqlExternals) (events : List StoreEvent) (final : Store)
    (reached : Runs.run (storeStep sql) Store.empty events = some final) :
    ∀ row ∈ final.val.captures, row.Emptied := by
  refine Runs.run_invariant (storeStep sql)
    (fun store => ∀ row ∈ store.val.captures, row.Emptied) ?_ Store.empty final events
    (by simp [Store.empty, Database.empty]) reached
  intro store event next emptied taken
  obtain rfl := Option.some.inj taken
  rcases store.apply_cases sql event with same | performed
  · rw [same]
    exact emptied
  · exact perform_emptied sql store.property event performed emptied

namespace Replay

/-- The replay is refused: no request is built for any origin, and nothing is
dispatched. -/
def Refused (parsers : Parsers) (options : ReplayOptions) (fresh : FreshIds)
    (request : RequestDetails) : Prop :=
  (∀ origin, ∃ err, buildReplayRequest parsers fresh request origin options.confirmSideEffects =
      .error err) ∧
    ∃ err, prepareReplay parsers options fresh request = .error err

/-- The method needs its captured body, some of the body is still stored, or the
request fails a check that does not concern its body. -/
def RefusesIncomplete (parsers : Parsers) (confirmSideEffects : Bool)
    (request : RequestSummary) (capture : CaptureDetails) : Prop :=
  methodRequiresCapturedBody request.method = true ∨ capture.requestBody.isSome = true ∨
    (parsers.method request.method).isOk = false ∨
    (isSideEffectMethod request.method = true ∧ confirmSideEffects = false)

instance (parsers : Parsers) (confirmSideEffects : Bool) (request : RequestSummary)
    (capture : CaptureDetails) :
    Decidable (RefusesIncomplete parsers confirmSideEffects request capture) :=
  inferInstanceAs (Decidable (_ ∨ _ ∨ _ ∨ _ ∧ _))

/-- What `replay_body` makes of an incomplete capture: an empty body for a method that needs
none where no bytes are left, and a refusal otherwise.

A body that is present and not whole is a truncated one, which is always refused. -/
theorem replayBody_incomplete (request : RequestDetails) (capture : CaptureDetails)
    (captured : request.capture = some capture) (incomplete : capture.Incomplete)
    (method : String) :
    (∃ body, replayBody request method = .ok body) ↔
      methodRequiresCapturedBody method = false ∧ capture.requestBody = none := by
  cases needed : methodRequiresCapturedBody method with
  | true =>
    have refused : ∃ err, validateCaptureBody request.request.requestId capture = .error err := by
      rw [validateCaptureBody]
      rcases incomplete.2 with truncated | ⟨evicted, _, _⟩
      · cases capture.bodyEvicted with
        | true => exact ⟨_, rfl⟩
        | false => simp [truncated]
      · simp [evicted]
    obtain ⟨err, invalid⟩ := refused
    simp [replayBody, needed, captured, invalid, bind, Except.bind]
  | false =>
    cases stored : capture.requestBody with
    | none => simp [replayBody, needed, captured, stored]
    | some body =>
      have truncated : capture.requestBodyTruncated = true := by
        rcases incomplete.2 with truncated | ⟨_, gone, _⟩
        · exact truncated
        · exact absurd gone (by simp [stored])
      simp [replayBody, needed, captured, stored, truncated]

/-- A replay of an incomplete capture is refused exactly when its method needs the body, some of
the body is still stored, or a check fails that does not concern the body. -/
theorem build_incomplete_iff (parsers : Parsers) (fresh : FreshIds) (request : RequestDetails)
    (capture : CaptureDetails) (captured : request.capture = some capture)
    (incomplete : capture.Incomplete) (origin : String) (confirmSideEffects : Bool) :
    (∃ err, buildReplayRequest parsers fresh request origin confirmSideEffects = .error err) ↔
      RefusesIncomplete parsers confirmSideEffects request.request capture := by
  have body := replayBody_incomplete request capture captured incomplete request.request.method
  have built : (∃ replay, buildReplayRequest parsers fresh request origin confirmSideEffects =
      .ok replay) ↔ ¬ RefusesIncomplete parsers confirmSideEffects request.request capture := by
    simp only [buildReplayRequest_eq_ok, RefusesIncomplete]
    constructor
    · rintro ⟨_, parsed, confirmed, stored, found, _⟩
      obtain ⟨unneeded, gone⟩ := body.mp ⟨stored, found⟩
      rintro (needed | present | refused | ⟨sideEffect, unconfirmed⟩)
      · exact absurd needed (by simp [unneeded])
      · exact absurd present (by simp [gone])
      · exact absurd refused (by simp [parsed, Except.isOk, Except.toBool])
      · exact absurd (confirmed sideEffect) (by simp [unconfirmed])
    · intro passes
      simp only [not_or, not_and, Bool.not_eq_true, Bool.not_eq_false] at passes
      obtain ⟨unneeded, gone, parsed, confirmed⟩ := passes
      obtain ⟨stored, found⟩ := body.mpr ⟨unneeded, by simpa using gone⟩
      refine ⟨_, ?_, confirmed, stored, found, rfl⟩
      cases method : parsers.method request.request.method with
      | error reason => exact absurd parsed (by simp [method, Except.isOk, Except.toBool])
      | ok accepted => rfl
  cases result : buildReplayRequest parsers fresh request origin confirmSideEffects with
  | error err => simpa [result] using built
  | ok replay => simpa [result] using built

/-- A replay whose body is known to be incomplete is refused exactly when its method
needs the captured body, some of it is still stored, or another check fails. -/
theorem incomplete_replay_refused_iff (parsers : Parsers) (options : ReplayOptions)
    (fresh : FreshIds) (request : RequestDetails) (capture : CaptureDetails)
    (captured : request.capture = some capture) (incomplete : capture.Incomplete) :
    Refused parsers options fresh request ↔
      RefusesIncomplete parsers options.confirmSideEffects request.request capture := by
  have refuses := fun origin => build_incomplete_iff parsers fresh request capture captured
    incomplete origin options.confirmSideEffects
  constructor
  · intro refused
    exact (refuses "").mp (refused.1 "")
  · intro condition
    refine ⟨fun origin => (refuses origin).mpr condition, ?_⟩
    rw [prepareReplay]
    cases validateTarget parsers options.target with
    | error err => exact ⟨err, rfl⟩
    | ok origin =>
      cases rejected : rejectOriginalUpstream parsers request origin with
      | error err => exact ⟨err, by simp [rejected, bind, Except.bind]⟩
      | ok allowed =>
        obtain ⟨err, failed⟩ := (refuses origin).mpr condition
        exact ⟨err, by simp [rejected, failed, bind, Except.bind]⟩

def stagingOptions : ReplayOptions := ⟨.id "r", "http://staging:1", false⟩

/-- The calls that store a request with this method and then evict its body. -/
def evictedAfter (method : String) : List StoreEvent :=
  [.insertRequest { sampleRecord with method := method } [] [] (some sampleCapture) [],
    .runRetention 0 0 0]

/-- A POST whose body was evicted is refused, with confirmed side effects. -/
theorem incomplete_replay_refused_post : ∃ final details capture,
    Runs.run (storeStep plainSql) Store.empty (evictedAfter "POST") = some final ∧
      final.val.showRequest plainSql "r" = some details ∧ details.capture = some capture ∧
      Refused plainParsers { stagingOptions with confirmSideEffects := true } ⟨"p", "q"⟩
        details := by
  refine ⟨_, _, _, rfl, rfl, rfl, ?_⟩
  exact (incomplete_replay_refused_iff plainParsers _ ⟨"p", "q"⟩ _ _ rfl (by decide)).mpr
    (by decide)

/-- A GET whose body was evicted is sent without it. -/
theorem evicted_body_replayed_empty : ∃ final details capture replay,
    Runs.run (storeStep plainSql) Store.empty (evictedAfter "GET") = some final ∧
      final.val.showRequest plainSql "r" = some details ∧ details.capture = some capture ∧
      capture.Incomplete ∧
      prepareReplay plainParsers stagingOptions ⟨"p", "q"⟩ details = .ok replay ∧
      replay.body = none :=
  ⟨_, _, _, _, rfl, rfl, rfl, by decide, rfl, rfl⟩

end Replay

end TraceGate
