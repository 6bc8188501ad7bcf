import TraceGate.OldestFirst
import TraceGate.Simulation
import TraceGate.StoredEvidence
import TraceGate.Sweep

/-!
# Retention beside the writer

`run_retention` is not a transaction. It deletes what is too old, adds up the bodies once,
and then fetches candidates a hundred at a time and evicts them one statement after another.
Between any two of its statements the writer may insert requests, also under an identifier
that is a candidate, replays may be recorded, and another run of retention may be under way:
that of the gateway's loop, or `tracegate storage prune`.

Even so a run that has finished has done its work. The bodies in the store take no more than
the configured maximum and what was inserted since the run added them up, and a request
older than the run's cutoff was inserted since the run deleted such requests.
-/

namespace TraceGate

namespace Store

def deleteRequests (store : Store) (gone : RequestSummary → Bool) : Store :=
  ⟨store.val.deleteRequests gone, store.property.deleteRequests gone⟩

def evictBody (store : Store) (requestId : String) : Store :=
  ⟨store.val.evictBody requestId, store.property.mapCaptures
    (fun row => if row.requestId = requestId then row.evict else row)
    (fun row => by split <;> rfl)⟩

end Store

namespace ConcurrentRetention

/-- Where a run of retention stands between two of its statements. -/
inductive Phase where
  | idle
  | deleted
  | looping (total : Int)
  | evicting (total : Int) (candidate : CaptureRow) (rest : List CaptureRow)
  | finished
  | failed
deriving DecidableEq

structure Run where
  cutoff : Int
  maxTotal : Nat
  phase : Phase
deriving DecidableEq

structure State where
  store : Store
  runs : Nat → Run

/-- A call of another task, or the next statement of a run. -/
inductive Event where
  | insertRequest (record : RequestInsert) (requestHeaders responseHeaders : List StoredHeader)
      (capture : Option CaptureInsert) (pluginDecisions : List PluginDecisionInsert)
  | insertReplayRun (replay : ReplayRunInsert)
  | deleteExpired (run : Nat) (cutoff : Int) (maxTotalCaptureBytes : Nat)
  | sumBytes (run : Nat)
  | fetchCandidates (run : Nat)
  | evictNext (run : Nat)
  | fail (run : Nat)

/-- The inner loop goes on with the rest of the candidates, unless the total is now within
the maximum, which ends both loops. -/
def Run.settle (run : Run) (total : Int) (rest : List CaptureRow) : Run :=
  if total ≤ (min run.maxTotal i64Max : Nat) then { run with phase := .finished }
  else
    match rest with
    | [] => { run with phase := .looping total }
    | candidate :: rest => { run with phase := .evicting total candidate rest }

/-- One statement of a run, or one event beside the runs. A sum that is no 64-bit integer is an
error of the database and ends the run. -/
def step (sql : SqlExternals) (state : State) : Event → Option State
  | .insertRequest record requestHeaders responseHeaders capture pluginDecisions =>
      let call := .insertRequest record requestHeaders responseHeaders capture pluginDecisions
      some { state with store := state.store.apply sql call }
  | .insertReplayRun replay =>
      some { state with store := state.store.apply sql (.insertReplayRun replay) }
  | .deleteExpired run cutoff maxTotal =>
      match (state.runs run).phase with
      | .idle =>
          some
            { store := state.store.deleteRequests fun row => decide (row.createdAtMs < cutoff)
              runs := Function.update state.runs run ⟨cutoff, maxTotal, .deleted⟩ }
      | _ => none
  | .sumBytes run =>
      match (state.runs run).phase with
      | .deleted =>
          let total := state.store.val.totalCaptureBytes
          let next := if total ≤ i64Max then (state.runs run).settle total []
            else { state.runs run with phase := .failed }
          some { state with runs := Function.update state.runs run next }
      | _ => none
  | .fetchCandidates run =>
      match (state.runs run).phase with
      | .looping total =>
          let phase :=
            match state.store.val.evictionCandidates sql.captureOrder with
            | [] => .finished
            | candidate :: rest => .evicting total candidate rest
          some { state with
            runs := Function.update state.runs run { state.runs run with phase := phase } }
      | _ => none
  | .evictNext run =>
      match (state.runs run).phase with
      | .evicting total candidate rest =>
          some
            { store := state.store.evictBody candidate.requestId
              runs := Function.update state.runs run
                ((state.runs run).settle (saturateI64 (total - candidate.bytes)) rest) }
      | _ => none
  | .fail run =>
      match (state.runs run).phase with
      | .idle | .finished | .failed => none
      | _ => some { state with
          runs := Function.update state.runs run { state.runs run with phase := .failed } }

def start (store : Store) : State := ⟨store, fun _ => ⟨0, 0, .idle⟩⟩

/-! ## What a step can do -/

/-- A step is a call of another task, or the next statement of a run in the phase that the
statement needs. -/
inductive Change (sql : SqlExternals) (state : State) : Event → State → Prop where
  | requested (record : RequestInsert) (requestHeaders responseHeaders : List StoredHeader)
      (capture : Option CaptureInsert) (pluginDecisions : List PluginDecisionInsert) :
      Change sql state
        (.insertRequest record requestHeaders responseHeaders capture pluginDecisions)
        { state with
          store := state.store.apply sql
            (.insertRequest record requestHeaders responseHeaders capture pluginDecisions) }
  | replayed (replay : ReplayRunInsert) :
      Change sql state (.insertReplayRun replay)
        { state with store := state.store.apply sql (.insertReplayRun replay) }
  | deleted (run : Nat) (cutoff : Int) (maxTotal : Nat)
      (idle : (state.runs run).phase = .idle) :
      Change sql state (.deleteExpired run cutoff maxTotal)
        { store := state.store.deleteRequests fun row => decide (row.createdAtMs < cutoff)
          runs := Function.update state.runs run ⟨cutoff, maxTotal, .deleted⟩ }
  | summed (run : Nat) (deleted : (state.runs run).phase = .deleted)
      (small : state.store.val.totalCaptureBytes ≤ i64Max) :
      Change sql state (.sumBytes run)
        { state with
          runs := Function.update state.runs run
            ((state.runs run).settle state.store.val.totalCaptureBytes []) }
  | overflowed (run : Nat) (deleted : (state.runs run).phase = .deleted) :
      Change sql state (.sumBytes run)
        { state with
          runs := Function.update state.runs run { state.runs run with phase := .failed } }
  | drained (run : Nat) (total : Int) (looping : (state.runs run).phase = .looping total)
      (none : state.store.val.evictionCandidates sql.captureOrder = []) :
      Change sql state (.fetchCandidates run)
        { state with
          runs := Function.update state.runs run { state.runs run with phase := .finished } }
  | fetched (run : Nat) (total : Int) (candidate : CaptureRow) (rest : List CaptureRow)
      (looping : (state.runs run).phase = .looping total)
      (some : state.store.val.evictionCandidates sql.captureOrder = candidate :: rest) :
      Change sql state (.fetchCandidates run)
        { state with
          runs := Function.update state.runs run
            { state.runs run with phase := .evicting total candidate rest } }
  | evicted (run : Nat) (total : Int) (candidate : CaptureRow) (rest : List CaptureRow)
      (evicting : (state.runs run).phase = .evicting total candidate rest) :
      Change sql state (.evictNext run)
        { store := state.store.evictBody candidate.requestId
          runs := Function.update state.runs run
            ((state.runs run).settle (saturateI64 (total - candidate.bytes)) rest) }
  | failed (run : Nat) :
      Change sql state (.fail run)
        { state with
          runs := Function.update state.runs run { state.runs run with phase := .failed } }

/-- Every step is one of the changes.

The events are gone through one by one, each with the phase of its run; in any other phase the
event does not happen. -/
theorem step_change (sql : SqlExternals) (state next : State) (event : Event)
    (taken : step sql state event = some next) : Change sql state event next := by
  cases event with
  | insertRequest record requestHeaders responseHeaders capture pluginDecisions =>
    obtain rfl := Option.some.inj taken
    exact Change.requested ..
  | insertReplayRun replay =>
    obtain rfl := Option.some.inj taken
    exact Change.replayed replay
  | deleteExpired run cutoff maxTotal =>
    simp only [step] at taken
    split at taken
    next idle =>
      obtain rfl := Option.some.inj taken
      exact Change.deleted run cutoff maxTotal idle
    next => exact absurd taken (by simp)
  | sumBytes run =>
    simp only [step] at taken
    split at taken
    next deleted =>
      obtain rfl := Option.some.inj taken
      split
      next small => exact Change.summed run deleted small
      next => exact Change.overflowed run deleted
    next => exact absurd taken (by simp)
  | fetchCandidates run =>
    simp only [step] at taken
    split at taken
    next total looping =>
      obtain rfl := Option.some.inj taken
      split
      next none => exact Change.drained run total looping none
      next candidate rest some => exact Change.fetched run total candidate rest looping some
    next => exact absurd taken (by simp)
  | evictNext run =>
    simp only [step] at taken
    split at taken
    next total candidate rest evicting =>
      obtain rfl := Option.some.inj taken
      exact Change.evicted run total candidate rest evicting
    next => exact absurd taken (by simp)
  | fail run =>
    simp only [step] at taken
    split at taken
    · exact absurd taken (by simp)
    · exact absurd taken (by simp)
    · exact absurd taken (by simp)
    · obtain rfl := Option.some.inj taken
      exact Change.failed run

/-! ## What a run of events leaves behind -/

/-- A committed request, or a statement of a run that others are measured from. -/
inductive Note where
  | inserted (record : RequestInsert) (capture : Option CaptureInsert)
  | deleted (run : Nat)
  | summed (run : Nat)

/-- The bytes that a note brought into the store. -/
def Note.bytes : Note → Nat
  | .inserted record capture => bodyBytes (capture.map (CaptureInsert.row record)).toList
  | .deleted _ => 0
  | .summed _ => 0

def insertedBytes (left : List Note) : Nat := (left.map Note.bytes).sum

def notes (sql : SqlExternals) (state : State) : Event → List Note
  | .insertRequest record requestHeaders responseHeaders capture pluginDecisions =>
      match state.store.perform sql
        (.insertRequest record requestHeaders responseHeaders capture pluginDecisions) with
      | .ok _ => [.inserted record capture]
      | .error _ => []
  | .deleteExpired run _ _ => [.deleted run]
  | .sumBytes run => [.summed run]
  | .insertReplayRun _ => []
  | .fetchCandidates _ => []
  | .evictNext _ => []
  | .fail _ => []

/-- A request that is older than the cutoff has been inserted since. -/
def Young (cutoff : Int) (since : List Note) (db : Database) : Prop :=
  ∀ row ∈ db.requests, cutoff ≤ row.createdAtMs ∨
    ∃ record capture, .inserted record capture ∈ since ∧ row = record.row

/-- What is covered of the captures, by identifier. -/
abbrev Covered (pending : List CaptureRow) (db : Database) (budget : Int) : Prop :=
  Sweep.Covered CaptureRow.requestId CaptureRow.bytes
    (pending.map fun row => (row.requestId, row.bytes)) db.captures budget

/-- A change of the database that only adds what the notes tell. -/
structure Sound (before after : Database) (left : List Note) : Prop where
  covered : ∀ pending budget, Covered pending before budget →
    Covered pending after (budget + insertedBytes left)
  young : ∀ cutoff since, Young cutoff since before → Young cutoff (since ++ left) after
  nulls : NullEvicted before.captures → NullEvicted after.captures

section Changes

variable {db : Database}

/-- What has been noted further keeps the rows young: they are still recent, or inserted
since. -/
theorem Young.append {cutoff : Int} {since : List Note} (young : Young cutoff since db)
    (left : List Note) : Young cutoff (since ++ left) db := by
  intro row member
  rcases young row member with recent | ⟨record, capture, inserted, same⟩
  · exact Or.inl recent
  · exact Or.inr ⟨record, capture, List.mem_append_left _ inserted, same⟩

/-- A database with the same requests and captures is as good, if nothing was inserted. -/
theorem sound_of_same {after : Database} (requests : after.requests = db.requests)
    (captures : after.captures = db.captures) (left : List Note)
    (silent : insertedBytes left = 0) : Sound db after left where
  covered := by
    intro pending budget covered
    rw [silent, Covered, captures, Int.natCast_zero, Int.add_zero]
    exact covered
  young := by
    intro cutoff since young
    rw [Young, requests]
    exact young.append left
  nulls := fun nulls => captures ▸ nulls

/-- Deleting requests is sound: what is left weighs no more, is as young, and what is evicted
stays so. -/
theorem sound_deleteRequests (gone : RequestSummary → Bool) (left : List Note)
    (silent : insertedBytes left = 0) : Sound db (db.deleteRequests gone) left where
  covered := by
    intro pending budget covered
    rw [silent, Int.natCast_zero, Int.add_zero]
    exact covered.fewer List.filter_sublist
  young := by
    intro cutoff since young row member
    exact young.append left row (List.mem_filter.mp member).1
  nulls := fun nulls row member => nulls row (List.mem_filter.mp member).1

/-- Evicting a body is sound: it makes one row lighter and adds none.

Rows keep their identifiers, so `Covered.lighten` applies. -/
theorem sound_evictBody (requestId : String) : Sound db (db.evictBody requestId) [] where
  covered := by
    intro pending budget covered
    rw [insertedBytes, List.map_nil, List.sum_nil, Int.natCast_zero, Int.add_zero]
    refine covered.lighten _ (fun row => ?_) (fun row => ?_)
    · split <;> rfl
    · split
      · exact Nat.zero_le _
      · exact Nat.le_refl _
  young := fun cutoff since young row member => young.append [] row member
  nulls := by
    intro nulls row member
    obtain ⟨before, listed, rfl⟩ := List.mem_map.mp member
    split
    · exact fun _ => ⟨rfl, rfl⟩
    · exact nulls before listed

/-- A committed request takes the place of an earlier one of its identifier.

The rows it adds weigh what its note tells, and the new row is accounted for by the note. -/
theorem sound_inserted (sql : SqlExternals) (valid : db.Valid) (record : RequestInsert)
    (requestHeaders responseHeaders : List StoredHeader) (capture : Option CaptureInsert)
    (pluginDecisions : List PluginDecisionInsert) :
    Sound db (db.inserted sql record requestHeaders responseHeaders capture pluginDecisions)
      [.inserted record capture] where
  covered := by
    intro pending budget covered
    have kept : (db.without record.requestId).Valid := valid.deleteRequests _
    have sum : insertedBytes [.inserted record capture] =
        Budget.total CaptureRow.bytes (capture.map (CaptureInsert.row record)).toList := by
      simp [insertedBytes, Note.bytes, bodyBytes, Budget.total]
    rw [sum]
    exact covered.replace record.requestId List.filter_sublist
      (Database.ref_ne_of_references kept.captureOwners)
      (Database.requestId_captureRow record capture)
  young := by
    intro cutoff since young row member
    rcases List.mem_append.mp member with old | new
    · exact young.append _ row (List.mem_filter.mp old).1
    · exact Or.inr ⟨record, capture, by simp, List.mem_singleton.mp new⟩
  nulls := by
    intro nulls row member
    rcases List.mem_append.mp member with old | new
    · exact nulls row (List.mem_filter.mp old).1
    · obtain ⟨inserted, _, rfl⟩ := Option.map_eq_some_iff.mp (Option.mem_toList.mp new)
      exact fun evicted => absurd evicted (by simp [CaptureInsert.row])

end Changes

/-- A call that inserts a request is sound, whether it is committed or refused. -/
theorem sound_insertRequest (sql : SqlExternals) (state : State) (record : RequestInsert)
    (requestHeaders responseHeaders : List StoredHeader) (capture : Option CaptureInsert)
    (pluginDecisions : List PluginDecisionInsert) :
    Sound state.store.val
      (state.store.apply sql
        (.insertRequest record requestHeaders responseHeaders capture pluginDecisions)).val
      (notes sql state
        (.insertRequest record requestHeaders responseHeaders capture pluginDecisions)) := by
  simp only [notes, Store.apply]
  cases performed : state.store.perform sql
      (.insertRequest record requestHeaders responseHeaders capture pluginDecisions) with
  | error err => exact sound_of_same rfl rfl [] rfl
  | ok store =>
    have committed := (Store.perform_ok_iff sql state.store store _).mp performed
    obtain ⟨_, _, _, same⟩ := (Database.insertRequest_ok_iff sql state.store.property record
      requestHeaders responseHeaders capture pluginDecisions store.val).mp committed
    change Sound state.store.val store.val _
    rw [same]
    exact sound_inserted sql state.store.property record requestHeaders responseHeaders
      capture pluginDecisions

/-- A call that writes a replay run is sound, as it touches neither requests nor captures. -/
theorem sound_insertReplayRun (sql : SqlExternals) (store : Store) (replay : ReplayRunInsert) :
    Sound store.val (store.apply sql (.insertReplayRun replay)).val [] := by
  rcases store.apply_cases sql (.insertReplayRun replay) with same | performed
  · rw [same]
    exact sound_of_same rfl rfl [] rfl
  · obtain ⟨_, _, same⟩ := (Database.insertReplayRun_ok_iff store.val _ replay).mp performed
    rw [same]
    refine sound_of_same ?_ ?_ [] ?_ <;> rfl

/-- Every event does to the database what its notes tell.

A statement of a run that only reads, or fails, leaves the database as it is. -/
theorem step_sound (sql : SqlExternals) (state next : State) (event : Event)
    (taken : step sql state event = some next) :
    Sound state.store.val next.store.val (notes sql state event) := by
  cases step_change sql state next event taken with
  | requested record requestHeaders responseHeaders capture pluginDecisions =>
    exact sound_insertRequest sql state record requestHeaders responseHeaders capture
      pluginDecisions
  | replayed replay => exact sound_insertReplayRun sql state.store replay
  | deleted run cutoff maxTotal idle => exact sound_deleteRequests _ _ rfl
  | evicted run total candidate rest evicting => exact sound_evictBody _
  | summed run deleted small => exact sound_of_same rfl rfl _ rfl
  | overflowed run deleted => exact sound_of_same rfl rfl _ rfl
  | drained run total looping none => exact sound_of_same rfl rfl _ rfl
  | fetched run total candidate rest looping some => exact sound_of_same rfl rfl _ rfl
  | failed run => exact sound_of_same rfl rfl _ rfl

/-! ## The account of one run -/

/-- The run has deleted and then added up. The requests are as young as it made them, and
its count covers the captures, but for what was inserted since. -/
def Swept (number : Nat) (cutoff : Int) (left : List Note) (db : Database)
    (pending : List CaptureRow) (count : Int) : Prop :=
  ∃ before between since, left = before ++ .deleted number :: (between ++ .summed number :: since) ∧
    Young cutoff (between ++ .summed number :: since) db ∧
    Covered pending db (count + insertedBytes since)

/-- What can be said of a run in each of its phases. -/
def Run.Account (run : Run) (number : Nat) (left : List Note) (db : Database) : Prop :=
  match run.phase with
  | .idle => True
  | .deleted => ∃ before since, left = before ++ .deleted number :: since ∧
      Young run.cutoff since db
  | .looping total => total ≤ i64Max ∧ Swept number run.cutoff left db [] total
  | .evicting total candidate rest =>
      total ≤ i64Max ∧ Swept number run.cutoff left db (candidate :: rest) total
  | .finished => Swept number run.cutoff left db [] run.maxTotal
  | .failed => True

section Account

variable {number : Nat} {cutoff : Int} {left : List Note} {db after : Database}

/-- The bytes inserted over two stretches add up. -/
theorem insertedBytes_append (first second : List Note) :
    insertedBytes (first ++ second) = insertedBytes first + insertedBytes second := by
  simp [insertedBytes]

/-- What others do keeps a sweep: its count covers its own rows, and what was inserted since is
noted. -/
theorem Swept.carry {pending : List CaptureRow} {count : Int}
    (swept : Swept number cutoff left db pending count) {more : List Note}
    (sound : Sound db after more) :
    Swept number cutoff (left ++ more) after pending count := by
  obtain ⟨before, between, since, rfl, young, covered⟩ := swept
  refine ⟨before, between, since ++ more, by simp, ?_, ?_⟩
  · simpa using sound.young cutoff _ young
  · refine (sound.covered pending _ covered).mono ?_
    rw [insertedBytes_append]
    omega

/-- What others do keeps the account of a run, in whatever phase the run is. -/
theorem Run.Account.carry {run : Run} (account : run.Account number left db)
    {more : List Note} (sound : Sound db after more) :
    run.Account number (left ++ more) after := by
  obtain ⟨cutoff, maxTotal, phase⟩ := run
  cases phase with
  | idle => trivial
  | deleted =>
    obtain ⟨before, since, rfl, young⟩ := account
    exact ⟨before, since ++ more, by simp, sound.young cutoff since young⟩
  | looping total => exact ⟨account.1, account.2.carry sound⟩
  | evicting total candidate rest => exact ⟨account.1, account.2.carry sound⟩
  | finished => exact Swept.carry account sound
  | failed => trivial

/-- A run whose count is within its maximum is done, and otherwise goes on with its account
kept. -/
theorem Swept.settle {run : Run} {total : Int} {rest : List CaptureRow}
    (unique : Tables.Unique CaptureRow.requestId db.captures) (small : total ≤ i64Max)
    (swept : Swept number run.cutoff left db rest total) :
    (run.settle total rest).Account number left db := by
  unfold Run.settle
  split
  next enough =>
    obtain ⟨before, between, since, same, young, covered⟩ := swept
    refine ⟨before, between, since, same, young, Sweep.covered_nil ?_⟩
    have within := covered.total_le unique
    simp only
    omega
  next =>
    cases rest with
    | nil => exact ⟨small, swept⟩
    | cons candidate rest => exact ⟨small, swept⟩

/-- Without a candidate to evict there are no bytes: a row with a body could be evicted. -/
theorem bodyBytes_eq_zero (order : CaptureOrder) (nulls : NullEvicted db.captures)
    (none : db.evictionCandidates order = []) : bodyBytes db.captures = 0 := by
  have settled : ∀ row ∈ db.captures, row.evictable = false :=
    ((Backend.sqlite order).candidateRows_eq_nil_iff db).mp none
  refine List.sum_eq_zero fun bytes member => ?_
  obtain ⟨row, listed, rfl⟩ := List.mem_map.mp member
  exact bytes_eq_zero_of_not_evictable nulls listed (settled row listed)

/-- Fetched candidates are among the captures, each once, so their bytes are covered. -/
theorem Swept.fetch {total : Int} (order : CaptureOrder) (valid : db.Valid)
    (swept : Swept number cutoff left db [] total) :
    Swept number cutoff left db (db.evictionCandidates order) total := by
  obtain ⟨before, between, since, same, young, covered⟩ := swept
  refine ⟨before, between, since, same, young, ?_⟩
  have fits := covered.total_le valid.captureKeys
  have oldest := oldestFirst_evictionQueue order db.captures
  have listed : (db.evictionCandidates order).Sublist (evictionQueue order db.captures) :=
    List.take_sublist ..
  exact Sweep.Covered.fetch valid.captureKeys fits
    ((oldest.unique valid.captureKeys).sublist (listed.map _))
    fun row member => oldest.mem (listed.subset member)

/-- The next candidate's bytes leave the count, whatever is evicted under its identifier: the
row may have been replaced since it was fetched, and then the count is only too high. -/
theorem Swept.evict {total : Int} {candidate : CaptureRow} {rest : List CaptureRow}
    (small : total ≤ i64Max)
    (swept : Swept number cutoff left db (candidate :: rest) total) :
    Swept number cutoff left (db.evictBody candidate.requestId) rest
      (saturateI64 (total - candidate.bytes)) := by
  obtain ⟨before, between, since, same, young, covered⟩ := swept
  refine ⟨before, between, since, same, young, ?_⟩
  refine (Sweep.Covered.empty covered CaptureRow.evict (fun _ => rfl) (fun _ => rfl)).mono ?_
  simp only [saturateI64]
  omega

/-- After its first statement a run has left nothing older than its cutoff. -/
theorem account_deleted (maxTotal : Nat) (kept : Database)
    (recent : ∀ row ∈ kept.requests, cutoff ≤ row.createdAtMs) :
    Run.Account ⟨cutoff, maxTotal, .deleted⟩ number (left ++ [.deleted number]) kept :=
  ⟨left, [], rfl, fun row member => Or.inl (recent row member)⟩

/-- The sum that a run reads covers all captures, and nothing was inserted since. -/
theorem Run.Account.sum {run : Run} (account : run.Account number left db)
    (deleted : run.phase = .deleted) (valid : db.Valid) (small : db.totalCaptureBytes ≤ i64Max) :
    (run.settle db.totalCaptureBytes []).Account number (left ++ [.summed number]) db := by
  simp only [Run.Account, deleted] at account
  obtain ⟨before, since, rfl, young⟩ := account
  have counted : Covered [] db (db.totalCaptureBytes + insertedBytes []) :=
    Sweep.covered_nil (by simp [insertedBytes, Database.totalCaptureBytes, Budget.total])
  exact Swept.settle valid.captureKeys (by exact_mod_cast small)
    ⟨before, since, [], by simp, young.append _, counted⟩

/-- A run that finds no candidate is done: there is no body left, whatever its count says. -/
theorem Run.Account.drain {run : Run} {total : Int} (account : run.Account number left db)
    (looping : run.phase = .looping total) (order : CaptureOrder)
    (nulls : NullEvicted db.captures) (none : db.evictionCandidates order = []) :
    ({ run with phase := .finished } : Run).Account number left db := by
  simp only [Run.Account, looping] at account
  obtain ⟨_, before, between, since, same, young, _⟩ := account
  refine ⟨before, between, since, same, young, Sweep.covered_nil ?_⟩
  have nothing : Budget.total CaptureRow.bytes db.captures = 0 :=
    bodyBytes_eq_zero order nulls none
  rw [nothing]
  omega

/-- A run that finds candidates goes on with them. -/
theorem Run.Account.fetch {run : Run} {total : Int} {candidate : CaptureRow}
    {rest : List CaptureRow} (account : run.Account number left db)
    (looping : run.phase = .looping total) (order : CaptureOrder) (valid : db.Valid)
    (some : db.evictionCandidates order = candidate :: rest) :
    ({ run with phase := .evicting total candidate rest } : Run).Account number left db := by
  simp only [Run.Account, looping] at account
  exact ⟨account.1, some ▸ account.2.fetch order valid⟩

/-- A run that has evicted a candidate is done or goes on with the rest. -/
theorem Run.Account.evict {run : Run} {total : Int} {candidate : CaptureRow}
    {rest : List CaptureRow} (account : run.Account number left db)
    (evicting : run.phase = .evicting total candidate rest)
    (valid : (db.evictBody candidate.requestId).Valid) :
    (run.settle (saturateI64 (total - candidate.bytes)) rest).Account number left
      (db.evictBody candidate.requestId) := by
  simp only [Run.Account, evicting] at account
  obtain ⟨small, swept⟩ := account
  refine Swept.settle valid.captureKeys ?_ (swept.evict small)
  simp only [saturateI64]
  omega

end Account

/-! ## Every interleaving -/

/-- The account of a run together with what the schema does not say. -/
structure Inv (number : Nat) (left : List Note) (state : State) : Prop where
  nulls : NullEvicted state.store.val.captures
  account : (state.runs number).Account number left state.store.val

/-- At the start no run has begun, and nothing has been noted. -/
theorem start_inv (store : Store) (nulls : NullEvicted store.val.captures) (number : Nat) :
    Inv number [] (start store) := ⟨nulls, trivial⟩

/-- An event that is not the run's own keeps its account, because it does what its notes
tell. -/
theorem Inv.other {number : Nat} {left : List Note} {state next : State}
    (inv : Inv number left state) (sql : SqlExternals) (event : Event)
    (taken : step sql state event = some next) (same : next.runs number = state.runs number) :
    Inv number (left ++ notes sql state event) next := by
  have sound := step_sound sql state next event taken
  refine ⟨sound.nulls inv.nulls, ?_⟩
  rw [same]
  exact inv.account.carry sound

/-- A statement of the run itself, or of another run: the first keeps the account by what it
does, the second as any other event. -/
theorem Inv.statement {number : Nat} {left : List Note} {state next : State}
    (inv : Inv number left state) (sql : SqlExternals) (event : Event)
    (taken : step sql state event = some next) (run : Nat) (after : Run)
    (runs : next.runs = Function.update state.runs run after)
    (own : (state.runs run).Account run left state.store.val →
      after.Account run (left ++ notes sql state event) next.store.val) :
    Inv number (left ++ notes sql state event) next := by
  by_cases same : run = number
  · subst same
    refine ⟨(step_sound sql state next event taken).nulls inv.nulls, ?_⟩
    rw [runs, Function.update_self]
    exact own inv.account
  · refine inv.other sql event taken ?_
    rw [runs, Function.update_of_ne (Ne.symm same)]

/-- Every event keeps the account of the run.

A statement of the run itself moves its account on, and all others keep it. -/
theorem Inv.step {number : Nat} {left : List Note} {state next : State}
    (inv : Inv number left state) (sql : SqlExternals) (event : Event)
    (taken : ConcurrentRetention.step sql state event = some next) :
    Inv number (left ++ notes sql state event) next := by
  have valid := state.store.property
  have statement := inv.statement sql event taken
  cases step_change sql state next event taken with
  | requested record requestHeaders responseHeaders capture pluginDecisions =>
    exact inv.other sql _ taken rfl
  | replayed replay => exact inv.other sql _ taken rfl
  | deleted run cutoff maxTotal idle =>
    refine statement run _ rfl fun _ => account_deleted maxTotal _ fun row member => ?_
    simpa using (List.mem_filter.mp member).2
  | summed run deleted small =>
    exact statement run _ rfl fun account => account.sum deleted valid small
  | overflowed run deleted => exact statement run _ rfl fun _ => trivial
  | drained run total looping none =>
    refine statement run _ rfl fun account => ?_
    rw [notes, List.append_nil]
    exact account.drain looping sql.captureOrder inv.nulls none
  | fetched run total candidate rest looping some =>
    refine statement run _ rfl fun account => ?_
    rw [notes, List.append_nil]
    exact account.fetch looping sql.captureOrder valid some
  | evicted run total candidate rest evicting =>
    refine statement run _ rfl fun account => ?_
    rw [notes, List.append_nil]
    exact account.evict evicting (state.store.evictBody candidate.requestId).property
  | failed run => exact statement run _ rfl fun _ => trivial

/-! ## A run that is left alone -/

section Alone

variable (sql : SqlExternals) (number : Nat) (runs : Nat → Run) (run : Run)

/-- The state in which this run is about to go on with a loop of `evict_capture_bodies`. -/
def State.resume (store : Store) (runs : Nat → Run) (number : Nat) (run : Run) : State :=
  ⟨store, Function.update runs number run⟩

/-- How a run goes on does not depend on the phase it was in. -/
theorem settle_phase (phase : Phase) (total : Int) (rest : List CaptureRow) :
    ({ run with phase := phase } : Run).settle total rest = run.settle total rest := by
  cases rest <;> rfl

/-- Both loops end once the total is within the maximum, whatever candidates are left. -/
theorem settle_enough (total : Int) (rest : List CaptureRow)
    (enough : total ≤ (min run.maxTotal i64Max : Nat)) :
    run.settle total rest = { run with phase := .finished } :=
  if_pos enough

/-- Above the maximum and without candidates the outer loop fetches again. -/
theorem settle_fetch (total : Int) (above : ¬ total ≤ (min run.maxTotal i64Max : Nat)) :
    run.settle total [] = { run with phase := .looping total } :=
  if_neg above

/-- Above the maximum the inner loop takes the next candidate. -/
theorem settle_evict (total : Int) (candidate : CaptureRow) (rest : List CaptureRow)
    (above : ¬ total ≤ (min run.maxTotal i64Max : Nat)) :
    run.settle total (candidate :: rest) =
      { run with phase := .evicting total candidate rest } :=
  if_neg above

/-- The statements of the inner loop, taken one after the other, do what the loop does in one
go.

The induction is over the candidates; the loop stops before them once the total is within the
maximum. -/
theorem run_evictBatch (candidates : List CaptureRow) (eviction : Eviction) (store : Store)
    (same : store.val = eviction.db) (above : ¬ eviction.total ≤ (min run.maxTotal i64Max : Nat)) :
    ∃ (events : List Event) (next : Store), next.val =
        (eviction.evictBatch (min run.maxTotal i64Max : Nat) candidates).db ∧
      Runs.run (step sql)
          (.resume store runs number (run.settle eviction.total candidates)) events =
        some (.resume next runs number (run.settle
          (eviction.evictBatch (min run.maxTotal i64Max : Nat) candidates).total [])) := by
  induction candidates generalizing eviction store with
  | nil => exact ⟨[], store, same, rfl⟩
  | cons candidate rest inductionHypothesis =>
    have evicted : step sql (.resume store runs number
        (run.settle eviction.total (candidate :: rest))) (.evictNext number) =
        some (.resume (store.evictBody candidate.requestId) runs number
          (run.settle (eviction.evict candidate).total rest)) := by
      rw [settle_evict run eviction.total candidate rest above]
      simp [step, State.resume, settle_phase, Eviction.evict]
    have sameNext : (store.evictBody candidate.requestId).val = (eviction.evict candidate).db := by
      rw [Eviction.evict, ← same]
      rfl
    by_cases enough : (eviction.evict candidate).total ≤ (min run.maxTotal i64Max : Nat)
    · refine ⟨[.evictNext number], store.evictBody candidate.requestId, ?_, ?_⟩
      · rw [Eviction.evictBatch, if_pos enough, sameNext]
      · rw [Runs.run, evicted, Eviction.evictBatch, if_pos enough]
        simp only [Runs.run]
        rw [settle_enough run _ rest enough, settle_enough run _ [] enough]
    · obtain ⟨events, next, nextSame, goesOn⟩ :=
        inductionHypothesis (eviction.evict candidate) _ sameNext enough
      refine ⟨.evictNext number :: events, next, ?_, ?_⟩
      · rw [Eviction.evictBatch, if_neg enough, nextSame]
      · rw [Runs.run, evicted, Eviction.evictBatch, if_neg enough]
        exact goesOn

/-- The statements of the outer loop, taken one after the other, do what the loop does in one
go, if it ends within the maximum. -/
theorem run_evictBodies (fuel : Nat) (eviction : Eviction) (store : Store)
    (same : store.val = eviction.db)
    (enough : (eviction.evictBodies sql.captureOrder (min run.maxTotal i64Max : Nat) fuel).total ≤
      (min run.maxTotal i64Max : Nat)) :
    ∃ (events : List Event) (next : Store), next.val =
        (eviction.evictBodies sql.captureOrder (min run.maxTotal i64Max : Nat) fuel).db ∧
      Runs.run (step sql) (.resume store runs number (run.settle eviction.total [])) events =
        some (.resume next runs number { run with phase := .finished }) := by
  induction fuel generalizing eviction store with
  | zero =>
    rw [Eviction.evictBodies] at enough
    exact ⟨[], store, same, by rw [Runs.run, settle_enough run _ [] enough]⟩
  | succ fuel inductionHypothesis =>
    by_cases already : eviction.total ≤ (min run.maxTotal i64Max : Nat)
    · refine ⟨[], store, ?_, by rw [Runs.run, settle_enough run _ [] already]⟩
      rw [Eviction.evictBodies, if_pos already, same]
    · rw [Eviction.evictBodies, if_neg already] at enough ⊢
      cases fetched : eviction.db.evictionCandidates sql.captureOrder with
      | nil =>
        simp only [fetched, List.isEmpty_nil, if_true] at enough
        exact absurd enough already
      | cons candidate rest =>
        simp only [fetched, List.isEmpty_cons, Bool.false_eq_true, if_false] at enough ⊢
        have fetches : step sql (.resume store runs number (run.settle eviction.total []))
            (.fetchCandidates number) =
            some (.resume store runs number (run.settle eviction.total (candidate :: rest))) := by
          rw [settle_fetch run _ already, settle_evict run _ candidate rest already]
          simp [step, State.resume, same, fetched]
        obtain ⟨batch, middle, middleSame, evicts⟩ :=
          run_evictBatch sql number runs run (candidate :: rest) eviction store same already
        obtain ⟨events, next, nextSame, goesOn⟩ := inductionHypothesis _ middle middleSame enough
        refine ⟨.fetchCandidates number :: (batch ++ events), next, nextSame, ?_⟩
        rw [Runs.run, fetches]
        simp only
        rw [Runs.run_append, evicts]
        exact goesOn

/-- The loop that starts at the whole total ends within the maximum: each turn evicts something
until nothing is left to evict, and then there are no bytes. -/
theorem evictBodies_enough (order : CaptureOrder) (kept : Store) (maxTotal : Nat)
    (nulls : NullEvicted kept.val.captures) (within : WithinSqlite kept.val) :
    (Eviction.evictBodies order (min maxTotal i64Max : Nat) (kept.val.captures.length + 1)
      ⟨kept.val, kept.val.totalCaptureBytes, 0⟩).total ≤ (min maxTotal i64Max : Nat) := by
  have fits : bodyBytes kept.val.captures ≤ i64Max := Nat.le_sub_one_of_lt within
  obtain ⟨final, _, _, small, loops⟩ :=
    (evicting_start kept.val (min maxTotal i64Max : Nat)).evictCaptureBodies order
      (Int.natCast_nonneg _) kept.property.captureKeys fits nulls
  have loop := loops (kept.val.captures.length + 1) (by simp)
  have short : ∀ row ∈ kept.val.captures, row.bytes ≤ SqlInteger.int8.max := fun row member =>
    (List.single_le_sum (by simp) _ (List.mem_map_of_mem member)).trans fits
  rw [Backend.evictCaptureBodies_sqlite order _ _
    ⟨kept.val, kept.val.totalCaptureBytes, 0⟩ short] at loop
  exact Except.ok.inj loop ▸ small

/-- The statements of a run, one after another with nothing between them, do what
`runRetention` does. -/
theorem run_alone (store : Store) (cutoff : Int) (maxTotal : Nat)
    (idle : (runs number).phase = .idle) (nulls : NullEvicted store.val.captures)
    (within : WithinSqlite (store.val.unexpired cutoff)) :
    ∃ (events : List Event) (next : Store),
      next.val = (store.val.runRetention sql.captureOrder cutoff maxTotal).1 ∧
      Runs.run (step sql) ⟨store, runs⟩
          (.deleteExpired number cutoff maxTotal :: .sumBytes number :: events) =
        some (.resume next runs number ⟨cutoff, maxTotal, .finished⟩) := by
  let kept := store.deleteRequests fun row => decide (row.createdAtMs < cutoff)
  have enough := evictBodies_enough sql.captureOrder kept maxTotal
    (fun row member => nulls row (List.mem_filter.mp member).1) within
  obtain ⟨events, next, same, goesOn⟩ := run_evictBodies sql number runs
    ⟨cutoff, maxTotal, .deleted⟩ (kept.val.captures.length + 1)
    ⟨kept.val, kept.val.totalCaptureBytes, 0⟩ kept rfl enough
  refine ⟨events, next, same, ?_⟩
  have deletes : step sql ⟨store, runs⟩ (.deleteExpired number cutoff maxTotal) =
      some (.resume kept runs number ⟨cutoff, maxTotal, .deleted⟩) := by
    simp only [step, idle]
    rfl
  have fits : kept.val.totalCaptureBytes ≤ i64Max := Nat.le_sub_one_of_lt within
  have sums : step sql (.resume kept runs number ⟨cutoff, maxTotal, .deleted⟩)
      (.sumBytes number) =
      some (.resume kept runs number
        ((⟨cutoff, maxTotal, .deleted⟩ : Run).settle kept.val.totalCaptureBytes [])) := by
    simp [step, State.resume, fits]
  rw [Runs.run, deletes]
  simp only
  rw [Runs.run, sums]
  exact goesOn

end Alone

/-- In every interleaving of insertions, replays and runs of retention, whatever others do
between the statements of a run, once it has finished the bodies take at most its maximum and
the bytes inserted since it added them up, and every request older than its cutoff was
inserted since it deleted such requests. -/
theorem finished_retention_bounds (sql : SqlExternals) (store : Store)
    (nulls : NullEvicted store.val.captures) (events : List Event) (final : State)
    (completed : Runs.run (step sql) (start store) events = some final) (number : Nat)
    (finished : (final.runs number).phase = .finished) :
    ∃ before between since,
      Runs.trace (step sql) (notes sql) (start store) events =
        before ++ .deleted number :: (between ++ .summed number :: since) ∧
      final.store.val.totalCaptureBytes ≤ (final.runs number).maxTotal + insertedBytes since ∧
      Young (final.runs number).cutoff (between ++ .summed number :: since) final.store.val := by
  have inv : Inv number (Runs.trace (step sql) (notes sql) (start store) events) final :=
    Runs.traced_invariant (step sql) (fun _ _ => True) (notes sql) (Inv number)
      (fun _ _ event _ inv _ taken => inv.step sql event taken) [] (start store) final events
      (start_inv store nulls number) (Runs.guarded_true _ _ _) completed
  have account := inv.account
  simp only [Run.Account, finished] at account
  obtain ⟨before, between, since, same, young, covered⟩ := account
  have within := covered.total_le final.store.property.captureKeys
  refine ⟨before, between, since, same, ?_, young⟩
  change Budget.total CaptureRow.bytes final.store.val.captures ≤ _
  omega

/-- A candidate is fetched, its request is recorded anew with a longer body, and then the
candidate is evicted: the new body goes, and the count is right for the old one. -/
def overtakenRun : List Event :=
  [.deleteExpired 0 1000 3, .sumBytes 0, .fetchCandidates 0,
    .insertRequest (agedRequest "old" 4000) [] []
      (some { sampleCapture with requestBody := some [1, 2, 3, 4, 5], responseBody := none }) [],
    .evictNext 0]

/-- While a run evicts, a request is stored that it has not counted: it finishes above its
maximum by no more than the bytes of that request. -/
theorem finished_retention_bounds_overtaken : ∃ final,
    Runs.run (step plainSql) (start ⟨agedDatabase, agedDatabase_valid⟩) overtakenRun =
        some final ∧
      final.store.val.totalCaptureBytes = 2 ∧ final.store.val.requests.length = 2 ∧
      ∃ before between since,
        Runs.trace (step plainSql) (notes plainSql)
          (start ⟨agedDatabase, agedDatabase_valid⟩) overtakenRun =
            before ++ .deleted 0 :: (between ++ .summed 0 :: since) ∧
        final.store.val.totalCaptureBytes ≤ 3 + insertedBytes since ∧
        Young 1000 (between ++ .summed 0 :: since) final.store.val :=
  ⟨_, rfl, by decide +kernel, by decide +kernel, finished_retention_bounds plainSql
    ⟨agedDatabase, agedDatabase_valid⟩ (by decide) overtakenRun _ rfl 0 (by decide +kernel)⟩

end ConcurrentRetention

end TraceGate
