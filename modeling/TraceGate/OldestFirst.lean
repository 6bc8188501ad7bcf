import TraceGate.Budget
import TraceGate.Ordering
import TraceGate.Retention

/-!
# Eviction, one capture at a time

The loop that evicts bodies reads candidates a hundred at a time and subtracts their bytes
from a total it read once. What it leaves is what the plain procedure leaves, which goes
through all captures with a body, the oldest first, and adds up the table before each.

Among captures of one time the database decides, and it decides anew for every batch. The
candidates of the next batch are those of the last one without the evicted rows, so the
batches one after another are again captures with the oldest first: some order of the plain
procedure, which has ties as well.
-/

namespace TraceGate

/-- Captures with a body to evict, as the database sorts them. -/
def evictionQueue (order : CaptureOrder) (rows : List CaptureRow) : List CaptureRow :=
  order.sort (rows.filter CaptureRow.evictable)

/-- An order in which captures with a body may go: the oldest first. -/
abbrev OldestFirst (rows queue : List CaptureRow) : Prop :=
  Ordering.Arranged olderCapture (rows.filter CaptureRow.evictable) queue

/-- The plain procedure on the captures, in a given order. -/
def evictInOrder (maxTotal : Nat) (queue rows : List CaptureRow) : List CaptureRow :=
  Budget.fit CaptureRow.requestId CaptureRow.bytes CaptureRow.evict maxTotal
    (queue.map CaptureRow.requestId) rows

section Queue

variable {rows queue : List CaptureRow}

/-- The order of the database is one with the oldest first. -/
theorem oldestFirst_evictionQueue (order : CaptureOrder) (rows : List CaptureRow) :
    OldestFirst rows (evictionQueue order rows) :=
  order.arranged _

/-- Each capture waits once, as it is in the table once. -/
theorem OldestFirst.unique (oldest : OldestFirst rows queue)
    (unique : Tables.Unique CaptureRow.requestId rows) :
    Tables.Unique CaptureRow.requestId queue :=
  ((oldest.permutes.map CaptureRow.requestId).nodup_iff).mpr (unique.filter _)

/-- Only captures of the table wait. -/
theorem OldestFirst.mem (oldest : OldestFirst rows queue) {row : CaptureRow}
    (member : row ∈ queue) : row ∈ rows :=
  (List.mem_filter.mp (oldest.permutes.mem_iff.mp member)).1

/-- Once the first rows of a queue have been evicted, the captures that are left with a body
are those that were behind them.

Eviction takes exactly the rows of the listed identifiers out of the evictable ones, and no
row behind the first ones has one of their identifiers. -/
theorem perm_evictable_emptyAll (unique : Tables.Unique CaptureRow.requestId rows)
    {first rest : List CaptureRow} (oldest : OldestFirst rows (first ++ rest)) :
    rest.Perm ((Budget.emptyAll CaptureRow.requestId CaptureRow.evict
      (first.map CaptureRow.requestId) rows).filter CaptureRow.evictable) := by
  have distinct := oldest.unique unique
  rw [Tables.Unique, List.map_append] at distinct
  have apart := (List.nodup_append.mp distinct).2.2
  rw [Budget.filter_emptyAll CaptureRow.requestId CaptureRow.evict (fun _ => rfl)
    (fun _ => rfl) CaptureRow.evictable (fun _ => rfl)]
  refine List.Perm.trans (List.Perm.of_eq ?_) (oldest.permutes.filter _)
  rw [List.filter_append, List.filter_eq_nil_iff.mpr, List.filter_eq_self.mpr, List.nil_append]
  · intro row member
    refine decide_eq_true fun listed => ?_
    exact apart _ listed _ (List.mem_map_of_mem member) rfl
  · intro row member
    simpa using ⟨row, member, rfl⟩

/-- Captures that fit are left alone, whatever waits. -/
theorem evictInOrder_of_le {maxTotal : Nat}
    (light : Budget.total CaptureRow.bytes rows ≤ maxTotal) (queue : List CaptureRow) :
    evictInOrder maxTotal queue rows = rows :=
  Budget.fit_of_total_le light _ _ _

/-- An order can be gone through in two parts. -/
theorem evictInOrder_append (maxTotal : Nat) (first rest rows : List CaptureRow) :
    evictInOrder maxTotal (first ++ rest) rows =
      evictInOrder maxTotal rest (evictInOrder maxTotal first rows) := by
  rw [evictInOrder, List.map_append, Budget.fit_append]
  rfl

/-- After a batch that was not enough as many captures wait as were behind it. -/
theorem length_evictionQueue (order : CaptureOrder)
    (unique : Tables.Unique CaptureRow.requestId rows) {maxTotal : Nat}
    {first rest : List CaptureRow} (oldest : OldestFirst rows (first ++ rest))
    (heavy : ¬ Budget.total CaptureRow.bytes (evictInOrder maxTotal first rows) ≤ maxTotal) :
    (evictionQueue order (evictInOrder maxTotal first rows)).length = rest.length := by
  rw [evictInOrder, Budget.fit_eq_emptyAll _ _ _ heavy, evictionQueue,
    (order.permutes _).length_eq, (perm_evictable_emptyAll unique oldest).length_eq]

/-- A batch that was not enough has gone as a whole, and whatever order the captures behind
it then go in, they go behind it in an order of all.

The batch followed by that order is oldest first because nothing behind the batch was older
than anything in it. -/
theorem OldestFirst.resume (unique : Tables.Unique CaptureRow.requestId rows) {maxTotal : Nat}
    {first rest again : List CaptureRow} (oldest : OldestFirst rows (first ++ rest))
    (heavy : ¬ Budget.total CaptureRow.bytes (evictInOrder maxTotal first rows) ≤ maxTotal)
    (later : OldestFirst (evictInOrder maxTotal first rows) again) :
    OldestFirst rows (first ++ again) := by
  rw [evictInOrder, Budget.fit_eq_emptyAll _ _ _ heavy] at later
  exact Ordering.Arranged.resume oldest
    (later.of_perm (perm_evictable_emptyAll unique oldest).symm)

end Queue

/-! ## The loop -/

section Loop

variable {eviction : Eviction} {maxTotal : Nat}

/-- The running total is the table's, and it fits in 64 bits. -/
structure Counted (eviction : Eviction) : Prop where
  unique : Tables.Unique CaptureRow.requestId eviction.db.captures
  total : eviction.total = bodyBytes eviction.db.captures
  fits : bodyBytes eviction.db.captures ≤ i64Max

/-- Evicting the bodies of a row takes its bytes, and only those, from the table. -/
theorem bodyBytes_evictBody {db : Database} {candidate : CaptureRow}
    (unique : Tables.Unique CaptureRow.requestId db.captures) (member : candidate ∈ db.captures) :
    bodyBytes (db.evictBody candidate.requestId).captures + candidate.bytes =
      bodyBytes db.captures := by
  have table := evictRows_append [] unique member
  have total : bodyBytes (evictRows ([] ++ [candidate]) db.captures) + candidate.bytes =
      bodyBytes (evictRows [] db.captures) :=
    bodyBytes_evictRows_append (List.Nodup.of_map _ unique) member List.not_mem_nil
  rw [evictRows_nil] at table total
  rw [← total, ← table]
  rfl

/-- Evicting a row of the table keeps the count.

The running total is lowered by what the row's bodies weigh, and so is the table. -/
theorem Counted.evict (counted : Counted eviction) {candidate : CaptureRow}
    (member : candidate ∈ eviction.db.captures) : Counted (eviction.evict candidate) := by
  have bytes := bodyBytes_evictBody counted.unique member
  have total := counted.total
  have fits := counted.fits
  refine ⟨counted.unique.map _ fun row => ?_, ?_, ?_⟩
  · by_cases chosen : row.requestId = candidate.requestId
    · rw [if_pos chosen]
      rfl
    · rw [if_neg chosen]
  · change saturateI64 (eviction.total - candidate.bytes) =
      bodyBytes (eviction.db.evictBody candidate.requestId).captures
    rw [saturateI64]
    omega
  · change bodyBytes (eviction.db.evictBody candidate.requestId).captures ≤ i64Max
    omega

/-- A total that does not fit sends the inner loop through its rows as the plain procedure
goes through them. -/
theorem Counted.evictBatch (counted : Counted eviction) (above : ¬ eviction.total ≤ maxTotal)
    (queue : List CaptureRow) (distinct : Tables.Unique CaptureRow.requestId queue)
    (stored : ∀ row ∈ queue, row ∈ eviction.db.captures) :
    Counted (eviction.evictBatch maxTotal queue) ∧
      (eviction.evictBatch maxTotal queue).db =
        { eviction.db with
          captures := Budget.fit CaptureRow.requestId CaptureRow.bytes CaptureRow.evict maxTotal
            (queue.map CaptureRow.requestId) eviction.db.captures } := by
  induction queue generalizing eviction with
  | nil => exact ⟨counted, rfl⟩
  | cons candidate rest inductionHypothesis =>
    obtain ⟨member, others⟩ := List.forall_mem_cons.mp stored
    obtain ⟨absent, restDistinct⟩ := List.nodup_cons.mp distinct
    have next := counted.evict member
    have heavy : ¬ Budget.total CaptureRow.bytes eviction.db.captures ≤ maxTotal := by
      have total := counted.total
      change ¬ bodyBytes eviction.db.captures ≤ maxTotal
      omega
    rw [List.map_cons, Budget.fit, if_neg heavy]
    by_cases enough : (eviction.evict candidate).total ≤ maxTotal
    · have light : Budget.total CaptureRow.bytes
          (eviction.evict candidate).db.captures ≤ maxTotal := by
        have total := next.total
        change bodyBytes (eviction.evict candidate).db.captures ≤ maxTotal
        omega
      simp only [Eviction.evictBatch, enough, if_true]
      refine ⟨next, ?_⟩
      have same := Budget.fit_of_total_le light CaptureRow.requestId CaptureRow.evict
        (rest.map CaptureRow.requestId)
      exact congrArg (fun captures => { eviction.db with captures := captures }) same.symm
    · simp only [Eviction.evictBatch, enough, if_false]
      refine inductionHypothesis next enough restDistinct fun row waiting => ?_
      have different : row.requestId ≠ candidate.requestId :=
        fun same => absent (same ▸ List.mem_map_of_mem waiting)
      exact List.mem_map.mpr ⟨row, others row waiting, if_neg different⟩

/-- The loop stops where the total is within the maximum. -/
theorem evictBodies_of_le (order : CaptureOrder) (enough : eviction.total ≤ maxTotal)
    (fuel : Nat) : eviction.evictBodies order maxTotal fuel = eviction := by
  cases fuel with
  | zero => rfl
  | succ fuel => rw [Eviction.evictBodies, if_pos enough]

/-- The running total is within the maximum exactly when the table is. -/
theorem Counted.total_le_iff (counted : Counted eviction) :
    eviction.total ≤ maxTotal ↔
      Budget.total CaptureRow.bytes eviction.db.captures ≤ maxTotal := by
  have total := counted.total
  change _ ↔ bodyBytes eviction.db.captures ≤ maxTotal
  omega

/-- The outer loop leaves what the plain procedure leaves in some order with the oldest
first, once it has an iteration more than there are captures to evict.

Proof: induction on the iterations. A batch that was enough ends the loop, and the plain
procedure stops there as well. A batch that was not enough has been evicted whole, so the
captures of the later iterations are those behind it. -/
theorem Counted.evictBodies (order : CaptureOrder) (counted : Counted eviction) (fuel : Nat)
    (plenty : (evictionQueue order eviction.db.captures).length < fuel) :
    ∃ queue, OldestFirst eviction.db.captures queue ∧
      (eviction.evictBodies order maxTotal fuel).db =
        { eviction.db with captures := evictInOrder maxTotal queue eviction.db.captures } := by
  induction fuel generalizing eviction with
  | zero => exact absurd plenty (Nat.not_lt_zero _)
  | succ fuel inductionHypothesis =>
    have whole := oldestFirst_evictionQueue order eviction.db.captures
    by_cases enough : eviction.total ≤ maxTotal
    · refine ⟨_, whole, ?_⟩
      rw [evictBodies_of_le order enough, evictInOrder_of_le (counted.total_le_iff.mp enough)]
    · have candidates : eviction.db.evictionCandidates order =
          (evictionQueue order eviction.db.captures).take 100 := rfl
      rw [Eviction.evictBodies, if_neg enough]
      simp only [candidates]
      split
      next none =>
        have empty : evictionQueue order eviction.db.captures = [] := by
          simpa [List.take_eq_nil_iff] using none
        exact ⟨_, whole, by simp only [evictInOrder, empty, List.map_nil, Budget.fit]⟩
      next some =>
        rw [← List.take_append_drop 100 (evictionQueue order eviction.db.captures)] at whole
        obtain ⟨next, table⟩ := counted.evictBatch enough
          ((evictionQueue order eviction.db.captures).take 100)
          ((whole.unique counted.unique).sublist ((List.sublist_append_left _ _).map _))
          fun row member => whole.mem (List.mem_append_left _ member)
        have batch : (eviction.evictBatch maxTotal
            ((evictionQueue order eviction.db.captures).take 100)).db.captures =
              evictInOrder maxTotal ((evictionQueue order eviction.db.captures).take 100)
                eviction.db.captures := by
          rw [table]
          rfl
        have light : _ ↔ _ ≤ maxTotal := next.total_le_iff
        rw [batch] at light
        by_cases done : (eviction.evictBatch maxTotal
            ((evictionQueue order eviction.db.captures).take 100)).total ≤ maxTotal
        · refine ⟨_, whole, ?_⟩
          rw [evictBodies_of_le order done, evictInOrder_append,
            evictInOrder_of_le (light.mp done), table]
          rfl
        · have shorter : (evictionQueue order (eviction.evictBatch maxTotal
              ((evictionQueue order eviction.db.captures).take 100)).db.captures).length <
                fuel := by
            have nonempty : 0 < (evictionQueue order eviction.db.captures).length := by
              refine List.length_pos_iff.mpr fun none => ?_
              simp [none] at some
            rw [batch, length_evictionQueue order counted.unique whole (mt light.mpr done),
              List.length_drop]
            omega
          obtain ⟨again, later, same⟩ := inductionHypothesis next shorter
          rw [batch] at later same
          refine ⟨_, OldestFirst.resume counted.unique whole (mt light.mpr done) later, ?_⟩
          rw [same, evictInOrder_append, table]

end Loop

/-- A retention run deletes the expired requests, and then leaves what the plain procedure
leaves in some order with the oldest first. -/
theorem Database.runRetention_eq {db : Database} (valid : db.Valid) (order : CaptureOrder)
    (cutoff : Int) (maxTotal : Nat) (within : WithinSqlite (db.unexpired cutoff)) :
    ∃ queue, OldestFirst (db.unexpired cutoff).captures queue ∧
      (db.runRetention order cutoff maxTotal).1 =
        { db.unexpired cutoff with
          captures := evictInOrder maxTotal queue (db.unexpired cutoff).captures } := by
  have fits : bodyBytes (db.unexpired cutoff).captures ≤ i64Max := by
    change (db.unexpired cutoff).totalCaptureBytes ≤ 2 ^ 63 - 1
    unfold WithinSqlite at within
    omega
  have counted : Counted ⟨db.unexpired cutoff, (db.unexpired cutoff).totalCaptureBytes, 0⟩ :=
    ⟨(valid.deleteRequests _).captureKeys, rfl, fits⟩
  have plenty : (evictionQueue order (db.unexpired cutoff).captures).length <
      (db.unexpired cutoff).captures.length + 1 := by
    rw [(oldestFirst_evictionQueue order _).permutes.length_eq]
    exact Nat.lt_succ_of_le (List.length_filter_le _ _)
  obtain ⟨queue, oldest, same⟩ := (counted.evictBodies order _ plenty :
    ∃ queue, _ ∧ (Eviction.evictBodies order (min maxTotal i64Max : Nat) _ _).db = _)
  have limit : evictInOrder (min maxTotal i64Max) queue (db.unexpired cutoff).captures =
      evictInOrder maxTotal queue (db.unexpired cutoff).captures :=
    Budget.fit_min (fun row => Nat.zero_le row.bytes) maxTotal i64Max _ _ fits
  rw [limit] at same
  exact ⟨queue, oldest, same⟩

end TraceGate
