import TraceGate.RetentionBackends

/-!
# What a retention run leaves

After the expired requests are deleted, bodies are evicted, the oldest captures first, until
the total fits. The loop keeps the total beside the table and reads candidates a hundred at a
time. One invariant carries it: the table is the one before the loop with the captures of a
list evicted, the running total is the table's total, nothing that still has a body is older
than a capture of the list, and before its last capture the total was too large.

An evicted capture has no bodies left. Then every byte in the table belongs to a candidate,
so the loop ends because the total fits and never because it runs out of candidates.
-/

namespace TraceGate

/-- The capture still has a body. -/
def CaptureRow.keepsBody (row : CaptureRow) : Bool :=
  row.requestBody.isSome || row.responseBody.isSome

/-- Captures marked as evicted have no bodies. -/
def NullEvicted (rows : List CaptureRow) : Prop :=
  ∀ row ∈ rows, row.bodyEvicted = true → row.requestBody = none ∧ row.responseBody = none

instance (rows : List CaptureRow) : Decidable (NullEvicted rows) :=
  inferInstanceAs (Decidable (∀ row ∈ rows, row.bodyEvicted = true →
    row.requestBody = none ∧ row.responseBody = none))

/-- The captures after those of a list have been evicted. -/
def evictRows (gone rows : List CaptureRow) : List CaptureRow :=
  rows.map fun row => if row ∈ gone then row.evict else row

/-- The bytes of all bodies. -/
def bodyBytes (rows : List CaptureRow) : Nat := (rows.map CaptureRow.bytes).sum

/-! ## One eviction -/

section Rows

variable {rows gone : List CaptureRow} {candidate : CaptureRow}

/-- Evicting twice is evicting once. -/
@[simp]
theorem evict_evict (row : CaptureRow) : row.evict.evict = row.evict := rfl

/-- An evicted row has no bytes. -/
@[simp]
theorem bytes_evict (row : CaptureRow) : row.evict.bytes = 0 := rfl

/-- An evicted row is not evictable. -/
@[simp]
theorem evictable_evict (row : CaptureRow) : row.evict.evictable = false := rfl

/-- Evicting nothing changes nothing. -/
@[simp]
theorem evictRows_nil : evictRows [] rows = rows := by
  simp [evictRows]

/-- A capture without bytes to count has none to evict, as long as evicted captures have
no bodies. -/
theorem bytes_eq_zero_of_not_evictable (nulls : NullEvicted rows) {row : CaptureRow}
    (member : row ∈ rows) (settled : row.evictable = false) : row.bytes = 0 := by
  by_cases evicted : row.bodyEvicted = true
  · obtain ⟨request, response⟩ := nulls row member evicted
    simp [CaptureRow.bytes, request, response]
  · simp only [CaptureRow.evictable, Bool.and_eq_false_iff, Bool.not_eq_false',
      Bool.or_eq_false_iff, Option.isSome_eq_false_iff, Option.isNone_iff_eq_none] at settled
    obtain ⟨request, response⟩ := settled.resolve_left evicted
    simp [CaptureRow.bytes, request, response]

/-- Evicting rows leaves no marked row with a body. -/
theorem NullEvicted.evictRows (nulls : NullEvicted rows) (gone : List CaptureRow) :
    NullEvicted (evictRows gone rows) := by
  intro row member evicted
  obtain ⟨original, stored, rfl⟩ := List.mem_map.mp member
  by_cases chosen : original ∈ gone
  · simp [chosen, CaptureRow.evict]
  · simp only [chosen, if_false] at evicted ⊢
    exact nulls original stored evicted

/-- Evicted rows keep their keys. -/
theorem unique_evictRows (unique : Tables.Unique CaptureRow.requestId rows)
    (gone : List CaptureRow) : Tables.Unique CaptureRow.requestId (evictRows gone rows) := by
  refine unique.map _ fun row => ?_
  by_cases chosen : row ∈ gone
  · rw [if_pos chosen]
    rfl
  · rw [if_neg chosen]

/-- The statement that evicts by identifier evicts one more capture.

Identifiers are unique, so the only row with that of the candidate is the candidate. -/
theorem evictRows_append (gone : List CaptureRow)
    (unique : Tables.Unique CaptureRow.requestId rows) (member : candidate ∈ rows) :
    (evictRows gone rows).map (fun row =>
        if row.requestId = candidate.requestId then row.evict else row) =
      evictRows (gone ++ [candidate]) rows := by
  rw [evictRows, evictRows, List.map_map]
  refine List.map_congr_left fun row stored => ?_
  have same : row.requestId = candidate.requestId ↔ row = candidate :=
    ⟨unique.eq_of_key_eq stored member, congrArg CaptureRow.requestId⟩
  have evictId : row.evict.requestId = row.requestId := rfl
  by_cases chosen : row ∈ gone
  · simp [chosen, evictId]
  · simp [chosen, same]

/-- One occurrence of a row counts once.

By induction on the rows: behind the candidate there is no other one. -/
theorem sum_single (distinct : rows.Nodup) (member : candidate ∈ rows) (value : Nat) :
    (rows.map fun row => if row = candidate then value else 0).sum = value := by
  induction rows with
  | nil => exact absurd member List.not_mem_nil
  | cons row rest inductionHypothesis =>
    obtain ⟨absent, restDistinct⟩ := List.nodup_cons.mp distinct
    rw [List.map_cons, List.sum_cons]
    rcases List.mem_cons.mp member with rfl | later
    · have none : (rest.map fun row => if row = candidate then value else 0) =
          rest.map fun _ => 0 := by
        refine List.map_congr_left fun row stored => if_neg ?_
        rintro rfl
        exact absent stored
      simp [none]
    · have different : row ≠ candidate := by
        rintro rfl
        exact absent later
      rw [if_neg different, Nat.zero_add]
      exact inductionHypothesis restDistinct later

/-- Evicting one more capture takes its bytes off the total.

Row by row, the bytes before are those after, and those of the candidate where the row is it. -/
theorem bodyBytes_evictRows_append (distinct : rows.Nodup) (member : candidate ∈ rows)
    (remains : candidate ∉ gone) :
    bodyBytes (evictRows (gone ++ [candidate]) rows) + candidate.bytes =
      bodyBytes (evictRows gone rows) := by
  have split : ∀ row : CaptureRow,
      (if row ∈ gone then row.evict else row).bytes =
        (if row ∈ gone ++ [candidate] then row.evict else row).bytes +
          if row = candidate then candidate.bytes else 0 := by
    intro row
    by_cases chosen : row = candidate
    · subst chosen
      simp [remains]
    · by_cases earlier : row ∈ gone
      · simp [earlier, chosen]
      · simp [earlier, chosen]
  have sums := sum_single distinct member candidate.bytes
  simp only [bodyBytes, evictRows, List.map_map, Function.comp_def]
  rw [List.map_congr_left fun row _ => split row, List.sum_map_add, sums]

/-- Evicting never makes the total larger. -/
theorem bodyBytes_evictRows_le (gone rows : List CaptureRow) :
    bodyBytes (evictRows gone rows) ≤ bodyBytes rows := by
  induction rows with
  | nil => exact Nat.le_refl 0
  | cons row rest inductionHypothesis =>
    have first : (if row ∈ gone then row.evict else row).bytes ≤ row.bytes := by
      by_cases chosen : row ∈ gone
      · simp [chosen]
      · simp [chosen]
    simp only [bodyBytes, evictRows, List.map_cons, List.sum_cons] at inductionHypothesis ⊢
    omega

end Rows

/-! ## A batch of candidates -/

/-- Candidates that wait for their eviction: captures with bodies, the oldest first, and no
other capture with a body is older than any of them. -/
structure Queue (rows queue : List CaptureRow) : Prop where
  sorted : queue.Pairwise olderCapture
  distinct : Tables.Unique CaptureRow.requestId queue
  evictable : ∀ row ∈ queue, row ∈ rows ∧ row.evictable = true
  first : ∀ row ∈ rows, row.evictable = true → row ∈ queue ∨
    ∀ earlier ∈ queue, earlier.createdAtMs ≤ row.createdAtMs

section Queues

variable {rows rest : List CaptureRow} {candidate : CaptureRow}

/-- What the query returns is such a queue: the rows behind the first hundred are not older
than those before. -/
theorem queue_candidateRows (order : CaptureOrder) (db : Database)
    (unique : Tables.Unique CaptureRow.requestId db.captures) :
    Queue db.captures ((Backend.sqlite order).candidateRows db) := by
  have permuted := order.permutes (db.captures.filter CaptureRow.evictable)
  have ordered := order.ordered (db.captures.filter CaptureRow.evictable)
  have distinct : Tables.Unique CaptureRow.requestId
      (order.sort (db.captures.filter CaptureRow.evictable)) :=
    ((permuted.map CaptureRow.requestId).nodup_iff).mpr (unique.filter _)
  have cut := List.take_append_drop 100 (order.sort (db.captures.filter CaptureRow.evictable))
  refine ⟨ordered.sublist (List.take_sublist _ _),
    List.Nodup.sublist ((List.take_sublist _ _).map _) distinct, ?_, ?_⟩
  · intro row member
    exact List.mem_filter.mp (permuted.mem_iff.mp (List.mem_of_mem_take member))
  · intro row stored evictable
    have listed := permuted.mem_iff.mpr (List.mem_filter.mpr ⟨stored, evictable⟩)
    rw [← cut] at listed ordered
    rcases List.mem_append.mp listed with front | behind
    · exact Or.inl front
    · exact Or.inr fun earlier inFront => (List.pairwise_append.mp ordered).2.2 earlier inFront
        row behind

/-- A row that is still evictable after an eviction was there before, under another
identifier. -/
theorem evictable_after {row : CaptureRow}
    (member : row ∈ rows.map fun row =>
      if row.requestId = candidate.requestId then row.evict else row)
    (evictable : row.evictable = true) :
    row ∈ rows ∧ row.requestId ≠ candidate.requestId := by
  obtain ⟨original, stored, same⟩ := List.mem_map.mp member
  by_cases chosen : original.requestId = candidate.requestId
  · rw [if_pos chosen] at same
    subst same
    exact absurd evictable (by simp)
  · rw [if_neg chosen] at same
    subst same
    exact ⟨stored, chosen⟩

/-- The first of the queue is no younger than any row with a body to evict. -/
theorem Queue.older (queue : Queue rows (candidate :: rest)) {row : CaptureRow}
    (stored : row ∈ rows) (evictable : row.evictable = true) :
    candidate.createdAtMs ≤ row.createdAtMs := by
  rcases queue.first row stored evictable with waiting | later
  · rcases List.mem_cons.mp waiting with rfl | behind
    · exact le_refl _
    · exact (List.pairwise_cons.mp queue.sorted).1 row behind
  · exact later candidate List.mem_cons_self

/-- Evicting the first of a queue leaves the rest a queue of the new table.

The rows that wait have other identifiers, so they are as they were, and the evicted one has
nothing left to evict. -/
theorem Queue.step (queue : Queue rows (candidate :: rest)) :
    Queue (rows.map fun row =>
      if row.requestId = candidate.requestId then row.evict else row) rest := by
  obtain ⟨absent, distinct⟩ := List.nodup_cons.mp queue.distinct
  refine ⟨(List.pairwise_cons.mp queue.sorted).2, distinct, ?_, ?_⟩
  · intro row member
    obtain ⟨stored, evictable⟩ := queue.evictable row (List.mem_cons_of_mem _ member)
    have different : row.requestId ≠ candidate.requestId :=
      fun same => absent (same ▸ List.mem_map_of_mem member)
    exact ⟨List.mem_map.mpr ⟨row, stored, if_neg different⟩, evictable⟩
  · intro row member evictable
    obtain ⟨stored, different⟩ := evictable_after member evictable
    rcases queue.first row stored evictable with waiting | later
    · rcases List.mem_cons.mp waiting with rfl | behind
      · exact absurd rfl different
      · exact Or.inl behind
    · exact Or.inr fun earlier inRest => later earlier (List.mem_cons_of_mem _ inRest)

end Queues

/-! ## The loop -/

/-- The loop has evicted the captures of a list, in this order. -/
structure Evicting (kept : Database) (maxTotal : Int) (gone : List CaptureRow)
    (eviction : Eviction) : Prop where
  table : eviction.db = { kept with captures := evictRows gone kept.captures }
  total : eviction.total = bodyBytes (evictRows gone kept.captures)
  counted : eviction.evictedCaptures = gone.length
  distinct : gone.Nodup
  taken : ∀ row ∈ gone, row ∈ kept.captures ∧ row.evictable = true
  oldest : ∀ row ∈ evictRows gone kept.captures, row.evictable = true →
    ∀ earlier ∈ gone, earlier.createdAtMs ≤ row.createdAtMs
  needed : gone ≠ [] → maxTotal < bodyBytes (evictRows gone.dropLast kept.captures)

section Loop

variable {kept : Database} {maxTotal : Int} {gone : List CaptureRow} {eviction : Eviction}

/-- Before the loop nothing is gone. -/
theorem evicting_start (kept : Database) (maxTotal : Int) :
    Evicting kept maxTotal [] ⟨kept, kept.totalCaptureBytes, 0⟩ where
  table := by simp
  total := by simp [bodyBytes, Database.totalCaptureBytes]
  counted := rfl
  distinct := List.nodup_nil
  taken := by simp
  oldest := by simp
  needed := fun impossible => absurd rfl impossible

/-- A candidate is one of the captures before the loop that has not been evicted. -/
theorem not_gone_of_evictable {candidate : CaptureRow}
    (member : candidate ∈ evictRows gone kept.captures) (evictable : candidate.evictable = true) :
    candidate ∈ kept.captures ∧ candidate ∉ gone := by
  obtain ⟨original, stored, same⟩ := List.mem_map.mp member
  by_cases chosen : original ∈ gone
  · rw [if_pos chosen] at same
    subst same
    exact absurd evictable (by simp)
  · rw [if_neg chosen] at same
    subst same
    exact ⟨stored, chosen⟩

/-- While the total is too large, evicting the first of the queue keeps the invariant.

The running total is lowered by the bytes of the candidate, which do not saturate since all
bytes together fit. -/
theorem Evicting.step {candidate : CaptureRow} {rest : List CaptureRow}
    (evicting : Evicting kept maxTotal gone eviction)
    (unique : Tables.Unique CaptureRow.requestId kept.captures)
    (fits : bodyBytes kept.captures ≤ i64Max)
    (queue : Queue (evictRows gone kept.captures) (candidate :: rest))
    (above : ¬ eviction.total ≤ maxTotal) :
    Evicting kept maxTotal (gone ++ [candidate]) (eviction.evict candidate) := by
  obtain ⟨stored, evictable⟩ := queue.evictable candidate List.mem_cons_self
  obtain ⟨inKept, remains⟩ := not_gone_of_evictable stored evictable
  have table := evictRows_append gone unique inKept
  have total := bodyBytes_evictRows_append (List.Nodup.of_map _ unique) inKept remains
  have shrinks := bodyBytes_evictRows_le gone kept.captures
  refine ⟨?_, ?_, ?_, ?_, ?_, ?_, ?_⟩
  · simp only [Eviction.evict, Database.evictBody, evicting.table, table]
  · change saturateI64 (eviction.total - candidate.bytes) = _
    rw [evicting.total, saturateI64]
    omega
  · simp only [Eviction.evict, evicting.counted, List.length_append, List.length_singleton]
  · exact List.nodup_append.mpr ⟨evicting.distinct, List.nodup_singleton _, by
      intro row inGone other inSingle same
      rw [List.mem_singleton.mp inSingle] at same
      exact remains (same ▸ inGone)⟩
  · intro row member
    rcases List.mem_append.mp member with earlier | last
    · exact evicting.taken row earlier
    · obtain rfl := List.mem_singleton.mp last
      exact ⟨inKept, evictable⟩
  · intro row member rowEvictable earlier inGone
    rw [← table] at member
    obtain ⟨before, _⟩ := evictable_after member rowEvictable
    rcases List.mem_append.mp inGone with old | last
    · exact evicting.oldest row before rowEvictable earlier old
    · rw [List.mem_singleton.mp last]
      exact queue.older before rowEvictable
  · intro _
    rw [List.dropLast_concat, ← evicting.total]
    omega

/-- The inner loop evicts the front of its queue, at least one capture of it.

By induction on the queue: after each eviction the rest is a queue of the new table, and the
loop stops or the total is still too large. -/
theorem Evicting.evictBatch (evicting : Evicting kept maxTotal gone eviction)
    (unique : Tables.Unique CaptureRow.requestId kept.captures)
    (fits : bodyBytes kept.captures ≤ i64Max) {queue : List CaptureRow}
    (waiting : Queue (evictRows gone kept.captures) queue)
    (above : ¬ eviction.total ≤ maxTotal) :
    ∃ more, (queue ≠ [] → more ≠ []) ∧
      Evicting kept maxTotal (gone ++ more) (eviction.evictBatch maxTotal queue) := by
  induction queue generalizing gone eviction with
  | nil => exact ⟨[], id, by rwa [List.append_nil]⟩
  | cons candidate rest inductionHypothesis =>
    have next := evicting.step unique fits waiting above
    by_cases enough : (eviction.evict candidate).total ≤ maxTotal
    · refine ⟨[candidate], by simp, ?_⟩
      simpa only [Eviction.evictBatch, enough, if_true] using next
    · have stored := (waiting.evictable candidate List.mem_cons_self).1
      have inKept := (not_gone_of_evictable stored
        (waiting.evictable candidate List.mem_cons_self).2).1
      obtain ⟨more, _, batch⟩ := inductionHypothesis next
        (evictRows_append gone unique inKept ▸ waiting.step) enough
      refine ⟨candidate :: more, by simp, ?_⟩
      simp only [Eviction.evictBatch, enough, if_false]
      rwa [List.append_assoc] at batch

/-- With a total that is too large there is a body to evict, as only rows with a body weigh
anything. -/
theorem exists_evictable (nulls : NullEvicted kept.captures) (nonnegative : 0 ≤ maxTotal)
    (evicting : Evicting kept maxTotal gone eviction) (above : ¬ eviction.total ≤ maxTotal) :
    ∃ row ∈ evictRows gone kept.captures, row.evictable = true := by
  by_contra nothing
  have empty : bodyBytes (evictRows gone kept.captures) = 0 := by
    refine List.sum_eq_zero fun bytes member => ?_
    obtain ⟨row, stored, rfl⟩ := List.mem_map.mp member
    refine bytes_eq_zero_of_not_evictable (nulls.evictRows gone) stored ?_
    by_contra evictable
    exact nothing ⟨row, stored, by simpa using evictable⟩
  have total := evicting.total
  omega

/-- With a total that is too large the query returns candidates. -/
theorem Evicting.candidateRows_ne_nil (order : CaptureOrder) (nulls : NullEvicted kept.captures)
    (nonnegative : 0 ≤ maxTotal) (evicting : Evicting kept maxTotal gone eviction)
    (above : ¬ eviction.total ≤ maxTotal) :
    (Backend.sqlite order).candidateRows eviction.db ≠ [] := by
  intro none
  obtain ⟨row, stored, evictable⟩ := exists_evictable nulls nonnegative evicting above
  have inTable : row ∈ eviction.db.captures := by rwa [evicting.table]
  have settled := ((Backend.sqlite order).candidateRows_eq_nil_iff eviction.db).mp none row inTable
  exact absurd evictable (by simp [settled])

/-- Every length fits where the total of all bytes did, since eviction makes no row longer. -/
theorem Evicting.bytes_le (fits : bodyBytes kept.captures ≤ i64Max)
    (evicting : Evicting kept maxTotal gone eviction) :
    ∀ row ∈ eviction.db.captures, row.bytes ≤ SqlInteger.int8.max := by
  rw [evicting.table]
  intro row stored
  have part : row.bytes ≤ bodyBytes (evictRows gone kept.captures) :=
    List.single_le_sum (by simp) _ (List.mem_map_of_mem stored)
  exact part.trans ((bodyBytes_evictRows_le gone kept.captures).trans fits)

/-- No more captures are gone than there were. -/
theorem length_gone_le (evicting : Evicting kept maxTotal gone eviction) :
    gone.length ≤ kept.captures.length :=
  (List.subperm_of_subset evicting.distinct fun row member =>
    (evicting.taken row member).1).length_le

/-- The outer loop ends with a total that fits, and enough iterations all end alike. Each
batch makes the list of evicted captures longer, and it is never longer than the table. -/
theorem Evicting.evictCaptureBodies (order : CaptureOrder) (nonnegative : 0 ≤ maxTotal)
    (unique : Tables.Unique CaptureRow.requestId kept.captures)
    (fits : bodyBytes kept.captures ≤ i64Max) (nulls : NullEvicted kept.captures)
    (evicting : Evicting kept maxTotal gone eviction) :
    ∃ final evicted, Evicting kept maxTotal evicted final ∧ final.total ≤ maxTotal ∧
      ∀ fuel, kept.captures.length < fuel + gone.length →
        (Backend.sqlite order).evictCaptureBodies maxTotal fuel eviction = .ok final := by
  generalize left : kept.captures.length - gone.length = remaining
  induction remaining using Nat.strong_induction_on generalizing gone eviction with
  | h remaining inductionHypothesis =>
    have bounded := length_gone_le evicting
    by_cases enough : eviction.total ≤ maxTotal
    · refine ⟨eviction, gone, evicting, enough, ?_⟩
      intro fuel plenty
      cases fuel with
      | zero => omega
      | succ fuel => rw [Backend.evictCaptureBodies, if_pos enough]
    · have captures : eviction.db.captures = evictRows gone kept.captures := by
        rw [evicting.table]
      have waiting := queue_candidateRows order eviction.db
        (captures ▸ unique_evictRows unique gone)
      have some := evicting.candidateRows_ne_nil order nulls nonnegative enough
      obtain ⟨more, progress, next⟩ :=
        evicting.evictBatch unique fits (captures ▸ waiting) enough
      have longer : 0 < more.length := List.length_pos_iff.mpr (progress some)
      have boundedNext := length_gone_le next
      rw [List.length_append] at boundedNext
      obtain ⟨final, evicted, done, small, loops⟩ := inductionHypothesis
        (kept.captures.length - (gone ++ more).length)
        (by rw [List.length_append]; omega) next rfl
      refine ⟨final, evicted, done, small, ?_⟩
      intro fuel plenty
      cases fuel with
      | zero => omega
      | succ fuel =>
        rw [Backend.evictCaptureBodies, if_neg enough,
          (Backend.sqlite order).evictionCandidates_eq eviction.db (evicting.bytes_le fits)]
        simp only [List.isEmpty_map, List.isEmpty_iff, some, if_false,
          Backend.evictBatch_sqlite, bind, Except.bind]
        refine loops fuel ?_
        rw [List.length_append]
        omega

end Loop

/-! ## The whole run -/

/-- The bodies add up to a 64-bit integer. A database file of SQLite is far too small for
more, and its `SUM` fails on more. -/
def WithinSqlite (db : Database) : Prop := db.totalCaptureBytes < 2 ^ 63

/-- The store that a retention run leaves, with the captures it evicted in their order. -/
structure RetentionLeaves (db : Database) (cutoff : Int) (maxTotal : Nat) (final : Database)
    (evicted : List CaptureRow) : Prop where
  requests : final.requests = db.requests.filter fun row => decide (cutoff ≤ row.createdAtMs)
  requestHeaders : final.requestHeaders =
    db.requestHeaders.filter fun row => decide (row.requestId ∈ final.requestIds)
  responseHeaders : final.responseHeaders =
    db.responseHeaders.filter fun row => decide (row.requestId ∈ final.requestIds)
  pluginDecisions : final.pluginDecisions =
    db.pluginDecisions.filter fun row => decide (row.requestId ∈ final.requestIds)
  replayRuns : final.replayRuns =
    db.replayRuns.filter fun row => decide (row.originalRequestId ∈ final.requestIds)
  captures : final.captures =
    (db.captures.filter fun row => decide (row.requestId ∈ final.requestIds)).map fun row =>
      if row ∈ evicted then
        { row with requestBody := none, responseBody := none, bodyEvicted := true }
      else row
  chosen : ∀ row ∈ evicted, row ∈ db.captures ∧ row.requestId ∈ final.requestIds ∧
    row.bodyEvicted = false ∧ row.keepsBody = true
  distinct : evicted.Nodup
  bounded : bodyBytes final.captures ≤ maxTotal
  oldest : ∀ row ∈ final.captures, row.keepsBody = true →
    ∀ earlier ∈ evicted, earlier.createdAtMs ≤ row.createdAtMs
  needed : ∀ before last, evicted = before ++ [last] →
    maxTotal < bodyBytes (evictRows before
      (db.captures.filter fun row => decide (row.requestId ∈ final.requestIds)))

/-- A row that keeps a body can be evicted: what is marked as evicted has none left. -/
theorem evictable_of_keepsBody {rows : List CaptureRow} (nulls : NullEvicted rows)
    {row : CaptureRow} (member : row ∈ rows) (keeps : row.keepsBody = true) :
    row.evictable = true := by
  have fresh : row.bodyEvicted = false := by
    by_contra marked
    obtain ⟨request, response⟩ := nulls row member (by simpa using marked)
    simp [CaptureRow.keepsBody, request, response] at keeps
  simp only [CaptureRow.evictable, fresh, Bool.not_false, Bool.true_and]
  exact keeps

section Run

variable {db : Database} {cutoff : Int}

/-- The requests that are left are those not older than the cutoff. -/
theorem unexpired_requests :
    (db.unexpired cutoff).requests =
      db.requests.filter fun row => decide (cutoff ≤ row.createdAtMs) := by
  refine List.filter_congr fun row _ => ?_
  by_cases expired : row.createdAtMs < cutoff
  · simp [expired]
  · simp [expired, Int.not_lt.mp expired]

/-- A table of children after the deletion of the expired requests: the rows whose request is
left. -/
theorem unexpired_children {Row : Type} {ref : Row → String} {rows : List Row}
    (valid : db.Valid) (owned : Tables.References ref db.requestIds rows) :
    (rows.filter fun row => decide (ref row ∉ (db.requests.filter fun row =>
        decide (row.createdAtMs < cutoff)).map RequestInsert.requestId)) =
      rows.filter fun row => decide (ref row ∈ (db.unexpired cutoff).requestIds) :=
  Tables.filter_cascade_eq valid.requestKeys owned _

/-- The end of the loop, told of the store before the run.

The expired requests are gone with their children, and of the captures that are left those taken
by the loop have lost their bodies. -/
theorem Evicting.leaves {maxTotal : Nat} {final : Eviction} {evicted : List CaptureRow}
    (valid : db.Valid) (nulls : NullEvicted db.captures)
    (fits : bodyBytes (db.unexpired cutoff).captures ≤ i64Max)
    (evicting : Evicting (db.unexpired cutoff) (min maxTotal i64Max : Nat) evicted final)
    (small : final.total ≤ (min maxTotal i64Max : Nat)) :
    RetentionLeaves db cutoff maxTotal final.db evicted := by
  have captures : (db.unexpired cutoff).captures =
      db.captures.filter fun row => decide (row.requestId ∈ (db.unexpired cutoff).requestIds) :=
    unexpired_children valid valid.captureOwners
  have ids : final.db.requestIds = (db.unexpired cutoff).requestIds := by
    rw [evicting.table]
    rfl
  have nullsKept : NullEvicted (db.unexpired cutoff).captures :=
    fun row member => nulls row (List.mem_filter.mp member).1
  have total := evicting.total
  rw [captures] at total
  have evictedCaptures : final.db.captures = evictRows evicted (db.unexpired cutoff).captures := by
    rw [evicting.table]
  refine ⟨?_, ?_, ?_, ?_, ?_, ?_, ?_, evicting.distinct, ?_, ?_, ?_⟩
  · rw [evicting.table]
    exact unexpired_requests
  · rw [ids, evicting.table]
    exact unexpired_children valid valid.requestHeaderOwners
  · rw [ids, evicting.table]
    exact unexpired_children valid valid.responseHeaderOwners
  · rw [ids, evicting.table]
    exact unexpired_children valid valid.decisionOwners
  · rw [ids, evicting.table]
    exact unexpired_children valid valid.replayOwners
  · rw [ids, evictedCaptures, captures]
    rfl
  · intro row member
    obtain ⟨stored, evictable⟩ := evicting.taken row member
    have kept := stored
    rw [captures, List.mem_filter] at kept
    simp only [CaptureRow.evictable, Bool.and_eq_true, Bool.not_eq_true'] at evictable
    exact ⟨kept.1, ids ▸ of_decide_eq_true kept.2, evictable.1, evictable.2⟩
  · rw [evictedCaptures, captures]
    omega
  · intro row member keeps
    rw [evictedCaptures] at member
    exact evicting.oldest row member
      (evictable_of_keepsBody (nullsKept.evictRows evicted) member keeps)
  · rintro before last rfl
    have above := evicting.needed (by simp)
    have shrinks := bodyBytes_evictRows_le before (db.unexpired cutoff).captures
    rw [List.dropLast_concat] at above
    rw [ids, ← captures]
    omega

end Run

/-- On a store whose evicted captures have no bodies, retention ends: the loop stops with a
total that fits, however many iterations it is given beyond one for each capture. It leaves
the store described by `RetentionLeaves`, and it counts the requests it deleted and the captures it
evicted. -/
theorem runRetention_result (order : CaptureOrder) (store : Store) (cutoff : Int)
    (maxTotal : Nat) (nulls : NullEvicted store.val.captures)
    (within : WithinSqlite (store.val.unexpired cutoff)) :
    ∃ final evicted,
      (Backend.sqlite order).runRetention store.val cutoff maxTotal =
        .ok (final, ⟨(store.val.requests.filter fun row =>
          decide (row.createdAtMs < cutoff)).length, evicted.length⟩) ∧
      RetentionLeaves store.val cutoff maxTotal final evicted ∧
      ∃ total : Int, total ≤ (min maxTotal i64Max : Nat) ∧
        ∀ fuel, (store.val.unexpired cutoff).captures.length < fuel →
          (Backend.sqlite order).evictCaptureBodies (min maxTotal i64Max : Nat) fuel
            ⟨store.val.unexpired cutoff, (store.val.unexpired cutoff).totalCaptureBytes, 0⟩ =
          .ok ⟨final, total, evicted.length⟩ := by
  have fits : bodyBytes (store.val.unexpired cutoff).captures ≤ i64Max := by
    change (store.val.unexpired cutoff).totalCaptureBytes ≤ 2 ^ 63 - 1
    unfold WithinSqlite at within
    omega
  have kept : (store.val.unexpired cutoff).Valid := store.property.deleteRequests _
  have nullsKept : NullEvicted (store.val.unexpired cutoff).captures :=
    fun row member => nulls row (List.mem_filter.mp member).1
  obtain ⟨⟨final, total, count⟩, evicted, evicting, small, loops⟩ :=
    (evicting_start (store.val.unexpired cutoff) (min maxTotal i64Max : Nat)).evictCaptureBodies
      order (Int.natCast_nonneg _) kept.captureKeys fits nullsKept
  obtain rfl : count = evicted.length := evicting.counted
  refine ⟨final, evicted, ?_, evicting.leaves store.property nulls fits small, total, small, ?_⟩
  · have known := ((Backend.sqlite order).totalCaptureBytes_eq_ok
      (store.val.unexpired cutoff) _).mpr ⟨fun row member =>
        (List.single_le_sum (by simp) _ (List.mem_map_of_mem member)).trans fits, fits, rfl⟩
    have loop := loops ((store.val.unexpired cutoff).captures.length + 1) (by simp)
    simp only [Backend.runRetention, known, loop, bind, Except.bind, pure, Except.pure,
      Database.expiredCount]
  · intro fuel plenty
    exact loops fuel plenty

/-! Two captures of which the older one has to go, and an expired request. -/

def agedRequest (requestId : String) (createdAtMs : Int) : RequestInsert :=
  { sampleRecord with requestId := requestId, createdAtMs := createdAtMs }

def agedCapture (requestId : String) (createdAtMs : Int) : CaptureRow :=
  ⟨requestId, none, none, some [1, 2], none, false, false, none, none, false, createdAtMs⟩

def agedDatabase : Database :=
  { Database.empty with
    requests := [agedRequest "new" 3000, agedRequest "old" 2000, agedRequest "gone" 100]
    captures := [agedCapture "new" 3000, agedCapture "old" 2000, agedCapture "gone" 100] }

/-- The sample database keeps its keys and references. -/
theorem agedDatabase_valid : agedDatabase.Valid := by
  constructor <;> simp [agedDatabase, agedRequest, agedCapture, Database.empty,
    Database.requestIds, Tables.Unique, Tables.References]

/-- One request is too old and one capture too heavy: one is deleted and one evicted. -/
theorem runRetention_result_aged :
    ((Backend.sqlite insertionOrder).runRetention agedDatabase 1000 3).map Prod.snd =
        .ok ⟨1, 1⟩ ∧
      ∃ final evicted, (Backend.sqlite insertionOrder).runRetention agedDatabase 1000 3 =
          .ok (final, ⟨1, evicted.length⟩) ∧
        RetentionLeaves agedDatabase 1000 3 final evicted := by
  obtain ⟨final, evicted, completed, retained, _⟩ := runRetention_result insertionOrder
    ⟨agedDatabase, agedDatabase_valid⟩ 1000 3 (by decide)
    (show (agedDatabase.unexpired 1000).totalCaptureBytes < 2 ^ 63 by decide)
  exact ⟨by decide +kernel, final, evicted, completed, retained⟩

end TraceGate
