import Mathlib.Algebra.Order.BigOperators.Group.List
import Mathlib.Data.List.Sort
import TraceGate.Store

/-!
# Retention on two databases

The retention code stands in the source once for each database, with the same SQL but for
its placeholders. Its integers have other types there: the length of a capture is a
64-bit integer in SQLite and a 32-bit one in PostgreSQL, where their sum over all rows is
a 64-bit one. The loop reads a candidate's length as a 64-bit integer, and a row whose
column has another type answers such a read with a panic.

So PostgreSQL completes, and then agrees with SQLite, exactly when there is nothing to
evict: within the limits of its types, either the total is small enough after the deletion
of expired requests, or no body is left. The order among captures of the same age is the
database's own.
-/

namespace TraceGate

/-- The integer types of a database. -/
inductive SqlInteger where
  | int4
  | int8
deriving DecidableEq

/-- The largest value of the type. -/
def SqlInteger.max : SqlInteger → Nat
  | .int4 => 2 ^ 31 - 1
  | .int8 => 2 ^ 63 - 1

/-- An expression of this type; a value that does not fit is an error of its statement. -/
def SqlInteger.evaluate (type : SqlInteger) (value : Nat) : Except String Nat :=
  if value ≤ type.max then .ok value else .error "integer out of range"

/-- `Row::get::<i64>` on a column of this type; none stands for its panic. -/
def SqlInteger.getI64 : SqlInteger → Nat → Option Nat
  | .int4, _ => none
  | .int8, value => some value

/-- A database: the type it gives to a capture's length, and the order it returns. -/
structure Backend where
  length : SqlInteger
  order : CaptureOrder

def Backend.sqlite (order : CaptureOrder) : Backend := ⟨.int8, order⟩

def Backend.postgres (order : CaptureOrder) : Backend := ⟨.int4, order⟩

/-- How retention ends early. -/
inductive RetentionFault where
  | failed (err : String)
  | panicked
deriving DecidableEq

/-- A computation on the database that may end early, with what it has committed. -/
abbrev Retaining (Result : Type) := Except (Database × RetentionFault) Result

/-- What is left once the expired requests are deleted. -/
def Database.unexpired (db : Database) (cutoff : Int) : Database :=
  db.deleteRequests fun row => decide (row.createdAtMs < cutoff)

/-- The number of expired requests. -/
def Database.expiredCount (db : Database) (cutoff : Int) : Nat :=
  (db.requests.filter fun row => decide (row.createdAtMs < cutoff)).length

namespace Backend

variable (backend : Backend)

/-- Read rows with the length of their bodies. -/
def select {Result : Type} (read : CaptureRow → Nat → Result) (rows : List CaptureRow) :
    Except String (List Result) :=
  rows.mapM fun row => do
    let bytes ← backend.length.evaluate row.bytes
    return read row bytes

/-- `TOTAL_CAPTURE_BYTES`, whose sum is a 64-bit integer in both. -/
def totalCaptureBytes (db : Database) : Except String Nat := do
  let lengths ← backend.select (fun _ bytes => bytes) db.captures
  SqlInteger.int8.evaluate lengths.sum

/-- `EVICTION_CANDIDATES`. -/
def evictionCandidates (db : Database) : Except String (List (String × Nat)) :=
  backend.select (fun row bytes => (row.requestId, bytes))
    ((backend.order.sort (db.captures.filter CaptureRow.evictable)).take 100)

/-- The inner loop. -/
def evictBatch (maxTotal : Int) : List (String × Nat) → Eviction → Retaining Eviction
  | [], eviction => .ok eviction
  | (requestId, column) :: rest, eviction =>
      match backend.length.getI64 column with
      | none => .error (eviction.db, .panicked)
      | some bytes =>
          let eviction : Eviction :=
            { db := eviction.db.evictBody requestId
              total := saturateI64 (eviction.total - bytes)
              evictedCaptures := eviction.evictedCaptures + 1 }
          if eviction.total ≤ maxTotal then .ok eviction else evictBatch maxTotal rest eviction

/-- `evict_capture_bodies`, with a bound on its iterations. -/
def evictCaptureBodies (maxTotal : Int) : Nat → Eviction → Retaining Eviction
  | 0, eviction => .ok eviction
  | fuel + 1, eviction =>
      if eviction.total ≤ maxTotal then .ok eviction
      else
        match backend.evictionCandidates eviction.db with
        | .error err => .error (eviction.db, .failed err)
        | .ok candidates =>
            if candidates.isEmpty then .ok eviction
            else do
              let eviction ← backend.evictBatch maxTotal candidates eviction
              evictCaptureBodies maxTotal fuel eviction

/-- `run_retention`: each statement commits by itself, so a fault leaves what was done. -/
def runRetention (db : Database) (cutoff : Int) (maxTotalCaptureBytes : Nat) :
    Retaining (Database × RetentionOutcome) :=
  let kept := db.unexpired cutoff
  match backend.totalCaptureBytes kept with
  | .error err => .error (kept, .failed err)
  | .ok total => do
      let eviction ← backend.evictCaptureBodies (min maxTotalCaptureBytes i64Max : Nat)
        (kept.captures.length + 1) ⟨kept, total, 0⟩
      return (eviction.db, ⟨db.expiredCount cutoff, eviction.evictedCaptures⟩)

end Backend

/-! ## The statements -/

/-- A value is known in an integer type exactly when it fits. -/
theorem SqlInteger.evaluate_eq_ok (type : SqlInteger) (value result : Nat) :
    type.evaluate value = .ok result ↔ value ≤ type.max ∧ result = value := by
  unfold SqlInteger.evaluate
  split
  next fits => simp [fits, eq_comm]
  next large => simp [large]

namespace Backend

variable (backend : Backend)

/-- A statement over rows succeeds exactly when each length fits.

By induction on the rows. -/
theorem select_eq_ok {Result : Type} (read : CaptureRow → Nat → Result)
    (rows : List CaptureRow) (results : List Result) :
    backend.select read rows = .ok results ↔
      (∀ row ∈ rows, row.bytes ≤ backend.length.max) ∧
        results = rows.map fun row => read row row.bytes := by
  unfold select
  induction rows generalizing results with
  | nil => simp [pure, Except.pure, eq_comm]
  | cons row rest inductionHypothesis =>
    rw [List.mapM_cons]
    simp only [bind_ok_iff, SqlInteger.evaluate_eq_ok, inductionHypothesis]
    simp only [pure, Except.pure, Except.ok.injEq, List.forall_mem_cons, List.map_cons]
    constructor
    · rintro ⟨_, ⟨bytes, ⟨fits, rfl⟩, rfl⟩, others, ⟨restFits, rfl⟩, rfl⟩
      exact ⟨⟨fits, restFits⟩, rfl⟩
    · rintro ⟨⟨fits, restFits⟩, rfl⟩
      exact ⟨_, ⟨_, ⟨fits, rfl⟩, rfl⟩, _, ⟨restFits, rfl⟩, rfl⟩

/-- The total is known exactly when every length and the sum fit. -/
theorem totalCaptureBytes_eq_ok (db : Database) (total : Nat) :
    backend.totalCaptureBytes db = .ok total ↔
      (∀ row ∈ db.captures, row.bytes ≤ backend.length.max) ∧
        db.totalCaptureBytes ≤ SqlInteger.int8.max ∧ total = db.totalCaptureBytes := by
  simp only [totalCaptureBytes, bind_ok_iff, select_eq_ok, SqlInteger.evaluate_eq_ok]
  constructor
  · rintro ⟨_, ⟨fits, rfl⟩, sumFits, rfl⟩
    exact ⟨fits, sumFits, rfl⟩
  · rintro ⟨fits, sumFits, rfl⟩
    exact ⟨_, ⟨fits, rfl⟩, sumFits, rfl⟩

/-- The rows among which candidates are read. -/
def candidateRows (db : Database) : List CaptureRow :=
  (backend.order.sort (db.captures.filter CaptureRow.evictable)).take 100

/-- Candidates are captures of the table. -/
theorem mem_captures_of_candidate (db : Database) (row : CaptureRow)
    (member : row ∈ backend.candidateRows db) : row ∈ db.captures := by
  have sorted := (backend.order.mem_sort _).mp (List.mem_of_mem_take member)
  exact (List.mem_filter.mp sorted).1

/-- When every length fits the candidates are known. -/
theorem evictionCandidates_eq (db : Database)
    (fits : ∀ row ∈ db.captures, row.bytes ≤ backend.length.max) :
    backend.evictionCandidates db =
      .ok ((backend.candidateRows db).map fun row => (row.requestId, row.bytes)) := by
  refine (backend.select_eq_ok _ _ _).mpr ⟨fun row member => fits row ?_, rfl⟩
  exact backend.mem_captures_of_candidate db row member

/-- There are candidates as long as there is a body to evict. -/
theorem candidateRows_eq_nil_iff (db : Database) :
    backend.candidateRows db = [] ↔ ∀ row ∈ db.captures, row.evictable = false := by
  have short : backend.candidateRows db = [] ↔
      backend.order.sort (db.captures.filter CaptureRow.evictable) = [] := by
    simp only [candidateRows, List.take_eq_nil_iff, OfNat.ofNat_ne_zero, false_or]
  rw [short, Ordering.Sorting.sort_eq_nil_iff, List.filter_eq_nil_iff]
  simp

/-! ## The loop -/

/-- With nothing to evict the loop leaves its variables as they are. -/
theorem evictCaptureBodies_idle (maxTotal : Int) (fuel : Nat) (eviction : Eviction)
    (fits : ∀ row ∈ eviction.db.captures, row.bytes ≤ backend.length.max)
    (idle : eviction.total ≤ maxTotal ∨ ∀ row ∈ eviction.db.captures, row.evictable = false) :
    backend.evictCaptureBodies maxTotal (fuel + 1) eviction = .ok eviction := by
  rw [evictCaptureBodies]
  split
  · rfl
  next above =>
    have none := (backend.candidateRows_eq_nil_iff eviction.db).mpr (idle.resolve_left above)
    rw [backend.evictionCandidates_eq eviction.db fits, none]
    rfl

/-- A candidate whose length is a 32-bit integer cannot be read, so the loop ends at the first
one. -/
theorem evictCaptureBodies_panics (narrow : backend.length = .int4) (maxTotal : Int) (fuel : Nat)
    (eviction : Eviction)
    (fits : ∀ row ∈ eviction.db.captures, row.bytes ≤ backend.length.max)
    (above : ¬eviction.total ≤ maxTotal)
    (evictable : ¬∀ row ∈ eviction.db.captures, row.evictable = false) :
    backend.evictCaptureBodies maxTotal (fuel + 1) eviction = .error (eviction.db, .panicked) := by
  rw [evictCaptureBodies, if_neg above, backend.evictionCandidates_eq eviction.db fits]
  rw [← backend.candidateRows_eq_nil_iff] at evictable
  cases rows : backend.candidateRows eviction.db with
  | nil => exact absurd rows evictable
  | cons row rest => simp [evictBatch, narrow, SqlInteger.getI64, bind, Except.bind]

/-- A loop that starts with known lengths and nothing to evict completes. -/
theorem runRetention_idle (db : Database) (cutoff : Int) (maxTotal : Nat)
    (fits : ∀ row ∈ (db.unexpired cutoff).captures, row.bytes ≤ backend.length.max)
    (sumFits : (db.unexpired cutoff).totalCaptureBytes ≤ SqlInteger.int8.max)
    (idle : (db.unexpired cutoff).totalCaptureBytes ≤ maxTotal ∨
      ∀ row ∈ (db.unexpired cutoff).captures, row.evictable = false) :
    backend.runRetention db cutoff maxTotal =
      .ok (db.unexpired cutoff, ⟨db.expiredCount cutoff, 0⟩) := by
  have known := (backend.totalCaptureBytes_eq_ok (db.unexpired cutoff) _).mpr
    ⟨fits, sumFits, rfl⟩
  have total : ((db.unexpired cutoff).totalCaptureBytes : Int) ≤ (min maxTotal i64Max : Nat) ∨
      ∀ row ∈ (db.unexpired cutoff).captures, row.evictable = false := by
    refine idle.imp_left fun within => ?_
    have small : (db.unexpired cutoff).totalCaptureBytes ≤ i64Max := sumFits
    omega
  have done := backend.evictCaptureBodies_idle _ (db.unexpired cutoff).captures.length
    ⟨db.unexpired cutoff, (db.unexpired cutoff).totalCaptureBytes, 0⟩ fits total
  simp only [runRetention, known, done, bind, Except.bind, pure, Except.pure]

/-- Retention completes on a database with 32-bit lengths only with nothing to evict.

Were there a body to evict and a total that is too large, the first candidate would panic. -/
theorem idle_of_completed (narrow : backend.length = .int4) (db : Database) (cutoff : Int)
    (maxTotal : Nat) (result : Database × RetentionOutcome)
    (completed : backend.runRetention db cutoff maxTotal = .ok result) :
    (∀ row ∈ (db.unexpired cutoff).captures, row.bytes ≤ SqlInteger.int4.max) ∧
      (db.unexpired cutoff).totalCaptureBytes ≤ SqlInteger.int8.max ∧
      ((db.unexpired cutoff).totalCaptureBytes ≤ maxTotal ∨
        ∀ row ∈ (db.unexpired cutoff).captures, row.evictable = false) := by
  unfold runRetention at completed
  cases known : backend.totalCaptureBytes (db.unexpired cutoff) with
  | error err => simp [known] at completed
  | ok total =>
    obtain ⟨fits, sumFits, rfl⟩ := (backend.totalCaptureBytes_eq_ok _ _).mp known
    refine ⟨narrow ▸ fits, sumFits, ?_⟩
    by_contra busy
    obtain ⟨above, evictable⟩ := not_or.mp busy
    have exceeds : ¬((db.unexpired cutoff).totalCaptureBytes : Int) ≤
        (min maxTotal i64Max : Nat) := by omega
    have panics := backend.evictCaptureBodies_panics narrow _
      (db.unexpired cutoff).captures.length
      ⟨db.unexpired cutoff, (db.unexpired cutoff).totalCaptureBytes, 0⟩ fits exceeds evictable
    simp only [known, panics, bind, Except.bind, reduceCtorEq] at completed

end Backend

/-! ## The wide database is the store's model -/

namespace Backend

/-- With 64-bit lengths the inner loop is the one of the model without failures. -/
theorem evictBatch_sqlite (order : CaptureOrder) (maxTotal : Int) (rows : List CaptureRow)
    (eviction : Eviction) :
    (sqlite order).evictBatch maxTotal (rows.map fun row => (row.requestId, row.bytes)) eviction =
      .ok (eviction.evictBatch maxTotal rows) := by
  induction rows generalizing eviction with
  | nil => rfl
  | cons row rest inductionHypothesis =>
    change (if (eviction.evict row).total ≤ maxTotal then .ok (eviction.evict row)
      else (sqlite order).evictBatch maxTotal (rest.map fun row => (row.requestId, row.bytes))
        (eviction.evict row)) = _
    by_cases enough : (eviction.evict row).total ≤ maxTotal
    · simp only [enough, if_true, Eviction.evictBatch]
    · simp only [enough, if_false, Eviction.evictBatch, inductionHypothesis]

/-- Evicting makes no capture longer. -/
theorem bytes_le_of_evicts {before after : Database} (evicts : Eviction.Evicts before after)
    (bound : Nat) (fits : ∀ row ∈ before.captures, row.bytes ≤ bound) :
    ∀ row ∈ after.captures, row.bytes ≤ bound := by
  obtain ⟨change, evicted, rfl⟩ := evicts
  intro row member
  obtain ⟨original, stored, rfl⟩ := List.mem_map.mp member
  rcases evicted original with same | gone
  · rw [same]
    exact fits original stored
  · rw [gone]
    exact Nat.zero_le _

/-- With 64-bit lengths that fit, the loop is the one of the model without failures.

By induction on the fuel: the lengths fit in every table that the loop reaches. -/
theorem evictCaptureBodies_sqlite (order : CaptureOrder) (maxTotal : Int) (fuel : Nat)
    (eviction : Eviction)
    (fits : ∀ row ∈ eviction.db.captures, row.bytes ≤ SqlInteger.int8.max) :
    (sqlite order).evictCaptureBodies maxTotal fuel eviction =
      .ok (eviction.evictBodies order maxTotal fuel) := by
  induction fuel generalizing eviction with
  | zero => rfl
  | succ fuel inductionHypothesis =>
    have rows : (sqlite order).candidateRows eviction.db =
        eviction.db.evictionCandidates order := rfl
    rw [evictCaptureBodies, Eviction.evictBodies,
      (sqlite order).evictionCandidates_eq eviction.db fits, rows]
    simp only [List.isEmpty_map]
    split
    · rfl
    · split
      · rfl
      · rw [evictBatch_sqlite]
        exact inductionHypothesis _ (bytes_le_of_evicts
          (Eviction.evictBatch_evicts maxTotal _ eviction) _ fits)

/-- With 64-bit lengths retention completes and is the store's `runRetention`, as long as
the total is a 64-bit integer. -/
theorem runRetention_sqlite (order : CaptureOrder) (db : Database) (cutoff : Int)
    (maxTotal : Nat)
    (sumFits : (db.unexpired cutoff).totalCaptureBytes ≤ SqlInteger.int8.max) :
    (sqlite order).runRetention db cutoff maxTotal =
      .ok (db.runRetention order cutoff maxTotal) := by
  have fits : ∀ row ∈ (db.unexpired cutoff).captures, row.bytes ≤ SqlInteger.int8.max := by
    intro row member
    exact (List.single_le_sum (by simp) _ (List.mem_map_of_mem member)).trans sumFits
  have known := ((sqlite order).totalCaptureBytes_eq_ok (db.unexpired cutoff) _).mpr
    ⟨fits, sumFits, rfl⟩
  have loop := evictCaptureBodies_sqlite order (min maxTotal i64Max : Nat)
    ((db.unexpired cutoff).captures.length + 1)
    ⟨db.unexpired cutoff, (db.unexpired cutoff).totalCaptureBytes, 0⟩ fits
  simp only [runRetention, known, loop, bind, Except.bind]
  rfl

end Backend

/-! ## When the databases agree -/

/-- The two databases complete and agree on the store and the outcome. -/
def RetentionAgrees (sqliteOrder postgresOrder : CaptureOrder) (db : Database) (cutoff : Int)
    (maxTotal : Nat) : Prop :=
  ∃ result, (Backend.postgres postgresOrder).runRetention db cutoff maxTotal = .ok result ∧
    (Backend.sqlite sqliteOrder).runRetention db cutoff maxTotal = .ok result

/-- PostgreSQL completes, with the store and the outcome of SQLite, exactly when the
lengths of the unexpired captures and their total fit its types and there is nothing to
evict. -/
theorem retention_agrees_iff (sqliteOrder postgresOrder : CaptureOrder) (db : Database)
    (cutoff : Int) (maxTotal : Nat) :
    RetentionAgrees sqliteOrder postgresOrder db cutoff maxTotal ↔
      (∀ row ∈ (db.unexpired cutoff).captures, row.bytes < 2 ^ 31) ∧
        (db.unexpired cutoff).totalCaptureBytes < 2 ^ 63 ∧
        ((db.unexpired cutoff).totalCaptureBytes ≤ maxTotal ∨
          ∀ row ∈ (db.unexpired cutoff).captures, row.evictable = false) := by
  have narrow : ∀ bytes : Nat, bytes < 2 ^ 31 ↔ bytes ≤ SqlInteger.int4.max := by
    intro bytes
    simp only [SqlInteger.max]
    omega
  have wide : ∀ bytes : Nat, bytes < 2 ^ 63 ↔ bytes ≤ SqlInteger.int8.max := by
    intro bytes
    simp only [SqlInteger.max]
    omega
  simp only [narrow, wide]
  constructor
  · rintro ⟨result, completed, _⟩
    exact (Backend.postgres postgresOrder).idle_of_completed rfl db cutoff maxTotal result
      completed
  · rintro ⟨short, sumFits, idle⟩
    have fits : ∀ row ∈ (db.unexpired cutoff).captures,
        row.bytes ≤ (Backend.sqlite sqliteOrder).length.max := by
      intro row member
      exact (short row member).trans (by decide : SqlInteger.int4.max ≤ SqlInteger.int8.max)
    exact ⟨_, (Backend.postgres postgresOrder).runRetention_idle db cutoff maxTotal short sumFits
      idle, (Backend.sqlite sqliteOrder).runRetention_idle db cutoff maxTotal fits sumFits idle⟩

/-- A store with one captured byte. -/
def oneByte : Database :=
  { Database.empty with
    requests := [sampleRecord]
    captures := [⟨"r", none, none, some [1], none, false, false, none, none, false, 1000⟩] }

/-- One byte too many: SQLite evicts it, PostgreSQL panics at the first candidate. -/
theorem postgres_panics_on_eviction :
    oneByte.Valid ∧ (oneByte.captures.map CaptureRow.createdAtMs).Nodup ∧
      ((Backend.sqlite insertionOrder).runRetention oneByte 0 0).map Prod.snd = .ok ⟨0, 1⟩ ∧
      (Backend.postgres insertionOrder).runRetention oneByte 0 0 =
        .error (oneByte, .panicked) ∧
      ¬RetentionAgrees insertionOrder insertionOrder oneByte 0 0 := by
  have panics : (Backend.postgres insertionOrder).runRetention oneByte 0 0 =
      .error (oneByte, .panicked) := by decide +kernel
  refine ⟨?_, by decide, by decide +kernel, panics, ?_⟩
  · constructor <;> simp [oneByte, sampleRecord, Database.empty, Database.requestIds,
      Tables.Unique, Tables.References]
  rintro ⟨result, completed, _⟩
  rw [panics] at completed
  exact absurd completed (by simp)

end TraceGate
