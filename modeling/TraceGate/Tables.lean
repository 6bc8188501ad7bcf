import Mathlib.Data.List.Nodup

/-!
# Tables with keys

A table is the list of its rows in insertion order. A statement that inserts a
row is refused when the row's key is already present, or when the row refers to a
parent that does not exist; a loop of such statements succeeds exactly when the
new keys are distinct, absent from the table, and all their parents exist.
Deleting parents deletes the rows that refer to them.
-/

namespace TraceGate.Tables

variable {Row Key Ref : Type}

/-- No two rows have the same key. -/
def Unique (key : Row → Key) (rows : List Row) : Prop := (rows.map key).Nodup

/-- Every row refers to one of the parents. -/
def References (ref : Row → Ref) (parents : List Ref) (rows : List Row) : Prop :=
  ∀ row ∈ rows, ref row ∈ parents

/-- Why an insertion was refused. -/
inductive Violation where
  | unique
  | foreignKey
deriving DecidableEq

section Insertion

variable [DecidableEq Key] [DecidableEq Ref]

/-- Insert a row under a primary key. -/
def insertKeyed (key : Row → Key) (row : Row) (rows : List Row) : Except Violation (List Row) :=
  if key row ∈ rows.map key then .error .unique else .ok (rows ++ [row])

/-- Insert a row that refers to a parent. -/
def insertReferring (ref : Row → Ref) (parents : List Ref) (row : Row) (rows : List Row) :
    Except Violation (List Row) :=
  if ref row ∈ parents then .ok (rows ++ [row]) else .error .foreignKey

/-- Insert a row under a primary key that also refers to a parent. -/
def insertChild (key : Row → Key) (ref : Row → Ref) (parents : List Ref) (row : Row)
    (rows : List Row) : Except Violation (List Row) :=
  if key row ∈ rows.map key then .error .unique else insertReferring ref parents row rows

/-- A row is inserted exactly when its key is free, and comes last. -/
theorem insertKeyed_ok_iff (key : Row → Key) (row : Row) (rows result : List Row) :
    insertKeyed key row rows = .ok result ↔
      key row ∉ rows.map key ∧ result = rows ++ [row] := by
  by_cases present : key row ∈ rows.map key
  · simp only [insertKeyed, present, if_true, not_true_eq_false, false_and, reduceCtorEq]
  · simp only [insertKeyed, present, if_false, Except.ok.injEq, not_false_eq_true, true_and,
      eq_comm]

/-- A row is inserted exactly when its parent is there, and comes last. -/
theorem insertReferring_ok_iff (ref : Row → Ref) (parents : List Ref) (row : Row)
    (rows result : List Row) :
    insertReferring ref parents row rows = .ok result ↔
      ref row ∈ parents ∧ result = rows ++ [row] := by
  by_cases owned : ref row ∈ parents
  · simp only [insertReferring, owned, if_true, Except.ok.injEq, true_and, eq_comm]
  · simp only [insertReferring, owned, if_false, false_and, reduceCtorEq]

/-- A row is inserted exactly when its key is free and its parent is there, and comes last. -/
theorem insertChild_ok_iff (key : Row → Key) (ref : Row → Ref) (parents : List Ref) (row : Row)
    (rows result : List Row) :
    insertChild key ref parents row rows = .ok result ↔
      key row ∉ rows.map key ∧ ref row ∈ parents ∧ result = rows ++ [row] := by
  by_cases present : key row ∈ rows.map key
  · simp only [insertChild, present, if_true, not_true_eq_false, false_and, reduceCtorEq]
  · simp only [insertChild, present, if_false, insertReferring_ok_iff, not_false_eq_true,
      true_and]

/-- A loop of child insertions succeeds exactly when the new keys are distinct
and absent and every parent exists; it then appends the new rows in order.

Proof: follow the loop. The table after the first insertion holds its key too, so
the later keys must differ from it and from the table's. -/
theorem insertChildren_ok_iff (key : Row → Key) (ref : Row → Ref) (parents : List Ref)
    (added rows result : List Row) :
    added.foldlM (fun rows row => insertChild key ref parents row rows) rows = .ok result ↔
      Unique key added ∧ (∀ row ∈ added, key row ∉ rows.map key) ∧
        References ref parents added ∧ result = rows ++ added := by
  induction added generalizing rows with
  | nil =>
    simp [Unique, References, pure, Except.pure, eq_comm]
  | cons row rest inductionHypothesis =>
    have stepped : (row :: rest).foldlM
        (fun rows row => insertChild key ref parents row rows) rows = .ok result ↔
          ∃ next, insertChild key ref parents row rows = .ok next ∧
            rest.foldlM (fun rows row => insertChild key ref parents row rows) next =
              .ok result := by
      rw [List.foldlM_cons]
      cases insertChild key ref parents row rows with
      | error violation => simp [bind, Except.bind]
      | ok next => simp [bind, Except.bind]
    rw [stepped]
    constructor
    · rintro ⟨next, inserted, following⟩
      obtain ⟨fresh, owned, rfl⟩ := (insertChild_ok_iff _ _ _ _ _ _).mp inserted
      obtain ⟨distinct, absent, allOwned, rfl⟩ := (inductionHypothesis _).mp following
      refine ⟨?_, ?_, ?_, ?_⟩
      · refine List.nodup_cons.mpr ⟨?_, distinct⟩
        intro repeated
        obtain ⟨later, inRest, same⟩ := List.mem_map.mp repeated
        exact absent later inRest (by simp [same])
      · intro later member
        rcases List.mem_cons.mp member with rfl | inRest
        · exact fresh
        · intro present
          exact absent later inRest (by rw [List.map_append]; exact List.mem_append_left _ present)
      · exact List.forall_mem_cons.mpr ⟨owned, allOwned⟩
      · simp
    · rintro ⟨distinct, absent, allOwned, rfl⟩
      obtain ⟨first, distinctRest⟩ := List.nodup_cons.mp distinct
      obtain ⟨fresh, absentRest⟩ := List.forall_mem_cons.mp absent
      obtain ⟨owned, ownedRest⟩ := List.forall_mem_cons.mp allOwned
      refine ⟨rows ++ [row], (insertChild_ok_iff _ _ _ _ _ _).mpr ⟨fresh, owned, rfl⟩, ?_⟩
      refine (inductionHypothesis _).mpr ⟨distinctRest, ?_, ownedRest, by simp⟩
      intro later inRest present
      rw [List.map_append, List.mem_append] at present
      rcases present with old | new
      · exact absentRest later inRest old
      · exact first (List.mem_map.mpr ⟨later, inRest, List.mem_singleton.mp new⟩)

/-- A loop of insertions without a primary key succeeds exactly when every
parent exists. -/
theorem insertAllReferring_ok_iff (ref : Row → Ref) (parents : List Ref)
    (added rows result : List Row) :
    added.foldlM (fun rows row => insertReferring ref parents row rows) rows = .ok result ↔
      References ref parents added ∧ result = rows ++ added := by
  induction added generalizing rows with
  | nil => simp [References, pure, Except.pure, eq_comm]
  | cons row rest inductionHypothesis =>
    rw [List.foldlM_cons]
    by_cases owned : ref row ∈ parents
    · have inserted : insertReferring ref parents row rows = .ok (rows ++ [row]) :=
        (insertReferring_ok_iff _ _ _ _ _).mpr ⟨owned, rfl⟩
      simp only [inserted, bind, Except.bind, inductionHypothesis, References,
        List.forall_mem_cons, owned, true_and, List.append_assoc, List.singleton_append]
    · simp [insertReferring, owned, bind, Except.bind, References]

end Insertion

/-- Appending rows with distinct absent keys keeps keys unique. -/
theorem Unique.append {key : Row → Key} {rows added : List Row} (old : Unique key rows)
    (new : Unique key added) (absent : ∀ row ∈ added, key row ∉ rows.map key) :
    Unique key (rows ++ added) := by
  rw [Unique, List.map_append]
  refine List.Nodup.append old new ?_
  intro shared inRows inAdded
  obtain ⟨row, member, same⟩ := List.mem_map.mp inAdded
  exact absent row member (same ▸ inRows)

/-- Rows of one owner cannot clash with a table that holds none of its rows, when
keys determine owners. -/
theorem absent_of_owner {key : Row → Key} {ref : Row → Ref}
    (determines : ∀ first second, key first = key second → ref first = ref second)
    {rows added : List Row} {owner : Ref} (apart : ∀ row ∈ rows, ref row ≠ owner)
    (owned : ∀ row ∈ added, ref row = owner) : ∀ row ∈ added, key row ∉ rows.map key := by
  intro row member clash
  obtain ⟨other, inRows, same⟩ := List.mem_map.mp clash
  exact apart other inRows ((determines other row same).trans (owned row member))

/-- Deleting rows keeps keys unique. -/
theorem Unique.filter {key : Row → Key} {rows : List Row} (unique : Unique key rows)
    (kept : Row → Bool) : Unique key (rows.filter kept) :=
  List.Nodup.sublist (List.filter_sublist.map key) unique

/-- Changing rows without their keys keeps keys unique. -/
theorem Unique.map {key : Row → Key} {rows : List Row} (unique : Unique key rows)
    (change : Row → Row) (sameKey : ∀ row, key (change row) = key row) :
    Unique key (rows.map change) := by
  have same : key ∘ change = key := funext sameKey
  rwa [Unique, List.map_map, same]

/-- Two rows of a table with the same key are one row. -/
theorem Unique.eq_of_key_eq {key : Row → Key} {rows : List Row} (unique : Unique key rows)
    {first second : Row} (inFirst : first ∈ rows) (inSecond : second ∈ rows)
    (same : key first = key second) : first = second :=
  List.inj_on_of_nodup_map unique inFirst inSecond same

/-- More parents keep references. -/
theorem References.mono {ref : Row → Ref} {parents larger : List Ref} {rows : List Row}
    (references : References ref parents rows) (subset : parents ⊆ larger) :
    References ref larger rows :=
  fun row member => subset (references row member)

/-- More rows that refer to the parents keep references. -/
theorem References.append {ref : Row → Ref} {parents : List Ref} {rows added : List Row}
    (old : References ref parents rows) (new : References ref parents added) :
    References ref parents (rows ++ added) := by
  intro row member
  rcases List.mem_append.mp member with inRows | inAdded
  · exact old row inRows
  · exact new row inAdded

/-- Deleting parents with the rows that refer to them keeps references. -/
theorem References.cascade [DecidableEq Ref] {ref : Row → Ref} {Parent : Type}
    {name : Parent → Ref} {parents : List Parent} {rows : List Row}
    (references : References ref (parents.map name) rows) (gone : Parent → Bool) :
    References ref ((parents.filter (fun parent => !gone parent)).map name)
      (rows.filter fun row => decide (ref row ∉ (parents.filter gone).map name)) := by
  intro row member
  obtain ⟨inRows, remains⟩ := List.mem_filter.mp member
  obtain ⟨parent, inParents, same⟩ := List.mem_map.mp (references row inRows)
  have stays : gone parent = false := by
    cases deleted : gone parent with
    | false => rfl
    | true =>
      have listed : ref row ∈ (parents.filter gone).map name :=
        List.mem_map.mpr ⟨parent, List.mem_filter.mpr ⟨inParents, deleted⟩, same⟩
      exact absurd listed (of_decide_eq_true remains)
  exact List.mem_map.mpr ⟨parent, List.mem_filter.mpr ⟨inParents, by simp [stays]⟩, same⟩

/-- A cascade leaves the rows of a parent that stays. -/
theorem filter_cascade [DecidableEq Ref] (ref : Row → Ref) {gone : List Ref} {owner : Ref}
    (stays : owner ∉ gone) (rows : List Row) :
    (rows.filter fun row => decide (ref row ∉ gone)).filter (fun row => ref row = owner) =
      rows.filter fun row => ref row = owner := by
  rw [List.filter_filter]
  refine List.filter_congr fun row _ => ?_
  by_cases owned : ref row = owner
  · simp [owned, stays]
  · simp [owned]

/-- A cascade keeps exactly the rows whose parent stays.

Every row has a parent, and keys are unique, so a row's parent does not go and stay at once. -/
theorem filter_cascade_eq [DecidableEq Ref] {ref : Row → Ref} {Parent : Type}
    {name : Parent → Ref} {parents : List Parent} {rows : List Row}
    (unique : Unique name parents) (owned : References ref (parents.map name) rows)
    (gone : Parent → Bool) :
    (rows.filter fun row => decide (ref row ∉ (parents.filter gone).map name)) =
      rows.filter fun row =>
        decide (ref row ∈ (parents.filter fun parent => !gone parent).map name) := by
  refine List.filter_congr fun row member => decide_eq_decide.mpr ?_
  obtain ⟨parent, listed, same⟩ := List.mem_map.mp (owned row member)
  constructor
  · intro remains
    refine List.mem_map.mpr ⟨parent, List.mem_filter.mpr ⟨listed, ?_⟩, same⟩
    by_contra deleted
    refine remains (List.mem_map.mpr ⟨parent, List.mem_filter.mpr ⟨listed, ?_⟩, same⟩)
    simpa using deleted
  · intro stays deleted
    obtain ⟨kept, inKept, keptSame⟩ := List.mem_map.mp stays
    obtain ⟨lost, inLost, lostSame⟩ := List.mem_map.mp deleted
    obtain ⟨keptListed, unmarked⟩ := List.mem_filter.mp inKept
    obtain ⟨lostListed, marked⟩ := List.mem_filter.mp inLost
    have equal := unique.eq_of_key_eq keptListed lostListed (keptSame.trans lostSame.symm)
    rw [equal, marked] at unmarked
    exact absurd unmarked (by simp)

/-- Appending rows of other owners leaves the rows of an owner. -/
theorem filter_append_of_ne [DecidableEq Ref] (ref : Row → Ref) {owner : Ref}
    {added : List Row} (others : ∀ row ∈ added, ref row ≠ owner) (rows : List Row) :
    (rows ++ added).filter (fun row => ref row = owner) =
      rows.filter fun row => ref row = owner := by
  have absent : added.filter (fun row => decide (ref row = owner)) = [] := by
    refine List.filter_eq_nil_iff.mpr fun row member => ?_
    simpa using others row member
  rw [List.filter_append, absent, List.append_nil]

/-- Rows that stand in the order of their parents, at most one for each, are found by going
through the parents. -/
theorem filterMap_find?_of_sublist [DecidableEq Ref] {ref : Row → Ref} {parents : List Ref}
    {rows : List Row} (ordered : (rows.map ref).Sublist parents) (distinct : parents.Nodup) :
    parents.filterMap (fun parent => rows.find? fun row => ref row = parent) = rows := by
  induction parents generalizing rows with
  | nil =>
    have none : rows = [] := List.map_eq_nil_iff.mp (List.sublist_nil.mp ordered)
    rw [none, List.filterMap_nil]
  | cons parent parents inductionHypothesis =>
    obtain ⟨absent, restDistinct⟩ := List.nodup_cons.mp distinct
    rcases List.sublist_cons_iff.mp ordered with later | ⟨refs, split, rest⟩
    · have missing : rows.find? (fun row => decide (ref row = parent)) = none := by
        refine List.find?_eq_none.mpr fun row member => ?_
        simp only [decide_eq_true_eq]
        rintro rfl
        exact absent (later.subset (List.mem_map_of_mem member))
      rw [List.filterMap_cons, missing]
      exact inductionHypothesis later restDistinct
    · obtain ⟨row, others, rfl, owned, rfl⟩ := List.map_eq_cons_iff.mp split
      have first : (row :: others).find? (fun row => decide (ref row = parent)) = some row :=
        List.find?_cons_of_pos (decide_eq_true owned)
      have skipped : ∀ other ∈ parents,
          (row :: others).find? (fun row => decide (ref row = other)) =
            others.find? fun row => ref row = other := by
        intro other member
        refine List.find?_cons_of_neg ?_
        simp only [decide_eq_true_eq]
        rintro rfl
        exact absent (owned ▸ member)
      rw [List.filterMap_cons, first, List.filterMap_congr skipped]
      exact congrArg (row :: ·) (inductionHypothesis rest restDistinct)

/-- Owners that are chosen by an item of theirs can be read off the items.

By induction on the owners: one without an item is not chosen, and one with an item is chosen as
the item is. -/
theorem map_filter_owners {Owner Entry Value : Type} (entry : Owner → Entry)
    (item : Owner → Option Row) (wanted : Entry → Bool) (chosen : Row → Bool)
    (value : Entry → Value) (read : Row → Value) (owners : List Owner)
    (without : ∀ owner ∈ owners, item owner = none → wanted (entry owner) = false)
    (agrees : ∀ owner ∈ owners, ∀ row, item owner = some row →
      wanted (entry owner) = chosen row ∧ value (entry owner) = read row) :
    ((owners.map entry).filter wanted).map value =
      ((owners.filterMap item).filter chosen).map read := by
  induction owners with
  | nil => rfl
  | cons owner owners inductionHypothesis =>
    obtain ⟨lacking, othersLacking⟩ := List.forall_mem_cons.mp without
    obtain ⟨having, othersHaving⟩ := List.forall_mem_cons.mp agrees
    have rest := inductionHypothesis othersLacking othersHaving
    cases owned : item owner with
    | none => simp [owned, lacking owned, rest]
    | some row =>
      obtain ⟨sameChoice, sameValue⟩ := having row owned
      cases picked : chosen row with
      | true => simp [owned, sameChoice, picked, sameValue, rest]
      | false => simp [owned, sameChoice, picked, rest]

end TraceGate.Tables
