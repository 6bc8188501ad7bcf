import Mathlib.Data.List.Perm.Subperm
import Mathlib.Logic.Function.Basic
import TraceGate.Budget
import TraceGate.Tables

/-!
# Emptying items while others change them

A sweep reads the total weight of some items once and then goes by its own count: it
fetches candidates with their weights, empties them one after another, and takes from its
count what it read of each. Meanwhile items are replaced, become lighter or disappear, so a
candidate may be another item by the time it is emptied, or none.

Still the items never weigh more than the sweep's count and what was added since it began.
Each pending candidate has a share of that budget which covers both what was read of it and
whatever is there now; the rest of the budget covers the items that are not pending.
-/

namespace TraceGate.Sweep

open Budget

variable {Item Key : Type} [DecidableEq Key]
variable (key : Item → Key) (weight : Item → Nat)

/-- The keys of the candidates still to be emptied. -/
abbrev keys (pending : List (Key × Nat)) : List Key := pending.map Prod.fst

/-- The weight of the items that are not pending. -/
def others (pending : List (Key × Nat)) (items : List Item) : Nat :=
  total weight (items.filter fun item => decide (key item ∉ keys pending))

/-- The shares cover the pending candidates within the budget. -/
structure Shares (share : Key → Nat) (pending : List (Key × Nat)) (items : List Item)
    (budget : Int) : Prop where
  apart : (keys pending).Nodup
  present : ∀ item ∈ items, key item ∈ keys pending → weight item ≤ share (key item)
  read : ∀ candidate ∈ pending, candidate.2 ≤ share candidate.1
  within : (others key weight pending items : Int) + (((keys pending).map share).sum : Nat) ≤ budget

def Covered (pending : List (Key × Nat)) (items : List Item) (budget : Int) : Prop :=
  ∃ share, Shares key weight share pending items budget

variable {key weight}

/-- What is kept and what is not weigh together what there was. -/
theorem total_filter (weight : Item → Nat) (keep : Item → Bool) (items : List Item) :
    total weight (items.filter keep) + total weight (items.filter fun item => !keep item) =
      total weight items := by
  induction items with
  | nil => rfl
  | cons item items inductionHypothesis =>
    simp only [total] at inductionHypothesis ⊢
    cases kept : keep item with
    | true => simp [kept, ← inductionHypothesis, Nat.add_assoc]
    | false => simp [kept, ← inductionHypothesis, Nat.add_left_comm]

/-- Fewer items weigh no more. -/
theorem total_le_of_sublist {fewer items : List Item} (sublist : fewer.Sublist items) :
    total weight fewer ≤ total weight items :=
  (sublist.map weight).sum_le_sum (by simp)

omit [DecidableEq Key] in
/-- Distinct keys among others have at most their sum. -/
theorem sum_le_of_subset {fewer names : List Key} (distinct : fewer.Nodup)
    (subset : fewer ⊆ names) (share : Key → Nat) :
    (fewer.map share).sum ≤ (names.map share).sum := by
  obtain ⟨found, same, sublist⟩ := distinct.subperm subset
  rw [← (same.map share).sum_eq]
  exact (sublist.map share).sum_le_sum (by simp)

/-- The items are within the budget.

An item that is pending weighs at most the share of its key, and the others are in the budget
beside the shares. -/
theorem Covered.total_le {pending : List (Key × Nat)} {items : List Item} {budget : Int}
    (unique : Tables.Unique key items) (covered : Covered key weight pending items budget) :
    (total weight items : Int) ≤ budget := by
  obtain ⟨share, shares⟩ := covered
  have pendingItems : total weight
      (items.filter fun item => !decide (key item ∉ keys pending)) ≤
        ((keys pending).map share).sum := by
    have byKey : total weight (items.filter fun item => !decide (key item ∉ keys pending)) ≤
        (((items.filter fun item => !decide (key item ∉ keys pending)).map key).map share).sum := by
      rw [total, List.map_map]
      refine List.sum_le_sum fun item member => ?_
      obtain ⟨listed, chosen⟩ := List.mem_filter.mp member
      exact shares.present item listed (by simpa using chosen)
    refine byKey.trans (sum_le_of_subset (unique.filter _) ?_ share)
    intro name member
    obtain ⟨item, chosen, rfl⟩ := List.mem_map.mp member
    simpa using (List.mem_filter.mp chosen).2
  have split := total_filter weight (fun item => decide (key item ∉ keys pending)) items
  have within := shares.within
  rw [others] at within
  omega

/-- Without candidates the budget is for all items. -/
theorem covered_nil {items : List Item} {budget : Int}
    (fits : (total weight items : Int) ≤ budget) :
    Covered key weight [] items budget :=
  ⟨fun _ => 0, List.nodup_nil, by simp, by simp, by simpa [others] using fits⟩

/-- Fetched candidates have shares of what they weigh.

The share of a key is what its one item weighs, and the shares together weigh what the
candidates do. -/
theorem Covered.fetch {items candidates : List Item} {budget : Int}
    (unique : Tables.Unique key items) (fits : (total weight items : Int) ≤ budget)
    (distinct : Tables.Unique key candidates) (subset : candidates ⊆ items) :
    Covered key weight (candidates.map fun item => (key item, weight item)) items budget := by
  have names : keys (candidates.map fun item => (key item, weight item)) = candidates.map key := by
    simp [keys, Function.comp_def]
  let share := fun name => ((items.find? fun item => key item = name).map weight).getD 0
  have own : ∀ item ∈ items, share (key item) = weight item := by
    intro item member
    have found : items.find? (fun other => decide (key other = key item)) = some item := by
      cases search : items.find? (fun other => decide (key other = key item)) with
      | none => simpa using List.find?_eq_none.mp search item member
      | some other =>
        have same : key other = key item := by simpa using List.find?_some search
        rw [unique.eq_of_key_eq (List.mem_of_find?_eq_some search) member same]
    simp [share, found]
  refine ⟨share, names ▸ distinct, fun item member _ => (own item member).ge, ?_, ?_⟩
  · intro candidate member
    obtain ⟨item, chosen, rfl⟩ := List.mem_map.mp member
    exact (own item (subset chosen)).ge
  · have chosen : ((candidates.map key).map share).sum ≤ total weight
        (items.filter fun item => !decide (key item ∉ candidates.map key)) := by
      have sameSum : ((candidates.map key).map share).sum = (candidates.map weight).sum := by
        rw [List.map_map]
        exact congrArg List.sum (List.map_congr_left fun item member => own item (subset member))
      rw [sameSum]
      have among : candidates ⊆
          items.filter fun item => !decide (key item ∉ candidates.map key) := by
        intro item member
        refine List.mem_filter.mpr ⟨subset member, ?_⟩
        simpa using ⟨item, member, rfl⟩
      obtain ⟨found, same, sublist⟩ := (List.Nodup.of_map key distinct).subperm among
      rw [← (same.map weight).sum_eq]
      exact (sublist.map weight).sum_le_sum (by simp)
    have split := total_filter weight (fun item => decide (key item ∉ candidates.map key)) items
    rw [others, names]
    omega

/-- A larger budget covers as well. -/
theorem Covered.mono {pending : List (Key × Nat)} {items : List Item} {budget larger : Int}
    (covered : Covered key weight pending items budget) (more : budget ≤ larger) :
    Covered key weight pending items larger := by
  obtain ⟨share, shares⟩ := covered
  exact ⟨share, shares.apart, shares.present, shares.read, shares.within.trans more⟩

/-- Items that are gone need no cover. -/
theorem Covered.fewer {pending : List (Key × Nat)} {items fewer : List Item} {budget : Int}
    (covered : Covered key weight pending items budget) (sublist : fewer.Sublist items) :
    Covered key weight pending fewer budget := by
  obtain ⟨share, shares⟩ := covered
  refine ⟨share, shares.apart, fun item member => shares.present item (sublist.subset member),
    shares.read, ?_⟩
  have less : others key weight pending fewer ≤ others key weight pending items :=
    total_le_of_sublist (sublist.filter _)
  have within := shares.within
  omega

/-- Items that become lighter under their keys stay covered.

The shares stay as they are, and what is not pending weighs no more than before. -/
theorem Covered.lighten {pending : List (Key × Nat)} {items : List Item} {budget : Int}
    (covered : Covered key weight pending items budget) (change : Item → Item)
    (sameKey : ∀ item, key (change item) = key item)
    (lighter : ∀ item, weight (change item) ≤ weight item) :
    Covered key weight pending (items.map change) budget := by
  obtain ⟨share, shares⟩ := covered
  refine ⟨share, shares.apart, ?_, shares.read, ?_⟩
  · intro item member chosen
    obtain ⟨before, listed, rfl⟩ := List.mem_map.mp member
    rw [sameKey] at chosen ⊢
    exact (lighter before).trans (shares.present before listed chosen)
  · have less : others key weight pending (items.map change) ≤ others key weight pending items := by
      rw [others, others, List.filter_map, total, total, List.map_map]
      simp only [Function.comp_def, sameKey]
      exact List.sum_le_sum fun item _ => lighter item
    have within := shares.within
    omega

/-- Adding to the share of one key adds to the sum, if the key is counted.

By induction on the keys, which are distinct, so the key is counted once. -/
theorem sum_update (share : Key → Nat) (name : Key) (more : Nat)
    (names : List Key) (distinct : names.Nodup) :
    (names.map (Function.update share name (share name + more))).sum =
      (names.map share).sum + if name ∈ names then more else 0 := by
  induction names with
  | nil => rfl
  | cons first names inductionHypothesis =>
    obtain ⟨absent, rest⟩ := List.nodup_cons.mp distinct
    have later := inductionHypothesis rest
    by_cases same : first = name
    · subst same
      rw [if_neg absent] at later
      simp only [List.map_cons, List.sum_cons, Function.update_self, later, List.mem_cons,
        true_or, if_true]
      omega
    · have apart : name ≠ first := fun equal => same equal.symm
      simp only [List.map_cons, List.sum_cons, Function.update_of_ne same, later, List.mem_cons,
        apart, false_or]
      omega

/-- A new item in the place of those of its key adds its weight to the budget. A pending
candidate's share grows by it, as the candidate may now be the new item. -/
theorem Covered.replace {pending : List (Key × Nat)} {items kept added : List Item} {budget : Int}
    (covered : Covered key weight pending items budget) (name : Key)
    (sublist : kept.Sublist items) (gone : ∀ item ∈ kept, key item ≠ name)
    (own : ∀ item ∈ added, key item = name) :
    Covered key weight pending (kept ++ added) (budget + total weight added) := by
  obtain ⟨share, shares⟩ := covered.fewer sublist
  have split : others key weight pending (kept ++ added) =
      others key weight pending kept + if name ∈ keys pending then 0 else total weight added := by
    rw [others, others, List.filter_append, total, total, List.map_append, List.sum_append]
    refine congrArg _ ?_
    by_cases chosen : name ∈ keys pending
    · have none : added.filter (fun item => decide (key item ∉ keys pending)) = [] := by
        refine List.filter_eq_nil_iff.mpr fun item member => ?_
        simpa [own item member] using chosen
      rw [none, if_pos chosen]
      rfl
    · have all : added.filter (fun item => decide (key item ∉ keys pending)) = added := by
        refine List.filter_eq_self.mpr fun item member => ?_
        simpa [own item member] using chosen
      rw [all, if_neg chosen]
      rfl
  refine ⟨Function.update share name (share name + total weight added), shares.apart, ?_, ?_, ?_⟩
  · intro item member chosen
    rcases List.mem_append.mp member with old | new
    · rw [Function.update_of_ne (gone item old)]
      exact shares.present item old chosen
    · rw [own item new, Function.update_self]
      have single := List.single_le_sum (by simp) _ (List.mem_map_of_mem (f := weight) new)
      rw [total]
      omega
  · intro candidate member
    have read := shares.read candidate member
    by_cases same : candidate.1 = name
    · subst same
      rw [Function.update_self]
      omega
    · rwa [Function.update_of_ne same]
  · have within := shares.within
    rw [sum_update share name _ _ shares.apart, split]
    split <;> omega

/-- An emptied item weighs nothing, so it does not matter that it is no longer pending.

By induction on the items. -/
theorem others_emptied (name : Key) (read : Nat) (pending : List (Key × Nat)) (items : List Item)
    (empty : Item → Item) (sameKey : ∀ item, key (empty item) = key item)
    (weightless : ∀ item, weight (empty item) = 0) :
    others key weight pending (emptied key empty name items) =
      others key weight ((name, read) :: pending) items := by
  induction items with
  | nil => rfl
  | cons item items inductionHypothesis =>
    simp only [others, emptied, total, keys, List.map_cons, List.mem_cons, not_or, decide_not,
      Bool.decide_and] at inductionHypothesis ⊢
    by_cases same : key item = name
    · by_cases chosen : name ∈ pending.map Prod.fst
      · simp [same, sameKey, chosen, inductionHypothesis]
      · simp [same, sameKey, chosen, weightless, inductionHypothesis]
    · by_cases chosen : key item ∈ pending.map Prod.fst
      · simp [same, chosen, inductionHypothesis]
      · simp [same, chosen, inductionHypothesis]

/-- Emptying the next candidate takes what was read of it from the budget.

What was read of it is at most its share, and the share is no longer counted. -/
theorem Covered.empty {name : Key} {read : Nat} {pending : List (Key × Nat)} {items : List Item}
    {budget : Int} (covered : Covered key weight ((name, read) :: pending) items budget)
    (empty : Item → Item) (sameKey : ∀ item, key (empty item) = key item)
    (weightless : ∀ item, weight (empty item) = 0) :
    Covered key weight pending (emptied key empty name items) (budget - read) := by
  obtain ⟨share, shares⟩ := covered
  obtain ⟨absent, rest⟩ := List.nodup_cons.mp shares.apart
  refine ⟨share, rest, ?_, fun candidate member =>
    shares.read candidate (List.mem_cons_of_mem _ member), ?_⟩
  · intro item member chosen
    obtain ⟨before, listed, rfl⟩ := List.mem_map.mp member
    split at chosen
    next same =>
      rw [sameKey, same] at chosen
      exact absurd chosen absent
    next other =>
      rw [if_neg other]
      exact shares.present before listed (List.mem_cons_of_mem _ chosen)
  · have own := shares.read (name, read) List.mem_cons_self
    have within := shares.within
    simp only [keys, List.map_cons, List.sum_cons] at own within ⊢
    rw [others_emptied name read pending items empty sameKey weightless]
    omega

end TraceGate.Sweep
