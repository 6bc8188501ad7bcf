import Mathlib.Data.Finset.Card

/-!
# Families of metrics

A family has one metric for each set of labels it has been asked for. Asking for labels
it has not seen creates a metric; nothing is ever removed. The size of a family is the
number of different label sets, so it is bounded by any finite set the labels stay in,
and it is at least the number of values that some reading of the labels takes.
-/

namespace TraceGate

universe u v w

structure Family (Labels : Type u) (Metric : Type v) where
  entries : List (Labels × Metric)
  distinct : (entries.map Prod.fst).Nodup

namespace Family

variable {Labels : Type u} {Metric : Type v}

def empty : Family Labels Metric := ⟨[], List.nodup_nil⟩

def labels (family : Family Labels Metric) : List Labels := family.entries.map Prod.fst

/-- The number of different label sets. -/
def size (family : Family Labels Metric) : Nat := family.entries.length

section Update

variable [DecidableEq Labels]

/-- The entries with the metric of one label set changed. -/
def changed (labels : Labels) (change : Metric → Metric) (entries : List (Labels × Metric)) :
    List (Labels × Metric) :=
  entries.map fun entry => if entry.1 = labels then (entry.1, change entry.2) else entry

/-- A change of metrics leaves the label sets where they are. -/
theorem map_fst_changed (labels : Labels) (change : Metric → Metric)
    (entries : List (Labels × Metric)) :
    (changed labels change entries).map Prod.fst = entries.map Prod.fst := by
  rw [changed, List.map_map]
  refine List.map_congr_left fun entry _ => ?_
  simp only [Function.comp]
  split <;> rfl

/-- Change the metric of the labels, which starts as given if there is none. -/
def update (family : Family Labels Metric) (labels : Labels) (new : Metric)
    (change : Metric → Metric) : Family Labels Metric :=
  if known : labels ∈ family.labels then
    ⟨changed labels change family.entries, by
      rw [map_fst_changed]
      exact family.distinct⟩
  else
    ⟨family.entries ++ [(labels, change new)], by
      rw [List.map_append]
      refine family.distinct.append (List.nodup_singleton _) ?_
      intro other member single
      obtain rfl := List.mem_singleton.mp single
      exact known member⟩

/-- The labels of an update are there afterwards, and the others are as before.

Known labels keep their place in the family, and fresh ones are added at the end. -/
theorem mem_labels_update (family : Family Labels Metric) (labels other : Labels) (new : Metric)
    (change : Metric → Metric) :
    other ∈ (family.update labels new change).labels ↔
      other = labels ∨ other ∈ family.labels := by
  unfold update
  split
  next known =>
    have same : (changed labels change family.entries).map Prod.fst = family.labels :=
      map_fst_changed labels change family.entries
    rw [Family.labels, same]
    constructor
    · exact Or.inr
    · rintro (rfl | member)
      · exact known
      · exact member
  next fresh =>
    simp only [Family.labels, List.map_append, List.map_cons, List.map_nil, List.mem_append,
      List.mem_singleton]
    exact or_comm

/-- The metric of the labels, or the one that labels start with. -/
def value (family : Family Labels Metric) (labels : Labels) (new : Metric) : Metric :=
  ((family.entries.find? fun entry => decide (entry.1 = labels)).map Prod.snd).getD new

/-- Looking labels up after a change finds the entry that was there, changed if it is theirs. -/
theorem find?_changed (labels other : Labels) (change : Metric → Metric)
    (entries : List (Labels × Metric)) :
    (changed labels change entries).find? (fun entry => decide (entry.1 = other)) =
      (entries.find? fun entry => decide (entry.1 = other)).map fun entry =>
        if other = labels then (entry.1, change entry.2) else entry := by
  rw [changed, List.find?_map]
  have same : ((fun entry : Labels × Metric => decide (entry.1 = other)) ∘ fun entry =>
      if entry.1 = labels then (entry.1, change entry.2) else entry) =
        fun entry => decide (entry.1 = other) := by
    funext entry
    simp only [Function.comp]
    split <;> rfl
  rw [same]
  refine Option.map_congr fun entry found => ?_
  have own : entry.1 = other := by simpa using List.find?_some found
  rw [own]

/-- An update changes the metric of its labels and no other, and starts from the new metric
where there was none. -/
theorem value_update (family : Family Labels Metric) (labels other : Labels) (new : Metric)
    (change : Metric → Metric) :
    (family.update labels new change).value other new =
      if other = labels then change (family.value other new) else family.value other new := by
  unfold update value
  split
  next known =>
    rw [find?_changed]
    split
    next same =>
      subst same
      obtain ⟨entry, member, own⟩ := List.mem_map.mp known
      have found : (family.entries.find? fun entry => decide (entry.1 = other)).isSome = true :=
        List.find?_isSome.mpr ⟨entry, member, decide_eq_true own⟩
      obtain ⟨first, first?⟩ := Option.isSome_iff_exists.mp found
      simp [first?]
    · cases family.entries.find? fun entry => decide (entry.1 = other) <;> rfl
  next fresh =>
    rw [List.find?_append]
    split
    next same =>
      subst same
      have none : (family.entries.find? fun entry => decide (entry.1 = other)) = none := by
        refine List.find?_eq_none.mpr fun entry member own => fresh ?_
        exact List.mem_map.mpr ⟨entry, member, of_decide_eq_true own⟩
      simp [none]
    next apart =>
      have missed : decide (labels = other) = false := decide_eq_false fun same => apart same.symm
      simp [missed]

/-- Count each of these labels once more. -/
def tally (family : Family Labels Nat) (seen : List Labels) : Family Labels Nat :=
  seen.foldl (fun family labels => family.update labels 0 (· + 1)) family

/-- A tally adds to each label set as many as it has seen of it.

The induction is over what is seen; each step is one update. -/
theorem value_tally (family : Family Labels Nat) (seen : List Labels) (labels : Labels) :
    (family.tally seen).value labels 0 = family.value labels 0 + seen.count labels := by
  induction seen generalizing family with
  | nil => rfl
  | cons first rest inductionHypothesis =>
    rw [tally, List.foldl_cons, ← tally, inductionHypothesis, value_update, List.count_cons]
    by_cases same : labels = first
    · simp [same, Nat.add_right_comm, Nat.add_assoc]
    · have apart : (first == labels) = false := beq_false_of_ne fun equal => same equal.symm
      simp [same, apart]

/-- The labels of a tally are those that were there and those that were seen. -/
theorem mem_labels_tally (family : Family Labels Nat) (seen : List Labels) (labels : Labels) :
    labels ∈ (family.tally seen).labels ↔ labels ∈ family.labels ∨ labels ∈ seen := by
  induction seen generalizing family with
  | nil => simp [tally]
  | cons first rest inductionHypothesis =>
    rw [tally, List.foldl_cons, ← tally, inductionHypothesis, mem_labels_update, List.mem_cons]
    tauto

/-- The labels of a tally that starts empty are those that were seen. -/
theorem mem_labels_tally_empty (seen : List Labels) (labels : Labels) :
    labels ∈ (empty.tally seen : Family Labels Nat).labels ↔ labels ∈ seen := by
  rw [mem_labels_tally]
  exact or_iff_right List.not_mem_nil

/-- What is seen later is tallied on top of what was seen before. -/
theorem tally_append (family : Family Labels Nat) (seen later : List Labels) :
    family.tally (seen ++ later) = (family.tally seen).tally later := List.foldl_append

/-- A tally of items by their labels counts them. -/
theorem value_tally_map {Item : Type w} (items : List Item) (label : Item → Labels)
    (labels : Labels) :
    ((empty : Family Labels Nat).tally (items.map label)).value labels 0 =
      items.countP fun item => decide (label item = labels) := by
  rw [value_tally, List.count_eq_countP, List.countP_map]
  exact Nat.zero_add _

/-- A tally of some of the items counts those, under each label set. -/
theorem value_tally_filter {Item : Type w} (items : List Item) (some : Item → Bool)
    (label : Item → Labels) (labels : Labels) :
    ((empty : Family Labels Nat).tally ((items.filter some).map label)).value labels 0 =
      items.countP fun item => decide (label item = labels) && some item := by
  rw [value_tally_map, List.countP_filter]

/-- Keep each observation under its labels. -/
def gather {Observed : Type w} (family : Family Labels (List Observed))
    (seen : List (Labels × Observed)) : Family Labels (List Observed) :=
  seen.foldl (fun family entry => family.update entry.1 [] (· ++ [entry.2])) family

/-- Gathering appends to each label set what was observed under it, in the order of
observation. -/
theorem value_gather {Observed : Type w} (family : Family Labels (List Observed))
    (seen : List (Labels × Observed)) (labels : Labels) :
    (family.gather seen).value labels [] =
      family.value labels [] ++
        (seen.filter fun entry => decide (entry.1 = labels)).map Prod.snd := by
  induction seen generalizing family with
  | nil => simp [gather]
  | cons first rest inductionHypothesis =>
    rw [gather, List.foldl_cons, ← gather, inductionHypothesis, value_update, List.filter_cons]
    by_cases same : labels = first.1
    · simp [same]
    · have apart : decide (first.1 = labels) = false := decide_eq_false fun equal => same equal.symm
      simp [same, apart]

/-- What is gathered of items under some labels are the observations of those, in their
order. -/
theorem value_gather_map {Observed : Type w} {Item : Type w} (items : List Item)
    (label : Item → Labels) (observed : Item → Observed) (labels : Labels) :
    ((empty : Family Labels (List Observed)).gather
        (items.map fun item => (label item, observed item))).value labels [] =
      (items.filter fun item => decide (label item = labels)).map observed := by
  rw [value_gather, List.filter_map, List.map_map]
  exact List.nil_append _

/-- The labels of what is gathered are those that were there and those that were observed. -/
theorem mem_labels_gather {Observed : Type w} (family : Family Labels (List Observed))
    (seen : List (Labels × Observed)) (labels : Labels) :
    labels ∈ (family.gather seen).labels ↔
      labels ∈ family.labels ∨ labels ∈ seen.map Prod.fst := by
  induction seen generalizing family with
  | nil => simp [gather]
  | cons first rest inductionHypothesis =>
    rw [gather, List.foldl_cons, ← gather, inductionHypothesis, mem_labels_update, List.map_cons,
      List.mem_cons]
    tauto

/-- The labels of what is gathered from nothing are those that were observed. -/
theorem mem_labels_gather_empty {Observed : Type w} (seen : List (Labels × Observed))
    (labels : Labels) :
    labels ∈ (empty.gather seen : Family Labels (List Observed)).labels ↔
      labels ∈ seen.map Prod.fst := by
  rw [mem_labels_gather]
  exact or_iff_right List.not_mem_nil

/-- What is observed later is gathered on top of what was observed before. -/
theorem gather_append {Observed : Type w} (family : Family Labels (List Observed))
    (seen later : List (Labels × Observed)) :
    family.gather (seen ++ later) = (family.gather seen).gather later := List.foldl_append

end Update

/-- A family whose labels, read without loss, stay in a finite set is no larger than it. -/
theorem size_le_card {Value : Type w} [DecidableEq Value] (family : Family Labels Metric)
    (read : Labels → Value) (lossless : Function.Injective read) (bound : Finset Value)
    (within : ∀ labels ∈ family.labels, read labels ∈ bound) : family.size ≤ bound.card := by
  have distinct : (family.labels.map read).Nodup := family.distinct.map lossless
  have subset : (family.labels.map read).toFinset ⊆ bound := by
    intro value member
    obtain ⟨labels, known, rfl⟩ := List.mem_map.mp (List.mem_toFinset.mp member)
    exact within labels known
  calc family.size = (family.labels.map read).length := by simp [labels, size]
    _ = (family.labels.map read).toFinset.card := (List.toFinset_card_of_nodup distinct).symm
    _ ≤ bound.card := Finset.card_le_card subset

/-- A family has at least as many label sets as a reading of them takes values. -/
theorem card_le_size {Value : Type w} [DecidableEq Value] (family : Family Labels Metric)
    (read : Labels → Value) (values : Finset Value)
    (taken : ∀ value ∈ values, ∃ labels ∈ family.labels, read labels = value) :
    values.card ≤ family.size := by
  have subset : values ⊆ (family.labels.map read).toFinset := by
    intro value member
    obtain ⟨labels, known, same⟩ := taken value member
    exact List.mem_toFinset.mpr (List.mem_map.mpr ⟨labels, known, same⟩)
  calc values.card ≤ (family.labels.map read).toFinset.card := Finset.card_le_card subset
    _ ≤ (family.labels.map read).length := List.toFinset_card_le _
    _ = family.size := by simp [labels, size]

end Family

end TraceGate
