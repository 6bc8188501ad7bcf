import Mathlib.Data.List.Sort

/-!
# Sorting with ties left open

Items that are asked for in an order come in that order, but the order may not tell all of
them apart. Whoever sorts then decides, and may decide differently for other lists. A
`Sorting` is any such procedure, and `Arranged` is what is known of each of its results: the
same items, none in front of one that has to come before it.

`Arranged.resume` is the rule for a list that is worked through in parts. The first items of
one result followed by any result for the others are again a result for the whole list, so
sorting the rest anew between two parts cannot be told from having sorted once.
-/

namespace TraceGate.Ordering

universe u v

/-- A list in an order that may leave ties. -/
structure Arranged {Item : Type u} (before : Item → Item → Prop) (items arranged : List Item) :
    Prop where
  permutes : arranged.Perm items
  ordered : arranged.Pairwise before

/-- A procedure that puts every list in such an order and settles ties as it likes. -/
structure Sorting {Item : Type u} (before : Item → Item → Prop) where
  sort : List Item → List Item
  permutes : ∀ items, (sort items).Perm items
  ordered : ∀ items, (sort items).Pairwise before

/-- The procedure that leaves ties as they stand. -/
def stable {Item : Type u} (before : Item → Item → Prop) [DecidableRel before]
    [Std.Total before] [IsTrans Item before] : Sorting before where
  sort := List.insertionSort before
  permutes := List.perm_insertionSort before
  ordered := List.pairwise_insertionSort before

variable {Item : Type u} {before : Item → Item → Prop}

namespace Sorting

variable (sorting : Sorting before) (items : List Item)

/-- What a procedure returns is arranged. -/
theorem arranged : Arranged before items (sorting.sort items) :=
  ⟨sorting.permutes items, sorting.ordered items⟩

/-- Sorting neither adds items nor leaves any out. -/
@[simp]
theorem mem_sort {item : Item} : item ∈ sorting.sort items ↔ item ∈ items :=
  (sorting.permutes items).mem_iff

/-- Only the empty list is sorted into the empty list. -/
@[simp]
theorem sort_eq_nil_iff : sorting.sort items = [] ↔ items = [] := by
  rw [← List.length_eq_zero_iff, (sorting.permutes items).length_eq, List.length_eq_zero_iff]

/-- There is nothing to sort in the empty list. -/
@[simp]
theorem sort_nil : sorting.sort [] = [] :=
  (sorting.sort_eq_nil_iff []).mpr rfl

end Sorting

namespace Arranged

variable {items arranged : List Item}

/-- Items and their order can be read through a map that keeps the order. -/
theorem map {Image : Type v} {beforeImage : Image → Image → Prop} (image : Item → Image)
    (keeps : ∀ left right, before left right → beforeImage (image left) (image right))
    (known : Arranged before items arranged) :
    Arranged beforeImage (items.map image) (arranged.map image) :=
  ⟨known.permutes.map image, List.pairwise_map.mpr (known.ordered.imp fun {_ _} => keeps _ _)⟩

/-- The front of an arranged list, followed by any arrangement of what was behind it, arranges
the whole.

Every item behind the front had its place behind every item of the front already in the first
arrangement, so only the order within the two parts is left, and each part has its own. -/
theorem resume {front behind again : List Item}
    (known : Arranged before items (front ++ behind)) (rest : Arranged before behind again) :
    Arranged before items (front ++ again) := by
  obtain ⟨ordered, _, across⟩ := List.pairwise_append.mp known.ordered
  refine ⟨(rest.permutes.append_left front).trans known.permutes, ?_⟩
  refine List.pairwise_append.mpr ⟨ordered, rest.ordered, fun first inFront second later => ?_⟩
  exact across first inFront second (rest.permutes.mem_iff.mp later)

/-- Lists with the same items have the same arrangements. -/
theorem of_perm {others : List Item} (same : others.Perm items)
    (known : Arranged before others arranged) : Arranged before items arranged :=
  ⟨known.permutes.trans same, known.ordered⟩

end Arranged

end TraceGate.Ordering
