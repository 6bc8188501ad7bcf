import Mathlib.Algebra.Order.BigOperators.Group.List
import Mathlib.Algebra.Order.Ring.Nat
import Mathlib.Tactic.Common

/-!
# Emptying items until the rest fits

Items with a key have a weight, and an item can be emptied. Given the keys in the order in
which items are to go, items are emptied one after another for as long as the total weight
is above a limit; the total is taken anew before each. This is the plain procedure. A
faster one, which keeps a running total and works through the order in batches, is compared
with it by the laws below: the order can be cut anywhere, and a part of it that was not
enough has been emptied as a whole.
-/

namespace TraceGate.Budget

universe u v

variable {Item : Type u} {Key : Type v} [DecidableEq Key]
variable (key : Item → Key) (weight : Item → Nat) (empty : Item → Item)

/-- The weight of all items. -/
def total (items : List Item) : Nat := (items.map weight).sum

/-- The items with those of a key emptied. -/
def emptied (name : Key) (items : List Item) : List Item :=
  items.map fun item => if key item = name then empty item else item

/-- Empty items in the given order while they are too heavy. -/
def fit (limit : Nat) : List Key → List Item → List Item
  | [], items => items
  | name :: order, items =>
      if total weight items ≤ limit then items else fit limit order (emptied key empty name items)

/-- Empty all items of these keys. -/
def emptyAll (order : List Key) (items : List Item) : List Item :=
  order.foldl (fun items name => emptied key empty name items) items

variable {key weight empty}

/-- The weight of the items that owners have, one or none each, is summed up owner by owner; an
owner without an item counts nothing. -/
theorem total_filterMap {Owner : Type v} (item : Owner → Option Item) (owners : List Owner) :
    total weight (owners.filterMap item) =
      (owners.map fun owner => ((item owner).map weight).getD 0).sum := by
  induction owners with
  | nil => rfl
  | cons owner owners inductionHypothesis =>
    cases owned : item owner with
    | none => simp [owned, inductionHypothesis]
    | some only =>
      rw [total] at inductionHypothesis ⊢
      simp [owned, inductionHypothesis]

/-- Items that fit are left alone, whatever order is still to be gone through. -/
theorem fit_of_total_le {limit : Nat} {items : List Item} (fits : total weight items ≤ limit)
    (key : Item → Key) (empty : Item → Item) (order : List Key) :
    fit key weight empty limit order items = items := by
  cases order with
  | nil => rfl
  | cons name order => exact if_pos fits

/-- Above what all items weigh one limit is as good as another.

Emptying makes nothing heavier, so a bound on the weight at the beginning holds all the way. -/
theorem fit_min (lighter : ∀ item, weight (empty item) ≤ weight item) (limit large : Nat)
    (order : List Key) (items : List Item) (below : total weight items ≤ large) :
    fit key weight empty (min limit large) order items =
      fit key weight empty limit order items := by
  induction order generalizing items with
  | nil => rfl
  | cons name order inductionHypothesis =>
    have less : total weight (emptied key empty name items) ≤ total weight items := by
      rw [total, total, emptied, List.map_map]
      refine List.sum_le_sum fun item _ => ?_
      simp only [Function.comp]
      split
      · exact lighter item
      · exact le_refl _
    have same : total weight items ≤ min limit large ↔ total weight items ≤ limit := by omega
    simp only [fit, same, inductionHypothesis _ (less.trans below)]

/-- Going through an order is going through its parts: once the items fit, the second part finds
them fitting too. -/
theorem fit_append (limit : Nat) (first second : List Key) (items : List Item) :
    fit key weight empty limit (first ++ second) items =
      fit key weight empty limit second (fit key weight empty limit first items) := by
  induction first generalizing items with
  | nil => rfl
  | cons name first inductionHypothesis =>
    by_cases fits : total weight items ≤ limit
    · simp only [fit_of_total_le fits]
    · simp only [List.cons_append, fit, fits, if_false, inductionHypothesis]

/-- An order that is not enough is emptied as a whole, since the loop stops early only when the
items fit. -/
theorem fit_eq_emptyAll (limit : Nat) (order : List Key) (items : List Item)
    (heavy : ¬ total weight (fit key weight empty limit order items) ≤ limit) :
    fit key weight empty limit order items = emptyAll key empty order items := by
  induction order generalizing items with
  | nil => rfl
  | cons name order inductionHypothesis =>
    by_cases fits : total weight items ≤ limit
    · rw [fit_of_total_le fits] at heavy
      exact absurd fits heavy
    · simp only [fit, fits, if_false] at heavy ⊢
      exact inductionHypothesis _ heavy

/-- Emptying keeps keys and is done with once, so the order does not matter for what is
emptied in the end. -/
theorem emptyAll_eq_map (sameKey : ∀ item, key (empty item) = key item)
    (once : ∀ item, empty (empty item) = empty item) (order : List Key) (items : List Item) :
    emptyAll key empty order items =
      items.map fun item => if key item ∈ order then empty item else item := by
  induction order generalizing items with
  | nil => simp [emptyAll]
  | cons name order inductionHypothesis =>
    have first : emptyAll key empty (name :: order) items =
        emptyAll key empty order (emptied key empty name items) := rfl
    rw [first, inductionHypothesis, emptied, List.map_map]
    refine List.map_congr_left fun item _ => ?_
    by_cases chosen : key item = name
    · simp [chosen, sameKey, once]
    · simp [chosen]

/-- Among items that an emptied one no longer belongs to, those of other keys are left, with the
items themselves unchanged. -/
theorem filter_emptyAll (key : Item → Key) (empty : Item → Item)
    (sameKey : ∀ item, key (empty item) = key item)
    (once : ∀ item, empty (empty item) = empty item) (keep : Item → Bool)
    (gone : ∀ item, keep (empty item) = false) (order : List Key) (items : List Item) :
    (emptyAll key empty order items).filter keep =
      (items.filter keep).filter fun item => decide (key item ∉ order) := by
  rw [emptyAll_eq_map sameKey once, List.filter_filter]
  induction items with
  | nil => rfl
  | cons item items inductionHypothesis =>
    by_cases chosen : key item ∈ order
    · simp [chosen, gone, inductionHypothesis]
    · simp [chosen, List.filter_cons, inductionHypothesis]

end TraceGate.Budget
