import Mathlib.Data.List.Nodup
import Mathlib.Data.List.Range
import Mathlib.Data.Nat.ModEq

/-!
# Turns of a rotating counter

A counter that only counts up is reduced modulo the number of places, so consecutive
values give the places their turns. A window is a number of consecutive values. In a
window no longer than one round every place has at most one turn, a window of at least
one round gives every place a turn, and in any window two places differ by at most one
turn.
-/

namespace TraceGate.Rotation

/-- The places that consecutive counter values stand for. -/
def turns (size start length : Nat) : List Nat :=
  (List.range' start length).map (· % size)

/-- One turn goes to the place that the counter points at. -/
@[simp]
theorem turns_one (size start : Nat) : turns size start 1 = [start % size] := rfl

/-- A window is its beginning followed by its rest. -/
theorem turns_add (size start first second : Nat) :
    turns size start (first + second) =
      turns size start first ++ turns size (start + first) second := by
  rw [turns, turns, turns, ← List.map_append, ← List.range'_append, Nat.one_mul]

/-- Within one round, different values stand for different places. -/
theorem eq_of_mod_eq {size low high : Nat} (ordered : low ≤ high) (near : high < low + size)
    (same : low % size = high % size) : low = high := by
  have divides : size ∣ high - low := (Nat.modEq_iff_dvd' ordered).mp same
  have none : high - low = 0 := Nat.eq_zero_of_dvd_of_lt divides (by omega)
  omega

/-- No place has two turns within one round. -/
theorem nodup_turns {size length : Nat} (start : Nat) (short : length ≤ size) :
    (turns size start length).Nodup := by
  refine List.Nodup.map_on ?_ List.nodup_range'
  intro left leftMember right rightMember same
  obtain ⟨leftLow, leftHigh⟩ := List.mem_range'_1.mp leftMember
  obtain ⟨rightLow, rightHigh⟩ := List.mem_range'_1.mp rightMember
  rcases Nat.le_total left right with ordered | ordered
  · exact eq_of_mod_eq ordered (by omega) same
  · exact (eq_of_mod_eq ordered (by omega) same.symm).symm

/-- Every place has its turn within one round: in the current round when the counter has
not passed it yet, in the next one otherwise. -/
theorem exists_turn {size place : Nat} (start : Nat) (inRange : place < size) :
    ∃ value, start ≤ value ∧ value < start + size ∧ value % size = place := by
  have split : size * (start / size) + start % size = start := Nat.div_add_mod start size
  have below : start % size < size := Nat.mod_lt start (by omega)
  by_cases passed : start % size ≤ place
  · refine ⟨size * (start / size) + place, by omega, by omega, ?_⟩
    rw [Nat.mul_add_mod, Nat.mod_eq_of_lt inRange]
  · refine ⟨size * (start / size + 1) + place, ?_, ?_, ?_⟩
    · rw [Nat.mul_add]
      omega
    · rw [Nat.mul_add]
      omega
    · rw [Nat.mul_add_mod, Nat.mod_eq_of_lt inRange]

/-- Every place has a turn in a window of one round or more. -/
theorem mem_turns {size length place : Nat} (start : Nat) (inRange : place < size)
    (long : size ≤ length) : place ∈ turns size start length := by
  obtain ⟨value, low, high, same⟩ := exists_turn start inRange
  exact List.mem_map.mpr ⟨value, List.mem_range'_1.mpr ⟨low, by omega⟩, same⟩

/-- One round gives every place exactly one turn. -/
theorem count_round {size place : Nat} (start : Nat) (inRange : place < size) :
    (turns size start size).count place = 1 :=
  List.count_eq_one_of_mem (nodup_turns start (Nat.le_refl size))
    (mem_turns start inRange (Nat.le_refl size))

/-- In any window two places differ by at most one turn. Whole rounds give both the same
number of turns; what remains is shorter than a round and gives each at most one. -/
theorem count_turns_le {size : Nat} (start length : Nat) {left right : Nat}
    (leftInRange : left < size) (rightInRange : right < size) :
    (turns size start length).count left ≤ (turns size start length).count right + 1 := by
  induction length using Nat.strong_induction_on generalizing start with
  | h length inductionHypothesis =>
    by_cases short : length ≤ size
    · have atMostOne := List.nodup_iff_count_le_one.mp (nodup_turns start short) left
      omega
    · obtain ⟨rest, rfl⟩ := Nat.exists_eq_add_of_lt (Nat.lt_of_not_le short)
      have later := inductionHypothesis (rest + 1) (by omega) (start + size)
      rw [Nat.add_assoc, turns_add, List.count_append, List.count_append,
        count_round start leftInRange, count_round start rightInRange]
      omega

end TraceGate.Rotation
