import Mathlib.Data.List.Basic

/-!
# Bounded channels

A channel of many senders and one receiver: first in, first out, with room for a
fixed number of items, so a send that does not wait is refused when the channel
is full or its receiver is gone. A receive makes room at once.
-/

namespace TraceGate

universe u

/-- The items sent and not yet received. -/
structure Channel (α : Type u) (capacity : Nat) where
  items : List α
  closed : Bool
  bounded : items.length ≤ capacity

inductive TrySendError where
  | full
  | closed
deriving DecidableEq

namespace Channel

variable {α : Type u} {capacity : Nat}

def empty (closed : Bool) : Channel α capacity := ⟨[], closed, Nat.zero_le _⟩

def trySend (channel : Channel α capacity) (item : α) :
    Except TrySendError (Channel α capacity) :=
  if channel.closed then .error .closed
  else if room : channel.items.length < capacity then
    .ok ⟨channel.items ++ [item], channel.closed, by
      rw [List.length_append, List.length_singleton]
      omega⟩
  else .error .full

def recv (channel : Channel α capacity) : Option (α × Channel α capacity) :=
  match items : channel.items with
  | [] => none
  | item :: rest =>
      some (item, ⟨rest, channel.closed, by
        have bounded := channel.bounded
        rw [items, List.length_cons] at bounded
        omega⟩)

/-- A sent item is the last: a channel with room takes it behind those that wait. -/
theorem items_of_trySend (channel sent : Channel α capacity) (item : α)
    (accepted : channel.trySend item = .ok sent) : sent.items = channel.items ++ [item] := by
  unfold trySend at accepted
  split at accepted
  · exact absurd accepted (by simp)
  · split at accepted
    · rw [← Except.ok.inj accepted]
    · exact absurd accepted (by simp)

/-- A received item was the first, and the others wait as before. -/
theorem items_of_recv (channel rest : Channel α capacity) (item : α)
    (received : channel.recv = some (item, rest)) : channel.items = item :: rest.items := by
  unfold recv at received
  split at received
  · exact absurd received (by simp)
  next first others items =>
    obtain ⟨rfl, rfl⟩ := Prod.mk.inj (Option.some.inj received)
    exact items

end Channel

end TraceGate
