import TraceGate.CaptureQueue
import TraceGate.Simulation

/-!
# The order of the writes

Writes enter the channel when they are handed over, or later, after the fallback, with
other senders in between. The writer takes them one at a time. Whatever the interleaving,
the writer settles them in the order in which the channel took them in, nothing that the
channel took in disappears on the way, and writes that did not need the fallback come in
the order in which they were handed over.
-/

namespace TraceGate.CaptureQueue

variable {capacity : Nat}

/-- The write that an event brings into the channel. -/
def accepted (state : State capacity) : Event → List Ticket
  | .enqueue write =>
      let ticket := ⟨state.handed.length, write, false⟩
      if (state.channel.trySend ticket).isOk then [ticket] else []
  | .retry position =>
      (state.retrying[position]?).toList.filter fun ticket =>
        (state.channel.trySend ticket).isOk
  | _ => []

/-- The write that the writer is done with, persisted or not. -/
def settled (state : State capacity) : Event → List Ticket
  | .inserted _ => state.inserting.toList
  | _ => []

/-- The write that is persisted. -/
def persistedBy (state : State capacity) : Event → List Ticket
  | .inserted true => state.inserting.toList
  | _ => []

/-- With the writer and in the channel, in the order in which they are settled. -/
def State.ahead (state : State capacity) : List Ticket :=
  state.inserting.toList ++ state.channel.items

/-- What is ahead in the queue before a step, and what the step accepts, is what the step
settles and what is ahead after it, in this order. -/
theorem ahead_of_step (state : State capacity) (event : Event) (next : State capacity)
    (taken : step state event = some next) :
    state.ahead ++ accepted state event = settled state event ++ next.ahead := by
  cases step_change state next event taken with
  | sent write channel room =>
    simp [State.ahead, accepted, settled, room, Except.isOk, Except.toBool,
      Channel.items_of_trySend _ _ _ room]
  | stripped write full => simp [State.ahead, accepted, settled, full, Except.isOk, Except.toBool]
  | refused write closed =>
    simp [State.ahead, accepted, settled, closed, Except.isOk, Except.toBool, State.lose]
  | resent position ticket channel waits room =>
    simp [State.ahead, accepted, settled, waits, room, Except.isOk, Except.toBool,
      Channel.items_of_trySend _ _ _ room]
  | givenUp position ticket reason waits failed =>
    simp [State.ahead, accepted, settled, waits, failed, Except.isOk, Except.toBool, State.lose]
  | received ticket channel idle first =>
    simp [State.ahead, accepted, settled, idle, Channel.items_of_recv _ _ _ first]
  | persisted ticket held => simp [State.ahead, accepted, settled, held]
  | unpersisted ticket held => simp [State.ahead, accepted, settled, held, State.lose]

/-- A step adds to the persisted writes the one it persists, behind the others. -/
theorem persisted_of_step (state : State capacity) (event : Event) (next : State capacity)
    (taken : step state event = some next) :
    next.persisted = state.persisted ++ persistedBy state event := by
  cases step_change state next event taken with
  | persisted ticket held => simp [persistedBy, held]
  | _ => simp [persistedBy, State.lose]

/-- What a step persists, it settles: a write that is given up is settled and not persisted. -/
theorem persistedBy_sublist_settled (state : State capacity) (event : Event) :
    (persistedBy state event).Sublist (settled state event) := by
  cases event with
  | inserted ok => cases ok <;> simp [persistedBy, settled]
  | _ => exact List.Sublist.refl _

/-- Whatever waits for its second send went through the fallback. -/
def State.RetriesStripped (state : State capacity) : Prop :=
  ∀ ticket ∈ state.retrying, ticket.stripped = true

/-- Writes that wait to be sent again have been stripped, and a step keeps that: only the
fallback puts a write there. -/
theorem retriesStripped_of_step (state : State capacity) (event : Event)
    (next : State capacity) (stripped : state.RetriesStripped)
    (taken : step state event = some next) : next.RetriesStripped := by
  have erased : ∀ position, ∀ ticket ∈ state.retrying.eraseIdx position,
      ticket.stripped = true :=
    fun position ticket member => stripped ticket (List.mem_of_mem_eraseIdx member)
  cases step_change state next event taken with
  | stripped write full =>
    exact List.forall_mem_append.mpr ⟨stripped, List.forall_mem_singleton.mpr rfl⟩
  | resent position ticket channel waits room => exact erased position
  | givenUp position ticket reason waits failed => exact erased position
  | _ => exact stripped

/-- A write that enters the channel whole is the one that is handed over now.

A write that is sent again has been stripped, so it does not enter whole. -/
theorem whole_of_step (state : State capacity) (event : Event) (next : State capacity)
    (stripped : state.RetriesStripped) (taken : step state event = some next)
    (ticket : Ticket) (whole : ticket ∈ (accepted state event).filter (!Ticket.stripped ·)) :
    ticket.id = state.handed.length ∧ next.handed.length = state.handed.length + 1 := by
  obtain ⟨entered, unstripped⟩ := List.mem_filter.mp whole
  have handed := handed_of_step state next event taken
  cases event with
  | enqueue write =>
    have same : ticket = ⟨state.handed.length, write, false⟩ := by
      simp only [accepted] at entered
      split at entered
      · exact List.mem_singleton.mp entered
      · exact absurd entered List.not_mem_nil
    exact ⟨by rw [same], by rw [handed]; simp [Event.handing]⟩
  | retry position =>
    obtain ⟨waits, _⟩ := List.mem_filter.mp entered
    have retried := stripped ticket (List.mem_of_getElem? (Option.mem_toList.mp waits))
    simp [retried] at unstripped
  | receive => exact absurd entered List.not_mem_nil
  | inserted ok => exact absurd entered List.not_mem_nil

/-- In a list of at most one item every two items are related. -/
theorem pairwise_of_length_le_one {Item : Type} {before : Item → Item → Prop} :
    ∀ {items : List Item}, items.length ≤ 1 → items.Pairwise before
  | [], _ => List.Pairwise.nil
  | [item], _ => List.pairwise_singleton before item

/-- At most one write enters at a time, the one handed over or one that is sent again. -/
theorem length_accepted_le (state : State capacity) (event : Event) :
    (accepted state event).length ≤ 1 := by
  cases event with
  | enqueue write =>
    simp only [accepted]
    split <;> simp
  | retry position =>
    refine (List.length_filter_le _ _).trans ?_
    cases state.retrying[position]? <;> simp
  | receive => exact Nat.zero_le _
  | inserted ok => exact Nat.zero_le _

/-- The queue of capture writes is first in, first out, over every interleaving: the writer
has settled a front part of what the channel took in, in that order, and the rest is with
the writer or in the channel; what is persisted is part of what is settled, in the same
order; and the writes that did not need the fallback went in, and so come out, in the order
in which they were handed over. -/
theorem settles_in_order (capacity : Nat) (closed : Bool) (events : List Event)
    (final : State capacity)
    (completed : Runs.run step (start capacity closed) events = some final) :
    Runs.trace step accepted (start capacity closed) events =
        Runs.trace step settled (start capacity closed) events ++ final.inserting.toList ++
          final.channel.items ∧
      final.persisted.Sublist (Runs.trace step settled (start capacity closed) events) ∧
      (((Runs.trace step accepted (start capacity closed) events).filter
        (!Ticket.stripped ·)).map Ticket.id).Pairwise (· < ·) := by
  refine ⟨?_, ?_, ?_⟩
  · have conserved := Runs.trace_conserves step accepted settled State.ahead ahead_of_step
      (start capacity closed) final events completed
    rw [List.append_assoc]
    exact conserved
  · have grown := Runs.grown_by_trace step persistedBy State.persisted persisted_of_step
      (start capacity closed) final events completed
    rw [grown]
    exact Runs.trace_sublist step persistedBy settled persistedBy_sublist_settled _ events
  · rw [Runs.filter_trace]
    refine (Runs.trace_increasing step _ Ticket.id (fun state => state.handed.length)
      State.RetriesStripped ?_ (start capacity closed) final events
      (fun ticket member => absurd member List.not_mem_nil) completed).1
    intro state event next stripped taken
    have handed := handed_of_step state next event taken
    refine ⟨retriesStripped_of_step state event next stripped taken, ?_, ?_, ?_⟩
    · rw [handed, List.length_append]
      exact Nat.le_add_right _ _
    · refine pairwise_of_length_le_one (le_trans ?_ (length_accepted_le state event))
      rw [List.length_map]
      exact List.length_filter_le _ _
    · intro ticket member
      obtain ⟨now, later⟩ := whole_of_step state event next stripped taken ticket member
      omega

/-- The second write meets a full queue and is sent again behind the third, which is therefore
persisted before it. -/
theorem settles_in_order_overtaken : ∃ final : State 1,
    Runs.run step (start 1 false)
        [.enqueue capturing, .enqueue capturing, .receive, .enqueue capturing, .inserted true,
          .receive, .retry 0, .inserted true, .receive, .inserted true] = some final ∧
      final.persisted.map Ticket.id = [0, 2, 1] ∧
      final.persisted.Sublist (Runs.trace step settled (start 1 false)
        [.enqueue capturing, .enqueue capturing, .receive, .enqueue capturing, .inserted true,
          .receive, .retry 0, .inserted true, .receive, .inserted true]) :=
  ⟨_, rfl, by decide, (settles_in_order 1 false
    [.enqueue capturing, .enqueue capturing, .receive, .enqueue capturing, .inserted true,
      .receive, .retry 0, .inserted true, .receive, .inserted true] _ rfl).2.1⟩

end TraceGate.CaptureQueue
