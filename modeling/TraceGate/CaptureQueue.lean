import TraceGate.Channel
import TraceGate.Gateway
import TraceGate.Runs
import TraceGate.Store

/-!
# The capture writer and its counters

Request tasks hand writes to the writer through a bounded channel. A write that
finds the channel full is reduced to metadata and sent once more; between the two
sends other tasks send and the writer receives. The writer inserts one write at a
time, and an insert, being one transaction, persists all of a write or nothing.

Two counters tell what happened: captures persisted, and captures or records
dropped. Each increment is logged with the write it is made for, so a counter is
the length of its log. Every write handed over is at any moment in exactly one
place: in the channel, between its two sends, with the writer, persisted or lost.
-/

namespace TraceGate

/-- A write that carries a capture does not say it was dropped. -/
def CaptureWrite.Marked (write : CaptureWrite) : Prop :=
  write.capture.isSome = true → write.record.captureDropped = false

instance (write : CaptureWrite) : Decidable write.Marked :=
  inferInstanceAs (Decidable (_ → _))

/-- A write as the finalizers hand it over. -/
abbrev HandedWrite := { write : CaptureWrite // write.Marked }

/-- `metadata_only_capture_fallback`: the write without its capture, and whether it
had one, which is then counted as dropped. -/
def metadataOnlyCaptureFallback (write : CaptureWrite) : CaptureWrite × Bool :=
  ({ write with capture := none, record := { write.record with captureDropped := true } },
    write.capture.isSome)

/-- The writer's test before the insert. -/
def wroteCapture (write : CaptureWrite) : Bool :=
  write.capture.isSome && !write.record.captureDropped

namespace CaptureQueue

/-- A write on its way: the number of its `enqueue`, as it was handed over, and
whether the fallback has been applied. -/
structure Ticket where
  id : Nat
  handed : HandedWrite
  stripped : Bool
deriving DecidableEq

namespace Ticket

/-- The write as it now is. -/
def write (ticket : Ticket) : CaptureWrite :=
  if ticket.stripped then (metadataOnlyCaptureFallback ticket.handed.val).1
  else ticket.handed.val

/-- A write is as it was handed over, or as the fallback left it: without its capture, and marked
as dropped. -/
theorem write_cases (ticket : Ticket) :
    ticket.write = ticket.handed.val ∨
      ticket.write =
        { ticket.handed.val with
          capture := none
          record := { ticket.handed.val.record with captureDropped := true } } := by
  unfold write
  split
  · exact Or.inr rfl
  · exact Or.inl rfl

/-- The fallback took a capture away. -/
def Reduced (ticket : Ticket) : Prop :=
  ticket.stripped = true ∧ ticket.handed.val.capture.isSome = true

instance (ticket : Ticket) : Decidable ticket.Reduced :=
  inferInstanceAs (Decidable (_ ∧ _))

/-- The times a write is counted as dropped before it is settled. -/
def charge (ticket : Ticket) : Nat := if ticket.Reduced then 1 else 0

end Ticket

/-- The channel, the writes between their two sends, the one with the writer, and
what became of the others. -/
structure State (capacity : Nat) where
  handed : List HandedWrite
  channel : Channel Ticket capacity
  retrying : List Ticket
  inserting : Option Ticket
  persisted : List Ticket
  lost : List Ticket
  droppedFor : List Nat
  capturedFor : List Nat

inductive Event where
  | enqueue (write : HandedWrite)
  | retry (position : Nat)
  | receive
  | inserted (ok : Bool)

variable {capacity : Nat}

/-- `record_capture_dropped` for a write that is given up. -/
def State.lose (state : State capacity) (ticket : Ticket) : State capacity :=
  { state with lost := state.lost ++ [ticket], droppedFor := state.droppedFor ++ [ticket.id] }

/-- One event of the queue. The second send of a write that met a full queue is an event of its
own, since others may come in between. -/
def step (state : State capacity) : Event → Option (State capacity)
  | .enqueue write =>
      let ticket := ⟨state.handed.length, write, false⟩
      let state := { state with handed := state.handed ++ [write] }
      match state.channel.trySend ticket with
      | .ok channel => some { state with channel := channel }
      | .error .full =>
          let (_, hadCapture) := metadataOnlyCaptureFallback write.val
          some
            { state with
              retrying := state.retrying ++ [{ ticket with stripped := true }]
              droppedFor := state.droppedFor ++ if hadCapture then [ticket.id] else [] }
      | .error .closed => some (state.lose ticket)
  | .retry position =>
      match state.retrying[position]? with
      | none => none
      | some ticket =>
          let state := { state with retrying := state.retrying.eraseIdx position }
          match state.channel.trySend ticket with
          | .ok channel => some { state with channel := channel }
          | .error _ => some (state.lose ticket)
  | .receive =>
      match state.inserting, state.channel.recv with
      | none, some (ticket, channel) =>
          some { state with channel := channel, inserting := some ticket }
      | _, _ => none
  | .inserted ok =>
      match state.inserting with
      | none => none
      | some ticket =>
          let state := { state with inserting := none }
          if ok then
            some
              { state with
                persisted := state.persisted ++ [ticket]
                capturedFor := state.capturedFor ++
                  if wroteCapture ticket.write then [ticket.id] else [] }
          else some (state.lose ticket)

/-- An empty channel, with its receiver there or gone. -/
def start (capacity : Nat) (closed : Bool) : State capacity :=
  ⟨[], .empty closed, [], none, [], [], [], []⟩

/-- The writes that are neither persisted nor lost. -/
def State.pending (state : State capacity) : List Ticket :=
  state.channel.items ++ state.retrying ++ state.inserting.toList

def State.Drained (state : State capacity) : Prop := state.pending = []

instance (state : State capacity) : Decidable state.Drained :=
  inferInstanceAs (Decidable (_ = _))

/-- What a write was handed over for is persisted: its capture, or its record when
it has none. -/
def State.Kept (state : State capacity) (id : Nat) (handed : HandedWrite) : Prop :=
  ∃ ticket ∈ state.persisted, ticket.id = id ∧ ticket.write.capture = handed.val.capture

instance (state : State capacity) (id : Nat) (handed : HandedWrite) :
    Decidable (state.Kept id handed) :=
  inferInstanceAs (Decidable (∃ ticket ∈ state.persisted, _))

/-- No write is persisted twice, each is counted as dropped once or not at all as
it was kept, and the captures counted are those persisted. -/
def State.Accounted (state : State capacity) : Prop :=
  (∀ id handed, state.handed[id]? = some handed →
      (state.persisted.map Ticket.id).count id ≤ 1 ∧
        state.droppedFor.count id = if state.Kept id handed then 0 else 1) ∧
    state.capturedFor.length = state.persisted.countP fun ticket => ticket.write.capture.isSome

/-- The write an event gives up. -/
def losing (state : State capacity) : Event → Option Ticket
  | .enqueue write =>
      let ticket := ⟨state.handed.length, write, false⟩
      match state.channel.trySend ticket with
      | .error .closed => some ticket
      | _ => none
  | .retry position =>
      match state.retrying[position]? with
      | none => none
      | some ticket =>
          match state.channel.trySend ticket with
          | .ok _ => none
          | .error _ => some ticket
  | .receive => none
  | .inserted ok => if ok then none else state.inserting

/-- A write that the fallback took a capture from is not given up as well. -/
def LosesWhole (state : State capacity) (event : Event) : Prop :=
  ∀ ticket ∈ losing state event, ¬ ticket.Reduced

instance (state : State capacity) (event : Event) : Decidable (LosesWhole state event) :=
  inferInstanceAs (Decidable (∀ ticket ∈ losing state event, _))

/-- The places of the writes without the channel: what the accounts are about. -/
structure Ledger where
  handed : List HandedWrite
  pending : List Ticket
  persisted : List Ticket
  lost : List Ticket
  droppedFor : List Nat
  capturedFor : List Nat

def State.ledger (state : State capacity) : Ledger :=
  ⟨state.handed, state.pending, state.persisted, state.lost, state.droppedFor, state.capturedFor⟩

namespace Ledger

def tickets (ledger : Ledger) : List Ticket :=
  ledger.pending ++ ledger.persisted ++ ledger.lost

/-- Every write handed over is in one place, and the logs have what its place
says. -/
structure Balanced (ledger : Ledger) : Prop where
  ids : (ledger.tickets.map Ticket.id).Perm (List.range ledger.handed.length)
  known : ∀ ticket ∈ ledger.tickets, ledger.handed[ticket.id]? = some ticket.handed
  unlost : ∀ ticket ∈ ledger.pending ++ ledger.persisted,
    ledger.droppedFor.count ticket.id = ticket.charge
  lost : ∀ ticket ∈ ledger.lost, ledger.droppedFor.count ticket.id = ticket.charge + 1
  charged : ∀ id ∈ ledger.droppedFor, id < ledger.handed.length
  captured : ledger.capturedFor.length =
    ledger.persisted.countP fun ticket => ticket.write.capture.isSome

namespace Balanced

variable {ledger : Ledger}

/-- Every ticket is for one of the writes handed over. -/
theorem lt_length (balanced : ledger.Balanced) (ticket : Ticket)
    (member : ticket ∈ ledger.tickets) : ticket.id < ledger.handed.length := by
  have inRange := balanced.ids.mem_iff.mp (List.mem_map_of_mem member)
  exact List.mem_range.mp inRange

/-- No two tickets are for one write, since their numbers are those of the writes handed
over. -/
theorem nodup (balanced : ledger.Balanced) : (ledger.tickets.map Ticket.id).Nodup :=
  balanced.ids.nodup_iff.mpr List.nodup_range

/-- A ticket is known by its number. -/
theorem eq_of_id_eq (balanced : ledger.Balanced) (left right : Ticket)
    (leftMember : left ∈ ledger.tickets) (rightMember : right ∈ ledger.tickets)
    (same : left.id = right.id) : left = right :=
  List.inj_on_of_nodup_map balanced.nodup leftMember rightMember same

/-- A write that was handed over has a ticket, whatever became of it since. -/
theorem exists_ticket (balanced : ledger.Balanced) (id : Nat) (handed : HandedWrite)
    (found : ledger.handed[id]? = some handed) :
    ∃ ticket ∈ ledger.tickets, ticket.id = id ∧ ticket.handed = handed := by
  have inRange : id ∈ List.range ledger.handed.length :=
    List.mem_range.mpr (List.getElem?_eq_some_iff.mp found).1
  obtain ⟨ticket, member, rfl⟩ := List.mem_map.mp (balanced.ids.mem_iff.mpr inRange)
  have same := balanced.known ticket member
  exact ⟨ticket, member, rfl, Option.some.inj (same.symm.trans found)⟩

/-- Where the pending writes wait does not matter: any order of them keeps the balance. -/
theorem of_perm (balanced : ledger.Balanced) (pending : List Ticket)
    (perm : pending.Perm ledger.pending) : Balanced { ledger with pending := pending } := by
  have places : (Ledger.tickets { ledger with pending := pending }).Perm ledger.tickets :=
    (perm.append_right _).append_right _
  refine ⟨(places.map _).trans balanced.ids, ?_, ?_, balanced.lost, balanced.charged,
    balanced.captured⟩
  · exact fun ticket member => balanced.known ticket (places.mem_iff.mp member)
  · exact fun ticket member =>
      balanced.unlost ticket ((perm.append_right _).mem_iff.mp member)

/-- A new write begins with the charge of its ticket, under the next number.

Nothing that was handed over before has this number, so the new ticket is the only one that
counts for it. -/
theorem hand (balanced : ledger.Balanced) (ticket : Ticket)
    (new : ticket.id = ledger.handed.length) :
    Balanced
      { ledger with
        handed := ledger.handed ++ [ticket.handed]
        pending := ticket :: ledger.pending
        droppedFor := ledger.droppedFor ++ List.replicate ticket.charge ticket.id } := by
  have older : ∀ other ∈ ledger.tickets,
      (ledger.droppedFor ++ List.replicate ticket.charge ticket.id).count other.id =
        ledger.droppedFor.count other.id := by
    intro other member
    have apart : ticket.id ≠ other.id := new ▸ Nat.ne_of_gt (balanced.lt_length other member)
    simp [List.count_append, List.count_replicate, apart]
  have uncharged : ledger.droppedFor.count ticket.id = 0 := by
    refine List.count_eq_zero.mpr fun member => ?_
    exact Nat.ne_of_lt (balanced.charged _ member) new
  refine ⟨?_, ?_, ?_, ?_, ?_, balanced.captured⟩
  · rw [List.length_append, List.length_singleton, List.range_succ]
    refine (balanced.ids.cons ticket.id).trans ?_
    rw [new]
    exact (List.perm_append_singleton _ _).symm
  · intro other member
    rcases List.mem_cons.mp member with rfl | old
    · simp [new]
    · rw [List.getElem?_append_left (balanced.lt_length other old)]
      exact balanced.known other old
  · intro other member
    rcases List.mem_cons.mp member with rfl | old
    · rw [List.count_append, uncharged, List.count_replicate_self, Nat.zero_add]
    · rw [older other (List.mem_append_left _ old)]
      exact balanced.unlost other old
  · intro other member
    rw [older other (List.mem_append_right _ member)]
    exact balanced.lost other member
  · intro id member
    rw [List.length_append, List.length_singleton]
    rcases List.mem_append.mp member with old | charged
    · exact Nat.lt_succ_of_lt (balanced.charged id old)
    · rw [List.eq_of_mem_replicate charged, new]
      exact Nat.lt_succ_self _

/-- A pending write is given up and counted once more, on top of what the fallback has charged
for it. -/
theorem lose (balanced : ledger.Balanced) (ticket : Ticket) (rest : List Ticket)
    (first : ledger.pending = ticket :: rest) :
    Balanced
      { ledger with
        pending := rest
        lost := ledger.lost ++ [ticket]
        droppedFor := ledger.droppedFor ++ [ticket.id] } := by
  have places : (rest ++ ledger.persisted ++ (ledger.lost ++ [ticket])).Perm ledger.tickets := by
    rw [tickets, first, ← List.append_assoc]
    exact List.perm_append_singleton _ _
  have waiting : ticket ∈ ledger.pending := first ▸ List.mem_cons_self
  have others : ∀ other ∈ rest ++ ledger.persisted ++ ledger.lost,
      (ledger.droppedFor ++ [ticket.id]).count other.id = ledger.droppedFor.count other.id := by
    intro other member
    have unique := balanced.nodup
    rw [tickets, first, List.cons_append, List.cons_append, List.map_cons,
      List.nodup_cons] at unique
    have apart : ticket.id ≠ other.id := fun same =>
      unique.1 (same ▸ List.mem_map_of_mem member)
    simp [List.count_append, apart]
  refine ⟨(places.map _).trans balanced.ids, ?_, ?_, ?_, ?_, balanced.captured⟩
  · exact fun other member => balanced.known other (places.mem_iff.mp member)
  · intro other member
    rw [others other (List.mem_append_left _ member)]
    refine balanced.unlost other ?_
    rw [first]
    exact List.mem_cons_of_mem _ member
  · intro other member
    rcases List.mem_append.mp member with old | new
    · rw [others other (List.mem_append_right _ old)]
      exact balanced.lost other old
    · rw [List.mem_singleton.mp new, List.count_append, List.count_singleton_self,
        balanced.unlost ticket (List.mem_append_left _ waiting)]
  · intro id charged
    rcases List.mem_append.mp charged with old | new
    · exact balanced.charged id old
    · rw [List.mem_singleton.mp new]
      exact balanced.lt_length ticket (List.mem_append_left _ (List.mem_append_left _ waiting))

end Balanced

end Ledger

/-- The writer counts a capture exactly when it persists one, because a write with a capture is
not marked as dropped. -/
theorem wroteCapture_write (ticket : Ticket) :
    wroteCapture ticket.write = ticket.write.capture.isSome := by
  obtain ⟨id, ⟨write, marked⟩, stripped⟩ := ticket
  cases stripped with
  | true => rfl
  | false =>
    cases carried : write.capture.isSome with
    | false => simp [wroteCapture, Ticket.write, carried]
    | true => simp [wroteCapture, Ticket.write, carried, marked carried]

/-- A pending write is persisted, and counted as a capture if it still has one.

It only changes its place, so what is pending, persisted or lost is the same altogether. -/
theorem Ledger.Balanced.persist {ledger : Ledger} (balanced : ledger.Balanced)
    (ticket : Ticket) (rest : List Ticket) (first : ledger.pending = ticket :: rest) :
    Ledger.Balanced
      { ledger with
        pending := rest
        persisted := ledger.persisted ++ [ticket]
        capturedFor := ledger.capturedFor ++
          if wroteCapture ticket.write then [ticket.id] else [] } := by
  have unlost : (rest ++ (ledger.persisted ++ [ticket])).Perm
      (ledger.pending ++ ledger.persisted) := by
    rw [first, ← List.append_assoc]
    exact List.perm_append_singleton _ _
  have places := unlost.append_right ledger.lost
  refine ⟨(places.map _).trans balanced.ids, ?_, ?_, balanced.lost, balanced.charged, ?_⟩
  · exact fun other member => balanced.known other (places.mem_iff.mp member)
  · exact fun other member => balanced.unlost other (unlost.mem_iff.mp member)
  · rw [wroteCapture_write, List.length_append, balanced.captured, List.countP_append]
    cases carried : ticket.write.capture.isSome with
    | false => simp [carried]
    | true => simp [carried]

/-- What an event can do: a write is sent, stripped for a second send or refused; one that
waited for its second send is sent or given up; one is received; and one is persisted or not. -/
inductive Change (state : State capacity) : Event → State capacity → Prop where
  | sent (write : HandedWrite) (channel : Channel Ticket capacity)
      (room : state.channel.trySend ⟨state.handed.length, write, false⟩ = .ok channel) :
      Change state (.enqueue write)
        { state with handed := state.handed ++ [write], channel := channel }
  | stripped (write : HandedWrite)
      (full : state.channel.trySend ⟨state.handed.length, write, false⟩ = .error .full) :
      Change state (.enqueue write)
        { state with
          handed := state.handed ++ [write]
          retrying := state.retrying ++ [⟨state.handed.length, write, true⟩]
          droppedFor := state.droppedFor ++
            if (metadataOnlyCaptureFallback write.val).2 then [state.handed.length] else [] }
  | refused (write : HandedWrite)
      (closed : state.channel.trySend ⟨state.handed.length, write, false⟩ = .error .closed) :
      Change state (.enqueue write)
        (State.lose { state with handed := state.handed ++ [write] }
          ⟨state.handed.length, write, false⟩)
  | resent (position : Nat) (ticket : Ticket) (channel : Channel Ticket capacity)
      (waits : state.retrying[position]? = some ticket)
      (room : state.channel.trySend ticket = .ok channel) :
      Change state (.retry position)
        { state with retrying := state.retrying.eraseIdx position, channel := channel }
  | givenUp (position : Nat) (ticket : Ticket) (reason : TrySendError)
      (waits : state.retrying[position]? = some ticket)
      (failed : state.channel.trySend ticket = .error reason) :
      Change state (.retry position)
        (State.lose { state with retrying := state.retrying.eraseIdx position } ticket)
  | received (ticket : Ticket) (channel : Channel Ticket capacity)
      (idle : state.inserting = none) (first : state.channel.recv = some (ticket, channel)) :
      Change state .receive { state with channel := channel, inserting := some ticket }
  | persisted (ticket : Ticket) (held : state.inserting = some ticket) :
      Change state (.inserted true)
        { state with
          inserting := none, persisted := state.persisted ++ [ticket]
          capturedFor := state.capturedFor ++
            if wroteCapture ticket.write then [ticket.id] else [] }
  | unpersisted (ticket : Ticket) (held : state.inserting = some ticket) :
      Change state (.inserted false) (State.lose { state with inserting := none } ticket)

/-- Every step is one of the changes, with the answer of the channel that led to it.

The events are gone through one by one; each sends to the channel at most once. -/
theorem step_change (state next : State capacity) (event : Event)
    (taken : step state event = some next) : Change state event next := by
  cases event with
  | enqueue write =>
    simp only [step] at taken
    split at taken
    next channel room =>
      obtain rfl := Option.some.inj taken
      exact Change.sent write channel room
    next full =>
      obtain rfl := Option.some.inj taken
      exact Change.stripped write full
    next closed =>
      obtain rfl := Option.some.inj taken
      exact Change.refused write closed
  | retry position =>
    simp only [step] at taken
    split at taken
    · exact absurd taken (by simp)
    next ticket waits =>
      split at taken
      next channel room =>
        obtain rfl := Option.some.inj taken
        exact Change.resent position ticket channel waits room
      next reason failed =>
        obtain rfl := Option.some.inj taken
        exact Change.givenUp position ticket reason waits failed
  | receive =>
    simp only [step] at taken
    split at taken
    next ticket channel idle first =>
      obtain rfl := Option.some.inj taken
      exact Change.received ticket channel idle first
    · exact absurd taken (by simp)
  | inserted ok =>
    simp only [step] at taken
    split at taken
    · exact absurd taken (by simp)
    next ticket held =>
      cases ok with
      | true =>
        obtain rfl := Option.some.inj taken
        exact Change.persisted ticket held
      | false =>
        obtain rfl := Option.some.inj taken
        exact Change.unpersisted ticket held

/-- An event adds to the lost writes what it gives up, and nothing else is lost. -/
theorem lost_of_step (state next : State capacity) (event : Event)
    (taken : step state event = some next) :
    next.lost = state.lost ++ (losing state event).toList := by
  cases step_change state next event taken with
  | sent write channel room => simp [losing, room]
  | stripped write full => simp [losing, full]
  | refused write closed => simp [losing, closed, State.lose]
  | resent position ticket channel waits room => simp [losing, waits, room]
  | givenUp position ticket reason waits failed => simp [losing, waits, failed, State.lose]
  | received ticket channel idle first => simp [losing]
  | persisted ticket held => simp [losing]
  | unpersisted ticket held => simp [losing, held, State.lose]

/-- The write an event hands over. -/
def Event.handing : Event → List HandedWrite
  | .enqueue write => [write]
  | _ => []

/-- An event adds to the writes handed over the one it hands over. -/
theorem handed_of_step (state next : State capacity) (event : Event)
    (taken : step state event = some next) : next.handed = state.handed ++ event.handing := by
  cases step_change state next event taken <;> simp [Event.handing, State.lose]

/-- The charges of a write that the fallback is applied to are the increments the
fallback makes. -/
theorem replicate_charge (id : Nat) (write : HandedWrite) :
    List.replicate (Ticket.charge ⟨id, write, true⟩) id =
      if (metadataOnlyCaptureFallback write.val).2 then [id] else [] := by
  cases carried : write.val.capture.isSome with
  | false => simp [Ticket.charge, Ticket.Reduced, metadataOnlyCaptureFallback, carried]
  | true => simp [Ticket.charge, Ticket.Reduced, metadataOnlyCaptureFallback, carried]

/-- A write sent whole is charged nothing, since nothing has been dropped of it. -/
theorem hand_whole {ledger : Ledger} (balanced : ledger.Balanced) (write : HandedWrite) :
    Ledger.Balanced
      { ledger with
        handed := ledger.handed ++ [write]
        pending := ⟨ledger.handed.length, write, false⟩ :: ledger.pending } := by
  simpa [Ticket.charge, Ticket.Reduced] using
    balanced.hand ⟨ledger.handed.length, write, false⟩ rfl

/-- A write that ends its wait in the list of retries leaves the rest pending, in an order that
does not matter. -/
theorem pending_eraseIdx (items retrying rest : List Ticket) (position : Nat) (ticket : Ticket)
    (found : retrying[position]? = some ticket) :
    (ticket :: (items ++ retrying.eraseIdx position ++ rest)).Perm (items ++ retrying ++ rest) := by
  obtain ⟨inRange, rfl⟩ := List.getElem?_eq_some_iff.mp found
  have erased := List.getElem_cons_eraseIdx_perm inRange
  exact (List.perm_middle.symm.trans (erased.append_left items)).append_right rest

/-- The write with the writer is one of the pending, and may be counted as the first of them. -/
theorem pending_inserting {state : State capacity} (balanced : state.ledger.Balanced)
    (ticket : Ticket) (held : state.inserting = some ticket) : Ledger.Balanced
      { state.ledger with pending := ticket :: (state.channel.items ++ state.retrying) } := by
  refine balanced.of_perm _ ?_
  simp only [State.pending, State.ledger, held, Option.toList_some]
  exact (List.perm_append_singleton _ _).symm

/-- A step keeps the books balanced.

There is a rule of the ledger for each change: a write is handed over, is moved, is lost or is
persisted. -/
theorem step_balanced (state next : State capacity) (event : Event)
    (balanced : state.ledger.Balanced) (taken : step state event = some next) :
    next.ledger.Balanced := by
  cases step_change state next event taken with
  | sent write channel room =>
    refine (hand_whole balanced write).of_perm _ ?_
    simp only [State.pending, State.ledger, Channel.items_of_trySend _ _ _ room,
      List.append_assoc, List.cons_append, List.nil_append]
    exact List.perm_middle
  | stripped write full =>
    have handed := balanced.hand ⟨state.handed.length, write, true⟩ rfl
    rw [replicate_charge] at handed
    refine handed.of_perm _ ?_
    simp only [State.pending, State.ledger, ← List.append_assoc]
    rw [List.append_assoc _ [_]]
    exact List.perm_middle
  | refused write closed => exact (hand_whole balanced write).lose _ _ rfl
  | resent position ticket channel waits room =>
    refine balanced.of_perm _ (List.Perm.trans ?_ (pending_eraseIdx state.channel.items
      state.retrying state.inserting.toList position ticket waits))
    simp only [State.pending, Channel.items_of_trySend _ _ _ room, List.append_assoc,
      List.cons_append, List.nil_append]
    exact List.perm_middle
  | givenUp position ticket reason waits failed =>
    exact (balanced.of_perm _ (pending_eraseIdx state.channel.items state.retrying
      state.inserting.toList position ticket waits)).lose _ _ rfl
  | received ticket channel idle first =>
    refine balanced.of_perm _ ?_
    simp only [State.pending, State.ledger, idle, Channel.items_of_recv _ _ _ first,
      Option.toList_none, Option.toList_some, List.append_nil, List.cons_append]
    exact List.perm_append_singleton _ _
  | persisted ticket held =>
    simpa [State.ledger, State.pending] using
      (pending_inserting balanced ticket held).persist _ _ rfl
  | unpersisted ticket held =>
    simpa [State.ledger, State.pending, State.lose] using
      (pending_inserting balanced ticket held).lose _ _ rfl

/-- No write is lost after the fallback took a capture from it. -/
def State.LostWhole (state : State capacity) : Prop := ∀ ticket ∈ state.lost, ¬ ticket.Reduced

/-- Every event keeps the balance, and keeps the lost writes whole exactly when it
gives up none that was reduced. -/
theorem step_exact (state : State capacity) (event : Event) (next : State capacity)
    (balanced : state.ledger.Balanced) (taken : step state event = some next) :
    next.ledger.Balanced ∧ (next.LostWhole ↔ state.LostWhole ∧ LosesWhole state event) := by
  constructor
  · exact step_balanced state next event balanced taken
  · simp only [State.LostWhole, LosesWhole, lost_of_step state next event taken,
      List.forall_mem_append, Option.mem_toList, Option.mem_def]

/-- A persisted write has kept what it was handed over for exactly when it was not
reduced. -/
theorem capture_write_eq_iff (ticket : Ticket) :
    ticket.write.capture = ticket.handed.val.capture ↔ ticket.charge = 0 := by
  obtain ⟨id, ⟨write, marked⟩, stripped⟩ := ticket
  cases stripped with
  | false => simp [Ticket.write, Ticket.charge, Ticket.Reduced]
  | true =>
    cases carried : write.capture with
    | none =>
      simp [Ticket.write, Ticket.charge, Ticket.Reduced, metadataOnlyCaptureFallback, carried]
    | some capture =>
      simp [Ticket.write, Ticket.charge, Ticket.Reduced, metadataOnlyCaptureFallback, carried]

/-- A ticket is charged once or not at all. -/
theorem charge_eq_ite (ticket : Ticket) :
    ticket.charge = if ticket.charge = 0 then 0 else 1 := by
  unfold Ticket.charge
  split <;> rfl

section Drained

variable (state : State capacity) (balanced : state.ledger.Balanced)
include balanced

/-- A persisted write is kept exactly when it was not reduced: a charge means that its capture
was dropped on the way. -/
theorem kept_of_persisted (ticket : Ticket) (member : ticket ∈ state.persisted) :
    state.Kept ticket.id ticket.handed ↔ ticket.charge = 0 := by
  have placed : ∀ other ∈ state.persisted, other ∈ state.ledger.tickets :=
    fun other member => List.mem_append_left _ (List.mem_append_right _ member)
  rw [← capture_write_eq_iff]
  constructor
  · rintro ⟨other, otherMember, same, kept⟩
    have identical := balanced.eq_of_id_eq other ticket (placed other otherMember)
      (placed ticket member) same
    rw [← identical] at kept ⊢
    exact kept
  · exact fun kept => ⟨ticket, member, rfl, kept⟩

/-- A lost write is not kept, because no other ticket has its number. -/
theorem not_kept_of_lost (ticket : Ticket) (member : ticket ∈ state.lost) :
    ¬ state.Kept ticket.id ticket.handed := by
  rintro ⟨other, otherMember, same, _⟩
  have apart := balanced.nodup
  rw [Ledger.tickets, List.map_append, List.nodup_append] at apart
  refine apart.2.2 other.id (List.mem_map_of_mem (List.mem_append_right _ otherMember)) ticket.id
    (List.mem_map_of_mem member) same

/-- No write is persisted twice. -/
theorem count_persisted_le_one (id : Nat) : (state.persisted.map Ticket.id).count id ≤ 1 := by
  have unique : (state.persisted.map Ticket.id).Nodup := by
    refine balanced.nodup.sublist (List.Sublist.map _ ?_)
    exact (List.sublist_append_right _ _).trans (List.sublist_append_left _ _)
  exact List.nodup_iff_count_le_one.mp unique id

/-- Once nothing is pending the counters are right exactly when no lost write had
been reduced. -/
theorem accounted_iff_lostWhole (drained : state.Drained) :
    state.Accounted ↔ state.LostWhole := by
  constructor
  · intro accounted ticket member reduced
    have found := balanced.known ticket (List.mem_append_right _ member)
    have counted := (accounted.1 ticket.id ticket.handed found).2
    rw [if_neg (not_kept_of_lost state balanced ticket member)] at counted
    have twice := balanced.lost ticket member
    simp only [State.ledger, Ticket.charge, if_pos reduced] at twice
    omega
  · intro whole
    refine ⟨fun id handed found => ⟨count_persisted_le_one state balanced id, ?_⟩,
      balanced.captured⟩
    obtain ⟨ticket, member, rfl, rfl⟩ := balanced.exists_ticket id handed found
    have settled : ticket ∈ state.persisted ∨ ticket ∈ state.lost := by
      have nonePending : state.pending = [] := drained
      simpa [Ledger.tickets, State.ledger, nonePending] using member
    rcases settled with persisted | lost
    · have counted := balanced.unlost ticket (List.mem_append_right _ persisted)
      simp only [kept_of_persisted state balanced ticket persisted]
      exact counted.trans (charge_eq_ite ticket)
    · have counted := balanced.lost ticket lost
      rw [if_neg (not_kept_of_lost state balanced ticket lost)]
      simpa [State.ledger, Ticket.charge, whole ticket lost] using counted

end Drained

/-- The books are balanced at the start, when nothing has been handed over. -/
theorem start_balanced (capacity : Nat) (closed : Bool) :
    (start capacity closed).ledger.Balanced := by
  refine ⟨?_, ?_, ?_, ?_, ?_, ?_⟩ <;>
    simp [start, State.ledger, State.pending, Ledger.tickets, Channel.empty]

/-- When the queue is drained the counters are right, exactly in the runs in which
no write loses its capture to the fallback and is then lost itself. -/
theorem accounted_iff_losesWhole (capacity : Nat) (closed : Bool) (events : List Event)
    (final : State capacity)
    (completed : Runs.run step (start capacity closed) events = some final)
    (drained : final.Drained) :
    final.Accounted ↔ Runs.Guarded step LosesWhole (start capacity closed) events := by
  have balanced := Runs.run_invariant step (fun state => state.ledger.Balanced)
    (fun state event next initial taken => (step_exact state event next initial taken).1)
    (start capacity closed) final events (start_balanced capacity closed) completed
  have initially : (start capacity closed).LostWhole := by simp [State.LostWhole, start]
  rw [accounted_iff_lostWhole final balanced drained]
  exact Runs.run_keeps_iff_guarded step LosesWhole (fun state => state.ledger.Balanced)
    State.LostWhole step_exact (start capacity closed) final events
    (start_balanced capacity closed) initially completed

def sampleCapture : CaptureInsert := ⟨none, none, some [1], none, false, false, none, none⟩

/-- A write with a capture. -/
def capturing : HandedWrite := ⟨⟨sampleRecord, [], [], some sampleCapture, []⟩, by decide⟩

/-- A full queue costs the second write its capture, and its metadata is
persisted. -/
theorem accounted_after_fallback : ∃ final,
    Runs.run step (start 1 false)
        [.enqueue capturing, .enqueue capturing, .receive, .retry 0, .inserted true, .receive,
          .inserted true] = some final ∧
      final.Accounted :=
  ⟨_, rfl, (accounted_iff_losesWhole 1 false
    [.enqueue capturing, .enqueue capturing, .receive, .retry 0, .inserted true, .receive,
      .inserted true] _ rfl (by decide)).mpr (by decide)⟩

/-- A queue that is still full at the second send has the write counted twice, once by the
fallback and once as lost. -/
theorem full_queue_counts_twice : ∃ final,
    Runs.run step (start 1 false)
        [.enqueue capturing, .enqueue capturing, .retry 0, .receive, .inserted true] =
      some final ∧ final.Drained ∧ ¬ final.Accounted := by
  refine ⟨_, rfl, by decide, fun accounted => ?_⟩
  exact absurd (accounted.1 1 capturing rfl).2 (by decide)

end CaptureQueue

end TraceGate
