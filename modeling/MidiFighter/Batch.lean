import Mathlib.Data.List.Basic

/-!
# Batches

A one-place link between a sender and a receiver. The sender fills a batch,
message by message, and closes it; the receiver takes a closed batch whole.
While a batch is closed the sender has to wait, and a sender that has waited
in vain drops its message.

The messages of a link are those the receiver has and those of the batch.
`send` adds its message at their end or drops it; nothing else changes them,
so what the receiver has is what was sent, in order and without repetition,
up to the messages dropped.

An inbox is the other end: batches come whole, one at a time, and are read
message by message. Its reader takes a batch for read when its last message
is, and so never gets past an empty one.
-/

/-- Messages on their way to a receiver. The sender collects them in `filling`
and closes the batch, a closed batch is the receiver's to take, and `received`
is what was taken so far. -/
structure Batch (α : Type*) where
  filling : List α
  closed : Bool
  received : List α

namespace Batch

variable {α : Type*}

def empty : Batch α := ⟨[], false, []⟩

def messages (b : Batch α) : List α := b.received ++ b.filling

def take (b : Batch α) : Batch α :=
  if b.closed then ⟨[], false, b.received ++ b.filling⟩ else b

/-- The sender waits for the receiver, who may come in time. -/
def await (inTime : Bool) (b : Batch α) : Batch α := if inTime then b.take else b

def send (capacity : Nat) (inTime : Bool) (a : α) (b : Batch α) : Batch α :=
  let b := b.await inTime
  if b.closed then b
  else
    { b with
      filling := b.filling ++ [a]
      closed := decide (capacity ≤ (b.filling ++ [a]).length) }

def flush (inTime : Bool) (b : Batch α) : Batch α :=
  if b.filling.isEmpty then b else { b with closed := true }.await inTime

def reset (b : Batch α) : Batch α := ⟨[], false, b.received⟩

/-- A closed batch is not empty, and an open one has room. -/
structure Ok (capacity : Nat) (b : Batch α) : Prop where
  closed : b.closed = true → b.filling ≠ []
  length_le : b.filling.length ≤ capacity
  room : b.closed = false → b.filling.length < capacity

variable {capacity : Nat} {inTime : Bool} {b : Batch α}

theorem take_of_open (h : b.closed = false) : b.take = b := by
  rw [take, h]
  exact if_neg Bool.false_ne_true

theorem take_closed (b : Batch α) : b.take.closed = false := by
  unfold take
  split
  · rfl
  · rename_i h
    exact eq_false_of_ne_true h

theorem filling_take (h : b.filling = []) : b.take.filling = [] := by
  unfold take
  split
  · rfl
  · exact h

@[simp] theorem messages_take (b : Batch α) : b.take.messages = b.messages := by
  unfold take messages
  split
  · exact List.append_nil _
  · rfl

@[simp] theorem messages_await (inTime : Bool) (b : Batch α) :
    (b.await inTime).messages = b.messages := by
  unfold await
  split
  · exact messages_take b
  · rfl

theorem messages_send_of_open (h : (b.await inTime).closed = false) (a : α) :
    (b.send capacity inTime a).messages = b.messages ++ [a] := by
  rw [← messages_await inTime b, send]
  simp only [h, Bool.false_eq_true, if_false, messages, List.append_assoc]

theorem messages_send (capacity : Nat) (inTime : Bool) (a : α) (b : Batch α) :
    (b.send capacity inTime a).messages = b.messages ∨
      (b.send capacity inTime a).messages = b.messages ++ [a] := by
  by_cases h : (b.await inTime).closed = true
  · left
    rw [send, if_pos h, messages_await]
  · exact Or.inr (messages_send_of_open (eq_false_of_ne_true h) a)

theorem messages_send_of_inTime (capacity : Nat) (a : α) (b : Batch α) :
    (b.send capacity true a).messages = b.messages ++ [a] :=
  messages_send_of_open (show (b.await true).closed = false from take_closed b) a

@[simp] theorem messages_flush (inTime : Bool) (b : Batch α) :
    (b.flush inTime).messages = b.messages := by
  unfold flush
  split
  · rfl
  · exact messages_await inTime _

theorem filling_flush (b : Batch α) : (b.flush true).filling = [] := by
  unfold flush
  split
  · rename_i h
    exact List.isEmpty_iff.mp h
  · rfl

theorem messages_reset (b : Batch α) : b.reset.messages.Sublist b.messages := by
  rw [messages, messages, show b.reset.filling = [] from rfl, List.append_nil]
  exact List.sublist_append_left _ _

theorem Ok.take (h : b.Ok capacity) (hcapacity : 0 < capacity) : b.take.Ok capacity := by
  unfold Batch.take
  split
  · exact ⟨fun h => absurd h Bool.false_ne_true, Nat.zero_le _, fun _ => hcapacity⟩
  · exact h

theorem Ok.await (h : b.Ok capacity) (hcapacity : 0 < capacity) (inTime : Bool) :
    (b.await inTime).Ok capacity := by
  unfold Batch.await
  split
  · exact h.take hcapacity
  · exact h

theorem Ok.send (h : b.Ok capacity) (hcapacity : 0 < capacity) (inTime : Bool) (a : α) :
    (b.send capacity inTime a).Ok capacity := by
  have hawait := h.await hcapacity inTime
  unfold Batch.send
  dsimp only
  split
  · exact hawait
  · rename_i hopen
    have hroom := hawait.room (eq_false_of_ne_true hopen)
    refine ⟨fun _ => List.append_ne_nil_of_right_ne_nil _ (List.cons_ne_nil _ _), ?_, ?_⟩
    · rw [List.length_append, List.length_singleton]
      exact hroom
    · exact fun hlt => Nat.not_le.mp (of_decide_eq_false hlt)

theorem Ok.flush (h : b.Ok capacity) (hcapacity : 0 < capacity) (inTime : Bool) :
    (b.flush inTime).Ok capacity := by
  unfold Batch.flush
  split
  · exact h
  · rename_i hfilling
    have hclosed : Ok capacity { b with closed := true } :=
      ⟨fun _ hnil => hfilling (List.isEmpty_iff.mpr hnil), h.length_le,
        fun hopen => absurd hopen.symm Bool.false_ne_true⟩
    exact hclosed.await hcapacity inTime

theorem ok_reset (hcapacity : 0 < capacity) (b : Batch α) : b.reset.Ok capacity :=
  ⟨fun h => absurd h Bool.false_ne_true, Nat.zero_le _, fun _ => hcapacity⟩

end Batch

/-- The other direction: the batch its reader is at, which may be empty
already, and the batches that are still to come. -/
structure Inbox (α : Type*) where
  batch : Option (List α)
  pending : List (List α)

namespace Inbox

variable {α : Type*}

def arrive : Inbox α → Inbox α
  | ⟨none, batch :: pending⟩ => ⟨some batch, pending⟩
  | i => i

def read : Inbox α → Option α × Inbox α
  | ⟨some [a], pending⟩ => (some a, ⟨none, pending⟩)
  | ⟨some (a :: b :: rest), pending⟩ => (some a, ⟨some (b :: rest), pending⟩)
  | i => (none, i)

def reset (i : Inbox α) : Inbox α := ⟨none, i.pending⟩

def batches (i : Inbox α) : List (List α) := i.batch.toList ++ i.pending

/-- The messages up to the first empty batch. The reader takes that one for
the end of the input and does not ask for the next. -/
def readable (batches : List (List α)) : List α :=
  (batches.takeWhile fun batch => !batch.isEmpty).flatten

@[simp] theorem batches_arrive : ∀ i : Inbox α, i.arrive.batches = i.batches
  | ⟨none, []⟩ => rfl
  | ⟨none, _ :: _⟩ => rfl
  | ⟨some _, _⟩ => rfl

theorem flatten_read : ∀ i : Inbox α,
    i.batches.flatten = i.read.1.toList ++ i.read.2.batches.flatten
  | ⟨none, _⟩ => rfl
  | ⟨some [], _⟩ => rfl
  | ⟨some [_], _⟩ => rfl
  | ⟨some (_ :: _ :: _), _⟩ => rfl

theorem readable_read : ∀ i : Inbox α,
    readable i.batches = i.read.1.toList ++ readable i.read.2.batches
  | ⟨none, _⟩ => rfl
  | ⟨some [], _⟩ => rfl
  | ⟨some [_], _⟩ => rfl
  | ⟨some (_ :: _ :: _), _⟩ => rfl

theorem flatten_reset (i : Inbox α) : i.reset.batches.flatten.Sublist i.batches.flatten := by
  rw [show i.reset.batches = i.pending from rfl, batches, List.flatten_append]
  exact List.sublist_append_right _ _

end Inbox
