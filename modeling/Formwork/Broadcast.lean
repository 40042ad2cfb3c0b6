/-! # Broadcast channels

The senders of a channel share its messages, of which it keeps the last ones. A
receiver is the place of the message that it takes next. One that is late,
because a message it has not taken is kept no longer, is told how many it missed
and goes on with the oldest one kept. One that has taken all messages waits for
the next, or is told that the channel is closed if no sender is left.
-/

namespace Formwork

/-- What a receiver gets when it asks for its next message. -/
inductive Reception (α : Type) where
  | message (value : α)
  | lagged (missed : Nat)
  | closed
  | pending
deriving DecidableEq

/-- A channel: how many messages it keeps at most, how many senders and receivers
there are, how many messages were sent, and those that are kept, oldest first. -/
structure Broadcast (α : Type) where
  capacity : Nat
  senders : Nat
  receivers : Nat
  sent : Nat
  kept : List α
  length_kept : kept.length = min sent capacity

namespace Broadcast

variable {α : Type}

/-- A channel with one sender. -/
def ofCapacity (capacity : Nat) : Broadcast α where
  capacity
  senders := 1
  receivers := 0
  sent := 0
  kept := []
  length_kept := by simp

/-- Another sender. -/
def addSender (c : Broadcast α) : Broadcast α := { c with senders := c.senders + 1 }

/-- One sender less. -/
def dropSender (c : Broadcast α) : Broadcast α := { c with senders := c.senders - 1 }

/-- A receiver of the messages to come. -/
def subscribe (c : Broadcast α) : Nat × Broadcast α :=
  (c.sent, { c with receivers := c.receivers + 1 })

/-- One receiver less. -/
def dropReceiver (c : Broadcast α) : Broadcast α := { c with receivers := c.receivers - 1 }

/-- Sends a message, unless there is no receiver; a full channel lets go of its
oldest message. -/
def send? (c : Broadcast α) (message : α) : Option (Broadcast α) :=
  if c.receivers = 0 then none
  else some { c with
    sent := c.sent + 1
    kept := (c.kept ++ [message]).drop (c.kept.length + 1 - c.capacity)
    length_kept := by
      have := c.length_kept
      simp only [List.length_drop, List.length_append, List.length_singleton]
      omega }

/-- The place of the oldest message that is kept. -/
def oldest (c : Broadcast α) : Nat := c.sent - c.kept.length

/-- What the receiver at a place gets, and its place afterwards. -/
def receive (c : Broadcast α) (place : Nat) : Reception α × Nat :=
  if place < c.oldest then (.lagged (c.oldest - place), c.oldest)
  else match c.kept[place - c.oldest]? with
    | some message => (.message message, place + 1)
    | none => (if c.senders = 0 then .closed else .pending, place)

/-- A receiver waits only if no message was sent that it has not taken, kept or
not, and a sender is left. -/
theorem receive_eq_pending_iff (c : Broadcast α) (place : Nat) :
    (c.receive place).1 = .pending ↔ c.sent ≤ place ∧ c.senders ≠ 0 := by
  have hkept := c.length_kept
  have holdest : c.oldest = c.sent - c.kept.length := rfl
  rw [receive]
  split
  · rename_i hlate
    refine iff_of_false nofun fun h => ?_
    omega
  · cases hm : c.kept[place - c.oldest]? with
    | some message =>
        obtain ⟨hlt, _⟩ := List.getElem?_eq_some_iff.1 hm
        refine iff_of_false nofun fun h => ?_
        omega
    | none =>
        have hle := List.getElem?_eq_none_iff.1 hm
        have hall : c.sent ≤ place := by omega
        by_cases hs : c.senders = 0 <;> simp [hs, hall]

end Broadcast

end Formwork
