/-! # Who owns a conversation

A conversation follows at most one stream of a kind at a time. Every stream gets a ticket with a
generation of its own, and the slot remembers which ticket is current. Beginning a stream takes the
slot away from the one before and cancels it; only what the current stream reports counts.
-/

namespace Viva

structure Slot where
  /-- The generation of the stream that owns the slot. -/
  current : Option Nat := none
  /-- The generation of the next stream. -/
  next : Nat := 0
  /-- The generations of the streams that were cancelled. -/
  cancelled : List Nat := []
  deriving Repr, DecidableEq, Inhabited

namespace Slot

/-- The generation of the stream that a call of `start` begins. -/
def ticket (slot : Slot) : Nat := slot.next

/-- Cancels the current stream, if there is one, and leaves the slot empty. -/
def release (slot : Slot) : Slot :=
  { slot with current := none, cancelled := slot.current.toList ++ slot.cancelled }

/-- Begins a stream. -/
def start (slot : Slot) : Slot :=
  { slot.release with current := some slot.next, next := slot.next + 1 }

/-- The stream of this generation owns the slot. -/
def isCurrent (slot : Slot) (generation : Nat) : Bool :=
  slot.current == some generation

/-- A stream owns the slot. -/
def isLive (slot : Slot) : Bool :=
  slot.current.isSome

/-- The stream of this generation is over; the slot becomes empty if that stream owns it. -/
def finish (slot : Slot) (generation : Nat) : Slot :=
  if slot.isCurrent generation then { slot with current := none } else slot

/-- The stream of this generation was cancelled. -/
def isCancelled (slot : Slot) (generation : Nat) : Bool :=
  slot.cancelled.contains generation

/-- Cancels the stream of this generation, if it ever began, and leaves the slot as it is. -/
def cancelTicket (slot : Slot) (generation : Nat) : Slot :=
  if generation < slot.next then { slot with cancelled := generation :: slot.cancelled } else slot

end Slot

end Viva
