import Viva.Media.Encoder

/-! # An encoder and the channel it delivers into

The channel has room for 64 items. When it is full the encoder holds the next item and stands
still; as soon as there is room it goes on, and timeslices that ended meanwhile follow at once.
-/

namespace Viva

structure EncoderChannel where
  encoder : Encoder
  /-- Items delivered and not taken yet. -/
  queue : List (Except Failure Chunk) := []
  /-- The item that finds no room. -/
  held : Option (Except Failure Chunk) := none
  /-- The encoder was started at least once. -/
  opened : Bool := false

namespace EncoderChannel

/-- How many items find room. -/
def capacity : Nat := 64

/-- Nothing will be delivered any more. -/
def isClosed (channel : EncoderChannel) : Bool :=
  channel.opened && channel.encoder.run.isNone && channel.held.isNone && channel.queue.isEmpty

/-- Puts an item into the channel, or holds it. -/
def deliver (channel : EncoderChannel) (item : Except Failure Chunk) : EncoderChannel :=
  if channel.queue.length < capacity then
    { channel with queue := channel.queue ++ [item], held := none }
  else { channel with held := some item }

/-- Lets the current timeslice end, if it is due. -/
def fire (channel : EncoderChannel) : EncoderChannel :=
  let (encoder, item) := channel.encoder.fire
  let channel := { channel with encoder }
  match item with
  | some item => channel.deliver item
  | none => channel

/-- Lets timeslices end that are due, up to `count` of them, while no item is held. -/
def catchUp (channel : EncoderChannel) : Nat → EncoderChannel
  | 0 => channel
  | count + 1 => if channel.held.isSome then channel else channel.fire.catchUp count

/-- Delivers the item that is held, if there is room now, and what is due after it. -/
def settle (channel : EncoderChannel) : EncoderChannel :=
  let channel :=
    match channel.held with
    | some item => channel.deliver item
    | none => channel
  channel.catchUp channel.encoder.now

/-- When something happens next. -/
def nextDue (channel : EncoderChannel) : Option Nat :=
  if channel.held.isSome then none else channel.encoder.nextDue

/-- Moves the clock to `time` and lets happen what is due on the way, up to `count` times. -/
def advance (time : Nat) (channel : EncoderChannel) : Nat → EncoderChannel
  | 0 => { channel with encoder := channel.encoder.advanceTo time }
  | count + 1 =>
    match channel.nextDue with
    | some due =>
      if due ≤ time then
        advance time { channel with encoder := channel.encoder.advanceTo due }.fire count
      else { channel with encoder := channel.encoder.advanceTo time }
    | none => { channel with encoder := channel.encoder.advanceTo time }

/-- Time passes. Timeslices are at least a millisecond long, so there are at most `ms` of them. -/
def elapse (channel : EncoderChannel) (ms : Nat) : EncoderChannel :=
  advance (channel.encoder.now + ms) channel ms

/-- Starts the encoder with a channel of its own. -/
def start (channel : EncoderChannel) (hardware : Hardware) (stream : MediaStream) :
    Except Failure EncoderChannel := do
  let encoder ← channel.encoder.start hardware stream
  return { encoder, opened := true }

/-- Takes what was delivered. -/
def take (channel : EncoderChannel) : List (Except Failure Chunk) × EncoderChannel :=
  (channel.queue, { channel with queue := [] })

end EncoderChannel

end Viva
