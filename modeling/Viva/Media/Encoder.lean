import Viva.Failure
import Viva.Media.Track
import Viva.Media.Blob
import Viva.Text.Utf8

/-! # The encoder

A running encoder delivers a chunk at the end of every timeslice, on a grid that starts when it is
started. While it is paused the ends of timeslices pass without a chunk. It may be set to fail
instead of delivering the chunk of a certain number.

The encoder holds the clock: `now` is the time in milliseconds, and `advanceTo` moves it. Nothing
happens by itself; `fire` lets the end of a timeslice happen that is due.
-/

namespace Viva

/-- An encoder at work. -/
structure EncoderRun where
  /-- When the current timeslice ends. -/
  nextTick : Nat
  /-- The number of the next chunk. -/
  ordinal : Nat := 0
  paused : Bool := false
  deriving Repr, DecidableEq, Inhabited

structure Encoder where
  now : Nat := 0
  /-- Length of a timeslice. -/
  timeslice : Nat
  /-- The number of the chunk that it fails at. -/
  faultAfter : Option Nat := none
  /-- The ids of the tracks it was last started with. -/
  encodedTracks : List String := []
  run : Option EncoderRun := none
  deriving Repr, DecidableEq, Inhabited

namespace Encoder

/-- The kind of data that chunks are made of. -/
def mimeType : String := "video/webm"

/-- A number with at least `width` digits. -/
def padded (width n : Nat) : String :=
  let digits := toString n
  String.ofList (List.replicate (width - digits.length) '0') ++ digits

/-- The chunk with this number. -/
def chunkPayload (ordinal : Nat) : Chunk :=
  Text.Utf8.encode ("chunk-" ++ padded 4 ordinal ++ ";")

/-- What it says when it fails. -/
def crash : Failure := .recorderFault "encoder crashed"

/-- Starts anew with the tracks of a stream. -/
def start (encoder : Encoder) (hardware : Hardware) (stream : MediaStream) :
    Except Failure Encoder :=
  if !stream.isLive hardware then .error (.recorderFault "stream has no live tracks")
  else if encoder.timeslice = 0 then .error (.recorderFault "timeslice must be non-zero")
  else
    .ok { encoder with
      encodedTracks := stream.tracks.map (·.id)
      run := some { nextTick := encoder.now + encoder.timeslice } }

/-- Pauses or goes on, if it is at work. -/
def setPaused (encoder : Encoder) (paused : Bool) : Encoder :=
  { encoder with run := encoder.run.map fun run => { run with paused } }

/-- Stops. -/
def stop (encoder : Encoder) : Encoder :=
  { encoder with run := none }

/-- When the current timeslice ends. -/
def nextDue (encoder : Encoder) : Option Nat :=
  encoder.run.map (·.nextTick)

/-- Moves the clock. -/
def advanceTo (encoder : Encoder) (time : Nat) : Encoder :=
  { encoder with now := time }

/-- Lets the current timeslice end, if it is due: the encoder after it, and the chunk or the fault
    it delivers. -/
def fire (encoder : Encoder) : Encoder × Option (Except Failure Chunk) :=
  match encoder.run with
  | none => (encoder, none)
  | some run =>
    if encoder.now < run.nextTick then (encoder, none)
    else
      let next := run.nextTick + encoder.timeslice
      if run.paused then ({ encoder with run := some { run with nextTick := next } }, none)
      else if encoder.faultAfter = some run.ordinal then (encoder.stop, some (.error crash))
      else
        ({ encoder with run := some { run with nextTick := next, ordinal := run.ordinal + 1 } },
          some (.ok (chunkPayload run.ordinal)))

end Encoder

end Viva
