import Viva.Media.Devices
import Viva.Media.Encoder

/-! # Capturing

A capture owns the stream it acquired last and the encoder that works on it, and collects the
chunks the encoder delivers. The stream stays available as a preview. The encoder may be given the
audio of another stream instead. That stream is not the capture's own, and of its tracks only those
are stopped here that it shares with a stream that was acquired.

Every start of the encoder begins a run. A run's fault is reported on a channel of its own, which
may be taken once and is known by the number of the run.
-/

namespace Viva

inductive CaptureState where
  | inactive
  | recording
  | paused
  deriving Repr, DecidableEq, Inhabited

namespace CaptureState

/-- The state by its name. -/
def label : CaptureState → String
  | inactive => "Inactive"
  | recording => "Recording"
  | paused => "Paused"

end CaptureState

structure Capture where
  devices : Devices := {}
  hardware : Hardware := {}
  encoder : Encoder
  /-- The stream acquired last, until it is released. -/
  stream : Option MediaStream := none
  state : CaptureState := .inactive
  /-- Chunks delivered since the last reset, the oldest first. -/
  chunks : List Chunk := []
  /-- How many runs have begun. -/
  runs : Nat := 0
  /-- The run whose fault channel has not been taken. -/
  faultChannel : Option Nat := none
  /-- The runs that failed, and why. -/
  faults : List (Nat × Failure) := []
  deriving Repr, DecidableEq, Inhabited

namespace Capture

/-- The time. -/
def now (capture : Capture) : Nat := capture.encoder.now

/-- Asks for a stream. Only when it is granted is the one before stopped. -/
def acquire (capture : Capture) (constraints : Constraints) :
    Capture × Except Failure MediaStream :=
  if !constraints.video && !constraints.audio then
    (capture, .error (.deviceUnavailable "no device requested"))
  else
    match capture.devices.request capture.hardware constraints with
    | .error failure => (capture, .error failure)
    | .ok (stream, devices, hardware) =>
      let hardware :=
        match capture.stream with
        | some previous => hardware.stopAll previous.tracks
        | none => hardware
      ({ capture with devices, hardware, stream := some stream }, .ok stream)

/-- Starts a run on a stream, with the audio of `audio` if there is one. -/
def startEncoding (capture : Capture) (stream : MediaStream) (audio : Option MediaStream) :
    Except Failure Capture := do
  if capture.state != .inactive then throw (.invalidState "encoder already running")
  let recorded :=
    match audio with
    | some audio => stream.withAudioFrom audio
    | none => stream
  let encoder ← capture.encoder.start capture.hardware recorded
  return { capture with
    encoder
    state := .recording
    runs := capture.runs + 1
    faultChannel := some capture.runs }

/-- Takes the fault channel of the current run. -/
def takeFaultChannel (capture : Capture) : Option Nat × Capture :=
  (capture.faultChannel, { capture with faultChannel := none })

/-- Why a run failed. -/
def faultOf (capture : Capture) (run : Nat) : Option Failure :=
  (capture.faults.find? (·.1 == run)).map (·.2)

/-- Pauses; false when the encoder is not recording. -/
def pause (capture : Capture) : Bool × Capture :=
  if capture.state == .recording then
    (true, { capture with encoder := capture.encoder.setPaused true, state := .paused })
  else (false, capture)

/-- Goes on; false when the encoder is not paused. -/
def resume (capture : Capture) : Bool × Capture :=
  if capture.state == .paused then
    (true, { capture with encoder := capture.encoder.setPaused false, state := .recording })
  else (false, capture)

/-- Stops every track acquired. -/
def releaseTracks (capture : Capture) : Capture :=
  match capture.stream with
  | some stream =>
    { capture with hardware := capture.hardware.stopAll stream.tracks, stream := none }
  | none => capture

/-- Stops the encoder and releases the tracks. The recording holds every chunk since the last
    reset. -/
def stop (capture : Capture) : Except Failure (Blob × Capture) :=
  if capture.state == .inactive then .error (.invalidState "encoder is not running")
  else
    .ok (Blob.concat capture.chunks Encoder.mimeType,
      { capture with encoder := capture.encoder.stop, state := .inactive }.releaseTracks)

/-- Stops the encoder and throws the chunks away. The tracks go on. -/
def reset (capture : Capture) : Capture :=
  { capture with
    encoder := if capture.state == .inactive then capture.encoder else capture.encoder.stop
    state := .inactive
    chunks := []
    faultChannel := none }

/-- How many chunks there are. -/
def chunkCount (capture : Capture) : Nat := capture.chunks.length

/-- The chunks from the one with this number on. -/
def chunksFrom (capture : Capture) (index : Nat) : List Chunk := capture.chunks.drop index

/-- Answers later requests for devices another way. -/
def setOutcome (capture : Capture) (outcome : PermissionOutcome) : Capture :=
  { capture with devices := { capture.devices with outcome } }

/-- Opens devices for somebody else. -/
def share (capture : Capture) (offer : List (String × TrackKind)) : Capture :=
  { capture with hardware := (capture.hardware.openAll offer).2 }

/-- Stops a track, as if its device were unplugged. -/
def stopTrack (capture : Capture) (track : Track) : Capture :=
  { capture with hardware := capture.hardware.stop track }

/-- Moves the clock. -/
def advanceTo (capture : Capture) (time : Nat) : Capture :=
  { capture with encoder := capture.encoder.advanceTo time }

/-- Lets the current timeslice end, if it is due: its chunk is collected, and its fault recorded and
    reported. -/
def fire (capture : Capture) : Capture × Option Failure :=
  let (encoder, item) := capture.encoder.fire
  let capture := { capture with encoder }
  match item with
  | none => (capture, none)
  | some (.ok chunk) => ({ capture with chunks := capture.chunks ++ [chunk] }, none)
  | some (.error failure) =>
    ({ capture with faults := capture.faults ++ [(capture.runs - 1, failure)] }, some failure)

/-- Moves the clock to `time` and lets happen what is due on the way, up to `count` times. -/
def advance (time : Nat) (capture : Capture) : Nat → Capture
  | 0 => capture.advanceTo time
  | count + 1 =>
    match capture.encoder.nextDue with
    | some due =>
      if due ≤ time then advance time (capture.advanceTo due).fire.1 count
      else capture.advanceTo time
    | none => capture.advanceTo time

/-- Time passes. Timeslices are at least a millisecond long, so there are at most `ms` of them. -/
def elapse (capture : Capture) (ms : Nat) : Capture :=
  advance (capture.now + ms) capture ms

end Capture

end Viva
