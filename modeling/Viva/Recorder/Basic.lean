import Viva.Media.Capture

/-! # The recorder's state

A recorder adds to a capture what a whole recording needs: how long it has been recording, chunks
handed out as they come, a limit on the time, and pauses while the page is hidden.
`Viva.Recorder.Operations` says what it does, `Viva.Recorder.Clock` what time does to it.
-/

namespace Viva

inductive RecordingState where
  | idle
  | initializing
  /-- Devices are acquired and the encoder waits. -/
  | ready
  | recording
  | paused
  | stopping
  | completed
  | error
  | abandoned
  deriving Repr, DecidableEq, Inhabited

namespace RecordingState

/-- The state by its name. -/
def label : RecordingState → String
  | idle => "Idle"
  | initializing => "Initializing"
  | ready => "Ready"
  | recording => "Recording"
  | paused => "Paused"
  | stopping => "Stopping"
  | completed => "Completed"
  | error => "Error"
  | abandoned => "Abandoned"

/-- The encoder holds live tracks. -/
def isActive : RecordingState → Bool
  | ready | recording | paused => true
  | _ => false

/-- A new recording may begin. -/
def isOver : RecordingState → Bool
  | idle | error | completed | abandoned => true
  | _ => false

end RecordingState

/-- Whether the learner sees the page. -/
inductive Visibility where
  | visible
  | hidden
  deriving Repr, DecidableEq, Inhabited

/-- What a recorder tells. -/
inductive RecordingEvent where
  | stateChanged (state : RecordingState)
  /-- The chunks since the last of these, and its number. -/
  | chunkReady (blob : Blob) (sequence : Nat)
  /-- The limit is reached; the recording goes on. -/
  | maxDurationReached
  | failed (failure : Failure)
  deriving Repr, DecidableEq, Inhabited

/-- How to record. Times are in milliseconds. -/
structure RecordingOptions where
  constraints : Constraints := {}
  /-- A prepared recorder starts at once. -/
  autoStart : Bool := false
  /-- Time of recording after which to tell that the limit is reached; zero for no limit. -/
  maxDuration : Nat := 0
  /-- How often chunks are handed out; zero for never. -/
  chunkInterval : Nat := 10000
  /-- How long the page has to be visible again before recording goes on. -/
  resumeDelay : Nat := 500
  deriving Repr, DecidableEq, Inhabited

namespace RecordingOptions

/-- Chunks are handed out as they come. -/
def handsOutChunks (options : RecordingOptions) : Bool :=
  options.chunkInterval != 0

end RecordingOptions

/-- What is going to happen, and when. -/
structure Timers where
  /-- The limit is reached. -/
  maxDuration : Option Nat := none
  /-- Chunks are handed out. -/
  chunkFlush : Option Nat := none
  /-- Recording goes on, since the page is visible again. -/
  visibilityResume : Option Nat := none
  /-- The run of the encoder whose fault would end the recording. -/
  faultWatch : Option Nat := none
  deriving Repr, DecidableEq, Inhabited

namespace Timers

/-- Without the timers that only a running recording has. -/
def withoutRecording (timers : Timers) : Timers :=
  { timers with maxDuration := none, chunkFlush := none }

/-- Without the resumption. -/
def withoutResume (timers : Timers) : Timers :=
  { timers with visibilityResume := none }

end Timers

structure Recorder where
  options : RecordingOptions
  capture : Capture
  /-- Recorded instead of the microphone from the next preparation on. -/
  audio : Option MediaStream := none
  /-- Everything told so far, the oldest first. -/
  log : List RecordingEvent := []
  state : RecordingState := .idle
  /-- Time of recording up to the last interruption. -/
  accumulated : Nat := 0
  /-- Since when it has been recording without interruption. -/
  activeSince : Option Nat := none
  /-- How many chunks were handed out. -/
  flushed : Nat := 0
  /-- The number of the next hand-out. -/
  nextSequence : Nat := 0
  /-- The limit was reached. -/
  limitReached : Bool := false
  /-- It is paused since the page is hidden. -/
  pausedByVisibility : Bool := false
  failure : Option Failure := none
  timers : Timers := {}
  deriving Repr, DecidableEq, Inhabited

/-- What can be seen of a recorder. -/
structure RecorderSnapshot where
  state : RecordingState
  /-- Time of recording without the pauses. -/
  duration : Nat
  chunkCount : Nat
  flushed : Nat
  nextSequence : Nat
  pausedByVisibility : Bool
  failure : Option Failure
  deriving Repr, DecidableEq, Inhabited

namespace Recorder

/-- The time. -/
def now (r : Recorder) : Nat := r.capture.now

/-- Tells something. -/
def emit (r : Recorder) (event : RecordingEvent) : Recorder :=
  { r with log := r.log ++ [event] }

/-- Enters a state, and tells so unless it is in that state already. -/
def setState (r : Recorder) (state : RecordingState) : Recorder :=
  if r.state == state then r else { r with state }.emit (.stateChanged state)

/-- Time of recording without the pauses. -/
def duration (r : Recorder) : Nat :=
  match r.activeSince with
  | some since => r.accumulated + (r.now - since)
  | none => r.accumulated

/-- What can be seen of it. -/
def snapshot (r : Recorder) : RecorderSnapshot :=
  { state := r.state
    duration := r.duration
    chunkCount := r.capture.chunkCount
    flushed := r.flushed
    nextSequence := r.nextSequence
    pausedByVisibility := r.pausedByVisibility
    failure := r.failure }

end Recorder

end Viva
