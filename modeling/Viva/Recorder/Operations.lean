import Viva.Recorder.Basic

/-! # What a recorder does

A recorder goes from `ready` or straight to `recording`, between `recording` and `paused`, and ends
in `completed`, `error` or `abandoned`, from where it may begin anew. Operations that do not fit the
state are refused or do nothing.
-/

namespace Viva.Recorder

/-- Stops the time of recording, and the timers that go with it. -/
def suspend (r : Recorder) : Recorder :=
  { r with
    accumulated := r.duration
    activeSince := none
    timers := r.timers.withoutRecording }

/-- Hands out the chunks since the last time, if there are any. -/
def flushPending (r : Recorder) : Recorder :=
  let pending := r.capture.chunksFrom r.flushed
  if pending.isEmpty then r
  else
    { r with
      flushed := r.flushed + pending.length
      nextSequence := r.nextSequence + 1 }.emit
        (.chunkReady (Blob.concat pending Encoder.mimeType) r.nextSequence)

/-- Drops the recording: no timer, no chunk, no track is left, and all counters are zero. -/
def discard (r : Recorder) : Recorder :=
  { r with
    timers := {}
    capture := r.capture.reset.releaseTracks
    accumulated := 0
    activeSince := none
    flushed := 0
    nextSequence := 0
    limitReached := false
    pausedByVisibility := false }

/-- Ends with a failure. The time of recording and the counters stay to be seen. -/
def fail (r : Recorder) (failure : Failure) : Recorder :=
  let r := r.suspend
  ({ r with
      timers := {}
      capture := r.capture.reset.releaseTracks
      pausedByVisibility := false
      failure := some failure }.setState .error).emit (.failed failure)

/-- Waits for the limit, unless there is none or it was reached before. -/
def armLimit (r : Recorder) : Recorder :=
  if r.options.maxDuration = 0 || r.limitReached then r
  else
    let remaining := r.options.maxDuration - r.duration
    { r with timers := { r.timers with maxDuration := some (r.now + remaining) } }

/-- Waits for the next hand-out of chunks, if there is to be one. -/
def armFlush (r : Recorder) : Recorder :=
  if r.options.handsOutChunks then
    { r with timers := { r.timers with chunkFlush := some (r.now + r.options.chunkInterval) } }
  else r

/-- Records from now on. -/
def beginActive (r : Recorder) : Recorder :=
  ({ r with activeSince := some r.now }.setState .recording).armLimit.armFlush

/-- Pauses the encoder. -/
def pauseCapture (r : Recorder) : Recorder :=
  { r with capture := r.capture.pause.2 }

/-- Lets the encoder go on. -/
def resumeCapture (r : Recorder) : Recorder :=
  { r with capture := r.capture.resume.2 }

/-- Watches the run of the encoder for its fault. -/
def watchFaults (r : Recorder) : Recorder :=
  let (channel, capture) := r.capture.takeFaultChannel
  match channel with
  | some run => { r with capture, timers := { r.timers with faultWatch := some run } }
  | none => { r with capture }

/-- Begins anew: acquires the devices and starts the encoder. Recording starts at once, or waits
    for `start`. -/
def openRecording (r : Recorder) (atOnce : Bool) : Recorder × Except Failure Unit :=
  let r := { r.discard with failure := none }.setState .initializing
  match r.capture.acquire r.options.constraints with
  | (capture, .error failure) => ({ r with capture }.fail failure, .error failure)
  | (capture, .ok stream) =>
    let r := { r with capture }
    match r.capture.startEncoding stream r.audio with
    | .error failure => (r.fail failure, .error failure)
    | .ok capture =>
      let r := { r with capture }.watchFaults
      if atOnce then (r.beginActive, .ok ())
      else (r.pauseCapture.setState .ready, .ok ())

/-- Acquires the devices, so that recording can start; it does start if the options say so. Does
    nothing while there is a recording. -/
def prepare (r : Recorder) : Recorder × Except Failure Unit :=
  if r.state.isOver then r.openRecording r.options.autoStart else (r, .ok ())

/-- Starts recording, from whatever state allows it. -/
def start (r : Recorder) : Recorder × Except Failure Unit :=
  if r.state.isOver then r.openRecording true
  else
    match r.state with
    | .ready => (r.resumeCapture.beginActive, .ok ())
    | .recording => (r, .ok ())
    | state => (r, .error (.invalidState ("cannot start recording from " ++ state.label)))

/-- Pauses on the learner's behalf. From now on a visible page does not end the pause. -/
def pause (r : Recorder) : Recorder :=
  match r.state with
  | .recording =>
    let r := r.suspend.pauseCapture
    { r with pausedByVisibility := false, timers := r.timers.withoutResume }.setState .paused
  | .paused => { r with pausedByVisibility := false, timers := r.timers.withoutResume }
  | _ => r

/-- Ends a pause on the learner's behalf. -/
def resume (r : Recorder) : Recorder :=
  match r.state with
  | .paused =>
    { r with
      pausedByVisibility := false
      timers := r.timers.withoutResume }.resumeCapture.beginActive
  | _ => r

/-- Pauses while the page is hidden, and goes on some time after it is visible again. -/
def setVisibility (r : Recorder) : Visibility → Recorder
  | .hidden =>
    let r := { r with timers := r.timers.withoutResume }
    if r.state == .recording then
      { r.suspend.pauseCapture with pausedByVisibility := true }.setState .paused
    else r
  | .visible =>
    if r.state == .paused && r.pausedByVisibility then
      { r with
        timers := { r.timers with visibilityResume := some (r.now + r.options.resumeDelay) } }
    else r

/-- Ends the recording and gives it out. Chunks not handed out yet go out before, if chunks are
    handed out at all. -/
def stop (r : Recorder) : Recorder × Except Failure Blob :=
  if !r.state.isActive then
    (r, .error (.invalidState ("cannot stop recording from " ++ r.state.label)))
  else
    let r := (r.setState .stopping).suspend
    let r := { r with timers := {}, pausedByVisibility := false }
    match r.capture.stop with
    | .error failure => (r.fail failure, .error failure)
    | .ok (blob, capture) =>
      let r := { r with capture }
      let r := if r.options.handsOutChunks then r.flushPending else r
      (r.setState .completed, .ok blob)

/-- Drops the recording for good and releases the devices. -/
def abandon (r : Recorder) : Recorder :=
  r.discard.setState .abandoned

/-- Drops the recording, and its failure with it. -/
def reset (r : Recorder) : Recorder :=
  { r.discard with failure := none }.setState .idle

/-- Records the audio of a stream from the next preparation on, or the microphone again. The stream
    may be anybody's, also one that the recorder has acquired itself. -/
def setAudio (r : Recorder) (audio : Option MediaStream) : Recorder :=
  { r with audio }

/-- Opens devices for somebody else. -/
def share (r : Recorder) (offer : List (String × TrackKind)) : Recorder :=
  { r with capture := r.capture.share offer }

/-- Answers later requests for devices another way. -/
def setOutcome (r : Recorder) (outcome : PermissionOutcome) : Recorder :=
  { r with capture := r.capture.setOutcome outcome }

end Viva.Recorder
