import Viva.Recorder.Operations

/-! # What time does to a recorder

Nothing is due while a recorder is settled. `elapse` moves the clock from one point where something
is due to the next, and lets happen there what is due: recording goes on, the limit is reached,
chunks are handed out, a timeslice of the encoder ends.
-/

namespace Viva.Recorder

/-- The time has come, if there is one to come. -/
def isDue (r : Recorder) : Option Nat → Bool
  | some time => time ≤ r.now
  | none => false

/-- Goes on after the page has been visible long enough, unless the pause is another one by now. -/
def fireResume (r : Recorder) : Recorder :=
  if r.isDue r.timers.visibilityResume then
    let r := { r with timers := r.timers.withoutResume }
    if r.state == .paused && r.pausedByVisibility then
      { r with pausedByVisibility := false }.resumeCapture.beginActive
    else r
  else r

/-- Tells that the limit is reached. -/
def fireLimit (r : Recorder) : Recorder :=
  if r.isDue r.timers.maxDuration then
    let r := { r with timers := { r.timers with maxDuration := none } }
    if r.state == .recording && !r.limitReached then
      { r with limitReached := true }.emit .maxDurationReached
    else r
  else r

/-- Hands out chunks, and waits for the next time. -/
def fireFlush (r : Recorder) : Recorder :=
  match r.timers.chunkFlush with
  | some time =>
    if time ≤ r.now then
      if r.state == .recording then
        { r with
          timers := { r.timers with
            chunkFlush := some (time + r.options.chunkInterval) } }.flushPending
      else { r with timers := { r.timers with chunkFlush := none } }
    else r
  | none => r

/-- Ends with the fault of the encoder's run, if that run is watched. -/
def takeFault (r : Recorder) (failure : Failure) : Recorder :=
  if r.timers.faultWatch.isSome then
    let r := { r with timers := { r.timers with faultWatch := none } }
    if r.state.isActive then r.fail failure else r
  else r

/-- Lets the encoder's timeslice end. -/
def fireEncoder (r : Recorder) : Recorder :=
  let (capture, fault) := r.capture.fire
  let r := { r with capture }
  match fault with
  | some failure => r.takeFault failure
  | none => r

/-- Lets happen what is due. -/
def settle (r : Recorder) : Recorder :=
  r.fireResume.fireLimit.fireFlush.fireEncoder

/-- The earlier of two times. -/
def earlier : Option Nat → Option Nat → Option Nat
  | some a, some b => some (min a b)
  | some a, none => some a
  | none, b => b

/-- When something is due next. -/
def nextDue (r : Recorder) : Option Nat :=
  earlier r.capture.encoder.nextDue
    (earlier r.timers.maxDuration (earlier r.timers.chunkFlush r.timers.visibilityResume))

/-- Moves the clock. -/
def advanceTo (r : Recorder) (time : Nat) : Recorder :=
  { r with capture := r.capture.advanceTo time }

/-- Moves the clock to `time` and lets happen what is due on the way, at up to `count` points. -/
def advance (time : Nat) (r : Recorder) : Nat → Recorder
  | 0 => r.advanceTo time
  | count + 1 =>
    match r.nextDue with
    | some due =>
      if due ≤ time then advance time (r.advanceTo due).settle count else r.advanceTo time
    | none => r.advanceTo time

/-- Time passes. The points where something is due are at least a millisecond apart. -/
def elapse (r : Recorder) (ms : Nat) : Recorder :=
  advance (r.now + ms) r ms

/-- What may happen to a recorder from outside. -/
inductive Input where
  | prepare
  | start
  | stop
  | pause
  | resume
  | setVisibility (visibility : Visibility)
  | abandon
  | reset
  | setAudio (audio : Option MediaStream)
  /-- Somebody else opens devices. -/
  | share (offer : List (String × TrackKind))
  | setOutcome (outcome : PermissionOutcome)
  | elapse (ms : Nat)
  deriving Repr, DecidableEq

/-- What an operation answers. -/
inductive Reply where
  /-- The operation has nothing to answer. -/
  | none
  | done
  | recording (blob : Blob)
  | failed (failure : Failure)
  deriving Repr, DecidableEq

namespace Reply

/-- The answer of an operation that succeeds without a value. -/
def ofResult : Except Failure Unit → Reply
  | .ok () => .done
  | .error failure => .failed failure

/-- The answer of an operation that gives out a recording. -/
def ofRecording : Except Failure Blob → Reply
  | .ok blob => .recording blob
  | .error failure => .failed failure

end Reply

/-- The recorder after an operation or after some time, settled, and the answer. -/
def perform (r : Recorder) : Input → Recorder × Reply
  | .prepare => let (r, result) := r.prepare; (r.settle, .ofResult result)
  | .start => let (r, result) := r.start; (r.settle, .ofResult result)
  | .stop => let (r, result) := r.stop; (r.settle, .ofRecording result)
  | .pause => (r.pause.settle, .none)
  | .resume => (r.resume.settle, .none)
  | .setVisibility visibility => ((r.setVisibility visibility).settle, .none)
  | .abandon => (r.abandon.settle, .none)
  | .reset => (r.reset.settle, .none)
  | .setAudio audio => (r.setAudio audio, .none)
  | .share offer => (r.share offer, .none)
  | .setOutcome outcome => (r.setOutcome outcome, .none)
  | .elapse ms => (r.elapse ms, .none)

/-- The recorder after an operation or after some time. -/
def step (r : Recorder) (input : Input) : Recorder :=
  (r.perform input).1

/-- The recorder after some operations and times. -/
def run (r : Recorder) (inputs : List Input) : Recorder :=
  inputs.foldl step r

end Viva.Recorder
