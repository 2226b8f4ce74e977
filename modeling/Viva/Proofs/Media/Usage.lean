import Viva.Proofs.Media.Encoding

/-! # A capture in use

A `Capture.Input` is one thing that may happen to a capture from outside: one of its operations, time
that passes, or what other people do with devices. What is refused changes nothing.
-/

namespace Viva.Capture

/-- What may happen to a capture from outside. -/
inductive Input where
  | acquire (constraints : Constraints)
  /-- A run on a stream, with the audio of another one in place of its own if there is one. -/
  | start (stream : MediaStream) (audio : Option MediaStream)
  | pause
  | resume
  | stop
  | reset
  | releaseTracks
  | takeFaultChannel
  | setOutcome (outcome : PermissionOutcome)
  /-- Somebody else opens devices. -/
  | share (offer : List (String × TrackKind))
  /-- Somebody else stops a track, or its device is unplugged. -/
  | unplug (track : Track)
  | elapse (ms : Nat)
  deriving Repr, DecidableEq

/-- The capture after an input. -/
def step (capture : Capture) : Input → Capture
  | .acquire constraints => (capture.acquire constraints).1
  | .start stream audio =>
    match capture.startEncoding stream audio with
    | .ok started => started
    | .error _ => capture
  | .pause => capture.pause.2
  | .resume => capture.resume.2
  | .stop =>
    match capture.stop with
    | .ok (_, stopped) => stopped
    | .error _ => capture
  | .reset => capture.reset
  | .releaseTracks => capture.releaseTracks
  | .takeFaultChannel => capture.takeFaultChannel.2
  | .setOutcome outcome => capture.setOutcome outcome
  | .share offer => capture.share offer
  | .unplug track => capture.stopTrack track
  | .elapse ms => capture.elapse ms

/-- The capture after some inputs. -/
def run (capture : Capture) (inputs : List Input) : Capture :=
  inputs.foldl step capture

/-- A capture that has never been used; its devices and its encoder are up to its host. -/
structure New (capture : Capture) : Prop where
  stream : capture.stream = none
  granted : capture.devices.granted = []
  state : capture.state = .inactive
  encoder : capture.encoder.run = none
  chunks : capture.chunks = []

theorem isNew (encoder : Encoder) (idle : encoder.run = none) : ({ encoder } : Capture).New :=
  ⟨rfl, rfl, rfl, idle, rfl⟩

/-- What an answer to a request for a stream grants. -/
def grantedBy (capture : Capture) : Input → List MediaStream
  | .acquire constraints => (capture.acquire constraints).2.toOption.toList
  | _ => []

/-- The streams that were acquired in some inputs, in their order. -/
def acquired (capture : Capture) : List Input → List MediaStream
  | [] => []
  | input :: rest => capture.grantedBy input ++ (capture.step input).acquired rest

/-! ## What stays as it was -/

/-- Neither devices nor streams are concerned. -/
structure Keeps (a b : Capture) : Prop where
  devices : b.devices = a.devices
  hardware : b.hardware = a.hardware
  stream : b.stream = a.stream

section
variable {a b c : Capture}

theorem keeps_same (a : Capture) : a.Keeps a :=
  ⟨rfl, rfl, rfl⟩

theorem Keeps.trans (first : a.Keeps b) (second : b.Keeps c) : a.Keeps c where
  devices := second.devices.trans first.devices
  hardware := second.hardware.trans first.hardware
  stream := second.stream.trans first.stream

theorem keeps_fire (a : Capture) : a.Keeps a.fire.1 := by
  unfold fire
  dsimp only
  split <;> exact ⟨rfl, rfl, rfl⟩

theorem keeps_advance (time : Nat) (a : Capture) (count : Nat) : a.Keeps (advance time a count) := by
  induction count generalizing a with
  | zero => exact ⟨rfl, rfl, rfl⟩
  | succ count ih =>
      unfold advance
      split
      · rename_i due _
        split
        · have moves : a.Keeps (a.advanceTo due) := ⟨rfl, rfl, rfl⟩
          exact (moves.trans (keeps_fire _)).trans (ih _)
        · exact ⟨rfl, rfl, rfl⟩
      · exact ⟨rfl, rfl, rfl⟩

theorem keeps_start {stream : MediaStream} {audio : Option MediaStream}
    (started : a.startEncoding stream audio = .ok b) : a.Keeps b := by
  obtain ⟨encoder, recorded, begun, rfl⟩ := startEncoding_eq started
  exact ⟨rfl, rfl, rfl⟩

theorem keeps_pause (a : Capture) : a.Keeps a.pause.2 := by
  unfold pause
  split <;> exact ⟨rfl, rfl, rfl⟩

theorem keeps_resume (a : Capture) : a.Keeps a.resume.2 := by
  unfold resume
  split <;> exact ⟨rfl, rfl, rfl⟩

end

end Viva.Capture
