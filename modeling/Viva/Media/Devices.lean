import Viva.Failure
import Viva.Media.Track

/-! # Camera and microphone

Test devices that answer a request for permission as they were told to, and deliver test tracks.
-/

namespace Viva

/-- The devices that are asked for. -/
structure Constraints where
  video : Bool := true
  audio : Bool := true
  deriving Repr, DecidableEq, Inhabited

/-- How a request for the devices is answered. -/
inductive PermissionOutcome where
  | grant
  | deny
  | noDevice
  deriving Repr, DecidableEq, Inhabited

structure Devices where
  outcome : PermissionOutcome := .grant
  /-- The streams granted so far, the oldest first. -/
  granted : List MediaStream := []
  deriving Repr, DecidableEq, Inhabited

namespace Devices

/-- The ids and kinds of the tracks of the next stream. -/
def offer (devices : Devices) (constraints : Constraints) : List (String × TrackKind) :=
  let number := toString devices.granted.length
  (if constraints.video then [("synthetic-video-" ++ number, .video)] else [])
    ++ (if constraints.audio then [("synthetic-audio-" ++ number, .audio)] else [])

/-- Asks for a stream. -/
def request (devices : Devices) (hardware : Hardware) (constraints : Constraints) :
    Except Failure (MediaStream × Devices × Hardware) :=
  match devices.outcome with
  | .deny => .error (.permissionDenied "user dismissed the prompt")
  | .noDevice => .error (.deviceUnavailable "no capture device attached")
  | .grant =>
    let (tracks, hardware) := hardware.openAll (devices.offer constraints)
    let stream : MediaStream := ⟨tracks⟩
    .ok (stream, { devices with granted := devices.granted ++ [stream] }, hardware)

end Devices

end Viva
