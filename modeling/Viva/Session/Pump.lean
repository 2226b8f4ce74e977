import Viva.Session.Basic

/-! # Uploading parts of the recording

The pump takes the recorder's events one after the other. It sends the parts of the recording in
their order, one at a time, and holds them back while the attempt is not known. A part whose upload
fails is not sent again.
-/

namespace Viva.Session

/-- Changes the pump. -/
def setPump (s : Session) (pump : Pump) : Session := { s with pump }

/-- Sends the next part, if there is one; without a token it is dropped. -/
def uploadNext (s : Session) (attemptId : String) : List (Blob × Nat) → Session
  | [] => s.setPump { s.pump with held := [], uploading := none }
  | (blob, sequence) :: rest =>
    match s.send .pump (.chunk attemptId blob sequence) with
    | .ok s => s.setPump { s.pump with held := rest, uploading := some attemptId }
    | .error _ => uploadNext s attemptId rest

/-- Takes an event of the recorder. -/
def takeEvent (s : Session) (event : RecordingEvent) : Session :=
  let s := s.setPump { s.pump with taken := s.pump.taken + 1 }
  match event with
  | .stateChanged _ => s
  | .maxDurationReached => { s with maxDurationReached := true }
  | .failed failure => s.report failure
  | .chunkReady blob sequence =>
    let held := s.pump.held ++ [(blob, sequence)]
    match s.conversation.attemptId with
    | none => s.setPump { s.pump with held }
    | some attemptId => s.uploadNext attemptId held

/-- Takes events until an upload has to be waited for. -/
def takeEvents (s : Session) : List RecordingEvent → Session
  | [] => s
  | event :: rest => if s.pump.uploading.isSome then s else (s.takeEvent event).takeEvents rest

/-- The events of the recorder that the pump has not taken. -/
def untaken (s : Session) : List RecordingEvent :=
  match s.recorder with
  | some recorder => recorder.log.drop s.pump.taken
  | none => []

/-- The pump goes on as far as it can. -/
def runPump (s : Session) : Session :=
  s.takeEvents s.untaken

/-- The server has answered the upload of a part. Whatever the answer, the next part follows. -/
def takePumpAnswer (s : Session) : Session :=
  match s.pump.uploading with
  | some attemptId => s.uploadNext attemptId s.pump.held
  | none => s

end Viva.Session
