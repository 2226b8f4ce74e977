/-! # Failures

What can go wrong while recording, streaming or talking to the server, what to tell the learner
about it, and whether trying again can help.
-/

namespace Viva

/-- The causes of failure of a session and its parts. -/
inductive Failure where
  /-- The learner or the host refused camera and microphone. -/
  | permissionDenied (detail : String)
  /-- There is no camera or microphone to record with. -/
  | deviceUnavailable (detail : String)
  /-- The encoder could not start, or stopped by itself. -/
  | recorderFault (detail : String)
  /-- A request or a read got no answer from the server. -/
  | network (detail : String)
  /-- The server answered with a status that is no success. -/
  | http (status : Nat)
  /-- There is no token, or the server rejects it. -/
  | unauthorized
  /-- A reply ended before its last event. -/
  | streamIncomplete
  /-- The data of an event do not fit its name. -/
  | malformedPayload (event reason : String)
  /-- The server reported an error inside a stream. -/
  | server (text : String) (recoverable : Bool)
  /-- The operation does not fit the state it was called in. -/
  | invalidState (detail : String)
  /-- A setting cannot be used. -/
  | configuration (detail : String)
  /-- A file could not be read, written or removed. -/
  | inputOutput (detail : String)
  deriving Repr, DecidableEq, Inhabited

namespace Failure

/-- The failure in words, for a log. -/
def message : Failure → String
  | permissionDenied detail => "permission denied: " ++ detail
  | deviceUnavailable detail => "device unavailable: " ++ detail
  | recorderFault detail => "recorder fault: " ++ detail
  | network detail => "network error: " ++ detail
  | http status => "HTTP error: status " ++ toString status
  | unauthorized => "unauthorized"
  | streamIncomplete => "stream ended before a terminal event"
  | malformedPayload event reason => "malformed `" ++ event ++ "` payload: " ++ reason
  | server text _ => "server error: " ++ text
  | invalidState detail => "invalid state: " ++ detail
  | configuration detail => "configuration error: " ++ detail
  | inputOutput detail => "I/O error: " ++ detail

/-- Trying the same thing again can succeed. -/
def isRecoverable : Failure → Bool
  | permissionDenied _ | deviceUnavailable _ | network _ | streamIncomplete
  | malformedPayload _ _ => true
  | http status => 500 ≤ status
  | server _ recoverable => recoverable
  | recorderFault _ | unauthorized | invalidState _ | configuration _ | inputOutput _ => false

/-- The token is of no use any more, so the learner has to sign in again. -/
def requiresLogout : Failure → Bool
  | unauthorized => true
  | http status => status == 401
  | _ => false

/-- The failure in words, for the learner. -/
def learnerMessage : Failure → String
  | permissionDenied _ => "Camera and microphone access was denied. Allow access and try again."
  | deviceUnavailable _ => "No camera or microphone was found. Connect a device and try again."
  | recorderFault _ => "Recording stopped unexpectedly. Your conversation has been kept."
  | network _ => "Connection problem. Check your network and retry."
  | http status => "The server returned an error (" ++ toString status ++ ")."
  | unauthorized => "Your session has expired. Please sign in again."
  | streamIncomplete => "The response was interrupted. Please retry."
  | server text _ => text
  | failure => failure.message

end Failure

end Viva
