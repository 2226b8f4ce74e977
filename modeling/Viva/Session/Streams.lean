import Viva.Session.Basic

/-! # Streams of a session

A call that streams begins a stream in the slot of its kind, asks the server for it, and reports its
events to the conversation. Only the current stream of a slot may change anything: the events, the
end and the failure of a stream that was superseded are passed over.
-/

namespace Viva.Session

/-- What an event does to the conversation. -/
def applyEvent (s : Session) : Event → Session
  | .token content => (s.dispatch .beginInterviewerMessage).dispatch (.appendToken content)
  | .done payload =>
    (s.dispatch
      (.attemptIdentified payload.attemptId payload.assignmentId payload.objectiveTitle)).dispatch
        .finishStreamingMessage
  | .messageDone => s.dispatch .finishStreamingMessage
  | .assessmentComplete evaluationId => s.dispatch (.assessmentComplete evaluationId)
  | .error _ _ | .unknown _ => s

/-- A stream's events reach the conversation while the stream is current. -/
def observer (transport : Transport) (generation : Nat) : Consumption.Observer Session where
  notify s event := if (s.slot transport).isCurrent generation then s.applyEvent event else s
  isCancelled s := (s.slot transport).isCancelled generation

/-- Ends a stream with a failure. -/
def failStream (s : Session) (id : Nat) (transport : Transport) (generation : Nat)
    (failure : Failure) : Session :=
  let slot := s.slot transport
  if slot.isCurrent generation then
    (s.setSlot transport (slot.finish generation)).failCall id failure
  else s.refuse id failure

/-- Ends a stream as its consumption ended. -/
def endStream (s : Session) (id : Nat) (transport : Transport) (generation : Nat) :
    Except Failure StreamOutcome → Session
  | .ok .cancelled => s.succeed id
  | .ok (.completed _ _) =>
    let slot := s.slot transport
    let wasCurrent := slot.isCurrent generation
    let s := s.setSlot transport (slot.finish generation)
    match transport with
    | .response =>
      if wasCurrent then (s.dispatch .finishStreamingMessage).succeed id else s.succeed id
    | .eventSource => s.succeed id
  | .error failure => s.failStream id transport generation failure

/-- Waits for a read, unless the stream was cancelled. -/
def awaitRead (s : Session) (id : Nat) (transport : Transport) (generation : Nat)
    (consumption : Consumption) : Session :=
  if (s.slot transport).isCancelled generation then s.succeed id
  else s.await id (.read transport generation consumption)

/-- Begins a stream and asks the server for it. -/
def openStream (s : Session) (id : Nat) (transport : Transport) (endpoint : Endpoint) : Session :=
  let slot := s.slot transport
  let generation := slot.ticket
  let s := s.setSlot transport slot.start
  match s.send (.call id) endpoint with
  | .ok s => s.await id (.headers transport generation)
  | .error failure => s.failStream id transport generation failure

/-- The server has answered the request for a stream. -/
def takeHeaders (s : Session) (id : Nat) (transport : Transport) (generation : Nat) :
    Except Failure Unit → Session
  | .ok () => s.awaitRead id transport generation {}
  | .error failure => s.failStream id transport generation failure

/-- What a read of a stream gives. -/
inductive Read where
  | bytes (bytes : List UInt8)
  | failure (detail : String)
  /-- The body is over. -/
  | ended
  deriving Repr, DecidableEq

/-- A read of a stream. -/
def takeRead (s : Session) (id : Nat) (transport : Transport) (generation : Nat)
    (consumption : Consumption) : Read → Session
  | .bytes bytes =>
    match consumption.takeBytes (observer transport generation) s bytes with
    | (.open consumption, s) => s.awaitRead id transport generation consumption
    | (.over result, s) => s.endStream id transport generation result
  | .failure detail =>
    s.endStream id transport generation
      (.error (.network (Failure.message (.network detail))))
  | .ended => s.endStream id transport generation (consumption.finish transport)

/-- Calls that wait for a read of a stream that was cancelled return. -/
def releaseCancelled (s : Session) : Session :=
  { s with
    calls := s.calls.map fun
      | .waiting (.read transport generation consumption) =>
        if (s.slot transport).isCancelled generation then .returned (some (.ok ()))
        else .waiting (.read transport generation consumption)
      | state => state }

end Viva.Session
