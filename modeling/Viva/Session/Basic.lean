import Viva.Conversation.Store
import Viva.Recorder.Clock
import Viva.Session.Endpoint
import Viva.Stream.Consumption
import Viva.Stream.Slot
import Viva.Token.Basic

/-! # A session's state

A session leads one learner through an assessment: it keeps the conversation, drives the recorder
and talks to the server. Its calls do not block. A call that has to wait for the server is kept as
what it waits for, and goes on when that arrives; so at every moment the session is a plain value.
-/

namespace Viva

/-- What a call in flight waits for. -/
inductive Awaiting where
  /-- The server's answer to the request for a stream. -/
  | headers (transport : Transport) (generation : Nat)
  /-- The next read of a stream. -/
  | read (transport : Transport) (generation : Nat) (consumption : Consumption)
  /-- The answer to the upload of the recording of an attempt. -/
  | upload (attemptId : String) (recording : Blob)
  /-- The answer to the notice that an attempt is over. -/
  | completion
  deriving Repr, DecidableEq

/-- What a call gives back: nothing, or whether it succeeded. -/
abbrev CallResult := Option (Except Failure Unit)

inductive CallState where
  | waiting (awaiting : Awaiting)
  | returned (result : CallResult)

namespace CallState

/-- The call has returned. -/
def isReturned : CallState → Bool
  | returned _ => true
  | waiting _ => false

end CallState

/-- Who waits for the answer to a request. -/
inductive Waiter where
  /-- The call with this number. -/
  | call (id : Nat)
  /-- The upload of parts of the recording. -/
  | pump
  deriving Repr, DecidableEq

/-- A request that was sent. -/
structure Sent where
  waiter : Waiter
  endpoint : Endpoint
  token : String
  deriving Repr, DecidableEq

/-- Uploads parts of the recording in their order. -/
structure Pump where
  /-- How many of the recorder's events it has taken. -/
  taken : Nat := 0
  /-- Parts that are not sent yet, with their numbers. -/
  held : List (Blob × Nat) := []
  /-- The attempt of the upload that is not answered yet. -/
  uploading : Option String := none
  deriving Repr, DecidableEq

structure Session where
  /-- The address that all requests start with. -/
  baseUrl : String
  store : Store := {}
  /-- What the token file holds, if there is one. -/
  tokenFile : Option String := none
  recorder : Option Recorder := none
  /-- Who owns the conversation among the replies. -/
  replies : Slot := {}
  /-- Who owns it among the standing connections. -/
  events : Slot := {}
  /-- What the learner said last. -/
  lastMessage : Option String := none
  /-- A recording whose upload failed. -/
  finalRecording : Option Blob := none
  maxDurationReached : Bool := false
  pump : Pump := {}
  /-- The calls begun so far, by their numbers. -/
  calls : List CallState := []
  /-- The requests sent so far, the oldest first. -/
  sent : List Sent := []
  /-- What the wall clock shows. -/
  wallClock : Timestamp := ""

namespace Session

/-- The conversation. -/
def conversation (s : Session) : Conversation := s.store.conversation

/-- Applies an action to the conversation. -/
def dispatch (s : Session) (action : Action) : Session :=
  { s with store := s.store.dispatch action }

/-- The token to send. -/
def token? (s : Session) : Option String :=
  s.tokenFile.bind Token.ofContent?

/-- Tells the learner of a failure; the token goes if it is of no use any more. -/
def report (s : Session) (failure : Failure) : Session :=
  { s with tokenFile := if failure.requiresLogout then none else s.tokenFile }.dispatch
    (.setError failure.learnerMessage)

/-- Sends a request, if there is a token. -/
def send (s : Session) (waiter : Waiter) (endpoint : Endpoint) : Except Failure Session :=
  match s.token? with
  | none => .error .unauthorized
  | some token => .ok { s with sent := s.sent ++ [⟨waiter, endpoint, token⟩] }

/-- The call waits. -/
def await (s : Session) (id : Nat) (awaiting : Awaiting) : Session :=
  { s with calls := s.calls.set id (.waiting awaiting) }

/-- The call returns. -/
def giveBack (s : Session) (id : Nat) (result : CallResult) : Session :=
  { s with calls := s.calls.set id (.returned result) }

/-- The call succeeds. -/
def succeed (s : Session) (id : Nat) : Session :=
  s.giveBack id (some (.ok ()))

/-- The call is refused; the learner is not told. -/
def refuse (s : Session) (id : Nat) (failure : Failure) : Session :=
  s.giveBack id (some (.error failure))

/-- The call fails, and the learner is told. -/
def failCall (s : Session) (id : Nat) (failure : Failure) : Session :=
  (s.report failure).refuse id failure

/-- The slot of the streams of a kind. -/
def slot (s : Session) : Transport → Slot
  | .response => s.replies
  | .eventSource => s.events

/-- Changes the slot of the streams of a kind. -/
def setSlot (s : Session) (transport : Transport) (slot : Slot) : Session :=
  match transport with
  | .response => { s with replies := slot }
  | .eventSource => { s with events := slot }

/-- Cancels the current stream of a kind and closes the message it was streaming. -/
def supersede (s : Session) (transport : Transport) : Session :=
  let slot := s.slot transport
  if slot.isLive then (s.setSlot transport slot.release).dispatch .finishStreamingMessage else s

end Session

end Viva
