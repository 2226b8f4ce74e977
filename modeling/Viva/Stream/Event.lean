import Viva.Text.Blank
import Viva.Stream.Frame
import Viva.Stream.Payload
import Viva.Failure

/-! # Events of a stream

What a record says, by its name: a token of the interviewer's message, the end of a message, the
signal that the conversation is over, or an error. Records of other names say nothing.
-/

namespace Viva

/-- What the server says about an attempt when a message is done. -/
structure DonePayload where
  attemptId : Option String := none
  assignmentId : Option String := none
  objectiveTitle : Option String := none
  deriving Repr, DecidableEq, Inhabited

inductive Event where
  /-- A piece of the interviewer's message. -/
  | token (content : String)
  /-- The message is complete, and the attempt is known. -/
  | done (payload : DonePayload)
  /-- The message is complete. -/
  | messageDone
  /-- The interviewer has nothing more to ask. -/
  | assessmentComplete (evaluationId : Option String)
  /-- The server gives up on the stream. -/
  | error (text : String) (recoverable : Bool)
  /-- A record of a name that means nothing here. -/
  | unknown (name : String)
  deriving Repr, DecidableEq, Inhabited

namespace Event

/-- The fields of a `token` record. -/
def tokenFields : List Payload.Names := [["content"]]

/-- The fields of a `done` record. -/
def doneFields : List Payload.Names :=
  [["attempt_id", "attemptId"], ["assignment_id", "assignmentId"],
    ["objective_title", "objectiveTitle"]]

/-- The fields of an `assessment_complete` record. -/
def completeFields : List Payload.Names := [["evaluation_id", "evaluationId"]]

/-- The fields of an `error` record. -/
def errorFields : List Payload.Names := [["message"], ["recoverable"]]

/-- A `token` record's event. -/
def token? (data : Json.Tree) : Option Event := do
  match ← Payload.fields? tokenFields data with
  | [content] => some (.token (← Payload.requiredText? content))
  | _ => none

/-- A `done` record's event. -/
def done? (data : Json.Tree) : Option Event := do
  match ← Payload.fields? doneFields data with
  | [attempt, assignment, title] =>
    let attempt ← Payload.identifier? attempt
    let assignment ← Payload.identifier? assignment
    let title ← Payload.optionalText? title
    some (.done ⟨attempt, assignment, title⟩)
  | _ => none

/-- An `assessment_complete` record's event. -/
def complete? (data : Json.Tree) : Option Event := do
  match ← Payload.fields? completeFields data with
  | [evaluation] => some (.assessmentComplete (← Payload.identifier? evaluation))
  | _ => none

/-- An `error` record's event. -/
def error? (data : Json.Tree) : Option Event := do
  match ← Payload.fields? errorFields data with
  | [text, recoverable] =>
    let text ← Payload.requiredText? text
    let recoverable ← Payload.optionalBool? false recoverable
    some (.error text recoverable)
  | _ => none

/-- Reads data with `read`. Empty data give `empty`, if that is an event. -/
def ofData? (read : Json.Tree → Option Event) (empty : Option Event) (data : List Char) :
    Option Event :=
  if data.isEmpty then empty else (Json.Tree.ofText? data).bind read

/-- The event of a record. Data that do not fit the name are a failure. -/
def decode (frame : Frame) : Except Failure Event :=
  let data := Text.trimChars frame.data.toList
  let checked (event : Option Event) : Except Failure Event :=
    match event with
    | some event => .ok event
    | none => .error (.malformedPayload frame.event "the data do not fit the event")
  match frame.event with
  | "token" => checked (ofData? token? none data)
  | "done" => checked (ofData? done? (some (.done {})) data)
  | "message_done" => .ok .messageDone
  | "assessment_complete" => checked (ofData? complete? (some (.assessmentComplete none)) data)
  | "error" => checked (ofData? error? none data)
  | name => .ok (.unknown name)

/-- The event ends the reply to a message. -/
def isTerminal : Event → Bool
  | done _ | messageDone => true
  | _ => false

end Event

end Viva
