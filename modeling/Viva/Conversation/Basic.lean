/-! # A conversation

What the learner sees of an attempt: the phase it is in, the messages, whether an answer is awaited,
and what is known of the attempt so far. `Viva.Conversation.Action` says how it changes.
-/

namespace Viva

/-- Where an attempt stands. -/
inductive Phase where
  /-- No assignment, or one whose error was put aside before an attempt began. -/
  | idle
  /-- An assignment is bound; camera and microphone are not granted yet. -/
  | initializing
  /-- The attempt can begin. -/
  | ready
  /-- Learner and interviewer talk. -/
  | inProgress
  /-- The interviewer has nothing more to ask. -/
  | closureReady
  /-- The attempt is being handed in. -/
  | completing
  /-- The attempt is handed in. -/
  | completed
  /-- Something failed. -/
  | error
  deriving Repr, DecidableEq, Inhabited

namespace Phase

/-- The phase as failures name it. -/
def label : Phase → String
  | idle => "Idle"
  | initializing => "Initializing"
  | ready => "Ready"
  | inProgress => "InProgress"
  | closureReady => "ClosureReady"
  | completing => "Completing"
  | completed => "Completed"
  | error => "Error"

end Phase

inductive Speaker where
  | learner
  | interviewer
  | system
  deriving Repr, DecidableEq, Inhabited

/-- One turn of the conversation. -/
structure Message where
  id : String
  speaker : Speaker
  content : String
  /-- More tokens may come. -/
  isStreaming : Bool
  deriving Repr, DecidableEq, Inhabited

/-- A point in time, as the clock that took it writes it. -/
abbrev Timestamp := String

/-- Everything a conversation is shown from. -/
structure Conversation where
  phase : Phase := .idle
  attemptId : Option String := none
  assignmentId : Option String := none
  objectiveTitle : Option String := none
  /-- Messages, the oldest first. -/
  messages : List Message := []
  /-- An answer of the interviewer is awaited. -/
  isWaiting : Bool := false
  /-- What the learner was last told about a failure. -/
  error : Option String := none
  startedAt : Option Timestamp := none
  completedAt : Option Timestamp := none
  evaluationId : Option String := none
  /-- The interviewer has nothing more to ask once the message that still streams is complete. -/
  completionPending : Bool := false
  /-- The number of the next message. -/
  nextMessage : Nat := 0
  deriving Repr, DecidableEq, Inhabited

namespace Conversation

/-- The message that receives tokens. -/
def streamingMessage? (c : Conversation) : Option Message :=
  c.messages.find? (·.isStreaming)

/-- Some message receives tokens. -/
def isStreaming (c : Conversation) : Bool :=
  c.messages.any (·.isStreaming)

/-- The learner may say something. -/
def canSend (c : Conversation) : Bool :=
  c.phase == .inProgress

/-- The id of the message with this number. -/
def messageId (n : Nat) : String :=
  "msg-" ++ toString n

/-- Adds a message at the end. -/
def push (c : Conversation) (speaker : Speaker) (content : String) (isStreaming : Bool) :
    Conversation :=
  { c with
    messages := c.messages ++ [⟨messageId c.nextMessage, speaker, content, isStreaming⟩]
    nextMessage := c.nextMessage + 1 }

/-- Adds text to the first message that receives tokens. -/
def appendToFirst (content : String) : List Message → List Message
  | [] => []
  | message :: rest =>
    if message.isStreaming then { message with content := message.content ++ content } :: rest
    else message :: appendToFirst content rest

/-- Adds text to the message that receives tokens, if there is one. -/
def append (c : Conversation) (content : String) : Conversation :=
  { c with messages := appendToFirst content c.messages }

/-- No message receives tokens any more. -/
def closeMessages (c : Conversation) : Conversation :=
  { c with messages := c.messages.map fun message => { message with isStreaming := false } }

/-- A value that, once set, stays. -/
def fill (known new : Option String) : Option String :=
  known.or new

end Conversation

end Viva
