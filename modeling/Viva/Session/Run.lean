import Viva.Session.Calls
import Viva.Session.Pump

/-! # What may happen to a session

Calls begin, the server answers and delivers, the pump gets its turn, and time passes, in any order.
A run is a list of these.
-/

namespace Viva.Session

inductive Stimulus where
  | call (call : Call)
  /-- The server answers the request of the call with this number. -/
  | answer (id : Nat) (answer : Answer)
  /-- The server delivers to the stream of the call with this number. -/
  | read (id : Nat) (read : Read)
  /-- The server answers the upload of a part of the recording. -/
  | uploaded (answer : Answer)
  /-- The pump gets its turn. -/
  | pump
  /-- Time passes. -/
  | elapse (ms : Nat)
  /-- The host changes the conversation. -/
  | dispatch (action : Action)
  /-- The host signs the learner in or out. -/
  | setToken (token : Option String)
  /-- The learner changes the permission for the devices. -/
  | setOutcome (outcome : PermissionOutcome)
  deriving Repr, DecidableEq

/-- Lets happen what is due, and calls return whose streams were cancelled. -/
def settle (s : Session) : Session :=
  (s.onRecorder Recorder.settle).releaseCancelled

/-- What a stimulus does at once. -/
def react (s : Session) : Stimulus → Session
  | .call call => s.begin call
  | .answer id answer => s.takeAnswer id answer
  | .read id read => s.takeReadOf id read
  | .uploaded _ => s.takePumpAnswer
  | .pump => s.runPump
  | .elapse ms => s.onRecorder (·.elapse ms)
  | .dispatch action => s.dispatch action
  | .setToken token => { s with tokenFile := token.map Token.toContent }
  | .setOutcome outcome => s.onRecorder (·.setOutcome outcome)

/-- The session after a stimulus. -/
def step (s : Session) (stimulus : Stimulus) : Session :=
  (s.react stimulus).settle

/-- The session after some stimuli. -/
def run (s : Session) (stimuli : List Stimulus) : Session :=
  stimuli.foldl step s

end Viva.Session
