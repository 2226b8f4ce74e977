import Viva.Session.Streams

/-! # The calls of a session

What each call does up to the point where it returns or waits for the server, and what it does when
the server answers. A failure is told to the learner before the call returns it; a call that does
not fit the phase is refused without a word to the learner.
-/

namespace Viva

inductive Call where
  /-- Begins anew with an assignment. -/
  | assign (assignmentId : String)
  | grantPermissions
  /-- Begins an attempt and streams the interviewer's first message. -/
  | start
  /-- Begins an attempt that the server knows already. -/
  | startExisting (attemptId objectiveTitle : String)
  | sendMessage (content : String)
  /-- Does again what failed last. -/
  | retry
  | clearError
  | continueAfterClosure
  /-- Follows the standing connection until the server closes it. -/
  | followEvents
  | pauseRecording
  | resumeRecording
  | setVisibility (visibility : Visibility)
  /-- Ends the recording, uploads it, and hands the attempt in. -/
  | finish
  /-- Drops everything. -/
  | abandon
  deriving Repr, DecidableEq

namespace Session

/-- The failure of a call that does not fit the phase. -/
def wrongPhase (verb : String) (phase : Phase) : Failure :=
  .invalidState (verb ++ " in " ++ phase.label)

/-- The failure of a call that needs an assignment. -/
def unassigned : Failure := .invalidState "no assignment bound"

/-- The failure of a call that needs an attempt. -/
def unidentified : Failure := .invalidState "attempt not identified"

/-- Begins anew with an assignment: no stream, no message and no recording of an earlier one is
    kept. -/
def assign (s : Session) (assignmentId : String) : Session :=
  { s with
    replies := s.replies.release
    events := s.events.release
    lastMessage := none
    finalRecording := none
    maxDurationReached := false }.dispatch (.assign assignmentId)

/-- Prepares the recorder. -/
def prepareRecorder (s : Session) : Session × Except Failure Unit :=
  match s.recorder with
  | none => (s, .ok ())
  | some recorder =>
    let (recorder, result) := recorder.prepare
    ({ s with recorder := some recorder }, result)

/-- Starts the recorder. -/
def startRecorder (s : Session) : Session × Except Failure Unit :=
  match s.recorder with
  | none => (s, .ok ())
  | some recorder =>
    let (recorder, result) := recorder.start
    ({ s with recorder := some recorder }, result)

/-- Acquires the devices; after that the attempt can begin. -/
def acquireDevices (s : Session) (id : Nat) : Session :=
  match s.prepareRecorder with
  | (s, .error failure) => s.failCall id failure
  | (s, .ok ()) => (s.dispatch .grantPermissions).succeed id

/-- Asks for camera and microphone, again if it was refused before. -/
def grantPermissions (s : Session) (id : Nat) : Session :=
  let c := s.conversation
  if c.phase == .initializing then s.acquireDevices id
  else if (c.phase == .error || c.phase == .idle) && c.attemptId.isNone then
    match c.assignmentId with
    | none => s.refuse id unassigned
    | some assignmentId => (s.dispatch (.assign assignmentId)).acquireDevices id
  else s.refuse id (wrongPhase "cannot grant permissions" c.phase)

/-- An attempt may begin in this phase. -/
def canStart (phase : Phase) : Bool :=
  phase == .ready || phase == .initializing

/-- Begins an attempt and streams the interviewer's first message. -/
def start (s : Session) (id : Nat) : Session :=
  let c := s.conversation
  if !canStart c.phase then s.refuse id (wrongPhase "cannot start" c.phase)
  else
    match c.assignmentId with
    | none => s.refuse id unassigned
    | some assignmentId =>
      match (s.dispatch (.startAssessment none none s.wallClock)).startRecorder with
      | (s, .error failure) => s.failCall id failure
      | (s, .ok ()) => s.openStream id .response (.start assignmentId)

/-- Begins an attempt that the server knows already. -/
def startExisting (s : Session) (id : Nat) (attemptId objectiveTitle : String) : Session :=
  let c := s.conversation
  if !canStart c.phase then s.refuse id (wrongPhase "cannot start" c.phase)
  else
    let action := .startAssessment (some attemptId) (some objectiveTitle) s.wallClock
    match (s.dispatch action).startRecorder with
    | (s, .error failure) => s.failCall id failure
    | (s, .ok ()) => s.succeed id

/-- Opens a message of the interviewer and streams the reply to a message into it. -/
def streamReply (s : Session) (id : Nat) (content : String) : Session :=
  let s := s.dispatch .beginInterviewerMessage
  match s.conversation.attemptId with
  | none => s.failCall id unidentified
  | some attemptId => s.openStream id .response (.message attemptId content)

/-- Says something and streams the interviewer's reply. A reply still streaming is superseded. -/
def sendMessage (s : Session) (id : Nat) (content : String) : Session :=
  if !s.conversation.canSend then s.succeed id
  else
    let s := s.supersede .response
    if s.store.accepts (.sendMessage content) then
      { s.dispatch (.sendMessage content) with lastMessage := some content }.streamReply id content
    else s.succeed id

/-- Does again what failed before the learner said anything: the beginning, or what comes before
    it. -/
def retryStart (s : Session) (id : Nat) : Session :=
  let c := s.conversation
  if c.attemptId.isSome then (s.dispatch .clearError).succeed id
  else if c.startedAt.isNone then s.grantPermissions id
  else
    match c.assignmentId with
    | none => s.refuse id unassigned
    | some assignmentId =>
      ((s.dispatch (.assign assignmentId)).dispatch .grantPermissions).start id

/-- Does again what failed last. -/
def retry (s : Session) (id : Nat) : Session :=
  let c := s.conversation
  if c.phase != .error then s.refuse id (wrongPhase "nothing to retry" c.phase)
  else
    match s.lastMessage with
    | none => s.retryStart id
    | some content =>
      let s := s.dispatch .clearError
      if s.conversation.canSend then s.streamReply id content
      else s.refuse id (.invalidState "attempt is not in progress")

/-- Follows the standing connection. -/
def followEvents (s : Session) (id : Nat) : Session :=
  match s.conversation.attemptId with
  | none => s.refuse id unidentified
  | some attemptId => s.openStream id .eventSource (.stream attemptId)

/-- Changes the recorder, if there is one. -/
def onRecorder (s : Session) (change : Recorder → Recorder) : Session :=
  { s with recorder := s.recorder.map change }

/-- The recording to upload: one whose upload failed before, or what the recorder gives out now.
    Nothing is uploaded when that is empty. -/
def takeRecording (s : Session) : Session × Option Blob :=
  match s.finalRecording, s.recorder with
  | some blob, _ => ({ s with finalRecording := none }, some blob)
  | none, none => (s, none)
  | none, some recorder =>
    let (recorder, result) := recorder.stop
    let s := { s with recorder := some recorder }
    match result with
    | .ok blob => (s, if blob.isEmpty then none else some blob)
    | .error _ => (s, none)

/-- Keeps the recording for another try, and fails. -/
def failUpload (s : Session) (id : Nat) (recording : Blob) (failure : Failure) : Session :=
  { s with finalRecording := some recording }.failCall id failure

/-- Tells the server that the attempt is over. -/
def sendCompletion (s : Session) (id : Nat) (attemptId : String) : Session :=
  match s.send (.call id) (.complete attemptId) with
  | .ok s => s.await id .completion
  | .error failure => s.failCall id failure

/-- Ends the recording, uploads it, and hands the attempt in. -/
def finish (s : Session) (id : Nat) : Session :=
  let c := s.conversation
  if !(c.phase == .inProgress || c.phase == .closureReady) then
    s.refuse id (wrongPhase "cannot finish" c.phase)
  else
    match c.attemptId with
    | none => s.failCall id unidentified
    | some attemptId =>
      let s := ((s.supersede .response).supersede .eventSource).dispatch .beginCompletion
      match s.takeRecording with
      | (s, none) => s.sendCompletion id attemptId
      | (s, some recording) =>
        match s.send (.call id) (.video attemptId recording) with
        | .ok s => s.await id (.upload attemptId recording)
        | .error failure => s.failUpload id recording failure

/-- The server has answered the upload of the recording. -/
def takeUploaded (s : Session) (id : Nat) (attemptId : String) (recording : Blob) :
    Except Failure Unit → Session
  | .ok () => s.sendCompletion id attemptId
  | .error failure => s.failUpload id recording failure

/-- The server has answered that the attempt is over. -/
def takeCompleted (s : Session) (id : Nat) : Except Failure Unit → Session
  | .ok () => (s.dispatch (.completeAssessment s.wallClock)).succeed id
  | .error failure => s.failCall id failure

/-- Drops everything. -/
def abandon (s : Session) : Session :=
  ((s.supersede .response).supersede .eventSource).onRecorder Recorder.abandon

/-- Runs a call up to where it returns or waits. -/
def runCall (s : Session) (id : Nat) : Call → Session
  | .assign assignmentId => (s.assign assignmentId).giveBack id none
  | .grantPermissions => s.grantPermissions id
  | .start => s.start id
  | .startExisting attemptId objectiveTitle => s.startExisting id attemptId objectiveTitle
  | .sendMessage content => s.sendMessage id content
  | .retry => s.retry id
  | .clearError => (s.dispatch .clearError).giveBack id none
  | .continueAfterClosure => (s.dispatch .continueAfterClosure).giveBack id none
  | .followEvents => s.followEvents id
  | .pauseRecording => (s.onRecorder Recorder.pause).giveBack id none
  | .resumeRecording => (s.onRecorder Recorder.resume).giveBack id none
  | .setVisibility visibility => (s.onRecorder (·.setVisibility visibility)).giveBack id none
  | .finish => s.finish id
  | .abandon => s.abandon.giveBack id none

/-- The number of the next call. -/
def nextCall (s : Session) : Nat := s.calls.length

/-- Begins a call. -/
def begin (s : Session) (call : Call) : Session :=
  { s with calls := s.calls ++ [CallState.returned none] }.runCall s.nextCall call

/-- The server has answered the request of a call. -/
def takeAnswer (s : Session) (id : Nat) (answer : Answer) : Session :=
  match s.calls[id]? with
  | some (.waiting (.headers transport generation)) =>
    s.takeHeaders id transport generation answer.check
  | some (.waiting (.upload attemptId recording)) =>
    s.takeUploaded id attemptId recording answer.check
  | some (.waiting .completion) => s.takeCompleted id answer.check
  | _ => s

/-- A read of the stream of a call. -/
def takeReadOf (s : Session) (id : Nat) (read : Read) : Session :=
  match s.calls[id]? with
  | some (.waiting (.read transport generation consumption)) =>
    s.takeRead id transport generation consumption read
  | _ => s

end Session

end Viva
