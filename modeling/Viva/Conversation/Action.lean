import Viva.Text.Blank
import Viva.Conversation.Basic

/-! # How a conversation changes

Every change is an action, and an action that does not fit the phase changes nothing.
-/

namespace Viva

inductive Action where
  /-- Begins anew with an assignment. -/
  | assign (assignmentId : String)
  | grantPermissions
  /-- Begins an attempt. What is known of it may come later. -/
  | startAssessment (attemptId objectiveTitle : Option String) (startedAt : Timestamp)
  /-- Fills in what is not known yet. -/
  | attemptIdentified (attemptId assignmentId objectiveTitle : Option String)
  | sendMessage (content : String)
  /-- Opens a message of the interviewer, which tokens will fill. -/
  | beginInterviewerMessage
  | appendToken (content : String)
  | finishStreamingMessage
  | addSystemMessage (content : String)
  /-- The interviewer has nothing more to ask. -/
  | assessmentComplete (evaluationId : Option String)
  /-- The learner goes on all the same. -/
  | continueAfterClosure
  | beginCompletion
  | completeAssessment (completedAt : Timestamp)
  | setError (message : String)
  | clearError
  | reset
  deriving Repr, DecidableEq, Inhabited

namespace Action

/-- The name of an action's kind. -/
def name : Action → String
  | assign _ => "INITIALIZE"
  | grantPermissions => "GRANT_PERMISSIONS"
  | startAssessment _ _ _ => "START_ASSESSMENT"
  | attemptIdentified _ _ _ => "ATTEMPT_IDENTIFIED"
  | sendMessage _ => "SEND_MESSAGE"
  | beginInterviewerMessage => "BEGIN_INTERVIEWER_MESSAGE"
  | appendToken _ => "APPEND_TOKEN"
  | finishStreamingMessage => "FINISH_STREAMING_MESSAGE"
  | addSystemMessage _ => "ADD_SYSTEM_MESSAGE"
  | assessmentComplete _ => "ASSESSMENT_COMPLETE"
  | continueAfterClosure => "CONTINUE_AFTER_CLOSURE"
  | beginCompletion => "BEGIN_COMPLETION"
  | completeAssessment _ => "COMPLETE_ASSESSMENT"
  | setError _ => "SET_ERROR"
  | clearError => "CLEAR_ERROR"
  | reset => "RESET"

end Action

namespace Conversation

/-- A fresh conversation about an assignment. -/
def about (assignmentId : String) : Conversation :=
  { phase := .initializing, assignmentId := some assignmentId }

/-- Opens a message of the interviewer unless one receives tokens already. -/
def openPlaceholder (c : Conversation) : Conversation :=
  if c.isStreaming then c else c.push .interviewer "" true

/-- The streaming message is complete. A completion that waited for it takes place. -/
def finishMessage (c : Conversation) : Conversation :=
  let c := { c.closeMessages with isWaiting := false }
  if c.completionPending && c.phase == .inProgress then
    { c with phase := .closureReady, completionPending := false }
  else c

/-- The interviewer has nothing more to ask, at the latest when its message is complete. -/
def signalCompletion (c : Conversation) (evaluationId : Option String) : Conversation :=
  let c := { c with evaluationId := fill c.evaluationId evaluationId }
  if c.phase == .inProgress then
    if c.isStreaming then { c with completionPending := true }
    else { c with phase := .closureReady }
  else c

/-- The conversation after an action. -/
def reduce (c : Conversation) : Action → Conversation
  | .assign assignmentId => about assignmentId
  | .grantPermissions =>
    if c.phase == .initializing then { c with phase := .ready } else c
  | .startAssessment attemptId objectiveTitle startedAt =>
    if c.phase == .ready || c.phase == .initializing then
      { c.openPlaceholder with
        phase := .inProgress
        attemptId := fill c.attemptId attemptId
        objectiveTitle := fill c.objectiveTitle objectiveTitle
        startedAt := some startedAt
        isWaiting := true }
    else c
  | .attemptIdentified attemptId assignmentId objectiveTitle =>
    { c with
      attemptId := fill c.attemptId attemptId
      assignmentId := fill c.assignmentId assignmentId
      objectiveTitle := fill c.objectiveTitle objectiveTitle }
  | .sendMessage content =>
    if c.phase == .inProgress && !Text.isBlankText content then
      { c.push .learner content false with isWaiting := true }
    else c
  | .beginInterviewerMessage =>
    if c.phase == .inProgress && !c.isStreaming then
      { c.push .interviewer "" true with isWaiting := true }
    else c
  | .appendToken content => c.append content
  | .finishStreamingMessage => c.finishMessage
  | .addSystemMessage content => c.push .system content false
  | .assessmentComplete evaluationId => c.signalCompletion evaluationId
  | .continueAfterClosure =>
    if c.phase == .closureReady then { c with phase := .inProgress } else c
  | .beginCompletion =>
    if c.phase == .inProgress || c.phase == .closureReady then
      { c with phase := .completing, isWaiting := false, completionPending := false }
    else c
  | .completeAssessment completedAt =>
    if c.phase == .completing then
      { c with phase := .completed, completedAt := some completedAt }
    else c
  | .setError message =>
    if c.phase == .completed then c
    else { c.closeMessages with phase := .error, error := some message, isWaiting := false }
  | .clearError =>
    if c.error.isSome then
      { c with
        error := none
        phase := if c.attemptId.isSome then .inProgress else .idle }
    else c
  | .reset => {}

end Conversation

end Viva
