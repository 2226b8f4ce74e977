import Viva.Proofs.Recorder.Studio
import Viva.Proofs.Session.Tracing

/-! # What all of a session's work keeps

Whatever a session does is made of a few parts: it talks to the conversation, tells of a failure,
changes a slot or a call, puts a recording or a message where it is found again, sends a request,
lets the recorder work, or does some of the pump's work. So what all of these parts keep is kept by
whatever a session does (`KeptByWork.step`), unless the host signs the learner in or out. A stream
that goes on or ends needs only some of them (`KeptByStreams.takeReadOf`).
-/

namespace Viva

/-- What a recorder does at once. -/
inductive Recorder.Works (r : Recorder) : Recorder → Prop where
  | operates (input : Input) : Works r (r.operate input)
  | settles : Works r r.settle
  | elapses (ms : Nat) : Works r (r.elapse ms)

namespace Session

/-- A relation of a session to what it becomes that all parts of what a stream does keep. -/
structure KeptByStreams (R : Session → Session → Prop) : Prop where
  trans : ∀ {a b c : Session}, R a b → R b c → R a c
  report : ∀ (s : Session) (failure : Failure), R s (s.report failure)
  dispatch : ∀ (s : Session) (action : Action), R s (s.dispatch action)
  setSlot : ∀ (s : Session) (transport : Transport) (slot : Slot), R s (s.setSlot transport slot)
  turns : ∀ (s : Session) (calls : List CallState), R s { s with calls }

/-- A relation of a session to what it becomes that all parts of its work keep. -/
structure KeptByWork (R : Session → Session → Prop) : Prop
    extends KeptByPump R, KeptByStreams R where
  remembers : ∀ (s : Session) (lastMessage : Option String), R s { s with lastMessage }
  keeps : ∀ (s : Session) (kept : Option Blob), R s { s with finalRecording := kept }
  unmarks : ∀ s : Session, R s { s with maxDurationReached := false }
  asks : ∀ {s s' : Session} {id : Nat} {endpoint : Endpoint},
    s.send (.call id) endpoint = .ok s' → R s s'
  records : ∀ {s : Session} {r r' : Recorder}, s.recorder = some r → r.Works r' →
    R s { s with recorder := some r' }

variable {R : Session → Session → Prop}

namespace KeptByStreams

variable (kept : KeptByStreams R)
include kept

theorem refl (s : Session) : R s s :=
  kept.turns s s.calls

theorem giveBack (s : Session) (id : Nat) (result : CallResult) : R s (s.giveBack id result) :=
  kept.turns s _

theorem await (s : Session) (id : Nat) (awaiting : Awaiting) : R s (s.await id awaiting) :=
  kept.turns s _

theorem failCall (s : Session) (id : Nat) (failure : Failure) : R s (s.failCall id failure) :=
  kept.trans (kept.report s failure) (kept.giveBack _ id _)

theorem supersede (s : Session) (transport : Transport) : R s (s.supersede transport) := by
  unfold Session.supersede
  dsimp only
  split
  · exact kept.trans (kept.setSlot s transport _) (kept.dispatch _ _)
  · exact kept.refl s

theorem failStream (s : Session) (id : Nat) (transport : Transport) (generation : Nat)
    (failure : Failure) : R s (s.failStream id transport generation failure) := by
  unfold Session.failStream
  dsimp only
  split
  · exact kept.trans (kept.setSlot s transport _) (kept.failCall _ id failure)
  · exact kept.giveBack s id _

theorem endStream (s : Session) (id : Nat) (transport : Transport) (generation : Nat)
    (result : Except Failure StreamOutcome) :
    R s (s.endStream id transport generation result) := by
  match result with
  | .ok .cancelled => exact kept.giveBack s id _
  | .ok (.completed done tokens) =>
      refine kept.trans (kept.setSlot s transport ((s.slot transport).finish generation)) ?_
      unfold Session.endStream
      dsimp only
      split
      · split
        · exact kept.trans (kept.dispatch _ _) (kept.giveBack _ id _)
        · exact kept.giveBack _ id _
      · exact kept.giveBack _ id _
  | .error failure => exact kept.failStream s id transport generation failure

theorem awaitRead (s : Session) (id : Nat) (transport : Transport) (generation : Nat)
    (c : Consumption) : R s (s.awaitRead id transport generation c) := by
  unfold Session.awaitRead
  split
  · exact kept.giveBack s id _
  · exact kept.await s id _

theorem takeHeaders (s : Session) (id : Nat) (transport : Transport) (generation : Nat)
    (answer : Except Failure Unit) : R s (s.takeHeaders id transport generation answer) := by
  cases answer with
  | ok => exact kept.awaitRead s id transport generation {}
  | error failure => exact kept.failStream s id transport generation failure

theorem applyEvent (s : Session) (event : Event) : R s (s.applyEvent event) := by
  cases event with
  | token | done => exact kept.trans (kept.dispatch s _) (kept.dispatch _ _)
  | messageDone | assessmentComplete => exact kept.dispatch s _
  | error | unknown => exact kept.refl s

theorem takeFrames (transport : Transport) (generation : Nat) (c : Consumption) (s : Session)
    (frames : List Frame) :
    R s (Consumption.takeFrames (observer transport generation) c s frames).2 := by
  induction frames generalizing c s with
  | nil => exact kept.refl s
  | cons frame rest ih =>
      unfold Consumption.takeFrames
      split
      · exact kept.refl s
      · split
        · exact ih c s
        · exact ih c s
        · exact kept.refl s
        · apply kept.trans _ (ih _ _)
          simp only [observer]
          split
          · exact kept.applyEvent s _
          · exact kept.refl s

theorem takeRead (s : Session) (id : Nat) (transport : Transport) (generation : Nat)
    (c : Consumption) (read : Read) : R s (s.takeRead id transport generation c read) := by
  cases read with
  | bytes bytes =>
      have taken := kept.takeFrames transport generation
        { c with reader := (c.reader.feed bytes).2 } s (c.reader.feed bytes).1
      rw [takeRead_bytes]
      unfold takeRest
      split
      · rename_i c' s' took
        rw [took] at taken
        exact kept.trans taken (kept.awaitRead s' id transport generation c')
      · rename_i result s' took
        rw [took] at taken
        exact kept.trans taken (kept.endStream s' id transport generation result)
  | failure detail => exact kept.failStream s id transport generation _
  | ended => exact kept.endStream s id transport generation _

theorem takeReadOf (s : Session) (id : Nat) (read : Read) : R s (s.takeReadOf id read) := by
  unfold Session.takeReadOf
  split
  · exact kept.takeRead s id _ _ _ read
  · exact kept.refl s

end KeptByStreams

/-- Neither was the recorder reached nor a request sent. -/
structure Apart (s t : Session) : Prop where
  recorder : t.recorder = s.recorder
  sent : t.sent = s.sent

theorem apart_streams : KeptByStreams Apart where
  trans := fun first second =>
    ⟨second.recorder.trans first.recorder, second.sent.trans first.sent⟩
  report := fun _ _ => ⟨rfl, rfl⟩
  dispatch := fun _ _ => ⟨rfl, rfl⟩
  setSlot := fun _ transport _ => by cases transport <;> exact ⟨rfl, rfl⟩
  turns := fun _ _ => ⟨rfl, rfl⟩

namespace KeptByWork

variable (kept : KeptByWork R)
include kept

theorem refl (s : Session) : R s s :=
  kept.toKeptByPump.refl s

theorem openStream (s : Session) (id : Nat) (transport : Transport) (endpoint : Endpoint) :
    R s (s.openStream id transport endpoint) := by
  refine kept.trans (kept.setSlot s transport (s.slot transport).start) ?_
  unfold Session.openStream
  dsimp only
  split
  · rename_i isSent
    exact kept.trans (kept.asks isSent) (kept.await _ id _)
  · exact kept.failStream _ id transport _ _

theorem onRecorder (s : Session) {change : Recorder → Recorder}
    (works : ∀ r : Recorder, r.Works (change r)) : R s (s.onRecorder change) := by
  cases here : s.recorder with
  | none =>
      rw [onRecorder_none here]
      exact kept.refl s
  | some r =>
      rw [onRecorder_some here]
      exact kept.records here (works r)

theorem prepareRecorder (s : Session) : R s s.prepareRecorder.1 := by
  unfold Session.prepareRecorder
  split
  · exact kept.refl s
  · rename_i here
    exact kept.records here (.operates .prepare)

theorem startRecorder (s : Session) : R s s.startRecorder.1 := by
  unfold Session.startRecorder
  split
  · exact kept.refl s
  · rename_i here
    exact kept.records here (.operates .start)

theorem takeRecording (s : Session) : R s s.takeRecording.1 := by
  unfold Session.takeRecording
  split
  · exact kept.keeps s none
  · exact kept.refl s
  · rename_i here
    have stopped := kept.records here (.operates .stop)
    dsimp only
    split
    · exact stopped
    · exact stopped

/-! ### Calls -/

theorem acquireDevices (s : Session) (id : Nat) : R s (s.acquireDevices id) := by
  have prepared := kept.prepareRecorder s
  unfold Session.acquireDevices
  split
  · rename_i isPrepared
    rw [isPrepared] at prepared
    exact kept.trans prepared (kept.failCall _ id _)
  · rename_i isPrepared
    rw [isPrepared] at prepared
    exact kept.trans prepared (kept.trans (kept.dispatch _ _) (kept.giveBack _ id _))

theorem grantPermissions (s : Session) (id : Nat) : R s (s.grantPermissions id) := by
  unfold Session.grantPermissions
  dsimp only
  split
  · exact kept.acquireDevices s id
  · split
    · split
      · exact kept.giveBack s id _
      · exact kept.trans (kept.dispatch s _) (kept.acquireDevices _ id)
    · exact kept.giveBack s id _

theorem start (s : Session) (id : Nat) : R s (s.start id) := by
  unfold Session.start
  dsimp only
  split
  · exact kept.giveBack s id _
  · split
    · exact kept.giveBack s id _
    · have started := kept.trans (kept.dispatch s (.startAssessment none none s.wallClock))
        (kept.startRecorder _)
      split
      · rename_i isStarted
        rw [isStarted] at started
        exact kept.trans started (kept.failCall _ id _)
      · rename_i isStarted
        rw [isStarted] at started
        exact kept.trans started (kept.openStream _ id .response _)

theorem startExisting (s : Session) (id : Nat) (attemptId title : String) :
    R s (s.startExisting id attemptId title) := by
  unfold Session.startExisting
  dsimp only
  split
  · exact kept.giveBack s id _
  · have started := kept.trans
      (kept.dispatch s (.startAssessment (some attemptId) (some title) s.wallClock))
      (kept.startRecorder _)
    split
    · rename_i isStarted
      rw [isStarted] at started
      exact kept.trans started (kept.failCall _ id _)
    · rename_i isStarted
      rw [isStarted] at started
      exact kept.trans started (kept.giveBack _ id _)

theorem streamReply (s : Session) (id : Nat) (content : String) :
    R s (s.streamReply id content) := by
  have begun := kept.dispatch s .beginInterviewerMessage
  unfold Session.streamReply
  dsimp only
  split
  · exact kept.trans begun (kept.failCall _ id _)
  · exact kept.trans begun (kept.openStream _ id .response _)

theorem sendMessage (s : Session) (id : Nat) (content : String) :
    R s (s.sendMessage id content) := by
  have superseded := kept.supersede s .response
  unfold Session.sendMessage
  dsimp only
  split
  · exact kept.giveBack s id _
  · split
    · have said := kept.trans superseded (kept.dispatch _ (.sendMessage content))
      exact kept.trans (kept.trans said (kept.remembers _ _)) (kept.streamReply _ id content)
    · exact kept.trans superseded (kept.giveBack _ id _)

theorem retryStart (s : Session) (id : Nat) : R s (s.retryStart id) := by
  unfold Session.retryStart
  dsimp only
  split
  · exact kept.trans (kept.dispatch s _) (kept.giveBack _ id _)
  · split
    · exact kept.grantPermissions s id
    · split
      · exact kept.giveBack s id _
      · exact kept.trans (kept.trans (kept.dispatch s _) (kept.dispatch _ _)) (kept.start _ id)

theorem retry (s : Session) (id : Nat) : R s (s.retry id) := by
  unfold Session.retry
  dsimp only
  split
  · exact kept.giveBack s id _
  · split
    · exact kept.retryStart s id
    · split
      · exact kept.trans (kept.dispatch s _) (kept.streamReply _ id _)
      · exact kept.trans (kept.dispatch s _) (kept.giveBack _ id _)

theorem followEvents (s : Session) (id : Nat) : R s (s.followEvents id) := by
  unfold Session.followEvents
  split
  · exact kept.giveBack s id _
  · exact kept.openStream s id .eventSource _

theorem failUpload (s : Session) (id : Nat) (recording : Blob) (failure : Failure) :
    R s (s.failUpload id recording failure) :=
  kept.trans (kept.keeps s _) (kept.failCall _ id failure)

theorem sendCompletion (s : Session) (id : Nat) (attemptId : String) :
    R s (s.sendCompletion id attemptId) := by
  unfold Session.sendCompletion
  split
  · rename_i isSent
    exact kept.trans (kept.asks isSent) (kept.await _ id _)
  · exact kept.failCall s id _

theorem finish (s : Session) (id : Nat) : R s (s.finish id) := by
  unfold Session.finish
  dsimp only
  split
  · exact kept.giveBack s id _
  · split
    · exact kept.failCall s id _
    · have closed := kept.trans
        (kept.trans (kept.supersede s .response) (kept.supersede _ .eventSource))
        (kept.dispatch _ .beginCompletion)
      have taken := kept.trans closed (kept.takeRecording _)
      split
      · rename_i took
        rw [took] at taken
        exact kept.trans taken (kept.sendCompletion _ id _)
      · rename_i took
        rw [took] at taken
        split
        · rename_i isSent
          exact kept.trans taken (kept.trans (kept.asks isSent) (kept.await _ id _))
        · exact kept.trans taken (kept.failUpload _ id _ _)

theorem abandon (s : Session) : R s s.abandon :=
  kept.trans (kept.trans (kept.supersede s .response) (kept.supersede _ .eventSource))
    (kept.onRecorder _ fun _ => .operates .abandon)

theorem assign (s : Session) (assignmentId : String) : R s (s.assign assignmentId) := by
  have released := kept.trans (kept.setSlot s .response s.replies.release)
    (kept.setSlot _ .eventSource s.events.release)
  have forgotten := kept.trans (kept.trans released (kept.remembers _ none)) (kept.keeps _ none)
  exact kept.trans (kept.trans forgotten (kept.unmarks _)) (kept.dispatch _ _)

theorem runCall (s : Session) (id : Nat) (call : Call) : R s (s.runCall id call) := by
  cases call with
  | assign assignmentId => exact kept.trans (kept.assign s _) (kept.giveBack _ id _)
  | grantPermissions => exact kept.grantPermissions s id
  | start => exact kept.start s id
  | startExisting attemptId title => exact kept.startExisting s id attemptId title
  | sendMessage content => exact kept.sendMessage s id content
  | retry => exact kept.retry s id
  | clearError | continueAfterClosure =>
      exact kept.trans (kept.dispatch s _) (kept.giveBack _ id _)
  | followEvents => exact kept.followEvents s id
  | pauseRecording =>
      exact kept.trans (kept.onRecorder s fun _ => .operates .pause) (kept.giveBack _ id _)
  | resumeRecording =>
      exact kept.trans (kept.onRecorder s fun _ => .operates .resume) (kept.giveBack _ id _)
  | setVisibility visibility =>
      exact kept.trans (kept.onRecorder s fun _ => .operates (.setVisibility visibility))
        (kept.giveBack _ id _)
  | finish => exact kept.finish s id
  | abandon => exact kept.trans (kept.abandon s) (kept.giveBack _ id _)

theorem takeAnswer (s : Session) (id : Nat) (answer : Answer) : R s (s.takeAnswer id answer) := by
  unfold Session.takeAnswer
  split
  · exact kept.takeHeaders s id _ _ _
  · unfold takeUploaded
    split
    · exact kept.sendCompletion s id _
    · exact kept.failUpload s id _ _
  · unfold takeCompleted
    split
    · exact kept.trans (kept.dispatch s _) (kept.giveBack _ id _)
    · exact kept.failCall s id _
  · exact kept.refl s

/-! ### Steps -/

theorem settle (s : Session) : R s s.settle :=
  kept.trans (kept.onRecorder s fun _ => .settles) (kept.turns _ _)

theorem react (s : Session) {stimulus : Stimulus} (own : ∀ token, stimulus ≠ .setToken token) :
    R s (s.react stimulus) := by
  cases stimulus with
  | call call => exact kept.trans (kept.turns s _) (kept.runCall s.withCall s.nextCall call)
  | answer id answer => exact kept.takeAnswer s id answer
  | read id read => exact kept.takeReadOf s id read
  | uploaded answer => exact kept.takePumpAnswer s
  | pump => exact kept.takeEvents s s.untaken
  | elapse ms => exact kept.onRecorder s fun _ => .elapses ms
  | dispatch action => exact kept.dispatch s action
  | setToken token => exact absurd rfl (own token)
  | setOutcome outcome => exact kept.onRecorder s fun _ => .operates (.setOutcome outcome)

theorem step (s : Session) {stimulus : Stimulus} (own : ∀ token, stimulus ≠ .setToken token) :
    R s (s.step stimulus) :=
  kept.trans (kept.react s own) (kept.settle _)

end KeptByWork

end Session

end Viva
