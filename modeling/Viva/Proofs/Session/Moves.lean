import Mathlib.Logic.Relation
import Viva.Proofs.Session.Tracing

/-! # What a session does beside its pump

Apart from what its pump does, all that a session does is made of a few kinds of moves (`Move`): it
talks to the conversation, changes a slot or a call, sends a request that carries no part of the
recording, and puts a recording where it can be uploaded, or takes one out of there. The recorder
gives a recording out or goes on by itself. So what every move leaves as it is stays as it is
(`moves_step`), and what a run does to the recorder is a run of its reel (`records_run`). A move is
mute if the learner says nothing by it, and so are all moves of a call that neither says something,
nor does something again, nor begins anew.
-/

namespace Viva

/-- The message of the learner that a request carries. -/
def Endpoint.content? : Endpoint → Option String
  | message _ content => some content
  | _ => none

/-- The action leaves what the learner has said as it is. -/
def Action.isMute : Action → Bool
  | assign _ | reset | sendMessage _ => false
  | _ => true

/-- The call neither says something, nor does something again, nor begins anew. -/
def Call.isMute : Call → Bool
  | assign _ | grantPermissions | sendMessage _ | retry => false
  | _ => true

namespace Session

/-- What the recorder has told so far. -/
def told (s : Session) : List RecordingEvent :=
  match s.recorder with
  | some r => r.log
  | none => []

theorem untaken_eq (s : Session) : s.untaken = s.told.drop s.pump.taken := by
  unfold untaken told
  cases s.recorder with
  | none => exact List.drop_nil.symm
  | some r => rfl

/-- A recording that is being uploaded, or kept for another try. -/
inductive Holds (s : Session) (blob : Blob) : Prop where
  | kept (kept : s.finalRecording = some blob)
  | uploading {attemptId : String}
      (waits : CallState.waiting (.upload attemptId blob) ∈ s.calls)

/-! ## Moves -/

/-- What a session does at once. If it is `mute`, the learner says nothing by it. -/
inductive Move (mute : Bool) (s : Session) : Session → Prop where
  | talks (action : Action) (mutes : mute = true → action.isMute = true) :
      Move mute s (s.dispatch action)
  | signs (tokenFile : Option String) : Move mute s { s with tokenFile }
  | slot (transport : Transport) (slot : Slot) : Move mute s (s.setSlot transport slot)
  | remembers (lastMessage : Option String) (speaks : mute = false) :
      Move mute s { s with lastMessage }
  | turns {calls : List CallState}
      (held : ∀ attemptId blob, CallState.waiting (.upload attemptId blob) ∈ calls →
        s.Holds blob) : Move mute s { s with calls }
  | asks (id : Nat) (endpoint : Endpoint) (token : String) (whole : endpoint.route ≠ .chunks)
      (mutes : mute = true → endpoint.content? = none)
      (held : ∀ attemptId blob, endpoint = .video attemptId blob → s.Holds blob) :
      Move mute s { s with sent := s.sent ++ [⟨.call id, endpoint, token⟩] }
  | keeps (kept : Option Blob) (held : ∀ blob, kept = some blob → s.Holds blob) :
      Move mute s { s with finalRecording := kept }
  | gives {r : Recorder} {blob : Blob} (here : s.recorder = some r)
      (given : r.stop.2 = .ok blob) :
      Move mute s { s with recorder := some r.stop.1, finalRecording := some blob }
  | records {r r' : Recorder} (here : s.recorder = some r)
      (runs : r.reel.InStep → ∃ seen, r.reel.Run seen r'.reel) :
      Move mute s { s with recorder := some r' }

def Moves (mute : Bool) : Session → Session → Prop := Relation.ReflTransGen (Move mute)

section
variable {mute : Bool} {s s' : Session}

theorem Moves.refl (s : Session) : s.Moves mute s := Relation.ReflTransGen.refl

theorem Move.moves (move : s.Move mute s') : s.Moves mute s' := Relation.ReflTransGen.single move

theorem moves_dispatch (s : Session) {action : Action}
    (mutes : mute = true → action.isMute = true) : s.Moves mute (s.dispatch action) :=
  (Move.talks action mutes).moves

theorem moves_setSlot (s : Session) (transport : Transport) (slot : Slot) :
    s.Moves mute (s.setSlot transport slot) :=
  (Move.slot transport slot).moves

theorem moves_report (s : Session) (failure : Failure) : s.Moves mute (s.report failure) :=
  (Move.signs _).moves.trans (moves_dispatch _ fun _ => rfl)

theorem moves_setCall (s : Session) (id : Nat) {state : CallState}
    (held : ∀ attemptId blob, state = .waiting (.upload attemptId blob) → s.Holds blob) :
    s.Moves mute { s with calls := s.calls.set id state } := by
  refine (Move.turns fun attemptId blob waits => ?_).moves
  rcases List.mem_or_eq_of_mem_set waits with before | new
  · exact .uploading before
  · exact held attemptId blob new.symm

theorem moves_giveBack (s : Session) (id : Nat) (result : CallResult) :
    s.Moves mute (s.giveBack id result) :=
  moves_setCall s id (by nofun)

theorem moves_failCall (s : Session) (id : Nat) (failure : Failure) :
    s.Moves mute (s.failCall id failure) :=
  (moves_report s failure).trans (moves_giveBack _ id _)

theorem moves_await (s : Session) (id : Nat) (awaiting : Awaiting)
    (held : ∀ attemptId blob, awaiting = .upload attemptId blob → s.Holds blob) :
    s.Moves mute (s.await id awaiting) :=
  moves_setCall s id fun attemptId blob same => held attemptId blob (CallState.waiting.inj same)

theorem moves_send {id : Nat} {endpoint : Endpoint} (isSent : s.send (.call id) endpoint = .ok s')
    (whole : endpoint.route ≠ .chunks) (mutes : mute = true → endpoint.content? = none)
    (held : ∀ attemptId blob, endpoint = .video attemptId blob → s.Holds blob) :
    s.Moves mute s' := by
  obtain ⟨token, -, rfl⟩ := eq_of_send isSent
  exact (Move.asks id endpoint token whole mutes held).moves

/-! ### Streams -/

theorem moves_supersede (s : Session) (transport : Transport) :
    s.Moves mute (s.supersede transport) := by
  unfold supersede
  dsimp only
  split
  · exact (moves_setSlot s transport _).trans (moves_dispatch _ fun _ => rfl)
  · exact .refl s

theorem moves_failStream (s : Session) (id : Nat) (transport : Transport) (generation : Nat)
    (failure : Failure) : s.Moves mute (s.failStream id transport generation failure) := by
  unfold failStream
  dsimp only
  split
  · exact (moves_setSlot s transport _).trans (moves_failCall _ id failure)
  · exact moves_giveBack s id _

theorem moves_openStream (s : Session) (id : Nat) (transport : Transport) {endpoint : Endpoint}
    (whole : endpoint.route ≠ .chunks) (mutes : mute = true → endpoint.content? = none)
    (nothing : endpoint.recording? = none) :
    s.Moves mute (s.openStream id transport endpoint) := by
  have started : s.Moves mute _ := moves_setSlot s transport (s.slot transport).start
  unfold openStream
  dsimp only
  split
  · rename_i isSent
    refine (started.trans (moves_send isSent whole mutes ?_)).trans (moves_await _ id _ (by nofun))
    rintro attemptId blob rfl
    cases nothing
  · exact started.trans (moves_failStream _ id transport _ _)

theorem moves_endStream (s : Session) (id : Nat) (transport : Transport) (generation : Nat)
    (result : Except Failure StreamOutcome) :
    s.Moves mute (s.endStream id transport generation result) := by
  match result with
  | .ok .cancelled => exact moves_giveBack s id _
  | .ok (.completed done tokens) =>
      have left : s.Moves mute _ :=
        moves_setSlot s transport ((s.slot transport).finish generation)
      unfold endStream
      dsimp only
      split
      · split
        · exact (left.trans (moves_dispatch _ fun _ => rfl)).trans (moves_giveBack _ id _)
        · exact left.trans (moves_giveBack _ id _)
      · exact left.trans (moves_giveBack _ id _)
  | .error failure => exact moves_failStream s id transport generation failure

theorem moves_awaitRead (s : Session) (id : Nat) (transport : Transport) (generation : Nat)
    (c : Consumption) : s.Moves mute (s.awaitRead id transport generation c) := by
  unfold awaitRead
  split
  · exact moves_giveBack s id _
  · exact moves_await s id _ (by nofun)

theorem moves_takeHeaders (s : Session) (id : Nat) (transport : Transport) (generation : Nat)
    (answer : Except Failure Unit) : s.Moves mute (s.takeHeaders id transport generation answer) := by
  match answer with
  | .ok () => exact moves_awaitRead s id transport generation {}
  | .error failure => exact moves_failStream s id transport generation failure

theorem moves_applyEvent (s : Session) (event : Event) : s.Moves mute (s.applyEvent event) := by
  cases event with
  | token | done => exact (moves_dispatch s fun _ => rfl).trans (moves_dispatch _ fun _ => rfl)
  | messageDone | assessmentComplete => exact moves_dispatch s fun _ => rfl
  | error | unknown => exact .refl s

theorem moves_takeFrames (transport : Transport) (generation : Nat) (c : Consumption) (s : Session)
    (frames : List Frame) :
    s.Moves mute (Consumption.takeFrames (observer transport generation) c s frames).2 := by
  induction frames generalizing c s with
  | nil => exact .refl s
  | cons frame rest ih =>
      unfold Consumption.takeFrames
      split
      · exact .refl s
      · split
        · exact ih c s
        · exact ih c s
        · exact .refl s
        · refine Relation.ReflTransGen.trans ?_ (ih _ _)
          simp only [observer]
          split
          · exact moves_applyEvent s _
          · exact .refl

theorem moves_takeRead (s : Session) (id : Nat) (transport : Transport) (generation : Nat)
    (c : Consumption) (read : Read) : s.Moves mute (s.takeRead id transport generation c read) := by
  cases read with
  | bytes bytes =>
      have taken : s.Moves mute _ := moves_takeFrames transport generation
        { c with reader := (c.reader.feed bytes).2 } s (c.reader.feed bytes).1
      rw [takeRead_bytes]
      unfold takeRest
      split
      · rename_i c' s' took
        rw [took] at taken
        exact taken.trans (moves_awaitRead s' id transport generation c')
      · rename_i result s' took
        rw [took] at taken
        exact taken.trans (moves_endStream s' id transport generation result)
  | failure detail => exact moves_failStream s id transport generation _
  | ended => exact moves_endStream s id transport generation _

theorem moves_takeReadOf (s : Session) (id : Nat) (read : Read) :
    s.Moves mute (s.takeReadOf id read) := by
  unfold takeReadOf
  split
  · exact moves_takeRead s id _ _ _ read
  · exact .refl s

/-! ### The recorder -/

theorem moves_act {r r' : Recorder} (here : s.recorder = some r)
    (acts : r.reel.InStep → ∃ events, r.reel.Act events r'.reel) :
    s.Moves mute { s with recorder := some r' } := by
  refine (Move.records here fun inStep => ?_).moves
  obtain ⟨events, act⟩ := acts inStep
  exact ⟨_, Reel.Step.run (.acts act)⟩

theorem moves_onRecorder_run (s : Session) {change : Recorder → Recorder}
    (runs : ∀ r : Recorder, r.reel.InStep → ∃ seen, r.reel.Run seen (change r).reel) :
    s.Moves mute (s.onRecorder change) := by
  cases here : s.recorder with
  | none =>
      rw [onRecorder_none here]
      exact .refl s
  | some r =>
      rw [onRecorder_some here]
      exact (Move.records here (runs r)).moves

theorem moves_onRecorder (s : Session) {change : Recorder → Recorder}
    (acts : ∀ r : Recorder, r.reel.InStep → ∃ events, r.reel.Act events (change r).reel) :
    s.Moves mute (s.onRecorder change) := by
  refine moves_onRecorder_run s fun r inStep => ?_
  obtain ⟨events, act⟩ := acts r inStep
  exact ⟨_, Reel.Step.run (.acts act)⟩

theorem moves_prepareRecorder (s : Session) : s.Moves mute s.prepareRecorder.1 := by
  unfold prepareRecorder
  split
  · exact .refl s
  · rename_i here
    exact moves_act here Recorder.act_prepare

theorem moves_startRecorder (s : Session) : s.Moves mute s.startRecorder.1 := by
  unfold startRecorder
  split
  · exact .refl s
  · rename_i here
    exact moves_act here Recorder.act_start

/-- A recording that is taken for an upload was kept, or is given out now. -/
theorem moves_takeRecording {recording : Blob} (took : s.takeRecording = (s', some recording)) :
    s.Moves mute { s' with finalRecording := some recording } ∧ s'.finalRecording = none := by
  unfold takeRecording at took
  split at took
  · rename_i blob _ kept
    cases took
    refine ⟨?_, rfl⟩
    rw [← kept]
    exact .refl s
  · cases took
  · rename_i r kept here
    dsimp only at took
    split at took
    · rename_i blob given
      split at took
      · cases took
      · cases took
        exact ⟨(Move.gives here given).moves, kept⟩
    · cases took

/-- If there is nothing to upload, the recorder may have stopped all the same. -/
theorem moves_takeRecording_none (took : s.takeRecording = (s', none)) : s.Moves mute s' := by
  unfold takeRecording at took
  split at took
  · cases took
  · cases took
    exact .refl s
  · rename_i r kept here
    have stopped : s.Moves mute { s with recorder := some r.stop.1 } :=
      moves_act here Recorder.act_stop
    dsimp only at took
    split at took
    · split at took
      · cases took
        exact stopped
      · cases took
    · cases took
      exact stopped

/-! ### Calls -/

theorem moves_acquireDevices (s : Session) (id : Nat) : s.Moves mute (s.acquireDevices id) := by
  have prepared : s.Moves mute _ := moves_prepareRecorder s
  unfold acquireDevices
  split
  · rename_i isPrepared
    rw [isPrepared] at prepared
    exact prepared.trans (moves_failCall _ id _)
  · rename_i isPrepared
    rw [isPrepared] at prepared
    exact (prepared.trans (moves_dispatch _ fun _ => rfl)).trans (moves_giveBack _ id _)

theorem moves_grantPermissions (s : Session) (id : Nat) :
    s.Moves false (s.grantPermissions id) := by
  unfold grantPermissions
  dsimp only
  split
  · exact moves_acquireDevices s id
  · split
    · split
      · exact moves_giveBack s id _
      · exact (moves_dispatch s (by nofun)).trans (moves_acquireDevices _ id)
    · exact moves_giveBack s id _

theorem moves_start (s : Session) (id : Nat) : s.Moves mute (s.start id) := by
  unfold start
  dsimp only
  split
  · exact moves_giveBack s id _
  · split
    · exact moves_giveBack s id _
    · have started : s.Moves mute _ :=
        (moves_dispatch s fun _ => rfl).trans
          (moves_startRecorder (s.dispatch (.startAssessment none none s.wallClock)))
      split
      · rename_i isStarted
        rw [isStarted] at started
        exact started.trans (moves_failCall _ id _)
      · rename_i isStarted
        rw [isStarted] at started
        exact started.trans (moves_openStream _ id .response (by nofun) (fun _ => rfl) rfl)

theorem moves_startExisting (s : Session) (id : Nat) (attemptId objectiveTitle : String) :
    s.Moves mute (s.startExisting id attemptId objectiveTitle) := by
  unfold startExisting
  dsimp only
  split
  · exact moves_giveBack s id _
  · have started : s.Moves mute _ :=
      (moves_dispatch s fun _ => rfl).trans (moves_startRecorder
        (s.dispatch (.startAssessment (some attemptId) (some objectiveTitle) s.wallClock)))
    split
    · rename_i isStarted
      rw [isStarted] at started
      exact started.trans (moves_failCall _ id _)
    · rename_i isStarted
      rw [isStarted] at started
      exact started.trans (moves_giveBack _ id _)

theorem moves_streamReply (s : Session) (id : Nat) (content : String) :
    s.Moves false (s.streamReply id content) := by
  have begun : s.Moves false (s.dispatch .beginInterviewerMessage) := moves_dispatch s nofun
  unfold streamReply
  dsimp only
  split
  · exact begun.trans (moves_failCall _ id _)
  · exact begun.trans (moves_openStream _ id .response (by nofun) nofun rfl)

theorem moves_sendMessage (s : Session) (id : Nat) (content : String) :
    s.Moves false (s.sendMessage id content) := by
  have superseded : s.Moves false _ := moves_supersede s .response
  unfold sendMessage
  dsimp only
  split
  · exact moves_giveBack s id _
  · split
    · have said : s.Moves false ((s.supersede .response).dispatch (.sendMessage content)) :=
        superseded.trans (moves_dispatch _ nofun)
      exact (said.trans (Move.remembers _ rfl).moves).trans (moves_streamReply _ id content)
    · exact superseded.trans (moves_giveBack _ id _)

theorem moves_retry (s : Session) (id : Nat) : s.Moves false (s.retry id) := by
  unfold retry retryStart
  dsimp only
  split
  · exact moves_giveBack s id _
  · split
    · split
      · exact (moves_dispatch s fun _ => rfl).trans (moves_giveBack _ id _)
      · split
        · exact moves_grantPermissions s id
        · split
          · exact moves_giveBack s id _
          · exact ((moves_dispatch s (by nofun)).trans (moves_dispatch _ fun _ => rfl)).trans
              (moves_start _ id)
    · split
      · exact (moves_dispatch s fun _ => rfl).trans (moves_streamReply _ id _)
      · exact (moves_dispatch s fun _ => rfl).trans (moves_giveBack _ id _)

theorem moves_followEvents (s : Session) (id : Nat) : s.Moves mute (s.followEvents id) := by
  unfold followEvents
  split
  · exact moves_giveBack s id _
  · exact moves_openStream s id .eventSource (by nofun) (fun _ => rfl) rfl

theorem moves_failUpload (s : Session) (id : Nat) {recording : Blob} (held : s.Holds recording)
    (failure : Failure) : s.Moves mute (s.failUpload id recording failure) := by
  refine Relation.ReflTransGen.trans (Move.keeps _ fun blob same => ?_).moves
    (moves_failCall _ id failure)
  obtain rfl := Option.some.inj same
  exact held

theorem moves_sendCompletion (s : Session) (id : Nat) (attemptId : String) :
    s.Moves mute (s.sendCompletion id attemptId) := by
  unfold sendCompletion
  split
  · rename_i isSent
    exact (moves_send isSent (by nofun) (fun _ => rfl) (by nofun)).trans
      (moves_await _ id _ (by nofun))
  · exact moves_failCall s id _

/-- The recording is kept until its upload is waited for. -/
theorem moves_upload {id : Nat} {attemptId : String} {recording : Blob} {asked : Session}
    (taken : s.finalRecording = none)
    (isSent : s.send (.call id) (.video attemptId recording) = .ok asked) :
    Moves mute { s with finalRecording := some recording }
      (asked.await id (.upload attemptId recording)) := by
  have held : Holds { s with finalRecording := some recording } recording := .kept rfl
  obtain ⟨token, -, rfl⟩ := eq_of_send isSent
  have asks : Move mute { s with finalRecording := some recording } _ := Move.asks id
    (.video attemptId recording) token (by nofun) (fun _ => rfl) fun _ blob same => by
      obtain ⟨-, rfl⟩ := Endpoint.video.inj same
      exact held
  have waits := asks.moves.trans (moves_await _ id (.upload attemptId recording)
    fun _ blob same => by
      obtain ⟨-, rfl⟩ := Awaiting.upload.inj same
      exact .kept rfl)
  refine waits.trans (Move.keeps s.finalRecording ?_).moves
  rw [taken]
  nofun

theorem moves_finish (s : Session) (id : Nat) : s.Moves mute (s.finish id) := by
  unfold finish
  dsimp only
  split
  · exact moves_giveBack s id _
  · split
    · exact moves_failCall s id _
    · rename_i attemptId _
      have closed : s.Moves mute
          (((s.supersede .response).supersede .eventSource).dispatch .beginCompletion) :=
        ((moves_supersede s .response).trans (moves_supersede _ .eventSource)).trans
          (moves_dispatch _ fun _ => rfl)
      split
      · rename_i took
        exact (closed.trans (moves_takeRecording_none took)).trans (moves_sendCompletion _ id _)
      · rename_i recording took
        obtain ⟨gives, taken⟩ := moves_takeRecording took
        have given := closed.trans gives
        split
        · rename_i isSent
          exact given.trans (moves_upload taken isSent)
        · exact given.trans (moves_failCall _ id _)

theorem moves_abandon (s : Session) : s.Moves mute s.abandon :=
  ((moves_supersede s .response).trans (moves_supersede _ .eventSource)).trans
    (moves_onRecorder _ fun _ => Recorder.act_abandon)

/-- Beginning anew moves as well, once the mark of the limit is gone. -/
theorem moves_assign (s : Session) (assignmentId : String) :
    Moves false { s with maxDurationReached := false } (s.assign assignmentId) := by
  have released : Moves false { s with maxDurationReached := false } _ :=
    (moves_setSlot _ .response s.replies.release).trans
      (moves_setSlot _ .eventSource s.events.release)
  have forgotten := (released.trans (Move.remembers none rfl).moves).trans
    (Move.keeps none (by nofun)).moves
  exact forgotten.trans (moves_dispatch _ (by nofun))

theorem moves_withCall (s : Session) : s.Moves mute s.withCall := by
  refine (Move.turns fun attemptId blob waits => ?_).moves
  rcases List.mem_append.mp waits with before | new
  · exact .uploading before
  · cases List.mem_singleton.mp new

theorem moves_runCall (s : Session) (id : Nat) {call : Call}
    (goesOn : ∀ assignmentId, call ≠ .assign assignmentId)
    (mutes : mute = true → call.isMute = true) : s.Moves mute (s.runCall id call) := by
  have speaks (loud : call.isMute = false) : mute = false :=
    Bool.eq_false_iff.mpr fun isMute => by cases loud.symm.trans (mutes isMute)
  cases call with
  | assign assignmentId => exact absurd rfl (goesOn assignmentId)
  | grantPermissions => exact speaks rfl ▸ moves_grantPermissions s id
  | start => exact moves_start s id
  | startExisting attemptId title => exact moves_startExisting s id attemptId title
  | sendMessage content => exact speaks rfl ▸ moves_sendMessage s id content
  | retry => exact speaks rfl ▸ moves_retry s id
  | clearError | continueAfterClosure =>
      exact (moves_dispatch s fun _ => rfl).trans (moves_giveBack _ id _)
  | followEvents => exact moves_followEvents s id
  | pauseRecording =>
      exact (moves_onRecorder s fun _ => Recorder.act_pause).trans (moves_giveBack _ id _)
  | resumeRecording =>
      exact (moves_onRecorder s fun _ => Recorder.act_resume).trans (moves_giveBack _ id _)
  | setVisibility visibility =>
      exact (moves_onRecorder s fun _ inStep =>
        Recorder.act_setVisibility inStep visibility).trans (moves_giveBack _ id _)
  | finish => exact moves_finish s id
  | abandon => exact (moves_abandon s).trans (moves_giveBack _ id _)

theorem moves_takeAnswer (s : Session) (id : Nat) (answer : Answer) :
    s.Moves mute (s.takeAnswer id answer) := by
  unfold takeAnswer
  split
  · exact moves_takeHeaders s id _ _ _
  · rename_i attemptId recording here
    have held : s.Holds recording := .uploading (List.mem_of_getElem? here)
    unfold takeUploaded
    split
    · exact moves_sendCompletion s id attemptId
    · exact moves_failUpload s id held _
  · unfold takeCompleted
    split
    · exact (moves_dispatch s fun _ => rfl).trans (moves_giveBack _ id _)
    · exact moves_failCall s id _
  · exact .refl s

/-! ## Steps -/

theorem moves_releaseCancelled (s : Session) : s.Moves mute s.releaseCancelled := by
  refine (Move.turns fun attemptId blob waits => ?_).moves
  obtain ⟨state, member, same⟩ := List.mem_map.mp waits
  split at same
  · split at same <;> cases same
  · rw [same] at member
    exact .uploading member

theorem moves_settle (s : Session) : s.Moves mute s.settle :=
  (moves_onRecorder_run s fun _ inStep => ⟨_, Recorder.run_settle inStep⟩).trans
    (moves_releaseCancelled _)

/-- The stimulus is about uploads of parts. -/
def Stimulus.isPumping : Stimulus → Bool
  | .pump | .uploaded _ => true
  | _ => false

/-- Neither the learner nor the host says anything by it. -/
def Stimulus.isMute : Stimulus → Bool
  | .call begun => begun.isMute
  | .dispatch action => action.isMute
  | _ => true

/-- The session, where a new beginning takes the mark of the limit away. -/
def unmarked (s : Session) : Stimulus → Session
  | .call (.assign _) => { s with maxDurationReached := false }
  | _ => s

theorem moves_react (s : Session) {stimulus : Stimulus} (beside : stimulus.isPumping = false)
    (mutes : mute = true → stimulus.isMute = true) :
    (s.unmarked stimulus).Moves mute (s.react stimulus) := by
  cases stimulus with
  | call call =>
      have begins (goesOn : ∀ assignmentId, call ≠ .assign assignmentId) :
          s.Moves mute (s.react (.call call)) :=
        (moves_withCall s).trans (moves_runCall s.withCall s.nextCall goesOn mutes)
      cases call with
      | assign assignmentId =>
          obtain rfl : mute = false := Bool.eq_false_iff.mpr fun isMute => by cases mutes isMute
          have opened : Moves false { s with maxDurationReached := false } _ := moves_withCall _
          exact (opened.trans (moves_assign s.withCall assignmentId)).trans
            (moves_giveBack _ s.nextCall none)
      | _ => exact begins (by nofun)
  | answer id answer => exact moves_takeAnswer s id answer
  | read id read => exact moves_takeReadOf s id read
  | uploaded | pump => cases beside
  | elapse ms =>
      exact moves_onRecorder_run s fun _ inStep => ⟨_, Recorder.run_observe inStep (.elapse ms)⟩
  | dispatch action => exact moves_dispatch s mutes
  | setToken token => exact (Move.signs _).moves
  | setOutcome outcome => exact moves_onRecorder s fun _ _ => ⟨[], .rests⟩

theorem moves_step (s : Session) {stimulus : Stimulus} (beside : stimulus.isPumping = false)
    (mutes : mute = true → stimulus.isMute = true) :
    (s.unmarked stimulus).Moves mute (s.step stimulus) :=
  (moves_react s beside mutes).trans (moves_settle _)

theorem Moves.pump (moves : s.Moves mute s') : s'.pump = s.pump := by
  induction moves with
  | refl => rfl
  | tail _ move ih =>
      refine Eq.trans ?_ ih
      cases move with
      | slot transport => cases transport <;> rfl
      | _ => rfl

theorem Moves.limit (moves : s.Moves mute s') : s'.maxDurationReached = s.maxDurationReached := by
  induction moves with
  | refl => rfl
  | tail _ move ih =>
      refine Eq.trans ?_ ih
      cases move with
      | slot transport => cases transport <;> rfl
      | _ => rfl

/-! ## The pump -/

/-- Only parts were sent, and neither the calls nor a recording changed. -/
structure Pumps (s s' : Session) : Prop where
  recorder : s'.recorder = s.recorder
  calls : s'.calls = s.calls
  kept : s'.finalRecording = s.finalRecording
  sent : ∃ parts, s'.sent = s.sent ++ parts ∧ ∀ request ∈ parts, request.endpoint.route = .chunks

theorem Pumps.of_same (recorder : s'.recorder = s.recorder) (calls : s'.calls = s.calls)
    (kept : s'.finalRecording = s.finalRecording) (sent : s'.sent = s.sent) : s.Pumps s' :=
  ⟨recorder, calls, kept, [], by rw [sent, List.append_nil], nofun⟩

theorem Pumps.trans {a b c : Session} (first : a.Pumps b) (second : b.Pumps c) : a.Pumps c := by
  obtain ⟨before, sentBefore, partsBefore⟩ := first.sent
  obtain ⟨after, sentAfter, partsAfter⟩ := second.sent
  refine ⟨second.recorder.trans first.recorder, second.calls.trans first.calls,
    second.kept.trans first.kept, before ++ after, ?_, fun request member => ?_⟩
  · rw [sentAfter, sentBefore, List.append_assoc]
  · rcases List.mem_append.mp member with early | late
    · exact partsBefore request early
    · exact partsAfter request late

theorem pumps_pump : KeptByPump Pumps where
  trans := .trans
  setPump := fun _ _ => .of_same rfl rfl rfl rfl
  limit := fun _ => .of_same rfl rfl rfl rfl
  report := fun _ _ => .of_same rfl rfl rfl rfl
  send := by
    intro s s' attemptId blob sequence isSent
    obtain ⟨token, -, rfl⟩ := eq_of_send isSent
    refine ⟨rfl, rfl, rfl, _, rfl, fun request member => ?_⟩
    rw [List.mem_singleton.mp member]
    rfl

theorem KeptByPump.react {R : Session → Session → Prop} (kept : KeptByPump R) (s : Session)
    {stimulus : Stimulus} (pumping : stimulus.isPumping = true) : R s (s.react stimulus) := by
  cases stimulus with
  | pump => exact kept.takeEvents s _
  | uploaded answer => exact kept.takePumpAnswer s
  | _ => cases pumping

theorem pumps_react (s : Session) {stimulus : Stimulus} (pumping : stimulus.isPumping = true) :
    s.Pumps (s.react stimulus) :=
  pumps_pump.react s pumping

/-! ## The recorder in a run -/

/-- Meanwhile the recorder went on, if there is one. -/
inductive Records (s s' : Session) : Prop where
  | nobody (before : s.recorder = none) (after : s'.recorder = none)
  | goesOn {r r' : Recorder} {seen : List Observation} (before : s.recorder = some r)
      (after : s'.recorder = some r') (run : r.reel.Run seen r'.reel)

/-- The recorder is in step, if there is one. -/
def InStep (s : Session) : Prop :=
  ∀ r, s.recorder = some r → r.reel.InStep

theorem records_of_same (recorder : s'.recorder = s.recorder) : s.Records s' := by
  cases here : s.recorder with
  | none => exact .nobody here (recorder.trans here)
  | some r => exact .goesOn here (recorder.trans here) .rests

theorem Records.trans {a b c : Session} (first : a.Records b) (second : b.Records c) :
    a.Records c := by
  cases first with
  | nobody before between =>
      cases second with
      | nobody _ after => exact .nobody before after
      | goesOn also => cases between.symm.trans also
  | goesOn before between run =>
      cases second with
      | nobody also => cases between.symm.trans also
      | goesOn also after further =>
          obtain rfl := Option.some.inj (between.symm.trans also)
          exact .goesOn before after (run.trans further)

theorem Records.inStep (records : s.Records s') (inStep : s.InStep) : s'.InStep := by
  intro r here
  cases records with
  | nobody _ after => cases after.symm.trans here
  | goesOn before after run =>
      obtain rfl := Option.some.inj (after.symm.trans here)
      exact run.inStep (inStep _ before)

theorem Records.told (records : s.Records s') : ∃ more, s'.told = s.told ++ more := by
  cases records with
  | nobody before after =>
      refine ⟨[], ?_⟩
      simp only [Session.told, before, after, List.append_nil]
  | goesOn before after run =>
      simp only [Session.told, before, after]
      exact ⟨_, run.log⟩

theorem Moves.records (moves : s.Moves mute s') (inStep : s.InStep) : s.Records s' := by
  induction moves with
  | refl => exact records_of_same rfl
  | tail _ move ih =>
      refine ih.trans ?_
      cases move with
      | slot transport => cases transport <;> exact records_of_same rfl
      | gives here given =>
          obtain ⟨events, act⟩ := Recorder.act_stop (ih.inStep inStep _ here)
          exact .goesOn here rfl (Reel.Step.run (.acts act))
      | records here runs =>
          obtain ⟨seen, run⟩ := runs (ih.inStep inStep _ here)
          exact .goesOn here rfl run
      | talks | signs | remembers | turns | asks | keeps => exact records_of_same rfl

theorem records_settle (inStep : s.InStep) : s.Records s.settle := by
  have moves : s.Moves false s.settle := moves_settle s
  exact moves.records inStep

theorem records_step (inStep : s.InStep) (stimulus : Stimulus) : s.Records (s.step stimulus) := by
  cases pumping : stimulus.isPumping with
  | false =>
      have same : (s.unmarked stimulus).recorder = s.recorder := by
        unfold unmarked
        split <;> rfl
      have unmarked := records_of_same same
      have moves : Moves false _ _ := moves_step s pumping (by nofun)
      exact unmarked.trans (moves.records (unmarked.inStep inStep))
  | true =>
      have pumped := records_of_same (pumps_react s pumping).recorder
      exact pumped.trans (records_settle (pumped.inStep inStep))

theorem records_run (inStep : s.InStep) (stimuli : List Stimulus) :
    s.Records (s.run stimuli) := by
  induction stimuli generalizing s with
  | nil => exact records_of_same rfl
  | cons stimulus rest ih =>
      have first := records_step inStep stimulus
      exact first.trans (ih (first.inStep inStep))

end

end Viva.Session
