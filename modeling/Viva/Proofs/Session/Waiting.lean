import Viva.Proofs.Session.Owners

/-! # Waiting for a reply

Where only replies to requests are streamed, nothing is awaited that is not under way: while a
message receives tokens or an answer is awaited, a stream owns the slot of the replies, and its call
waits for it. Every way in which a stream loses the slot closes its message, and the actions that
open one come right before a stream begins. What could go wrong is a failure that the conversation
passes over, since it is handed in; so nothing must be awaited then (`Calm`).
-/

namespace Viva

/-- The action may open a message, or have an answer awaited. -/
def Action.opens : Action → Bool
  | startAssessment _ _ _ | sendMessage _ | beginInterviewerMessage => true
  | _ => false

/-- The call neither begins an attempt that the server knows already, nor follows its standing
    connection. -/
def Call.isOverPost : Call → Bool
  | startExisting _ _ | followEvents => false
  | _ => true

namespace Conversation

/-- No message receives tokens, and no answer is awaited. -/
def Rests (c : Conversation) : Prop :=
  c.isStreaming = false ∧ c.isWaiting = false

/-- The attempt is being handed in, or it is handed in. -/
def HandedIn (c : Conversation) : Prop :=
  c.phase = .completing ∨ c.phase = .completed

/-- Nothing is awaited while the attempt is handed in, nor after that. -/
def Calm (c : Conversation) : Prop :=
  c.HandedIn → c.Rests

theorem rests_new : Rests {} :=
  ⟨rfl, rfl⟩

theorem isStreaming_finishMessage (c : Conversation) : c.finishMessage.isStreaming = false := by
  rw [isStreaming, messages_finishMessage]
  exact isStreaming_closeMessages c

theorem rests_finishMessage (c : Conversation) : c.finishMessage.Rests :=
  ⟨isStreaming_finishMessage c, isWaiting_finishMessage c⟩

section
variable {c : Conversation}

theorem Rests.calm (rests : c.Rests) : c.Calm := fun _ => rests

/-- An error closes what is open, unless the attempt is handed in. -/
theorem Calm.setError (calm : c.Calm) (message : String) : (c.reduce (.setError message)).Rests := by
  simp only [reduce]
  split
  · rename_i isOver
    exact calm (.inr (beq_iff_eq.mp isOver))
  · exact ⟨isStreaming_closeMessages c, rfl⟩

theorem Rests.reduce (rests : c.Rests) {action : Action} (closed : action.opens = false) :
    (c.reduce action).Rests := by
  obtain ⟨silent, waits⟩ := rests
  cases action with
  | startAssessment | sendMessage | beginInterviewerMessage => cases closed
  | assign | reset => exact ⟨rfl, rfl⟩
  | finishStreamingMessage => exact rests_finishMessage c
  | setError message => exact Calm.setError (fun _ => ⟨silent, waits⟩) message
  | appendToken content => exact ⟨(isStreaming_append c content).trans silent, waits⟩
  | addSystemMessage content =>
      exact ⟨(isStreaming_push_complete c .system content).trans silent, waits⟩
  | attemptIdentified => exact ⟨silent, waits⟩
  | assessmentComplete evaluationId =>
      simp only [Conversation.reduce, signalCompletion]
      split
      · split <;> exact ⟨silent, waits⟩
      · exact ⟨silent, waits⟩
  | beginCompletion =>
      simp only [Conversation.reduce]
      split
      · exact ⟨silent, rfl⟩
      · exact ⟨silent, waits⟩
  | grantPermissions | continueAfterClosure | completeAssessment | clearError =>
      simp only [Conversation.reduce]
      split <;> exact ⟨silent, waits⟩

/-- An attempt is handed in only by the action that begins it. -/
theorem handedIn_of_reduce {action : Action} (after : (c.reduce action).HandedIn) :
    action = .beginCompletion ∨ c.HandedIn := by
  unfold HandedIn at *
  cases action with
  | beginCompletion => exact .inl rfl
  | assign | reset => simp [Conversation.reduce, about] at after
  | finishStreamingMessage =>
      simp only [Conversation.reduce, finishMessage, closeMessages] at after
      grind
  | assessmentComplete evaluationId =>
      simp only [Conversation.reduce, signalCompletion] at after
      grind
  | appendToken | addSystemMessage | attemptIdentified => exact .inr after
  | _ =>
      simp only [Conversation.reduce, push] at after
      grind

/-- Nothing is opened in an attempt that is handed in. -/
theorem HandedIn.reduce_opens (handedIn : c.HandedIn) {action : Action}
    (opens : action.opens = true) : c.reduce action = c := by
  cases action with
  | startAssessment | sendMessage | beginInterviewerMessage =>
      rcases handedIn with phase | phase <;> simp [Conversation.reduce, phase]
  | _ => cases opens

theorem Calm.reduce (calm : c.Calm) {action : Action}
    (resting : action = .beginCompletion → c.Rests) : (c.reduce action).Calm := by
  intro after
  have rests : c.Rests := by
    rcases handedIn_of_reduce after with begins | before
    · exact resting begins
    · exact calm before
  cases opens : action.opens with
  | false => exact rests.reduce opens
  | true =>
      rcases handedIn_of_reduce after with rfl | before
      · cases opens
      · rwa [before.reduce_opens opens]

end

end Conversation

namespace Session

open Conversation

/-! ## What leaves conversation and streams alone -/

theorem untouched_send {s s' : Session} {waiter : Waiter} {endpoint : Endpoint}
    (sent : s.send waiter endpoint = .ok s') : s.Untouched s' := by
  have same := sameStreams_send sent
  obtain ⟨token, -, rfl⟩ := eq_of_send sent
  exact ⟨rfl, rfl, same.slot⟩

theorem untouched_await (s : Session) (id : Nat) (awaiting : Awaiting) :
    s.Untouched (s.await id awaiting) :=
  ⟨rfl, rfl, slot_await s id awaiting⟩

theorem untouched_withCall (s : Session) : s.Untouched s.withCall :=
  ⟨rfl, rfl, slot_withCall s⟩

theorem untouched_setPump (s : Session) (pump : Pump) : s.Untouched (s.setPump pump) :=
  ⟨rfl, rfl, (sameStreams_pump.setPump s pump).slot⟩

theorem untouched_onRecorder (s : Session) (change : Recorder → Recorder) :
    s.Untouched (s.onRecorder change) :=
  ⟨rfl, rfl, (sameStreams_onRecorder s change).slot⟩

theorem untouched_prepareRecorder (s : Session) : s.Untouched s.prepareRecorder.1 := by
  refine ⟨?_, ?_, (sameStreams_prepareRecorder s).slot⟩ <;>
    (unfold prepareRecorder; split <;> rfl)

theorem untouched_startRecorder (s : Session) : s.Untouched s.startRecorder.1 := by
  refine ⟨?_, ?_, (sameStreams_startRecorder s).slot⟩ <;>
    (unfold startRecorder; split <;> rfl)

theorem untouched_takeRecording (s : Session) : s.Untouched s.takeRecording.1 := by
  refine ⟨?_, ?_, (sameStreams_takeRecording s).slot⟩ <;>
    (unfold takeRecording; split <;> try rfl) <;> (dsimp only; split <;> rfl)

theorem Untouched.conversation {s s' : Session} (untouched : s.Untouched s') :
    s'.conversation = s.conversation :=
  congrArg Store.conversation untouched.store

/-! ## Sessions that only stream replies -/

/-- No standing connection is followed, and the conversation is calm. -/
structure Steady (s : Session) : Prop where
  events : s.events.isLive = false
  calm : s.conversation.Calm

/-- And nothing is awaited unless a stream owns the slot of the replies. -/
structure Awaited (s : Session) : Prop extends Steady s where
  awaited : s.replies.isLive = true ∨ s.conversation.Rests

section
variable {s s' : Session}

theorem Steady.untouched (steady : s.Steady) (untouched : s.Untouched s') : s'.Steady where
  events := by
    have same : s'.events = s.events := untouched.slot .eventSource
    rw [same]
    exact steady.events
  calm := by
    rw [untouched.conversation]
    exact steady.calm

theorem Awaited.untouched (awaited : s.Awaited) (untouched : s.Untouched s') : s'.Awaited where
  toSteady := awaited.toSteady.untouched untouched
  awaited := by
    have same : s'.replies = s.replies := untouched.slot .response
    rw [same, untouched.conversation]
    exact awaited.awaited

theorem Awaited.giveBack (awaited : s.Awaited) (id : Nat) (result : CallResult) :
    (s.giveBack id result).Awaited :=
  awaited.untouched (untouched_giveBack s id result)

theorem Steady.dispatch (steady : s.Steady) {action : Action}
    (resting : action = .beginCompletion → s.conversation.Rests) : (s.dispatch action).Steady where
  events := steady.events
  calm := by
    rw [conversation_dispatch]
    exact steady.calm.reduce resting

theorem Awaited.dispatch (awaited : s.Awaited) {action : Action} (closed : action.opens = false)
    (resting : action = .beginCompletion → s.conversation.Rests) : (s.dispatch action).Awaited where
  toSteady := awaited.toSteady.dispatch resting
  awaited := by
    rw [conversation_dispatch]
    exact awaited.awaited.imp_right fun rests => rests.reduce closed

theorem Steady.setReplies (steady : s.Steady) (slot : Slot) :
    (s.setSlot .response slot).Steady :=
  ⟨steady.events, steady.calm⟩

/-! ### Failures -/

/-- Whatever was awaited before a failure is not awaited after it. -/
theorem Steady.report (steady : s.Steady) (failure : Failure) : (s.report failure).Awaited where
  toSteady := by
    have kept : Steady { s with
        tokenFile := if failure.requiresLogout then none else s.tokenFile } :=
      ⟨steady.events, steady.calm⟩
    exact kept.dispatch (by nofun)
  awaited := by
    have said : (s.report failure).conversation =
        s.conversation.reduce (.setError failure.learnerMessage) := conversation_dispatch _ _
    rw [said]
    exact .inr (steady.calm.setError _)

theorem Steady.failCall (steady : s.Steady) (id : Nat) (failure : Failure) :
    (s.failCall id failure).Awaited :=
  (steady.report failure).giveBack id _

/-! ### Streams -/

/-- A reply is under way, or its request has failed. -/
theorem Steady.openStream (steady : s.Steady) (id : Nat) (endpoint : Endpoint) :
    (s.openStream id .response endpoint).Awaited := by
  cases signedIn : s.token? with
  | some token =>
      rw [openStream_of_token signedIn]
      exact ⟨⟨steady.events, steady.calm⟩, .inl rfl⟩
  | none =>
      rw [openStream_of_no_token signedIn]
      exact (steady.setReplies _).failCall id _

/-- Cutting off the reply under way leaves nothing awaited. -/
theorem Awaited.supersede (awaited : s.Awaited) :
    (s.supersede .response).Steady ∧ (s.supersede .response).conversation.Rests := by
  unfold Session.supersede
  dsimp only
  split
  · refine ⟨(awaited.setReplies _).dispatch (by nofun), ?_⟩
    rw [conversation_dispatch]
    exact rests_finishMessage _
  · rename_i idle
    exact ⟨awaited.toSteady, awaited.awaited.resolve_left idle⟩

theorem Steady.supersede_events (steady : s.Steady) : s.supersede .eventSource = s := by
  have idle : (s.slot .eventSource).isLive = false := steady.events
  simp only [supersede, idle, Bool.false_eq_true, if_false]

/-- A stream that owns its slot is a reply. -/
theorem Steady.response_of_owns (steady : s.Steady) {transport : Transport} {generation : Nat}
    (owns : (s.slot transport).isCurrent generation = true) : transport = .response := by
  cases transport with
  | response => rfl
  | eventSource =>
      have live : s.events.isLive = true := Slot.isLive_of_isCurrent owns
      cases live.symm.trans steady.events

theorem Steady.applyEvent (steady : s.Steady) (event : Event) : (s.applyEvent event).Steady := by
  cases event with
  | token | done => exact (steady.dispatch (by nofun)).dispatch (by nofun)
  | messageDone | assessmentComplete => exact steady.dispatch (by nofun)
  | error | unknown => exact steady

/-- Only the reply that owns the slot is heard, and that goes on. -/
theorem Awaited.takeFrames (awaited : s.Awaited) (transport : Transport) (generation : Nat)
    (c : Consumption) (frames : List Frame) :
    (Consumption.takeFrames (observer transport generation) c s frames).2.Awaited := by
  induction frames generalizing c s with
  | nil => exact awaited
  | cons frame rest ih =>
      unfold Consumption.takeFrames
      split
      · exact awaited
      · split
        · exact ih awaited c
        · exact ih awaited c
        · exact awaited
        · rename_i event _ _ _
          refine ih ?_ _
          simp only [observer]
          split
          · rename_i owns
            obtain rfl := awaited.response_of_owns owns
            have live : s.replies.isLive = true := Slot.isLive_of_isCurrent owns
            have same := (sameStreams_applyEvent s event).slot .response
            refine ⟨awaited.applyEvent event, .inl ?_⟩
            exact (congrArg Slot.isLive same).trans live
          · exact awaited

theorem Awaited.failStream (awaited : s.Awaited) (id : Nat) (transport : Transport)
    (generation : Nat) (failure : Failure) :
    (s.failStream id transport generation failure).Awaited := by
  cases owns : (s.slot transport).isCurrent generation with
  | false => exact awaited.untouched (untouched_failStream owns id failure)
  | true =>
      obtain rfl := awaited.response_of_owns owns
      simp only [Session.failStream, owns, if_true]
      exact (awaited.setReplies _).failCall id failure

theorem Awaited.endStream (awaited : s.Awaited) (id : Nat) (transport : Transport)
    (generation : Nat) (outcome : Except Failure StreamOutcome) :
    (s.endStream id transport generation outcome).Awaited := by
  cases owns : (s.slot transport).isCurrent generation with
  | false => exact awaited.untouched (untouched_endStream owns id outcome)
  | true =>
      obtain rfl := awaited.response_of_owns owns
      match outcome with
      | .ok .cancelled => exact awaited.giveBack id _
      | .error failure => exact awaited.failStream id _ _ failure
      | .ok (.completed done tokens) =>
          simp only [Session.endStream, owns, if_true]
          refine Awaited.giveBack
            ⟨(awaited.setReplies _).dispatch (fun begins => by cases begins), .inr ?_⟩ id _
          rw [conversation_dispatch]
          exact rests_finishMessage _

theorem Awaited.awaitRead (awaited : s.Awaited) (id : Nat) (transport : Transport)
    (generation : Nat) (c : Consumption) : (s.awaitRead id transport generation c).Awaited :=
  awaited.untouched (untouched_awaitRead s id transport generation c)

theorem Awaited.takeHeaders (awaited : s.Awaited) (id : Nat) (transport : Transport)
    (generation : Nat) (answer : Except Failure Unit) :
    (s.takeHeaders id transport generation answer).Awaited := by
  match answer with
  | .ok () => exact awaited.awaitRead id transport generation {}
  | .error failure => exact awaited.failStream id transport generation failure

theorem Awaited.takeRead (awaited : s.Awaited) (id : Nat) (transport : Transport)
    (generation : Nat) (c : Consumption) (read : Read) :
    (s.takeRead id transport generation c read).Awaited := by
  cases read with
  | bytes bytes =>
      have taken := awaited.takeFrames transport generation
        { c with reader := (c.reader.feed bytes).2 } (c.reader.feed bytes).1
      rw [takeRead_bytes]
      unfold takeRest
      split
      · rename_i c' s' took
        rw [took] at taken
        exact taken.awaitRead id transport generation c'
      · rename_i outcome s' took
        rw [took] at taken
        exact taken.endStream id transport generation outcome
  | failure detail => exact awaited.failStream id transport generation _
  | ended => exact awaited.endStream id transport generation _

/-! ### Calls -/

theorem awaited_assign (s : Session) (assignmentId : String) :
    (s.assign assignmentId).Awaited := by
  have said : (s.assign assignmentId).conversation = about assignmentId :=
    conversation_dispatch _ (.assign assignmentId)
  have rests : (s.assign assignmentId).conversation.Rests := by
    rw [said]
    exact ⟨rfl, rfl⟩
  exact ⟨⟨rfl, rests.calm⟩, .inr rests⟩

theorem Awaited.acquireDevices (awaited : s.Awaited) (id : Nat) :
    (s.acquireDevices id).Awaited := by
  have prepared := awaited.untouched (untouched_prepareRecorder s)
  unfold Session.acquireDevices
  split
  · rename_i isPrepared
    rw [isPrepared] at prepared
    exact prepared.failCall id _
  · rename_i isPrepared
    rw [isPrepared] at prepared
    exact (prepared.dispatch rfl (by nofun)).giveBack id _

theorem Awaited.grantPermissions (awaited : s.Awaited) (id : Nat) :
    (s.grantPermissions id).Awaited := by
  unfold Session.grantPermissions
  dsimp only
  split
  · exact awaited.acquireDevices id
  · split
    · split
      · exact awaited.giveBack id _
      · exact (awaited.dispatch rfl (by nofun)).acquireDevices id
    · exact awaited.giveBack id _

theorem Awaited.start (awaited : s.Awaited) (id : Nat) : (s.start id).Awaited := by
  unfold Session.start
  dsimp only
  split
  · exact awaited.giveBack id _
  · split
    · exact awaited.giveBack id _
    · have begun : (s.dispatch (.startAssessment none none s.wallClock)).Steady :=
        awaited.toSteady.dispatch (by nofun)
      have started := begun.untouched (untouched_startRecorder _)
      split
      · rename_i isStarted
        rw [isStarted] at started
        exact started.failCall id _
      · rename_i isStarted
        rw [isStarted] at started
        exact started.openStream id _

theorem Steady.streamReply (steady : s.Steady) (id : Nat) (content : String) :
    (s.streamReply id content).Awaited := by
  have begun : (s.dispatch .beginInterviewerMessage).Steady := steady.dispatch (by nofun)
  unfold Session.streamReply
  dsimp only
  split
  · exact begun.failCall id _
  · exact begun.openStream id _

theorem Awaited.sendMessage (awaited : s.Awaited) (id : Nat) (content : String) :
    (s.sendMessage id content).Awaited := by
  obtain ⟨steady, rests⟩ := awaited.supersede
  unfold Session.sendMessage
  dsimp only
  split
  · exact awaited.giveBack id _
  · split
    · have said : ((s.supersede .response).dispatch (.sendMessage content)).Steady :=
        steady.dispatch (by nofun)
      refine Steady.streamReply ?_ id content
      exact ⟨said.events, said.calm⟩
    · exact Awaited.giveBack ⟨steady, .inr rests⟩ id _

theorem Awaited.retry (awaited : s.Awaited) (id : Nat) : (s.retry id).Awaited := by
  unfold Session.retry retryStart
  dsimp only
  have cleared : (s.dispatch .clearError).Awaited := awaited.dispatch rfl (by nofun)
  split
  · exact awaited.giveBack id _
  · split
    · split
      · exact cleared.giveBack id _
      · split
        · exact awaited.grantPermissions id
        · split
          · exact awaited.giveBack id _
          · exact ((awaited.dispatch rfl (by nofun)).dispatch rfl (by nofun)).start id
    · split
      · exact cleared.toSteady.streamReply id _
      · exact cleared.giveBack id _

theorem Awaited.send (awaited : s.Awaited) {waiter : Waiter} {endpoint : Endpoint}
    (sent : s.send waiter endpoint = .ok s') : s'.Awaited :=
  awaited.untouched (untouched_send sent)

theorem Awaited.await (awaited : s.Awaited) (id : Nat) (awaiting : Awaiting) :
    (s.await id awaiting).Awaited :=
  awaited.untouched (untouched_await s id awaiting)

theorem Awaited.sendCompletion (awaited : s.Awaited) (id : Nat) (attemptId : String) :
    (s.sendCompletion id attemptId).Awaited := by
  unfold Session.sendCompletion
  split
  · rename_i sent
    exact (awaited.send sent).await id _
  · exact awaited.failCall id _

theorem Awaited.failUpload (awaited : s.Awaited) (id : Nat) (recording : Blob)
    (failure : Failure) : (s.failUpload id recording failure).Awaited := by
  have kept : Steady { s with finalRecording := some recording } := ⟨awaited.events, awaited.calm⟩
  exact kept.failCall id failure

/-- An attempt is handed in when its conversation rests. -/
theorem Awaited.finish (awaited : s.Awaited) (id : Nat) : (s.finish id).Awaited := by
  obtain ⟨steady, rests⟩ := awaited.supersede
  unfold Session.finish
  dsimp only
  split
  · exact awaited.giveBack id _
  · split
    · exact awaited.failCall id _
    · rename_i attemptId _
      rw [steady.supersede_events]
      have closed : (s.supersede .response).Awaited := ⟨steady, .inr rests⟩
      have begun : ((s.supersede .response).dispatch .beginCompletion).Awaited :=
        closed.dispatch rfl fun _ => rests
      have taken := begun.untouched (untouched_takeRecording _)
      split
      · rename_i took
        rw [took] at taken
        exact taken.sendCompletion id attemptId
      · rename_i recording took
        rw [took] at taken
        split
        · rename_i sent
          exact (taken.send sent).await id _
        · exact taken.failUpload id recording _

theorem Awaited.abandon (awaited : s.Awaited) : s.abandon.Awaited := by
  obtain ⟨steady, rests⟩ := awaited.supersede
  have closed : (s.supersede .response).Awaited := ⟨steady, .inr rests⟩
  unfold Session.abandon
  rw [steady.supersede_events]
  exact closed.untouched (untouched_onRecorder _ _)

theorem Awaited.runCall (awaited : s.Awaited) (id : Nat) {call : Call}
    (overPost : call.isOverPost = true) : (s.runCall id call).Awaited := by
  cases call with
  | startExisting | followEvents => cases overPost
  | assign assignmentId => exact (awaited_assign s assignmentId).giveBack id _
  | grantPermissions => exact awaited.grantPermissions id
  | start => exact awaited.start id
  | sendMessage content => exact awaited.sendMessage id content
  | retry => exact awaited.retry id
  | clearError | continueAfterClosure => exact (awaited.dispatch rfl (by nofun)).giveBack id _
  | pauseRecording | resumeRecording | setVisibility =>
      exact (awaited.untouched (untouched_onRecorder s _)).giveBack id _
  | finish => exact awaited.finish id
  | abandon => exact awaited.abandon.giveBack id _

theorem Awaited.takeAnswer (awaited : s.Awaited) (id : Nat) (answer : Answer) :
    (s.takeAnswer id answer).Awaited := by
  unfold Session.takeAnswer
  split
  · exact awaited.takeHeaders id _ _ _
  · unfold takeUploaded
    split
    · exact awaited.sendCompletion id _
    · exact awaited.failUpload id _ _
  · unfold takeCompleted
    split
    · exact (awaited.dispatch rfl (by nofun)).giveBack id _
    · exact awaited.failCall id _
  · exact awaited

/-! ### The pump -/

/-- A fault of the recorder is a failure like others. -/
theorem awaited_pump : KeptByPump fun a b => a.Awaited → b.Awaited where
  trans := fun first second awaited => second (first awaited)
  setPump := fun s pump awaited => awaited.untouched (untouched_setPump s pump)
  limit := fun _ awaited => ⟨⟨awaited.events, awaited.calm⟩, awaited.awaited⟩
  report := fun _ failure awaited => awaited.report failure
  send := fun sent awaited => awaited.untouched (untouched_send sent)

/-! ## Over a run -/

/-- The host leaves the conversation alone, and calls stream replies at most. -/
def Stimulus.isOverPost : Stimulus → Bool
  | .call asked => asked.isOverPost
  | .dispatch _ => false
  | _ => true

theorem Awaited.step (awaited : s.Awaited) {stimulus : Stimulus}
    (overPost : stimulus.isOverPost = true) : (s.step stimulus).Awaited := by
  refine Awaited.untouched ?_ (untouched_settle _)
  cases stimulus with
  | call call => exact (awaited.untouched (untouched_withCall s)).runCall s.nextCall overPost
  | answer id answer => exact awaited.takeAnswer id answer
  | read id read =>
      unfold react takeReadOf
      dsimp only
      split
      · exact awaited.takeRead id _ _ _ read
      · exact awaited
  | uploaded answer => exact awaited_pump.takePumpAnswer s awaited
  | pump => exact awaited_pump.takeEvents s s.untaken awaited
  | elapse ms => exact awaited.untouched (untouched_onRecorder s _)
  | dispatch action => cases overPost
  | setToken token => exact ⟨⟨awaited.events, awaited.calm⟩, awaited.awaited⟩
  | setOutcome outcome => exact awaited.untouched (untouched_onRecorder s _)

/-- A session in which nothing was said yet. -/
structure New (s : Session) : Prop extends Fresh s where
  conversation : s.conversation = {}

theorem New.sound (isNew : s.New) : s.conversation.Sound := by
  rw [isNew.conversation]
  exact sound_new

theorem New.awaited (isNew : s.New) : s.Awaited := by
  have none : s.events = {} := isNew.slots .eventSource
  have rests : s.conversation.Rests := by
    rw [isNew.conversation]
    exact rests_new
  exact ⟨⟨by rw [none]; rfl, rests.calm⟩, .inr rests⟩

theorem Awaited.run (awaited : s.Awaited) {stimuli : List Stimulus}
    (overPost : ∀ stimulus ∈ stimuli, stimulus.isOverPost = true) : (s.run stimuli).Awaited := by
  induction stimuli generalizing s with
  | nil => exact awaited
  | cons stimulus rest ih =>
      exact ih (awaited.step (overPost stimulus List.mem_cons_self))
        fun other member => overPost other (List.mem_cons_of_mem stimulus member)

/-- Nobody waits for ever. In a session that only streams replies to requests, whatever its calls do
    and the server answers or delivers, and whatever becomes of the recorder: while a message
    receives tokens or an answer is awaited, a reply is under way. Its stream owns the slot and is
    not cancelled, and its call waits for it. -/
theorem reply_under_way (isNew : s.New) {stimuli : List Stimulus}
    (overPost : ∀ stimulus ∈ stimuli, stimulus.isOverPost = true) :
    let t := s.run stimuli
    t.conversation.isStreaming = true ∨ t.conversation.isWaiting = true →
      ∃ (generation id : Nat) (state : CallState), t.replies.isCurrent generation = true ∧
        t.replies.isCancelled generation = false ∧ t.calls[id]? = some state ∧
        state.generation? .response = some generation := by
  intro t waiting
  have live : t.replies.isLive = true := by
    refine (isNew.awaited.run overPost).awaited.resolve_right fun rests => ?_
    rcases waiting with streams | waits
    · cases streams.symm.trans rests.1
    · cases waits.symm.trans rests.2
  obtain ⟨generation, owner⟩ := Option.isSome_iff_exists.mp live
  have owns : t.replies.isCurrent generation = true := Slot.isCurrent_iff.mpr owner
  obtain ⟨id, state, here, waits⟩ := attended_run isNew.toFresh stimuli .response generation owns
  have reachable : t.Reachable := ⟨s, isNew.toFresh, later_run s stimuli⟩
  have notCancelled := (reachable.tended.slots .response).live generation owner
  exact ⟨generation, id, state, owns, notCancelled, here, waits⟩

end

/-- The first start is cut off by a new beginning; the second one is under way. -/
theorem second_start_under_way :
    let s : Session := { baseUrl := "", tokenFile := some "t" }
    let t := s.run [.call (.assign "A"), .call .start, .answer 1 (.status 200), .call .finish,
      .call (.assign "B"), .call .grantPermissions, .call .start, .read 1 .ended]
    t.conversation.isStreaming = true ∧
      ∃ (generation id : Nat) (state : CallState), t.replies.isCurrent generation = true ∧
        t.replies.isCancelled generation = false ∧ t.calls[id]? = some state ∧
        state.generation? .response = some generation := by
  intro s t
  have isNew : s.New := ⟨⟨rfl, fun transport => by cases transport <;> rfl⟩, rfl⟩
  have streams : t.conversation.isStreaming = true := by decide +kernel
  refine ⟨streams, reply_under_way isNew ?_ (.inl streams)⟩
  decide

end Session

end Viva
