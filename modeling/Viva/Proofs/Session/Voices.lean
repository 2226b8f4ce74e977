import Viva.Proofs.Conversation.Pieces
import Viva.Proofs.Session.Conduct
import Viva.Proofs.Session.Waiting

/-! # Whose text a message is

A message is filled by whoever is heard while it receives tokens. Two replies never fill the same
one: a reply takes the slot from the one before only when what that one has filled is closed. A
standing connection has a slot of its own, so it is heard beside the replies, and it fills the
message that is open whoever opened it.
-/

namespace Viva.Session

open Conversation

/-! ## The pieces of a run -/

/-- The pieces that come of a stimulus: the host may add text by hand, and a stream that owns its
    slot is heard. -/
def pieces (s : Session) : Stimulus → List Piece
  | .dispatch action => s.conversation.pieces .host [action]
  | .read id (.bytes bytes) =>
    match s.calls[id]? with
    | some (.waiting (.read transport generation c)) =>
      if (s.slot transport).isCurrent generation then
        s.conversation.pieces (.stream transport generation)
          ((c.tells bytes).events.flatMap Event.actions)
      else []
    | _ => []
  | _ => []

/-- The messages that there were are dropped. -/
def startsOver (s : Session) : Stimulus → Bool
  | .call call => s.beginsAnew call
  | .dispatch action => action.startsOver
  | _ => false

/-- The pieces of the messages that there are after a stimulus. -/
def piecesAfter (s : Session) (made : List Piece) (stimulus : Stimulus) : List Piece :=
  if s.startsOver stimulus then [] else made ++ s.pieces stimulus

/-- The pieces of the messages that there are after some stimuli. -/
def piecesOf (s : Session) (made : List Piece) : List Stimulus → List Piece
  | [] => made
  | stimulus :: rest => (s.step stimulus).piecesOf (s.piecesAfter made stimulus) rest

/-! ## Carrying messages on -/

/-- The messages are carried on, and an attempt that is over stays so. -/
structure Quiet (s s' : Session) : Prop where
  sound : s.conversation.Sound → s'.conversation.Sound
  carries : s.conversation.Carries s'.conversation
  stays : s.conversation.Sound → s.conversation.phase = .completed →
    s'.conversation.phase = .completed

/-- What is open is kept for this reply: it owns the slot, or the attempt is over and no reply
    does. -/
def Reserved (s : Session) (generation : Nat) : Prop :=
  s.replies.isCurrent generation = true ∨
    s.conversation.phase = .completed ∧ s.replies.isLive = false

/-- The messages are carried on, and while one of them is open it is kept for the same reply. -/
structure Upholds (s s' : Session) : Prop extends Quiet s s' where
  reserved : s.conversation.Sound →
    s'.conversation.OpenBefore s.conversation.messages.length →
      ∀ generation, s.Reserved generation → s'.Reserved generation

section
variable {s s' : Session}

theorem quiet_of_same (same : s'.conversation = s.conversation) : s.Quiet s' := by
  refine ⟨?_, ?_, ?_⟩ <;> rw [same]
  · exact fun sound => sound
  · exact .refl _
  · exact fun _ isOver => isOver

theorem Quiet.trans {a b c : Session} (first : a.Quiet b) (second : b.Quiet c) : a.Quiet c where
  sound := fun sound => second.sound (first.sound sound)
  carries := first.carries.trans second.carries
  stays := fun sound isOver => second.stays (first.sound sound) (first.stays sound isOver)

theorem quiet_dispatch (s : Session) {action : Action} (goesOn : action.startsOver = false)
    (silent : action.addsText = false) : s.Quiet (s.dispatch action) := by
  refine ⟨?_, ?_, ?_⟩ <;> rw [conversation_dispatch]
  · exact fun sound => sound.reduce action
  · exact carries_reduce _ goesOn silent
  · exact fun sound isOver => sound.completed isOver goesOn

theorem quiet_untouched (untouched : s.Untouched s') : s.Quiet s' :=
  quiet_of_same untouched.conversation

theorem quiet_setSlot (s : Session) (transport : Transport) (slot : Slot) :
    s.Quiet (s.setSlot transport slot) :=
  quiet_of_same (conversation_setSlot s transport slot)

theorem quiet_report (s : Session) (failure : Failure) : s.Quiet (s.report failure) := by
  have kept : s.Quiet
      { s with tokenFile := if failure.requiresLogout then none else s.tokenFile } :=
    quiet_of_same rfl
  exact kept.trans (quiet_dispatch _ rfl rfl)

theorem quiet_failCall (s : Session) (id : Nat) (failure : Failure) :
    s.Quiet (s.failCall id failure) :=
  (quiet_report s failure).trans (quiet_of_same rfl)

theorem quiet_supersede (s : Session) (transport : Transport) :
    s.Quiet (s.supersede transport) := by
  unfold supersede
  dsimp only
  split
  · exact (quiet_setSlot s transport _).trans (quiet_dispatch _ rfl rfl)
  · exact quiet_of_same rfl

theorem quiet_openStream (s : Session) (id : Nat) (transport : Transport) (endpoint : Endpoint) :
    s.Quiet (s.openStream id transport endpoint) := by
  cases signedIn : s.token? with
  | some token =>
      rw [openStream_of_token signedIn]
      exact quiet_of_same (conversation_setSlot s transport _)
  | none =>
      rw [openStream_of_no_token signedIn]
      exact (quiet_setSlot s transport _).trans (quiet_failCall _ id _)

theorem quiet_streamReply (s : Session) (id : Nat) (content : String) :
    s.Quiet (s.streamReply id content) := by
  have begun : s.Quiet (s.dispatch .beginInterviewerMessage) := quiet_dispatch s rfl rfl
  unfold streamReply
  dsimp only
  split
  · exact begun.trans (quiet_failCall _ id _)
  · exact begun.trans (quiet_openStream _ id _ _)

theorem quiet_acquireDevices (s : Session) (id : Nat) : s.Quiet (s.acquireDevices id) := by
  have prepared := quiet_untouched (untouched_prepareRecorder s)
  unfold acquireDevices
  split
  · rename_i isPrepared
    rw [isPrepared] at prepared
    exact prepared.trans (quiet_failCall _ id _)
  · rename_i isPrepared
    rw [isPrepared] at prepared
    exact (prepared.trans (quiet_dispatch _ rfl rfl)).trans (quiet_of_same rfl)

theorem quiet_start (s : Session) (id : Nat) : s.Quiet (s.start id) := by
  unfold start
  dsimp only
  split
  · exact quiet_of_same rfl
  · split
    · exact quiet_of_same rfl
    · have begun : s.Quiet (s.dispatch (.startAssessment none none s.wallClock)) :=
        quiet_dispatch s rfl rfl
      have started := begun.trans (quiet_untouched (untouched_startRecorder _))
      split
      · rename_i isStarted
        rw [isStarted] at started
        exact started.trans (quiet_failCall _ id _)
      · rename_i isStarted
        rw [isStarted] at started
        exact started.trans (quiet_openStream _ id _ _)

/-! ### What is open -/

theorem Upholds.trans {a b c : Session} (first : a.Upholds b) (second : b.Upholds c) :
    a.Upholds c where
  toQuiet := first.toQuiet.trans second.toQuiet
  reserved := by
    intro sound isOpen generation reserved
    have before := second.carries.openBefore first.carries.length isOpen
    have after := isOpen.mono first.carries.length
    exact second.reserved (first.sound sound) after generation
      (first.reserved sound before generation reserved)

/-- The slot of the replies is as it was. -/
theorem Quiet.sameReplies (quiet : s.Quiet s') (same : s'.replies = s.replies) : s.Upholds s' where
  toQuiet := quiet
  reserved := by
    intro sound _ generation reserved
    rw [Reserved, same]
    exact reserved.imp_right fun isOver => ⟨quiet.stays sound isOver.1, isOver.2⟩

/-- Nothing was open. -/
theorem Quiet.ofSilent (quiet : s.Quiet s')
    (silent : s.conversation.Sound → s.conversation.isStreaming = false) : s.Upholds s' where
  toQuiet := quiet
  reserved := by
    intro sound isOpen
    have was := quiet.carries.openBefore (Nat.le_refl _) isOpen
    cases was.isStreaming.symm.trans (silent sound)

/-- What was open was closed on the way. -/
theorem Quiet.closing {u : Session} (first : s.Quiet u) (closed : u.conversation.isStreaming = false)
    (second : u.Quiet s') : s.Upholds s' where
  toQuiet := first.trans second
  reserved := by
    intro _ isOpen
    have was := second.carries.openBefore first.carries.length isOpen
    cases was.isStreaming.symm.trans closed

theorem upholds_untouched (untouched : s.Untouched s') : s.Upholds s' :=
  (quiet_untouched untouched).sameReplies (untouched.slot .response)

theorem upholds_dispatch (s : Session) {action : Action} (goesOn : action.startsOver = false)
    (silent : action.addsText = false) : s.Upholds (s.dispatch action) :=
  (quiet_dispatch s goesOn silent).sameReplies rfl

theorem upholds_giveBack (s : Session) (id : Nat) (result : CallResult) :
    s.Upholds (s.giveBack id result) :=
  upholds_untouched (untouched_giveBack s id result)

theorem upholds_failCall (s : Session) (id : Nat) (failure : Failure) :
    s.Upholds (s.failCall id failure) :=
  (quiet_failCall s id failure).sameReplies rfl

/-- A stream leaves its slot, and what is open is closed. -/
theorem upholds_finishing (s : Session) (transport : Transport) (slot : Slot) :
    s.Upholds ((s.setSlot transport slot).dispatch .finishStreamingMessage) := by
  have quiet : s.Quiet ((s.setSlot transport slot).dispatch .finishStreamingMessage) :=
    (quiet_setSlot s transport slot).trans (quiet_dispatch _ rfl rfl)
  refine quiet.closing ?_ (quiet_of_same rfl)
  rw [conversation_dispatch]
  exact isStreaming_finishMessage _

theorem upholds_supersede (s : Session) (transport : Transport) :
    s.Upholds (s.supersede transport) := by
  unfold supersede
  dsimp only
  split
  · exact upholds_finishing s transport _
  · exact upholds_untouched (.refl s)

/-- A reply fails: what is open is closed, unless the attempt is over. -/
theorem upholds_failing (s : Session) (id : Nat) (failure : Failure) {slot : Slot}
    (idle : slot.isLive = false) : s.Upholds ((s.setSlot .response slot).failCall id failure) where
  toQuiet := (quiet_setSlot s .response slot).trans (quiet_failCall _ id failure)
  reserved := by
    intro sound isOpen generation _
    have failed : ((s.setSlot .response slot).failCall id failure).conversation =
        s.conversation.reduce (.setError failure.learnerMessage) := conversation_dispatch _ _
    rw [Reserved, failed]
    rw [failed] at isOpen
    refine .inr ⟨?_, idle⟩
    cases isOver : s.conversation.phase == .completed with
    | true => exact sound.completed (beq_iff_eq.mp isOver) rfl
    | false =>
        have streams := isOpen.isStreaming
        simp only [reduce, isOver, Bool.false_eq_true, if_false] at streams
        cases streams.symm.trans (isStreaming_closeMessages s.conversation)

/-! ### Streams -/

theorem upholds_failStream (s : Session) (id : Nat) (transport : Transport) (generation : Nat)
    (failure : Failure) : s.Upholds (s.failStream id transport generation failure) := by
  cases owns : (s.slot transport).isCurrent generation with
  | false => exact upholds_untouched (untouched_failStream owns id failure)
  | true =>
      simp only [failStream, owns, if_true]
      cases transport with
      | response =>
          refine upholds_failing s id failure ?_
          simp only [Slot.finish, owns, if_true]
          rfl
      | eventSource =>
          exact ((quiet_setSlot s .eventSource _).trans (quiet_failCall _ id failure)).sameReplies
            rfl

theorem upholds_endStream (s : Session) (id : Nat) (transport : Transport) (generation : Nat)
    (outcome : Except Failure StreamOutcome) :
    s.Upholds (s.endStream id transport generation outcome) := by
  cases owns : (s.slot transport).isCurrent generation with
  | false => exact upholds_untouched (untouched_endStream owns id outcome)
  | true =>
      match outcome with
      | .ok .cancelled => exact upholds_giveBack s id _
      | .error failure => exact upholds_failStream s id transport generation failure
      | .ok (.completed done tokens) =>
          cases transport with
          | response =>
              simp only [endStream, owns, if_true]
              exact (upholds_finishing s .response _).trans (upholds_giveBack _ id _)
          | eventSource => exact Quiet.sameReplies (quiet_of_same rfl) rfl

theorem upholds_takeHeaders (s : Session) (id : Nat) (transport : Transport) (generation : Nat)
    (answer : Except Failure Unit) :
    s.Upholds (s.takeHeaders id transport generation answer) := by
  match answer with
  | .ok () => exact upholds_untouched (untouched_awaitRead s id transport generation {})
  | .error failure => exact upholds_failStream s id transport generation failure

/-! ### Calls -/

theorem upholds_grantPermissions (goesOn : s.beginsAnew .grantPermissions = false) (id : Nat) :
    s.Upholds (s.grantPermissions id) := by
  unfold grantPermissions
  dsimp only
  split
  · refine (quiet_acquireDevices s id).sameReplies ?_
    obtain ⟨s', result, same, -, returns⟩ := acquireDevices_returns s id
    rw [returns]
    exact same.slot .response
  · split
    · rename_i unbound
      split
      · exact upholds_giveBack s id _
      · rename_i assignmentId bound
        simp only [Bool.and_eq_true] at unbound
        simp only [beginsAnew, unbound.1, unbound.2, bound, Option.isSome_some, Bool.and_self,
          reduceCtorEq] at goesOn
    · exact upholds_giveBack s id _

/-- An attempt begins in a phase in which nothing is open. -/
theorem silent_of_canStart (can : canStart s.conversation.phase = true)
    (sound : s.conversation.Sound) : s.conversation.isStreaming = false := by
  apply sound.silent <;> intro phase <;> rw [phase] at can <;> cases can

theorem silent_of_error (failed : s.conversation.phase = .error) (sound : s.conversation.Sound) :
    s.conversation.isStreaming = false := by
  apply sound.silent <;> rw [failed] <;> nofun

theorem upholds_start (s : Session) (id : Nat) : s.Upholds (s.start id) := by
  cases can : canStart s.conversation.phase with
  | true => exact (quiet_start s id).ofSilent (silent_of_canStart can)
  | false =>
      simp only [start, can, Bool.not_false, if_true]
      exact upholds_giveBack s id _

theorem upholds_startExisting (s : Session) (id : Nat) (attemptId objectiveTitle : String) :
    s.Upholds (s.startExisting id attemptId objectiveTitle) := by
  unfold startExisting
  dsimp only
  split
  · exact upholds_giveBack s id _
  · let action := Action.startAssessment (some attemptId) (some objectiveTitle) s.wallClock
    have started : s.Upholds (s.dispatch action).startRecorder.1 :=
      (upholds_dispatch s rfl rfl).trans (upholds_untouched (untouched_startRecorder _))
    split
    · rename_i isStarted
      rw [isStarted] at started
      exact started.trans (upholds_failCall _ id _)
    · rename_i isStarted
      rw [isStarted] at started
      exact started.trans (upholds_giveBack _ id _)

/-- The reply under way is cut off first. -/
theorem Quiet.cuttingOff (notOver : s.conversation.phase ≠ .completed)
    (quiet : (s.supersede .response).Quiet s') : s.Upholds s' := by
  have first := quiet_supersede s .response
  cases live : s.replies.isLive with
  | true =>
      refine first.closing ?_ quiet
      have finished : (s.supersede .response).conversation = s.conversation.finishMessage := by
        have isLive : (s.slot .response).isLive = true := live
        simp only [supersede, isLive, if_true]
        exact conversation_dispatch _ .finishStreamingMessage
      rw [finished]
      exact isStreaming_finishMessage _
  | false =>
      refine ⟨first.trans quiet, fun _ _ generation reserved => ?_⟩
      rcases reserved with owns | ⟨isOver, -⟩
      · cases (Slot.isLive_of_isCurrent owns).symm.trans live
      · exact absurd isOver notOver

theorem upholds_sendMessage (s : Session) (id : Nat) (content : String) :
    s.Upholds (s.sendMessage id content) := by
  cases can : s.conversation.canSend with
  | false =>
      simp only [sendMessage, can, Bool.not_false, if_true]
      exact upholds_giveBack s id _
  | true =>
      refine Quiet.cuttingOff ?_ ?_
      · intro isOver
        rw [canSend, isOver] at can
        cases can
      · simp only [sendMessage, can, Bool.not_true, Bool.false_eq_true, if_false]
        split
        · have said : (s.supersede .response).Quiet
              { (s.supersede .response).dispatch (.sendMessage content) with
                lastMessage := some content } :=
            (quiet_dispatch _ rfl rfl).trans (quiet_of_same rfl)
          exact said.trans (quiet_streamReply _ id content)
        · exact quiet_of_same rfl

theorem upholds_retry (goesOn : s.beginsAnew .retry = false) (id : Nat) :
    s.Upholds (s.retry id) := by
  cases failed : s.conversation.phase == .error with
  | false =>
      simp only [retry, bne, failed, Bool.not_false, if_true]
      exact upholds_giveBack s id _
  | true =>
      refine Quiet.ofSilent ?_ (silent_of_error (beq_iff_eq.mp failed))
      have cleared : s.Quiet (s.dispatch .clearError) := quiet_dispatch s rfl rfl
      simp only [retry, bne, failed, Bool.not_true, Bool.false_eq_true, if_false]
      split
      · rename_i silent
        unfold retryStart
        dsimp only
        split
        · exact cleared.trans (quiet_of_same rfl)
        · rename_i unidentified
          have unbound : s.conversation.assignmentId = none := by
            rw [Bool.not_eq_true, Option.isSome_eq_false_iff, Option.isNone_iff_eq_none]
              at unidentified
            simp only [beginsAnew, failed, silent, unidentified, Option.isNone_none, Bool.true_and,
              Option.isSome_eq_false_iff, Option.isNone_iff_eq_none] at goesOn
            exact goesOn
          split
          · have refused : s.beginsAnew .grantPermissions = false := by
              simp only [beginsAnew, unbound, Option.isSome_none, Bool.and_false]
            exact (upholds_grantPermissions refused id).toQuiet
          · rw [unbound]
            exact quiet_of_same rfl
      · split
        · exact cleared.trans (quiet_streamReply _ id _)
        · exact cleared.trans (quiet_of_same rfl)

theorem upholds_followEvents (s : Session) (id : Nat) : s.Upholds (s.followEvents id) := by
  unfold followEvents
  split
  · exact upholds_giveBack s id _
  · rename_i attemptId _
    refine (quiet_openStream s id .eventSource _).sameReplies ?_
    cases signedIn : s.token? with
    | some token => rw [openStream_of_token signedIn]; rfl
    | none => rw [openStream_of_no_token signedIn]; rfl

theorem upholds_sendCompletion (s : Session) (id : Nat) (attemptId : String) :
    s.Upholds (s.sendCompletion id attemptId) := by
  unfold sendCompletion
  split
  · rename_i sent
    exact (upholds_untouched (untouched_send sent)).trans (upholds_untouched (untouched_await _ id _))
  · exact upholds_failCall s id _

theorem upholds_failUpload (s : Session) (id : Nat) (recording : Blob) (failure : Failure) :
    s.Upholds (s.failUpload id recording failure) := by
  have kept : s.Upholds { s with finalRecording := some recording } :=
    Quiet.sameReplies (quiet_of_same rfl) rfl
  exact kept.trans (upholds_failCall _ id failure)

theorem upholds_finish (s : Session) (id : Nat) : s.Upholds (s.finish id) := by
  unfold finish
  dsimp only
  split
  · exact upholds_giveBack s id _
  · rename_i talks
    have notOver : s.conversation.phase ≠ .completed := by
      intro isOver
      rw [isOver] at talks
      exact talks rfl
    split
    · exact upholds_failCall s id _
    · rename_i attemptId _
      refine Quiet.cuttingOff notOver ?_
      have begun : (s.supersede .response).Quiet
          (((s.supersede .response).supersede .eventSource).dispatch .beginCompletion) :=
        (quiet_supersede _ .eventSource).trans (quiet_dispatch _ rfl rfl)
      have taken := begun.trans (quiet_untouched (untouched_takeRecording _))
      split
      · rename_i took
        rw [took] at taken
        exact taken.trans (upholds_sendCompletion _ id attemptId).toQuiet
      · rename_i recording took
        rw [took] at taken
        split
        · rename_i sent
          exact (taken.trans (quiet_untouched (untouched_send sent))).trans (quiet_of_same rfl)
        · exact taken.trans (upholds_failUpload _ id recording _).toQuiet

theorem upholds_abandon (s : Session) : s.Upholds s.abandon :=
  ((upholds_supersede s .response).trans (upholds_supersede _ .eventSource)).trans
    (upholds_untouched (untouched_onRecorder _ _))

theorem upholds_runCall {call : Call} (goesOn : s.beginsAnew call = false) (id : Nat) :
    s.Upholds (s.runCall id call) := by
  cases call with
  | assign => cases goesOn
  | grantPermissions => exact upholds_grantPermissions goesOn id
  | start => exact upholds_start s id
  | startExisting attemptId objectiveTitle => exact upholds_startExisting s id _ _
  | sendMessage content => exact upholds_sendMessage s id content
  | retry => exact upholds_retry goesOn id
  | clearError | continueAfterClosure =>
      exact (upholds_dispatch s rfl rfl).trans (upholds_giveBack _ id _)
  | followEvents => exact upholds_followEvents s id
  | pauseRecording | resumeRecording | setVisibility =>
      exact (upholds_untouched (untouched_onRecorder s _)).trans (upholds_giveBack _ id _)
  | finish => exact upholds_finish s id
  | abandon => exact (upholds_abandon s).trans (upholds_giveBack _ id _)

theorem upholds_takeAnswer (s : Session) (id : Nat) (answer : Answer) :
    s.Upholds (s.takeAnswer id answer) := by
  unfold takeAnswer
  split
  · exact upholds_takeHeaders s id _ _ _
  · unfold takeUploaded
    split
    · exact upholds_sendCompletion s id _
    · exact upholds_failUpload s id _ _
  · unfold takeCompleted
    split
    · exact (upholds_dispatch s rfl rfl).trans (upholds_giveBack _ id _)
    · exact upholds_failCall s id _
  · exact upholds_untouched (.refl s)

theorem upholds_pump : KeptByPump Upholds where
  trans := .trans
  setPump := fun s pump => upholds_untouched (untouched_setPump s pump)
  limit := fun _ => Quiet.sameReplies (quiet_of_same rfl) rfl
  report := fun s failure => (quiet_report s failure).sameReplies rfl
  send := fun sent => upholds_untouched (untouched_send sent)

/-- Where the messages are dropped, what follows is carried on from none. -/
theorem quiet_restart {stimulus : Stimulus} (anew : s.startsOver stimulus = true) :
    ∃ u : Session, u.conversation.messages = [] ∧ u.conversation.Sound ∧
      u.Quiet (s.react stimulus) := by
  have assigned (s : Session) (assignmentId : String) :
      (s.dispatch (.assign assignmentId)).conversation = about assignmentId :=
    conversation_dispatch s (.assign assignmentId)
  have fresh (s : Session) (assignmentId : String) :
      (s.dispatch (.assign assignmentId)).conversation.messages = [] ∧
        (s.dispatch (.assign assignmentId)).conversation.Sound := by
    rw [assigned]
    exact ⟨rfl, sound_about assignmentId⟩
  cases stimulus with
  | call call =>
      have anew : s.withCall.beginsAnew call = true := (beginsAnew_withCall s call).trans anew
      change ∃ u : Session, _ ∧ _ ∧ u.Quiet (s.withCall.runCall s.nextCall call)
      cases call with
      | assign assignmentId =>
          have same : (s.withCall.assign assignmentId).conversation =
              (s.dispatch (.assign assignmentId)).conversation :=
            (conversation_dispatch _ (.assign assignmentId)).trans (assigned s assignmentId).symm
          exact ⟨_, (fresh s assignmentId).1, (fresh s assignmentId).2, quiet_of_same same⟩
      | grantPermissions =>
          obtain ⟨assignmentId, -, run⟩ := grantPermissions_anew anew s.nextCall
          refine ⟨_, (fresh s.withCall assignmentId).1, (fresh s.withCall assignmentId).2, ?_⟩
          rw [runCall, run]
          exact quiet_acquireDevices _ _
      | retry =>
          obtain ⟨assignmentId, -, run⟩ := retry_anew anew s.nextCall
          refine ⟨_, (fresh s.withCall assignmentId).1, (fresh s.withCall assignmentId).2, ?_⟩
          rw [runCall, run]
          split
          · exact quiet_acquireDevices _ _
          · exact (quiet_dispatch _ rfl rfl).trans (quiet_start _ _)
      | _ => cases anew
  | dispatch action =>
      cases action with
      | assign assignmentId =>
          exact ⟨_, (fresh s assignmentId).1, (fresh s assignmentId).2, quiet_of_same rfl⟩
      | reset =>
          have same : (s.dispatch .reset).conversation = {} := conversation_dispatch s .reset
          refine ⟨s.dispatch .reset, ?_, ?_, quiet_of_same rfl⟩ <;> rw [same]
          exact sound_new
      | _ => cases anew
  | _ => cases anew

end

/-! ## Pieces and slots -/

/-- The voice can be heard: a reply has to own the slot. -/
def Speaks (s : Session) : Voice → Prop
  | .stream .response generation => s.replies.isCurrent generation = true
  | _ => True

/-- The messages are made of these pieces. Those of one message are of one reply at most, and while
    the message is open it is kept for that reply. -/
structure Accounted (s : Session) (made : List Piece) : Prop where
  sound : s.conversation.Sound
  texts : s.conversation.Made made
  one : ∀ a ∈ made, ∀ b ∈ made, a.place = b.place → ∀ m n, a.voice = .stream .response m →
    b.voice = .stream .response n → m = n
  reserved : ∀ piece ∈ made, ∀ generation, piece.voice = .stream .response generation →
    ∀ message, s.conversation.messages[piece.place]? = some message →
      message.isStreaming = true → s.Reserved generation

section
variable {s s' : Session} {made : List Piece} {voice : Voice}

theorem accounted_fresh (sound : s.conversation.Sound) (none : s.conversation.messages = []) :
    s.Accounted [] :=
  ⟨sound, made_new none, nofun, nofun⟩

theorem Accounted.quiet (accounted : s.Accounted []) (quiet : s.Quiet s') : s'.Accounted [] :=
  ⟨quiet.sound accounted.sound, accounted.texts.carries quiet.carries, nofun, nofun⟩

theorem Accounted.upholds (accounted : s.Accounted made) (upholds : s.Upholds s') :
    s'.Accounted made where
  sound := upholds.sound accounted.sound
  texts := accounted.texts.carries upholds.carries
  one := accounted.one
  reserved := by
    intro piece member generation reply message here streams
    have inside := accounted.texts.inside piece member
    have old := List.getElem?_eq_getElem inside
    obtain ⟨later, there, -, -, wasOpen⟩ := upholds.carries.kept _ _ old
    obtain rfl := Option.some.inj (here.symm.trans there)
    have before := accounted.reserved piece member generation reply _ old (wasOpen streams)
    exact upholds.reserved accounted.sound ⟨_, message, inside, here, streams⟩ generation before

/-- A message that text is added to was kept for the reply that has a piece in it. -/
theorem Accounted.reserved_of_placed (accounted : s.Accounted made) {old new : Piece}
    (member : old ∈ made) {text : String} (added : new ∈ s.conversation.placed voice text)
    (together : old.place = new.place) {m : Nat} (reply : old.voice = .stream .response m) :
    s.Reserved m := by
  obtain ⟨-, message, here, streams⟩ := mem_placed added
  rw [← together] at here
  exact accounted.reserved old member m reply message here streams

/-- So a reply that can be heard adds text to its own message only. -/
theorem Accounted.same_of_placed (accounted : s.Accounted made) (speaks : s.Speaks voice)
    {old new : Piece} (member : old ∈ made) {text : String}
    (added : new ∈ s.conversation.placed voice text) (together : old.place = new.place)
    {m n : Nat} (first : old.voice = .stream .response m)
    (second : new.voice = .stream .response n) : m = n := by
  obtain ⟨speaker, -⟩ := mem_placed added
  obtain rfl := speaker.symm.trans second
  rcases accounted.reserved_of_placed member added together first with owns | ⟨-, idle⟩
  · have current := (Slot.isCurrent_iff.mp owns).symm.trans (Slot.isCurrent_iff.mp speaks)
    exact Option.some.inj current
  · cases (Slot.isLive_of_isCurrent speaks).symm.trans idle

/-- A voice that can be heard adds text to the message that is open. -/
theorem Accounted.append (accounted : s.Accounted made) (speaks : s.Speaks voice)
    (text : String) :
    (s.dispatch (.appendToken text)).Accounted (made ++ s.conversation.placed voice text) := by
  have added : (s.dispatch (.appendToken text)).conversation = s.conversation.append text :=
    conversation_dispatch s (.appendToken text)
  have same (generation : Nat) :
      (s.dispatch (.appendToken text)).Reserved generation ↔ s.Reserved generation := by
    rw [Reserved, added]
    exact Iff.rfl
  refine ⟨?_, ?_, ?_, ?_⟩
  · rw [conversation_dispatch]
    exact accounted.sound.reduce _
  · rw [added]
    exact accounted.texts.append voice text
  · intro a memberA b memberB together m n first second
    rcases List.mem_append.mp memberA with oldA | newA <;>
      rcases List.mem_append.mp memberB with oldB | newB
    · exact accounted.one a oldA b oldB together m n first second
    · exact accounted.same_of_placed speaks oldA newB together first second
    · exact (accounted.same_of_placed speaks oldB newA together.symm second first).symm
    · obtain ⟨speakerA, -⟩ := mem_placed newA
      obtain ⟨speakerB, -⟩ := mem_placed newB
      cases (first.symm.trans (speakerA.trans speakerB.symm)).trans second
      rfl
  · intro piece member generation reply message here streams
    -- What is open now was open before.
    rw [same]
    rw [added, Conversation.append, getElem?_appendToFirst, Option.map_eq_some_iff] at here
    obtain ⟨old, there, changed⟩ := here
    have wasOpen : old.isStreaming = true := by
      rw [← streams, ← changed]
      split <;> rfl
    rcases List.mem_append.mp member with before | new
    · exact accounted.reserved piece before generation reply old there wasOpen
    · obtain ⟨speaker, -⟩ := mem_placed new
      obtain rfl := speaker.symm.trans reply
      exact .inl speaks

/-- The actions of a voice that can be heard. -/
theorem Accounted.actions (accounted : s.Accounted made) (speaks : s.Speaks voice)
    {actions : List Action} (goOn : ∀ action ∈ actions, action.startsOver = false) :
    (actions.foldl dispatch s).Accounted (made ++ s.conversation.pieces voice actions) := by
  induction actions generalizing s made with
  | nil => rwa [Conversation.pieces, List.append_nil]
  | cons action rest ih =>
      obtain ⟨now, later⟩ := List.forall_mem_cons.mp goOn
      have still : (s.dispatch action).Speaks voice := speaks
      cases silent : action.addsText with
      | false =>
          have next := ih (accounted.upholds (upholds_dispatch s now silent)) still later
          rw [conversation_dispatch] at next
          rwa [pieces_cons_of_silent _ _ silent]
      | true =>
          cases action with
          | appendToken text =>
              have next := ih (accounted.append speaks text) still later
              rw [conversation_dispatch, List.append_assoc] at next
              exact next
          | _ => cases silent

theorem tell_eq (s : Session) (events : List Event) :
    s.tell events = (events.flatMap Event.actions).foldl dispatch s := by
  rw [List.foldl_flatMap]
  exact congrArg (List.foldl · s events) (funext₂ applyEvent_eq)

theorem goesOn_of_mem_actions {events : List Event} {action : Action}
    (member : action ∈ events.flatMap Event.actions) : action.startsOver = false := by
  obtain ⟨event, -, inside⟩ := List.mem_flatMap.mp member
  cases event <;> simp only [Event.actions, List.mem_cons, List.not_mem_nil, or_false] at inside
  case done => rcases inside with rfl | rfl <;> rfl
  case token => rcases inside with rfl | rfl <;> rfl
  case messageDone | assessmentComplete => rw [inside]; rfl

/-! ## Over a run -/

/-- What is heard of a stream that owns its slot. -/
theorem Accounted.hears (accounted : s.Accounted made) {id : Nat} {transport : Transport}
    {generation : Nat} {c : Consumption} (attends : s.Attends id transport generation c)
    (bytes : List UInt8) :
    (s.react (.read id (.bytes bytes))).Accounted (made ++ s.pieces (.read id (.bytes bytes))) := by
  have owns : (s.slot transport).isCurrent generation = true := attends.owns
  have speaks : s.Speaks (.stream transport generation) := by
    cases transport with
    | response => exact owns
    | eventSource => trivial
  have told : (s.tell (c.tells bytes).events).Accounted
      (made ++ s.pieces (.read id (.bytes bytes))) := by
    simp only [pieces, attends.here, owns, if_true]
    rw [tell_eq]
    exact accounted.actions speaks fun _ => goesOn_of_mem_actions
  rw [attends.react_bytes]
  split
  · exact told.upholds (upholds_endStream _ id _ _ _)
  · exact told.upholds (upholds_untouched (untouched_await _ id _))

theorem Accounted.takeReadOf (accounted : s.Accounted made) (tended : s.Tended) (id : Nat)
    (read : Read) : (s.react (.read id read)).Accounted (made ++ s.pieces (.read id read)) := by
  have unheard (none : s.pieces (.read id read) = []) (upholds : s.Upholds (s.takeReadOf id read)) :
      (s.react (.read id read)).Accounted (made ++ s.pieces (.read id read)) := by
    rw [none, List.append_nil]
    exact accounted.upholds upholds
  match here : s.calls[id]? with
  | some (.waiting (.read transport generation c)) =>
      cases owns : (s.slot transport).isCurrent generation with
      | false =>
          refine unheard ?_ ?_
          · cases read <;> simp only [pieces, here, owns, Bool.false_eq_true, if_false]
          · simp only [Session.takeReadOf, here]
            exact upholds_untouched (untouched_takeRead owns id c read)
      | true =>
          cases read with
          | bytes bytes =>
              have live := (tended.slots transport).live generation (Slot.isCurrent_iff.mp owns)
              exact accounted.hears ⟨here, owns, live⟩ bytes
          | failure | ended =>
              refine unheard rfl ?_
              simp only [Session.takeReadOf, here, takeRead]
              exact upholds_endStream s id transport generation _
  | none | some (.returned _) | some (.waiting (.headers _ _)) | some (.waiting (.upload _ _))
  | some (.waiting .completion) =>
      refine unheard ?_ ?_
      · cases read <;> simp only [pieces, here]
      · simp only [Session.takeReadOf, here]
        exact upholds_untouched (.refl s)

theorem Accounted.step (accounted : s.Accounted made) (tended : s.Tended) (stimulus : Stimulus) :
    (s.step stimulus).Accounted (s.piecesAfter made stimulus) := by
  refine Accounted.upholds ?_ (upholds_untouched (untouched_settle _))
  cases anew : s.startsOver stimulus with
  | true =>
      obtain ⟨u, none, sound, quiet⟩ := quiet_restart anew
      simp only [piecesAfter, anew, if_true]
      exact (accounted_fresh sound none).quiet quiet
  | false =>
      simp only [piecesAfter, anew, Bool.false_eq_true, if_false]
      have silent (none : s.pieces stimulus = []) (upholds : s.Upholds (s.react stimulus)) :
          (s.react stimulus).Accounted (made ++ s.pieces stimulus) := by
        rw [none, List.append_nil]
        exact accounted.upholds upholds
      cases stimulus with
      | call call =>
          have goesOn : s.withCall.beginsAnew call = false :=
            (beginsAnew_withCall s call).trans anew
          exact silent rfl
            ((upholds_untouched (untouched_withCall s)).trans (upholds_runCall goesOn s.nextCall))
      | answer id answer => exact silent rfl (upholds_takeAnswer s id answer)
      | read id read => exact accounted.takeReadOf tended id read
      | uploaded answer => exact silent rfl (upholds_pump.takePumpAnswer s)
      | pump => exact silent rfl (upholds_pump.takeEvents s s.untaken)
      | elapse | setOutcome => exact silent rfl (upholds_untouched (untouched_onRecorder s _))
      | setToken token => exact silent rfl (Quiet.sameReplies (quiet_of_same rfl) rfl)
      | dispatch action =>
          have only : ∀ other ∈ [action], other.startsOver = false := by
            intro other member
            rw [List.mem_singleton.mp member]
            exact anew
          have speaks : s.Speaks .host := trivial
          exact accounted.actions speaks only

theorem Accounted.run (accounted : s.Accounted made) (reachable : s.Reachable)
    (stimuli : List Stimulus) : (s.run stimuli).Accounted (s.piecesOf made stimuli) := by
  induction stimuli generalizing s made with
  | nil => exact accounted
  | cons stimulus rest ih =>
      exact ih (accounted.step reachable.tended stimulus) (reachable.step stimulus)

/-- Whose text a message is. The text of a message of the interviewer is that of the pieces that
    went into it. Whatever the calls, the host and the server do, and in whichever order, no two
    replies have pieces in one message: where two streams do, one at least is a standing
    connection. -/
theorem one_reply_of_message (isNew : s.New) (stimuli : List Stimulus) :
    let t := s.run stimuli
    let made := s.piecesOf [] stimuli
    (∀ (i : Nat) (message : Message), t.conversation.messages[i]? = some message →
      message.speaker = .interviewer → message.content = Piece.textAt made i) ∧
    ∀ a ∈ made, ∀ b ∈ made, a.place = b.place → ∀ kind m other n, a.voice = .stream kind m →
      b.voice = .stream other n → a.voice ≠ b.voice →
        kind = .eventSource ∨ other = .eventSource := by
  intro t made
  have none : s.conversation.messages = [] := by rw [isNew.conversation]
  have reachable : s.Reachable := ⟨s, isNew.toFresh, .refl⟩
  have accounted : t.Accounted made := (accounted_fresh isNew.sound none).run reachable stimuli
  refine ⟨accounted.texts.content, ?_⟩
  intro a memberA b memberB together kind m other n first second differ
  cases kind with
  | eventSource => exact .inl rfl
  | response =>
      cases other with
      | eventSource => exact .inr rfl
      | response =>
          have same := accounted.one a memberA b memberB together m n first second
          rw [first, second, same] at differ
          exact absurd rfl differ

end

/-- The first message is made of one reply, and the one behind the learner's of the next. -/
theorem one_reply_of_answer :
    let s : Session := { baseUrl := "", tokenFile := some "t" }
    let welcome := Text.Utf8.encode
      ("event: token\ndata: \x7b\"content\":\"Wel\"\x7d\n\n" ++
        "event: token\ndata: \x7b\"content\":\"come\"\x7d\n\n" ++
        "event: done\ndata: \x7b\"attempt_id\":\"T\"\x7d\n\n")
    let reply := Text.Utf8.encode "event: token\ndata: \x7b\"content\":\"Four.\"\x7d\n\n"
    let stimuli : List Stimulus := [.call (.assign "A"), .call .start, .answer 1 (.status 200),
      .read 1 (.bytes welcome), .read 1 .ended, .call (.sendMessage "Two and two?"),
      .answer 2 (.status 200), .read 2 (.bytes reply)]
    let t := s.run stimuli
    let made := s.piecesOf [] stimuli
    made = [⟨.stream .response 0, 0, "Wel"⟩, ⟨.stream .response 0, 0, "come"⟩,
        ⟨.stream .response 1, 2, "Four."⟩] ∧
      (∀ (i : Nat) (message : Message), t.conversation.messages[i]? = some message →
        message.speaker = .interviewer → message.content = Piece.textAt made i) ∧
      ∀ a ∈ made, ∀ b ∈ made, a.place = b.place → ∀ kind m other n, a.voice = .stream kind m →
        b.voice = .stream other n → a.voice ≠ b.voice →
          kind = .eventSource ∨ other = .eventSource := by
  intro s welcome reply stimuli t made
  have isNew : s.New := ⟨⟨rfl, fun transport => by cases transport <;> rfl⟩, rfl⟩
  obtain ⟨texts, one⟩ := one_reply_of_message isNew stimuli
  exact ⟨by decide +kernel, texts, one⟩

/-- A connection leaves a message open and waits. The reply to what the learner says next goes into
    the same message. -/
theorem two_streams_of_message :
    let s : Session := { baseUrl := "", tokenFile := some "t" }
    let greeting := Text.Utf8.encode "event: token\ndata: \x7b\"content\":\"Hi\"\x7d\n\n"
    let reply := Text.Utf8.encode
      "event: token\ndata: \x7b\"content\":\"Four.\"\x7d\n\nevent: done\ndata: \x7b\x7d\n\n"
    let stimuli : List Stimulus := [.call (.assign "A"), .call (.startExisting "T" ""),
      .call .followEvents, .answer 2 (.status 200), .read 2 (.bytes greeting),
      .call (.sendMessage "Two and two?"), .answer 3 (.status 200), .read 3 (.bytes reply),
      .read 3 .ended]
    s.piecesOf [] stimuli =
        [⟨.stream .eventSource 0, 0, "Hi"⟩, ⟨.stream .response 0, 0, "Four."⟩] ∧
      (s.run stimuli).conversation.messages =
        [⟨messageId 0, .interviewer, "HiFour.", false⟩,
          ⟨messageId 1, .learner, "Two and two?", false⟩] := by
  intro s greeting reply stimuli
  exact ⟨by decide +kernel, by decide +kernel⟩

end Viva.Session
