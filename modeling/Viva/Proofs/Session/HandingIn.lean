import Viva.Proofs.Session.Conduct
import Viva.Proofs.Session.Waiting

/-! # Handing in

A call that finishes an attempt closes both streams, takes the recording, and sends it, or sends the
notice that the attempt is over. Each of these requests is sent and waited for, or the call fails.
What else goes on leaves a call that waits for such an answer where it is.
-/

namespace Viva

/-- What is sent first when an attempt is handed in: the recording, if there is one. -/
def Endpoint.handIn (attemptId : String) : Option Blob → Endpoint
  | some recording => video attemptId recording
  | none => complete attemptId

/-- What a call waits for after that. -/
def Awaiting.handIn (attemptId : String) : Option Blob → Awaiting
  | some recording => upload attemptId recording
  | none => completion

theorem handsIn_handIn (attemptId : String) (recording : Option Blob) :
    (CallState.waiting (.handIn attemptId recording)).handsIn = true := by
  cases recording <;> rfl

/-- The call has returned, and did what it was to do. -/
def CallState.hasSucceeded : CallState → Bool
  | returned (some (.ok ())) => true
  | _ => false

namespace Session

open Conversation

/-! ## The requests -/

/-- A request was sent, and its call waits for the answer. -/
structure Requests (s : Session) (id : Nat) (endpoint : Endpoint) (awaiting : Awaiting)
    (t : Session) : Prop extends Untouched s t where
  sent : ∃ token, s.token? = some token ∧ t.sent = s.sent ++ [⟨.call id, endpoint, token⟩]
  calls : t.calls = s.calls.set id (.waiting awaiting)
  kept : t.finalRecording = s.finalRecording
  recorder : t.recorder = s.recorder

/-- The call fails, and the learner is told; `kept` is the recording for another try. -/
structure Fails (s : Session) (id : Nat) (kept : Option Blob) (failure : Failure) (t : Session) :
    Prop where
  conversation : t.conversation = s.conversation.reduce (.setError failure.learnerMessage)
  slot : ∀ transport, t.slot transport = s.slot transport
  sent : t.sent = s.sent
  calls : t.calls = s.calls.set id (.returned (some (.error failure)))
  kept : t.finalRecording = kept
  recorder : t.recorder = s.recorder

theorem fails_failCall (s : Session) (id : Nat) (failure : Failure) :
    s.Fails id s.finalRecording failure (s.failCall id failure) where
  conversation := conversation_dispatch _ (.setError failure.learnerMessage)
  slot := fun transport => by cases transport <;> rfl
  sent := rfl
  calls := rfl
  kept := rfl
  recorder := rfl

theorem fails_failUpload (s : Session) (id : Nat) (recording : Blob) (failure : Failure) :
    s.Fails id (some recording) failure (s.failUpload id recording failure) := by
  obtain ⟨conversation, slot, sent, calls, kept, recorder⟩ :=
    fails_failCall { s with finalRecording := some recording } id failure
  exact ⟨conversation, fun transport => by cases transport <;> exact slot _, sent, calls, kept, recorder⟩

theorem requests_of_send {s s' : Session} {id : Nat} {endpoint : Endpoint}
    (isSent : s.send (.call id) endpoint = .ok s') (awaiting : Awaiting) :
    s.Requests id endpoint awaiting (s'.await id awaiting) := by
  have untouched := (untouched_send isSent).trans (untouched_await s' id awaiting)
  obtain ⟨token, signedIn, rfl⟩ := eq_of_send isSent
  exact ⟨untouched, ⟨token, signedIn, rfl⟩, rfl, rfl, rfl⟩

theorem signedOut_of_send {s : Session} {waiter : Waiter} {endpoint : Endpoint} {failure : Failure}
    (unsent : s.send waiter endpoint = .error failure) : s.token? = none := by
  unfold send at unsent
  split at unsent
  · assumption
  · cases unsent

theorem sendCompletion_outcome (s : Session) (id : Nat) (attemptId : String) :
    s.Requests id (.complete attemptId) .completion (s.sendCompletion id attemptId) ∨
      ∃ failure, s.token? = none ∧
        s.Fails id s.finalRecording failure (s.sendCompletion id attemptId) := by
  unfold sendCompletion
  split
  · rename_i isSent
    exact .inl (requests_of_send isSent .completion)
  · rename_i failure unsent
    exact .inr ⟨failure, signedOut_of_send unsent, fails_failCall s id failure⟩

/-! ## Finishing -/

/-- An attempt can be finished in this phase. -/
def canFinish (s : Session) : Bool :=
  s.conversation.phase == .inProgress || s.conversation.phase == .closureReady

/-- The session when its streams are closed and the attempt is being handed in. -/
def closing (s : Session) : Session :=
  ((s.supersede .response).supersede .eventSource).dispatch .beginCompletion

/-- No stream owns a slot. -/
def Vacant (s : Session) : Prop :=
  ∀ transport, (s.slot transport).current = none

section
variable {s : Session}

theorem conversation_supersede (s : Session) (transport : Transport) :
    (s.supersede transport).conversation =
      if (s.slot transport).isLive then s.conversation.finishMessage else s.conversation := by
  unfold supersede
  dsimp only
  split
  · rw [conversation_dispatch, conversation_setSlot]
    rfl
  · rfl

theorem current_supersede (s : Session) (transport : Transport) :
    ((s.supersede transport).slot transport).current = none := by
  unfold supersede
  dsimp only
  split
  · cases transport <;> rfl
  · rename_i idle
    exact Option.not_isSome_iff_eq_none.mp idle

theorem slot_supersede_of_ne (s : Session) {transport other : Transport} (ne : other ≠ transport) :
    (s.supersede transport).slot other = s.slot other := by
  unfold supersede
  dsimp only
  split
  · exact slot_setSlot_of_ne s _ ne
  · rfl

theorem vacant_supersede_both (s : Session) :
    ((s.supersede .response).supersede .eventSource).Vacant := by
  intro transport
  cases transport with
  | eventSource => exact current_supersede _ .eventSource
  | response =>
      rw [slot_supersede_of_ne _ (by nofun)]
      exact current_supersede s .response

theorem vacant_closing (s : Session) : s.closing.Vacant := by
  intro transport
  have dispatched : s.closing.slot transport =
      ((s.supersede .response).supersede .eventSource).slot transport :=
    (sameStreams_dispatch _ _).slot transport
  rw [dispatched]
  exact vacant_supersede_both s transport

/-- A stream that is cut off closes its message. -/
theorem isStreaming_cut (c : Conversation) (live : Bool) :
    (if live then c.finishMessage else c).isStreaming = (c.isStreaming && !live) := by
  cases live with
  | true => simp [isStreaming_finishMessage]
  | false => simp

/-- What is left open when an attempt is handed in is a message that no stream was filling. -/
theorem conversation_closing (can : s.canFinish = true) :
    s.closing.conversation.phase = .completing ∧ s.closing.conversation.isWaiting = false ∧
      s.closing.conversation.isStreaming =
        (s.conversation.isStreaming && !s.replies.isLive && !s.events.isLive) := by
  have others : ((s.supersede .response).slot .eventSource).isLive = s.events.isLive := by
    rw [slot_supersede_of_ne s (by nofun)]
    rfl
  have cut : ((s.supersede .response).supersede .eventSource).conversation =
      if s.events.isLive then (if s.replies.isLive then s.conversation.finishMessage
        else s.conversation).finishMessage
      else if s.replies.isLive then s.conversation.finishMessage else s.conversation := by
    rw [conversation_supersede, others, conversation_supersede]
    rfl
  have can' : ∀ (c : Conversation) (live : Bool),
      (c.phase == .inProgress || c.phase == .closureReady) = true →
      ((if live then c.finishMessage else c).phase == .inProgress ||
        (if live then c.finishMessage else c).phase == .closureReady) = true := by
    intro c live talks
    cases live with
    | false => exact talks
    | true => grind [finishMessage, closeMessages]
  have talks := can' _ s.events.isLive (can' s.conversation s.replies.isLive can)
  rw [← cut] at talks
  have begun : s.closing.conversation =
      { ((s.supersede .response).supersede .eventSource).conversation with
        phase := .completing, isWaiting := false, completionPending := false } := by
    rw [closing, conversation_dispatch]
    exact if_pos talks
  rw [begun]
  refine ⟨rfl, rfl, ?_⟩
  change ((s.supersede .response).supersede .eventSource).conversation.isStreaming = _
  rw [cut, isStreaming_cut, isStreaming_cut]

/-- Closing the streams does not hand in yet. -/
theorem proceeds_closing {beside : Bool} (s : Session) : Proceeds beside s s.closing :=
  ((proceeds_supersede s .response).trans (proceeds_supersede _ .eventSource)).trans
    (proceeds_dispatch _ fun _ => rfl)

theorem closing_keeps (s : Session) :
    s.closing.calls = s.calls ∧ s.closing.sent = s.sent ∧ s.closing.tokenFile = s.tokenFile ∧
      s.closing.recorder = s.recorder ∧ s.closing.finalRecording = s.finalRecording := by
  have keeps : ∀ (s : Session) transport, (s.supersede transport).calls = s.calls ∧
      (s.supersede transport).sent = s.sent ∧ (s.supersede transport).tokenFile = s.tokenFile ∧
        (s.supersede transport).recorder = s.recorder ∧
          (s.supersede transport).finalRecording = s.finalRecording := by
    intro s transport
    unfold supersede
    dsimp only
    split
    · cases transport <;> exact ⟨rfl, rfl, rfl, rfl, rfl⟩
    · exact ⟨rfl, rfl, rfl, rfl, rfl⟩
  obtain ⟨calls, sent, token, recorder, kept⟩ := keeps s .response
  obtain ⟨calls', sent', token', recorder', kept'⟩ := keeps (s.supersede .response) .eventSource
  exact ⟨calls'.trans calls, sent'.trans sent, token'.trans token, recorder'.trans recorder,
    kept'.trans kept⟩

theorem takeRecording_keeps (s : Session) :
    s.takeRecording.1.sent = s.sent ∧ s.takeRecording.1.tokenFile = s.tokenFile := by
  unfold takeRecording
  split
  · exact ⟨rfl, rfl⟩
  · exact ⟨rfl, rfl⟩
  · dsimp only
    split <;> exact ⟨rfl, rfl⟩

/-- Taking the recording sends nothing yet. -/
theorem handedOver_keeps (s : Session) :
    s.closing.takeRecording.1.calls = s.calls ∧ s.closing.takeRecording.1.sent = s.sent ∧
      s.closing.takeRecording.1.token? = s.token? := by
  obtain ⟨calls, sent, token, -⟩ := closing_keeps s
  obtain ⟨sent', token'⟩ := takeRecording_keeps s.closing
  refine ⟨(sameStreams_takeRecording _).calls.trans calls, sent'.trans sent, ?_⟩
  rw [token?, token', token]
  rfl

/-- A call that is admitted sends what there is to send first, or it fails. -/
theorem finish_requests (can : s.canFinish = true) {attemptId : String}
    (identified : s.conversation.attemptId = some attemptId) (id : Nat) :
    let taken := s.closing.takeRecording.1
    let recording := s.closing.takeRecording.2
    taken.Requests id (.handIn attemptId recording) (.handIn attemptId recording) (s.finish id) ∨
      ∃ failure, s.token? = none ∧
        taken.Fails id (recording.or taken.finalRecording) failure (s.finish id) := by
  intro taken recording
  have can : (s.conversation.phase == .inProgress || s.conversation.phase == .closureReady) = true :=
    can
  obtain ⟨-, -, token⟩ := handedOver_keeps s
  have handsOver :
      (((s.supersede .response).supersede .eventSource).dispatch .beginCompletion).takeRecording =
        (taken, recording) := rfl
  rw [← token]
  simp only [finish, can, Bool.not_true, Bool.false_eq_true, if_false, identified]
  rw [handsOver]
  clear_value recording
  cases recording with
  | none => exact sendCompletion_outcome taken id attemptId
  | some recording =>
      dsimp only
      split
      · rename_i isSent
        exact .inl (requests_of_send isSent _)
      · rename_i failure unsent
        exact .inr ⟨failure, signedOut_of_send unsent, fails_failUpload taken id recording failure⟩

/-- A call that does not fit the phase is refused. -/
theorem finish_refused (cannot : s.canFinish = false) (id : Nat) :
    s.finish id = s.refuse id (wrongPhase "cannot finish" s.conversation.phase) := by
  have cannot : (s.conversation.phase == .inProgress || s.conversation.phase == .closureReady) =
      false := cannot
  simp only [finish, cannot, Bool.not_false, if_true]

theorem finish_unidentified (can : s.canFinish = true) (unknown : s.conversation.attemptId = none)
    (id : Nat) : s.finish id = s.failCall id unidentified := by
  have can : (s.conversation.phase == .inProgress || s.conversation.phase == .closureReady) = true :=
    can
  simp only [finish, can, Bool.not_true, Bool.false_eq_true, if_false, unknown]

end

/-! ## What else goes on -/

section
variable {s : Session} {id : Nat} {state : CallState}

theorem generation?_of_handsIn (hands : state.handsIn = true) (transport : Transport) :
    state.generation? transport = none := by
  cases state with
  | returned result => cases hands
  | waiting awaiting =>
      cases awaiting with
      | upload | completion => rfl
      | headers | read => cases hands

/-- A call that hands nothing in waits for a stream or has returned. -/
theorem waits_or_returned (free : state.handsIn = false) :
    (∃ transport generation, state.generation? transport = some generation) ∨
      state.isReturned = true := by
  cases state with
  | returned result => exact .inr rfl
  | waiting awaiting =>
      cases awaiting with
      | upload | completion => cases free
      | headers transport generation =>
          exact .inl ⟨transport, generation, CallState.generation?_headers _ _⟩
      | read transport generation c =>
          exact .inl ⟨transport, generation, CallState.generation?_read _ _ _⟩

theorem handsIn_settle (here : s.calls[id]? = some state) (hands : state.handsIn = true) :
    s.settle.calls[id]? = some state := by
  rcases getElem?_releaseCancelled (s.onRecorder Recorder.settle) here with
    same | ⟨-, transport, generation, waits, -⟩
  · exact same
  · cases (generation?_of_handsIn hands transport).symm.trans waits

/-- Nothing more comes of a call that has returned. -/
theorem react_of_returned {result : CallResult} (here : s.calls[id]? = some (.returned result)) :
    (∀ answer, s.react (.answer id answer) = s) ∧ ∀ read, s.react (.read id read) = s :=
  ⟨fun answer => by simp only [react, takeAnswer, here],
    fun read => by simp only [react, takeReadOf, here]⟩

theorem react_of_unknown (nobody : s.calls[id]? = none) :
    (∀ answer, s.react (.answer id answer) = s) ∧ ∀ read, s.react (.read id read) = s :=
  ⟨fun answer => by simp only [react, takeAnswer, nobody],
    fun read => by simp only [react, takeReadOf, nobody]⟩

/-- A read that comes for a call that hands in is passed over. -/
theorem takeReadOf_of_handsIn (here : s.calls[id]? = some state) (hands : state.handsIn = true)
    (read : Read) : s.takeReadOf id read = s := by
  simp only [takeReadOf, here]
  split
  · rename_i waits
    rw [Option.some.inj waits] at hands
    cases hands
  · rfl

/-- A call that reads nothing is left as it is until its own answer comes. -/
theorem react_waits (here : s.calls[id]? = some state) (unread : ∀ read, s.takeReadOf id read = s)
    {stimulus : Stimulus} (foreign : ∀ answer, stimulus ≠ .answer id answer) :
    (s.react stimulus).calls[id]? = some state := by
  have quiet (same : s.SameStreams (s.react stimulus)) : (s.react stimulus).calls[id]? = some state :=
    (congrArg (·[id]?) same.calls).trans here
  cases stimulus with
  | call call => exact (turn_runCall _ _ call).kept here
  | answer other answer =>
      refine (others_takeAnswer s answer ?_).trans here
      rintro rfl
      exact foreign answer rfl
  | read other read =>
      by_cases same : other = id
      · subst same
        exact (congrArg (·.calls[other]?) (unread read)).trans here
      · exact (others_takeReadOf s read same).trans here
  | uploaded answer => exact quiet (sameStreams_pump.takePumpAnswer s)
  | pump => exact quiet (sameStreams_pump.takeEvents s _)
  | elapse ms => exact quiet (sameStreams_onRecorder s _)
  | dispatch action => exact quiet (sameStreams_dispatch s action)
  | setToken token => exact quiet (.of_fields rfl rfl rfl)
  | setOutcome outcome => exact quiet (sameStreams_onRecorder s _)

/-- Until its own answer comes a call that hands in waits on. -/
theorem handsIn_step (here : s.calls[id]? = some state) (hands : state.handsIn = true)
    {stimulus : Stimulus} (foreign : ∀ answer, stimulus ≠ .answer id answer) :
    (s.step stimulus).calls[id]? = some state :=
  handsIn_settle (react_waits here (takeReadOf_of_handsIn here hands) foreign) hands

theorem foreign_of_goesOn (here : s.calls[id]? = some state) (hands : state.handsIn = true)
    {stimulus : Stimulus} (goesOn : s.goesOn stimulus = true) (answer : Answer) :
    stimulus ≠ .answer id answer := by
  rintro rfl
  simp [Session.goesOn, here, hands] at goesOn

theorem handsIn_of_not_goesOn {answer : Answer} (hands : s.goesOn (.answer id answer) = false) :
    ∃ state : CallState, s.calls[id]? = some state ∧ state.handsIn = true := by
  cases here : s.calls[id]? with
  | none => simp [Session.goesOn, here] at hands
  | some state => exact ⟨state, rfl, by simpa [Session.goesOn, here] using hands⟩

/-- What comes for a call that hands nothing in is not heard while no stream owns a slot. -/
theorem Vacant.inert (vacant : s.Vacant) (here : s.calls[id]? = some state)
    (free : state.handsIn = false) (stimulus : Stimulus)
    (own : (∃ answer, stimulus = .answer id answer) ∨ ∃ read, stimulus = .read id read) :
    s.Untouched (s.step stimulus) := by
  have lost (transport : Transport) (generation : Nat) :
      (s.slot transport).isCurrent generation = false := by
    rw [Slot.isCurrent_eq_false_iff, vacant]
    nofun
  have heard : ∀ transport generation, s.Inert id transport generation →
      s.Untouched (s.step stimulus) := by
    intro transport generation inert
    rcases own with ⟨answer, rfl⟩ | ⟨read, rfl⟩
    · exact inert.answer answer
    · exact inert.read read
  rcases waits_or_returned free with ⟨transport, generation, waits⟩ | returned
  · exact heard transport generation (inert_of_lost (lost _ _) here (.inl waits))
  · exact heard .response 0 (inert_of_lost (lost _ _) here (.inr returned))

/-- While no stream owns a slot, nothing that just happens reaches the conversation, except the
    answers to requests that hand in and a fault that the learner is told of. -/
theorem Vacant.untouched (vacant : s.Vacant) {stimulus : Stimulus}
    (passive : stimulus.isPassive = true) (goesOn : s.goesOn stimulus = true)
    (fine : (stimulus == .pump && s.tellsFault s.untaken) = false) :
    (∀ transport, (s.step stimulus).slot transport = s.slot transport) ∧
      (s.step stimulus).conversation = s.conversation := by
  have quiet (background : stimulus.isBackground = true) :
      (∀ transport, (s.step stimulus).slot transport = s.slot transport) ∧
        (s.step stimulus).conversation = s.conversation := by
    have aside := aside_step background fine
    exact ⟨aside.slot, aside.conversation⟩
  have nobody (none : s.react stimulus = s) :
      (∀ transport, (s.step stimulus).slot transport = s.slot transport) ∧
        (s.step stimulus).conversation = s.conversation := by
    have untouched := untouched_of_nothing none
    exact ⟨untouched.slot, untouched.conversation⟩
  cases stimulus with
  | call | dispatch => cases passive
  | uploaded | pump | elapse | setToken | setOutcome => exact quiet rfl
  | answer id answer =>
      cases here : s.calls[id]? with
      | none => exact nobody ((react_of_unknown here).1 answer)
      | some state =>
          have free : state.handsIn = false := by simpa [Session.goesOn, here] using goesOn
          have untouched := vacant.inert here free (.answer id answer) (.inl ⟨answer, rfl⟩)
          exact ⟨untouched.slot, untouched.conversation⟩
  | read id read =>
      cases here : s.calls[id]? with
      | none => exact nobody ((react_of_unknown here).2 read)
      | some state =>
          cases hands : state.handsIn with
          | false =>
              have untouched := vacant.inert here hands (.read id read) (.inr ⟨read, rfl⟩)
              exact ⟨untouched.slot, untouched.conversation⟩
          | true => exact nobody (takeReadOf_of_handsIn here hands read)

/-! ## The answers -/

theorem Requests.waits {t : Session} {endpoint : Endpoint} {awaiting : Awaiting}
    (requests : s.Requests id endpoint awaiting t) (inside : id < s.calls.length)
    (hands : (CallState.waiting awaiting).handsIn = true) :
    t.settle.calls[id]? = some (.waiting awaiting) := by
  refine handsIn_settle ?_ hands
  rw [requests.calls]
  exact List.getElem?_set_self inside

theorem Fails.returned {t : Session} {kept : Option Blob} {failure : Failure}
    (fails : s.Fails id kept failure t) (inside : id < s.calls.length) :
    t.settle.calls[id]? = some (.returned (some (.error failure))) := by
  refine calls_settle_of_returned ?_
  rw [fails.calls]
  exact List.getElem?_set_self inside

/-- After the upload the attempt is handed in; when it has failed the recording is kept. -/
theorem answer_upload {attemptId : String} {recording : Blob}
    (here : s.calls[id]? = some (.waiting (.upload attemptId recording))) (answer : Answer) :
    (answer.check = .ok () ∧
      (s.Requests id (.complete attemptId) .completion (s.react (.answer id answer)) ∨
        ∃ failure, s.token? = none ∧
          s.Fails id s.finalRecording failure (s.react (.answer id answer)))) ∨
    ∃ failure, answer.check = .error failure ∧
      s.Fails id (some recording) failure (s.react (.answer id answer)) := by
  have reacts : s.react (.answer id answer) = s.takeUploaded id attemptId recording answer.check := by
    simp only [react, takeAnswer, here]
  rw [reacts]
  cases answer.check with
  | ok done => exact .inl ⟨rfl, sendCompletion_outcome s id attemptId⟩
  | error failure => exact .inr ⟨failure, rfl, fails_failUpload s id recording failure⟩

theorem answer_completion (here : s.calls[id]? = some (.waiting .completion)) (answer : Answer) :
    (answer.check = .ok () ∧ s.react (.answer id answer) =
      (s.dispatch (.completeAssessment s.wallClock)).succeed id) ∨
    ∃ failure, answer.check = .error failure ∧
      s.Fails id s.finalRecording failure (s.react (.answer id answer)) := by
  have reacts : s.react (.answer id answer) = s.takeCompleted id answer.check := by
    simp only [react, takeAnswer, here]
  rw [reacts]
  cases answer.check with
  | ok done => exact .inl ⟨rfl, rfl⟩
  | error failure => exact .inr ⟨failure, rfl, fails_failCall s id failure⟩

/-- A call that hands in waits on, or it succeeds with the answer that the attempt is over, or it
    fails. -/
theorem handsIn_outcome (here : s.calls[id]? = some state) (hands : state.handsIn = true)
    (stimulus : Stimulus) :
    (∃ awaiting, (s.step stimulus).calls[id]? = some (.waiting awaiting)) ∨
    (state = .waiting .completion ∧ (∃ answer, stimulus = .answer id answer ∧
      answer.check = .ok ()) ∧
      (s.step stimulus).calls[id]? = some (.returned (some (.ok ())))) ∨
    ∃ kept failure, s.Fails id kept failure (s.react stimulus) := by
  obtain ⟨inside, -⟩ := List.getElem?_eq_some_iff.mp here
  cases state with
  | returned result => cases hands
  | waiting awaiting =>
      by_cases own : ∃ answer, stimulus = .answer id answer
      · obtain ⟨answer, rfl⟩ := own
        cases awaiting with
        | headers | read => cases hands
        | upload attemptId recording =>
            rcases answer_upload here answer with
              ⟨-, requests | ⟨failure, -, fails⟩⟩ | ⟨failure, -, fails⟩
            · exact .inl ⟨_, requests.waits inside rfl⟩
            · exact .inr (.inr ⟨_, failure, fails⟩)
            · exact .inr (.inr ⟨_, failure, fails⟩)
        | completion =>
            rcases answer_completion here answer with ⟨ok, succeeds⟩ | ⟨failure, -, fails⟩
            · refine .inr (.inl ⟨rfl, ⟨answer, rfl, ok⟩, calls_settle_of_returned ?_⟩)
              rw [succeeds]
              exact List.getElem?_set_self inside
            · exact .inr (.inr ⟨_, failure, fails⟩)
      · exact .inl ⟨awaiting, handsIn_step here hands fun answer same => own ⟨answer, same⟩⟩

theorem completion_of_succeeded (here : s.calls[id]? = some state) (hands : state.handsIn = true)
    {stimulus : Stimulus}
    (succeeds : (s.step stimulus).calls[id]? = some (.returned (some (.ok ())))) :
    state = .waiting .completion ∧ ∃ answer, stimulus = .answer id answer ∧
      answer.check = .ok () := by
  obtain ⟨inside, -⟩ := List.getElem?_eq_some_iff.mp here
  rcases handsIn_outcome here hands stimulus with
    ⟨awaiting, waits⟩ | ⟨completes, answered, -⟩ | ⟨kept, failure, fails⟩
  · cases succeeds.symm.trans waits
  · exact ⟨completes, answered⟩
  · cases succeeds.symm.trans (fails.returned inside)

end

end Session

end Viva
