import Viva.Proofs.Session.Conduct
import Viva.Proofs.Session.Moves

/-! # What the learner has said

The conversation holds what the learner has said, the session remembers the last of it, and requests
carry it to the server. But for the call that says something and those that begin anew, nothing
changes what was said or what is remembered, and no message is posted unless one is said again
(`Posts`). A call that begins anew forgets what was said, but not always what is remembered.
-/

namespace Viva

namespace Conversation

/-- What the learner has said, the oldest first. -/
def utterances (c : Conversation) : List String :=
  (c.messages.filter (·.speaker == .learner)).map Message.content

section
variable {c : Conversation}

theorem utterances_of_messages {c' : Conversation} (same : c'.messages = c.messages) :
    c'.utterances = c.utterances := by
  rw [utterances, same, utterances]

theorem utterances_push (c : Conversation) {speaker : Speaker} (other : speaker ≠ .learner)
    (content : String) (streams : Bool) :
    (c.push speaker content streams).utterances = c.utterances := by
  have none : (speaker == .learner) = false := by simpa using other
  simp only [utterances, push, List.filter_append, List.filter_cons, List.filter_nil, none,
    Bool.false_eq_true, if_false, List.append_nil]

theorem utterances_closeMessages (c : Conversation) :
    c.closeMessages.utterances = c.utterances := by
  simp only [utterances, closeMessages, List.filter_map, List.map_map, Function.comp_def]

theorem utterances_finishMessage (c : Conversation) : c.finishMessage.utterances = c.utterances :=
  (utterances_of_messages (messages_finishMessage c)).trans (utterances_closeMessages c)

/-- Tokens go to a message of the interviewer. -/
theorem learner_appendToFirst (content : String) {messages : List Message}
    (speaks : ∀ message ∈ messages, message.isStreaming = true → message.speaker = .interviewer) :
    (appendToFirst content messages).filter (·.speaker == .learner) =
      messages.filter (·.speaker == .learner) := by
  induction messages with
  | nil => rfl
  | cons message rest ih =>
      obtain ⟨first, others⟩ := List.forall_mem_cons.mp speaks
      unfold appendToFirst
      split
      · rename_i streams
        have speaker := first streams
        simp [speaker]
      · rw [List.filter_cons, List.filter_cons, ih others]

theorem utterances_openPlaceholder (c : Conversation) :
    c.openPlaceholder.utterances = c.utterances := by
  unfold openPlaceholder
  split
  · rfl
  · exact utterances_push c (by decide) "" true

theorem utterances_signalCompletion (c : Conversation) (evaluationId : Option String) :
    (c.signalCompletion evaluationId).utterances = c.utterances := by
  unfold signalCompletion
  dsimp only
  split
  · split <;> rfl
  · rfl

theorem utterances_reduce (sound : c.Sound) {action : Action} (mutes : action.isMute = true) :
    (c.reduce action).utterances = c.utterances := by
  cases action with
  | assign | reset | sendMessage => cases mutes
  | grantPermissions | continueAfterClosure | beginCompletion | completeAssessment | clearError =>
      simp only [reduce]
      split <;> rfl
  | attemptIdentified => rfl
  | startAssessment =>
      simp only [reduce]
      split
      · exact utterances_openPlaceholder c
      · rfl
  | beginInterviewerMessage =>
      simp only [reduce]
      split
      · exact utterances_push c (by decide) "" true
      · rfl
  | appendToken content =>
      exact congrArg (List.map Message.content)
        (learner_appendToFirst content sound.messages.speaker)
  | finishStreamingMessage => exact utterances_finishMessage c
  | addSystemMessage content => exact utterances_push c (by decide) content false
  | assessmentComplete evaluationId => exact utterances_signalCompletion c evaluationId
  | setError message =>
      simp only [reduce]
      split
      · rfl
      · exact utterances_closeMessages c

theorem utterances_said {content : String} (can : c.canSend = true)
    (hasText : Text.isBlankText content = false) :
    (c.said content).utterances = c.utterances ++ [content] := by
  rw [utterances, messages_said can hasText, List.filter_append, List.map_append, ← utterances]
  have one : (c.newTurn content).filter (·.speaker == .learner) =
      [⟨messageId c.nextMessage, .learner, content, false⟩] := by
    unfold newTurn
    split <;> rfl
  rw [one]
  rfl

end

end Conversation

namespace Session

open Conversation

/-- The messages of the learner that were posted since. -/
def posted (s s' : Session) : List String :=
  (s'.sent.drop s.sent.length).filterMap (·.endpoint.content?)

/-- Nothing was said meanwhile, the same is remembered, and these messages were posted. -/
structure Posts (contents : List String) (s s' : Session) : Prop where
  lastMessage : s'.lastMessage = s.lastMessage
  said : s.conversation.Sound →
    s'.conversation.Sound ∧ s'.conversation.utterances = s.conversation.utterances
  sent : ∃ more, s'.sent = s.sent ++ more ∧ more.filterMap (·.endpoint.content?) = contents

section
variable {s s' : Session} {contents : List String}

theorem Posts.posted (posts : Posts contents s s') : s.posted s' = contents := by
  obtain ⟨more, sent, carried⟩ := posts.sent
  rw [Session.posted, sent, List.drop_left, carried]

theorem Posts.of_same (lastMessage : s'.lastMessage = s.lastMessage)
    (conversation : s'.conversation = s.conversation) (sent : s'.sent = s.sent) :
    Posts [] s s' where
  lastMessage := lastMessage
  said := fun sound => by
    rw [conversation]
    exact ⟨sound, rfl⟩
  sent := ⟨[], by rw [sent, List.append_nil], rfl⟩

theorem Posts.refl (s : Session) : Posts [] s s :=
  .of_same rfl rfl rfl

theorem Posts.trans {a b c : Session} {more : List String} (first : Posts contents a b)
    (second : Posts more b c) : Posts (contents ++ more) a c where
  lastMessage := second.lastMessage.trans first.lastMessage
  said := fun sound => by
    obtain ⟨soundThen, before⟩ := first.said sound
    obtain ⟨soundNow, after⟩ := second.said soundThen
    exact ⟨soundNow, after.trans before⟩
  sent := by
    obtain ⟨early, sentEarly, carriedEarly⟩ := first.sent
    obtain ⟨late, sentLate, carriedLate⟩ := second.sent
    refine ⟨early ++ late, ?_, ?_⟩
    · rw [sentLate, sentEarly, List.append_assoc]
    · rw [List.filterMap_append, carriedEarly, carriedLate]

/-- Nothing is posted before. -/
theorem Posts.later {a b c : Session} (nothing : Posts [] a b) (posts : Posts contents b c) :
    Posts contents a c :=
  nothing.trans posts

/-- Nothing is posted after that. -/
theorem Posts.earlier {a b c : Session} (posts : Posts contents a b) (nothing : Posts [] b c) :
    Posts contents a c := by
  have both := posts.trans nothing
  rwa [List.append_nil] at both

/-! ## Mute moves -/

theorem posts_dispatch (s : Session) {action : Action} (mutes : action.isMute = true) :
    Posts [] s (s.dispatch action) where
  lastMessage := rfl
  said := fun sound => by
    rw [conversation_dispatch]
    exact ⟨sound.reduce action, utterances_reduce sound mutes⟩
  sent := ⟨[], (List.append_nil _).symm, rfl⟩

theorem posts_setSlot (s : Session) (transport : Transport) (slot : Slot) :
    Posts [] s (s.setSlot transport slot) := by
  cases transport <;> exact .of_same rfl rfl rfl

theorem posts_asked (s : Session) (request : Sent) :
    Posts request.endpoint.content?.toList s { s with sent := s.sent ++ [request] } where
  lastMessage := rfl
  said := fun sound => ⟨sound, rfl⟩
  sent := by
    refine ⟨[request], rfl, ?_⟩
    cases carried : request.endpoint.content? <;> simp [carried]

theorem Move.posts (move : s.Move true s') : Posts [] s s' := by
  cases move with
  | talks action mutes => exact posts_dispatch s (mutes rfl)
  | slot transport slot => exact posts_setSlot s transport slot
  | remembers _ speaks => cases speaks
  | asks id endpoint token whole mutes held =>
      have asked := posts_asked s ⟨.call id, endpoint, token⟩
      rwa [mutes rfl] at asked
  | signs | turns | keeps | gives | records => exact .of_same rfl rfl rfl

theorem Moves.posts (moves : s.Moves true s') : Posts [] s s' := by
  induction moves with
  | refl => exact .refl s
  | tail _ move ih => exact ih.later move.posts

theorem posts_settle (s : Session) : Posts [] s s.settle :=
  (moves_settle s).posts

theorem posts_pump : KeptByPump (Posts []) where
  trans := .later
  setPump := fun _ _ => .of_same rfl rfl rfl
  limit := fun _ => .of_same rfl rfl rfl
  report := fun s failure => (moves_report s failure).posts
  send := by
    intro s s' attemptId blob sequence isSent
    obtain ⟨token, -, rfl⟩ := eq_of_send isSent
    exact posts_asked s ⟨.pump, .chunk attemptId blob sequence, token⟩

/-- What is mute leaves all of this alone. -/
theorem posts_step_of_mute (s : Session) {stimulus : Stimulus} (mutes : stimulus.isMute = true) :
    Posts [] s (s.step stimulus) := by
  cases pumping : stimulus.isPumping with
  | true => exact (posts_pump.react s pumping).later (posts_settle _)
  | false =>
      have moves : (s.unmarked stimulus).Moves true (s.step stimulus) :=
        moves_step s pumping fun _ => mutes
      have unmarked : Posts [] s (s.unmarked stimulus) := by
        unfold Session.unmarked
        split
        · exact .of_same rfl rfl rfl
        · exact .refl s
      exact unmarked.later moves.posts

theorem posts_call {call : Call}
    (posts : Posts contents s.withCall (s.withCall.runCall s.nextCall call)) :
    Posts contents s (s.step (.call call)) :=
  ((moves_withCall s).posts.later posts).earlier (posts_settle _)

/-! ## Posting a message -/

/-- What the request carries is posted if there is a token. -/
theorem posts_openStream (s : Session) (id : Nat) (transport : Transport) (endpoint : Endpoint) :
    Posts (if s.token?.isSome then endpoint.content? else none).toList s
      (s.openStream id transport endpoint) := by
  cases signedIn : s.token? with
  | some token =>
      have begun := posts_setSlot s transport (s.slot transport).start
      have sent : (s.setSlot transport (s.slot transport).start).sent = s.sent := by
        cases transport <;> rfl
      rw [openStream_of_token signedIn, request, ← sent, Option.isSome_some, if_pos rfl]
      refine (begun.later (posts_asked _ ⟨.call id, endpoint, token⟩)).earlier ?_
      exact (moves_setCall _ id fun _ _ same => by cases same).posts
  | none =>
      rw [openStream_of_no_token signedIn]
      exact (posts_setSlot s transport _).later (moves_failCall _ id _).posts

theorem attemptId_beginInterviewerMessage (c : Conversation) :
    (c.reduce .beginInterviewerMessage).attemptId = c.attemptId := by
  simp only [reduce]
  split <;> rfl

/-- A message is posted if the attempt is known and there is a token. -/
theorem posts_streamReply (s : Session) (id : Nat) (content : String) :
    Posts (if s.conversation.attemptId.isSome && s.token?.isSome then some content else none).toList
      s (s.streamReply id content) := by
  have begun : Posts [] s (s.dispatch .beginInterviewerMessage) := posts_dispatch s rfl
  have same : (s.dispatch .beginInterviewerMessage).conversation.attemptId =
      s.conversation.attemptId := by
    rw [conversation_dispatch, attemptId_beginInterviewerMessage]
  simp only [streamReply, same]
  cases s.conversation.attemptId with
  | none => exact begun.later (moves_failCall _ id _).posts
  | some attemptId =>
      exact begun.later (posts_openStream (s.dispatch .beginInterviewerMessage) id .response
        (.message attemptId content))

/-! ### Saying something -/

/-- The message is taken: the learner may say something, also once a reply under way is cut off,
    and the message is not blank. -/
def takesMessage (s : Session) (content : String) : Bool :=
  s.conversation.canSend && s.cutOff.canSend && !Text.isBlankText content

/-- A message that is not taken leaves all of this alone. -/
theorem posts_sendMessage_of_refused {content : String} (refused : s.takesMessage content = false)
    (id : Nat) : Posts [] s (s.sendMessage id content) := by
  cases can : s.conversation.canSend with
  | true =>
      rw [takesMessage, can, Bool.true_and] at refused
      rw [sendMessage_refused can refused]
      exact (moves_supersede s .response).posts.later (moves_giveBack _ id _).posts
  | false =>
      simp only [sendMessage, can, Bool.not_false, if_true]
      exact (moves_giveBack s id _).posts

/-- A message that is taken is said, and is remembered from then on. -/
theorem said_of_taken {content : String} (taken : s.takesMessage content = true)
    (sound : s.conversation.Sound) :
    let t := s.step (.call (.sendMessage content))
    t.lastMessage = some content ∧ t.conversation.Sound ∧
      t.conversation.utterances = s.conversation.utterances ++ [content] := by
  simp only [takesMessage, Bool.and_eq_true, Bool.not_eq_true'] at taken
  obtain ⟨⟨can, still⟩, hasText⟩ := taken
  have spoken := spoken_utter s.withCall content
  have soundThen : s.cutOff.Sound ∧ s.cutOff.utterances = s.conversation.utterances := by
    have superseded : Posts [] s (s.supersede .response) := (moves_supersede s .response).posts
    rw [← conversation_supersede_response]
    exact superseded.said sound
  have saidThen : ((s.withCall.supersede .response).utter content).conversation.Sound := by
    rw [spoken.conversation]
    exact (soundThen.1.reduce _).reduce _
  obtain ⟨contents, posts⟩ : ∃ contents, Posts contents
      ((s.withCall.supersede .response).utter content) (s.step (.call (.sendMessage content))) := by
    rw [step_taken can still hasText]
    split
    · exact ⟨[], (moves_failCall _ _ _).posts.later (posts_settle _)⟩
    · exact ⟨_, (posts_openStream _ _ .response _).earlier (posts_settle _)⟩
  obtain ⟨soundNow, saidNow⟩ := posts.said saidThen
  refine ⟨posts.lastMessage.trans spoken.lastMessage, soundNow, ?_⟩
  rw [saidNow, spoken.conversation, show s.withCall.cutOff = s.cutOff from rfl,
    utterances_said still hasText, soundThen.2]

/-! ### Saying something again -/

/-- What doing again what failed last posts: the message that is remembered, if an attempt that is
    known has failed and there is a token. -/
def resent? (s : Session) : Option String :=
  if s.conversation.phase == .error && s.conversation.attemptId.isSome && s.token?.isSome then
    s.lastMessage
  else none

/-- Asking for the devices, where it does not begin anew. -/
theorem posts_grantPermissions (old : s.beginsAnew .grantPermissions = false) (id : Nat) :
    Posts [] s (s.grantPermissions id) := by
  unfold grantPermissions
  dsimp only
  split
  · exact (moves_acquireDevices s id).posts
  · split
    · split
      · exact (moves_giveBack s id _).posts
      · rename_i anew _ _ bound
        rw [beginsAnew, anew, bound] at old
        cases old
    · exact (moves_giveBack s id _).posts

/-- An error is cleared, and then the learner may say something, if the attempt is known. -/
theorem cleared_of_error (sound : s.conversation.Sound) (failed : s.conversation.phase = .error) :
    (s.dispatch .clearError).conversation.canSend = s.conversation.attemptId.isSome ∧
      (s.dispatch .clearError).conversation.attemptId = s.conversation.attemptId := by
  have wrong := sound.error_iff.mp failed
  rw [conversation_dispatch, canSend]
  simp only [reduce, wrong, if_true]
  refine ⟨?_, trivial⟩
  cases s.conversation.attemptId <;> rfl

/-- Where nothing is remembered, nothing is said again. -/
theorem posts_retryStart (old : s.beginsAnew .grantPermissions = false)
    (failed : s.conversation.phase = .error) (id : Nat) : Posts [] s (s.retryStart id) := by
  unfold retryStart
  dsimp only
  split
  · exact (posts_dispatch s rfl).later (moves_giveBack _ id _).posts
  · rename_i unknown
    split
    · exact posts_grantPermissions old id
    · split
      · exact (moves_giveBack s id _).posts
      · rename_i bound
        have anew : s.beginsAnew .grantPermissions = true := by
          simpa [beginsAnew, failed, bound] using unknown
        cases old.symm.trans anew

theorem posts_retry (sound : s.conversation.Sound) (old : s.beginsAnew .retry = false) (id : Nat) :
    Posts s.resent?.toList s (s.retry id) := by
  unfold retry resent?
  dsimp only
  cases failed : s.conversation.phase == .error with
  | false =>
      simp only [bne, failed, Bool.not_false, if_true, Bool.false_and, Bool.false_eq_true, if_false]
      exact (moves_giveBack s id _).posts
  | true =>
      simp only [bne, failed, Bool.not_true, Bool.false_eq_true, if_false, Bool.true_and]
      have isError : s.conversation.phase = .error := beq_iff_eq.mp failed
      cases remembered : s.lastMessage with
      | none =>
          rw [ite_self]
          refine posts_retryStart ?_ isError id
          simpa [beginsAnew, failed, remembered] using old
      | some content =>
          obtain ⟨can, same⟩ := cleared_of_error sound isError
          have cleared : Posts [] s (s.dispatch .clearError) := posts_dispatch s rfl
          rw [can]
          cases known : s.conversation.attemptId.isSome with
          | true =>
              have replies := posts_streamReply (s.dispatch .clearError) id content
              rw [same, known] at replies
              exact cleared.later replies
          | false => exact cleared.later (moves_giveBack _ id _).posts

/-! ### Beginning anew -/

/-- Asking for the devices again, or doing a start again, forgets what was said. -/
theorem posts_anew {call : Call} (anew : s.beginsAnew call = true)
    (unnamed : ∀ assignmentId, call ≠ .assign assignmentId) :
    ∃ assignmentId, Posts [] (s.dispatch (.assign assignmentId)) (s.step (.call call)) := by
  rw [← beginsAnew_withCall] at anew
  have begun (assignmentId : String) : Posts [] (s.dispatch (.assign assignmentId))
      (s.withCall.dispatch (.assign assignmentId)) :=
    .of_same rfl rfl rfl
  have acquires (assignmentId : String) : Posts [] (s.dispatch (.assign assignmentId))
      ((s.withCall.dispatch (.assign assignmentId)).acquireDevices s.nextCall).settle :=
    ((begun assignmentId).later (moves_acquireDevices _ _).posts).later (posts_settle _)
  cases call with
  | assign assignmentId => exact absurd rfl (unnamed assignmentId)
  | grantPermissions =>
      obtain ⟨assignmentId, -, run⟩ := grantPermissions_anew anew s.nextCall
      have step : s.step (.call .grantPermissions) = _ := congrArg settle run
      refine ⟨assignmentId, ?_⟩
      rw [step]
      exact acquires assignmentId
  | retry =>
      obtain ⟨assignmentId, -, run⟩ := retry_anew anew s.nextCall
      have step : s.step (.call .retry) = _ := congrArg settle run
      refine ⟨assignmentId, ?_⟩
      rw [step]
      split
      · exact acquires assignmentId
      · have granted := (begun assignmentId).later (Move.talks .grantPermissions fun _ => rfl).posts
        exact (granted.later (moves_start _ s.nextCall).posts).later (posts_settle _)
  | _ => cases anew

theorem posts_step_retry (sound : s.conversation.Sound) (old : s.beginsAnew .retry = false) :
    Posts s.resent?.toList s (s.step (.call .retry)) :=
  posts_call (posts_retry (s := s.withCall) sound old s.nextCall)

/-- A message is posted again only where it is remembered, and then nothing begins anew. -/
theorem remembered_of_resent {content : String} (resent : s.resent? = some content) :
    s.lastMessage = some content ∧ s.beginsAnew .retry = false := by
  have remembered : s.lastMessage = some content := by
    unfold resent? at resent
    split at resent
    · exact resent
    · cases resent
  refine ⟨remembered, ?_⟩
  rw [beginsAnew, remembered, Option.isNone_some, Bool.and_false, Bool.false_and, Bool.false_and]

theorem posted_retry (sound : s.conversation.Sound) :
    s.posted (s.step (.call .retry)) = s.resent?.toList := by
  cases anew : s.beginsAnew .retry with
  | false => exact (posts_step_retry sound anew).posted
  | true =>
      obtain ⟨assignmentId, posts⟩ := posts_anew anew (by nofun)
      cases resent : s.resent? with
      | none => exact posts.posted
      | some content => cases anew.symm.trans (remembered_of_resent resent).2

/-! ## A step -/

/-- What becomes of what was said: it stays, something is added, or the session begins anew. -/
inductive Recalls (s : Session) : Stimulus → Prop where
  | stays {stimulus : Stimulus} {contents : List String}
      (posts : Posts contents s (s.step stimulus)) : Recalls s stimulus
  | adds {content : String} (taken : s.takesMessage content = true) :
      Recalls s (.call (.sendMessage content))
  | begins {call : Call} (anew : s.beginsAnew call = true) : Recalls s (.call call)

theorem recalls (sound : s.conversation.Sound) {stimulus : Stimulus}
    (host : ∀ action, stimulus = .dispatch action → action.isMute = true) :
    s.Recalls stimulus := by
  cases stimulus with
  | dispatch action => exact .stays (posts_step_of_mute s (host action rfl))
  | call call =>
      cases call with
      | assign assignmentId => exact .begins rfl
      | grantPermissions =>
          cases anew : s.beginsAnew .grantPermissions with
          | true => exact .begins anew
          | false =>
              exact .stays (posts_call (posts_grantPermissions (s := s.withCall) anew s.nextCall))
      | sendMessage content =>
          cases taken : s.takesMessage content with
          | true => exact .adds taken
          | false =>
              exact .stays (posts_call
                (posts_sendMessage_of_refused (s := s.withCall) taken s.nextCall))
      | retry =>
          cases anew : s.beginsAnew .retry with
          | true => exact .begins anew
          | false => exact .stays (posts_step_retry sound anew)
      | _ => exact .stays (posts_step_of_mute s rfl)
  | _ => exact .stays (posts_step_of_mute s rfl)

/-- Another message takes the place of the one that is remembered, or none does. -/
def replaces (s : Session) : Stimulus → Bool
  | .call (.assign _) => true
  | .call (.sendMessage content) => s.takesMessage content
  | _ => false

/-- What is remembered is remembered until it is replaced. -/
theorem lastMessage_step (sound : s.conversation.Sound) {stimulus : Stimulus}
    (stays : s.replaces stimulus = false) :
    (s.step stimulus).lastMessage = s.lastMessage := by
  by_cases host : ∀ action, stimulus = .dispatch action → action.isMute = true
  · cases recalls sound host with
    | stays posts => exact posts.lastMessage
    | adds taken => cases stays.symm.trans taken
    | begins anew =>
        obtain ⟨assignmentId, posts⟩ := posts_anew anew (by rintro _ rfl; cases stays)
        exact posts.lastMessage
  · -- The host does not reach what is remembered.
    simp only [not_forall] at host
    obtain ⟨action, rfl, -⟩ := host
    rfl

end

end Session

end Viva
