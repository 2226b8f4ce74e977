import Viva.Proofs.Conversation.Permanence
import Viva.Proofs.Session.Restart

/-! # Saying something

A call that says something cuts off the reply under way before it is known whether the message is
taken. So it comes to one of three things: the message is said (`Says`), nothing happens (`Ignores`),
or a reply is cut off and nothing is said in its place (`Interrupts`). The last one is what becomes
of a blank message, and of a message that comes after the interviewer has signalled the end: cutting
the reply off completes it, and that ends the conversation.
-/

namespace Viva

namespace Conversation

theorem accepts_sendMessage (store : Store) (content : String) :
    store.accepts (.sendMessage content) =
      (store.conversation.canSend && !Text.isBlankText content) := by
  simp only [Store.accepts, reduce, canSend]
  split
  · rename_i taken
    have longer : store.conversation.messages.length <
        (store.conversation.push .learner content false).messages.length := by simp [push]
    rw [taken, bne_iff_ne]
    intro same
    exact Nat.ne_of_gt longer (congrArg (fun c => c.messages.length) same)
  · rename_i refused
    rw [Bool.eq_false_iff.mpr refused, bne_self_eq_false]

theorem canSend_finishMessage {c : Conversation} (can : c.canSend = true) :
    c.finishMessage.canSend = !c.completionPending := by
  simp only [canSend, beq_iff_eq] at can
  cases pending : c.completionPending <;> simp [finishMessage, closeMessages, canSend, can, pending]

theorem nextMessage_finishMessage (c : Conversation) :
    c.finishMessage.nextMessage = c.nextMessage := by
  unfold finishMessage
  dsimp only
  split <;> rfl

/-- The message of the learner, and behind it one for the reply unless one is open already. -/
def newTurn (c : Conversation) (content : String) : List Message :=
  ⟨messageId c.nextMessage, .learner, content, false⟩ ::
    if c.isStreaming then [] else [⟨messageId (c.nextMessage + 1), .interviewer, "", true⟩]

/-- The conversation after the learner has said something that is taken. -/
def said (c : Conversation) (content : String) : Conversation :=
  (c.reduce (.sendMessage content)).reduce .beginInterviewerMessage

theorem messages_said {c : Conversation} {content : String} (can : c.canSend = true)
    (hasText : Text.isBlankText content = false) :
    (c.said content).messages = c.messages ++ c.newTurn content := by
  simp only [canSend] at can
  cases streams : c.messages.any (·.isStreaming) <;>
    simp [said, reduce, newTurn, can, hasText, isStreaming, streams, push]

theorem attemptId_said (c : Conversation) (content : String) :
    (c.said content).attemptId = c.attemptId := by
  simp only [said, reduce]
  split <;> split <;> rfl

theorem extends_said (c : Conversation) (content : String) :
    ∃ added, Extends c.messages (c.said content).messages added := by
  have sends : (Action.sendMessage content).startsOver = false := rfl
  have begins : Action.beginInterviewerMessage.startsOver = false := rfl
  obtain ⟨one, -, first⟩ := extends_reduce c sends
  obtain ⟨other, -, second⟩ := extends_reduce (c.reduce (.sendMessage content)) begins
  exact ⟨one + other, first.trans second⟩

/-- What follows `count` messages is one message of the learner and perhaps some of the
    interviewer. -/
def LearnerSays (messages : List Message) (count : Nat) (message : Message) : Prop :=
  ∃ rest, messages.drop count = message :: rest ∧ ∀ other ∈ rest, other.speaker = .interviewer

theorem learnerSays_newTurn {c : Conversation} {content : String} {messages : List Message}
    (said : messages = c.messages ++ c.newTurn content) :
    LearnerSays messages c.messages.length
      ⟨messageId c.nextMessage, .learner, content, false⟩ := by
  refine ⟨if c.isStreaming then [] else _, said ▸ List.drop_left, ?_⟩
  intro other member
  split at member
  · cases member
  · exact List.mem_singleton.mp member ▸ rfl

/-- The message stays said when an error closes what is open. -/
theorem LearnerSays.setError {c : Conversation} {count : Nat} {id content : String}
    (spoke : LearnerSays c.messages count ⟨id, .learner, content, false⟩) (text : String) :
    LearnerSays (c.reduce (.setError text)).messages count ⟨id, .learner, content, false⟩ := by
  simp only [reduce]
  split
  · exact spoke
  · obtain ⟨rest, new, others⟩ := spoke
    refine ⟨rest.map fun message => { message with isStreaming := false }, ?_, ?_⟩
    · simp only [closeMessages, ← List.map_drop, new, List.map_cons]
    · intro other member
      obtain ⟨message, isNew, rfl⟩ := List.mem_map.mp member
      exact others message isNew

end Conversation

namespace Session

open Conversation

/-! ## What a call can come to -/

/-- The call waits for the answer to its request, the only new one, and its stream owns the slot. -/
structure Asks (s : Session) (content : String) (t : Session) : Prop where
  sent : ∃ attemptId token, s.conversation.attemptId = some attemptId ∧ s.token? = some token ∧
    t.sent = s.sent ++ [⟨.call s.nextCall, .message attemptId content, token⟩]
  waits : t.calls[s.nextCall]? = some (.waiting (.headers .response s.replies.ticket))
  owns : t.replies.isCurrent s.replies.ticket = true

/-- The message is said: it is the one new message of the learner, it is remembered, and the reply is
    asked for, or else the call fails. -/
structure Says (s : Session) (content : String) (t : Session) : Prop where
  kept : ∃ added, Extends s.conversation.messages t.conversation.messages added
  said : LearnerSays t.conversation.messages s.conversation.messages.length
    ⟨messageId s.conversation.nextMessage, .learner, content, false⟩
  remembered : t.lastMessage = some content
  asks : s.Asks content t ∨ t.sent = s.sent ∧
    ∃ failure, t.calls[s.nextCall]? = some (.returned (some (.error failure)))

/-- Nothing happens, and the streams that are under way go on. -/
structure Ignores (s t : Session) : Prop extends Untouched s t where
  lastMessage : t.lastMessage = s.lastMessage
  sent : t.sent = s.sent
  goesOn : ∀ (id : Nat) (state : CallState) transport generation, s.calls[id]? = some state →
    state.generation? transport = some generation →
      (s.slot transport).isCurrent generation = true → t.calls[id]? = some state
  returned : t.calls[s.nextCall]? = some (.returned (some (.ok ())))

/-- A reply under way is cut off, and nothing is said in its place. -/
structure Interrupts (s t : Session) : Prop where
  live : s.replies.isLive = true
  replies : t.replies = s.replies.release
  conversation : t.conversation = s.conversation.finishMessage
  lastMessage : t.lastMessage = s.lastMessage
  sent : t.sent = s.sent
  returned : t.calls[s.nextCall]? = some (.returned (some (.ok ())))

theorem length_finishMessage (c : Conversation) :
    c.finishMessage.messages.length = c.messages.length :=
  (extends_finishMessage c).length

theorem Says.length_lt {s t : Session} {content : String} (spoke : s.Says content t) :
    s.conversation.messages.length < t.conversation.messages.length := by
  obtain ⟨rest, new, -⟩ := spoke.said
  apply Nat.lt_of_not_le
  intro none
  rw [List.drop_eq_nil_of_le none] at new
  cases new

theorem Says.not_ignores {s t : Session} {content : String} (spoke : s.Says content t) :
    ¬ s.Ignores t := by
  intro ignores
  have longer := spoke.length_lt
  rw [conversation, conversation, ignores.store] at longer
  exact Nat.lt_irrefl _ longer

theorem Interrupts.not_says {s t : Session} {content : String} (interrupts : s.Interrupts t) :
    ¬ s.Says content t := by
  intro spoke
  have longer := spoke.length_lt
  rw [interrupts.conversation, length_finishMessage] at longer
  exact Nat.lt_irrefl _ longer

theorem Interrupts.not_ignores {s t : Session} (interrupts : s.Interrupts t) : ¬ s.Ignores t := by
  intro ignores
  have live := interrupts.live
  have same : t.replies = s.replies := ignores.slot .response
  rw [← same, interrupts.replies] at live
  cases live

/-! ## What the call does on its way -/

/-- The conversation once the reply under way, if there is one, is cut off. -/
def cutOff (s : Session) : Conversation :=
  if s.replies.isLive then s.conversation.finishMessage else s.conversation

theorem conversation_supersede_response (s : Session) :
    (s.supersede .response).conversation = s.cutOff := by
  unfold supersede cutOff
  dsimp only [slot]
  split
  · rw [conversation_dispatch, conversation_setSlot]
    rfl
  · rfl

theorem cutOff_of_idle {s : Session} (idle : s.replies.isLive = false) :
    s.cutOff = s.conversation := by
  simp only [cutOff, idle, Bool.false_eq_true, if_false]

theorem length_cutOff (s : Session) :
    s.cutOff.messages.length = s.conversation.messages.length := by
  unfold cutOff
  split
  · exact length_finishMessage _
  · rfl

theorem nextMessage_cutOff (s : Session) : s.cutOff.nextMessage = s.conversation.nextMessage := by
  unfold cutOff
  split
  · exact nextMessage_finishMessage _
  · rfl

theorem attemptId_cutOff (s : Session) : s.cutOff.attemptId = s.conversation.attemptId := by
  unfold cutOff
  split
  · exact attemptId_finishMessage _
  · rfl

theorem extends_cutOff (s : Session) :
    ∃ added, Extends s.conversation.messages s.cutOff.messages added := by
  unfold cutOff
  split
  · exact ⟨0, extends_finishMessage _⟩
  · exact ⟨0, .refl _⟩

theorem canSend_cutOff {s : Session} (can : s.conversation.canSend = true) :
    s.cutOff.canSend = !(s.replies.isLive && s.conversation.completionPending) := by
  unfold cutOff
  split
  · rename_i live
    rw [canSend_finishMessage can, live, Bool.true_and]
  · rename_i idle
    rw [can, Bool.eq_false_iff.mpr idle, Bool.false_and, Bool.not_false]

/-- Adds a message of the learner, remembers it, and opens a message for the reply. -/
def utter (s : Session) (content : String) : Session :=
  { s.dispatch (.sendMessage content) with
    lastMessage := some content }.dispatch .beginInterviewerMessage

theorem conversation_utter (s : Session) (content : String) :
    (s.utter content).conversation = s.conversation.said content := by
  have last : (s.utter content).conversation =
      (s.dispatch (.sendMessage content)).conversation.reduce .beginInterviewerMessage :=
    conversation_dispatch _ _
  rw [last, conversation_dispatch, Conversation.said]

theorem utter_keeps (s : Session) (content : String) :
    (s.utter content).replies = s.replies ∧ (s.utter content).sent = s.sent ∧
      (s.utter content).token? = s.token? ∧ (s.utter content).calls = s.calls :=
  ⟨rfl, rfl, rfl, rfl⟩

theorem supersede_keeps (s : Session) :
    (s.supersede .response).replies.ticket = s.replies.ticket ∧
      (s.supersede .response).sent = s.sent ∧ (s.supersede .response).token? = s.token? ∧
        (s.supersede .response).calls = s.calls := by
  unfold supersede
  dsimp only
  split <;> exact ⟨rfl, rfl, rfl, rfl⟩

theorem sound_supersede {s : Session} (sound : s.replies.Sound) :
    (s.supersede .response).replies.Sound := by
  unfold supersede
  dsimp only
  split
  · exact sound.release
  · exact sound

/-- When the reply is asked for, the message is said, and there is no new call, request or ticket. -/
structure Spoken (s : Session) (content : String) (t : Session) : Prop where
  conversation : t.conversation = s.cutOff.said content
  ticket : t.replies.ticket = s.replies.ticket
  sound : s.replies.Sound → t.replies.Sound
  lastMessage : t.lastMessage = some content
  sent : t.sent = s.sent
  token : t.token? = s.token?
  calls : t.calls = s.calls

theorem spoken_utter (s : Session) (content : String) :
    s.Spoken content ((s.supersede .response).utter content) := by
  obtain ⟨replies, sent, token, calls⟩ := utter_keeps (s.supersede .response) content
  obtain ⟨ticket, wasSent, hadToken, wereCalls⟩ := supersede_keeps s
  refine ⟨?_, ?_, ?_, rfl, sent.trans wasSent, token.trans hadToken, calls.trans wereCalls⟩
  · rw [conversation_utter, conversation_supersede_response]
  · rw [replies, ticket]
  · rw [replies]
    exact sound_supersede

theorem sendMessage_taken {s : Session} (can : s.conversation.canSend = true)
    (still : s.cutOff.canSend = true) {content : String}
    (hasText : Text.isBlankText content = false) (id : Nat) :
    s.sendMessage id content =
      match s.conversation.attemptId with
      | none => ((s.supersede .response).utter content).failCall id unidentified
      | some attemptId => ((s.supersede .response).utter content).openStream id .response
          (.message attemptId content) := by
  have taken : (s.supersede .response).store.accepts (.sendMessage content) = true := by
    rw [accepts_sendMessage, ← conversation, conversation_supersede_response, still, hasText]
    rfl
  have attemptId : ((s.supersede .response).utter content).conversation.attemptId =
      s.conversation.attemptId := by
    rw [(spoken_utter s content).conversation, attemptId_said, attemptId_cutOff]
  rw [← attemptId]
  simp only [sendMessage, can, Bool.not_true, Bool.false_eq_true, if_false, taken, if_true]
  rfl

theorem sendMessage_refused {s : Session} (can : s.conversation.canSend = true) {content : String}
    (refused : (s.cutOff.canSend && !Text.isBlankText content) = false) (id : Nat) :
    s.sendMessage id content = (s.supersede .response).succeed id := by
  have refuses : (s.supersede .response).store.accepts (.sendMessage content) = false := by
    rw [accepts_sendMessage, ← conversation, conversation_supersede_response, refused]
  simp only [sendMessage, can, Bool.not_true, Bool.false_eq_true, if_false, refuses]

/-! ## Where a new stream leaves its call -/

/-- A new stream owns the slot of its kind, and the call waits for the answer to its request. -/
def request (s : Session) (id : Nat) (transport : Transport) (endpoint : Endpoint)
    (token : String) : Session :=
  { s.setSlot transport (s.slot transport).start with
    sent := s.sent ++ [Sent.mk (.call id) endpoint token] }.await id
      (.headers transport (s.slot transport).ticket)

theorem openStream_of_token {s : Session} {token : String} (signedIn : s.token? = some token)
    (id : Nat) (transport : Transport) (endpoint : Endpoint) :
    s.openStream id transport endpoint = s.request id transport endpoint token := by
  cases transport <;> simp only [openStream, request, send, setSlot, token?] at signedIn ⊢ <;>
    rw [signedIn]

/-- Without a token the stream fails at once, and its slot is empty again. -/
theorem openStream_of_no_token {s : Session} (signedOut : s.token? = none) (id : Nat)
    (transport : Transport) (endpoint : Endpoint) :
    s.openStream id transport endpoint =
      (s.setSlot transport ((s.slot transport).start.finish (s.slot transport).ticket)).failCall id
        .unauthorized := by
  have owns : (s.slot transport).start.isCurrent (s.slot transport).ticket = true := by
    simp only [Slot.isCurrent, Slot.start, Slot.ticket, beq_self_eq_true]
  cases transport <;> simp only [openStream, send, setSlot, token?, failStream, slot] at * <;>
    simp only [signedOut, owns, if_true]

/-! ## The three outcomes -/

theorem getElem?_set_nextCall (s : Session) (state : CallState) :
    (s.withCall.calls.set s.nextCall state)[s.nextCall]? = some state := by
  apply List.getElem?_set_self
  simp [withCall, nextCall]

/-- A new request of the last call, in a settled session. -/
theorem request_settled {s t : Session} (calls : t.calls = s.withCall.calls) (transport : Transport)
    (sound : (t.slot transport).Sound) (endpoint : Endpoint) (token : String) :
    let t' := (t.request s.nextCall transport endpoint token).settle
    let generation := (t.slot transport).ticket
    t'.calls[s.nextCall]? = some (.waiting (.headers transport generation)) ∧
      (t'.slot transport).isCurrent generation = true ∧
      (t'.slot transport).isCancelled generation = false ∧
      t'.sent = t.sent ++ [⟨.call s.nextCall, endpoint, token⟩] ∧
      t'.conversation = t.conversation := by
  intro t' generation
  obtain ⟨started, asked, set, same⟩ : t'.slot transport = (t.slot transport).start ∧
      t'.sent = t.sent ++ [⟨.call s.nextCall, endpoint, token⟩] ∧
      (t.request s.nextCall transport endpoint token).calls =
        t.calls.set s.nextCall (.waiting (.headers transport generation)) ∧
      t'.conversation = t.conversation := by
    cases transport <;> exact ⟨rfl, rfl, rfl, rfl⟩
  have owns : (t'.slot transport).isCurrent generation = true := by
    rw [started]
    exact Slot.isCurrent_iff.mpr rfl
  -- The owner of a slot is not cancelled, so the call still waits when the session has settled.
  have live : (t'.slot transport).isCancelled generation = false := by
    rw [started] at owns ⊢
    exact sound.start.live _ (Slot.isCurrent_iff.mp owns)
  refine ⟨?_, owns, live, asked, same⟩
  refine waits_settle ?_ ?_ (CallState.generation?_headers transport generation)
  · rwa [(untouched_settle _).slot] at live
  · rw [set, calls]
    exact getElem?_set_nextCall s _

theorem failCall_settled {s t : Session} (calls : t.calls = s.withCall.calls) (failure : Failure) :
    let t' := (t.failCall s.nextCall failure).settle
    t'.calls[s.nextCall]? = some (.returned (some (.error failure))) ∧ t'.sent = t.sent := by
  refine ⟨calls_settle_of_returned ?_, rfl⟩
  change (t.calls.set s.nextCall _)[s.nextCall]? = _
  rw [calls]
  exact getElem?_set_nextCall s _

section
variable {s : Session} {content : String}

theorem step_taken (can : s.conversation.canSend = true) (still : s.cutOff.canSend = true)
    (hasText : Text.isBlankText content = false) :
    s.step (.call (.sendMessage content)) =
      (match s.conversation.attemptId with
        | none =>
          ((s.withCall.supersede .response).utter content).failCall s.nextCall unidentified
        | some attemptId =>
          ((s.withCall.supersede .response).utter content).openStream s.nextCall .response
            (.message attemptId content)).settle :=
  congrArg settle (sendMessage_taken (s := s.withCall) can still hasText s.nextCall)

theorem step_refused (can : s.conversation.canSend = true)
    (refused : (s.cutOff.canSend && !Text.isBlankText content) = false) :
    s.step (.call (.sendMessage content)) =
      ((s.withCall.supersede .response).succeed s.nextCall).settle :=
  congrArg settle (sendMessage_refused (s := s.withCall) can refused s.nextCall)

theorem learnerSays_cutOff (still : s.cutOff.canSend = true)
    (hasText : Text.isBlankText content = false) :
    LearnerSays (s.cutOff.said content).messages s.conversation.messages.length
      ⟨messageId s.conversation.nextMessage, .learner, content, false⟩ := by
  have spoke := learnerSays_newTurn (messages_said still hasText)
  rwa [length_cutOff, nextMessage_cutOff] at spoke

theorem extends_cutOff_said (s : Session) (content : String) :
    ∃ added, Extends s.conversation.messages (s.cutOff.said content).messages added := by
  obtain ⟨first, cut⟩ := extends_cutOff s
  obtain ⟨more, said⟩ := extends_said s.cutOff content
  exact ⟨first + more, cut.trans said⟩

theorem says_of_failCall {t : Session} (said : t.conversation = s.cutOff.said content)
    (remembered : t.lastMessage = some content) (sent : t.sent = s.sent)
    (calls : t.calls = s.withCall.calls) (still : s.cutOff.canSend = true)
    (hasText : Text.isBlankText content = false) (failure : Failure) :
    s.Says content (t.failCall s.nextCall failure).settle := by
  have conversation : (t.failCall s.nextCall failure).settle.conversation =
      (s.cutOff.said content).reduce (.setError failure.learnerMessage) := by
    change (t.report failure).conversation = _
    rw [report, conversation_dispatch, ← said]
    rfl
  obtain ⟨added, extended⟩ := extends_cutOff_said s content
  have errs : (Action.setError failure.learnerMessage).startsOver = false := rfl
  obtain ⟨more, -, closed⟩ := extends_reduce (s.cutOff.said content) errs
  refine ⟨⟨added + more, ?_⟩, ?_, remembered, .inr ⟨sent, failure, ?_⟩⟩
  · rw [conversation]
    exact extended.trans closed
  · rw [conversation]
    exact (learnerSays_cutOff still hasText).setError _
  · exact (failCall_settled calls failure).1

theorem Spoken.asks {t : Session} (spoken : s.withCall.Spoken content t) (sound : s.replies.Sound)
    {attemptId token : String} (identified : s.conversation.attemptId = some attemptId)
    (signedIn : s.token? = some token) :
    let t' := (t.request s.nextCall .response (.message attemptId content) token).settle
    s.Asks content t' ∧ t'.conversation = s.cutOff.said content ∧
      t'.lastMessage = some content := by
  obtain ⟨waits, owns, -, asked, -⟩ :=
    request_settled spoken.calls .response (spoken.sound sound) (.message attemptId content) token
  have ticket : (t.slot .response).ticket = s.replies.ticket := spoken.ticket
  rw [ticket] at waits owns
  refine ⟨⟨⟨attemptId, token, identified, signedIn, ?_⟩, waits, owns⟩, spoken.conversation,
    spoken.lastMessage⟩
  exact asked.trans (congrArg (· ++ _) spoken.sent)

/-- With an attempt and a token the reply is asked for. -/
theorem asks_of_taken (reachable : s.Reachable) (can : s.conversation.canSend = true)
    (still : s.cutOff.canSend = true) (hasText : Text.isBlankText content = false)
    {attemptId token : String} (identified : s.conversation.attemptId = some attemptId)
    (signedIn : s.token? = some token) :
    let t := s.step (.call (.sendMessage content))
    s.Asks content t ∧ t.conversation = s.cutOff.said content ∧ t.lastMessage = some content := by
  have spoken := spoken_utter s.withCall content
  rw [step_taken can still hasText, identified]
  dsimp only
  rw [openStream_of_token (spoken.token.trans signedIn)]
  exact spoken.asks (reachable.tended.slots .response) identified signedIn

/-- A message that is still in place once a reply under way is cut off is said. -/
theorem says_of_taken (reachable : s.Reachable) (can : s.conversation.canSend = true)
    (still : s.cutOff.canSend = true) (hasText : Text.isBlankText content = false) :
    s.Says content (s.step (.call (.sendMessage content))) := by
  have spoken := spoken_utter s.withCall content
  cases identified : s.conversation.attemptId with
  | none =>
      rw [step_taken can still hasText, identified]
      exact says_of_failCall (s := s) spoken.conversation spoken.lastMessage spoken.sent spoken.calls
        still hasText _
  | some attemptId =>
      cases signedIn : s.token? with
      | some token =>
          obtain ⟨asks, conversation, remembered⟩ :=
            asks_of_taken reachable can still hasText identified signedIn
          refine ⟨?_, ?_, remembered, .inl asks⟩
          · rw [conversation]
            exact extends_cutOff_said s content
          · rw [conversation]
            exact learnerSays_cutOff still hasText
      | none =>
          rw [step_taken can still hasText, identified]
          dsimp only
          rw [openStream_of_no_token (spoken.token.trans signedIn)]
          refine says_of_failCall (s := s) ?_ ?_ ?_ ?_ still hasText _
          · exact (conversation_setSlot ..).trans spoken.conversation
          · exact spoken.lastMessage
          · exact spoken.sent
          · exact spoken.calls

theorem ignores_of_succeed (reachable : s.Reachable)
    (returns : s.step (.call (.sendMessage content)) = (s.withCall.succeed s.nextCall).settle) :
    s.Ignores (s.step (.call (.sendMessage content))) := by
  have untouched : s.Untouched (s.step (.call (.sendMessage content))) := by
    rw [returns]
    have begun : s.Untouched s.withCall := ⟨rfl, rfl, slot_withCall s⟩
    exact (begun.trans (untouched_giveBack _ _ _)).trans (untouched_settle _)
  refine ⟨untouched, ?_, ?_, fun id state transport generation here waits owns => ?_, ?_⟩
  · rw [returns]
    rfl
  · rw [returns]
    rfl
  · have live := (reachable.tended.slots transport).live generation (Slot.isCurrent_iff.mp owns)
    rw [← untouched.slot] at live
    exact waits_call here waits live
  · rw [returns]
    exact calls_settle_of_returned (getElem?_set_nextCall s _)

theorem ignores_of_refused (reachable : s.Reachable)
    (refused : s.conversation.canSend = false ∨
      Text.isBlankText content = true ∧ s.replies.isLive = false) :
    s.Ignores (s.step (.call (.sendMessage content))) := by
  refine ignores_of_succeed reachable ?_
  cases can : s.conversation.canSend with
  | false =>
      have cannot : s.withCall.conversation.canSend = false := can
      change (s.withCall.sendMessage s.nextCall content).settle = _
      simp only [sendMessage, cannot, Bool.not_false, if_true]
  | true =>
      obtain ⟨blank, idle⟩ := refused.resolve_left (by rw [can]; nofun)
      have nothing : s.withCall.supersede .response = s.withCall := by
        have idle : (s.withCall.slot .response).isLive = false := idle
        simp only [supersede, idle, Bool.false_eq_true, if_false]
      rw [step_refused can (by rw [blank, Bool.not_true, Bool.and_false]), nothing]

theorem interrupts_of_refused (can : s.conversation.canSend = true)
    (live : s.replies.isLive = true)
    (refused : Text.isBlankText content = true ∨ s.conversation.completionPending = true) :
    s.Interrupts (s.step (.call (.sendMessage content))) := by
  have notTaken : (s.cutOff.canSend && !Text.isBlankText content) = false := by
    rw [canSend_cutOff can, live]
    rcases refused with blank | pending
    · rw [blank, Bool.not_true, Bool.and_false]
    · rw [pending]
      rfl
  have superseded : s.withCall.supersede .response =
      (s.withCall.setSlot .response s.replies.release).dispatch .finishStreamingMessage := by
    have isLive : (s.withCall.slot .response).isLive = true := live
    simp only [supersede, isLive, if_true]
    rfl
  rw [step_refused can notTaken, superseded]
  refine ⟨live, rfl, ?_, rfl, rfl, calls_settle_of_returned (getElem?_set_nextCall s _)⟩
  exact conversation_dispatch _ .finishStreamingMessage

/-- What a call that says something comes to. A message is said exactly if the conversation takes
    messages, it has some text, and there is no reply under way that would end the conversation when
    cut off. Nothing happens exactly if the conversation takes no messages, or if a blank message
    meets no reply. In between a reply is cut off and nothing is said. -/
theorem sendMessage_outcome (reachable : s.Reachable) (content : String) :
    let t := s.step (.call (.sendMessage content))
    (s.Says content t ↔ s.conversation.canSend = true ∧ Text.isBlankText content = false ∧
      ¬ (s.replies.isLive = true ∧ s.conversation.completionPending = true)) ∧
    (s.Ignores t ↔ s.conversation.canSend = false ∨
      Text.isBlankText content = true ∧ s.replies.isLive = false) ∧
    (s.Interrupts t ↔ s.conversation.canSend = true ∧ s.replies.isLive = true ∧
      (Text.isBlankText content = true ∨ s.conversation.completionPending = true)) := by
  intro t
  have spoke : s.conversation.canSend = true ∧ Text.isBlankText content = false ∧
      ¬ (s.replies.isLive = true ∧ s.conversation.completionPending = true) →
        s.Says content t := by
    rintro ⟨can, hasText, fine⟩
    refine says_of_taken reachable can ?_ hasText
    rw [canSend_cutOff can, Bool.not_eq_true', ← Bool.not_eq_true, Bool.and_eq_true]
    exact fine
  have ignores : s.conversation.canSend = false ∨
      Text.isBlankText content = true ∧ s.replies.isLive = false → s.Ignores t :=
    ignores_of_refused reachable
  have interrupts : s.conversation.canSend = true → s.replies.isLive = true →
      Text.isBlankText content = true ∨ s.conversation.completionPending = true →
        s.Interrupts t := interrupts_of_refused
  -- The conditions cover all cases, and no two outcomes go together.
  have notIgnores : s.Says content t → ¬ s.Ignores t := Says.not_ignores
  have notSays : s.Interrupts t → ¬ s.Says content t := Interrupts.not_says
  have notBoth : s.Interrupts t → ¬ s.Ignores t := Interrupts.not_ignores
  grind

end

/-- A session whose learner has said something and waits for the reply. -/
def awaitingReply : Session :=
  ({ baseUrl := "", tokenFile := some "t" } : Session).run
    [.call (.assign "A"), .call (.startExisting "T" ""), .call (.sendMessage "one")]

theorem reachable_awaitingReply : awaitingReply.Reachable :=
  ⟨_, ⟨rfl, fun transport => by cases transport <;> rfl⟩, later_run _ _⟩

/-- The learner goes on before the reply is there. -/
theorem said_over_reply :
    awaitingReply.replies.isLive = true ∧
      awaitingReply.Says "two" (awaitingReply.step (.call (.sendMessage "two"))) := by
  have live : awaitingReply.replies.isLive = true := rfl
  have can : awaitingReply.conversation.canSend = true := rfl
  have goesOn : awaitingReply.conversation.completionPending = false := rfl
  have hasText : Text.isBlankText "two" = false := by decide
  refine ⟨live, (sendMessage_outcome reachable_awaitingReply "two").1.mpr ⟨can, hasText, ?_⟩⟩
  rintro ⟨-, pending⟩
  rw [goesOn] at pending
  cases pending

/-- A blank message costs the reply under way, and so does any message once the interviewer has
    signalled the end. The conversation takes messages in both cases. -/
theorem interrupted_reply :
    let s := awaitingReply
    let ending := s.step (.dispatch (.assessmentComplete none))
    let afterBlank := s.step (.call (.sendMessage " "))
    let afterText := ending.step (.call (.sendMessage "two"))
    (s.Reachable ∧ s.conversation.canSend = true ∧ s.Interrupts afterBlank ∧
      ¬ s.Says " " afterBlank ∧ ¬ s.Ignores afterBlank) ∧
    (ending.Reachable ∧ ending.conversation.canSend = true ∧
      Text.isBlankText "two" = false ∧ ending.Interrupts afterText ∧
      ¬ ending.Says "two" afterText ∧ ¬ ending.Ignores afterText) := by
  intro s ending afterBlank afterText
  have reachable : s.Reachable := reachable_awaitingReply
  have blank : s.Interrupts afterBlank := interrupts_of_refused rfl rfl (.inl (by decide))
  have pending : ending.conversation.completionPending = true := rfl
  have text : ending.Interrupts afterText := interrupts_of_refused rfl rfl (.inr pending)
  exact ⟨⟨reachable, rfl, blank, blank.not_says, blank.not_ignores⟩,
    ⟨reachable.step _, rfl, by decide, text, text.not_says, text.not_ignores⟩⟩

end Session

end Viva
