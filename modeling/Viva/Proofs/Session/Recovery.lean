import Viva.Proofs.Session.Exchange

/-! # A broken reply and its recovery

A reply that breaks off before the event that ends it leaves its tokens as a message of the
interviewer. Doing it again adds nothing of the learner's: the same text is sent once more, and the
whole reply becomes one more message behind the broken one.
-/

namespace Viva

/-- What an event adds to the interviewer's message. -/
def Event.content? : Event → Option String
  | token content => some content
  | _ => none

namespace Transcript

/-- The text of the tokens. -/
def text (t : Transcript) : String :=
  String.join (t.events.filterMap Event.content?)

theorem isTerminal_of_mem {t : Transcript} (incomplete : t.isComplete = false) :
    ∀ event ∈ t.events, event.isTerminal = false := by
  rw [isComplete, List.any_eq_false] at incomplete
  exact fun event member => Bool.eq_false_iff.mpr (incomplete event member)

/-- The answer to a message has to end one. -/
theorem outcome_of_incomplete {t : Transcript} (incomplete : t.isComplete = false)
    (readFailure : Option String) : ∃ failure, t.outcome .response readFailure = .error failure := by
  unfold outcome
  cases t.failure with
  | some failure => exact ⟨failure, rfl⟩
  | none =>
      cases readFailure with
      | some text => exact ⟨.network text, rfl⟩
      | none => exact ⟨.streamIncomplete, by rw [incomplete]⟩

end Transcript

namespace Conversation

/-- The messages are numbered and belong to an attempt as before, and as much has gone wrong. -/
structure SameCourse (c c' : Conversation) : Prop where
  nextMessage : c'.nextMessage = c.nextMessage
  attemptId : c'.attemptId = c.attemptId
  error : c'.error = c.error

theorem SameCourse.refl (c : Conversation) : c.SameCourse c :=
  ⟨rfl, rfl, rfl⟩

theorem SameCourse.trans {a b c : Conversation} (first : a.SameCourse b) (second : b.SameCourse c) :
    a.SameCourse c :=
  ⟨second.nextMessage.trans first.nextMessage, second.attemptId.trans first.attemptId,
    second.error.trans first.error⟩

theorem error_finishMessage (c : Conversation) : c.finishMessage.error = c.error := by
  unfold finishMessage
  dsimp only
  split <;> rfl

theorem error_signalCompletion (c : Conversation) (evaluationId : Option String) :
    (c.signalCompletion evaluationId).error = c.error := by
  unfold signalCompletion
  dsimp only
  split
  · split <;> rfl
  · rfl

/-- No event of a stream is an error of the conversation. -/
theorem error_hear (c : Conversation) (events : List Event) :
    (c.hear events).error = c.error := by
  induction events generalizing c with
  | nil => rfl
  | cons event rest ih =>
      rw [hear_cons, ih]
      cases event with
      | token content =>
          simp only [hear, Event.actions, List.flatMap_cons, List.flatMap_nil, List.append_nil,
            List.foldl_cons, List.foldl_nil, reduce]
          split <;> rfl
      | done payload => exact error_finishMessage _
      | messageDone => exact error_finishMessage c
      | assessmentComplete evaluationId => exact error_signalCompletion c evaluationId
      | error | unknown => rfl

section
variable {c : Conversation} {before : List Message} {id text : String}

/-- An event that does not end the reply leaves its message open. -/
theorem Replying.event (replying : c.Replying before id text) {event : Event}
    (goesOn : event.isTerminal = false) :
    (c.hear [event]).Replying before id (text ++ String.join event.content?.toList) ∧
      c.SameCourse (c.hear [event]) := by
  cases event with
  | done | messageDone => cases goesOn
  | token content =>
      have added := replying.token content
      rw [replying.hear_token] at added ⊢
      simp only [Event.content?, Option.toList_some, String.join_cons, String.join_nil,
        String.append_empty]
      exact ⟨added, rfl, rfl, rfl⟩
  | assessmentComplete evaluationId =>
      rw [replying.hear_signal]
      simp only [Event.content?, Option.toList_none, String.join_nil, String.append_empty]
      exact ⟨⟨replying.phase, replying.messages, replying.silent⟩, rfl, rfl, rfl⟩
  | error | unknown =>
      simp only [Event.content?, Option.toList_none, String.join_nil, String.append_empty]
      exact ⟨replying, .refl c⟩

/-- Until an event ends the reply its message takes the text of the tokens. -/
theorem Replying.events (replying : c.Replying before id text) {events : List Event}
    (goOn : ∀ event ∈ events, event.isTerminal = false) :
    (c.hear events).Replying before id (text ++ String.join (events.filterMap Event.content?)) ∧
      c.SameCourse (c.hear events) := by
  induction events generalizing c text with
  | nil => simpa [hear] using ⟨replying, SameCourse.refl c⟩
  | cons event rest ih =>
      obtain ⟨first, same⟩ := replying.event (goOn event List.mem_cons_self)
      obtain ⟨more, sameMore⟩ := ih first fun other later => goOn other (List.mem_cons_of_mem _ later)
      have contents : (event :: rest).filterMap Event.content? =
          event.content?.toList ++ rest.filterMap Event.content? := by
        cases content : event.content? with
        | none => rw [List.filterMap_cons_none content]; rfl
        | some value => rw [List.filterMap_cons_some content]; rfl
      rw [hear_cons, contents, String.join_append, ← String.append_assoc]
      exact ⟨more, same.trans sameMore⟩

theorem nextMessage_said {content : String} (can : c.canSend = true)
    (hasText : Text.isBlankText content = false) (silent : c.isStreaming = false) :
    (c.said content).nextMessage = c.nextMessage + 2 := by
  simp only [canSend] at can
  simp only [isStreaming] at silent
  simp [said, reduce, can, hasText, isStreaming, silent, push]

theorem nextMessage_setError (c : Conversation) (failure : String) :
    (c.reduce (.setError failure)).nextMessage = c.nextMessage := by
  simp only [reduce]
  split <;> rfl

/-- A reply has broken off: its message is closed as it was, and the learner knows. -/
structure Broken (c : Conversation) (kept : List Message) (text : String) : Prop where
  phase : c.phase = .error
  error : c.error = some text
  messages : c.messages = kept
  silent : kept.any (·.isStreaming) = false
  isWaiting : c.isWaiting = false

theorem Replying.broken (replying : c.Replying before id text) (failure : String) :
    (c.reduce (.setError failure)).Broken (before ++ [⟨id, .interviewer, text, false⟩]) failure := by
  have notOver : (c.phase == .completed) = false := by
    rw [replying.phase]
    rfl
  have closes : c.reduce (.setError failure) =
      { c.closeMessages with phase := .error, error := some failure, isWaiting := false } := by
    simp only [reduce, notOver, Bool.false_eq_true, if_false]
  rw [closes]
  refine ⟨rfl, rfl, ?_, ?_, rfl⟩
  · simp only [closeMessages, replying.messages, List.map_append, close_of_silent replying.silent]
    rfl
  · rw [List.any_append, replying.silent]
    rfl

/-- The conversation when what the learner said is asked again. -/
def askedAgain (c : Conversation) : Conversation :=
  (c.reduce .clearError).reduce .beginInterviewerMessage

/-- Asking again opens one more message of the interviewer, and the failure is forgotten. -/
theorem Broken.askedAgain {kept : List Message} (broken : c.Broken kept text)
    (identified : c.attemptId.isSome = true) :
    c.askedAgain.Replying kept (messageId c.nextMessage) "" ∧ c.askedAgain.error = none ∧
      c.askedAgain.attemptId = c.attemptId := by
  have silent : ({ c with error := none, phase := .inProgress } : Conversation).isStreaming =
      false := by
    simp only [isStreaming, broken.messages, broken.silent]
  have cleared : c.reduce .clearError = { c with error := none, phase := .inProgress } := by
    simp only [reduce, broken.error, Option.isSome_some, identified, if_true]
  have asked : c.askedAgain =
      { ({ c with error := none, phase := .inProgress } : Conversation).push .interviewer "" true with
        isWaiting := true } := by
    rw [Conversation.askedAgain, cleared]
    simp only [reduce, silent, beq_self_eq_true, Bool.not_false, Bool.and_self, if_true]
  rw [asked]
  refine ⟨⟨rfl, ?_, broken.silent⟩, rfl, rfl⟩
  simp only [push, broken.messages]

end

end Conversation

namespace Session

open Conversation

/-! ## Asking again -/

/-- Forgets a failure, and opens a message for the reply. -/
def askAgain (s : Session) : Session :=
  (s.dispatch .clearError).dispatch .beginInterviewerMessage

theorem conversation_askAgain (s : Session) :
    s.askAgain.conversation = s.conversation.askedAgain := by
  have last : s.askAgain.conversation =
      (s.dispatch .clearError).conversation.reduce .beginInterviewerMessage :=
    conversation_dispatch _ _
  rw [last, conversation_dispatch, askedAgain]

theorem askAgain_keeps (s : Session) :
    s.askAgain.replies = s.replies ∧ s.askAgain.sent = s.sent ∧ s.askAgain.token? = s.token? ∧
      s.askAgain.calls = s.calls :=
  ⟨rfl, rfl, rfl, rfl⟩

section
variable {s : Session} {content attemptId token text : String} {kept : List Message}

/-- What the learner said last is asked again. -/
theorem retry_broken (broken : s.conversation.Broken kept text)
    (identified : s.conversation.attemptId = some attemptId)
    (remembered : s.lastMessage = some content) (id : Nat) :
    s.retry id = s.askAgain.openStream id .response (.message attemptId content) := by
  have known : s.conversation.attemptId.isSome = true := by rw [identified]; rfl
  obtain ⟨replying, -, same⟩ := broken.askedAgain known
  have cleared : (s.dispatch .clearError).conversation.canSend = true := by
    rw [conversation_dispatch, canSend]
    simp only [reduce, broken.error, Option.isSome_some, known, if_true, beq_self_eq_true]
  have attempt : s.askAgain.conversation.attemptId = some attemptId := by
    rw [conversation_askAgain, same, identified]
  have failed : (s.conversation.phase != .error) = false := by
    rw [broken.phase]
    rfl
  simp only [retry, failed, Bool.false_eq_true, if_false, remembered, cleared, if_true, streamReply]
  rw [askAgain] at attempt ⊢
  rw [attempt]

theorem step_retry (broken : s.conversation.Broken kept text)
    (identified : s.conversation.attemptId = some attemptId)
    (remembered : s.lastMessage = some content) :
    s.step (.call .retry) =
      (s.withCall.askAgain.openStream s.nextCall .response (.message attemptId content)).settle :=
  congrArg settle (retry_broken (s := s.withCall) broken identified remembered s.nextCall)

/-- With a token the request is sent once more, and its call waits for the answer. -/
theorem asks_again (reachable : s.Reachable) (broken : s.conversation.Broken kept text)
    (identified : s.conversation.attemptId = some attemptId)
    (remembered : s.lastMessage = some content) (signedIn : s.token? = some token) :
    let t := s.step (.call .retry)
    t.calls[s.nextCall]? = some (.waiting (.headers .response s.replies.ticket)) ∧
      (t.slot .response).isCurrent s.replies.ticket = true ∧
      (t.slot .response).isCancelled s.replies.ticket = false ∧
      t.sent = s.sent ++ [⟨.call s.nextCall, .message attemptId content, token⟩] ∧
      t.conversation.Replying kept (messageId s.conversation.nextMessage) "" ∧
      t.conversation.error = none := by
  have known : s.conversation.attemptId.isSome = true := by rw [identified]; rfl
  obtain ⟨replying, forgotten, -⟩ := broken.askedAgain known
  obtain ⟨replies, sent, sameToken, calls⟩ := askAgain_keeps s.withCall
  have slot : s.withCall.askAgain.slot .response = s.slot .response := replies
  have sound : (s.withCall.askAgain.slot .response).Sound := by
    rw [slot]
    exact reachable.tended.slots .response
  rw [step_retry broken identified remembered, openStream_of_token (sameToken.trans signedIn)]
  obtain ⟨waits, owns, live, asked, same⟩ := request_settled (s := s) (t := s.withCall.askAgain)
    calls .response sound (.message attemptId content) token
  rw [slot] at waits owns live
  rw [sent] at asked
  rw [conversation_askAgain] at same
  refine ⟨waits, owns, live, asked, ?_, ?_⟩
  · rw [same]
    exact replying
  · rw [same]
    exact forgotten

/-- Without a token nothing is sent, and the call fails. -/
theorem unanswered_again (broken : s.conversation.Broken kept text)
    (identified : s.conversation.attemptId = some attemptId)
    (remembered : s.lastMessage = some content) (signedOut : s.token? = none) :
    let t := s.step (.call .retry)
    t.sent = s.sent ∧
      t.calls[s.nextCall]? = some (.returned (some (.error .unauthorized))) := by
  obtain ⟨-, sent, token, calls⟩ := askAgain_keeps s.withCall
  rw [step_retry broken identified remembered, openStream_of_no_token (token.trans signedOut)]
  obtain ⟨returned, nothing⟩ := failCall_settled (s := s) (t := s.withCall.askAgain.setSlot
    .response (s.withCall.askAgain.replies.start.finish s.withCall.askAgain.replies.ticket))
    calls .unauthorized
  exact ⟨nothing.trans sent, returned⟩

end

/-! ## The recovery -/

/-- Nothing but parts of the recording was sent beside one request. -/
theorem filter_parts {request : Sent} {parts : List Sent}
    (isReply : (request.endpoint.route != .chunks) = true)
    (only : ∀ part ∈ parts, part.endpoint.route = .chunks) :
    ([request] ++ parts).filter (·.endpoint.route != .chunks) = [request] := by
  have none : parts.filter (·.endpoint.route != .chunks) = [] := by
    refine List.filter_eq_nil_iff.mpr fun part member => ?_
    rw [only part member]
    decide
  have one : [request].filter (·.endpoint.route != .chunks) = [request] :=
    List.filter_cons_of_pos isReply
  rw [List.filter_append, none, one, List.append_nil]

section
variable {s : Session} {content attemptId : String}

/-- A reply breaks off: the call fails, and the conversation keeps the learner's message and the
    tokens. -/
theorem breaks_off (reachable : s.Reachable) (phase : s.conversation.phase = .inProgress)
    (identified : s.conversation.attemptId = some attemptId) (idle : s.replies.isLive = false)
    (silent : s.conversation.isStreaming = false) (hasText : Text.isBlankText content = false)
    {code : Nat} (ok : 200 ≤ code ∧ code < 300) {body : Body}
    (incomplete : body.transcript.isComplete = false) {stimuli : List Stimulus}
    (exchange : stimuli.filter (!·.isBackground) = response s.nextCall code body)
    (untroubled : (s.step (.call (.sendMessage content))).isUntroubled stimuli = true)
    {token : String} (signedIn : s.token? = some token) :
    let t := (s.step (.call (.sendMessage content))).run stimuli
    ∃ failure, body.transcript.outcome .response (readFailure? body) = .error failure ∧
      t.calls[s.nextCall]? = some (.returned (some (.error failure))) ∧
      t.conversation.Broken (s.conversation.messages ++
        [⟨messageId s.conversation.nextMessage, .learner, content, false⟩,
          ⟨messageId (s.conversation.nextMessage + 1), .interviewer, body.transcript.text, false⟩])
        failure.learnerMessage ∧
      t.conversation.nextMessage = s.conversation.nextMessage + 2 ∧
      t.conversation.attemptId = some attemptId ∧ t.lastMessage = some content := by
  intro t
  have can := canSend_of_inProgress phase
  obtain ⟨here, owns, live, -, remembered, said, replying⟩ :=
    awaits_reply reachable phase identified idle silent hasText signedIn
  obtain ⟨failure, outcome⟩ := Transcript.outcome_of_incomplete incomplete (readFailure? body)
  have ends := run_response here owns live ok exchange untroubled
  rw [outcome] at ends
  obtain ⟨conversation, returned, remembers, -⟩ := ends.failed
  obtain ⟨heard, same⟩ := replying.events (Transcript.isTerminal_of_mem incomplete)
  have broken := heard.broken failure.learnerMessage
  rw [← conversation, String.empty_append, List.append_assoc] at broken
  refine ⟨failure, outcome, returned, broken, ?_, ?_, remembers.trans remembered⟩
  · rw [conversation, nextMessage_setError, same.nextMessage, said,
      nextMessage_said can hasText silent]
  · rw [conversation, attemptId_setError, same.attemptId, said, attemptId_said, identified]

/-- What was broken is asked again, and this time the reply is whole: it becomes one more message,
    and nothing has gone wrong any more. -/
theorem recovers (reachable : s.Reachable) {kept : List Message} {text : String}
    (broken : s.conversation.Broken kept text)
    (identified : s.conversation.attemptId = some attemptId)
    (remembered : s.lastMessage = some content) {code : Nat} (ok : 200 ≤ code ∧ code < 300)
    {reads : List (List UInt8)} {tokens : List String} {last : Event}
    (terminal : last.isTerminal = true)
    (known : (({} : FrameReader).feed reads.flatten).1.filterMap Event.ofFrame? =
      tokens.map .token ++ [last])
    {stimuli : List Stimulus}
    (exchange : stimuli.filter (!·.isBackground) = response s.nextCall code (reads.map .ok))
    (untroubled : (s.step (.call .retry)).isUntroubled stimuli = true)
    {token : String} (signedIn : s.token? = some token) :
    let t := (s.step (.call .retry)).run stimuli
    t.calls[s.nextCall]? = some (.returned (some (.ok ()))) ∧
      (∃ new, t.sent = s.sent ++ new ∧ new.filter (·.endpoint.route != .chunks) =
        [⟨.call s.nextCall, .message attemptId content, token⟩]) ∧
      t.conversation.messages = kept ++
        [⟨messageId s.conversation.nextMessage, .interviewer, String.join tokens, false⟩] ∧
      t.conversation.error = none ∧ t.conversation.isWaiting = false := by
  intro t
  obtain ⟨here, owns, live, asked, replying, forgotten⟩ :=
    asks_again reachable broken identified remembered signedIn
  have ends := run_response here owns live ok exchange untroubled
  rw [Body.transcript, Body.bytes_map_ok, readFailure?, Body.failure?_map_ok,
    Transcript.ofFrames_reply terminal known, Option.map_none,
    Transcript.outcome_reply tokens terminal] at ends
  obtain ⟨conversation, returned, -, parts, sent, only⟩ := ends.completed
  obtain ⟨messages, waits⟩ := replying.complete tokens terminal
  have fine : t.conversation.error = none := by
    rw [conversation]
    exact (error_finishMessage _).trans ((error_hear _ _).trans forgotten)
  rw [← conversation] at messages waits
  let request : Sent := ⟨.call s.nextCall, .message attemptId content, token⟩
  refine ⟨returned, ⟨[request] ++ parts, ?_, ?_⟩, messages, fine, waits⟩
  · rw [← List.append_assoc, ← asked]
    exact sent
  · have isReply : (request.endpoint.route != .chunks) = true := rfl
    exact filter_parts isReply only

/-- A reply that breaks off, and its recovery. The server accepts the message, but its body is over,
    cannot be read any further or reports an error before an event that ends a message. Then the call
    fails with what went wrong, and the tokens so far stay as a message. Doing it again sends the
    same request once more. With a reply that is whole this succeeds: the messages are those of
    before, the learner's, the broken one and the whole one, the failure is forgotten, and nothing is
    waited for. -/
theorem recovery_of_reply (reachable : s.Reachable) (phase : s.conversation.phase = .inProgress)
    (identified : s.conversation.attemptId = some attemptId) (idle : s.replies.isLive = false)
    (silent : s.conversation.isStreaming = false) (hasText : Text.isBlankText content = false)
    {code : Nat} (ok : 200 ≤ code ∧ code < 300) {body : Body}
    (incomplete : body.transcript.isComplete = false) {first : List Stimulus}
    (exchange : first.filter (!·.isBackground) = response s.nextCall code body)
    (untroubled : (s.step (.call (.sendMessage content))).isUntroubled first = true) :
    let asking := s.step (.call (.sendMessage content))
    let failed := asking.run first
    let asksAgain := failed.step (.call .retry)
    let learner := Message.mk (messageId s.conversation.nextMessage) .learner content false
    let broken := Message.mk (messageId (s.conversation.nextMessage + 1)) .interviewer
      body.transcript.text false
    (s.token? = none → asking.sent = s.sent ∧
      ∃ failure, asking.calls[s.nextCall]? = some (.returned (some (.error failure)))) ∧
    ∀ token, s.token? = some token →
      (∃ failure, body.transcript.outcome .response (readFailure? body) = .error failure ∧
        failed.calls[s.nextCall]? = some (.returned (some (.error failure))) ∧
        failed.conversation.phase = .error ∧
        failed.conversation.error = some failure.learnerMessage) ∧
      failed.conversation.messages = s.conversation.messages ++ [learner, broken] ∧
      failed.conversation.isWaiting = false ∧
      (failed.token? = none → asksAgain.sent = failed.sent ∧
        asksAgain.calls[failed.nextCall]? = some (.returned (some (.error .unauthorized)))) ∧
      ∀ again, failed.token? = some again →
        ∀ (code' : Nat) (reads : List (List UInt8)) (tokens : List String) (last : Event)
          (second : List Stimulus), 200 ≤ code' ∧ code' < 300 → last.isTerminal = true →
          (({} : FrameReader).feed reads.flatten).1.filterMap Event.ofFrame? =
            tokens.map .token ++ [last] →
          second.filter (!·.isBackground) = response failed.nextCall code' (reads.map .ok) →
          asksAgain.isUntroubled second = true →
          let t := asksAgain.run second
          let post := (Endpoint.message attemptId content).request failed.baseUrl again
          t.calls[failed.nextCall]? = some (.returned (some (.ok ()))) ∧
          (∃ new, t.sent = failed.sent ++ new ∧ new.filter (·.endpoint.route != .chunks) =
            [⟨.call failed.nextCall, .message attemptId content, again⟩]) ∧
          (post.method = .post ∧
            post.url = failed.baseUrl ++ "/api/assessments/" ++ attemptId ++ "/message" ∧
            post.body = .json [("content", content)]) ∧
          t.conversation.messages = s.conversation.messages ++
            [learner, broken, ⟨messageId (s.conversation.nextMessage + 2), .interviewer,
              String.join tokens, false⟩] ∧
          t.conversation.error = none ∧ t.conversation.isWaiting = false := by
  intro asking failed asksAgain learner broken
  refine ⟨unanswered_of_signedOut reachable phase idle hasText, fun token signedIn => ?_⟩
  obtain ⟨failure, outcome, returned, breaks, next, attempt, remembered⟩ :=
    breaks_off reachable phase identified idle silent hasText ok incomplete exchange untroubled
      signedIn
  have reachesFailed : failed.Reachable := (reachable.step _).run first
  refine ⟨⟨failure, outcome, returned, breaks.phase, breaks.error⟩, breaks.messages,
    breaks.isWaiting, unanswered_again breaks attempt remembered, ?_⟩
  intro again signedInAgain code' reads tokens last second ok' terminal known exchangeAgain fine
  obtain ⟨succeeded, sent, messages, forgotten, waits⟩ :=
    recovers reachesFailed breaks attempt remembered ok' terminal known exchangeAgain fine
      signedInAgain
  rw [next, List.append_assoc] at messages
  exact ⟨succeeded, sent, ⟨rfl, rfl, rfl⟩, messages, forgotten, waits⟩

end

/-- The connection breaks in the middle of a record. The token before it stays, and the whole reply
    comes behind it. -/
theorem recovery_after_reset :
    let s := ({ baseUrl := "", tokenFile := some "t" } : Session).run
      [.call (.assign "A"), .call (.startExisting "T" ""), .dispatch .finishStreamingMessage]
    let bytes := Text.Utf8.encode replyText
    let first : List Stimulus :=
      [.answer 2 (.status 200), .read 2 (.bytes (bytes.take 60)), .elapse 5,
        .read 2 (.failure "reset"), .read 2 .ended]
    let failed := (s.step (.call (.sendMessage "Hello?"))).run first
    let second : List Stimulus := [.answer 3 (.status 200), .read 3 (.bytes bytes), .read 3 .ended]
    let t := (failed.step (.call .retry)).run second
    s.Reachable ∧ failed.conversation.phase = .error ∧
      t.calls[3]? = some (.returned (some (.ok ()))) ∧
      t.conversation.messages = s.conversation.messages ++
        [⟨messageId 1, .learner, "Hello?", false⟩, ⟨messageId 2, .interviewer, "Hel", false⟩,
          ⟨messageId 3, .interviewer, "Hello", false⟩] ∧
      t.conversation.error = none ∧ t.conversation.isWaiting = false := by
  intro s bytes first failed second t
  have reachable : s.Reachable :=
    ⟨_, ⟨rfl, fun transport => by cases transport <;> rfl⟩, later_run _ _⟩
  have hasText : Text.isBlankText "Hello?" = false := by decide
  have ok : 200 ≤ 200 ∧ 200 < 300 := by decide
  let body : Body := [.ok (bytes.take 60), .error "reset"]
  have incomplete : body.transcript.isComplete = false := by decide +kernel
  have text : body.transcript.text = "Hel" := by decide +kernel
  have exchange : first.filter (!·.isBackground) = response s.nextCall 200 body := rfl
  have untroubled : (s.step (.call (.sendMessage "Hello?"))).isUntroubled first = true := by
    decide +kernel
  obtain ⟨-, fails⟩ := recovery_of_reply reachable rfl rfl rfl rfl hasText ok incomplete exchange
    untroubled
  obtain ⟨⟨failure, -, -, phase, -⟩, -, -, -, recovers⟩ := fails "t" rfl
  have known : (({} : FrameReader).feed [bytes].flatten).1.filterMap Event.ofFrame? =
      ["Hel", "lo"].map .token ++ [.messageDone] := by decide +kernel
  have signedIn : failed.token? = some "t" := by decide +kernel
  have calls : failed.nextCall = 3 := by decide +kernel
  have exchangeAgain : second.filter (!·.isBackground) =
      response failed.nextCall 200 ([bytes].map .ok) := by
    rw [calls]
    rfl
  have fine : (failed.step (.call .retry)).isUntroubled second = true := by decide +kernel
  obtain ⟨returned, -, -, messages, forgotten, waits⟩ :=
    recovers "t" signedIn 200 [bytes] ["Hel", "lo"] .messageDone second ok rfl known exchangeAgain
      fine
  rw [calls] at returned
  rw [text] at messages
  exact ⟨reachable, phase, returned, messages, forgotten, waits⟩

end Session

end Viva
