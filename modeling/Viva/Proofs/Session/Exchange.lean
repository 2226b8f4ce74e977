import Mathlib.Data.List.TakeWhile
import Viva.Proofs.Session.Reply

/-! # An exchange

The learner says something, and the server answers with a reply: tokens, and an event that ends it.
The conversation then has two messages more, and the second one is made of the tokens.
-/

namespace Viva

/-! ## The transcript of a reply -/

/-- Without an error of the server all events that mean something are told. -/
theorem Transcript.ofFrames_of_fine {frames : List Frame} {events : List Event}
    (known : frames.filterMap Event.ofFrame? = events)
    (fine : ∀ event ∈ events, event.serverFailure? = none) : ofFrames frames = ⟨events, none⟩ := by
  have all : events.takeWhile (·.serverFailure?.isNone) = events :=
    List.takeWhile_eq_self_iff.mpr fun event member => by
      rw [fine event member]
      rfl
  simp only [ofFrames, known, all, List.findSome?_eq_none_iff.mpr fine]

theorem Event.fine_of_terminal {event : Event} (terminal : event.isTerminal = true) :
    event.serverFailure? = none := by
  cases event with
  | done | messageDone => rfl
  | token | assessmentComplete | error | unknown => cases terminal

/-- No event of a reply is an error. -/
theorem Event.fine_of_mem_reply {tokens : List String} {last : Event}
    (terminal : last.isTerminal = true) {event : Event}
    (member : event ∈ tokens.map Event.token ++ [last]) : event.serverFailure? = none := by
  rcases List.mem_append.mp member with early | late
  · obtain ⟨content, -, rfl⟩ := List.mem_map.mp early
    rfl
  · rw [List.mem_singleton.mp late]
    exact fine_of_terminal terminal

theorem Transcript.ofFrames_reply {frames : List Frame} {tokens : List String} {last : Event}
    (terminal : last.isTerminal = true)
    (known : frames.filterMap Event.ofFrame? = tokens.map .token ++ [last]) :
    ofFrames frames = ⟨tokens.map .token ++ [last], none⟩ :=
  ofFrames_of_fine known fun _ => Event.fine_of_mem_reply terminal

theorem Transcript.outcome_reply (tokens : List String) {last : Event}
    (terminal : last.isTerminal = true) :
    let t := Transcript.mk (tokens.map .token ++ [last]) none
    t.outcome .response none = .ok (.completed t.done? t.tokenCount) := by
  intro t
  have complete : t.isComplete = true := by
    simp only [t, isComplete, List.any_append, List.any_cons, terminal, Bool.true_or, Bool.or_true]
  have fine : t.failure = none := rfl
  simp only [outcome, complete, fine]

namespace Conversation

theorem replying_said {c : Conversation} {content : String} (can : c.canSend = true)
    (hasText : Text.isBlankText content = false) (silent : c.isStreaming = false) :
    (c.said content).Replying (c.messages ++ [⟨messageId c.nextMessage, .learner, content, false⟩])
      (messageId (c.nextMessage + 1)) "" where
  phase := by
    simp only [canSend, beq_iff_eq] at can
    simp only [said, reduce, can, hasText, beq_self_eq_true, Bool.not_false, Bool.and_self, if_true]
    split <;> exact can
  messages := by
    rw [messages_said can hasText, newTurn, silent, List.append_assoc]
    rfl
  silent := by
    simp only [isStreaming] at silent
    simp only [List.any_append, silent, List.any_cons, List.any_nil, Bool.or_self]

/-- When the reply is over its message is closed, and its text is that of the tokens. -/
theorem Replying.complete {c : Conversation} {before : List Message} {id : String}
    (replying : c.Replying before id "") (tokens : List String) {last : Event}
    (terminal : last.isTerminal = true) :
    let after := (c.hear (tokens.map .token ++ [last])).reduce .finishStreamingMessage
    after.messages = before ++ [⟨id, .interviewer, String.join tokens, false⟩] ∧
      after.isWaiting = false := by
  refine ⟨?_, isWaiting_finishMessage _⟩
  have ended := (replying.tokens tokens).ends terminal
  rw [← hear_append, String.empty_append] at ended
  have silent : (c.hear (tokens.map .token ++ [last])).messages.any (·.isStreaming) = false := by
    rw [ended, List.any_append, replying.silent]
    rfl
  rw [messages_finish_of_silent silent, ended]

end Conversation

namespace Session

open Conversation

/-! ## The exchange -/

section
variable {s : Session} {content attemptId token : String}

/-- A message to a silent conversation without a reply under way: the call waits for the answer, and
    the conversation for the tokens. -/
theorem awaits_reply (reachable : s.Reachable) (phase : s.conversation.phase = .inProgress)
    (identified : s.conversation.attemptId = some attemptId) (idle : s.replies.isLive = false)
    (silent : s.conversation.isStreaming = false) (hasText : Text.isBlankText content = false)
    (signedIn : s.token? = some token) :
    let t := s.step (.call (.sendMessage content))
    t.calls[s.nextCall]? = some (.waiting (.headers .response s.replies.ticket)) ∧
      (t.slot .response).isCurrent s.replies.ticket = true ∧
      (t.slot .response).isCancelled s.replies.ticket = false ∧
      t.sent = s.sent ++ [⟨.call s.nextCall, .message attemptId content, token⟩] ∧
      t.lastMessage = some content ∧ t.conversation = s.conversation.said content ∧
      t.conversation.Replying
        (s.conversation.messages ++
          [⟨messageId s.conversation.nextMessage, .learner, content, false⟩])
        (messageId (s.conversation.nextMessage + 1)) "" := by
  intro t
  have can := canSend_of_inProgress phase
  have nothing := cutOff_of_idle idle
  obtain ⟨asks, said, remembered⟩ :=
    asks_of_taken reachable can (by rwa [nothing]) hasText identified signedIn
  obtain ⟨attemptId', token', identified', signedIn', sent⟩ := asks.sent
  obtain rfl := Option.some.inj (identified.symm.trans identified')
  obtain rfl := Option.some.inj (signedIn.symm.trans signedIn')
  have live := ((reachable.step (.call (.sendMessage content))).tended.slots .response).live _
    (Slot.isCurrent_iff.mp asks.owns)
  rw [nothing] at said
  refine ⟨asks.waits, asks.owns, live, sent, remembered, said, ?_⟩
  rw [said]
  exact replying_said can hasText silent

/-- A message to a silent conversation without a reply under way, while the learner is signed out:
    nothing is sent, so there will be no answer. -/
theorem unanswered_of_signedOut (reachable : s.Reachable)
    (phase : s.conversation.phase = .inProgress) (idle : s.replies.isLive = false)
    (hasText : Text.isBlankText content = false) (signedOut : s.token? = none) :
    let t := s.step (.call (.sendMessage content))
    t.sent = s.sent ∧
      ∃ failure, t.calls[s.nextCall]? = some (.returned (some (.error failure))) := by
  intro t
  have can := canSend_of_inProgress phase
  have nothing := cutOff_of_idle idle
  have spoke := says_of_taken reachable can (by rwa [nothing]) hasText
  refine spoke.asks.resolve_left fun asks => ?_
  obtain ⟨-, token, -, signedIn, -⟩ := asks.sent
  rw [signedOut] at signedIn
  cases signedIn

/-- A message and its reply. A learner who is signed out gets no answer. To one who is signed in the
    server answers with success, and with a body in which the events that mean something are tokens
    and one that ends a message. However it is cut into reads, and whatever goes on beside the call,
    the call succeeds and asks the server once; the messages are those of before, the learner's, and
    the interviewer's with the text of the tokens; and nothing is waited for. -/
theorem exchange_of_reply (reachable : s.Reachable) (phase : s.conversation.phase = .inProgress)
    (identified : s.conversation.attemptId = some attemptId) (idle : s.replies.isLive = false)
    (silent : s.conversation.isStreaming = false) (hasText : Text.isBlankText content = false)
    {code : Nat} (ok : 200 ≤ code ∧ code < 300) {reads : List (List UInt8)} {tokens : List String}
    {last : Event} (terminal : last.isTerminal = true)
    (known : (({} : FrameReader).feed reads.flatten).1.filterMap Event.ofFrame? =
      tokens.map .token ++ [last])
    {stimuli : List Stimulus}
    (exchange : stimuli.filter (!·.isBackground) = response s.nextCall code (reads.map .ok))
    (untroubled : (s.step (.call (.sendMessage content))).isUntroubled stimuli = true) :
    let asking := s.step (.call (.sendMessage content))
    let t := asking.run stimuli
    (s.token? = none → asking.sent = s.sent ∧
      ∃ failure, asking.calls[s.nextCall]? = some (.returned (some (.error failure)))) ∧
    ∀ token, s.token? = some token →
      let post := (Endpoint.message attemptId content).request s.baseUrl token
      t.calls[s.nextCall]? = some (.returned (some (.ok ()))) ∧
      (∃ new, t.sent = s.sent ++ new ∧ new.filter (·.endpoint.route != .chunks) =
        [⟨.call s.nextCall, .message attemptId content, token⟩]) ∧
      (post.method = .post ∧
        post.url = s.baseUrl ++ "/api/assessments/" ++ attemptId ++ "/message" ∧
        post.body = .json [("content", content)]) ∧
      t.conversation.messages = s.conversation.messages ++
        [⟨messageId s.conversation.nextMessage, .learner, content, false⟩,
          ⟨messageId (s.conversation.nextMessage + 1), .interviewer, String.join tokens, false⟩] ∧
      t.conversation.isWaiting = false := by
  intro asking t
  refine ⟨unanswered_of_signedOut reachable phase idle hasText, fun token signedIn => ?_⟩
  obtain ⟨here, owns, live, asked, -, -, replying⟩ :=
    awaits_reply reachable phase identified idle silent hasText signedIn
  have ends := run_response here owns live ok exchange untroubled
  rw [Body.transcript, Body.bytes_map_ok, readFailure?, Body.failure?_map_ok,
    Transcript.ofFrames_reply terminal known, Option.map_none,
    Transcript.outcome_reply tokens terminal] at ends
  obtain ⟨conversation, returned, -, parts, sent, only⟩ := ends.completed
  obtain ⟨messages, waits⟩ := replying.complete tokens terminal
  rw [← conversation] at messages waits
  -- Whatever else was sent since is a part of the recording.
  let request : Sent := ⟨.call s.nextCall, .message attemptId content, token⟩
  refine ⟨returned, ⟨[request] ++ parts, ?_, ?_⟩, ⟨rfl, rfl, rfl⟩, ?_, waits⟩
  · rw [← List.append_assoc, ← asked]
    exact sent
  · have none : parts.filter (·.endpoint.route != .chunks) = [] := by
      refine List.filter_eq_nil_iff.mpr fun request member => ?_
      rw [only request member]
      decide
    rw [List.filter_append, none]
    rfl
  · rw [List.append_assoc] at messages
    exact messages

end

/-- A reply of two tokens, with a record of an unknown name and one that cannot be decoded. -/
def replyText : String :=
  "event: token\ndata: \x7b\"content\":\"Hel\"\x7d\n\nevent: ping\ndata: \x7b\x7d\n\n" ++
    "event: token\ndata: \x7b\n\nevent: token\ndata: \x7b\"content\":\"lo\"\x7d\n\n" ++
    "event: message_done\ndata: \x7b\x7d\n\n"

/-- The reply is cut in the middle of a record, and much else happens meanwhile. -/
theorem reply_in_two_reads :
    let s := ({ baseUrl := "", tokenFile := some "t" } : Session).run
      [.call (.assign "A"), .call (.startExisting "T" ""), .dispatch .finishStreamingMessage]
    let bytes := Text.Utf8.encode replyText
    let stimuli : List Stimulus :=
      [.elapse 5, .answer 2 (.status 200), .pump, .read 2 (.bytes (bytes.take 30)), .setToken none,
        .read 2 (.bytes (bytes.drop 30)), .uploaded (.status 500), .read 2 .ended]
    let t := (s.step (.call (.sendMessage "Hello?"))).run stimuli
    s.Reachable ∧ s.conversation.phase = .inProgress ∧ s.conversation.attemptId = some "T" ∧
      t.calls[2]? = some (.returned (some (.ok ()))) ∧
      t.conversation.messages = s.conversation.messages ++
        [⟨messageId 1, .learner, "Hello?", false⟩, ⟨messageId 2, .interviewer, "Hello", false⟩] ∧
      t.conversation.isWaiting = false := by
  intro s bytes stimuli t
  have reachable : s.Reachable :=
    ⟨_, ⟨rfl, fun transport => by cases transport <;> rfl⟩, later_run _ _⟩
  have whole : [bytes.take 30, bytes.drop 30].flatten = bytes := by
    simp only [List.flatten_cons, List.flatten_nil, List.append_nil, List.take_append_drop]
  have known : (({} : FrameReader).feed bytes).1.filterMap Event.ofFrame? =
      ["Hel", "lo"].map .token ++ [.messageDone] := by decide +kernel
  rw [← whole] at known
  have hasText : Text.isBlankText "Hello?" = false := by decide
  have ok : 200 ≤ 200 ∧ 200 < 300 := by decide
  have exchange : stimuli.filter (!·.isBackground) =
      response s.nextCall 200 ([bytes.take 30, bytes.drop 30].map .ok) := rfl
  have untroubled : (s.step (.call (.sendMessage "Hello?"))).isUntroubled stimuli = true := by
    decide +kernel
  obtain ⟨-, answered⟩ := exchange_of_reply reachable rfl rfl rfl rfl hasText ok rfl known exchange
    untroubled
  obtain ⟨returned, -, -, messages, waits⟩ := answered "t" rfl
  exact ⟨reachable, rfl, rfl, returned, messages, waits⟩

end Session

end Viva
