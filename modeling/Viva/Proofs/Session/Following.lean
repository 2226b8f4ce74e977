import Viva.Proofs.Session.Recovery
import Viva.Proofs.Session.Waiting

/-! # A standing connection

A body of a standing connection holds message after message: some tokens, and an event that ends the
message. The first tokens go to the message that is open already, if there is one. After that nothing
opens a message but its own first token, so every token may open one, and only the first after an end
does.
-/

namespace Viva

/-- The events of some messages: the tokens of each, and the event that ends it. -/
def Event.ofGroups (groups : List (List String)) : List Event :=
  groups.flatMap fun tokens => tokens.map .token ++ [.messageDone]

theorem Event.ofGroups_cons (tokens : List String) (rest : List (List String)) :
    ofGroups (tokens :: rest) = (tokens.map .token ++ [.messageDone]) ++ ofGroups rest :=
  List.flatMap_cons

theorem Event.fine_of_mem_ofGroups {groups : List (List String)} {event : Event}
    (member : event ∈ ofGroups groups) : event.serverFailure? = none := by
  obtain ⟨tokens, -, inside⟩ := List.mem_flatMap.mp member
  exact fine_of_mem_reply rfl inside

namespace Conversation

/-- What groups of tokens become, each a message of its own, numbered from `next` on. -/
def turns (next : Nat) : List (List String) → List Message
  | [] => []
  | tokens :: rest =>
    ⟨messageId next, .interviewer, String.join tokens, false⟩ :: turns (next + 1) rest

/-! ## One message after the other -/

/-- The message between these receives tokens, and no other does. -/
structure Filling (c : Conversation) (before : List Message) (message : Message)
    (after : List Message) : Prop where
  phase : c.phase = .inProgress
  goesOn : c.completionPending = false
  messages : c.messages = before ++ message :: after
  streams : message.isStreaming = true
  silentBefore : before.any (·.isStreaming) = false
  silentAfter : after.any (·.isStreaming) = false

/-- The last message is complete, and the next one has not begun. -/
structure Between (c : Conversation) : Prop where
  phase : c.phase = .inProgress
  goesOn : c.completionPending = false
  silent : c.isStreaming = false

section
variable {c : Conversation} {before after : List Message} {message : Message}

theorem Filling.isStreaming (filling : c.Filling before message after) : c.isStreaming = true := by
  simp only [Conversation.isStreaming, filling.messages, List.any_append, List.any_cons,
    filling.streams, Bool.true_or, Bool.or_true]

theorem Filling.hear_token (filling : c.Filling before message after) (content : String) :
    c.hear [.token content] = c.append content :=
  hear_token_of_streams filling.isStreaming content

theorem Filling.token (filling : c.Filling before message after) (content : String) :
    (c.hear [.token content]).Filling before
      { message with content := message.content ++ content } after where
  phase := by
    rw [filling.hear_token]
    exact filling.phase
  goesOn := by
    rw [filling.hear_token]
    exact filling.goesOn
  messages := by
    rw [filling.hear_token, append, filling.messages]
    exact appendToFirst_of_silent content filling.silentBefore filling.streams after
  streams := filling.streams
  silentBefore := filling.silentBefore
  silentAfter := filling.silentAfter

theorem Filling.tokens (filling : c.Filling before message after) (tokens : List String) :
    (c.hear (tokens.map .token)).Filling before
        { message with content := message.content ++ String.join tokens } after ∧
      (c.hear (tokens.map .token)).nextMessage = c.nextMessage := by
  induction tokens generalizing c message with
  | nil =>
      rw [String.join_nil, String.append_empty]
      exact ⟨filling, rfl⟩
  | cons content rest ih =>
      obtain ⟨filled, numbered⟩ := ih (filling.token content)
      rw [List.map_cons, hear_cons, String.join_cons, ← String.append_assoc]
      refine ⟨filled, numbered.trans ?_⟩
      rw [filling.hear_token]
      rfl

/-- The end of a message closes it and changes no other. -/
theorem Filling.ends (filling : c.Filling before message after) :
    (c.hear [.messageDone]).Between ∧
      (c.hear [.messageDone]).messages =
        before ++ { message with isStreaming := false } :: after := by
  have stays : c.finishMessage = { c.closeMessages with isWaiting := false } := by
    have goesOn : c.closeMessages.completionPending = false := filling.goesOn
    simp only [finishMessage, goesOn, Bool.false_and, Bool.false_eq_true, if_false]
  have ended : c.hear [.messageDone] = { c.closeMessages with isWaiting := false } := stays
  rw [ended]
  refine ⟨⟨filling.phase, filling.goesOn, isStreaming_closeMessages c⟩, ?_⟩
  simp only [closeMessages, filling.messages, List.map_append, List.map_cons,
    close_of_silent filling.silentBefore, close_of_silent filling.silentAfter]

/-- A group of tokens fills the message that is open, and ends it. -/
theorem Filling.group (filling : c.Filling before message after) (tokens : List String) :
    let heard := c.hear (tokens.map .token ++ [.messageDone])
    heard.Between ∧ heard.nextMessage = c.nextMessage ∧
      heard.messages = before ++ ⟨message.id, message.speaker,
        message.content ++ String.join tokens, false⟩ :: after := by
  intro heard
  obtain ⟨filled, numbered⟩ := filling.tokens tokens
  obtain ⟨between, messages⟩ := filled.ends
  rw [← hear_append] at between messages
  refine ⟨between, ?_, messages⟩
  rw [← numbered]
  have parts : heard = (c.hear (tokens.map .token)).finishMessage := hear_append c _ _
  rw [parts]
  exact nextMessage_finishMessage _

/-- Where no message is open one is opened at the end. -/
theorem Between.filling (between : c.Between) :
    (c.reduce .beginInterviewerMessage).Filling c.messages
        ⟨messageId c.nextMessage, .interviewer, "", true⟩ [] ∧
      (c.reduce .beginInterviewerMessage).nextMessage = c.nextMessage + 1 := by
  have opens : c.reduce .beginInterviewerMessage =
      { c.push .interviewer "" true with isWaiting := true } := by
    simp only [reduce, between.phase, between.silent, beq_self_eq_true, Bool.not_false,
      Bool.and_self, if_true]
  rw [opens]
  exact ⟨⟨between.phase, between.goesOn, rfl, rfl, between.silent, rfl⟩, rfl⟩

/-- A message is opened by the first token or before it, that is the same. -/
theorem Between.hear_token (between : c.Between) (content : String) :
    (c.reduce .beginInterviewerMessage).hear [.token content] = c.hear [.token content] := by
  obtain ⟨filling, -⟩ := between.filling
  exact filling.hear_token content

/-- A group of tokens becomes a message of its own. -/
theorem Between.group (between : c.Between) {tokens : List String} (some : tokens ≠ []) :
    let heard := c.hear (tokens.map .token ++ [.messageDone])
    heard.Between ∧ heard.nextMessage = c.nextMessage + 1 ∧
      heard.messages = c.messages ++
        [⟨messageId c.nextMessage, .interviewer, String.join tokens, false⟩] := by
  intro heard
  obtain ⟨content, rest, rfl⟩ := List.exists_cons_of_ne_nil some
  obtain ⟨filling, numbered⟩ := between.filling
  obtain ⟨ended, next, messages⟩ := filling.group (content :: rest)
  have same : (c.reduce .beginInterviewerMessage).hear
      ((content :: rest).map .token ++ [.messageDone]) = heard := by
    rw [List.map_cons, List.cons_append, hear_cons, between.hear_token, ← hear_cons]
    rfl
  rw [same] at ended next messages
  rw [String.empty_append] at messages
  exact ⟨ended, next.trans numbered, messages⟩

/-- Every group becomes a message, and they come in their order. -/
theorem Between.groups (between : c.Between) {groups : List (List String)}
    (filled : ∀ tokens ∈ groups, tokens ≠ []) :
    (c.hear (Event.ofGroups groups)).messages = c.messages ++ turns c.nextMessage groups := by
  induction groups generalizing c with
  | nil =>
      rw [Event.ofGroups, List.flatMap_nil, turns, List.append_nil]
      rfl
  | cons tokens rest ih =>
      obtain ⟨ended, next, messages⟩ := between.group (filled tokens List.mem_cons_self)
      have more := ih ended fun other member => filled other (List.mem_cons_of_mem _ member)
      rw [Event.ofGroups_cons, hear_append, more, next, messages, List.append_assoc]
      rfl

/-- The first group fills the message that is open, and every other becomes one of its own. -/
theorem Filling.groups (filling : c.Filling before message after) (first : List String)
    {rest : List (List String)} (filled : ∀ tokens ∈ rest, tokens ≠ []) :
    (c.hear (Event.ofGroups (first :: rest))).messages =
      before ++ ⟨message.id, message.speaker, message.content ++ String.join first, false⟩ ::
        after ++ turns c.nextMessage rest := by
  obtain ⟨ended, next, messages⟩ := filling.group first
  have more := ended.groups filled
  rw [next, messages] at more
  rw [Event.ofGroups_cons, hear_append]
  exact more

/-- What ends with a message is complete, and nothing is waited for. -/
theorem rests_groups (c : Conversation) {groups : List (List String)} (some : groups ≠ []) :
    (c.hear (Event.ofGroups groups)).Rests := by
  obtain ⟨front, tokens, rfl⟩ := (List.eq_nil_or_concat groups).resolve_left some
  have last : Event.ofGroups (front ++ [tokens]) =
      (Event.ofGroups front ++ tokens.map .token) ++ [.messageDone] := by
    simp only [Event.ofGroups, List.flatMap_append, List.flatMap_cons, List.flatMap_nil,
      List.append_nil, List.append_assoc]
  rw [List.concat_eq_append, last, hear_append]
  exact rests_finishMessage _

end

end Conversation

namespace Session

open Conversation

/-! ## The connection -/

section
variable {s : Session} {attemptId token : String}

theorem step_followEvents (identified : s.conversation.attemptId = some attemptId) :
    s.step (.call .followEvents) =
      (s.withCall.openStream s.nextCall .eventSource (.stream attemptId)).settle := by
  have known : s.withCall.conversation.attemptId = some attemptId := identified
  change (s.withCall.followEvents s.nextCall).settle = _
  simp only [followEvents, known]

/-- Without a token nothing is sent, and the call fails. -/
theorem unfollowed_of_signedOut (identified : s.conversation.attemptId = some attemptId)
    (signedOut : s.token? = none) :
    let t := s.step (.call .followEvents)
    t.sent = s.sent ∧ t.calls[s.nextCall]? = some (.returned (some (.error .unauthorized))) := by
  rw [step_followEvents identified, openStream_of_no_token (s := s.withCall) signedOut]
  obtain ⟨returned, nothing⟩ := failCall_settled (s := s) (t := s.withCall.setSlot .eventSource
    ((s.withCall.slot .eventSource).start.finish (s.withCall.slot .eventSource).ticket)) rfl
    .unauthorized
  exact ⟨nothing, returned⟩

/-- The call asks for the events of the attempt, and the conversation stays as it is. -/
theorem awaits_events (reachable : s.Reachable)
    (identified : s.conversation.attemptId = some attemptId) (signedIn : s.token? = some token) :
    let t := s.step (.call .followEvents)
    t.calls[s.nextCall]? = some (.waiting (.headers .eventSource s.events.ticket)) ∧
      (t.slot .eventSource).isCurrent s.events.ticket = true ∧
      (t.slot .eventSource).isCancelled s.events.ticket = false ∧
      t.sent = s.sent ++ [⟨.call s.nextCall, .stream attemptId, token⟩] ∧
      t.conversation = s.conversation := by
  rw [step_followEvents identified, openStream_of_token (s := s.withCall) signedIn]
  have sound : (s.withCall.slot .eventSource).Sound := reachable.tended.slots .eventSource
  exact request_settled (s := s) (t := s.withCall) rfl .eventSource sound _ _

/-- What is heard of a standing connection. A learner who is signed out gets no answer. To one who is
    signed in the server answers with success, and with a body in which the events that mean
    something are groups of tokens, each with an event that ends a message. However it is cut into
    reads, and whatever goes on beside the call, the call succeeds and asks the server once. The first
    group goes to the message that is open, if there is one, and every other group becomes a message
    of its own; all that was said before stays as it was, no message receives tokens any more, and
    nothing is waited for. -/
theorem follow_of_groups (reachable : s.Reachable) (phase : s.conversation.phase = .inProgress)
    (identified : s.conversation.attemptId = some attemptId)
    (goesOn : s.conversation.completionPending = false) {code : Nat} (ok : 200 ≤ code ∧ code < 300)
    {reads : List (List UInt8)} {first : List String} {rest : List (List String)}
    (filled : ∀ tokens ∈ first :: rest, tokens ≠ [])
    (known : (({} : FrameReader).feed reads.flatten).1.filterMap Event.ofFrame? =
      Event.ofGroups (first :: rest))
    {stimuli : List Stimulus}
    (exchange : stimuli.filter (!·.isBackground) = response s.nextCall code (reads.map .ok))
    (untroubled : (s.step (.call .followEvents)).isUntroubled stimuli = true) :
    let asking := s.step (.call .followEvents)
    let t := asking.run stimuli
    let next := s.conversation.nextMessage
    (s.token? = none → asking.sent = s.sent ∧
      asking.calls[s.nextCall]? = some (.returned (some (.error .unauthorized)))) ∧
    ∀ token, s.token? = some token →
      t.calls[s.nextCall]? = some (.returned (some (.ok ()))) ∧
      (∃ new, t.sent = s.sent ++ new ∧ new.filter (·.endpoint.route != .chunks) =
        [⟨.call s.nextCall, .stream attemptId, token⟩]) ∧
      (s.conversation.isStreaming = false →
        t.conversation.messages = s.conversation.messages ++ turns next (first :: rest)) ∧
      (∀ before placeholder after, s.conversation.messages = before ++ placeholder :: after →
        placeholder.isStreaming = true → before.any (·.isStreaming) = false →
        after.any (·.isStreaming) = false →
        t.conversation.messages =
          before ++ ⟨placeholder.id, placeholder.speaker,
            placeholder.content ++ String.join first, false⟩ :: after ++ turns next rest) ∧
      t.conversation.isStreaming = false ∧ t.conversation.isWaiting = false := by
  intro asking t next
  refine ⟨unfollowed_of_signedOut identified, fun token signedIn => ?_⟩
  obtain ⟨here, owns, live, asked, same⟩ := awaits_events reachable identified signedIn
  have told := Transcript.ofFrames_of_fine known fun _ => Event.fine_of_mem_ofGroups
  have ends := run_response here owns live ok exchange untroubled
  rw [Body.transcript, Body.bytes_map_ok, readFailure?, Body.failure?_map_ok, told] at ends
  obtain ⟨conversation, returned, -, parts, sent, only⟩ := ends.closed
  rw [same] at conversation
  let request : Sent := ⟨.call s.nextCall, .stream attemptId, token⟩
  refine ⟨returned, ⟨[request] ++ parts, ?_, ?_⟩, fun silent => ?_, ?_, ?_⟩
  · rw [← List.append_assoc, ← asked]
    exact sent
  · have isStream : (request.endpoint.route != .chunks) = true := rfl
    exact filter_parts isStream only
  · have between : s.conversation.Between := ⟨phase, goesOn, silent⟩
    rw [conversation]
    exact between.groups filled
  · intro before placeholder after messages streams silentBefore silentAfter
    have filling : s.conversation.Filling before placeholder after :=
      ⟨phase, goesOn, messages, streams, silentBefore, silentAfter⟩
    rw [conversation]
    exact filling.groups first fun tokens member => filled tokens (List.mem_cons_of_mem _ member)
  · rw [conversation]
    exact rests_groups s.conversation (List.cons_ne_nil first rest)

end

/-- Two messages, the first one of two tokens. -/
def eventsText : String :=
  "event: token\ndata: \x7b\"content\":\"Hel\"\x7d\n\nevent: token\ndata: \x7b\"content\":\"lo\"\x7d\n\n" ++
    "event: message_done\n\nevent: token\r\ndata: \x7b\"content\":\"Bye\"\x7d\r\n\r\nevent: message_done\n\n"

/-- The message that is open was followed by another when its first token comes, and much else
    happens meanwhile. -/
theorem followed_into_placeholder :
    let s := ({ baseUrl := "", tokenFile := some "t" } : Session).run
      [.call (.assign "A"), .call (.startExisting "T" ""), .dispatch (.addSystemMessage "note")]
    let bytes := Text.Utf8.encode eventsText
    let stimuli : List Stimulus :=
      [.answer 2 (.status 200), .pump, .read 2 (.bytes (bytes.take 30)), .setToken none,
        .read 2 (.bytes (bytes.drop 30)), .elapse 5, .read 2 .ended]
    let t := (s.step (.call .followEvents)).run stimuli
    s.Reachable ∧ s.conversation.phase = .inProgress ∧ s.conversation.attemptId = some "T" ∧
      s.conversation.completionPending = false ∧
      t.calls[2]? = some (.returned (some (.ok ()))) ∧
      t.conversation.messages =
        [⟨messageId 0, .interviewer, "Hello", false⟩, ⟨messageId 1, .system, "note", false⟩,
          ⟨messageId 2, .interviewer, "Bye", false⟩] ∧
      t.conversation.isStreaming = false ∧ t.conversation.isWaiting = false := by
  intro s bytes stimuli t
  have reachable : s.Reachable :=
    ⟨_, ⟨rfl, fun transport => by cases transport <;> rfl⟩, later_run _ _⟩
  have whole : [bytes.take 30, bytes.drop 30].flatten = bytes := by
    simp only [List.flatten_cons, List.flatten_nil, List.append_nil, List.take_append_drop]
  have known : (({} : FrameReader).feed bytes).1.filterMap Event.ofFrame? =
      Event.ofGroups [["Hel", "lo"], ["Bye"]] := by decide +kernel
  rw [← whole] at known
  have filled : ∀ tokens ∈ [["Hel", "lo"], ["Bye"]], tokens ≠ [] := by decide
  have ok : 200 ≤ 200 ∧ 200 < 300 := by decide
  have exchange : stimuli.filter (!·.isBackground) =
      response s.nextCall 200 ([bytes.take 30, bytes.drop 30].map .ok) := rfl
  have untroubled : (s.step (.call .followEvents)).isUntroubled stimuli = true := by
    decide +kernel
  obtain ⟨-, answered⟩ := follow_of_groups reachable rfl rfl rfl ok filled known exchange untroubled
  obtain ⟨returned, -, -, fills, silent, waits⟩ := answered "t" rfl
  exact ⟨reachable, rfl, rfl, rfl, returned,
    fills [] ⟨messageId 0, .interviewer, "", true⟩ [⟨messageId 1, .system, "note", false⟩]
      rfl rfl rfl rfl,
    silent, waits⟩

end Session

end Viva
