import Mathlib.Data.List.Induction
import Viva.Proofs.Session.Conduct
import Viva.Proofs.Session.Signalling
import Viva.Proofs.Session.Waiting

/-! # The end of a standing connection

When a reply is over its message is closed. When the server closes a standing connection no message
is closed: one that had not come to its end stays open, the answer is still awaited, and the next
reply goes into it.
-/

namespace Viva

/-- These events leave a message open: none has ended since the last token. -/
def Event.leavesOpen (events : List Event) : Bool :=
  events.foldl (fun isOpen event => event.isToken || (isOpen && !event.isTerminal)) false

theorem Event.leavesOpen_concat (events : List Event) (event : Event) :
    leavesOpen (events ++ [event]) =
      (event.isToken || (leavesOpen events && !event.isTerminal)) := by
  rw [leavesOpen, List.foldl_append]
  rfl

namespace Conversation

section
variable (c : Conversation)

/-! ## One event -/

/-- A message is opened while the learner and the interviewer talk, unless one is open. -/
theorem isStreaming_begin :
    (c.reduce .beginInterviewerMessage).isStreaming =
      (c.isStreaming || c.phase == .inProgress) := by
  cases streams : c.isStreaming <;> cases talking : c.phase == .inProgress <;>
    simp [reduce, talking, streams]
  simp [isStreaming, push]

theorem phase_begin : (c.reduce .beginInterviewerMessage).phase = c.phase := by
  simp only [reduce]
  split <;> rfl

theorem isWaiting_begin :
    (c.reduce .beginInterviewerMessage).isWaiting =
      (c.isWaiting || (c.phase == .inProgress && !c.isStreaming)) := by
  cases opens : c.phase == .inProgress && !c.isStreaming <;> simp [reduce, opens]

theorem isStreaming_hear_token (content : String) :
    (c.hear [.token content]).isStreaming = (c.isStreaming || c.phase == .inProgress) :=
  (isStreaming_append _ content).trans (isStreaming_begin c)

theorem isStreaming_signalCompletion (evaluationId : Option String) :
    (c.signalCompletion evaluationId).isStreaming = c.isStreaming := by
  rw [isStreaming, messages_signalCompletion, isStreaming]

/-- The signal ends the talk, unless a message is open. -/
theorem phase_signalCompletion (evaluationId : Option String) :
    (c.signalCompletion evaluationId).phase =
      if c.phase == .inProgress && !c.isStreaming then .closureReady else c.phase := by
  have same : ({ c with evaluationId := fill c.evaluationId evaluationId } :
    Conversation).isStreaming = c.isStreaming := rfl
  cases streams : c.isStreaming <;> cases talking : c.phase == .inProgress <;>
    simp [signalCompletion, streams, talking, same]

/-- So it ends no talk in which a message is open. -/
theorem talk_signalCompletion {c : Conversation} {isOpen : Bool}
    (streams : (isOpen && c.phase == .inProgress) = true → c.isStreaming = true)
    (evaluationId : Option String) :
    (isOpen && (c.signalCompletion evaluationId).phase == .inProgress) =
      (isOpen && c.phase == .inProgress) := by
  cases isOpen with
  | false => rfl
  | true =>
      rw [phase_signalCompletion]
      split
      · rename_i isOver
        rw [Bool.and_eq_true, beq_iff_eq] at isOver
        rw [streams (beq_iff_eq.mpr isOver.1)] at isOver
        cases isOver.2
      · rfl

theorem isWaiting_signalCompletion (evaluationId : Option String) :
    (c.signalCompletion evaluationId).isWaiting = c.isWaiting := by
  unfold signalCompletion
  dsimp only
  split
  · split <;> rfl
  · rfl

theorem rests_of_terminal {last : Event} (terminal : last.isTerminal = true) :
    (c.hear [last]).Rests := by
  cases last with
  | done | messageDone => exact rests_finishMessage _
  | token | assessmentComplete | error | unknown => cases terminal

/-! ## What some events leave -/

/-- A message receives tokens after some events if one did before and none has ended since, or if
    they leave one open; that takes a talk that still goes on. -/
theorem isStreaming_hear (events : List Event) :
    (c.hear events).isStreaming =
      (c.isStreaming && events.all (!·.isTerminal) ||
        Event.leavesOpen events && (c.hear events).phase == .inProgress) := by
  induction events using List.reverseRecOn with
  | nil => simp [hear, Event.leavesOpen]
  | append_singleton events event ih =>
      rw [hear_append, Event.leavesOpen_concat, List.all_append]
      generalize c.hear events = now at ih ⊢
      cases event with
      | token content =>
          have talk : (now.hear [.token content]).phase = now.phase := phase_begin now
          rw [isStreaming_hear_token, talk, ih]
          cases now.phase == .inProgress <;> simp [Event.isToken, Event.isTerminal]
      | assessmentComplete evaluationId =>
          have streams : (Event.leavesOpen events && now.phase == .inProgress) = true →
              now.isStreaming = true := fun left => by rw [ih, left, Bool.or_true]
          have heard : now.hear [.assessmentComplete evaluationId] =
            now.signalCompletion evaluationId := rfl
          rw [heard, isStreaming_signalCompletion, ih]
          simp [Event.isToken, Event.isTerminal, talk_signalCompletion streams]
      | done | messageDone =>
          rw [(rests_of_terminal now rfl).1]
          simp [Event.isToken, Event.isTerminal]
      | error | unknown =>
          simpa [Event.isToken, Event.isTerminal, hear, Event.actions] using ih

end

/-- The same holds for the answer that is awaited. -/
theorem Sound.isWaiting_hear {c : Conversation} (sound : c.Sound) (events : List Event) :
    (c.hear events).isWaiting =
      (c.isWaiting && events.all (!·.isTerminal) ||
        Event.leavesOpen events && (c.hear events).phase == .inProgress) := by
  induction events using List.reverseRecOn with
  | nil => simp [hear, Event.leavesOpen]
  | append_singleton events event ih =>
      have opens := isStreaming_hear c events
      have awaited := (sound.foldl (events.flatMap Event.actions)).awaited
      rw [← hear] at awaited
      rw [hear_append, Event.leavesOpen_concat, List.all_append]
      generalize c.hear events = now at ih opens awaited ⊢
      cases event with
      | token content =>
          have talk : (now.hear [.token content]).phase = now.phase := phase_begin now
          have waits : (now.hear [.token content]).isWaiting =
              (now.isWaiting || (now.phase == .inProgress && !now.isStreaming)) :=
            isWaiting_begin now
          rw [waits, talk, ih]
          -- If a message was open already, its answer was awaited already.
          cases talking : now.phase == .inProgress with
          | false => simp [Event.isToken, Event.isTerminal]
          | true =>
              cases streams : now.isStreaming with
              | false => simp [Event.isToken]
              | true =>
                  have waiting := awaited (beq_iff_eq.mp talking) streams
                  simpa [Event.isToken, ih, talking] using waiting
      | assessmentComplete evaluationId =>
          have streams : (Event.leavesOpen events && now.phase == .inProgress) = true →
              now.isStreaming = true := fun left => by rw [opens, left, Bool.or_true]
          have heard : now.hear [.assessmentComplete evaluationId] =
            now.signalCompletion evaluationId := rfl
          rw [heard, isWaiting_signalCompletion, ih]
          simp [Event.isToken, Event.isTerminal, talk_signalCompletion streams]
      | done | messageDone =>
          rw [(rests_of_terminal now rfl).2]
          simp [Event.isToken, Event.isTerminal]
      | error | unknown =>
          simpa [Event.isToken, Event.isTerminal, hear, Event.actions] using ih

/-! ## The next reply -/

section
variable {c : Conversation} {content : String}

theorem appendToFirst_append_of_streams (more : String) {messages : List Message}
    (streams : messages.any (·.isStreaming) = true) (rest : List Message) :
    appendToFirst more (messages ++ rest) = appendToFirst more messages ++ rest := by
  induction messages with
  | nil => cases streams
  | cons message others ih =>
      cases first : message.isStreaming with
      | true => simp only [List.cons_append, appendToFirst, first, if_true]
      | false =>
          rw [List.any_cons, first, Bool.false_or] at streams
          simp only [List.cons_append, appendToFirst, first, Bool.false_eq_true, if_false,
            ih streams]

/-- A reply to a silent conversation is a message of its own behind the learner's. -/
theorem messages_replied_of_silent (can : c.canSend = true)
    (hasText : Text.isBlankText content = false) (silent : c.isStreaming = false)
    (tokens : List String) {last : Event} (terminal : last.isTerminal = true) :
    (((c.said content).hear (tokens.map .token ++ [last])).reduce
        .finishStreamingMessage).messages =
      c.messages ++ [⟨messageId c.nextMessage, .learner, content, false⟩,
        ⟨messageId (c.nextMessage + 1), .interviewer, String.join tokens, false⟩] := by
  obtain ⟨messages, -⟩ := (replying_said can hasText silent).complete tokens terminal
  rw [messages, List.append_assoc]
  rfl

/-- A reply goes into a message that is open, though the learner's comes behind it. -/
theorem messages_replied_of_streams (can : c.canSend = true)
    (hasText : Text.isBlankText content = false) (streams : c.isStreaming = true)
    (tokens : List String) {last : Event} (terminal : last.isTerminal = true) :
    (((c.said content).hear (tokens.map .token ++ [last])).reduce
        .finishStreamingMessage).messages =
      (c.append (String.join tokens)).closeMessages.messages ++
        [⟨messageId c.nextMessage, .learner, content, false⟩] := by
  let learner := Message.mk (messageId c.nextMessage) .learner content false
  have said : (c.said content).messages = c.messages ++ [learner] := by
    rw [messages_said can hasText, newTurn, streams]
    rfl
  have still : (c.said content).isStreaming = true := by
    rw [isStreaming, said, List.any_append, ← isStreaming, streams, Bool.true_or]
  have heard : ((c.said content).hear (tokens.map .token ++ [last])).messages =
      (c.append (String.join tokens)).closeMessages.messages ++ [learner] := by
    rw [hear_append, messages_hear_last _ terminal, hear_tokens_of_streams still]
    simp only [closeMessages, append, said, appendToFirst_append_of_streams _ streams,
      List.map_append]
    rfl
  have closed : ((c.said content).hear (tokens.map .token ++ [last])).messages.any
      (·.isStreaming) = false := by
    rw [hear_append, messages_hear_last _ terminal]
    exact isStreaming_closeMessages _
  rw [messages_finish_of_silent closed, heard]

end

end Conversation

namespace Session

open Conversation

/-! ## The end of the connection -/

section
variable {s s' : Session} {id generation : Nat} {c : Consumption}

/-- The end of a standing connection is nothing to the replies. -/
theorem EndsWith.replies {events : List Event} {done : Option DonePayload} {count : Nat}
    (ends : s.EndsWith id .eventSource generation events (.ok (.completed done count)) s') :
    s'.replies = s.replies := by
  obtain ⟨u, -, hears, -, aside⟩ := ends
  have ended := aside.slot .response
  rw [(aside_settle _).slot] at ended
  exact ended.trans (hears.slot .response)

/-- The server closes a standing connection without an error: the conversation has heard what was
    told, and the call succeeds. -/
theorem hears_connection (attends : s.Attends id .eventSource generation c)
    (settled : c.reader.Settled) {reads : List (List UInt8)} {stimuli : List Stimulus}
    (delivers : stimuli.filter (!·.isBackground) = delivery id (reads.map .ok))
    (untroubled : s.isUntroubled stimuli = true)
    (fine : (c.tells reads.flatten).failure = none) :
    let t := s.run stimuli
    t.conversation = s.conversation.hear (c.tells reads.flatten).events ∧
      t.calls[id]? = some (.returned (some (.ok ()))) ∧ t.replies = s.replies := by
  intro t
  have ends := run_delivery attends settled delivers untroubled
  rw [Body.bytes_map_ok, readFailure?, Body.failure?_map_ok, Option.map_none] at ends
  simp only [Consumption.conclude, fine, Consumption.finish] at ends
  obtain ⟨conversation, returned, -⟩ := ends.closed
  exact ⟨conversation, returned, ends.replies⟩

end

/-- A call follows a standing connection, no reply is under way, and the server delivers the rest of
    the body and closes the connection. However the rest is cut into reads, and whatever goes on
    beside the call, the call succeeds. A message receives tokens afterwards if one did before and
    the rest ends none, or if the rest leaves one open while the talk goes on; and so it is with the
    answer that is awaited. What the learner says next gets a reply of its own if no message was left
    open, and otherwise the reply goes into the message that was. -/
theorem open_after_hangup_iff {new s : Session} (isNew : new.New) {past : List Stimulus}
    (reaches : new.run past = s) {id generation : Nat} {c : Consumption}
    (here : s.calls[id]? = some (.waiting (.read .eventSource generation c)))
    (owns : s.events.isCurrent generation = true) (idle : s.replies.isLive = false)
    {reads : List (List UInt8)} {stimuli : List Stimulus}
    (delivers : stimuli.filter (!·.isBackground) = delivery id (reads.map .ok))
    (untroubled : s.isUntroubled stimuli = true)
    (fine : (c.tells reads.flatten).failure = none) :
    let events := (c.tells reads.flatten).events
    let t := s.run stimuli
    let talks := t.conversation.phase == .inProgress
    t.calls[id]? = some (.returned (some (.ok ()))) ∧ t.replies.isLive = false ∧
    t.conversation.isStreaming =
      (s.conversation.isStreaming && events.all (!·.isTerminal) ||
        Event.leavesOpen events && talks) ∧
    t.conversation.isWaiting =
      (s.conversation.isWaiting && events.all (!·.isTerminal) ||
        Event.leavesOpen events && talks) ∧
    ∀ (content attemptId token : String) (tokens : List String) (last : Event)
      (next : List Stimulus), t.conversation.canSend = true → Text.isBlankText content = false →
      t.conversation.attemptId = some attemptId → t.token? = some token →
      last.isTerminal = true →
      (t.step (.call (.sendMessage content))).Answered t.nextCall (tokens.map .token ++ [last])
        next →
      let u := (t.step (.call (.sendMessage content))).run next
      let learner := Message.mk (messageId t.conversation.nextMessage) .learner content false
      u.calls[t.nextCall]? = some (.returned (some (.ok ()))) ∧
      (t.conversation.isStreaming = false → u.conversation.messages = t.conversation.messages ++
        [learner, ⟨messageId (t.conversation.nextMessage + 1), .interviewer, String.join tokens,
          false⟩]) ∧
      (t.conversation.isStreaming = true → u.conversation.messages =
        (t.conversation.append (String.join tokens)).closeMessages.messages ++ [learner]) := by
  intro events t talks
  have reachable : s.Reachable := ⟨new, isNew.toFresh, reaches ▸ later_run new past⟩
  have sound : s.conversation.Sound := reaches ▸ sound_run isNew.sound past
  have live := (reachable.tended.slots .eventSource).live _ (Slot.isCurrent_iff.mp owns)
  have settled : c.reader.Settled := reachable.tended.settled id _ here
  have attends : s.Attends id .eventSource generation c := ⟨here, owns, live⟩
  obtain ⟨heard, returned, same⟩ := hears_connection attends settled delivers untroubled fine
  have stillIdle : t.replies.isLive = false := by rwa [same]
  refine ⟨returned, stillIdle, ?_, ?_, ?_⟩
  · simp only [talks, t, heard]
    exact isStreaming_hear s.conversation events
  · simp only [talks, t, heard]
    exact sound.isWaiting_hear events
  · intro content attemptId token tokens last next can hasText identified signedIn terminal answered
      u learner
    have complete : (tokens.map Event.token ++ [last]).any Event.isTerminal = true := by
      rw [List.any_append, List.any_cons, terminal, Bool.true_or, Bool.or_true]
    obtain ⟨replied, succeeded⟩ := hears_answer (reachable.run stimuli) can identified stillIdle
      hasText complete (fun _ => Event.fine_of_mem_reply terminal) answered signedIn
    refine ⟨succeeded, fun silent => ?_, fun streams => ?_⟩
    · rw [replied, messages_replied_of_silent can hasText silent tokens terminal]
    · rw [replied, messages_replied_of_streams can hasText streams tokens terminal]

/-- A connection that the server closes behind a token: the learner's next question is answered in
    the message that stands before it. -/
theorem open_after_hangup :
    let new : Session := { baseUrl := "", tokenFile := some "t" }
    let s := new.run [.call (.assign "A"), .call (.startExisting "T" ""), .call .followEvents,
      .answer 2 (.status 200)]
    let body := Text.Utf8.encode "event: token\ndata: \x7b\"content\":\"Hi\"\x7d\n\n"
    let t := s.run [.read 2 (.bytes (body.take 9)), .elapse 5, .read 2 (.bytes (body.drop 9)),
      .read 2 .ended]
    let reply := Text.Utf8.encode
      "event: token\ndata: \x7b\"content\":\"Four.\"\x7d\n\nevent: done\ndata: \x7b\x7d\n\n"
    let u := (t.step (.call (.sendMessage "Two and two?"))).run
      [.answer 3 (.status 200), .read 3 (.bytes reply), .read 3 .ended]
    t.calls[2]? = some (.returned (some (.ok ()))) ∧ t.conversation.isStreaming = true ∧
      u.calls[3]? = some (.returned (some (.ok ()))) ∧
      u.conversation.messages = [⟨messageId 0, .interviewer, "HiFour.", false⟩,
        ⟨messageId 1, .learner, "Two and two?", false⟩] := by
  intro new s body t reply u
  have isNew : new.New := ⟨⟨rfl, fun transport => by cases transport <;> rfl⟩, rfl⟩
  have whole : [body.take 9, body.drop 9].flatten = body := by
    simp only [List.flatten_cons, List.flatten_nil, List.append_nil, List.take_append_drop]
  have fine : (({} : Consumption).tells [body.take 9, body.drop 9].flatten).failure = none := by
    rw [whole]
    decide +kernel
  have untroubled : s.isUntroubled [.read 2 (.bytes (body.take 9)), .elapse 5,
      .read 2 (.bytes (body.drop 9)), .read 2 .ended] = true := by decide +kernel
  have delivers : List.filter (!·.isBackground) [.read 2 (.bytes (body.take 9)), .elapse 5,
      .read 2 (.bytes (body.drop 9)), .read 2 .ended] =
        delivery 2 ([body.take 9, body.drop 9].map .ok) := rfl
  obtain ⟨returned, -, -, -, replied⟩ :=
    open_after_hangup_iff isNew rfl rfl rfl rfl delivers untroubled fine
  have streams : t.conversation.isStreaming = true := by decide +kernel
  have can : t.conversation.canSend = true := by decide +kernel
  have hasText : Text.isBlankText "Two and two?" = false := by decide
  have identified : t.conversation.attemptId = some "T" := by decide +kernel
  have signedIn : t.token? = some "t" := by decide +kernel
  have calls : t.nextCall = 3 := by decide +kernel
  have answered : (t.step (.call (.sendMessage "Two and two?"))).Answered t.nextCall
      (["Four."].map .token ++ [.done {}])
      [.answer 3 (.status 200), .read 3 (.bytes reply), .read 3 .ended] := by
    rw [calls]
    exact ⟨⟨200, [reply], by decide, by decide +kernel, rfl⟩, by decide +kernel⟩
  obtain ⟨succeeded, -, filled⟩ := replied "Two and two?" "T" "t" ["Four."] (.done {}) _ can hasText
    identified signedIn rfl answered
  rw [calls] at succeeded
  have before : (t.conversation.append (String.join ["Four."])).closeMessages.messages =
      [⟨messageId 0, .interviewer, "HiFour.", false⟩] := by decide +kernel
  have next : t.conversation.nextMessage = 1 := by decide +kernel
  have messages := filled streams
  rw [before, next] at messages
  exact ⟨returned, streams, succeeded, messages⟩

/-- The server has closed the connection and no reply is under way, and still a message receives
    tokens and an answer is awaited. -/
theorem awaited_after_hangup :
    let s := ({ baseUrl := "", tokenFile := some "t" } : Session).run [.call (.assign "A"),
      .call (.startExisting "T" ""), .call .followEvents, .answer 2 (.status 200)]
    let body := Text.Utf8.encode "event: token\ndata: \x7b\"content\":\"Hi\"\x7d\n\n"
    let t := s.run [.read 2 (.bytes body), .read 2 .ended]
    t.calls[2]? = some (.returned (some (.ok ()))) ∧ t.replies.isLive = false ∧
      ¬ (t.conversation.isStreaming = false ∧ t.conversation.isWaiting = false) := by
  intro s body t
  have attends : s.Attends 2 .eventSource 0 {} := ⟨rfl, rfl, rfl⟩
  have delivers : List.filter (!·.isBackground) [.read 2 (.bytes body), .read 2 .ended] =
      delivery 2 ([body].map .ok) := rfl
  have fine : (({} : Consumption).tells [body].flatten).failure = none := by decide +kernel
  obtain ⟨-, returned, same⟩ :=
    hears_connection attends FrameReader.settled_new delivers rfl fine
  refine ⟨returned, by rw [same]; rfl, ?_⟩
  have streams : t.conversation.isStreaming = true := by decide +kernel
  rintro ⟨closed, -⟩
  cases streams.symm.trans closed

end Session

end Viva
