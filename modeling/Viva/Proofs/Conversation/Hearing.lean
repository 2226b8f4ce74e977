import Viva.Proofs.Conversation.Permanence
import Viva.Stream.Event

/-! # What a conversation hears

An event of a stream is some actions on the conversation. `Replying` says what the tokens of a reply
leave of it: all that was there, and the tokens in their order as the text of its last message.
-/

namespace Viva

/-- What an event does to a conversation. -/
def Event.actions : Event → List Action
  | token content => [.beginInterviewerMessage, .appendToken content]
  | done payload =>
    [.attemptIdentified payload.attemptId payload.assignmentId payload.objectiveTitle,
      .finishStreamingMessage]
  | messageDone => [.finishStreamingMessage]
  | assessmentComplete evaluationId => [.assessmentComplete evaluationId]
  | error _ _ | unknown _ => []

namespace Conversation

/-- The conversation after some events. -/
def hear (c : Conversation) (events : List Event) : Conversation :=
  (events.flatMap Event.actions).foldl reduce c

theorem hear_append (c : Conversation) (first second : List Event) :
    c.hear (first ++ second) = (c.hear first).hear second := by
  simp only [hear, List.flatMap_append, List.foldl_append]

theorem hear_cons (c : Conversation) (event : Event) (rest : List Event) :
    c.hear (event :: rest) = (c.hear [event]).hear rest :=
  hear_append c [event] rest

theorem appendToFirst_of_silent (content : String) {before : List Message} {message : Message}
    (silent : before.any (·.isStreaming) = false) (streams : message.isStreaming = true)
    (after : List Message) :
    appendToFirst content (before ++ message :: after) =
      before ++ { message with content := message.content ++ content } :: after := by
  induction before with
  | nil => simp only [List.nil_append, appendToFirst, streams, if_true]
  | cons first rest ih =>
      rw [List.any_cons, Bool.or_eq_false_iff] at silent
      simp only [List.cons_append, appendToFirst, silent.1, Bool.false_eq_true, if_false,
        ih silent.2]

theorem appendToFirst_empty (messages : List Message) : appendToFirst "" messages = messages := by
  induction messages with
  | nil => rfl
  | cons message rest ih =>
      unfold appendToFirst
      rw [String.append_empty, ih, ite_self]

theorem appendToFirst_append (first second : String) (messages : List Message) :
    appendToFirst second (appendToFirst first messages) =
      appendToFirst (first ++ second) messages := by
  induction messages with
  | nil => rfl
  | cons message rest ih =>
      cases streams : message.isStreaming <;>
        simp only [appendToFirst, streams, Bool.false_eq_true, if_false, if_true, ih,
          String.append_assoc]

/-- While a message receives tokens a token opens no second one. -/
theorem hear_token_of_streams {c : Conversation} (streams : c.isStreaming = true)
    (content : String) : c.hear [.token content] = c.append content := by
  have opensNone : c.reduce .beginInterviewerMessage = c := by
    simp only [reduce, streams, Bool.not_true, Bool.and_false, Bool.false_eq_true, if_false]
  exact congrArg (·.append content) opensNone

/-- Tokens are one long token. -/
theorem hear_tokens_of_streams {c : Conversation} (streams : c.isStreaming = true)
    (contents : List String) : c.hear (contents.map .token) = c.append (String.join contents) := by
  induction contents generalizing c with
  | nil => rw [String.join_nil, append, appendToFirst_empty]; rfl
  | cons content rest ih =>
      have still : (c.append content).isStreaming = true :=
        (isStreaming_append c content).trans streams
      rw [List.map_cons, hear_cons, hear_token_of_streams streams, ih still, String.join_cons]
      simp only [append, appendToFirst_append]

/-- Where no message receives tokens there is none to close. -/
theorem close_of_silent {messages : List Message}
    (silent : messages.any (·.isStreaming) = false) :
    (messages.map fun message => { message with isStreaming := false }) = messages := by
  induction messages with
  | nil => rfl
  | cons message rest ih =>
      rw [List.any_cons, Bool.or_eq_false_iff] at silent
      rw [List.map_cons, ih silent.2]
      exact congrArg (· :: rest) ((Message.Grows.close message).complete silent.1)

theorem messages_finishMessage (c : Conversation) :
    c.finishMessage.messages = c.closeMessages.messages := by
  unfold finishMessage
  dsimp only
  split <;> rfl

/-- An event that ends a message closes what is open. -/
theorem messages_hear_last (c : Conversation) {last : Event} (terminal : last.isTerminal = true) :
    (c.hear [last]).messages = c.closeMessages.messages := by
  cases last with
  | done | messageDone => exact messages_finishMessage _
  | token | assessmentComplete | error | unknown => cases terminal

theorem isWaiting_finishMessage (c : Conversation) : c.finishMessage.isWaiting = false := by
  unfold finishMessage
  dsimp only
  split <;> rfl

/-- The interviewer's message behind these messages receives tokens, and has some text by now. -/
structure Replying (c : Conversation) (before : List Message) (id text : String) : Prop where
  phase : c.phase = .inProgress
  messages : c.messages = before ++ [⟨id, .interviewer, text, true⟩]
  silent : before.any (·.isStreaming) = false

section
variable {c : Conversation} {before : List Message} {id text : String}

theorem Replying.isStreaming (replying : c.Replying before id text) : c.isStreaming = true := by
  simp only [Conversation.isStreaming, replying.messages, List.any_append, List.any_cons,
    Bool.true_or, Bool.or_true]

theorem Replying.hear_token (replying : c.Replying before id text) (content : String) :
    c.hear [.token content] = c.append content :=
  hear_token_of_streams replying.isStreaming content

/-- The text of a token goes to the message that is open. -/
theorem Replying.token (replying : c.Replying before id text) (content : String) :
    (c.hear [.token content]).Replying before id (text ++ content) := by
  rw [replying.hear_token]
  refine ⟨replying.phase, ?_, replying.silent⟩
  rw [append, replying.messages]
  exact appendToFirst_of_silent content replying.silent rfl []

/-- Tokens change the text of the reply and nothing else. -/
theorem Replying.hear_tokens (replying : c.Replying before id text) (contents : List String) :
    c.hear (contents.map .token) =
      { c with messages := before ++ [⟨id, .interviewer, text ++ String.join contents, true⟩] } := by
  rw [hear_tokens_of_streams replying.isStreaming, append, replying.messages,
    appendToFirst_of_silent _ replying.silent rfl]

theorem Replying.tokens (replying : c.Replying before id text) (contents : List String) :
    (c.hear (contents.map .token)).Replying before id (text ++ String.join contents) := by
  rw [replying.hear_tokens]
  exact ⟨replying.phase, rfl, replying.silent⟩

/-- While the reply goes on a signal of the completion is only put down. -/
theorem Replying.hear_signal (replying : c.Replying before id text)
    (evaluationId : Option String) :
    c.hear [.assessmentComplete evaluationId] =
      { c with
        evaluationId := fill c.evaluationId evaluationId
        completionPending := true } :=
  signalCompletion_of_streams replying.phase replying.isStreaming evaluationId

/-- The event that ends the reply closes its message. -/
theorem Replying.ends (replying : c.Replying before id text) {last : Event}
    (terminal : last.isTerminal = true) :
    (c.hear [last]).messages = before ++ [⟨id, .interviewer, text, false⟩] := by
  rw [messages_hear_last c terminal]
  simp only [closeMessages, replying.messages, List.map_append, close_of_silent replying.silent]
  rfl

/-- Closing once more changes nothing. -/
theorem messages_finish_of_silent (silent : c.messages.any (·.isStreaming) = false) :
    (c.reduce .finishStreamingMessage).messages = c.messages :=
  (messages_finishMessage c).trans (close_of_silent silent)

end

end Conversation

end Viva
