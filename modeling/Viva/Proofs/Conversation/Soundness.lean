import Viva.Conversation.Action

/-! # Sound conversations

A conversation that was only changed by actions is sound: its messages are numbered in their order,
at most one of them receives tokens, and phase, error, completion and waiting fit together. None of
this holds by itself for long. That one message at most receives tokens, for instance, depends on
the phases in which one can, and that an error shows in the phase on what the other actions do
while there is one. So `Sound` is the invariant of all actions together.
-/

namespace Viva

/-- A message without what it says. -/
def Message.outline (message : Message) : Message := { message with content := "" }

namespace Conversation

/-! ## Messages -/

/-- Messages numbered from zero, of which one at most receives tokens, and that one is the
    interviewer's. -/
structure Orderly (messages : List Message) : Prop where
  ids : ∀ (i : Nat) (message : Message), messages[i]? = some message → message.id = messageId i
  one : messages.countP (·.isStreaming) ≤ 1
  speaker : ∀ message ∈ messages, message.isStreaming = true → message.speaker = .interviewer

/-- What messages say is no matter. -/
theorem Orderly.of_outline {messages messages' : List Message}
    (same : messages'.map Message.outline = messages.map Message.outline) (orderly : Orderly messages) :
    Orderly messages' where
  ids := by
    intro i message here
    have there : (messages.map Message.outline)[i]? = some message.outline := by
      rw [← same, List.getElem?_map, here]
      rfl
    rw [List.getElem?_map, Option.map_eq_some_iff] at there
    obtain ⟨old, isOld, outlines⟩ := there
    rw [← orderly.ids i old isOld]
    exact (congrArg Message.id outlines).symm
  one := by
    have count : ∀ list : List Message,
        list.countP (·.isStreaming) = (list.map Message.outline).countP (·.isStreaming) := by
      intro list
      rw [List.countP_map]
      rfl
    rw [count, same, ← count]
    exact orderly.one
  speaker := by
    intro message member streams
    have there : message.outline ∈ messages.map Message.outline := by
      rw [← same]
      exact List.mem_map_of_mem member
    obtain ⟨old, isOld, outlines⟩ := List.mem_map.mp there
    have oldStreams : old.isStreaming = true :=
      (congrArg Message.isStreaming outlines).trans streams
    have speaks := orderly.speaker old isOld oldStreams
    exact (congrArg Message.speaker outlines).symm.trans speaks

theorem outline_appendToFirst (content : String) (messages : List Message) :
    (appendToFirst content messages).map Message.outline = messages.map Message.outline := by
  induction messages with
  | nil => rfl
  | cons message rest ih =>
      unfold appendToFirst
      split
      · rfl
      · rw [List.map_cons, List.map_cons, ih]

theorem Orderly.push {messages : List Message} (orderly : Orderly messages) (speaker : Speaker)
    (content : String) {streams : Bool}
    (only : streams = true → speaker = .interviewer ∧ messages.any (·.isStreaming) = false) :
    Orderly (messages ++ [⟨messageId messages.length, speaker, content, streams⟩]) where
  ids := by
    intro i message here
    rcases Nat.lt_or_ge i messages.length with old | new
    · rw [List.getElem?_append_left old] at here
      exact orderly.ids i message here
    · rw [List.getElem?_append_right new, List.getElem?_singleton] at here
      split at here
      · have last : i = messages.length := by omega
        rw [last, ← Option.some.inj here]
      · cases here
  one := by
    have old := orderly.one
    rw [List.countP_append, List.countP_singleton]
    cases streams with
    | false => simpa using old
    | true =>
        have none : messages.countP (·.isStreaming) = 0 := by
          have silent := (only rfl).2
          rw [List.any_eq_false] at silent
          exact List.countP_eq_zero.mpr silent
        simp [none]
  speaker := by
    intro message member isStreaming
    rcases List.mem_append.mp member with old | new
    · exact orderly.speaker message old isStreaming
    · obtain rfl := List.mem_singleton.mp new
      exact (only isStreaming).1

theorem Orderly.close {messages : List Message} (orderly : Orderly messages) :
    Orderly (messages.map fun message => { message with isStreaming := false }) where
  ids := by
    intro i message here
    rw [List.getElem?_map, Option.map_eq_some_iff] at here
    obtain ⟨old, isOld, rfl⟩ := here
    exact orderly.ids i old isOld
  one := by
    rw [List.countP_map]
    simp [Function.comp_def]
  speaker := by
    intro message member streams
    obtain ⟨old, -, rfl⟩ := List.mem_map.mp member
    cases streams

theorem isStreaming_append (c : Conversation) (content : String) :
    (c.append content).isStreaming = c.isStreaming := by
  have any : ∀ list : List Message,
      list.any (·.isStreaming) = (list.map Message.outline).any (·.isStreaming) := by
    intro list
    rw [List.any_map]
    rfl
  simp only [isStreaming, append]
  rw [any, outline_appendToFirst, ← any]

theorem isStreaming_push_complete (c : Conversation) (speaker : Speaker) (content : String) :
    (c.push speaker content false).isStreaming = c.isStreaming := by
  simp [isStreaming, push]

theorem isStreaming_closeMessages (c : Conversation) : c.closeMessages.isStreaming = false := by
  simp [isStreaming, closeMessages]

/-! ## Soundness -/

structure Sound (c : Conversation) : Prop where
  messages : Orderly c.messages
  next : c.nextMessage = c.messages.length
  /-- A message receives tokens only while the learner and the interviewer talk, or while the
      attempt is handed in and after that. -/
  streams : c.isStreaming = true →
    c.phase = .inProgress ∨ c.phase = .completing ∨ c.phase = .completed
  error_iff : c.phase = .error ↔ c.error.isSome = true
  completed_iff : c.phase = .completed ↔ c.completedAt.isSome = true
  /-- While they talk, a message that receives tokens is awaited. -/
  awaited : c.phase = .inProgress → c.isStreaming = true → c.isWaiting = true

theorem sound_new : Sound {} where
  messages := ⟨by simp, by simp, by simp⟩
  next := rfl
  streams := by simp [isStreaming]
  error_iff := by simp
  completed_iff := by simp
  awaited := by simp

theorem sound_about (assignmentId : String) : (about assignmentId).Sound where
  messages := ⟨by simp [about], by simp [about], by simp [about]⟩
  next := rfl
  streams := by simp [about, isStreaming]
  error_iff := by simp [about]
  completed_iff := by simp [about]
  awaited := by simp [about]

section
variable {c : Conversation}

/-- While the two talk, the learner may speak. -/
theorem canSend_of_inProgress (talking : c.phase = .inProgress) : c.canSend = true := by
  rw [canSend, talking]
  rfl

/-- While a message receives tokens the signal of the completion is only put down. -/
theorem signalCompletion_of_streams (talking : c.phase = .inProgress)
    (streams : c.isStreaming = true) (evaluationId : Option String) :
    c.signalCompletion evaluationId =
      { c with
        evaluationId := fill c.evaluationId evaluationId
        completionPending := true } := by
  simp only [signalCompletion, talking, beq_self_eq_true, if_true]
  exact if_pos streams

theorem Sound.silent (sound : c.Sound) (talking : c.phase ≠ .inProgress)
    (completing : c.phase ≠ .completing) (completed : c.phase ≠ .completed) :
    c.isStreaming = false := by
  apply Bool.eq_false_iff.mpr
  intro streams
  rcases sound.streams streams with phase | phase | phase <;> contradiction

theorem Sound.orderly_push (sound : c.Sound) (speaker : Speaker) (content : String)
    {streams : Bool} (only : streams = true → speaker = .interviewer ∧ c.isStreaming = false) :
    Orderly (c.push speaker content streams).messages := by
  simp only [push, sound.next]
  exact sound.messages.push speaker content only

theorem Sound.next_push (sound : c.Sound) (speaker : Speaker) (content : String)
    (streams : Bool) : (c.push speaker content streams).nextMessage =
      (c.push speaker content streams).messages.length := by
  simp [push, sound.next]

/-- A new phase, and new facts about it, for the same messages. -/
theorem Sound.relabel {c' : Conversation} (sound : c.Sound) (messages : c'.messages = c.messages)
    (next : c'.nextMessage = c.nextMessage)
    (streams : c.isStreaming = true →
      c'.phase = .inProgress ∨ c'.phase = .completing ∨ c'.phase = .completed)
    (error_iff : c'.phase = .error ↔ c'.error.isSome = true)
    (completed_iff : c'.phase = .completed ↔ c'.completedAt.isSome = true)
    (awaited : c'.phase = .inProgress → c.isStreaming = true → c'.isWaiting = true) :
    c'.Sound := by
  have same : c'.isStreaming = c.isStreaming := by rw [isStreaming, messages, isStreaming]
  refine ⟨?_, ?_, ?_, error_iff, completed_iff, ?_⟩
  · rw [messages]
    exact sound.messages
  · rw [next, messages]
    exact sound.next
  · rwa [same]
  · rwa [same]

theorem Sound.closeMessages {c' : Conversation} (sound : c.Sound)
    (messages : c'.messages = c.closeMessages.messages) (next : c'.nextMessage = c.nextMessage)
    (error_iff : c'.phase = .error ↔ c'.error.isSome = true)
    (completed_iff : c'.phase = .completed ↔ c'.completedAt.isSome = true) : c'.Sound := by
  have silent : c'.isStreaming = false := by
    rw [isStreaming, messages]
    exact isStreaming_closeMessages c
  refine ⟨?_, ?_, ?_, error_iff, completed_iff, ?_⟩
  · rw [messages]
    exact sound.messages.close
  · rw [next, messages, sound.next, Conversation.closeMessages, List.length_map]
  · rw [silent]
    intro streams
    cases streams
  · rw [silent]
    intro _ streams
    cases streams

end

theorem Sound.reduce {c : Conversation} (sound : c.Sound) (action : Action) :
    (c.reduce action).Sound := by
  have error_iff := sound.error_iff
  have completed_iff := sound.completed_iff
  have streams := sound.streams
  have awaited := sound.awaited
  cases action with
  | assign assignmentId => exact sound_about assignmentId
  | reset => exact sound_new
  | grantPermissions =>
      simp only [Conversation.reduce]
      split
      · refine sound.relabel rfl rfl ?_ ?_ ?_ ?_ <;> grind
      · exact sound
  | startAssessment attemptId objectiveTitle startedAt =>
      simp only [Conversation.reduce]
      split
      · rename_i waiting
        have silent : c.isStreaming = false := by apply sound.silent <;> grind
        simp only [openPlaceholder, silent, Bool.false_eq_true, if_false]
        refine ⟨sound.orderly_push .interviewer "" fun _ => ⟨rfl, silent⟩,
          sound.next_push .interviewer "" true, ?_, ?_, ?_, ?_⟩
        · exact fun _ => .inl rfl
        · grind [push]
        · grind [push]
        · exact fun _ _ => rfl
      · exact sound
  | attemptIdentified attemptId assignmentId objectiveTitle =>
      exact sound.relabel rfl rfl streams error_iff completed_iff awaited
  | sendMessage content =>
      have same := isStreaming_push_complete c .learner content
      simp only [Conversation.reduce]
      split
      · refine ⟨sound.orderly_push .learner content nofun,
          sound.next_push .learner content false, ?_, error_iff, completed_iff, fun _ _ => rfl⟩
        intro streaming
        exact streams (same.symm.trans streaming)
      · exact sound
  | beginInterviewerMessage =>
      simp only [Conversation.reduce]
      split
      · rename_i free
        refine ⟨sound.orderly_push .interviewer "" fun _ => ⟨rfl, by grind⟩,
          sound.next_push .interviewer "" true, ?_, error_iff, completed_iff, fun _ _ => rfl⟩
        grind [push]
      · exact sound
  | appendToken content =>
      have same := isStreaming_append c content
      have outlines := outline_appendToFirst content c.messages
      have length := congrArg List.length outlines
      rw [List.length_map, List.length_map] at length
      refine ⟨sound.messages.of_outline outlines, sound.next.trans length.symm, ?_, error_iff,
        completed_iff, ?_⟩
      · intro streaming
        exact streams (same.symm.trans streaming)
      · intro talking streaming
        exact awaited talking (same.symm.trans streaming)
  | finishStreamingMessage =>
      simp only [Conversation.reduce, finishMessage]
      split
      · refine sound.closeMessages rfl rfl ?_ ?_ <;> grind [Conversation.closeMessages]
      · exact sound.closeMessages rfl rfl error_iff completed_iff
  | addSystemMessage content =>
      have same := isStreaming_push_complete c .system content
      refine ⟨sound.orderly_push .system content nofun,
        sound.next_push .system content false, ?_, error_iff, completed_iff, ?_⟩
      · intro streaming
        exact streams (same.symm.trans streaming)
      · intro talking streaming
        exact awaited talking (same.symm.trans streaming)
  | assessmentComplete evaluationId =>
      simp only [Conversation.reduce, signalCompletion]
      split
      · split
        · refine sound.relabel rfl rfl ?_ ?_ ?_ ?_ <;> grind
        · rename_i notStreaming
          have silent : c.isStreaming = false := Bool.eq_false_iff.mpr notStreaming
          refine sound.relabel rfl rfl ?_ ?_ ?_ ?_ <;> grind
      · exact sound.relabel rfl rfl streams error_iff completed_iff awaited
  | continueAfterClosure =>
      simp only [Conversation.reduce]
      split
      · refine sound.relabel rfl rfl ?_ ?_ ?_ ?_ <;> grind
      · exact sound
  | beginCompletion =>
      simp only [Conversation.reduce]
      split
      · refine sound.relabel rfl rfl ?_ ?_ ?_ ?_ <;> grind
      · exact sound
  | completeAssessment completedAt =>
      simp only [Conversation.reduce]
      split
      · refine sound.relabel rfl rfl ?_ ?_ ?_ ?_ <;> grind
      · exact sound
  | setError message =>
      simp only [Conversation.reduce]
      split
      · exact sound
      · refine sound.closeMessages rfl rfl ?_ ?_ <;> grind [Conversation.closeMessages]
  | clearError =>
      simp only [Conversation.reduce]
      split
      · refine sound.relabel rfl rfl ?_ ?_ ?_ ?_ <;> grind
      · exact sound

theorem Sound.foldl {c : Conversation} (sound : c.Sound) (actions : List Action) :
    (actions.foldl Conversation.reduce c).Sound := by
  induction actions generalizing c with
  | nil => exact sound
  | cons action rest ih => exact ih (sound.reduce action)

/-- Whatever is done to a new conversation, it stays sound. -/
theorem sound_of_actions (actions : List Action) :
    (actions.foldl Conversation.reduce {}).Sound :=
  sound_new.foldl actions

end Conversation

end Viva
