import Mathlib.Data.List.Induction
import Viva.Proofs.Conversation.Soundness

/-! # The interviewer's last message

When the interviewer has nothing more to ask while its message still receives tokens, the completion
waits for the end of that message (`completion_at_end`). The mark of it means something only then.
Whatever else is done, the mark goes when the farewell ends or the attempt is handed in; only an error
ends the farewell and leaves the mark, until something else takes it away (`pending_of_farewell`).
-/

namespace Viva

/-- The action breaks off a farewell, whose message is not complete yet. -/
def Action.breaksOff : Action → Bool
  | assign _ | reset | beginCompletion | setError _ => true
  | _ => false

namespace Conversation

/-- The interviewer has nothing more to ask, and its last message still receives tokens. -/
structure Farewell (c : Conversation) : Prop where
  pending : c.completionPending = true
  phase : c.phase = .inProgress
  streams : c.isStreaming = true

section
variable {c : Conversation} {action : Action}

theorem pending_finishMessage (pending : c.finishMessage.completionPending = true) :
    c.completionPending = true := by
  unfold finishMessage at pending
  dsimp only at pending
  split at pending
  · cases pending
  · exact pending

theorem pending_openPlaceholder (c : Conversation) :
    c.openPlaceholder.completionPending = c.completionPending := by
  unfold openPlaceholder
  split <;> rfl

/-- Apart from what breaks a farewell off, only the end of a message and the signal touch the mark. -/
theorem pending_cases (c : Conversation) (action : Action) :
    (c.reduce action).completionPending = c.completionPending ∨
      (∃ evaluationId, action = .assessmentComplete evaluationId) ∨
      action = .finishStreamingMessage ∨ action.breaksOff = true := by
  cases action with
  | assessmentComplete evaluationId => exact .inr (.inl ⟨evaluationId, rfl⟩)
  | finishStreamingMessage => exact .inr (.inr (.inl rfl))
  | assign | reset | beginCompletion | setError => exact .inr (.inr (.inr rfl))
  | attemptIdentified | appendToken | addSystemMessage => exact .inl rfl
  | startAssessment =>
      left
      simp only [reduce]
      split
      · exact pending_openPlaceholder c
      · rfl
  | grantPermissions | sendMessage | beginInterviewerMessage | continueAfterClosure
  | completeAssessment | clearError =>
      left
      simp only [reduce]
      split <;> rfl

/-- A signal in the middle of a message begins a farewell. -/
theorem farewell_of_signal (talking : c.phase = .inProgress) (streams : c.isStreaming = true)
    (evaluationId : Option String) : (c.reduce (.assessmentComplete evaluationId)).Farewell := by
  rw [reduce, signalCompletion_of_streams talking streams]
  exact ⟨rfl, talking, streams⟩

/-- A completion comes to wait in a farewell only. -/
theorem farewell_of_new (isNew : c.completionPending = false)
    (pending : (c.reduce action).completionPending = true) : (c.reduce action).Farewell := by
  rcases pending_cases c action with kept | ⟨evaluationId, rfl⟩ | rfl | breaks
  · cases (kept.symm.trans pending).symm.trans isNew
  · simp only [reduce, signalCompletion] at pending
    split at pending
    · rename_i talking
      split at pending
      · rename_i streams
        exact farewell_of_signal (beq_iff_eq.mp talking) streams evaluationId
      · cases isNew.symm.trans pending
    · cases isNew.symm.trans pending
  · cases isNew.symm.trans (pending_finishMessage pending)
  · cases action with
    | assign | reset => cases pending
    | beginCompletion =>
        simp only [reduce] at pending
        split at pending
        · cases pending
        · cases isNew.symm.trans pending
    | setError message =>
        simp only [reduce] at pending
        split at pending <;> cases isNew.symm.trans pending
    | _ => cases breaks

/-- While the mark stays a farewell goes on, unless there is an error. -/
theorem Farewell.reduce (farewell : c.Farewell) (sound : c.Sound)
    (fine : ∀ message, action ≠ .setError message)
    (pending : (c.reduce action).completionPending = true) : (c.reduce action).Farewell := by
  obtain ⟨marked, phase, streams⟩ := farewell
  cases action with
  | setError message => exact absurd rfl (fine message)
  | assign | reset => cases pending
  | finishStreamingMessage =>
      simp [Conversation.reduce, finishMessage, closeMessages, marked, phase] at pending
  | beginCompletion => simp [Conversation.reduce, phase] at pending
  | attemptIdentified => exact ⟨marked, phase, streams⟩
  | appendToken content => exact ⟨marked, phase, (isStreaming_append c content).trans streams⟩
  | addSystemMessage content =>
      exact ⟨marked, phase, (isStreaming_push_complete c .system content).trans streams⟩
  | sendMessage content =>
      simp only [Conversation.reduce]
      split
      · exact ⟨marked, phase, (isStreaming_push_complete c .learner content).trans streams⟩
      · exact ⟨marked, phase, streams⟩
  | assessmentComplete evaluationId => exact farewell_of_signal phase streams evaluationId
  | clearError =>
      have noError : c.error.isSome = false := by
        rw [Bool.eq_false_iff]
        intro failed
        cases phase.symm.trans (sound.error_iff.mpr failed)
      simp only [Conversation.reduce, noError, Bool.false_eq_true, if_false]
      exact ⟨marked, phase, streams⟩
  | grantPermissions | startAssessment | beginInterviewerMessage | continueAfterClosure
  | completeAssessment =>
      simp only [Conversation.reduce, phase, streams, Bool.not_true, Bool.and_false,
        Bool.false_eq_true, if_false]
      exact ⟨marked, phase, streams⟩

/-- What neither breaks a farewell off nor ends it leaves a farewell. -/
theorem Farewell.goesOn (farewell : c.Farewell) (sound : c.Sound)
    (goesOn : action.breaksOff = false) (isOpen : action ≠ .finishStreamingMessage) :
    (c.reduce action).Farewell := by
  have fine : ∀ message, action ≠ .setError message := by
    rintro message rfl
    cases goesOn
  rcases pending_cases c action with kept | ⟨evaluationId, rfl⟩ | ends | breaks
  · exact farewell.reduce sound fine (kept.trans farewell.pending)
  · exact farewell_of_signal farewell.phase farewell.streams evaluationId
  · exact absurd ends isOpen
  · cases goesOn.symm.trans breaks

theorem Farewell.foldl (farewell : c.Farewell) (sound : c.Sound) {actions : List Action}
    (goesOn : ∀ action ∈ actions, action.breaksOff = false)
    (isOpen : .finishStreamingMessage ∉ actions) :
    (actions.foldl Conversation.reduce c).Farewell := by
  induction actions generalizing c with
  | nil => exact farewell
  | cons action rest ih =>
      obtain ⟨goesOnNow, goesOnLater⟩ := List.forall_mem_cons.mp goesOn
      obtain ⟨isOpenNow, isOpenLater⟩ := not_or.mp (List.mem_cons.not.mp isOpen)
      exact ih (farewell.goesOn sound goesOnNow (Ne.symm isOpenNow)) (sound.reduce action)
        goesOnLater isOpenLater

/-- While the two talk, the end of a message brings about the completion that waits for it. -/
theorem finishMessage_of_talking (talking : c.phase = .inProgress) :
    c.finishMessage =
      { c.closeMessages with
        isWaiting := false
        phase := if c.completionPending then .closureReady else .inProgress
        completionPending := false } := by
  cases pending : c.completionPending <;> simp [finishMessage, closeMessages, talking, pending]

/-- An error is told of unless the attempt is handed in. -/
theorem reduce_setError (notOver : c.phase ≠ .completed) (message : String) :
    c.reduce (.setError message) =
      { c.closeMessages with phase := .error, error := some message, isWaiting := false } :=
  if_neg (beq_iff_eq.not.mpr notOver)

/-- An error ends a farewell, and the mark stays. -/
theorem Farewell.setError (farewell : c.Farewell) (message : String) :
    let c' := c.reduce (.setError message)
    c'.completionPending = true ∧ c'.phase = .error ∧ c'.isStreaming = false := by
  intro c'
  have notOver : c.phase ≠ .completed := by
    rw [farewell.phase]
    exact Phase.noConfusion
  have cut : c' = _ := reduce_setError notOver message
  rw [cut]
  exact ⟨farewell.pending, rfl, isStreaming_closeMessages c⟩

end

/-- A signal in the middle of a message is put off to the end of that message, and to nothing else:
    whatever is done meanwhile, the farewell goes on as long as nothing breaks it off, and when its
    message is complete the completion takes place. -/
theorem completion_at_end (before : List Action) (evaluationId : Option String)
    {meanwhile : List Action} (talking : (before.foldl reduce {}).phase = .inProgress)
    (streams : (before.foldl reduce {}).isStreaming = true)
    (goesOn : ∀ action ∈ meanwhile, action.breaksOff = false)
    (isOpen : .finishStreamingMessage ∉ meanwhile) :
    let c := (before ++ .assessmentComplete evaluationId :: meanwhile).foldl reduce {}
    let c' := c.reduce .finishStreamingMessage
    c.Farewell ∧ c'.phase = .closureReady ∧ c'.completionPending = false ∧
      c'.isWaiting = false ∧ c'.isStreaming = false := by
  intro c c'
  have sound := sound_of_actions before
  have farewell : c.Farewell := by
    have begun := farewell_of_signal talking streams evaluationId
    have goes := begun.foldl (sound.reduce (.assessmentComplete evaluationId)) goesOn isOpen
    rwa [← List.foldl_cons, ← List.foldl_append] at goes
  have ended : c' = { c.closeMessages with
      isWaiting := false, phase := .closureReady, completionPending := false } := by
    have finished := finishMessage_of_talking farewell.phase
    rwa [if_pos farewell.pending] at finished
  refine ⟨farewell, ?_⟩
  rw [ended]
  exact ⟨rfl, rfl, rfl, isStreaming_closeMessages c⟩

/-- The learner puts in a word, the server repeats itself and the tokens go on. -/
theorem completion_after_interjection :
    let before : List Action := [.assign "A", .startAssessment (some "T") none "noon"]
    let meanwhile : List Action := [.appendToken "Good", .sendMessage "Wait", .clearError,
      .assessmentComplete (some "E"), .continueAfterClosure, .beginInterviewerMessage,
      .appendToken "bye"]
    let c := (before ++ .assessmentComplete none :: meanwhile).foldl reduce {}
    let c' := c.reduce .finishStreamingMessage
    c.completionPending = true ∧ c.messages.map (·.content) = ["Goodbye", "Wait"] ∧
      c'.phase = .closureReady ∧ c'.completionPending = false ∧ c'.isStreaming = false := by
  intro before meanwhile c c'
  have goesOn : ∀ action ∈ meanwhile, action.breaksOff = false := by decide
  obtain ⟨farewell, phase, settled, -, silent⟩ :=
    completion_at_end before none rfl rfl goesOn (by decide)
  exact ⟨farewell.pending, by decide, phase, settled, silent⟩

/-- An error has cut off a farewell, and the mark has stayed since. -/
def CutShort (actions : List Action) : Prop :=
  ∃ (before : List Action) (message : String) (after : List Action),
    actions = before ++ .setError message :: after ∧ (before.foldl reduce {}).Farewell ∧
      ∀ n, ((before ++ .setError message :: after.take n).foldl reduce {}).completionPending = true

theorem CutShort.concat {actions : List Action} (cut : CutShort actions) {action : Action}
    (pending : ((actions ++ [action]).foldl reduce {}).completionPending = true) :
    CutShort (actions ++ [action]) := by
  obtain ⟨before, message, after, rfl, farewell, stays⟩ := cut
  refine ⟨before, message, after ++ [action], by rw [List.append_assoc, List.cons_append],
    farewell, fun n => ?_⟩
  rcases Nat.lt_or_ge after.length n with all | some
  · have whole : (after ++ [action]).length ≤ n := by
      rw [List.length_append]
      exact all
    rw [List.take_of_length_le whole]
    rwa [List.append_assoc, List.cons_append] at pending
  · rw [List.take_append_of_le_length some]
    exact stays n

/-- A completion waits only for the end of a farewell, unless an error has cut the farewell off: an
    error leaves the mark in place although nothing is waited for, and is the only thing that does. -/
theorem pending_of_farewell (actions : List Action) :
    let c := actions.foldl reduce {}
    (c.completionPending = true → c.Farewell ∨ CutShort actions) ∧
    (c.Farewell → ∀ message, let c' := c.reduce (.setError message)
      c'.completionPending = true ∧ c'.phase = .error ∧ c'.isStreaming = false) := by
  intro c
  refine ⟨?_, fun farewell => farewell.setError⟩
  induction actions using List.reverseRecOn with
  | nil => exact nofun
  | append_singleton actions action ih =>
      intro pending
      let before := actions.foldl reduce {}
      have last : c = before.reduce action := List.foldl_append
      rw [last] at pending ⊢
      cases marked : before.completionPending with
      | false => exact .inl (farewell_of_new marked pending)
      | true =>
          have still : ((actions ++ [action]).foldl reduce {}).completionPending = true := by
            rwa [List.foldl_append]
          rcases ih marked with farewell | cut
          · by_cases error : ∃ message, action = .setError message
            · obtain ⟨message, rfl⟩ := error
              refine .inr ⟨actions, message, [], rfl, farewell, fun n => ?_⟩
              rwa [List.take_nil]
            · have fine : ∀ message, action ≠ .setError message :=
                fun message same => error ⟨message, same⟩
              exact .inl (farewell.reduce (sound_new.foldl actions) fine pending)
          · exact .inr (cut.concat still)

/-- The learner goes on after the error, and the mark is still there. -/
theorem pending_after_cutShort :
    let actions : List Action := [.assign "A", .startAssessment (some "T") none "noon",
      .assessmentComplete none, .setError "gone", .clearError, .sendMessage "Hello?"]
    let c := actions.foldl reduce {}
    c.completionPending = true ∧ (c.Farewell ∨ CutShort actions) ∧ c.isStreaming = false := by
  intro actions c
  have pending : c.completionPending = true := rfl
  exact ⟨pending, (pending_of_farewell actions).1 pending, rfl⟩

/-- An error while the farewell streams: the completion still waits, and there is nothing it could
    wait for. -/
theorem pending_after_error :
    let c := [Action.assign "A", .startAssessment (some "T") none "noon",
      .assessmentComplete none, .setError "gone"].foldl reduce {}
    c.completionPending = true ∧ ¬ (c.phase = .inProgress ∧ c.isStreaming = true) := by
  intro c
  exact ⟨rfl, by decide⟩

end Conversation

end Viva
