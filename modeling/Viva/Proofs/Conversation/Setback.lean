import Mathlib.Data.List.Induction
import Viva.Proofs.Conversation.Farewell
import Viva.Proofs.Conversation.Permanence

/-! # Errors that are put aside

An error takes the conversation out of its phase, and once it is put aside the two talk again if the
attempt is known. So it matters what came before it. A signal of the completion that comes after the
error is noted and has no effect; one that comes before it, while a message receives tokens, is still
waited for when the error is put aside (`signal_error_commute_iff`). And putting an error aside is the
one way into the conversation that does not ask whether the attempt has begun (`begun_iff`).
-/

namespace Viva

/-- Learner and interviewer talk, or they have talked. -/
def Phase.isConversing : Phase → Bool
  | inProgress | closureReady | completing | completed => true
  | idle | initializing | ready | error => false

namespace Conversation

/-! ## An error and the signal of the completion -/

/-- The conversation after some actions. If there was an error it is put aside, and what receives tokens
    is complete. -/
def settled (c : Conversation) (actions : List Action) : Conversation :=
  (actions ++ [Action.clearError, .finishStreamingMessage]).foldl reduce c

/-- What an error leaves of a conversation that is settled. -/
def afterSetback (c : Conversation) (concludes : Bool) : Conversation :=
  { c.closeMessages with
    error := none
    isWaiting := false
    phase := if concludes then .closureReady else .inProgress
    completionPending := false }

/-- What the server has said of the evaluation is known. -/
def evaluated (c : Conversation) (evaluationId : Option String) : Conversation :=
  { c with evaluationId := fill c.evaluationId evaluationId }

section
variable {c : Conversation}

theorem reduce_clearError (failed : c.error.isSome = true)
    (identified : c.attemptId.isSome = true) :
    c.reduce .clearError = { c with error := none, phase := .inProgress } := by
  simp only [reduce, failed, identified, if_true]

/-- A completion that waited before the error takes place behind it. -/
theorem settled_setError (notOver : c.phase ≠ .completed)
    (identified : c.attemptId.isSome = true) (message : String) :
    c.settled [.setError message] = c.afterSetback c.completionPending := by
  let resumed := { c.closeMessages with error := none, phase := .inProgress, isWaiting := false }
  have cleared : (c.reduce (.setError message)).reduce .clearError = resumed := by
    rw [reduce_setError notOver]
    exact reduce_clearError rfl identified
  have nothingOpen : resumed.closeMessages = resumed := by simp [resumed, closeMessages]
  calc c.settled [.setError message]
    _ = resumed.finishMessage := congrArg finishMessage cleared
    _ = c.afterSetback c.completionPending := by
        rw [finishMessage_of_talking rfl, nothingOpen]
        rfl

/-- As far as an error leaves it, the signal says something of the evaluation and no more. -/
theorem afterSetback_signalCompletion (c : Conversation) (evaluationId : Option String)
    (concludes : Bool) :
    (c.signalCompletion evaluationId).afterSetback concludes =
      (c.evaluated evaluationId).afterSetback concludes := by
  unfold signalCompletion
  dsimp only
  split
  · split <;> rfl
  · rfl

theorem signalCompletion_of_not_talking (silent : c.phase ≠ .inProgress)
    (evaluationId : Option String) : c.signalCompletion evaluationId = c.evaluated evaluationId :=
  if_neg (beq_iff_eq.not.mpr silent)

theorem signalCompletion_of_silent (talking : c.phase = .inProgress)
    (silent : c.isStreaming = false) (evaluationId : Option String) :
    c.signalCompletion evaluationId = { c.evaluated evaluationId with phase := .closureReady } := by
  simp only [signalCompletion, talking, beq_self_eq_true, if_true]
  exact if_neg (Bool.eq_false_iff.mp silent)

theorem settled_signal_setError (talking : c.phase = .inProgress)
    (identified : c.attemptId.isSome = true) (evaluationId : Option String) (message : String) :
    c.settled [.assessmentComplete evaluationId, .setError message] =
      (c.evaluated evaluationId).afterSetback (c.completionPending || c.isStreaming) := by
  obtain ⟨notOver, stillIdentified, pending⟩ :
      (c.signalCompletion evaluationId).phase ≠ .completed ∧
      (c.signalCompletion evaluationId).attemptId.isSome = true ∧
      (c.signalCompletion evaluationId).completionPending =
        (c.completionPending || c.isStreaming) := by
    cases streams : c.isStreaming with
    | true =>
        rw [signalCompletion_of_streams talking streams]
        exact ⟨by simp [talking], identified, (Bool.or_true _).symm⟩
    | false =>
        rw [signalCompletion_of_silent talking streams]
        exact ⟨Phase.noConfusion, identified, (Bool.or_false _).symm⟩
  have left := settled_setError notOver stillIdentified message
  rwa [pending, afterSetback_signalCompletion] at left

theorem settled_setError_signal (talking : c.phase = .inProgress)
    (identified : c.attemptId.isSome = true) (evaluationId : Option String) (message : String) :
    c.settled [.setError message, .assessmentComplete evaluationId] =
      (c.evaluated evaluationId).afterSetback c.completionPending := by
  have notOver : c.phase ≠ .completed := by simp [talking]
  have swap : (c.reduce (.setError message)).signalCompletion evaluationId =
      (c.evaluated evaluationId).reduce (.setError message) := by
    have failed : (c.reduce (.setError message)).phase ≠ .inProgress := by
      simp [reduce_setError notOver]
    rw [signalCompletion_of_not_talking failed, reduce_setError notOver,
      reduce_setError (c := c.evaluated evaluationId) notOver]
    rfl
  have left := settled_setError (c := c.evaluated evaluationId) notOver identified message
  rw [settled, List.singleton_append, List.foldl_cons, ← swap] at left
  exact left

/-- The signal of the completion and an error, one of which comes first by chance. Whatever the
    conversation was, it is the same afterwards up to its phase; and the phase is the same unless the
    signal comes while a message receives tokens and no completion waits for its end yet. Then it
    depends on the order whether the completion takes place: if the error comes first, the signal
    finds nothing that could end. -/
theorem signal_error_commute_iff (talking : c.phase = .inProgress)
    (identified : c.attemptId.isSome = true) (evaluationId : Option String) (message : String) :
    let signalFirst := c.settled [.assessmentComplete evaluationId, .setError message]
    let errorFirst := c.settled [.setError message, .assessmentComplete evaluationId]
    (signalFirst = errorFirst ↔ (c.isStreaming = true → c.completionPending = true)) ∧
      signalFirst = (c.evaluated evaluationId).afterSetback (c.completionPending || c.isStreaming) ∧
      errorFirst = (c.evaluated evaluationId).afterSetback c.completionPending := by
  intro signalFirst errorFirst
  have signals : signalFirst = _ :=
    settled_signal_setError talking identified evaluationId message
  have fails : errorFirst = _ := settled_setError_signal talking identified evaluationId message
  refine ⟨?_, signals, fails⟩
  rw [signals, fails]
  cases pending : c.completionPending with
  | true => simp
  | false => cases streams : c.isStreaming <;> simp [afterSetback]

end

/-- Between two messages nothing streams, and the order makes no difference. -/
theorem commute_between_messages :
    let c := [Action.assign "A", .startAssessment (some "T") none "noon", .finishStreamingMessage,
      .sendMessage "two"].foldl reduce {}
    let signalFirst := c.settled [.assessmentComplete (some "E"), .setError "gone"]
    let errorFirst := c.settled [.setError "gone", .assessmentComplete (some "E")]
    signalFirst = errorFirst ∧ errorFirst.phase = .inProgress ∧
      errorFirst.evaluationId = some "E" := by
  intro c signalFirst errorFirst
  obtain ⟨same, -, left⟩ :=
    signal_error_commute_iff (c := c) (by decide) (by decide) (some "E") "gone"
  have errorLeft : errorFirst = _ := left
  refine ⟨same.mpr (by decide), ?_⟩
  rw [errorLeft]
  decide

/-- A signal while the orientation streams, and an error: the completion takes place if the signal
    comes first, and is forgotten if the error does. -/
theorem order_of_signal_and_error :
    let c := [Action.assign "A", .startAssessment (some "T") none "noon"].foldl reduce {}
    let signalFirst := c.settled [.assessmentComplete (some "E"), .setError "gone"]
    let errorFirst := c.settled [.setError "gone", .assessmentComplete (some "E")]
    c.phase = .inProgress ∧ c.attemptId = some "T" ∧ signalFirst.phase = .closureReady ∧
      errorFirst.phase = .inProgress ∧ signalFirst ≠ errorFirst := by
  decide

/-! ## An error and the beginning of the attempt -/

/-- An error has occurred, and the attempt is known although it has not begun. -/
structure Unbegun (c : Conversation) : Prop where
  failed : c.error.isSome = true
  identified : c.attemptId.isSome = true
  never : c.startedAt = none

/-- The attempt has not begun, and it cannot begin any more. -/
structure Barred (c : Conversation) : Prop where
  ready : c.phase ≠ .ready
  initializing : c.phase ≠ .initializing
  never : c.startedAt = none

section
variable {c : Conversation} {action : Action}

/-- There are two ways into the conversation: the beginning of the attempt, and an error that is put
    aside while the attempt is known. -/
theorem enters_cases (outside : c.phase.isConversing = false)
    (inside : (c.reduce action).phase.isConversing = true) :
    (c.reduce action).startedAt.isSome = true ∨
      action = .clearError ∧ c.error.isSome = true ∧ c.attemptId.isSome = true := by
  cases action with
  | startAssessment attemptId objectiveTitle startedAt =>
      left
      simp only [reduce] at inside ⊢
      split at inside
      · rename_i waits
        rw [if_pos waits]
        rfl
      · cases outside.symm.trans inside
  | clearError =>
      right
      simp only [reduce] at inside
      split at inside
      · rename_i failed
        refine ⟨rfl, failed, ?_⟩
        cases identified : c.attemptId.isSome with
        | true => rfl
        | false => simp [identified, Phase.isConversing] at inside
      · cases outside.symm.trans inside
  | assign | reset => cases inside
  | attemptIdentified | appendToken | addSystemMessage => cases outside.symm.trans inside
  | sendMessage | beginInterviewerMessage =>
      simp only [reduce] at inside
      split at inside <;> cases outside.symm.trans inside
  | grantPermissions | setError | finishStreamingMessage | assessmentComplete
  | continueAfterClosure | beginCompletion | completeAssessment =>
      -- They move between phases inside the conversation, between phases outside it, or out of it.
      grind [reduce, finishMessage, closeMessages, signalCompletion, Phase.isConversing]

theorem Unbegun.enters (unbegun : c.Unbegun) :
    (c.reduce .clearError).phase = .inProgress ∧ (c.reduce .clearError).startedAt = none := by
  rw [reduce_clearError unbegun.failed unbegun.identified]
  exact ⟨rfl, unbegun.never⟩

theorem Barred.reduce (barred : c.Barred) (goesOn : action.startsOver = false) :
    (c.reduce action).Barred := by
  obtain ⟨ready, initializing, never⟩ := barred
  constructor <;> cases action <;>
    grind [Conversation.reduce, Action.startsOver, push, openPlaceholder, append, closeMessages,
      finishMessage, signalCompletion]

theorem Barred.foldl (barred : c.Barred) {actions : List Action}
    (goesOn : ∀ action ∈ actions, action.startsOver = false) :
    (actions.foldl Conversation.reduce c).Barred := by
  induction actions generalizing c with
  | nil => exact barred
  | cons action rest ih =>
      obtain ⟨goesOnNow, goesOnLater⟩ := List.forall_mem_cons.mp goesOn
      exact ih (barred.reduce goesOnNow) goesOnLater

end

/-- Since the conversation last started over, an error was put aside at a time when the attempt was
    known and had not begun. -/
def EntersUnbegun (actions : List Action) : Prop :=
  ∃ before after : List Action, actions = before ++ .clearError :: after ∧
    (before.foldl reduce {}).Unbegun ∧ ∀ action ∈ after, action.startsOver = false

theorem EntersUnbegun.concat {actions : List Action} (enters : EntersUnbegun actions)
    {action : Action} (goesOn : action.startsOver = false) : EntersUnbegun (actions ++ [action]) := by
  obtain ⟨before, after, rfl, unbegun, goesOnBefore⟩ := enters
  refine ⟨before, after ++ [action], by rw [List.append_assoc, List.cons_append], unbegun, ?_⟩
  exact List.forall_mem_append.mpr ⟨goesOnBefore, by simpa using goesOn⟩

theorem EntersUnbegun.never {actions : List Action} (enters : EntersUnbegun actions) :
    (actions.foldl reduce {}).startedAt = none := by
  obtain ⟨before, after, rfl, unbegun, goesOn⟩ := enters
  obtain ⟨phase, never⟩ := unbegun.enters
  have barred : ((before.foldl reduce {}).reduce .clearError).Barred := by
    refine ⟨?_, ?_, never⟩ <;> rw [phase] <;> exact Phase.noConfusion
  rw [List.foldl_append, List.foldl_cons]
  exact (barred.foldl goesOn).never

theorem entersUnbegun_of_never (actions : List Action)
    (conversing : (actions.foldl reduce {}).phase.isConversing = true)
    (never : (actions.foldl reduce {}).startedAt = none) : EntersUnbegun actions := by
  induction actions using List.reverseRecOn with
  | nil => cases conversing
  | append_singleton actions action ih =>
      let before := actions.foldl reduce {}
      have last : (actions ++ [action]).foldl reduce {} = before.reduce action := List.foldl_append
      rw [last] at conversing never
      have goesOn : action.startsOver = false := by
        cases action with
        | assign | reset => cases conversing
        | _ => rfl
      have neverBefore : before.startedAt = none := by
        have retains := retains_reduce (sound_new.foldl actions) (undated_new.foldl actions) goesOn
        cases begun : before.startedAt with
        | none => rfl
        | some startedAt => cases never.symm.trans (retains .start startedAt begun)
      cases inside : before.phase.isConversing with
      | true => exact (ih inside neverBefore).concat goesOn
      | false =>
          rcases enters_cases inside conversing with begun | ⟨rfl, failed, identified⟩
          · rw [never] at begun
            cases begun
          · exact ⟨actions, [], rfl, ⟨failed, identified, neverBefore⟩, nofun⟩

/-- A conversation in which the two talk, or have talked, has begun, with one exception: an error was
    put aside before the attempt had begun, when it was known already. That leads into the
    conversation all the same, and until it starts over it has no beginning. -/
theorem begun_iff (actions : List Action) :
    let c := actions.foldl reduce {}
    (c.phase.isConversing = true → (c.startedAt.isSome = true ↔ ¬ EntersUnbegun actions)) ∧
    (c.Unbegun → (c.reduce .clearError).phase = .inProgress ∧
      (c.reduce .clearError).startedAt = none) := by
  intro c
  refine ⟨fun conversing => ⟨?_, ?_⟩, Unbegun.enters⟩
  · intro begun enters
    rw [enters.never] at begun
    cases begun
  · intro entered
    rw [Option.isSome_iff_ne_none]
    exact fun never => entered (entersUnbegun_of_never actions conversing never)

/-- An error before the attempt is known leads back to the start, and one after its beginning back
    into a conversation that has begun. -/
theorem begun_after_two_errors :
    let actions : List Action := [.assign "A", .setError "no camera", .clearError, .assign "A",
      .grantPermissions, .startAssessment none none "noon", .attemptIdentified (some "T") none none,
      .setError "gone", .clearError]
    let c := actions.foldl reduce {}
    c.phase.isConversing = true ∧ c.startedAt = some "noon" ∧ ¬ EntersUnbegun actions := by
  intro actions c
  have conversing : c.phase.isConversing = true := rfl
  exact ⟨conversing, rfl, ((begun_iff actions).1 conversing).mp rfl⟩

/-- The attempt is known before it begins, and an error is put aside: the two talk, and the
    conversation has no beginning. -/
theorem unbegun_after_error :
    let c := [Action.assign "A", .attemptIdentified (some "T") none none, .setError "gone",
      .clearError].foldl reduce {}
    c.phase = .inProgress ∧ ¬ c.startedAt.isSome = true := by
  decide

end Conversation

end Viva
