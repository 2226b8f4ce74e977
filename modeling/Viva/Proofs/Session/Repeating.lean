import Viva.Proofs.Session.Completion
import Viva.Proofs.Session.Utterances

/-! # Saying a message again

Doing again what failed last posts the message that is remembered, whatever it was that failed. That
is what the learner said last, unless asking for the devices again has begun anew meanwhile: then the
message is left over from before (`LeftOver`). Whether it was answered makes no difference.
-/

namespace Viva.Session

open Conversation

section
variable {new s : Session} {stimuli : List Stimulus} {content : String}

/-! ## The message that is remembered -/

/-- The message is what was said last when asking for the devices again began anew. -/
def LeftOver (new : Session) (stimuli : List Stimulus) (content : String) : Prop :=
  ∃ before after : List Stimulus, stimuli = before ++ .call .grantPermissions :: after ∧
    (new.run before).beginsAnew .grantPermissions = true ∧
      (new.run before).conversation.utterances.getLast? = some content

theorem LeftOver.later (leftOver : LeftOver new stimuli content) (stimulus : Stimulus) :
    LeftOver new (stimuli ++ [stimulus]) content := by
  obtain ⟨before, after, rfl, anew, last⟩ := leftOver
  exact ⟨before, after ++ [stimulus], List.append_assoc .., anew, last⟩

/-- What was said last is remembered, or else a message is that is left over. -/
def Remembers (new : Session) (stimuli : List Stimulus) : Prop :=
  (new.run stimuli).lastMessage = (new.run stimuli).conversation.utterances.getLast? ∨
    (new.run stimuli).conversation.utterances = [] ∧
      ∃ content, (new.run stimuli).lastMessage = some content ∧ LeftOver new stimuli content

theorem utterances_assign (s : Session) (assignmentId : String) :
    (s.dispatch (.assign assignmentId)).conversation.Sound ∧
      (s.dispatch (.assign assignmentId)).conversation.utterances = [] := by
  rw [conversation_dispatch]
  exact ⟨sound_about assignmentId, rfl⟩

/-- Of the calls that begin anew only asking for the devices leaves a message over. -/
theorem Remembers.anew (remembers : Remembers new stimuli) {call : Call}
    (anew : (new.run stimuli).beginsAnew call = true) :
    Remembers new (stimuli ++ [.call call]) := by
  have step : new.run (stimuli ++ [.call call]) = (new.run stimuli).step (.call call) :=
    List.foldl_append
  by_cases named : ∃ assignmentId, call = .assign assignmentId
  · obtain ⟨assignmentId, rfl⟩ := named
    refine .inl ?_
    rw [step]
    have conversation : ((new.run stimuli).step (.call (.assign assignmentId))).conversation =
        about assignmentId :=
      (conversation_dispatch _ _).trans rfl
    rw [conversation]
    rfl
  · obtain ⟨assignmentId, posts⟩ :=
      posts_anew anew fun assignmentId same => named ⟨assignmentId, same⟩
    obtain ⟨fresh, silent⟩ := utterances_assign (new.run stimuli) assignmentId
    have forgotten := (posts.said fresh).2.trans silent
    have kept : ((new.run stimuli).step (.call call)).lastMessage = (new.run stimuli).lastMessage :=
      posts.lastMessage
    unfold Remembers
    rw [step, forgotten, kept]
    cases remembered : (new.run stimuli).lastMessage with
    | none => exact .inl rfl
    | some content =>
        refine .inr ⟨rfl, content, rfl, ?_⟩
        cases call with
        | grantPermissions =>
            rcases remembers with last | ⟨-, other, same, leftOver⟩
            · exact ⟨stimuli, [], rfl, anew, last.symm.trans remembered⟩
            · obtain rfl := Option.some.inj (same.symm.trans remembered)
              exact leftOver.later _
        | retry => simp [beginsAnew, remembered] at anew
        | assign assignmentId => exact absurd ⟨assignmentId, rfl⟩ named
        | _ => cases anew

theorem Remembers.step (remembers : Remembers new stimuli)
    (sound : (new.run stimuli).conversation.Sound) {stimulus : Stimulus}
    (host : ∀ action, stimulus = .dispatch action → action.isMute = true) :
    Remembers new (stimuli ++ [stimulus]) := by
  have step : new.run (stimuli ++ [stimulus]) = (new.run stimuli).step stimulus := List.foldl_append
  cases recalls sound host with
  | stays posts =>
      obtain ⟨-, said⟩ := posts.said sound
      unfold Remembers
      rw [step, posts.lastMessage, said]
      exact remembers.imp_right fun ⟨silent, content, remembered, leftOver⟩ =>
        ⟨silent, content, remembered, leftOver.later stimulus⟩
  | adds taken =>
      obtain ⟨remembered, -, said⟩ := said_of_taken taken sound
      refine .inl ?_
      rw [step, remembered, said, List.getLast?_concat]
  | begins anew => exact remembers.anew anew

theorem remembers_run (isNew : new.New) (silent : new.lastMessage = none)
    (host : ∀ action, .dispatch action ∈ stimuli → action.isMute = true) :
    Remembers new stimuli := by
  induction stimuli using List.reverseRecOn with
  | nil =>
      refine .inl ?_
      change new.lastMessage = new.conversation.utterances.getLast?
      rw [silent, isNew.conversation]
      rfl
  | append_singleton before stimulus ih =>
      have sound : (new.run before).conversation.Sound :=
        sound_run isNew.sound before
      refine (ih fun action member => host action (List.mem_append_left _ member)).step sound ?_
      rintro action rfl
      exact host action (List.mem_append_right _ List.mem_cons_self)

/-- A message that is posted again is what the learner said last, or, if nothing was said, it is left
    over from before the session began anew. -/
theorem posted_again (isNew : new.New) (silent : new.lastMessage = none)
    (host : ∀ action, .dispatch action ∈ stimuli → action.isMute = true) :
    let s := new.run stimuli
    let t := s.step (.call .retry)
    ∀ content ∈ s.posted t,
      (t.conversation.utterances ≠ [] → t.conversation.utterances.getLast? = some content) ∧
        (t.conversation.utterances = [] → LeftOver new stimuli content) := by
  intro s t content posted
  have sound : s.conversation.Sound := sound_run (isNew.conversation ▸ sound_new) stimuli
  have remembers : Remembers new stimuli := remembers_run isNew silent host
  rw [posted_retry sound, Option.mem_toList] at posted
  obtain ⟨remembered, old⟩ := remembered_of_resent posted
  rw [((posts_step_retry sound old).said sound).2]
  rcases remembers with last | ⟨nothing, other, same, leftOver⟩
  · refine ⟨fun _ => last.symm.trans remembered, fun nothing => ?_⟩
    rw [remembered, nothing] at last
    cases last
  · obtain rfl := Option.some.inj (same.symm.trans remembered)
    exact ⟨fun something => absurd nothing something, fun _ => leftOver⟩

/-- The interviewer welcomes the learner and tells which attempt this is. -/
def welcomeText : String :=
  "event: token\ndata: \x7b\"content\":\"Welcome\"\x7d\n\n" ++
    "event: done\ndata: \x7b\"attempt_id\":\"T\"\x7d\n\n"

/-- A reply fails, so the message is posted again. -/
theorem posted_again_after_failure :
    let new : Session := { baseUrl := "", tokenFile := some "t" }
    let stimuli : List Stimulus :=
      [.call (.assign "A"), .call (.startExisting "T" ""), .call (.sendMessage "one"),
        .call (.sendMessage "two"), .answer 3 (.status 500)]
    let s := new.run stimuli
    let t := s.step (.call .retry)
    new.New ∧ new.lastMessage = none ∧
      (∀ action, .dispatch action ∈ stimuli → action.isMute = true) ∧
      "two" ∈ s.posted t ∧ t.conversation.utterances.getLast? = some "two" := by
  intro new stimuli s t
  have isNew : new.New := ⟨⟨rfl, fun transport => by cases transport <;> rfl⟩, rfl⟩
  have host : ∀ action, .dispatch action ∈ stimuli → action.isMute = true := by
    intro action member
    simp [stimuli] at member
  have posted : "two" ∈ s.posted t := by decide +kernel
  have something : t.conversation.utterances ≠ [] := by decide +kernel
  exact ⟨isNew, rfl, host, posted, (posted_again isNew rfl host "two" posted).1 something⟩

/-- The first start has not told its attempt when the learner says something, so that fails. The
    devices are asked for again, the next start welcomes the learner, and the standing connection is
    refused: what is posted then was never said in this conversation. -/
theorem early_message_posted_again :
    let new : Session := { baseUrl := "", tokenFile := some "t" }
    let stimuli : List Stimulus :=
      [.call (.assign "A"), .call .grantPermissions, .call .start, .answer 2 (.status 200),
        .call (.sendMessage "Early"), .call .grantPermissions, .call .start,
        .answer 5 (.status 200), .read 5 (.bytes (Text.Utf8.encode welcomeText)), .read 5 .ended,
        .call .followEvents, .answer 6 (.status 500)]
    let s := new.run stimuli
    let t := s.step (.call .retry)
    new.New ∧ new.lastMessage = none ∧
      (∀ action, .dispatch action ∈ stimuli → action.isMute = true) ∧
      s.posted t = ["Early"] ∧ t.conversation.utterances = [] := by
  intro new stimuli s t
  have isNew : new.New := ⟨⟨rfl, fun transport => by cases transport <;> rfl⟩, rfl⟩
  have host : ∀ action, .dispatch action ∈ stimuli → action.isMute = true := by
    intro action member
    simp [stimuli] at member
  refine ⟨isNew, rfl, host, ?_⟩
  decide +kernel

/-! ## Until it is replaced -/

theorem lastMessage_run (sound : s.conversation.Sound)
    (stays : s.occurs replaces stimuli = false) : (s.run stimuli).lastMessage = s.lastMessage := by
  induction stimuli generalizing s with
  | nil => rfl
  | cons stimulus rest ih =>
      rw [occurs, Bool.or_eq_false_iff] at stays
      exact (ih (sound_run sound [stimulus]) stays.2).trans (lastMessage_step sound stays.1)

/-- What has been replaced has been replaced by something that was said. -/
theorem said_of_replaced (sound : s.conversation.Sound)
    (replaced : s.occurs replaces stimuli = true)
    (remembered : (s.run stimuli).lastMessage = some content) :
    ∃ before after : List Stimulus, stimuli = before ++ .call (.sendMessage content) :: after ∧
      (s.run before).takesMessage content = true := by
  induction stimuli generalizing s with
  | nil => cases replaced
  | cons stimulus rest ih =>
      have soundThen : (s.step stimulus).conversation.Sound := sound_run sound [stimulus]
      cases later : (s.step stimulus).occurs replaces rest with
      | true =>
          obtain ⟨before, after, rfl, taken⟩ := ih soundThen later remembered
          exact ⟨stimulus :: before, after, rfl, taken⟩
      | false =>
          have same : (s.step stimulus).lastMessage = some content :=
            (lastMessage_run soundThen later).symm.trans remembered
          rw [occurs, later, Bool.or_false] at replaced
          unfold replaces at replaced
          split at replaced
          · cases same
          · rename_i other
            obtain rfl := Option.some.inj ((said_of_taken replaced sound).1.symm.trans same)
            exact ⟨[], rest, rfl, replaced⟩
          · cases replaced

/-- Whether a message was answered or not, doing something again posts it for as long as nothing
    replaces it, whatever it was that failed. After that it is posted only if it is said again. The
    conversation is sound in every run (`sound_run`). -/
theorem posted_until_replaced (sound : s.conversation.Sound)
    (taken : s.takesMessage content = true) (stimuli : List Stimulus) :
    let said := s.step (.call (.sendMessage content))
    let u := said.run stimuli
    let t := u.step (.call .retry)
    (said.occurs replaces stimuli = false →
      u.posted t =
        if u.conversation.phase == .error && u.conversation.attemptId.isSome && u.token?.isSome then
          [content]
        else []) ∧
    (said.occurs replaces stimuli = true → ∀ again ∈ u.posted t,
      ∃ before after : List Stimulus, stimuli = before ++ .call (.sendMessage again) :: after ∧
        (said.run before).takesMessage again = true) := by
  intro said u t
  obtain ⟨remembers, soundThen, -⟩ := said_of_taken taken sound
  have posted : u.posted t = u.resent?.toList := posted_retry (sound_run soundThen stimuli)
  refine ⟨fun stays => ?_, fun replaced again isPosted => ?_⟩
  · have remembered : u.lastMessage = some content :=
      (lastMessage_run soundThen stays).trans remembers
    rw [posted, resent?, remembered]
    split <;> rfl
  · rw [posted, Option.mem_toList] at isPosted
    exact said_of_replaced soundThen replaced (remembered_of_resent isPosted).1

/-- A reply is refused, so its message is posted again, until another one is said. -/
theorem posted_until_another :
    let new : Session := { baseUrl := "", tokenFile := some "t" }
    let s := new.run [.call (.assign "A"), .call (.startExisting "T" "")]
    let said := s.step (.call (.sendMessage "one"))
    let refused := said.run [.answer 2 (.status 500)]
    let another : List Stimulus := [.call (.sendMessage "two"), .answer 3 (.status 500)]
    s.conversation.Sound ∧ s.takesMessage "one" = true ∧
      refused.posted (refused.step (.call .retry)) = ["one"] ∧
      "two" ∈ (said.run another).posted ((said.run another).step (.call .retry)) ∧
      ∃ before after : List Stimulus, another = before ++ .call (.sendMessage "two") :: after ∧
        (said.run before).takesMessage "two" = true := by
  intro new s said refused another
  have fresh : new.conversation.Sound := sound_new
  have sound : s.conversation.Sound := sound_run fresh _
  have taken : s.takesMessage "one" = true := by decide +kernel
  obtain ⟨again, -⟩ := posted_until_replaced sound taken [.answer 2 (.status 500)]
  obtain ⟨-, only⟩ := posted_until_replaced sound taken another
  have stays : said.occurs replaces [.answer 2 (.status 500)] = false := by decide +kernel
  have replaced : said.occurs replaces another = true := by decide +kernel
  have failed : (refused.conversation.phase == .error && refused.conversation.attemptId.isSome &&
      refused.token?.isSome) = true := by decide +kernel
  have posted : "two" ∈ (said.run another).posted ((said.run another).step (.call .retry)) := by
    decide +kernel
  exact ⟨sound, taken, (again stays).trans (if_pos failed), posted, only replaced "two" posted⟩

/-- A whole reply. -/
def answerText : String :=
  "event: token\ndata: \x7b\"content\":\"Four.\"\x7d\n\nevent: done\ndata: \x7b\x7d\n\n"

/-- The message is answered, and its call has returned so; then the standing connection is refused,
    and the message is posted a second time. -/
theorem answered_message_posted_again :
    let s := ({ baseUrl := "", tokenFile := some "t" } : Session).run
      [.call (.assign "A"), .call .grantPermissions, .call .start, .answer 2 (.status 200),
        .read 2 (.bytes (Text.Utf8.encode welcomeText)), .read 2 .ended]
    let answered := (s.step (.call (.sendMessage "two"))).run
      [.answer 3 (.status 200), .read 3 (.bytes (Text.Utf8.encode answerText)), .read 3 .ended]
    let u := answered.run [.call .followEvents, .answer 4 (.status 500)]
    let t := u.step (.call .retry)
    s.takesMessage "two" = true ∧
      answered.calls[3]?.any CallState.hasSucceeded = true ∧
      answered.conversation.phase = .inProgress ∧ answered.conversation.isWaiting = false ∧
      u.posted t = ["two"] := by
  intro s answered u t
  decide +kernel

end

end Viva.Session
