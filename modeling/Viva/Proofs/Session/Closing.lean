import Viva.Proofs.Session.HandingIn

/-! # A finished conversation

A call that finishes an attempt closes the streams under way, so that nothing else is heard until the
attempt is handed in. Two things can spoil the end. A message that no stream was filling stays open,
since only a stream that is cut off closes its message. And a fault of the recorder that the learner
is told of meanwhile ends the conversation with an error, though the call succeeds.
-/

namespace Viva

namespace Conversation

/-- It has ended with an error, and nothing is awaited. -/
def Failed (c : Conversation) : Prop :=
  c.phase = .error ∧ c.Rests

theorem failed_setError {c : Conversation} (notOver : c.phase ≠ .completed) (message : String) :
    (c.reduce (.setError message)).Failed := by
  have closes : c.reduce (.setError message) =
      { c.closeMessages with phase := .error, error := some message, isWaiting := false } := by
    simp [reduce, notOver]
  rw [closes]
  exact ⟨rfl, isStreaming_closeMessages c, rfl⟩

theorem Failed.notOver {c : Conversation} (failed : c.Failed) : c.phase ≠ .completed := by
  rw [failed.1]
  nofun

end Conversation

namespace Session

open Conversation

section
variable {s : Session}

/-! ## Faults that the learner is told of -/

theorem failed_report (notOver : s.conversation.phase ≠ .completed) (failure : Failure) :
    (s.report failure).conversation.Failed := by
  have said : (s.report failure).conversation =
      s.conversation.reduce (.setError failure.learnerMessage) := conversation_dispatch _ _
  rw [said]
  exact failed_setError notOver _

theorem conversation_takeEvent {event : RecordingEvent} (fine : event.isFault = false) :
    (s.takeEvent event).conversation = s.conversation :=
  (hears_takeEvent s fine).conversation

theorem failed_takeEvents_of_failed (failed : s.conversation.Failed) (events : List RecordingEvent) :
    (s.takeEvents events).conversation.Failed := by
  induction events generalizing s with
  | nil => exact failed
  | cons event rest ih =>
      unfold Session.takeEvents
      split
      · exact failed
      · refine ih ?_
        cases fault : event.isFault with
        | false => rwa [conversation_takeEvent fault]
        | true =>
            cases event with
            | failed failure => exact failed_report failed.notOver failure
            | stateChanged | maxDurationReached | chunkReady => cases fault

/-- A fault that is told ends the conversation with an error. -/
theorem failed_takeEvents {events : List RecordingEvent} (faulty : s.tellsFault events = true)
    (notOver : s.conversation.phase ≠ .completed) : (s.takeEvents events).conversation.Failed := by
  induction events generalizing s with
  | nil => cases faulty
  | cons event rest ih =>
      rw [tellsFault, Bool.and_eq_true, Bool.not_eq_true'] at faulty
      obtain ⟨free, told⟩ := faulty
      simp only [Session.takeEvents, free, Bool.false_eq_true, if_false]
      cases fault : event.isFault with
      | false =>
          rw [fault, Bool.false_or] at told
          exact ih told (by rwa [conversation_takeEvent fault])
      | true =>
          cases event with
          | failed failure =>
              refine failed_takeEvents_of_failed ?_ rest
              exact failed_report notOver failure
          | stateChanged | maxDurationReached | chunkReady => cases fault

/-! ## While an attempt is handed in -/

/-- One call hands in, and no stream owns a slot. The conversation is as it was when the call closed
    it, or it has failed since. -/
structure Closing (id : Nat) (closed : Conversation) (fine : Bool) (s : Session) : Prop where
  vacant : s.Vacant
  hands : ∃ state : CallState, s.calls[id]? = some state ∧ state.handsIn = true
  alone : ∀ (other : Nat) (state : CallState), s.calls[other]? = some state →
    state.handsIn = true → other = id
  conversation : if fine then s.conversation = closed else s.conversation.Failed

variable {id : Nat} {closed : Conversation} {fine : Bool}

theorem Closing.notOver (closing : Closing id closed fine s) (handing : closed.phase = .completing) :
    s.conversation.phase ≠ .completed := by
  have known := closing.conversation
  cases fine with
  | true =>
      have same : s.conversation = closed := known
      rw [same, handing]
      nofun
  | false => exact Failed.notOver known

/-- Whatever happens beside the handing in only matters if it is a fault that is told. -/
theorem Closing.goesOn (closing : Closing id closed fine s) (handing : closed.phase = .completing)
    {stimulus : Stimulus} (passive : stimulus.isPassive = true)
    (goesOn : s.goesOn stimulus = true) :
    Closing id closed (fine && !(stimulus == .pump && s.tellsFault s.untaken)) (s.step stimulus) := by
  obtain ⟨state, here, hands⟩ := closing.hands
  have stays := handsIn_step here hands (foreign_of_goesOn here hands goesOn)
  have proceeds : Proceeds true s (s.step stimulus) :=
    proceeds_step s stimulus (fun _ => goesOn) fun _ active => by cases passive.symm.trans active
  have alone : ∀ (other : Nat) (state : CallState), (s.step stimulus).calls[other]? = some state →
      state.handsIn = true → other = id := by
    intro other state there handsThere
    exact closing.alone other state (proceeds.calls rfl other state there handsThere) handsThere
  cases told : stimulus == .pump && s.tellsFault s.untaken with
  | false =>
      obtain ⟨slots, same⟩ := closing.vacant.untouched passive goesOn told
      refine ⟨fun transport => ?_, ⟨state, stays, hands⟩, alone, ?_⟩
      · rw [slots]
        exact closing.vacant transport
      · rw [same, Bool.not_false, Bool.and_true]
        exact closing.conversation
  | true =>
      rw [Bool.and_eq_true, beq_iff_eq] at told
      obtain ⟨rfl, faulty⟩ := told
      have failed := failed_takeEvents faulty (closing.notOver handing)
      refine ⟨fun transport => ?_, ⟨state, stays, hands⟩, alone, ?_⟩
      · have settled := (untouched_settle (s.react .pump)).slot transport
        have same := settled.trans ((sameStreams_pump.takeEvents s s.untaken).slot transport)
        exact (congrArg Slot.current same).trans (closing.vacant transport)
      · rw [Bool.not_true, Bool.and_false]
        exact failed

/-- The upload was answered: the call goes on to hand in, or it fails. -/
theorem Closing.uploaded (closing : Closing id closed fine s) {attemptId : String}
    {recording : Blob} (here : s.calls[id]? = some (.waiting (.upload attemptId recording)))
    (answer : Answer) :
    (∃ result, (s.step (.answer id answer)).calls[id]? = some (.returned result)) ∨
      Closing id closed fine (s.step (.answer id answer)) := by
  obtain ⟨inside, -⟩ := List.getElem?_eq_some_iff.mp here
  rcases answer_upload here answer with ⟨-, requests | ⟨failure, -, fails⟩⟩ | ⟨failure, -, fails⟩
  · have settles := untouched_settle (s.react (.answer id answer))
    refine .inr ⟨fun transport => ?_, ⟨_, requests.waits inside rfl, rfl⟩, ?_, ?_⟩
    · have same := (settles.slot transport).trans (requests.slot transport)
      exact (congrArg Slot.current same).trans (closing.vacant transport)
    · intro other state there hands
      have settled : Proceeds true (s.react (.answer id answer)) (s.step (.answer id answer)) :=
        proceeds_settle _
      have before := settled.calls rfl other state there hands
      rw [requests.calls] at before
      by_cases same : id = other
      · exact same.symm
      · rw [List.getElem?_set_ne same] at before
        exact closing.alone other state before hands
    · have same : (s.step (.answer id answer)).conversation = s.conversation :=
        settles.conversation.trans requests.conversation
      rw [same]
      exact closing.conversation
  · exact .inl ⟨_, fails.returned inside⟩
  · exact .inl ⟨_, fails.returned inside⟩

theorem Closing.step (closing : Closing id closed fine s) (handing : closed.phase = .completing)
    {stimulus : Stimulus} (passive : stimulus.isPassive = true) :
    (∃ result, (s.step stimulus).calls[id]? = some (.returned result)) ∨
      Closing id closed (fine && !(stimulus == .pump && s.tellsFault s.untaken))
        (s.step stimulus) := by
  cases goesOn : s.goesOn stimulus with
  | true => exact .inr (closing.goesOn handing passive goesOn)
  | false =>
      -- Only the answer to a request that hands in is left, and that is the one of this call.
      cases stimulus with
      | call | dispatch => cases passive
      | read | uploaded | pump | elapse | setToken | setOutcome => cases goesOn
      | answer other answer =>
          obtain ⟨state, here, hands⟩ := handsIn_of_not_goesOn goesOn
          obtain rfl := closing.alone other state here hands
          obtain ⟨inside, -⟩ := List.getElem?_eq_some_iff.mp here
          have still : (fine && !(Stimulus.answer other answer == .pump &&
              s.tellsFault s.untaken)) = fine := Bool.and_true fine
          rw [still]
          cases state with
          | returned result => cases hands
          | waiting awaiting =>
              cases awaiting with
              | headers | read => cases hands
              | upload attemptId recording => exact closing.uploaded here answer
              | completion =>
                  left
                  rcases answer_completion here answer with ⟨-, succeeds⟩ | ⟨failure, -, fails⟩
                  · refine ⟨some (.ok ()), calls_settle_of_returned ?_⟩
                    rw [succeeds]
                    exact List.getElem?_set_self inside
                  · exact ⟨_, fails.returned inside⟩

theorem calls_run_of_returned {result : CallResult} (here : s.calls[id]? = some (.returned result))
    (stimuli : List Stimulus) : (s.run stimuli).calls[id]? = some (.returned result) := by
  obtain ⟨state, there, follows⟩ := (later_run s stimuli).follows.calls id _ here
  rwa [follows.returned result rfl] at there

/-- As long as the call has not returned, the attempt is being handed in. -/
theorem Closing.run (closing : Closing id closed fine s) (handing : closed.phase = .completing)
    {stimuli : List Stimulus} (passive : ∀ stimulus ∈ stimuli, stimulus.isPassive = true)
    {awaiting : Awaiting} (waits : (s.run stimuli).calls[id]? = some (.waiting awaiting)) :
    Closing id closed (fine && s.isUntroubled stimuli) (s.run stimuli) := by
  induction stimuli generalizing s fine with
  | nil =>
      rw [isUntroubled, Bool.and_true]
      exact closing
  | cons stimulus rest ih =>
      obtain ⟨now, later⟩ := List.forall_mem_cons.mp passive
      rw [isUntroubled, ← Bool.and_assoc]
      rcases closing.step handing now with ⟨result, returned⟩ | next
      · have ended := calls_run_of_returned returned rest
        cases waits.symm.trans ended
      · exact ih next later waits

/-! ## From the call on -/

theorem waits_of_handsIn {call : Option CallState} (hands : call.any CallState.handsIn = true) :
    ∃ awaiting, call = some (.waiting awaiting) := by
  match call with
  | some (.waiting awaiting) => exact ⟨awaiting, rfl⟩
  | some (.returned _) | none => cases hands

theorem succeeds_of_hasSucceeded {call : Option CallState}
    (succeeded : call.any CallState.hasSucceeded = true) :
    call = some (.returned (some (.ok ()))) := by
  match call with
  | some (.returned (some (.ok ()))) => rfl
  | some (.returned (some (.error _))) | some (.returned none) | some (.waiting _) | none =>
      cases succeeded

theorem Requests.closing {t : Session} (inside : id < s.calls.length)
    (alone : ∀ state ∈ s.calls, state.handsIn = false) {endpoint : Endpoint} {awaiting : Awaiting}
    (hands : (CallState.waiting awaiting).handsIn = true)
    (requests : s.closing.takeRecording.1.Requests id endpoint awaiting t) :
    Closing id s.closing.conversation true t.settle := by
  have taken := untouched_takeRecording s.closing
  have settled := untouched_settle t
  refine ⟨fun transport => ?_, ⟨_, ?_, hands⟩, ?_, ?_⟩
  · have same := (settled.slot transport).trans
      ((requests.slot transport).trans (taken.slot transport))
    exact (congrArg Slot.current same).trans (vacant_closing s transport)
  · refine requests.waits ?_ hands
    rwa [(handedOver_keeps _).1]
  · intro other state there handsThere
    have proceeds : Proceeds true t t.settle := proceeds_settle t
    have before := proceeds.calls rfl other state there handsThere
    rw [requests.calls, (handedOver_keeps s).1] at before
    by_cases same : id = other
    · exact same.symm
    · rw [List.getElem?_set_ne same] at before
      cases (alone state (List.mem_of_getElem? before)).symm.trans handsThere
  · exact settled.conversation.trans (requests.conversation.trans taken.conversation)

/-- If the call does not return at once, no stream owns a slot any more, and the attempt is being
    handed in. -/
theorem closing_of_finish (alone : s.isHandingIn = false) :
    (∃ result, (s.step (.call .finish)).calls[s.nextCall]? = some (.returned result)) ∨
      s.canFinish = true ∧
        Closing s.nextCall s.withCall.closing.conversation true (s.step (.call .finish)) := by
  have inside : s.nextCall < s.withCall.calls.length := by simp [withCall, nextCall]
  have alone' : ∀ state ∈ s.withCall.calls, state.handsIn = false := by
    intro state member
    rcases List.mem_append.mp member with old | new
    · exact Bool.eq_false_iff.mpr (List.any_eq_false.mp alone state old)
    · rw [List.mem_singleton.mp new]
      rfl
  have refused {failure : Failure} {t : Session} (calls : t.calls = s.withCall.calls)
      (finishes : s.withCall.finish s.nextCall = t.refuse s.nextCall failure) :
      (s.step (.call .finish)).calls[s.nextCall]? = some (.returned (some (.error failure))) := by
    refine calls_settle_of_returned ?_
    change (s.withCall.finish s.nextCall).calls[s.nextCall]? = _
    rw [finishes]
    refine List.getElem?_set_self ?_
    rwa [calls]
  cases can : s.withCall.canFinish with
  | false => exact .inl ⟨_, refused rfl (finish_refused can _)⟩
  | true =>
      cases identified : s.withCall.conversation.attemptId with
      | none =>
          exact .inl ⟨_, refused (t := s.withCall.report unidentified) rfl
            (finish_unidentified can identified _)⟩
      | some attemptId =>
          rcases finish_requests can identified s.nextCall with requests | ⟨failure, -, fails⟩
          · exact .inr ⟨can, requests.closing inside alone' (handsIn_handIn attemptId _)⟩
          · refine .inl ⟨_, fails.returned ?_⟩
            rwa [(handedOver_keeps _).1]

/-- How a conversation ends. However the attempt began, and whatever streams were under way when a
    call began to finish it: if no other call hands in, and none begins meanwhile, then nothing is
    awaited when it succeeds. The attempt is completed exactly if the learner was told of no fault
    meanwhile. And a message stays open exactly if, besides, there was one that no stream was
    filling. -/
theorem closed_of_finish (alone : s.isHandingIn = false)
    {stimuli : List Stimulus} (passive : ∀ stimulus ∈ stimuli, stimulus.isPassive = true)
    {awaiting : Awaiting} {last : Stimulus}
    (waits : ((s.step (.call .finish)).run stimuli).calls[s.nextCall]? = some (.waiting awaiting))
    (succeeds : (((s.step (.call .finish)).run stimuli).step last).calls[s.nextCall]? =
      some (.returned (some (.ok ())))) :
    let asked := s.step (.call .finish)
    let ended := ((asked.run stimuli).step last).conversation
    ended.isWaiting = false ∧
      (ended.phase = .completed ↔ asked.isUntroubled stimuli = true) ∧
      (ended.isStreaming = true ↔ s.conversation.isStreaming = true ∧ s.replies.isLive = false ∧
        s.events.isLive = false ∧ asked.isUntroubled stimuli = true) := by
  intro asked ended
  rcases closing_of_finish alone with ⟨result, returned⟩ | ⟨can, closing⟩
  · cases waits.symm.trans (calls_run_of_returned returned stimuli)
  · have can' : s.withCall.canFinish = true := can
    obtain ⟨completing, silent, streams⟩ := conversation_closing can'
    have handing := (closing.run completing passive waits).conversation
    obtain ⟨state, here, hands⟩ := (closing.run completing passive waits).hands
    obtain ⟨rfl, answer, rfl, ok⟩ := completion_of_succeeded here hands succeeds
    have ends : ended = (asked.run stimuli).conversation.reduce
        (.completeAssessment (asked.run stimuli).wallClock) := by
      rcases answer_completion here answer with ⟨-, completes⟩ | ⟨failure, wrong, -⟩
      · refine ((untouched_settle _).conversation).trans ?_
        rw [completes]
        exact conversation_dispatch _ _
      · cases ok.symm.trans wrong
    rw [Bool.true_and] at handing
    -- Only a conversation that is still being handed in can be completed.
    cases fine : asked.isUntroubled stimuli with
    | true =>
        rw [fine, if_pos rfl] at handing
        have completes : ended = { s.withCall.closing.conversation with
            phase := .completed, completedAt := some (asked.run stimuli).wallClock } := by
          rw [ends, handing]
          simp [reduce, completing]
        rw [completes]
        refine ⟨silent, iff_of_true rfl rfl, ?_⟩
        change s.withCall.closing.conversation.isStreaming = true ↔ _
        rw [streams]
        change (s.conversation.isStreaming && !s.replies.isLive && !s.events.isLive) = true ↔ _
        simp [and_assoc]
    | false =>
        rw [fine, if_neg Bool.false_ne_true] at handing
        obtain ⟨wrong, still, waitsNot⟩ := handing
        have stays : ended = (asked.run stimuli).conversation := by
          refine ends.trans (if_neg ?_)
          rw [beq_iff_eq, wrong]
          decide
        rw [stays]
        refine ⟨waitsNot, iff_of_false ?_ Bool.false_ne_true, iff_of_false ?_ ?_⟩
        · rw [wrong]
          decide
        · rw [still]
          decide
        · exact fun open_ => Bool.false_ne_true open_.2.2.2

end

/-- A reply is cut off, and so is the standing connection, while the recording is uploaded. -/
theorem closed_over_reply :
    let greeted := Text.Utf8.encode "event: message_done\ndata: {}\n\n"
    let s := Session.run
      { baseUrl := "", tokenFile := some "t"
        recorder := some { options := {}, capture := { encoder := { timeslice := 1 } } } }
      [.call (.assign "A"), .call (.startExisting "T" ""), .call .followEvents,
        .answer 2 (.status 200), .read 2 (.bytes greeted), .call (.sendMessage "Hello?"),
        .answer 3 (.status 200), .elapse 3]
    let during : List Stimulus := [.elapse 2, .read 3 .ended, .pump, .answer 4 (.status 200)]
    let ended := (((s.step (.call .finish)).run during).step (.answer 4 (.status 200))).conversation
    s.conversation.isStreaming = true ∧ s.replies.isLive = true ∧ s.events.isLive = true ∧
      ended.phase = .completed ∧ ended.isStreaming = false ∧ ended.isWaiting = false := by
  intro greeted s during ended
  have streams : s.conversation.isStreaming = true := by decide +kernel
  have live : s.replies.isLive = true := by decide +kernel
  have follows : s.events.isLive = true := by decide +kernel
  have alone : s.isHandingIn = false := by decide +kernel
  have hands : ((s.step (.call .finish)).run during).calls[s.nextCall]?.any CallState.handsIn =
      true := by decide +kernel
  have returned : (((s.step (.call .finish)).run during).step
      (.answer 4 (.status 200))).calls[s.nextCall]?.any CallState.hasSucceeded = true := by
    decide +kernel
  obtain ⟨awaiting, waits⟩ := waits_of_handsIn hands
  have succeeds := succeeds_of_hasSucceeded returned
  have passive : ∀ stimulus ∈ during, stimulus.isPassive = true := by decide
  have fine : (s.step (.call .finish)).isUntroubled during = true := by decide +kernel
  obtain ⟨silent, completed, streaming⟩ := closed_of_finish alone passive waits succeeds
  refine ⟨streams, live, follows, completed.mpr fine, ?_, silent⟩
  rw [Bool.eq_false_iff]
  intro still
  cases live.symm.trans (streaming.mp still).2.1

/-- An attempt that the server knows already begins with a message that no stream fills. It is still
    open when the attempt is completed. -/
theorem open_after_finish :
    let s := Session.run { baseUrl := "", tokenFile := some "t" }
      [.call (.assign "A"), .call .grantPermissions, .call (.startExisting "T" "Ratios")]
    let ended := (s.step (.call .finish)).step (.answer 3 (.status 200))
    s.calls.all CallState.isReturned = true ∧
      ended.calls[3]? = some (.returned (some (.ok ()))) ∧
      ¬ (ended.conversation.phase = .completed ∧ ended.conversation.isStreaming = false ∧
        ended.conversation.isWaiting = false) := by
  intro s ended
  refine ⟨rfl, rfl, ?_⟩
  rintro ⟨-, closed, -⟩
  have streams : ended.conversation.isStreaming = true := rfl
  cases streams.symm.trans closed

end Session

end Viva
