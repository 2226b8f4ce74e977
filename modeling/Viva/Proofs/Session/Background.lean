import Viva.Proofs.Conversation.Hearing
import Viva.Proofs.Session.Restart

/-! # What goes on beside the calls

While a call waits, parts of the recording are uploaded, time passes, and the learner signs in or out
and changes the permissions. Unless the learner is told of a fault of the recorder, none of this
reaches the conversation, the streams or the calls (`Aside`): the only trace are the uploads.
-/

namespace Viva

/-- A fault, which the learner is told of. -/
def RecordingEvent.isFault : RecordingEvent → Bool
  | .failed _ => true
  | _ => false

namespace Session

/-- It is no call, no answer and no read, and the host leaves the conversation alone. -/
def Stimulus.isBackground : Stimulus → Bool
  | .uploaded _ | .pump | .elapse _ | .setToken _ | .setOutcome _ => true
  | .call _ | .answer _ _ | .read _ _ | .dispatch _ => false

/-- The pump tells of a fault before it has to wait. -/
def tellsFault (s : Session) : List RecordingEvent → Bool
  | [] => false
  | event :: rest =>
    !s.pump.uploading.isSome && (event.isFault || (s.takeEvent event).tellsFault rest)

/-- The learner is told of no fault of the recorder. -/
def isUntroubled (s : Session) : List Stimulus → Bool
  | [] => true
  | stimulus :: rest =>
    !(stimulus == .pump && s.tellsFault s.untaken) && (s.step stimulus).isUntroubled rest

/-- The conversation has heard some events. The streams own what they owned, and only parts of the
    recording were sent. -/
structure Hears (s : Session) (events : List Event) (s' : Session) : Prop where
  conversation : s'.conversation = s.conversation.hear events
  lastMessage : s'.lastMessage = s.lastMessage
  slot : ∀ transport, s'.slot transport = s.slot transport
  sent : ∃ parts, s'.sent = s.sent ++ parts ∧ ∀ request ∈ parts, request.endpoint.route = .chunks

theorem Hears.of_same {s s' : Session} (slot : ∀ transport, s'.slot transport = s.slot transport)
    (conversation : s'.conversation = s.conversation) (lastMessage : s'.lastMessage = s.lastMessage)
    (sent : s'.sent = s.sent) : s.Hears [] s' :=
  ⟨conversation, lastMessage, slot, [], by rw [sent, List.append_nil], nofun⟩

theorem Hears.refl (s : Session) : s.Hears [] s :=
  .of_same (fun _ => rfl) rfl rfl rfl

theorem Hears.trans {a b c : Session} {first second : List Event} (one : a.Hears first b)
    (other : b.Hears second c) : a.Hears (first ++ second) c := by
  obtain ⟨before, sentBefore, partsBefore⟩ := one.sent
  obtain ⟨after, sentAfter, partsAfter⟩ := other.sent
  refine ⟨?_, other.lastMessage.trans one.lastMessage,
    fun transport => (other.slot transport).trans (one.slot transport), before ++ after, ?_, ?_⟩
  · rw [other.conversation, one.conversation, Conversation.hear_append]
  · rw [sentAfter, sentBefore, List.append_assoc]
  · intro request member
    rcases List.mem_append.mp member with early | late
    · exact partsBefore request early
    · exact partsAfter request late

/-! ## The pump -/

theorem hears_setPump (s : Session) (pump : Pump) : s.Hears [] (s.setPump pump) :=
  .of_same (sameStreams_pump.setPump s pump).slot rfl rfl rfl

theorem hears_send_chunk {s s' : Session} {attemptId : String} {blob : Blob} {sequence : Nat}
    (sent : s.send .pump (.chunk attemptId blob sequence) = .ok s') : s.Hears [] s' := by
  have same := sameStreams_send sent
  obtain ⟨token, -, rfl⟩ := eq_of_send sent
  refine ⟨rfl, rfl, same.slot, [⟨.pump, .chunk attemptId blob sequence, token⟩], rfl, ?_⟩
  intro request member
  rw [List.mem_singleton.mp member]
  rfl

theorem hears_uploadNext (s : Session) (attemptId : String) (held : List (Blob × Nat)) :
    s.Hears [] (s.uploadNext attemptId held) := by
  rcases uploadNext_cases s attemptId held with same | ⟨_, _, _, s', -, sent, same⟩ <;> rw [same]
  · exact hears_setPump s _
  · exact (hears_send_chunk sent).trans (hears_setPump s' _)

theorem hears_takeEvent (s : Session) {event : RecordingEvent} (fine : event.isFault = false) :
    s.Hears [] (s.takeEvent event) := by
  refine (hears_setPump s { s.pump with taken := s.pump.taken + 1 }).trans ?_
  cases event with
  | stateChanged state => exact .refl _
  | maxDurationReached => exact .of_same (SameStreams.of_fields rfl rfl rfl).slot rfl rfl rfl
  | failed failure => cases fine
  | chunkReady blob sequence =>
      simp only [takeEvent]
      split
      · exact hears_setPump _ _
      · exact hears_uploadNext _ _ _

theorem hears_takeEvents (s : Session) {events : List RecordingEvent}
    (fine : s.tellsFault events = false) : s.Hears [] (s.takeEvents events) := by
  induction events generalizing s with
  | nil => exact .refl s
  | cons event rest ih =>
      unfold takeEvents
      split
      · exact .refl s
      · rename_i free
        simp only [tellsFault, free, Bool.not_false, Bool.true_and, Bool.or_eq_false_iff] at fine
        exact (hears_takeEvent s fine.1).trans (ih _ fine.2)

theorem hears_takePumpAnswer (s : Session) : s.Hears [] s.takePumpAnswer := by
  unfold takePumpAnswer
  split
  · exact hears_uploadNext s _ _
  · exact .refl s

/-! ## Staying as it is -/

/-- The stream that a call waits for, if it waits for one, is not cancelled. -/
def Undisturbed (s : Session) (state : CallState) : Prop :=
  ∀ transport generation, state.generation? transport = some generation →
    (s.slot transport).isCancelled generation = false

theorem undisturbed_returned (s : Session) (result : CallResult) :
    s.Undisturbed (.returned result) := by
  intro transport generation waits
  cases waits

/-- Nothing has reached the conversation or a stream, and every call that is not cancelled is where
    it was. -/
structure Aside (s s' : Session) : Prop extends Hears s [] s' where
  calls : ∀ (id : Nat) (state : CallState), s.calls[id]? = some state → s.Undisturbed state →
    s'.calls[id]? = some state

theorem Aside.refl (s : Session) : s.Aside s :=
  ⟨.refl s, fun _ _ here _ => here⟩

theorem Aside.undisturbed {s s' : Session} (aside : s.Aside s') {state : CallState}
    (undisturbed : s.Undisturbed state) : s'.Undisturbed state := by
  intro transport generation waits
  rw [aside.slot]
  exact undisturbed transport generation waits

theorem Aside.trans {a b c : Session} (first : a.Aside b) (second : b.Aside c) : a.Aside c where
  toHears := first.toHears.trans second.toHears
  calls := by
    intro id state here undisturbed
    exact second.calls id state (first.calls id state here undisturbed)
      (first.undisturbed undisturbed)

theorem aside_settle (s : Session) : s.Aside s.settle where
  toHears := .of_same (untouched_settle s).slot rfl rfl rfl
  calls := by
    intro id state here undisturbed
    rcases getElem?_releaseCancelled (s.onRecorder Recorder.settle) here with
      same | ⟨-, transport, generation, waits, gone⟩
    · exact same
    · have live := undisturbed transport generation waits
      rw [(sameStreams_onRecorder s Recorder.settle).slot, live] at gone
      cases gone

/-- What does not reach the calls or the conversation at once does not do so later. -/
theorem aside_step_of_quiet {s : Session} {stimulus : Stimulus}
    (hears : s.Hears [] (s.react stimulus)) (same : s.SameStreams (s.react stimulus)) :
    s.Aside (s.step stimulus) := by
  have quiet : s.Aside (s.react stimulus) := by
    refine ⟨hears, fun id state here _ => ?_⟩
    rwa [same.calls]
  exact quiet.trans (aside_settle _)

theorem aside_step {s : Session} {stimulus : Stimulus} (background : stimulus.isBackground = true)
    (fine : (stimulus == .pump && s.tellsFault s.untaken) = false) :
    s.Aside (s.step stimulus) := by
  cases stimulus with
  | call | answer | read | dispatch => cases background
  | uploaded answer =>
      exact aside_step_of_quiet (hears_takePumpAnswer s) (sameStreams_pump.takePumpAnswer s)
  | pump => exact aside_step_of_quiet (hears_takeEvents s fine) (sameStreams_pump.takeEvents s _)
  | elapse ms =>
      have same := sameStreams_onRecorder s (·.elapse ms)
      exact aside_step_of_quiet (.of_same same.slot rfl rfl rfl) same
  | setToken token =>
      have same : s.SameStreams (s.react (.setToken token)) := .of_fields rfl rfl rfl
      exact aside_step_of_quiet (.of_same same.slot rfl rfl rfl) same
  | setOutcome outcome =>
      have same := sameStreams_onRecorder s (·.setOutcome outcome)
      exact aside_step_of_quiet (.of_same same.slot rfl rfl rfl) same

/-- A run goes on beside the calls up to the first stimulus that is not in the background. -/
theorem run_first {s : Session} {stimuli others : List Stimulus} {first : Stimulus}
    (foreground : stimuli.filter (!·.isBackground) = first :: others)
    (untroubled : s.isUntroubled stimuli = true) :
    ∃ s' after, s.Aside s' ∧ s.run stimuli = (s'.step first).run after ∧
      after.filter (!·.isBackground) = others ∧ (s'.step first).isUntroubled after = true := by
  induction stimuli generalizing s with
  | nil => cases foreground
  | cons stimulus rest ih =>
      rw [isUntroubled, Bool.and_eq_true, Bool.not_eq_true'] at untroubled
      cases background : stimulus.isBackground with
      | true =>
          rw [List.filter_cons_of_neg (by simp [background])] at foreground
          obtain ⟨s', after, aside, run, later⟩ := ih foreground untroubled.2
          exact ⟨s', after, (aside_step background untroubled.1).trans aside, run, later⟩
      | false =>
          rw [List.filter_cons_of_pos (by simp [background])] at foreground
          obtain ⟨rfl, further⟩ := List.cons.inj foreground
          exact ⟨s, rest, .refl s, rfl, further, untroubled.2⟩

/-- A read that comes after its call has returned is passed over. -/
theorem aside_step_read {s : Session} {id : Nat} {result : CallResult}
    (returned : s.calls[id]? = some (.returned result)) (read : Read) :
    s.Aside (s.step (.read id read)) := by
  have nothing : s.react (.read id read) = s := by
    simp only [react, takeReadOf, returned]
  exact aside_step_of_quiet (by rw [nothing]; exact .refl s) (by rw [nothing]; exact .refl s)

theorem aside_run_of_returned {s : Session} {id : Nat} {result : CallResult}
    (returned : s.calls[id]? = some (.returned result)) {stimuli : List Stimulus}
    (only : ∀ stimulus ∈ stimuli, stimulus.isBackground = false → ∃ read, stimulus = .read id read)
    (untroubled : s.isUntroubled stimuli = true) : s.Aside (s.run stimuli) := by
  induction stimuli generalizing s with
  | nil => exact .refl s
  | cons stimulus rest ih =>
      rw [isUntroubled, Bool.and_eq_true, Bool.not_eq_true'] at untroubled
      have next : s.Aside (s.step stimulus) := by
        cases background : stimulus.isBackground with
        | true => exact aside_step background untroubled.1
        | false =>
            obtain ⟨read, rfl⟩ := only stimulus List.mem_cons_self background
            exact aside_step_read returned read
      have stays := next.calls id _ returned (undisturbed_returned s result)
      exact next.trans (ih stays (fun other later => only other (List.mem_cons_of_mem _ later))
        untroubled.2)

end Session

end Viva
