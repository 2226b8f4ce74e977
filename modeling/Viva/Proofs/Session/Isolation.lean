import Viva.Proofs.Recorder.Numbering
import Viva.Proofs.Session.Completion
import Viva.Proofs.Session.Pumping

/-! # What is left of the assessment before

A session that begins anew with an assignment gives up its streams, but not what else is in flight.
A call that hands in goes on to wait for its answer, and a failure ends the new conversation with an
error; what the recorder has told of is taken later, and a fault among it does so too, as the limit
sets its mark again. These are the only ways, apart from what a recording that still goes on tells
of later (`isolated_iff`).
-/

namespace Viva

/-- Taking the event changes neither the conversation nor the mark of the limit. -/
def RecordingEvent.isHarmless : RecordingEvent → Bool
  | .stateChanged _ | .chunkReady _ _ => true
  | .maxDurationReached | .failed _ => false

namespace Reel

/-- Since the log was this one, the recorder has told of harmless changes only, until another
    recording began. -/
inductive Calm (log : List RecordingEvent) (a : Reel) : Prop where
  | waits (told : List RecordingEvent) (since : a.log = log ++ told)
      (harmless : ∀ event ∈ told, event.isHarmless = true) (inactive : a.state.isActive = false)
  | goesOn (told more : List RecordingEvent) (opening : RecordingEvent)
      (since : a.log = log ++ told ++ opening :: more)
      (harmless : ∀ event ∈ told, event.isHarmless = true) (opens : opening.isOpening = true)

variable {a b : Reel} {log events : List RecordingEvent}

theorem Calm.act (calm : a.Calm log) (act : a.Act events b) : b.Calm log := by
  have grows := act.log
  cases calm with
  | goesOn told more opening since harmless opens =>
      refine .goesOn told (more ++ events) opening ?_ harmless opens
      rw [grows, since, List.append_assoc]
      rfl
  | waits told since harmless inactive =>
      cases act with
      | rests | stalls => exact .waits told since harmless inactive
      | notices records | pauses records | hands records =>
          cases inactive.symm.trans (RecordingState.isActive_of_records records)
      | begins waits => cases inactive.symm.trans (RecordingState.isActive_of_waits waits)
      | fails active | stops active => cases inactive.symm.trans active
      | opens | refuses =>
          rw [since] at grows
          exact .goesOn told _ (.stateChanged .initializing) grows harmless rfl
      | @drops state dropped =>
          refine .waits (told ++ a.entering state) ?_ ?_ ?_
          · rw [grows, since, List.append_assoc]
          · intro event member
            rcases List.mem_append.mp member with before | new
            · exact harmless event before
            · unfold entering at new
              split at new
              · cases new
              · obtain rfl := List.mem_singleton.mp new
                rfl
          · rcases dropped with rfl | rfl <;> rfl

theorem Calm.run {seen : List Observation} (calm : a.Calm log) (run : a.Run seen b) :
    b.Calm log := by
  induction run with
  | rests => exact calm
  | step _ step ih =>
      cases step with
      | acts act => exact ih.act act
      | delivers =>
          cases ih with
          | waits told since harmless inactive => exact .waits told since harmless inactive
          | goesOn told more opening since harmless opens =>
              exact .goesOn told more opening since harmless opens

/-- As long as no other recording has begun, what is told of is harmless. -/
theorem Calm.harmless_of_openings_le (calm : a.Calm log) {n : Nat}
    (earlier : openings (a.log.take n) ≤ openings log) :
    ∀ event ∈ (a.log.take n).drop log.length, event.isHarmless = true := by
  intro event member
  rw [List.drop_take] at member
  cases calm with
  | waits told since harmless inactive =>
      rw [since, List.drop_left] at member
      exact harmless event (List.mem_of_mem_take member)
  | goesOn told more opening since harmless opens =>
      have bound : n ≤ (log ++ told).length := by
        rw [← Nat.not_lt]
        intro past
        obtain ⟨k, rfl⟩ := Nat.exists_eq_add_of_lt past
        rw [since, Nat.add_assoc, List.take_length_add_append, List.take_succ_cons,
          openings_append, openings_append] at earlier
        have one : 0 < openings (opening :: more.take k) :=
          List.countP_pos_iff.mpr ⟨opening, List.mem_cons_self, opens⟩
        omega
      rw [List.length_append] at bound
      rw [since, List.append_assoc, List.drop_left,
        List.take_append_of_le_length (by omega)] at member
      exact harmless event (List.mem_of_mem_take member)

end Reel

namespace Session

open Conversation

/-- The conversation, the recording that is kept and the mark of the limit are as they were. -/
structure Spares (s s' : Session) : Prop where
  conversation : s'.conversation = s.conversation
  kept : s'.finalRecording = s.finalRecording
  limit : s'.maxDurationReached = s.maxDurationReached

/-- What is in flight from before spares the session: answers and reads that come for the first
    calls, the answer to an upload of a part, and the first events that were told of. -/
structure Isolated (calls events : Nat) (s : Session) : Prop where
  answer : ∀ id, id < calls → ∀ answer, s.Spares (s.step (.answer id answer))
  read : ∀ id, id < calls → ∀ read, s.Spares (s.step (.read id read))
  uploaded : ∀ answer, s.Spares (s.step (.uploaded answer))
  pump : ∀ n, s.pump.taken + n ≤ events → s.Spares (s.takeEvents (s.untaken.take n))

section
variable {s s' : Session}

theorem Spares.trans {a b c : Session} (first : a.Spares b) (second : b.Spares c) : a.Spares c :=
  ⟨second.conversation.trans first.conversation, second.kept.trans first.kept,
    second.limit.trans first.limit⟩

theorem spares_settle (s : Session) : s.Spares s.settle :=
  ⟨rfl, rfl, rfl⟩

/-! ## The pump -/

theorem limit_uploadNext (s : Session) (attemptId : String) (held : List (Blob × Nat)) :
    (s.uploadNext attemptId held).maxDurationReached = s.maxDurationReached := by
  rcases uploadNext_cases s attemptId held with same | ⟨_, _, _, _, -, isSent, same⟩ <;> rw [same]
  · rfl
  · obtain ⟨token, -, rfl⟩ := eq_of_send isSent
    rfl

theorem limit_takeEvent (s : Session) (event : RecordingEvent) :
    (s.takeEvent event).maxDurationReached =
      (s.maxDurationReached || event == .maxDurationReached) := by
  cases event with
  | stateChanged | failed => exact (Bool.or_false _).symm
  | maxDurationReached => exact (Bool.or_true _).symm
  | chunkReady blob sequence =>
      refine Eq.trans ?_ (Bool.or_false _).symm
      simp only [takeEvent]
      split
      · rfl
      · exact limit_uploadNext _ _ _

theorem spares_uploaded (s : Session) (answer : Answer) : s.Spares (s.step (.uploaded answer)) := by
  have pumped := pumps_react s (show Stimulus.isPumping (.uploaded answer) = true from rfl)
  refine Spares.trans ⟨(hears_takePumpAnswer s).conversation, pumped.kept, ?_⟩ (spares_settle _)
  simp only [takePumpAnswer]
  split
  · exact limit_uploadNext s _ _
  · rfl

theorem spares_takeEvents (s : Session) {events : List RecordingEvent}
    (harmless : ∀ event ∈ events, event.isHarmless = true) : s.Spares (s.takeEvents events) := by
  induction events generalizing s with
  | nil => exact ⟨rfl, rfl, rfl⟩
  | cons event rest ih =>
      obtain ⟨now, later⟩ := List.forall_mem_cons.mp harmless
      unfold takeEvents
      split
      · exact ⟨rfl, rfl, rfl⟩
      · have fine : event.isFault = false ∧ (event == .maxDurationReached) = false := by
          cases event <;> first | exact ⟨rfl, rfl⟩ | cases now
        refine Spares.trans ⟨(hears_takeEvent s fine.1).conversation,
          (pumps_pump.takeEvent s event).kept, ?_⟩ (ih _ later)
        rw [limit_takeEvent, fine.2, Bool.or_false]

/-- The pump only goes on. -/
theorem taken_le_takeEvents (s : Session) (events : List RecordingEvent) :
    s.pump.taken ≤ (s.takeEvents events).pump.taken :=
  takeEvents_induction (R := fun a b => a.pump.taken ≤ b.pump.taken) (fun _ => Nat.le_refl _)
    Nat.le_trans (fun s event => by rw [taken_takeEvent]; exact Nat.le_succ _) s events

theorem taken_le_step (s : Session) (stimulus : Stimulus) :
    s.pump.taken ≤ (s.step stimulus).pump.taken := by
  rw [show (s.step stimulus).pump = (s.react stimulus).pump from rfl]
  cases pumping : stimulus.isPumping with
  | false =>
      have same : (s.unmarked stimulus).pump = s.pump := by
        unfold unmarked
        split <;> rfl
      have moves : Moves false _ _ := moves_react s pumping (by nofun)
      rw [moves.pump, same]
  | true =>
      cases stimulus with
      | pump => exact taken_le_takeEvents s _
      | uploaded answer =>
          simp only [react, takePumpAnswer]
          split
          · exact Nat.le_of_eq (taken_uploadNext s _ _).symm
          · exact Nat.le_refl _
      | _ => cases pumping

theorem taken_le_run (s : Session) (stimuli : List Stimulus) :
    s.pump.taken ≤ (s.run stimuli).pump.taken := by
  induction stimuli generalizing s with
  | nil => exact Nat.le_refl _
  | cons stimulus rest ih => exact (taken_le_step s stimulus).trans (ih _)

/-- What is taken next was told of and not taken before, or was told of since. -/
theorem queued_before {u : Session} (records : s.Records u)
    (taken : s.pump.taken ≤ u.pump.taken) {n events : Nat} (queued : u.pump.taken + n ≤ events)
    {event : RecordingEvent} (next : event ∈ u.untaken.take n) :
    event ∈ s.untaken ∨ event ∈ (u.told.take events).drop s.told.length := by
  obtain ⟨more, told⟩ := records.told
  obtain ⟨i, here⟩ := List.mem_iff_getElem?.mp next
  obtain ⟨near, -⟩ := List.getElem?_eq_some_iff.mp here
  have near : i < n := Nat.lt_of_lt_of_le near (List.length_take_le _ _)
  rw [List.getElem?_take_of_lt near, untaken_eq, List.getElem?_drop] at here
  rcases Nat.lt_or_ge (u.pump.taken + i) s.told.length with before | since
  · left
    rw [told, List.getElem?_append_left before] at here
    obtain ⟨skipped, same⟩ := Nat.exists_eq_add_of_le taken
    rw [same, Nat.add_assoc, ← List.getElem?_drop, ← untaken_eq] at here
    exact List.mem_of_getElem? here
  · right
    obtain ⟨later, same⟩ := Nat.exists_eq_add_of_le since
    rw [same] at here
    refine List.mem_of_getElem? (i := later) ?_
    rw [List.getElem?_drop, List.getElem?_take_of_lt (by omega), here]

/-! ## Calls of the assessment before -/

theorem exists_of_isReturned {state : CallState} (returned : state.isReturned = true) :
    ∃ result, state = .returned result := by
  cases state with
  | waiting => cases returned
  | returned result => exact ⟨result, rfl⟩

/-- Only a call that hands in goes on to hand in. -/
theorem handsIn_of_follows {before after : CallState} (follows : before.Follows after)
    (free : before.handsIn = false) : after.handsIn = false := by
  rw [Bool.eq_false_iff]
  intro hands
  rcases waits_or_returned free with ⟨transport, generation, waits⟩ | returned
  · rcases follows.stream transport generation waits with still | returned
    · cases (generation?_of_handsIn hands transport).symm.trans still
    · obtain ⟨result, rfl⟩ := exists_of_isReturned returned
      cases hands
  · obtain ⟨result, rfl⟩ := exists_of_isReturned returned
    rw [follows.returned result rfl] at hands
    cases hands

theorem spares_of_untouched {stimulus : Stimulus} (untouched : s.Untouched (s.step stimulus))
    (passive : stimulus.isPassive = true) (beside : stimulus.isPumping = false)
    (goesOn : s.goesOn stimulus = true) : s.Spares (s.step stimulus) := by
  have proceeds : Proceeds true s (s.step stimulus) :=
    proceeds_step s stimulus (fun _ => goesOn) fun _ active => by cases passive.symm.trans active
  have same : s.unmarked stimulus = s := by
    cases stimulus with
    | call call => cases passive
    | _ => rfl
  have moves : Moves false _ _ := moves_step s beside (by nofun)
  have limit := moves.limit
  rw [same] at limit
  exact ⟨congrArg Store.conversation untouched.store, proceeds.kept rfl, limit⟩

/-- A call that handed nothing in when the session began anew has lost its stream. -/
theorem untouched_old (reachable : s.Reachable) (nobody : s.isHandingIn = false)
    {assignmentId : String} {u : Session} (later : (s.step (.call (.assign assignmentId))).Later u)
    {id : Nat} (old : id < s.calls.length) :
    (∀ answer, u.Untouched (u.step (.answer id answer))) ∧
      (∀ read, u.Untouched (u.step (.read id read))) ∧
        ∃ state, u.calls[id]? = some state ∧ state.handsIn = false := by
  have here : s.calls[id]? = some s.calls[id] := List.getElem?_eq_getElem old
  have free := isHandingIn_eq_false_iff.mp nobody id _ here
  have next : s.Later (s.step (.call (.assign assignmentId))) := .single (.stimulus _)
  have all : s.Later u := next.trans later
  obtain ⟨state, there, follows⟩ := all.follows.calls id _ here
  have still := handsIn_of_follows follows free
  rcases waits_or_returned free with ⟨transport, generation, waits⟩ | returned
  · have begun := reachable.tended.begun id _ transport generation here waits
    have lost : ((s.step (.call (.assign assignmentId))).slot transport).isCurrent generation =
        false := lost_of_takes rfl rfl begun
    have begun' := Nat.lt_of_lt_of_le begun (next.follows.slot transport).next_le
    have inert := inert_of_lost ((later.follows.slot transport).lost begun' lost) there
      (follows.stream transport generation waits)
    exact ⟨inert.answer, inert.read, state, there, still⟩
  · obtain ⟨result, before⟩ := exists_of_isReturned returned
    have after := there
    rw [follows.returned result before] at after
    obtain ⟨answer, read⟩ := react_of_returned after
    exact ⟨fun a => untouched_of_nothing (answer a), fun r => untouched_of_nothing (read r),
      state, there, still⟩

theorem spares_old (reachable : s.Reachable) (nobody : s.isHandingIn = false)
    {assignmentId : String} {u : Session} (later : (s.step (.call (.assign assignmentId))).Later u)
    {id : Nat} (old : id < s.calls.length) :
    (∀ answer, u.Spares (u.step (.answer id answer))) ∧
      ∀ read, u.Spares (u.step (.read id read)) := by
  obtain ⟨answer, read, state, there, free⟩ := untouched_old reachable nobody later old
  refine ⟨fun a => spares_of_untouched (answer a) rfl rfl ?_,
    fun r => spares_of_untouched (read r) rfl rfl rfl⟩
  rw [goesOn, there, Option.any_some, free, Bool.not_false]

/-- A call that hands in ends the conversation with an error if its request is refused. -/
theorem not_spares_refusal {id : Nat} {state : CallState} (here : s.calls[id]? = some state)
    (hands : state.handsIn = true) (begins : s.conversation.phase = .initializing) :
    ¬ s.Spares (s.step (.answer id (.status 500))) := by
  intro spares
  have fails : ∃ kept failure, s.Fails id kept failure (s.react (.answer id (.status 500))) := by
    cases state with
    | returned result => cases hands
    | waiting awaiting =>
        cases awaiting with
        | headers | read => cases hands
        | upload attemptId recording =>
            rcases answer_upload here (.status 500) with ⟨ok, -⟩ | ⟨failure, -, fails⟩
            · cases ok
            · exact ⟨_, failure, fails⟩
        | completion =>
            rcases answer_completion here (.status 500) with ⟨ok, -⟩ | ⟨failure, -, fails⟩
            · cases ok
            · exact ⟨_, failure, fails⟩
  obtain ⟨kept, failure, fails⟩ := fails
  have notOver : s.conversation.phase ≠ .completed := by
    rw [begins]
    nofun
  obtain ⟨ended, -⟩ := tells_setError notOver failure
  rw [← fails.conversation, show (s.react (.answer id (.status 500))).conversation = _ from
    spares.conversation, begins] at ended
  cases ended

/-! ## Events of the assessment before -/

/-- While no attempt is known the pump waits for no upload. -/
theorem free_takeEvent (free : s.pump.uploading = none) (unknown : s.conversation.attemptId = none)
    (event : RecordingEvent) : (s.takeEvent event).pump.uploading = none ∧
      (s.takeEvent event).conversation.attemptId = none := by
  cases event with
  | stateChanged | maxDurationReached => exact ⟨free, unknown⟩
  | chunkReady blob sequence =>
      rw [takeEvent_of_unknown unknown]
      exact ⟨free, unknown⟩
  | failed failure =>
      refine ⟨free, ?_⟩
      have said : (s.takeEvent (.failed failure)).conversation =
          s.conversation.reduce (.setError failure.learnerMessage) := conversation_dispatch _ _
      rw [said, reduce]
      split
      · exact unknown
      · exact unknown

theorem tellsFault_of_mem (free : s.pump.uploading = none)
    (unknown : s.conversation.attemptId = none) {events : List RecordingEvent}
    {event : RecordingEvent} (told : event ∈ events) (fault : event.isFault = true) :
    s.tellsFault events = true := by
  induction events generalizing s with
  | nil => cases told
  | cons first rest ih =>
      rw [tellsFault, free, Option.isSome_none, Bool.not_false, Bool.true_and, Bool.or_eq_true]
      rcases List.mem_cons.mp told with rfl | later
      · exact .inl fault
      · obtain ⟨free, unknown⟩ := free_takeEvent free unknown first
        exact .inr (ih free unknown later)

theorem limit_takeEvents_of_reached (reached : s.maxDurationReached = true)
    (events : List RecordingEvent) : (s.takeEvents events).maxDurationReached = true :=
  takeEvents_induction (R := fun a b => a.maxDurationReached = true → b.maxDurationReached = true)
    (fun _ => id) (fun first second => second ∘ first)
    (fun _ event before => by rw [limit_takeEvent, before, Bool.true_or]) s events reached

theorem limit_takeEvents_of_mem (free : s.pump.uploading = none)
    (unknown : s.conversation.attemptId = none) {events : List RecordingEvent}
    (told : .maxDurationReached ∈ events) : (s.takeEvents events).maxDurationReached = true := by
  induction events generalizing s with
  | nil => cases told
  | cons first rest ih =>
      simp only [takeEvents, free, Option.isSome_none, Bool.false_eq_true, if_false]
      rcases List.mem_cons.mp told with rfl | later
      · refine limit_takeEvents_of_reached ?_ rest
        rw [limit_takeEvent]
        exact Bool.or_true _
      · obtain ⟨free, unknown⟩ := free_takeEvent free unknown first
        exact ih free unknown later

/-- A fault ends the conversation with an error, and the limit sets its mark. -/
theorem not_spares_takeEvents (free : s.pump.uploading = none)
    (unknown : s.conversation.attemptId = none) (begins : s.conversation.phase = .initializing)
    (unmarked : s.maxDurationReached = false) {events : List RecordingEvent}
    {event : RecordingEvent} (told : event ∈ events) (harmful : event.isHarmless = false) :
    ¬ s.Spares (s.takeEvents events) := by
  intro spares
  cases event with
  | stateChanged | chunkReady => cases harmful
  | maxDurationReached =>
      have reached := limit_takeEvents_of_mem free unknown told
      rw [spares.limit, unmarked] at reached
      cases reached
  | failed failure =>
      have notOver : s.conversation.phase ≠ .completed := by
        rw [begins]
        nofun
      have failed := failed_takeEvents (tellsFault_of_mem free unknown told rfl) notOver
      rw [spares.conversation, Failed, begins] at failed
      cases failed.1

theorem uploadNext_frees (s : Session) (attemptId : String) (held : List (Blob × Nat)) :
    (s.uploadNext attemptId held).pump.uploading = none ∨
      (s.uploadNext attemptId held).pump.held.length < held.length := by
  rcases uploadNext_cases s attemptId held with same | ⟨_, _, _, _, among, -, same⟩ <;> rw [same]
  · exact .inl rfl
  · exact .inr among.length_le

/-- The pump can be made to wait for no upload, with nothing else changed. -/
theorem exists_free (s : Session) : ∃ answers, s.Spares (s.run answers) ∧
    (s.run answers).pump.uploading = none ∧ (s.run answers).pump.taken = s.pump.taken := by
  induction held : s.pump.held.length using Nat.strong_induction_on generalizing s with
  | _ n ih =>
      cases uploads : s.pump.uploading with
      | none => exact ⟨[], ⟨rfl, rfl, rfl⟩, uploads, rfl⟩
      | some attemptId =>
          let answered := s.step (.uploaded (.status 200))
          have spares : s.Spares answered := spares_uploaded s _
          have pump : answered.pump = (s.uploadNext attemptId s.pump.held).pump := by
            change s.takePumpAnswer.pump = _
            rw [takePumpAnswer, uploads]
          have taken : answered.pump.taken = s.pump.taken := by
            rw [pump, taken_uploadNext]
          have frees := uploadNext_frees s attemptId s.pump.held
          rw [← pump, held] at frees
          rcases frees with free | fewer
          · exact ⟨[.uploaded (.status 200)], spares, free, taken⟩
          · obtain ⟨answers, further, free, same⟩ := ih _ fewer answered rfl
            exact ⟨.uploaded (.status 200) :: answers, spares.trans further, free,
              same.trans taken⟩

/-! ## Beginning anew -/

theorem assigned (s : Session) (assignmentId : String) :
    let t := s.step (.call (.assign assignmentId))
    t.conversation.phase = .initializing ∧ t.conversation.attemptId = none ∧
      t.maxDurationReached = false ∧ t.pump = s.pump := by
  intro t
  have anew : t.conversation = (s.withCall.assign assignmentId).conversation := rfl
  have known : (s.withCall.assign assignmentId).conversation =
      s.conversation.reduce (.assign assignmentId) := conversation_dispatch _ _
  rw [anew, known]
  exact ⟨rfl, rfl, rfl, rfl⟩

/-- Nothing from before reaches a session that has begun anew, if all of it is harmless. -/
theorem isolated_of_harmless (reachable : s.Reachable) (nobody : s.isHandingIn = false)
    (harmless : ∀ event ∈ s.untaken, event.isHarmless = true) (inStep : s.InStep)
    (assignmentId : String) (stimuli : List Stimulus) {events : Nat} :
    let u := (s.step (.call (.assign assignmentId))).run stimuli
    (∀ event ∈ (u.told.take events).drop s.told.length, event.isHarmless = true) →
      u.Isolated s.calls.length events := by
  intro u since
  obtain ⟨-, -, -, pump⟩ := assigned s assignmentId
  have anew := records_step inStep (.call (.assign assignmentId))
  have later : (s.step (.call (.assign assignmentId))).Later u := later_run _ stimuli
  refine ⟨fun id old => (spares_old reachable nobody later old).1,
    fun id old => (spares_old reachable nobody later old).2, spares_uploaded _, fun n queued => ?_⟩
  refine spares_takeEvents _ fun event next => ?_
  have taken := taken_le_run (s.step (.call (.assign assignmentId))) stimuli
  rw [pump] at taken
  have records := anew.trans (records_run (anew.inStep inStep) stimuli)
  exact (queued_before records taken queued next).elim (harmless event) (since event)

/-- A recorder that is inactive tells of nothing harmful until another recording begins. -/
theorem Records.harmless (records : s.Records s')
    (inactive : ∀ r, s.recorder = some r → r.state.isActive = false) {events : Nat}
    (earlier : openings (s'.told.take events) ≤ openings s.told) :
    ∀ event ∈ (s'.told.take events).drop s.told.length, event.isHarmless = true := by
  cases records with
  | nobody _ after =>
      have nothing : s'.told = [] := by
        rw [Session.told, after]
      rw [nothing, List.take_nil, List.drop_nil]
      exact List.forall_mem_nil _
  | @goesOn r r' seen before after run =>
      have first : s.told = r.reel.log := by
        rw [Session.told, before]
        rfl
      have second : s'.told = r'.reel.log := by
        rw [Session.told, after]
        rfl
      rw [first, second] at earlier ⊢
      have calm : r.reel.Calm r.reel.log :=
        .waits [] (List.append_nil _).symm (List.forall_mem_nil _) (inactive r before)
      exact (calm.run run).harmless_of_openings_le earlier

theorem nobody_of_isolated {assignmentId : String} {events : Nat}
    (isolated : (s.step (.call (.assign assignmentId))).Isolated s.calls.length events) :
    s.isHandingIn = false := by
  obtain ⟨begins, -, -, -⟩ := assigned s assignmentId
  rw [isHandingIn_eq_false_iff]
  intro id state here
  rw [Bool.eq_false_iff]
  intro hands
  obtain ⟨old, -⟩ := List.getElem?_eq_some_iff.mp here
  have waits : (s.step (.call (.assign assignmentId))).calls[id]? = some state :=
    handsIn_step here hands nofun
  exact not_spares_refusal waits hands begins (isolated.answer id old _)

/-- Once no upload is waited for, the pump takes all that was told of before. -/
theorem harmless_of_isolated (inStep : s.InStep) (bound : s.pump.taken ≤ s.told.length)
    {assignmentId : String}
    (isolated : ∀ stimuli, ((s.step (.call (.assign assignmentId))).run stimuli).Isolated
      s.calls.length s.told.length) :
    ∀ event ∈ s.untaken, event.isHarmless = true := by
  intro event told
  rw [← Bool.not_eq_false]
  intro harmful
  obtain ⟨begins, unknown, unmarked, pump⟩ := assigned s assignmentId
  obtain ⟨answers, spares, free, taken⟩ := exists_free (s.step (.call (.assign assignmentId)))
  have anew := records_step inStep (.call (.assign assignmentId))
  obtain ⟨more, later⟩ := (anew.trans (records_run (anew.inStep inStep) answers)).told
  have same := taken.trans (congrArg Pump.taken pump)
  have spared := (isolated answers).pump s.untaken.length (by
    rw [same, untaken_eq, List.length_drop]
    omega)
  rw [untaken_eq, untaken_eq, same, later, List.drop_append_of_le_length bound, List.take_left,
    ← untaken_eq] at spared
  refine not_spares_takeEvents free ?_ ?_ ?_ told harmful spared
  · rw [spares.conversation]
    exact unknown
  · rw [spares.conversation]
    exact begins
  · rw [spares.limit]
    exact unmarked

/-- When a session begins anew with an assignment, nothing that is in flight from before reaches the
    conversation, the recording that is kept or the mark of the limit, at whatever time it comes,
    exactly if no call hands in and no fault and no reached limit waits to be taken. If no recording
    is in progress either, that is also so for whatever is told of before another one begins. -/
theorem isolated_iff {new : Session} (unused : new.Unused) (before : List Stimulus)
    (assignmentId : String) :
    let s := new.run before
    let t := s.step (.call (.assign assignmentId))
    let settled := s.isHandingIn = false ∧ ∀ event ∈ s.untaken, event.isHarmless = true
    ((∀ stimuli, (t.run stimuli).Isolated s.calls.length s.told.length) ↔ settled) ∧
      (settled → (∀ r, s.recorder = some r → r.state.isActive = false) →
        ∀ stimuli events, openings ((t.run stimuli).told.take events) ≤ openings s.told →
          (t.run stimuli).Isolated s.calls.length events) := by
  intro s t settled
  have reachable : s.Reachable := ⟨new, unused.toFresh, later_run new before⟩
  have inStep : s.InStep := (records_run unused.inStep before).inStep unused.inStep
  refine ⟨⟨fun isolated => ⟨nobody_of_isolated (isolated []), ?_⟩, fun settled stimuli => ?_⟩, ?_⟩
  · exact harmless_of_isolated inStep (unused.books_run before).bound isolated
  · refine isolated_of_harmless reachable settled.1 settled.2 inStep assignmentId stimuli ?_
    have nothing : ((t.run stimuli).told.take s.told.length).drop s.told.length = [] := by
      rw [List.drop_eq_nil_iff]
      exact List.length_take_le _ _
    rw [nothing]
    exact List.forall_mem_nil _
  · intro settled inactive stimuli events earlier
    have anew := records_step inStep (.call (.assign assignmentId))
    have records := anew.trans (records_run (anew.inStep inStep) stimuli)
    exact isolated_of_harmless reachable settled.1 settled.2 inStep assignmentId stimuli
      (records.harmless inactive earlier)

/-- A part is uploaded and a stream waits when the session begins anew, its recording abandoned. -/
theorem isolated_from_start :
    let new : Session :=
      { baseUrl := "", tokenFile := some "t"
        recorder := some
          { options := { chunkInterval := 2 }, capture := { encoder := { timeslice := 1 } } } }
    let s := new.run
      [.call (.assign "A"), .call (.startExisting "T" ""), .elapse 3, .pump, .elapse 2,
        .call .followEvents, .call .abandon]
    let t := s.step (.call (.assign "B"))
    s.calls.length = 4 ∧ s.pump.uploading = some "T" ∧ s.untaken.length = 2 ∧
      (∀ stimuli, (t.run stimuli).Isolated 4 s.told.length) ∧
        ∀ stimuli events, openings ((t.run stimuli).told.take events) ≤ openings s.told →
          (t.run stimuli).Isolated 4 events := by
  intro new s t
  have unused : new.Unused := unused_with ⟨rfl, rfl, rfl, rfl, rfl, rfl, rfl⟩ "" (some "t")
  have calls : s.calls.length = 4 := by decide +kernel
  have settled : s.isHandingIn = false ∧ ∀ event ∈ s.untaken, event.isHarmless = true := by
    decide +kernel
  obtain ⟨isolated, since⟩ := isolated_iff unused _ "B"
  refine ⟨calls, by decide +kernel, by decide +kernel, ?_, ?_⟩
  · rw [← calls]
    exact isolated.mpr settled
  · rw [← calls]
    refine since settled fun r here => ?_
    have inactive : s.recorder.all (!·.state.isActive) = true := by decide +kernel
    rw [here] at inactive
    simpa using inactive

/-- The upload of the first recording is refused after the session has begun anew; the fault that
    ended it is taken later; and so is the limit that it reached. -/
theorem hit_by_earlier_assessment :
    let new (options : RecordingOptions) (faultAfter : Option Nat) : Session :=
      { baseUrl := "", tokenFile := some "t"
        recorder := some { options, capture := { encoder := { timeslice := 1, faultAfter } } } }
    let before : List Stimulus := [.call (.assign "A"), .call (.startExisting "T" ""), .elapse 5]
    let anew (s : Session) := s.step (.call (.assign "B"))
    let refused := anew (((new {} none).run before).step (.call .finish))
    let faulty := anew ((new {} (some 3)).run before)
    let limited := anew ((new { maxDuration := 4 } none).run before)
    (refused.conversation.error = none ∧ refused.finalRecording = none ∧
      (refused.step (.answer 2 (.status 500))).conversation.phase = .error ∧
        (refused.step (.answer 2 (.status 500))).finalRecording.isSome = true) ∧
    (faulty.conversation.error = none ∧ (faulty.step .pump).conversation.phase = .error) ∧
    (limited.maxDurationReached = false ∧ (limited.step .pump).maxDurationReached = true) := by
  intro new before anew refused faulty limited
  refine ⟨⟨?_, ?_, ?_, ?_⟩, ⟨?_, ?_⟩, ⟨?_, ?_⟩⟩ <;> decide +kernel

end

end Session

end Viva
