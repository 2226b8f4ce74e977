import Viva.Proofs.Recorder.Discarding
import Viva.Proofs.Session.Asking
import Viva.Proofs.Session.Completion
import Viva.Proofs.Session.Keeping
import Viva.Proofs.Session.Moves

/-! # After everything was dropped

A session that was abandoned lies idle until the next call begins (`Idle.step`): no stream owns a slot,
so none that still runs is heard, the recorder waits for nothing, and nobody hands in. All that still
happens is that parts of the recording which were handed out before are uploaded.
-/

namespace Viva

theorem Recorder.Works.sound {r r' : Recorder} (works : r.Works r') (sound : r.hold.Sound) :
    r'.hold.Sound := by
  cases works with
  | operates input => exact Recorder.sound_operate sound input
  | settles => exact Recorder.sound_settle sound
  | elapses ms => exact Recorder.sound_elapse sound ms

namespace Session

/-! ## Custody -/

/-- Of what the recorder was granted, only the stream that it keeps is live. -/
def InCustody (s : Session) : Prop :=
  ∀ r, s.recorder = some r → r.hold.Sound

theorem custody_work : KeptByWork fun a b => a.InCustody → b.InCustody where
  trans := fun first second => second ∘ first
  setPump := fun _ _ => id
  limit := fun _ => id
  report := fun _ _ => id
  send := fun isSent => by
    obtain ⟨token, -, rfl⟩ := eq_of_send isSent
    exact id
  dispatch := fun _ _ => id
  setSlot := fun _ transport _ => by cases transport <;> exact id
  turns := fun _ _ => id
  remembers := fun _ _ => id
  keeps := fun _ _ => id
  unmarks := fun _ => id
  asks := fun isSent => by
    obtain ⟨token, -, rfl⟩ := eq_of_send isSent
    exact id
  records := by
    rintro s r r' here works custody _ ⟨⟩
    exact works.sound (custody r here)

theorem InCustody.run {s : Session} (custody : s.InCustody) (stimuli : List Stimulus) :
    (s.run stimuli).InCustody := by
  induction stimuli generalizing s with
  | nil => exact custody
  | cons stimulus rest ih =>
      apply ih
      by_cases signs : ∃ token, stimulus = .setToken token
      · obtain ⟨token, rfl⟩ := signs
        exact custody_work.settle _ custody
      · exact custody_work.step s (fun token same => signs ⟨token, same⟩) custody

/-! ## The recorder -/

/-- Meanwhile the recorder slept, if there is one. -/
inductive Dozes (s t : Session) : Prop where
  | nobody (before : s.recorder = none) (after : t.recorder = none)
  | sleeps {r r' : Recorder} (before : s.recorder = some r) (after : t.recorder = some r')
      (slept : r.Sleeps r')

section
variable {s t u : Session}

theorem dozes_of_same (same : t.recorder = s.recorder) : s.Dozes t := by
  cases here : s.recorder with
  | none => exact .nobody here (same.trans here)
  | some r => exact .sleeps here (same.trans here) (.refl r)

theorem dozes_onRecorder {change : Recorder → Recorder}
    (sleeps : ∀ r, s.recorder = some r → r.Sleeps (change r)) : s.Dozes (s.onRecorder change) := by
  cases here : s.recorder with
  | none =>
      rw [onRecorder_none here]
      exact dozes_of_same rfl
  | some r =>
      rw [onRecorder_some here]
      exact .sleeps here rfl (sleeps r here)

theorem Dozes.trans (first : s.Dozes t) (second : t.Dozes u) : s.Dozes u := by
  cases first with
  | nobody before between =>
      cases second with
      | nobody _ after => exact .nobody before after
      | sleeps also => cases between.symm.trans also
  | sleeps before between slept =>
      cases second with
      | nobody also => cases between.symm.trans also
      | sleeps also after further =>
          obtain rfl := Option.some.inj (between.symm.trans also)
          exact .sleeps before after (slept.trans further)

theorem Dozes.slept (dozes : s.Dozes t) {r : Recorder} (here : t.recorder = some r) :
    ∃ before, s.recorder = some before ∧ before.Sleeps r := by
  cases dozes with
  | nobody _ after => cases after.symm.trans here
  | sleeps before after slept =>
      obtain rfl := Option.some.inj (after.symm.trans here)
      exact ⟨_, before, slept⟩

theorem Dozes.told (dozes : s.Dozes t) : t.told = s.told := by
  cases dozes with
  | nobody before after => simp only [Session.told, before, after]
  | sleeps before after slept => simp only [Session.told, before, after, slept.log]

/-! ## Lying idle -/

/-- No stream owns a slot, no call hands in, and the recorder waits for nothing. -/
structure Idle (s : Session) : Prop where
  vacant : s.Vacant
  nobody : s.isHandingIn = false
  nothing : ∀ r, s.recorder = some r → r.timers = {}

/-- Meanwhile the slots were left alone, no call came to hand in, the recorder slept, and only parts
    of the recording were sent. -/
structure Idles (s t : Session) : Prop where
  slot : ∀ transport, t.slot transport = s.slot transport
  nobody : s.isHandingIn = false → t.isHandingIn = false
  recorder : s.Dozes t
  sent : ∃ parts, t.sent = s.sent ++ parts ∧ ∀ request ∈ parts, request.endpoint.route = .chunks

theorem Idles.trans (first : s.Idles t) (second : t.Idles u) : s.Idles u := by
  obtain ⟨early, sentEarly, partsEarly⟩ := first.sent
  obtain ⟨late, sentLate, partsLate⟩ := second.sent
  refine ⟨fun transport => (second.slot transport).trans (first.slot transport),
    fun nobody => second.nobody (first.nobody nobody), first.recorder.trans second.recorder,
    early ++ late, ?_, fun request member => ?_⟩
  · rw [sentLate, sentEarly, List.append_assoc]
  · rcases List.mem_append.mp member with isEarly | isLate
    · exact partsEarly request isEarly
    · exact partsLate request isLate

theorem Idles.idle (idles : s.Idles t) (idle : s.Idle) : t.Idle where
  vacant := by
    intro transport
    rw [idles.slot]
    exact idle.vacant transport
  nobody := idles.nobody idle.nobody
  nothing := by
    intro r here
    obtain ⟨before, there, slept⟩ := idles.recorder.slept here
    exact slept.timers.trans (idle.nothing before there)

theorem idles_of_same (same : s.SameStreams t) (dozes : s.Dozes t) (sent : t.sent = s.sent) :
    s.Idles t where
  slot := same.slot
  nobody := fun nobody => by rwa [isHandingIn, same.calls]
  recorder := dozes
  sent := ⟨[], by rw [sent, List.append_nil], nofun⟩

theorem idles_pump (same : s.SameStreams t) (pumps : s.Pumps t) : s.Idles t where
  slot := same.slot
  nobody := fun nobody => by rwa [isHandingIn, same.calls]
  recorder := dozes_of_same pumps.recorder
  sent := pumps.sent

/-! ### Streams -/

theorem apart_takeAnswer (nobody : s.isHandingIn = false) (id : Nat) (answer : Answer) :
    s.Apart (s.takeAnswer id answer) := by
  unfold takeAnswer
  split
  · exact apart_streams.takeHeaders s id _ _ _
  · rename_i here
    cases isHandingIn_eq_false_iff.mp nobody id _ here
  · rename_i here
    cases isHandingIn_eq_false_iff.mp nobody id _ here
  · exact ⟨rfl, rfl⟩

/-- No stream is heard while none owns a slot. -/
theorem Idle.untouched (idle : s.Idle) {stimulus : Stimulus} {id : Nat}
    (own : (∃ answer, stimulus = .answer id answer) ∨ ∃ read, stimulus = .read id read) :
    s.Untouched (s.step stimulus) := by
  cases here : s.calls[id]? with
  | none =>
      rcases own with ⟨answer, rfl⟩ | ⟨read, rfl⟩
      · exact untouched_of_nothing ((react_of_unknown here).1 answer)
      · exact untouched_of_nothing ((react_of_unknown here).2 read)
  | some state =>
      exact idle.vacant.inert here (isHandingIn_eq_false_iff.mp idle.nobody id state here) stimulus own

theorem Idle.idles_stream (idle : s.Idle) {stimulus : Stimulus} {id : Nat}
    (own : (∃ answer, stimulus = .answer id answer) ∨ ∃ read, stimulus = .read id read)
    (proceeds : Proceeds true s (s.react stimulus)) (apart : s.Apart (s.react stimulus)) :
    s.Idles (s.react stimulus) where
  slot := fun transport =>
    ((untouched_settle (s.react stimulus)).slot transport).symm.trans
      ((idle.untouched own).slot transport)
  nobody := proceeds.nobody
  recorder := dozes_of_same apart.recorder
  sent := ⟨[], by rw [apart.sent, List.append_nil], nofun⟩

theorem goesOn_answer (nobody : s.isHandingIn = false) (id : Nat) (answer : Answer) :
    s.goesOn (.answer id answer) = true := by
  cases here : s.calls[id]? with
  | none => simp [goesOn, here]
  | some state => simp [goesOn, here, isHandingIn_eq_false_iff.mp nobody id state here]

/-! ### Runs -/

theorem idles_settle (nothing : ∀ r, s.recorder = some r → r.timers = {}) : s.Idles s.settle where
  slot := (untouched_settle s).slot
  nobody := (proceeds_settle s).nobody
  recorder := by
    have slept : s.Dozes (s.onRecorder Recorder.settle) :=
      dozes_onRecorder fun r here => Recorder.sleeps_settle (nothing r here)
    exact slept.trans (dozes_of_same rfl)
  sent := ⟨[], (List.append_nil _).symm, nofun⟩

theorem Idle.step (idle : s.Idle) {stimulus : Stimulus} (noCall : ∀ call, stimulus ≠ .call call) :
    s.Idles (s.step stimulus) := by
  have reacts : s.Idles (s.react stimulus) := by
    cases stimulus with
    | call call => exact absurd rfl (noCall call)
    | answer id answer =>
        exact idle.idles_stream (.inl ⟨answer, rfl⟩)
          (proceeds_takeAnswer s id answer fun _ => goesOn_answer idle.nobody id answer)
          (apart_takeAnswer idle.nobody id answer)
    | read id read =>
        exact idle.idles_stream (.inr ⟨read, rfl⟩) (proceeds_takeReadOf s id read)
          (apart_streams.takeReadOf s id read)
    | uploaded answer => exact idles_pump (sameStreams_pump.takePumpAnswer s) (pumps_react s rfl)
    | pump => exact idles_pump (sameStreams_pump.takeEvents s _) (pumps_react s rfl)
    | elapse ms =>
        exact idles_of_same (sameStreams_onRecorder s _)
          (dozes_onRecorder fun r here => Recorder.sleeps_elapse (idle.nothing r here) ms) rfl
    | dispatch action => exact idles_of_same (sameStreams_dispatch s action) (dozes_of_same rfl) rfl
    | setToken token => exact idles_of_same (.of_fields rfl rfl rfl) (dozes_of_same rfl) rfl
    | setOutcome outcome =>
        exact idles_of_same (sameStreams_onRecorder s _)
          (dozes_onRecorder fun r _ => ⟨rfl, rfl, rfl⟩) rfl
  exact reacts.trans (idles_settle (reacts.idle idle).nothing)

theorem Idle.run (idle : s.Idle) {later : List Stimulus} (noCall : ∀ call, .call call ∉ later) :
    s.Idles (s.run later) := by
  induction later generalizing s with
  | nil => exact idles_of_same (.refl s) (dozes_of_same rfl) rfl
  | cons stimulus rest ih =>
      have first := idle.step fun call same => noCall call (same ▸ List.mem_cons_self)
      have others := ih (first.idle idle) fun call member =>
        noCall call (List.mem_cons_of_mem _ member)
      exact first.trans others

/-! ## Abandoning -/

/-- The recorder drops its recording, and sleeps already. -/
theorem recorder_step_abandon {r : Recorder} (here : (s.step (.call .abandon)).recorder = some r) :
    ∃ before, s.recorder = some before ∧ before.abandon.Sleeps r := by
  have closed := apart_streams.trans (apart_streams.supersede s.withCall .response)
    (apart_streams.supersede _ .eventSource)
  change Option.map Recorder.settle (Option.map Recorder.abandon
    ((s.withCall.supersede .response).supersede .eventSource).recorder) = _ at here
  rw [closed.recorder, Option.map_map] at here
  obtain ⟨before, there, rfl⟩ := Option.map_eq_some_iff.mp here
  exact ⟨before, there, Recorder.sleeps_settle (Recorder.timers_abandon before)⟩

theorem idle_abandon (nobody : s.isHandingIn = false) : (s.step (.call .abandon)).Idle where
  vacant := by
    intro transport
    have same : (s.step (.call .abandon)).slot transport =
        ((s.withCall.supersede .response).supersede .eventSource).slot transport := by
      cases transport <;> rfl
    rw [same]
    exact vacant_supersede_both s.withCall transport
  nobody := by
    have proceeds : Proceeds true s (s.step (.call .abandon)) :=
      (((proceeds_withCall s).trans (proceeds_abandon s.withCall)).trans
        (proceeds_giveBack _ s.nextCall none)).trans (proceeds_settle _)
    exact proceeds.nobody nobody
  nothing := by
    intro r here
    obtain ⟨before, -, slept⟩ := recorder_step_abandon here
    exact slept.timers.trans (Recorder.timers_abandon before)

theorem off_step_abandon (custody : s.InCustody) {r : Recorder}
    (here : (s.step (.call .abandon)).recorder = some r) : r.hold.Off := by
  obtain ⟨before, there, slept⟩ := recorder_step_abandon here
  rw [slept.hold]
  exact Recorder.off_abandon (custody before there)

/-- The call sends nothing and returns at once. -/
theorem prepares_abandon (s : Session) :
    (s.step (.call .abandon)).sent = s.sent ∧
      (s.step (.call .abandon)).calls[s.nextCall]? = some (.returned none) := by
  have closed := (prepares_supersede s.withCall .response).trans (prepares_supersede _ .eventSource)
  refine ⟨closed.sent, calls_settle_of_returned ?_⟩
  change (((s.withCall.supersede .response).supersede .eventSource).calls.set s.nextCall
    (.returned none))[s.nextCall]? = _
  rw [closed.calls]
  exact getElem?_set_nextCall s _

/-- When everything is dropped while no call hands in, the call returns at once, and until another
    call begins the session lies idle: no stream owns a slot, none that still runs changes the
    store, no track that was ever acquired is live, and the recorder tells of nothing, however much
    time passes. All that is sent are parts of the recording. -/
theorem idle_after_abandon {new : Session} (isNew : ∀ r, new.recorder = some r → r.New)
    (stimuli : List Stimulus) :
    let s := new.run stimuli
    let a := s.step (.call .abandon)
    s.isHandingIn = false →
      a.calls[s.nextCall]? = some (.returned none) ∧
      ∀ later : List Stimulus, (∀ call, .call call ∉ later) →
        let t := a.run later
        (∀ transport, (t.slot transport).current = none) ∧
        (∀ id, (∀ answer, (t.step (.answer id answer)).store = t.store) ∧
          ∀ read, (t.step (.read id read)).store = t.store) ∧
        (∀ r, t.recorder = some r → ∀ stream ∈ r.capture.devices.granted, ∀ track ∈ stream.tracks,
          r.capture.hardware.isLive track = false) ∧
        t.told = a.told ∧
        ∃ parts, t.sent = s.sent ++ parts ∧
          ∀ request ∈ parts, request.endpoint.route = .chunks := by
  intro s a nobody
  have custody : new.InCustody := fun r here => (Studio.Reachable.made (isNew r here)).held.1
  have abandoned : a.Idle := idle_abandon nobody
  obtain ⟨silent, returned⟩ := prepares_abandon s
  refine ⟨returned, fun later noCall => ?_⟩
  intro t
  have idles : a.Idles t := abandoned.run noCall
  have idle := idles.idle abandoned
  refine ⟨idle.vacant, fun id => ⟨?_, ?_⟩, ?_, idles.recorder.told, ?_⟩
  · exact fun answer => (idle.untouched (.inl ⟨answer, rfl⟩)).store
  · exact fun read => (idle.untouched (.inr ⟨read, rfl⟩)).store
  · intro r here
    obtain ⟨before, there, slept⟩ := idles.recorder.slept here
    have off : r.hold.Off := slept.hold ▸ off_step_abandon (custody.run stimuli) there
    exact off
  · rw [← silent]
    exact idles.sent

/-- A reply is being read, the standing connection is not answered yet, and a part is uploaded, when
    a recording that goes on is dropped with everything else. -/
theorem idle_after_abandoned_reply :
    let new : Session :=
      { baseUrl := "", tokenFile := some "t"
        recorder := some
          { options := { chunkInterval := 2 }, capture := { encoder := { timeslice := 1 } } } }
    let s := new.run
      [.call (.assign "A"), .call (.startExisting "T" ""), .call (.sendMessage "hi"),
        .answer 2 (.status 200), .call .followEvents, .elapse 3, .pump]
    let a := s.step (.call .abandon)
    let t := a.run
      [.elapse 60000, .answer 3 (.status 200), .uploaded (.status 200), .setOutcome .deny, .pump]
    (s.isHandingIn = false ∧ s.replies.isLive = true ∧ s.events.isLive = true ∧
      s.isRecording = true ∧ s.pump.uploading = some "T") ∧
    a.calls[4]? = some (.returned none) ∧ (∀ transport, (t.slot transport).current = none) ∧
      (∀ read, (t.step (.read 2 read)).store = t.store) ∧
      (∀ r, t.recorder = some r → ∀ stream ∈ r.capture.devices.granted, ∀ track ∈ stream.tracks,
        r.capture.hardware.isLive track = false) ∧
      t.told = a.told ∧
      ∃ parts, t.sent = s.sent ++ parts ∧
        ∀ request ∈ parts, request.endpoint.route = .chunks := by
  intro new s a t
  have isNew : ∀ r, new.recorder = some r → r.New := by
    rintro _ ⟨⟩
    exact Recorder.isNew _ 1
  have before : s.isHandingIn = false ∧ s.replies.isLive = true ∧ s.events.isLive = true ∧
      s.isRecording = true ∧ s.pump.uploading = some "T" := by decide +kernel
  have next : s.nextCall = 4 := by decide +kernel
  obtain ⟨returned, after⟩ := idle_after_abandon isNew _ before.1
  obtain ⟨vacant, unheard, stopped, told, sent⟩ := after
    [.elapse 60000, .answer 3 (.status 200), .uploaded (.status 200), .setOutcome .deny, .pump]
    (by simp)
  rw [next] at returned
  exact ⟨before, returned, vacant, (unheard 2).2, stopped, told, sent⟩

end

end Session

end Viva
