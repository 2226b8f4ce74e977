import Viva.Proofs.Media.Hardware
import Viva.Proofs.Media.Usage

/-! # Which tracks a capture stops

A capture answers for the streams that it has acquired and for nothing else. Of all of them only the
one that it keeps can be live (`Capture.Owns`), since what was kept is stopped when another stream is
granted, when the capture stops and when it releases its tracks. Tracks that were not acquired by it
are never stopped by it (`Capture.Foreign`). The audio that it records in place of the microphone may
be of either sort: what it shares with a stream that was acquired is stopped along with that stream,
and the rest is spared.
-/

namespace Viva.Capture

/-- The tracks of the stream that is kept. -/
def kept (a : Capture) : List Track :=
  (a.stream.map (·.tracks)).getD []

/-- Of all that was granted nothing is live but the stream that is kept. -/
structure Owns (a : Capture) : Prop where
  known : ∀ stream ∈ a.devices.granted, ∀ track ∈ stream.tracks,
    track.device < a.hardware.live.length
  keeps : ∀ stream, a.stream = some stream → stream ∈ a.devices.granted
  released : ∀ stream ∈ a.devices.granted, a.stream ≠ some stream →
    ∀ track ∈ stream.tracks, a.hardware.isLive track = false

/-- The track is live, and not one of those that were granted. -/
structure Foreign (a : Capture) (track : Track) : Prop where
  live : a.hardware.isLive track = true
  apart : ∀ stream ∈ a.devices.granted, ∀ own ∈ stream.tracks, track.device ≠ own.device

section
variable {a b : Capture} {track : Track}

/-! ## Acquiring and releasing -/

theorem releaseTracks_eq (a : Capture) :
    a.releaseTracks = { a with hardware := a.hardware.stopAll a.kept, stream := none } := by
  cases a with
  | mk devices hardware encoder stream => cases stream <;> rfl

/-- A request for a stream changes nothing, or it grants new tracks and stops those that were kept. -/
theorem acquire_cases (a : Capture) (constraints : Constraints) :
    (∃ failure, a.acquire constraints = (a, .error failure)) ∨
      ∃ offer, let opened := a.hardware.openAll offer
        a.acquire constraints =
          ({ a with
              devices := { a.devices with granted := a.devices.granted ++ [⟨opened.1⟩] }
              hardware := opened.2.stopAll a.kept
              stream := some ⟨opened.1⟩ },
            .ok ⟨opened.1⟩) := by
  unfold acquire
  split
  · exact .inl ⟨_, rfl⟩
  · unfold Devices.request
    cases outcome : a.devices.outcome with
    | deny | noDevice => exact .inl ⟨_, rfl⟩
    | grant =>
        refine .inr ⟨a.devices.offer constraints, ?_⟩
        cases stream : a.stream <;> simp [kept, stream, Hardware.stopAll, outcome]

theorem mem_kept {stream : MediaStream} (preview : a.stream = some stream)
    (holds : track ∈ stream.tracks) : track ∈ a.kept := by
  simpa [kept, preview] using holds

theorem Owns.granted_of_kept (owns : a.Owns) (among : track ∈ a.kept) :
    ∃ stream ∈ a.devices.granted, track ∈ stream.tracks := by
  unfold kept at among
  cases preview : a.stream with
  | none => simp [preview] at among
  | some stream =>
      rw [preview] at among
      exact ⟨stream, owns.keeps stream preview, among⟩

/-- What is stopped along with the stream that is kept is all that was left of what was granted. -/
theorem Owns.dead_of_release (owns : a.Owns) {stream : MediaStream}
    (granted : stream ∈ a.devices.granted) (holds : track ∈ stream.tracks) :
    (a.hardware.stopAll a.kept).isLive track = false := by
  by_cases preview : a.stream = some stream
  · exact Hardware.dead_of_stopped (mem_kept preview holds)
  · exact Hardware.dead_of_stopAll _ (owns.released stream granted preview track holds)

theorem Owns.releaseTracks (owns : a.Owns) : a.releaseTracks.Owns := by
  rw [releaseTracks_eq]
  constructor
  · intro stream granted track holds
    dsimp only
    rw [Hardware.length_stopAll]
    exact owns.known stream granted track holds
  · nofun
  · intro stream granted _ track holds
    exact owns.dead_of_release granted holds

theorem Owns.acquire (owns : a.Owns) (constraints : Constraints) :
    (a.acquire constraints).1.Owns := by
  rcases a.acquire_cases constraints with ⟨failure, refused⟩ | ⟨offer, granted⟩
  · rw [refused]
    exact owns
  · rw [granted]
    have opened := Hardware.opened_openAll a.hardware offer
    constructor
    · simp only [List.forall_mem_append, List.forall_mem_singleton]
      constructor
      · intro stream before track holds
        rw [Hardware.length_stopAll]
        exact Hardware.lt_openAll offer (owns.known stream before track holds)
      · intro track holds
        rw [Hardware.length_stopAll]
        exact Hardware.lt_of_isLive (opened track holds).2
    · intro stream preview
      cases preview
      simp
    · intro stream among other track holds
      dsimp only at among other ⊢
      rw [List.mem_append, List.mem_singleton] at among
      rcases among with before | rfl
      · by_cases preview : a.stream = some stream
        · exact Hardware.dead_of_stopped (mem_kept preview holds)
        · apply Hardware.dead_of_stopAll
          rw [Hardware.isLive_openAll _ _ (owns.known stream before track holds)]
          exact owns.released stream before preview track holds
      · exact absurd rfl other

theorem Foreign.releaseTracks (foreign : a.Foreign track) (owns : a.Owns) :
    a.releaseTracks.Foreign track := by
  rw [releaseTracks_eq]
  refine ⟨(Hardware.isLive_stopAll _ _ _).mpr ⟨foreign.live, ?_⟩, foreign.apart⟩
  intro own among
  obtain ⟨stream, granted, holds⟩ := owns.granted_of_kept among
  exact foreign.apart stream granted own holds

theorem Foreign.acquire (foreign : a.Foreign track) (owns : a.Owns) (constraints : Constraints) :
    (a.acquire constraints).1.Foreign track := by
  rcases a.acquire_cases constraints with ⟨failure, refused⟩ | ⟨offer, granted⟩
  · rw [refused]
    exact foreign
  · rw [granted]
    have old := Hardware.lt_of_isLive foreign.live
    constructor
    · refine (Hardware.isLive_stopAll _ _ _).mpr ⟨?_, ?_⟩
      · rw [Hardware.isLive_openAll _ _ old]
        exact foreign.live
      · intro own among
        obtain ⟨stream, granted, holds⟩ := owns.granted_of_kept among
        exact foreign.apart stream granted own holds
    · simp only [List.forall_mem_append, List.forall_mem_singleton]
      refine ⟨foreign.apart, fun own opened same => ?_⟩
      have new := (Hardware.opened_openAll a.hardware offer own opened).1
      omega

/-! ## One input -/

theorem Owns.of_keeps (owns : a.Owns) (keeps : a.Keeps b) : b.Owns := by
  constructor
  · rw [keeps.devices, keeps.hardware]
    exact owns.known
  · rw [keeps.devices, keeps.stream]
    exact owns.keeps
  · rw [keeps.devices, keeps.stream, keeps.hardware]
    exact owns.released

theorem Foreign.of_keeps (foreign : a.Foreign track) (keeps : a.Keeps b) : b.Foreign track := by
  constructor
  · rw [keeps.hardware]
    exact foreign.live
  · rw [keeps.devices]
    exact foreign.apart

/-- A capture that stops its encoder releases its tracks. -/
theorem keeps_of_stop {blob : Blob} (stopped : a.stop = .ok (blob, b)) :
    ∃ before, a.Keeps before ∧ b = before.releaseTracks :=
  ⟨{ a with encoder := a.encoder.stop, state := .inactive }, ⟨rfl, rfl, rfl⟩,
    (stop_eq stopped).2⟩

/-- What an input does to streams, if it does anything to them. -/
inductive Handles (a : Capture) : Input → Capture → Prop where
  | keeps {input : Input} {b : Capture} (keeps : a.Keeps b) : Handles a input b
  | acquires (constraints : Constraints) :
      Handles a (.acquire constraints) (a.acquire constraints).1
  | releases {input : Input} {before : Capture} (keeps : a.Keeps before) :
      Handles a input before.releaseTracks
  | asks (outcome : PermissionOutcome) : Handles a (.setOutcome outcome) (a.setOutcome outcome)
  | shares (offer : List (String × TrackKind)) :
      Handles a (.share offer) { a with hardware := (a.hardware.openAll offer).2 }
  | unplugs (track : Track) : Handles a (.unplug track) (a.stopTrack track)

theorem handles_step (a : Capture) (input : Input) : a.Handles input (a.step input) := by
  cases input with
  | acquire constraints => exact .acquires constraints
  | start stream audio =>
      cases started : a.startEncoding stream audio with
      | ok b =>
          simp only [step, started]
          exact .keeps (keeps_start started)
      | error failure =>
          simp only [step, started]
          exact .keeps (keeps_same a)
  | pause => exact .keeps (keeps_pause a)
  | resume => exact .keeps (keeps_resume a)
  | stop =>
      cases stopped : a.stop with
      | ok result =>
          obtain ⟨before, keeps, released⟩ := keeps_of_stop stopped
          simp only [step, stopped, released]
          exact .releases keeps
      | error failure =>
          simp only [step, stopped]
          exact .keeps (keeps_same a)
  | reset => exact .keeps ⟨rfl, rfl, rfl⟩
  | releaseTracks => exact .releases (keeps_same a)
  | takeFaultChannel => exact .keeps ⟨rfl, rfl, rfl⟩
  | setOutcome outcome => exact .asks outcome
  | share offer => exact .shares offer
  | unplug track => exact .unplugs track
  | elapse ms => exact .keeps (keeps_advance _ a ms)

theorem Handles.owns {input : Input} (handles : a.Handles input b) (owns : a.Owns) : b.Owns := by
  cases handles with
  | keeps keeps => exact owns.of_keeps keeps
  | acquires constraints => exact owns.acquire constraints
  | releases keeps => exact (owns.of_keeps keeps).releaseTracks
  | asks outcome => exact ⟨owns.known, owns.keeps, owns.released⟩
  | shares offer =>
      constructor
      · intro stream granted track holds
        exact Hardware.lt_openAll offer (owns.known stream granted track holds)
      · exact owns.keeps
      · intro stream granted other track holds
        dsimp only
        rw [Hardware.isLive_openAll _ _ (owns.known stream granted track holds)]
        exact owns.released stream granted other track holds
  | unplugs unplugged =>
      constructor
      · intro stream granted track holds
        dsimp only [stopTrack, Hardware.stop]
        rw [List.length_set]
        exact owns.known stream granted track holds
      · exact owns.keeps
      · intro stream granted other track holds
        exact Hardware.dead_of_stopAll [unplugged] (owns.released stream granted other track holds)

theorem Handles.foreign {input : Input} (handles : a.Handles input b) (owns : a.Owns)
    (foreign : a.Foreign track)
    (plugged : ∀ other, input = .unplug other → other.device ≠ track.device) : b.Foreign track := by
  cases handles with
  | keeps keeps => exact foreign.of_keeps keeps
  | acquires constraints => exact foreign.acquire owns constraints
  | releases keeps => exact (foreign.of_keeps keeps).releaseTracks (owns.of_keeps keeps)
  | asks outcome => exact ⟨foreign.live, foreign.apart⟩
  | shares offer =>
      refine ⟨?_, foreign.apart⟩
      dsimp only
      rw [Hardware.isLive_openAll _ _ (Hardware.lt_of_isLive foreign.live)]
      exact foreign.live
  | unplugs other =>
      refine ⟨?_, foreign.apart⟩
      have apart := plugged other rfl
      simpa [stopTrack, Hardware.isLive_stop, foreign.live] using apart.symm

/-- Only a request for a stream grants anything. -/
theorem Handles.granted {input : Input} (handles : a.Handles input b)
    (other : ∀ constraints, input ≠ .acquire constraints) :
    b.devices.granted = a.devices.granted := by
  cases handles with
  | keeps keeps => rw [keeps.devices]
  | acquires constraints => exact absurd rfl (other constraints)
  | releases keeps => simp [releaseTracks_eq, keeps.devices]
  | asks | shares | unplugs => rfl

theorem granted_step (a : Capture) (input : Input) :
    (a.step input).devices.granted = a.devices.granted ++ a.grantedBy input := by
  have handles := a.handles_step input
  cases input with
  | acquire constraints =>
      rcases a.acquire_cases constraints with ⟨failure, refused⟩ | ⟨offer, granted⟩
      · simp [step, grantedBy, refused, Except.toOption]
      · simp [step, grantedBy, granted, Except.toOption]
  | _ =>
      rw [handles.granted nofun]
      exact (List.append_nil _).symm

/-! ## All inputs -/

theorem New.owns (isNew : a.New) : a.Owns := by
  have granted := isNew.granted
  refine ⟨?_, ?_, ?_⟩
  · simp [granted]
  · simp [isNew.stream]
  · simp [granted]

theorem Owns.run (owns : a.Owns) (inputs : List Input) : (a.run inputs).Owns := by
  induction inputs generalizing a with
  | nil => exact owns
  | cons input rest ih => exact ih ((a.handles_step input).owns owns)

theorem granted_run (a : Capture) (inputs : List Input) :
    (a.run inputs).devices.granted = a.devices.granted ++ a.acquired inputs := by
  induction inputs generalizing a with
  | nil => simp [run, acquired]
  | cons input rest ih =>
      have onward := ih (a.step input)
      rw [granted_step, List.append_assoc] at onward
      exact onward

theorem Foreign.run (foreign : a.Foreign track) (owns : a.Owns) {inputs : List Input}
    (plugged : ∀ other, .unplug other ∈ inputs → other.device ≠ track.device) :
    (a.run inputs).Foreign track := by
  induction inputs generalizing a with
  | nil => exact foreign
  | cons input rest ih =>
      have handles := a.handles_step input
      apply ih
      · apply handles.foreign owns foreign
        intro other same
        exact plugged other (by simp [same])
      · exact handles.owns owns
      · intro other among
        exact plugged other (List.mem_cons_of_mem _ among)

theorem not_isLive_of_dead {hardware : Hardware} {stream : MediaStream}
    (dead : ∀ track ∈ stream.tracks, hardware.isLive track = false) :
    stream.isLive hardware = false := by
  rw [MediaStream.isLive, Hardware.anyLive, List.any_eq_false]
  intro track holds
  simp [dead track holds]

/-- Of all streams that a capture has acquired only its preview can be live, and none of them once
    it has stopped or released its tracks; a request for a stream that is refused leaves everything
    as it was. A track of somebody else, such as one of the audio that is recorded in place of the
    microphone and shares no track with those streams, stays live whatever the capture does, until
    somebody else stops it. -/
theorem only_preview_live (isNew : a.New) (inputs : List Input) :
    let s := a.run inputs
    let streams := a.acquired inputs
    (∀ stream ∈ streams, stream.isLive s.hardware = true → s.stream = some stream) ∧
      (∀ constraints failure, (s.acquire constraints).2 = .error failure →
        (s.acquire constraints).1 = s) ∧
      (∀ blob stopped, s.stop = .ok (blob, stopped) →
        ∀ stream ∈ streams, stream.isLive stopped.hardware = false) ∧
      (∀ stream ∈ streams, stream.isLive s.releaseTracks.hardware = false) ∧
      ∀ track, s.hardware.isLive track = true →
        (∀ stream ∈ streams, ∀ own ∈ stream.tracks, track.device ≠ own.device) →
        ∀ later : List Input,
          (∀ other, .unplug other ∈ later → other.device ≠ track.device) →
            (s.run later).hardware.isLive track = true := by
  intro s streams
  have owns : s.Owns := isNew.owns.run inputs
  have granted : s.devices.granted = streams := by
    have granted := a.granted_run inputs
    rwa [isNew.granted, List.nil_append] at granted
  refine ⟨?_, ?_, ?_, ?_, ?_⟩
  · intro stream among live
    rw [← granted] at among
    by_cases preview : s.stream = some stream
    · exact preview
    · have dead := not_isLive_of_dead (owns.released stream among preview)
      simp [dead] at live
  · intro constraints failure refused
    rcases s.acquire_cases constraints with ⟨_, same⟩ | ⟨offer, accepted⟩
    · rw [same]
    · simp [accepted] at refused
  · intro blob stopped stops stream among
    obtain ⟨before, keeps, released⟩ := keeps_of_stop stops
    rw [← granted, ← keeps.devices] at among
    rw [released, releaseTracks_eq]
    exact not_isLive_of_dead fun track holds => (owns.of_keeps keeps).dead_of_release among holds
  · intro stream among
    rw [← granted] at among
    rw [releaseTracks_eq]
    exact not_isLive_of_dead fun track holds => owns.dead_of_release among holds
  · intro track live apart later plugged
    have foreign : s.Foreign track := ⟨live, by rw [granted]; exact apart⟩
    exact (foreign.run owns plugged).live

theorem only_preview_live_again :
    let a : Capture := { encoder := { timeslice := 100 } }
    let tab : Track := ⟨"tab", .audio, 0⟩
    let first : MediaStream := ⟨[⟨"synthetic-video-0", .video, 1⟩, ⟨"synthetic-audio-0", .audio, 2⟩]⟩
    let second : MediaStream := ⟨[⟨"synthetic-video-1", .video, 3⟩]⟩
    let inputs : List Input :=
      [.share [("tab", .audio)], .acquire {}, .start first (some ⟨[tab]⟩), .elapse 250,
        .acquire { audio := false }]
    let s := a.run inputs
    a.New ∧ a.acquired inputs = [first, second] ∧ s.encoder.encodedTracks = ["synthetic-video-0", "tab"] ∧
      s.stream = some second ∧ second.isLive s.hardware = true ∧ first.isLive s.hardware = false ∧
      second.isLive s.releaseTracks.hardware = false ∧
      (s.run [.stop, .reset, .releaseTracks]).hardware.isLive tab = true := by
  intro a tab first second inputs s
  have new : a.New := isNew { timeslice := 100 } rfl
  have acquired : a.acquired inputs = [first, second] := by decide +kernel
  have preview : s.stream = some second := by decide +kernel
  obtain ⟨live, -, -, released, spared⟩ := only_preview_live new inputs
  rw [acquired] at live released spared
  refine ⟨new, acquired, by decide +kernel, preview, by decide +kernel, ?_, ?_, ?_⟩
  · rw [Bool.eq_false_iff]
    intro lives
    have same : some second = some first := preview.symm.trans (live first (by simp) lives)
    exact absurd same (by decide)
  · exact released second (by simp)
  · exact spared tab (by decide +kernel) (by decide) [.stop, .reset, .releaseTracks] (by simp)

/-- A stream that was acquired may also be given as the audio to record. It is stopped then, although
    nobody else stops it. -/
theorem shared_audio_stopped :
    let a : Capture := { encoder := { timeslice := 100 } }
    let first : MediaStream := ⟨[⟨"synthetic-video-0", .video, 0⟩, ⟨"synthetic-audio-0", .audio, 1⟩]⟩
    let s := a.run [.acquire {}, .start first (some first)]
    a.New ∧ s.stream = some first ∧ s.state = .recording ∧
      s.encoder.encodedTracks = ["synthetic-video-0", "synthetic-audio-0"] ∧
      (∀ track ∈ first.tracks, s.hardware.isLive track = true) ∧
      ∀ input ∈ [Input.stop, .releaseTracks, .acquire {}],
        ∀ track ∈ first.tracks, (s.step input).hardware.isLive track = false := by
  intro a first s
  have new : a.New := isNew { timeslice := 100 } rfl
  refine ⟨new, ?_, ?_, ?_, ?_, ?_⟩ <;> decide +kernel

end

end Viva.Capture
