import Viva.Proofs.Media.Hardware
import Viva.Proofs.Recorder.Studio

/-! # Devices in custody

A `Hold` is what a recorder has to do with devices: the streams that it was granted and the one that
it keeps. `Hold.Act` says once what can become of it. A recorder that is active keeps the stream it was
granted last, and nothing else of what it was granted is live (`Hold.Sound`). What was not granted to
it is never stopped (`Hold.Spares`). The audio that it is told to record instead of the microphone
makes no difference to this: it is stopped as far as it belongs to streams that were granted.
-/

namespace Viva

/-! ## What becomes of a hold -/

structure Hold where
  hardware : Hardware
  /-- The streams granted so far, the oldest first. -/
  granted : List MediaStream
  stream : Option MediaStream
  /-- There is a recording. -/
  active : Bool

def Recorder.hold (r : Recorder) : Hold where
  hardware := r.capture.hardware
  granted := r.capture.devices.granted
  stream := r.capture.stream
  active := r.state.isActive

namespace Hold

/-- The tracks of the stream that is kept. -/
def kept (a : Hold) : List Track :=
  (a.stream.map (·.tracks)).getD []

def release (a : Hold) : Hold :=
  { a with hardware := a.hardware.stopAll a.kept, stream := none }

def acquire (a : Hold) (offer : List (String × TrackKind)) : Hold :=
  let opened := a.hardware.openAll offer
  { a with hardware := opened.2, granted := a.granted ++ [⟨opened.1⟩], stream := some ⟨opened.1⟩ }

def share (a : Hold) (offer : List (String × TrackKind)) : Hold :=
  { a with hardware := (a.hardware.openAll offer).2 }

inductive Act (a : Hold) : Hold → Prop where
  | rests : Act a a
  /-- Somebody else opens devices. -/
  | shares (offer : List (String × TrackKind)) : Act a (a.share offer)
  | ends : Act a { a.release with active := false }
  | opens {offer : List (String × TrackKind)} (something : offer ≠ []) :
      Act a { a.release.acquire offer with active := true }
  /-- The devices are granted, but the encoder does not start. -/
  | fails {offer : List (String × TrackKind)} (something : offer ≠ []) :
      Act a { (a.release.acquire offer).release with active := false }

/-- The track is live, and not one of those that were granted. -/
def Spares (a : Hold) (track : Track) : Prop :=
  a.hardware.isLive track = true ∧
    ∀ stream ∈ a.granted, ∀ other ∈ stream.tracks, track.device ≠ other.device

structure Sound (a : Hold) : Prop where
  known : ∀ stream ∈ a.granted, ∀ track ∈ stream.tracks, track.device < a.hardware.live.length
  /-- What was granted before the stream that is kept has been stopped. -/
  earlier : ∃ earlier, a.granted = earlier ++ a.stream.toList ∧
    ∀ stream ∈ earlier, ∀ track ∈ stream.tracks, a.hardware.isLive track = false
  live : ∀ stream, a.stream = some stream →
    stream.tracks ≠ [] ∧ ∀ track ∈ stream.tracks, a.hardware.isLive track = true

variable {a : Hold}

theorem Sound.kept_granted (sound : a.Sound) :
    ∀ track ∈ a.kept, ∃ stream ∈ a.granted, track ∈ stream.tracks := by
  obtain ⟨earlier, granted, -⟩ := sound.earlier
  intro track kept
  cases stream : a.stream with
  | none =>
      rw [Hold.kept, stream] at kept
      cases kept
  | some stream' =>
      rw [Hold.kept, stream] at kept
      refine ⟨stream', ?_, kept⟩
      rw [granted, stream]
      simp

theorem Spares.release (sound : a.Sound) {track : Track} (spares : a.Spares track) :
    a.release.Spares track := by
  refine ⟨(Hardware.isLive_stopAll _ _ _).mpr ⟨spares.1, ?_⟩, spares.2⟩
  intro other kept
  obtain ⟨stream, granted, holds⟩ := sound.kept_granted other kept
  exact spares.2 stream granted other holds

theorem Spares.acquire {track : Track} (spares : a.Spares track)
    (offer : List (String × TrackKind)) : (a.acquire offer).Spares track := by
  have old := Hardware.lt_of_isLive spares.1
  refine ⟨(Hardware.isLive_openAll _ offer old).trans spares.1, ?_⟩
  simp only [Hold.acquire, List.forall_mem_append, List.forall_mem_singleton]
  refine ⟨spares.2, ?_⟩
  intro other opened same
  have new := (Hardware.opened_openAll a.hardware offer other opened).1
  omega

theorem Spares.share {track : Track} (spares : a.Spares track)
    (offer : List (String × TrackKind)) : (a.share offer).Spares track :=
  ⟨(Hardware.isLive_openAll _ offer (Hardware.lt_of_isLive spares.1)).trans spares.1, spares.2⟩

theorem Sound.release (sound : a.Sound) : a.release.Sound where
  known := by
    intro stream granted track holds
    rw [Hold.release, Hardware.length_stopAll]
    exact sound.known stream granted track holds
  earlier := by
    obtain ⟨earlier, granted, stopped⟩ := sound.earlier
    refine ⟨a.granted, (List.append_nil _).symm, ?_⟩
    intro stream before track holds
    rw [granted, List.mem_append] at before
    rcases before with before | current
    · exact Hardware.dead_of_stopAll _ (stopped stream before track holds)
    · rw [Option.mem_toList] at current
      apply Hardware.dead_of_stopped
      rw [Hold.kept, current]
      exact holds
  live := nofun

theorem Sound.acquire (sound : a.Sound) (none : a.stream = none)
    {offer : List (String × TrackKind)} (something : offer ≠ []) : (a.acquire offer).Sound where
  known := by
    simp only [Hold.acquire, List.forall_mem_append, List.forall_mem_singleton]
    refine ⟨fun stream granted track holds => ?_, fun track opened => ?_⟩
    · exact Hardware.lt_openAll offer (sound.known stream granted track holds)
    · exact Hardware.lt_of_isLive (Hardware.opened_openAll a.hardware offer track opened).2
  earlier := by
    obtain ⟨earlier, granted, stopped⟩ := sound.earlier
    rw [none, Option.toList_none, List.append_nil] at granted
    refine ⟨a.granted, rfl, ?_⟩
    intro stream before track holds
    rw [Hold.acquire, Hardware.isLive_openAll _ _ (sound.known stream before track holds)]
    exact stopped stream (granted ▸ before) track holds
  live := by
    rintro _ ⟨⟩
    refine ⟨?_, fun track opened => (Hardware.opened_openAll a.hardware offer track opened).2⟩
    rw [← List.length_pos_iff, Hardware.length_openAll, List.length_pos_iff]
    exact something

theorem Sound.share (sound : a.Sound) (offer : List (String × TrackKind)) :
    (a.share offer).Sound where
  known := by
    intro stream granted track holds
    exact Hardware.lt_openAll offer (sound.known stream granted track holds)
  earlier := by
    obtain ⟨earlier, granted, stopped⟩ := sound.earlier
    refine ⟨earlier, granted, ?_⟩
    intro stream before track holds
    have known := sound.known stream (granted ▸ List.mem_append_left _ before) track holds
    rw [Hold.share, Hardware.isLive_openAll _ _ known]
    exact stopped stream before track holds
  live := by
    intro stream keeps
    obtain ⟨something, live⟩ := sound.live stream keeps
    refine ⟨something, fun track holds => ?_⟩
    have lives := live track holds
    rw [Hold.share, Hardware.isLive_openAll _ _ (Hardware.lt_of_isLive lives)]
    exact lives

theorem Act.sound {b : Hold} (act : a.Act b) (sound : a.Sound) : b.Sound := by
  cases act with
  | rests => exact sound
  | shares offer => exact sound.share offer
  | ends =>
      have released := sound.release
      exact ⟨released.known, released.earlier, released.live⟩
  | opens something =>
      have opened := sound.release.acquire rfl something
      exact ⟨opened.known, opened.earlier, opened.live⟩
  | fails something =>
      have released := (sound.release.acquire rfl something).release
      exact ⟨released.known, released.earlier, released.live⟩

theorem Act.active {b : Hold} (act : a.Act b) (active : a.active = a.stream.isSome) :
    b.active = b.stream.isSome := by
  cases act with
  | rests | shares => exact active
  | ends | opens | fails => rfl

theorem Act.spares {b : Hold} (act : a.Act b) (sound : a.Sound) {track : Track}
    (spares : a.Spares track) : b.Spares track := by
  cases act with
  | rests => exact spares
  | shares offer => exact spares.share offer
  | ends => exact spares.release sound
  | opens something => exact (spares.release sound).acquire _
  | fails something =>
      exact Spares.release (sound.release.acquire rfl something) ((spares.release sound).acquire _)

end Hold

/-! ## What the parts of an operation do to the hold -/

namespace Recorder

theorem hold_setState (r : Recorder) (state : RecordingState) :
    (r.setState state).hold = { r.hold with active := state.isActive } := by
  rw [setState_eq]
  rfl

theorem hold_beginActive (r : Recorder) : r.beginActive.hold = { r.hold with active := true } := by
  have begun := hold_setState { r with activeSince := some r.now } .recording
  unfold beginActive
  generalize { r with activeSince := some r.now }.setState .recording = b at begun
  have limit : b.armLimit.hold = b.hold := by
    unfold armLimit
    split <;> rfl
  have handOut : b.armLimit.armFlush.hold = b.armLimit.hold := by
    unfold armFlush
    split <;> rfl
  rw [handOut, limit, begun]
  rfl

theorem hold_pauseCapture (r : Recorder) : r.pauseCapture.hold = r.hold := by
  unfold pauseCapture Capture.pause
  split <;> rfl

theorem hold_resumeCapture (r : Recorder) : r.resumeCapture.hold = r.hold := by
  unfold resumeCapture Capture.resume
  split <;> rfl

theorem hold_flushPending (r : Recorder) : r.flushPending.hold = r.hold := by
  unfold flushPending
  dsimp only
  split <;> rfl

theorem hold_watchFaults (r : Recorder) : r.watchFaults.hold = r.hold := by
  unfold watchFaults
  dsimp only
  split <;> rfl

theorem hold_releaseTracks (r : Recorder) (capture : Capture) :
    { r with capture := capture.releaseTracks }.hold = { r with capture }.hold.release := by
  unfold Capture.releaseTracks Hold.release Hold.kept
  cases stream : capture.stream with
  | none => simp [hold, stream, Hardware.stopAll]
  | some stream => simp [hold, stream]

theorem hold_captureStop {r : Recorder} {blob : Blob} {capture : Capture}
    (stops : r.capture.stop = .ok (blob, capture)) : { r with capture }.hold = r.hold.release := by
  obtain ⟨_, rfl⟩ := Capture.stop_eq stops
  exact hold_releaseTracks r _

theorem hold_discard (r : Recorder) : r.discard.hold = r.hold.release :=
  hold_releaseTracks r r.capture.reset

theorem hold_fail (r : Recorder) (failure : Failure) :
    (r.fail failure).hold = { r.hold.release with active := false } := by
  have released := hold_releaseTracks r r.capture.reset
  rw [fail]
  change (Recorder.setState _ .error).hold = _
  rw [hold_setState]
  exact congrArg (fun a : Hold => { a with active := false }) released

/-- What becomes of a request for devices. -/
inductive Acquired (o : Recorder) : Capture × Except Failure MediaStream → Prop where
  | refused {capture : Capture} (failure : Failure) (same : { o with capture }.hold = o.hold) :
      Acquired o (capture, .error failure)
  | granted {capture : Capture} (offer : List (String × TrackKind)) (stream : MediaStream)
      (something : offer ≠ []) (opened : { o with capture }.hold = o.hold.acquire offer) :
      Acquired o (capture, .ok stream)

theorem acquired_acquire {o : Recorder} (released : o.capture.stream = none)
    (constraints : Constraints) : o.Acquired (o.capture.acquire constraints) := by
  unfold Capture.acquire
  split
  · exact .refused _ rfl
  · rename_i something
    unfold Devices.request
    cases outcome : o.capture.devices.outcome with
    | deny | noDevice => exact .refused _ rfl
    | grant =>
        rw [released]
        refine .granted (o.capture.devices.offer constraints) _ ?_ rfl
        unfold Devices.offer
        cases video : constraints.video <;> cases audio : constraints.audio <;>
          simp [video, audio] at something ⊢

theorem hold_startEncoding {r : Recorder} {capture : Capture} {stream : MediaStream}
    {audio : Option MediaStream} (started : r.capture.startEncoding stream audio = .ok capture) :
    { r with capture }.hold = r.hold := by
  obtain ⟨encoder, recorded, begun, rfl⟩ := Capture.startEncoding_eq started
  rfl

/-! ## Operations -/

theorem hold_active {r : Recorder} (active : r.state.isActive = true) :
    { r.hold with active := true } = r.hold := by
  rw [← active]
  rfl

theorem held_openRecording (r : Recorder) (atOnce : Bool) :
    r.hold.Act (r.openRecording atOnce).1.hold := by
  have opening : ({ r.discard with failure := none }.setState .initializing).hold =
      { r.hold.release with active := false } := by
    rw [hold_setState, ← hold_discard]
    rfl
  unfold openRecording
  generalize { r.discard with failure := none }.setState .initializing = o at opening
  dsimp only
  have acquired := acquired_acquire (o := o) (congrArg Hold.stream opening) o.options.constraints
  generalize o.capture.acquire o.options.constraints = answer at acquired
  cases acquired with
  | refused failure same =>
      dsimp only
      rw [hold_fail, same, opening]
      exact .ends
  | @granted capture offer stream something opened =>
      dsimp only
      cases started : capture.startEncoding stream o.audio with
      | error failure =>
          dsimp only
          rw [hold_fail, opened, opening]
          exact .fails something
      | ok encoding =>
          have encodes := hold_startEncoding (r := { o with capture }) started
          have starting := (hold_watchFaults { o with capture := encoding }).trans encodes
          rw [opened, opening] at starting
          dsimp only at starting ⊢
          generalize { o with capture := encoding }.watchFaults = w at starting ⊢
          cases atOnce with
          | true =>
              have opens : w.beginActive.hold =
                  { r.hold.release.acquire offer with active := true } := by
                rw [hold_beginActive, starting]
                rfl
              exact opens ▸ .opens something
          | false =>
              have opens : (w.pauseCapture.setState .ready).hold =
                  { r.hold.release.acquire offer with active := true } := by
                rw [hold_setState, hold_pauseCapture, starting]
                rfl
              exact opens ▸ .opens something

theorem held_begun {r : Recorder} (active : r.state.isActive = true) :
    r.hold.Act r.resumeCapture.beginActive.hold := by
  rw [hold_beginActive, hold_resumeCapture, hold_active active]
  exact .rests

theorem held_paused {r pausing : Recorder} (records : r.state = .recording)
    (same : pausing.hold = r.hold) : r.hold.Act (pausing.setState .paused).hold := by
  rw [hold_setState, same]
  change r.hold.Act { r.hold with active := true }
  rw [hold_active (RecordingState.isActive_of_records records)]
  exact .rests

theorem held_start (r : Recorder) : r.hold.Act r.start.1.hold := by
  unfold start
  split
  · exact held_openRecording r true
  · cases state : r.state with
    | ready => exact held_begun (by rw [state]; rfl)
    | _ => exact .rests

theorem held_failed {r stopping : Recorder}
    (same : stopping.hold = { r.hold with active := false }) (failure : Failure) :
    r.hold.Act (stopping.fail failure).hold := by
  rw [hold_fail, same]
  exact .ends

theorem held_completed {r : Recorder} (stopping : Recorder) {blob : Blob} {capture : Capture}
    (same : stopping.hold = { r.hold with active := false })
    (stops : stopping.capture.stop = .ok (blob, capture)) :
    r.hold.Act ((if stopping.options.handsOutChunks then { stopping with capture }.flushPending
      else { stopping with capture }).setState .completed).hold := by
  have released := hold_captureStop stops
  rw [same] at released
  rw [hold_setState]
  split
  · rw [hold_flushPending, released]
    exact .ends
  · rw [released]
    exact .ends

theorem held_stop (r : Recorder) : r.hold.Act r.stop.1.hold := by
  unfold stop
  split
  · exact .rests
  · have stopping := hold_setState r .stopping
    generalize r.setState .stopping = o at stopping
    dsimp only
    cases stops : o.suspend.capture.stop with
    | error failure => exact held_failed stopping failure
    | ok result =>
        exact held_completed { o.suspend with timers := {}, pausedByVisibility := false } stopping
          stops

theorem held_operate (r : Recorder) (input : Input) : r.hold.Act (r.operate input).hold := by
  cases input with
  | prepare =>
      simp only [operate, prepare]
      split
      · exact held_openRecording r _
      · exact .rests
  | start => exact held_start r
  | stop => exact held_stop r
  | pause =>
      simp only [operate, pause]
      split
      · rename_i records
        exact held_paused records (hold_pauseCapture r.suspend)
      · exact .rests
      · exact .rests
  | resume =>
      simp only [operate, resume]
      split
      · rename_i paused
        exact held_begun (r := { r with
          pausedByVisibility := false
          timers := r.timers.withoutResume }) (by rw [paused]; rfl)
      · exact .rests
  | setVisibility visibility =>
      cases visibility with
      | hidden =>
          simp only [operate, setVisibility]
          split
          · rename_i records
            exact held_paused (beq_iff_eq.mp records) (hold_pauseCapture _)
          · exact .rests
      | visible =>
          simp only [operate, setVisibility]
          split <;> exact .rests
  | abandon =>
      have dropped : r.abandon.hold = { r.hold.release with active := false } := by
        rw [abandon, hold_setState, hold_discard]
        rfl
      exact dropped ▸ .ends
  | reset =>
      have dropped : r.reset.hold = { r.hold.release with active := false } := by
        rw [reset, hold_setState, ← hold_discard]
        rfl
      exact dropped ▸ .ends
  | share offer => exact .shares offer
  | setAudio | setOutcome | elapse => exact .rests

/-! ## Tasks -/

theorem hold_tellLimit (r : Recorder) : r.tellLimit.hold = r.hold := by
  unfold tellLimit
  dsimp only
  split <;> rfl

theorem held_goOn (r : Recorder) : r.hold.Act r.goOn.hold := by
  unfold goOn
  dsimp only
  split
  · rename_i hidden
    rw [Bool.and_eq_true, beq_iff_eq] at hidden
    exact held_begun (r := { r with
      pausedByVisibility := false
      timers := r.timers.withoutResume }) (by rw [hidden.1]; rfl)
  · exact .rests

theorem held_hearFault (r : Recorder) (failure : Failure) :
    r.hold.Act (r.hearFault failure).hold := by
  unfold hearFault
  dsimp only
  split
  · rw [hold_fail]
    exact .ends
  · exact .rests

theorem hold_fire (r : Recorder) : { r with capture := r.capture.fire.1 }.hold = r.hold := by
  unfold Capture.fire
  dsimp only
  split <;> rfl

end Recorder

/-! ## What happens in a studio -/

namespace Studio

variable {s s' : Studio}

theorem held_act {task : Task} (act : s.Acts task s') : s.recorder.hold.Act s'.recorder.hold := by
  cases act with
  | limit =>
      rw [Recorder.hold_tellLimit]
      exact .rests
  | handOut =>
      rw [Recorder.handOutAgain, Recorder.hold_flushPending]
      exact .rests
  | leaves => exact .rests
  | resume => exact Recorder.held_goOn s.recorder
  | faults => exact Recorder.held_hearFault s.recorder _

theorem Next.held (next : s.Next s') : s.recorder.hold.Act s'.recorder.hold := by
  cases next with
  | takes input => exact Recorder.held_operate s.recorder input
  | ticks =>
      have same : s.tick.recorder.hold = s.recorder.hold := Recorder.hold_fire s.recorder
      exact same ▸ .rests
  | fails => exact .rests
  | acts task works act => exact held_act act

theorem Reachable.held (reachable : s.Reachable) :
    s.recorder.hold.Sound ∧ s.recorder.hold.active = s.recorder.hold.stream.isSome := by
  induction reachable with
  | @made r isNew =>
      have granted : r.hold.granted = [] := isNew.granted
      have stream : r.hold.stream = none := isNew.stream
      have state : r.state = .idle := isNew.state
      refine ⟨⟨?_, ⟨[], ?_, nofun⟩, ?_⟩, ?_⟩
      · rw [granted]
        nofun
      · rw [granted, stream]
        rfl
      · rw [stream]
        nofun
      · rw [stream]
        change r.state.isActive = _
        rw [state]
        rfl
  | next _ next ih => exact ⟨next.held.sound ih.1, next.held.active ih.2⟩

theorem Later.spares (later : s.Later s') (reachable : s.Reachable) {track : Track}
    (spares : s.recorder.hold.Spares track) : s'.recorder.hold.Spares track := by
  induction later with
  | refl => exact spares
  | tail earlier next ih => exact next.held.spares (reachable.later earlier).held.1 ih

/-- The recorder holds devices exactly while it is active: then the stream acquired last is the
    preview, and it is live, and otherwise none of all that was ever acquired is live. A track that it
    has not acquired, such as one of the audio that somebody lends to it, is never stopped. -/
theorem devices_in_custody (reachable : s.Reachable) :
    (s.recorder.state.isActive = true →
      ∃ stream, s.recorder.capture.stream = some stream ∧
        s.recorder.capture.devices.granted.getLast? = some stream ∧
        stream.isLive s.recorder.capture.hardware = true ∧
        (∀ track ∈ stream.tracks, s.recorder.capture.hardware.isLive track = true) ∧
        ∀ earlier ∈ s.recorder.capture.devices.granted.dropLast, ∀ track ∈ earlier.tracks,
          s.recorder.capture.hardware.isLive track = false) ∧
      (s.recorder.state.isActive = false →
        s.recorder.capture.stream = none ∧
          ∀ stream ∈ s.recorder.capture.devices.granted, ∀ track ∈ stream.tracks,
            s.recorder.capture.hardware.isLive track = false) ∧
      ∀ track, s.recorder.capture.hardware.isLive track = true →
        (∀ stream ∈ s.recorder.capture.devices.granted, ∀ own ∈ stream.tracks,
          track.device ≠ own.device) →
        ∀ s', s.Later s' → s'.recorder.capture.hardware.isLive track = true := by
  obtain ⟨sound, holds⟩ := reachable.held
  have keeps : s.recorder.state.isActive = s.recorder.capture.stream.isSome := holds
  obtain ⟨earlier, granted, stopped⟩ := sound.earlier
  have acquired : s.recorder.capture.devices.granted =
    earlier ++ s.recorder.capture.stream.toList := granted
  refine ⟨?_, ?_, ?_⟩
  · intro active
    rw [active] at keeps
    obtain ⟨stream, preview⟩ := Option.isSome_iff_exists.mp keeps.symm
    obtain ⟨something, live⟩ := sound.live stream preview
    rw [preview, Option.toList_some] at acquired
    refine ⟨stream, preview, ?_, ?_, live, ?_⟩
    · rw [acquired, List.getLast?_concat]
    · obtain ⟨track, holds⟩ := List.exists_mem_of_ne_nil _ something
      exact List.any_eq_true.mpr ⟨track, holds, live track holds⟩
    · rw [acquired, List.dropLast_concat]
      exact stopped
  · intro inactive
    rw [inactive] at keeps
    have preview : s.recorder.capture.stream = none := by simpa using keeps.symm
    rw [preview, Option.toList_none, List.append_nil] at acquired
    refine ⟨preview, ?_⟩
    rw [acquired]
    exact stopped
  · intro track live apart s' later
    exact (later.spares reachable ⟨live, apart⟩).1

theorem devices_in_custody_again :
    let tab : Track := ⟨"tab", .audio, 0⟩
    let first : MediaStream := ⟨[⟨"synthetic-video-0", .video, 1⟩, ⟨"synthetic-audio-0", .audio, 2⟩]⟩
    let second : MediaStream := ⟨[⟨"synthetic-video-1", .video, 3⟩, ⟨"synthetic-audio-1", .audio, 4⟩]⟩
    let s := (Studio.mk { options := {}, capture := { encoder := { timeslice := 100 } } } {}).take
      (.share [("tab", .audio)]) |>.take (.setAudio (some ⟨[tab]⟩)) |>.take .start |>.take .stop
        |>.take .start
    s.Reachable ∧ s.recorder.state = .recording ∧ s.recorder.audio = some ⟨[tab]⟩ ∧
      s.recorder.capture.devices.granted = [first, second] ∧
      s.recorder.capture.stream = some second ∧
      second.isLive s.recorder.capture.hardware = true ∧
      (∀ track ∈ first.tracks, s.recorder.capture.hardware.isLive track = false) ∧
      ∀ s', s.Later s' → s'.recorder.capture.hardware.isLive tab = true := by
  intro tab first second s
  have made := Reachable.made (Recorder.isNew {} 100)
  have lent := (made.next (.takes (.share [("tab", .audio)]))).next
    (.takes (.setAudio (some ⟨[tab]⟩)))
  have reachable : s.Reachable :=
    ((lent.next (.takes .start)).next (.takes .stop)).next (.takes .start)
  have granted : s.recorder.capture.devices.granted = [first, second] := by decide +kernel
  have preview : s.recorder.capture.stream = some second := by decide +kernel
  obtain ⟨active, -, spared⟩ := devices_in_custody reachable
  obtain ⟨stream, kept, -, live, -, earlier⟩ := active (by decide +kernel)
  rw [granted] at earlier spared
  rw [preview, Option.some.injEq] at kept
  subst kept
  refine ⟨reachable, by decide +kernel, by decide +kernel, granted, preview, live, ?_, ?_⟩
  · exact earlier first (by simp)
  · exact spared tab (by decide +kernel) (by decide)

/-- A recorder may be told to record the audio of its own preview. That audio is stopped along with the
    preview when the recording is stopped, abandoned or reset. -/
theorem lent_preview_stopped :
    let preview : MediaStream := ⟨[⟨"synthetic-video-0", .video, 0⟩, ⟨"synthetic-audio-0", .audio, 1⟩]⟩
    let s := (Studio.mk { options := {}, capture := { encoder := { timeslice := 100 } } } {}).take .start
      |>.take (.setAudio (some preview))
    s.Reachable ∧ s.recorder.state = .recording ∧ s.recorder.capture.stream = some preview ∧
      s.recorder.audio = some preview ∧
      (∀ track ∈ preview.tracks, s.recorder.capture.hardware.isLive track = true) ∧
      ∀ input ∈ [Recorder.Input.stop, .abandon, .reset], s.Later (s.take input) ∧
        ∀ track ∈ preview.tracks,
          (s.take input).recorder.capture.hardware.isLive track = false := by
  intro preview s
  have made := Reachable.made (Recorder.isNew {} 100)
  have reachable : s.Reachable :=
    (made.next (.takes .start)).next (.takes (.setAudio (some preview)))
  refine ⟨reachable, by decide +kernel, by decide +kernel, by decide +kernel, by decide +kernel, ?_⟩
  intro input among
  refine ⟨.single (.takes input), ?_⟩
  revert input
  decide +kernel

end Studio

end Viva
