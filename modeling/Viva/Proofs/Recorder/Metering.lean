import Viva.Proofs.Recorder.Inactive
import Viva.Proofs.Recorder.Moments

/-! # The time of a recording and its limit

How long a recorder has been recording is kept in two parts, the time up to the last interruption and
the time since, and whenever it begins again the rest of the limit is waited for anew. A `Meter` is
what a recorder knows about all this. While a recording lasts, its duration is the time spent
recording, and the limit is told when they are equal, once (`limit_told_once`).
-/

namespace Viva

structure Meter where
  limit : Nat
  now : Nat
  records : Bool
  accumulated : Nat
  activeSince : Option Nat
  reached : Bool
  /-- When the limit is reached if nothing comes between. -/
  alarm : Option Nat
  /-- How often it was told that the limit is reached. -/
  notices : Nat
  /-- How many recordings were begun. -/
  openings : Nat

def Recorder.meter (r : Recorder) : Meter where
  limit := r.options.maxDuration
  now := r.now
  records := r.state = .recording
  accumulated := r.accumulated
  activeSince := r.activeSince
  reached := r.limitReached
  alarm := r.timers.maxDuration
  notices := r.log.count .maxDurationReached
  openings := r.log.count (.stateChanged .initializing)

namespace Meter

def duration (a : Meter) : Nat :=
  match a.activeSince with
  | some since => a.accumulated + (a.now - since)
  | none => a.accumulated

def wait (a : Meter) : Meter := { a with now := a.now + 1 }

def begin (a : Meter) : Meter :=
  { a with
    records := true
    activeSince := some a.now
    alarm := if a.limit = 0 ∨ a.reached then a.alarm else some (a.now + (a.limit - a.accumulated)) }

def suspend (a : Meter) : Meter :=
  { a with records := false, accumulated := a.duration, activeSince := none, alarm := none }

def notice (a : Meter) : Meter :=
  { a with reached := true, alarm := none, notices := a.notices + 1 }

def clear (a : Meter) : Meter :=
  { a with records := false, accumulated := 0, activeSince := none, reached := false, alarm := none }

def opened (a : Meter) : Meter := { a.clear with openings := a.openings + 1 }

/-- The time is counted while it is recording, and the limit is waited for until it is reached. -/
structure Pending (a : Meter) : Prop where
  limited : 0 < a.limit
  counts : a.records = a.activeSince.isSome
  since : ∀ time, a.activeSince = some time → time ≤ a.now
  alarm : a.alarm = if a.records = true ∧ a.reached = false then some (a.now + a.limit - a.duration) else none
  reached : a.reached = true → a.limit ≤ a.duration
  early : a.records = false → a.reached = false → a.duration < a.limit

/-- The limit has been told if it is reached. -/
structure Sound (a : Meter) : Prop extends Pending a where
  timely : a.reached = false → a.duration < a.limit

/-- The recording is still the same, it has lasted some time more, and the limit was told if it was
    reached meanwhile. -/
structure Lasts (a b : Meter) (spent : Nat) : Prop where
  limit : b.limit = a.limit
  duration : b.duration = a.duration + spent
  notices : b.notices + a.reached.toNat = a.notices + b.reached.toNat
  openings : b.openings = a.openings

/-- What an operation does, and whether it drops the recording. -/
inductive Act (a : Meter) : Bool → Meter → Prop where
  | rests : Act a false a
  | begins (still : a.records = false) : Act a false a.begin
  | suspends : Act a false a.suspend
  | opens : Act a false a.opened
  | opensAtOnce : Act a false a.opened.begin
  | clears : Act a true a.clear

section
variable {a b c : Meter}

theorem lasts_same (a : Meter) : a.Lasts a 0 := ⟨rfl, rfl, rfl, rfl⟩

theorem Lasts.trans {spent more : Nat} (first : a.Lasts b spent) (second : b.Lasts c more) :
    a.Lasts c (spent + more) where
  limit := second.limit.trans first.limit
  duration := by rw [second.duration, first.duration, Nat.add_assoc]
  notices := by
    have before := first.notices
    have after := second.notices
    omega
  openings := second.openings.trans first.openings

theorem Pending.still (pending : a.Pending) (rests : a.records = false) :
    a.activeSince = none ∧ a.duration = a.accumulated := by
  have counts := pending.counts
  rw [rests] at counts
  cases active : a.activeSince with
  | some since =>
      rw [active] at counts
      cases counts
  | none => exact ⟨rfl, by rw [duration, active]⟩

theorem Sound.reached_iff (sound : a.Sound) : a.reached = true ↔ a.limit ≤ a.duration := by
  refine ⟨sound.reached, fun long => ?_⟩
  rw [← Bool.not_eq_false]
  exact fun before => absurd (sound.timely before) (Nat.not_lt_of_le long)

/-! ## What becomes of it -/

theorem duration_wait (sound : a.Sound) : a.wait.duration = a.duration + a.records.toNat := by
  rw [sound.counts]
  unfold duration wait
  cases active : a.activeSince with
  | none => rfl
  | some since =>
      have past := sound.since since active
      dsimp only [Option.isSome_some, Bool.toNat_true]
      omega

theorem Sound.wait (sound : a.Sound) : a.wait.Pending ∧ a.Lasts a.wait a.records.toNat := by
  have longer := duration_wait sound
  refine ⟨⟨sound.limited, sound.counts, ?_, ?_, ?_, ?_⟩, rfl, longer, rfl, rfl⟩
  · exact fun time active => Nat.le_succ_of_le (sound.since time active)
  · rw [longer]
    have alarm := sound.alarm
    change a.alarm = if a.records = true ∧ a.reached = false then some (a.now + 1 + a.limit - _) else none
    rw [alarm]
    split
    · rename_i awaited
      rw [awaited.1]
      simp
      omega
    · rfl
  · intro reached
    have long := sound.reached reached
    change a.limit ≤ _
    omega
  · intro rests before
    have short := sound.early rests before
    have same : a.records.toNat = 0 := by rw [show a.records = false from rests]; rfl
    change _ < a.limit
    omega

theorem Pending.begin (pending : a.Pending) (rests : a.records = false) :
    a.begin.Pending ∧ a.Lasts a.begin 0 := by
  obtain ⟨inactive, still⟩ := pending.still rests
  have same : a.begin.duration = a.accumulated := by
    change a.accumulated + (a.now - a.now) = a.accumulated
    rw [Nat.sub_self, Nat.add_zero]
  refine ⟨⟨pending.limited, rfl, ?_, ?_, ?_, nofun⟩, rfl, ?_, rfl, rfl⟩
  · rintro _ ⟨⟩
    exact Nat.le_refl _
  · rw [same]
    change (if a.limit = 0 ∨ a.reached then _ else _) =
      if true = true ∧ a.reached = false then some (a.now + a.limit - a.accumulated) else none
    cases reached : a.reached with
    | true =>
        have silent := pending.alarm
        rw [reached, if_neg (by simp)] at silent
        simp [silent]
    | false =>
        have short := pending.early rests reached
        have limited := pending.limited
        rw [if_neg (by simp; omega), if_pos ⟨rfl, rfl⟩]
        congr 1
        omega
  · rw [same, ← still]
    exact pending.reached
  · rw [same, ← still, Nat.add_zero]

theorem Sound.begin (sound : a.Sound) (rests : a.records = false) :
    a.begin.Sound ∧ a.Lasts a.begin 0 := by
  obtain ⟨pending, lasts⟩ := sound.toPending.begin rests
  refine ⟨⟨pending, fun before => ?_⟩, lasts⟩
  rw [lasts.duration]
  exact sound.timely before

theorem Sound.suspend (sound : a.Sound) : a.suspend.Sound ∧ a.Lasts a.suspend 0 :=
  ⟨⟨⟨sound.limited, rfl, nofun, rfl, sound.reached, fun _ => sound.timely⟩, sound.timely⟩,
    rfl, rfl, rfl, rfl⟩

/-- The limit is told when its time has come, and only then. -/
theorem Pending.ring (pending : a.Pending) :
    (∀ time, a.alarm = some time → time ≤ a.now →
        a.records = true ∧ a.reached = false ∧ a.notice.Sound ∧ a.Lasts a.notice 0) ∧
      ((∀ time, a.alarm = some time → a.now < time) → a.Sound) := by
  constructor
  · intro time isSet due
    have alarm := pending.alarm
    rw [isSet] at alarm
    split at alarm
    · rename_i awaited
      obtain ⟨records, before⟩ := awaited
      have long : a.limit ≤ a.duration := by
        cases alarm
        omega
      refine ⟨records, before, ?_, rfl, rfl, ?_, rfl⟩
      · refine ⟨⟨pending.limited, pending.counts, pending.since, ?_, fun _ => long, nofun⟩, nofun⟩
        exact (if_neg fun awaited => Bool.noConfusion awaited.2).symm
      · change a.notices + 1 + a.reached.toNat = a.notices + 1
        rw [before]
        rfl
    · cases alarm
  · intro early
    refine ⟨pending, fun before => ?_⟩
    cases records : a.records with
    | false => exact pending.early records before
    | true =>
        have alarm := pending.alarm
        rw [if_pos ⟨records, before⟩] at alarm
        have later := early _ alarm
        omega

theorem sound_opened (limited : 0 < a.limit) : a.opened.Sound :=
  ⟨⟨limited, rfl, nofun, rfl, nofun, fun _ _ => limited⟩, fun _ => limited⟩

/-- Unless it is dropped, a recording goes on in an operation, or a new one is begun. -/
theorem Act.lasts (act : a.Act false b) (sound : a.Sound) :
    b.Sound ∧ (a.Lasts b 0 ∨ a.opened.Lasts b 0) := by
  cases act with
  | rests => exact ⟨sound, .inl (lasts_same a)⟩
  | begins still => exact (sound.begin still).imp_right .inl
  | suspends => exact sound.suspend.imp_right .inl
  | opens => exact ⟨sound_opened sound.limited, .inr (lasts_same _)⟩
  | opensAtOnce => exact ((sound_opened sound.limited).begin rfl).imp_right .inr

end

end Meter

namespace Recorder

/-! ## What the parts of an operation do to the meter -/

section
variable {r : Recorder}

theorem meter_emit (r : Recorder) (event : RecordingEvent) :
    (r.emit event).meter = { r.meter with
      notices := r.meter.notices + [event].count .maxDurationReached
      openings := r.meter.openings + [event].count (.stateChanged .initializing) } := by
  unfold meter emit
  rw [List.count_append, List.count_append]
  rfl

theorem meter_setState (r : Recorder) {state : RecordingState} (other : state ≠ .initializing) :
    (r.setState state).meter = { r.meter with records := state = .recording } := by
  unfold setState
  split
  · rename_i same
    rw [beq_iff_eq] at same
    rw [← same]
    rfl
  · have none : [RecordingEvent.stateChanged state].count (.stateChanged .initializing) = 0 := by
      simpa [List.count_singleton] using other
    rw [meter_emit, none]
    rfl

theorem meter_capture {capture : Capture} (now : capture.now = r.now) :
    { r with capture }.meter = r.meter :=
  congrArg (fun now => { r.meter with now }) now

theorem meter_suspended {r' : Recorder} (same : r'.meter = r.suspend.meter)
    {state : RecordingState} (other : state ≠ .initializing) (rests : state ≠ .recording) :
    (r'.setState state).meter = r.meter.suspend := by
  rw [meter_setState r' other, same, decide_eq_false rests]
  rfl

theorem meter_armLimit (r : Recorder) :
    r.armLimit.meter = { r.meter with
      alarm := if r.meter.limit = 0 ∨ r.meter.reached then r.meter.alarm
        else some (r.meter.now + (r.meter.limit - r.meter.duration)) } := by
  have unlimited : (decide (r.options.maxDuration = 0) || r.limitReached) = true ↔
      r.meter.limit = 0 ∨ r.meter.reached := by
    rw [Bool.or_eq_true, decide_eq_true_iff]
    rfl
  unfold armLimit
  split
  · rename_i none
    rw [if_pos (unlimited.mp none)]
  · rename_i some
    rw [if_neg (unlimited.not.mp some)]
    rfl

theorem meter_armFlush (r : Recorder) : r.armFlush.meter = r.meter := by
  obtain ⟨mark, handOut⟩ := r.armFlush_eq
  rw [handOut]
  rfl

theorem meter_beginActive (r : Recorder) : r.beginActive.meter = r.meter.begin := by
  have begins : ({ r with activeSince := some r.now }.setState .recording).meter =
      { r.meter with records := true, activeSince := some r.now } := meter_setState _ (by nofun)
  rw [beginActive, meter_armFlush, meter_armLimit, begins]
  have now : r.meter.accumulated + (r.now - r.now) = r.meter.accumulated := by
    rw [Nat.sub_self, Nat.add_zero]
  change { r.meter with
    records := true
    activeSince := some r.now
    alarm := if r.meter.limit = 0 ∨ r.meter.reached then r.meter.alarm
      else some (r.now + (r.meter.limit - (r.meter.accumulated + (r.now - r.now)))) } = r.meter.begin
  rw [now]
  rfl

theorem meter_flushPending (r : Recorder) : r.flushPending.meter = r.meter := by
  unfold flushPending
  dsimp only
  split
  · rfl
  · exact meter_emit _ _

theorem meter_watchFaults (r : Recorder) : r.watchFaults.meter = r.meter := by
  unfold watchFaults
  dsimp only
  split <;> rfl

theorem now_reset (capture : Capture) : capture.reset.releaseTracks.now = capture.now := by
  change (Capture.releaseTracks _).encoder.now = _
  rw [Capture.encoder_releaseTracks]
  rcases capture.encoder_reset with ⟨_, same⟩ | stopped
  · rw [same]
    rfl
  · rw [stopped]
    rfl

theorem meter_fail (r : Recorder) (failure : Failure) :
    (r.fail failure).meter = r.meter.suspend := by
  refine (meter_emit _ _).trans (meter_suspended ?_ nofun nofun)
  exact meter_capture (r := r.suspend) (now_reset r.capture)

theorem meter_discard (r : Recorder) :
    r.discard.meter = { r.meter.clear with records := r.meter.records } :=
  congrArg (fun now => { r.meter.clear with now, records := r.meter.records }) (now_reset r.capture)

theorem meter_opening (isOver : r.state.isOver = true) :
    ({ r.discard with failure := none }.setState .initializing).meter = r.meter.opened := by
  have other : ¬ (r.state == .initializing) = true := by
    intro same
    rw [beq_iff_eq.mp same] at isOver
    cases isOver
  have discarded := meter_discard r
  unfold setState
  rw [if_neg (by exact other), meter_emit]
  change { r.discard.meter with records := false, openings := r.discard.meter.openings + 1 } = _
  rw [discarded]
  rfl

theorem meter_pauseCapture (r : Recorder) : r.pauseCapture.meter = r.meter :=
  meter_capture (carries_pauseCapture r).now

theorem meter_resumeCapture (r : Recorder) : r.resumeCapture.meter = r.meter :=
  meter_capture (carries_resumeCapture r).now

theorem meter_begun {r' : Recorder} (same : r'.meter = r.meter) (other : r.state ≠ .recording) :
    r.meter.Act false r'.resumeCapture.beginActive.meter := by
  rw [meter_beginActive, meter_resumeCapture, same]
  exact .begins (decide_eq_false other)

/-! ## Operations -/

theorem meter_startEncoding {o : Recorder} {capture : Capture} {stream : MediaStream}
    {audio : Option MediaStream} (started : o.capture.startEncoding stream audio = .ok capture) :
    { o with capture }.meter = o.meter := by
  obtain ⟨encoder, recorded, begun, rfl⟩ := Capture.startEncoding_eq started
  obtain ⟨-, rfl⟩ := Encoder.start_eq begun
  rfl

/-- A new recording has lasted no time, and nobody was told about its limit. -/
theorem meter_openRecording (isOver : r.state.isOver = true) (atOnce : Bool) :
    (r.openRecording atOnce).1.meter = r.meter.opened ∨
      (r.openRecording atOnce).1.meter = r.meter.opened.begin := by
  have opening := meter_opening isOver
  unfold openRecording
  generalize { r.discard with failure := none }.setState .initializing = o at opening
  have failing (o' : Recorder) (same : o'.meter = r.meter.opened) (failure : Failure) :
      (o'.fail failure).meter = r.meter.opened := by
    rw [meter_fail, same]
    rfl
  have acquires : { o with capture := (o.capture.acquire o.options.constraints).1 }.meter =
      r.meter.opened :=
    (meter_capture (congrArg Encoder.now (Capture.encoder_acquire o.capture o.options.constraints))).trans opening
  dsimp only
  split
  · rename_i capture failure acquired
    rw [acquired] at acquires
    exact .inl (failing _ acquires failure)
  · rename_i capture stream acquired
    rw [acquired] at acquires
    split
    · rename_i failure started
      exact .inl (failing _ acquires failure)
    · rename_i encoding started
      have encodes : { o with capture := encoding }.meter = r.meter.opened :=
        (meter_startEncoding (o := { o with capture }) started).trans acquires
      have watches := (meter_watchFaults { o with capture := encoding }).trans encodes
      cases atOnce with
      | true => exact .inr ((meter_beginActive _).trans (congrArg Meter.begin watches))
      | false =>
          refine .inl ?_
          have waits := (meter_pauseCapture (watchFaults { o with capture := encoding })).trans watches
          have ready := meter_setState (pauseCapture (watchFaults { o with capture := encoding }))
            (show RecordingState.ready ≠ .initializing by nofun)
          rw [waits] at ready
          exact ready

theorem meter_stopping (r : Recorder) :
    { (r.setState .stopping).suspend with timers := {}, pausedByVisibility := false }.meter =
      r.meter.suspend := by
  have stopping : (r.setState .stopping).meter = { r.meter with records := false } :=
    meter_setState r nofun
  change { (r.setState .stopping).meter.suspend with records := (r.setState .stopping).meter.records } = _
  rw [stopping]
  rfl

theorem meter_stop (r : Recorder) :
    r.stop.1.meter = r.meter ∨ r.stop.1.meter = r.meter.suspend := by
  unfold stop
  split
  · exact .inl rfl
  · have stopping := meter_stopping r
    generalize r.setState .stopping = b at stopping
    refine .inr ?_
    dsimp only
    cases stops : b.suspend.capture.stop with
    | error failure =>
        dsimp only
        rw [meter_fail, stopping]
        rfl
    | ok result =>
        let o := { b.suspend with timers := {}, pausedByVisibility := false }
        have ended : { o with capture := result.2 }.meter = r.meter.suspend :=
          (meter_capture (carries_captureStop (r := o) stops).now).trans stopping
        have handsOut : (flushPending { o with capture := result.2 }).meter = r.meter.suspend :=
          (meter_flushPending _).trans ended
        have completed (o : Recorder) (same : o.meter = r.meter.suspend) :
            (o.setState .completed).meter = r.meter.suspend := by
          rw [meter_setState _ (by nofun), same]
          rfl
        dsimp only
        split
        · exact completed _ handsOut
        · exact completed _ ended

theorem meter_paused {r' : Recorder} (same : r'.meter = r.suspend.pauseCapture.meter) :
    r.meter.Act false (r'.setState .paused).meter := by
  have paused : (r'.setState .paused).meter = r.meter.suspend :=
    meter_suspended (same.trans (meter_pauseCapture _)) nofun nofun
  exact paused ▸ .suspends

/-- What drops a recording. -/
def Input.drops : Input → Bool
  | .abandon | .reset => true
  | _ => false

theorem meter_operate (r : Recorder) {input : Input} (timeless : ∀ ms, input ≠ .elapse ms) :
    r.meter.Act input.drops (r.operate input).meter := by
  cases input with
  | prepare =>
      simp only [operate, prepare]
      split
      · rename_i isOver
        rcases meter_openRecording isOver r.options.autoStart with opened | begun
        · exact opened ▸ .opens
        · exact begun ▸ .opensAtOnce
      · exact .rests
  | start =>
      simp only [operate, start]
      split
      · rename_i isOver
        rcases meter_openRecording isOver true with opened | begun
        · exact opened ▸ .opens
        · exact begun ▸ .opensAtOnce
      · split
        · rename_i ready
          exact meter_begun rfl (by rw [ready]; decide)
        · exact .rests
        · exact .rests
  | stop =>
      rcases meter_stop r with same | suspended
      · exact (show r.stop.1.meter = _ from same) ▸ .rests
      · exact (show r.stop.1.meter = _ from suspended) ▸ .suspends
  | pause =>
      simp only [operate, pause]
      split
      · exact meter_paused rfl
      · exact .rests
      · exact .rests
  | resume =>
      simp only [operate, resume]
      split
      · rename_i paused
        exact meter_begun rfl (by rw [paused]; decide)
      · exact .rests
  | setVisibility visibility =>
      cases visibility with
      | hidden =>
          simp only [operate, setVisibility]
          split
          · exact meter_paused rfl
          · exact .rests
      | visible =>
          simp only [operate, setVisibility]
          split <;> exact .rests
  | abandon =>
      have dropped : r.abandon.meter = r.meter.clear := by
        rw [abandon, meter_setState _ (by decide), meter_discard]
        rfl
      exact (show r.abandon.meter = _ from dropped) ▸ .clears
  | reset =>
      have dropped : r.reset.meter = r.meter.clear := by
        rw [reset, meter_setState _ (by decide)]
        exact congrArg (fun a : Meter => { a with records := false }) (meter_discard r)
      exact (show r.reset.meter = _ from dropped) ▸ .clears
  | setAudio | share | setOutcome => exact .rests
  | elapse ms => exact absurd rfl (timeless ms)

/-! ## Time -/

theorem meter_fireResume (r : Recorder) :
    r.fireResume.meter = r.meter ∨
      r.meter.records = false ∧ r.fireResume.meter = r.meter.begin := by
  rw [fireResume_eq]
  split
  · unfold goOn
    dsimp only
    split
    · rename_i hidden
      have paused : r.state = .paused := beq_iff_eq.mp (Bool.and_eq_true_iff.mp hidden).1
      refine .inr ⟨decide_eq_false (by rw [paused]; nofun), ?_⟩
      rw [meter_beginActive, meter_resumeCapture]
      rfl
    · exact .inl rfl
  · exact .inl rfl

theorem meter_fireFlush (r : Recorder) : r.fireFlush.meter = r.meter := by
  unfold fireFlush
  split
  · split
    · split
      · exact meter_flushPending _
      · rfl
    · rfl
  · rfl

theorem meter_fireLimit (pending : r.meter.Pending) :
    r.fireLimit.meter.Sound ∧ r.meter.Lasts r.fireLimit.meter 0 := by
  obtain ⟨rings, silent⟩ := pending.ring
  rw [fireLimit_eq]
  split
  · rename_i due
    obtain ⟨time, isSet, due⟩ := Studio.isDue_iff.mp due
    obtain ⟨records, before, told⟩ := rings time isSet due
    have tells : r.tellLimit.meter = r.meter.notice := by
      have recording : r.state = .recording := of_decide_eq_true records
      have unreached : r.limitReached = false := before
      unfold tellLimit
      dsimp only
      rw [if_pos (by rw [recording, unreached]; rfl), meter_emit]
      rfl
    rw [tells]
    exact told
  · rename_i early
    exact ⟨silent fun time isSet => not_isDue early isSet, Meter.lasts_same _⟩

theorem meter_fireEncoder (r : Recorder) :
    r.fireEncoder.meter = r.meter ∨ r.fireEncoder.meter = r.meter.suspend := by
  have fires : { r with capture := r.capture.fire.1 }.meter = r.meter := by
    refine meter_capture ?_
    rw [Capture.now, (Capture.of_fire _).1]
    exact Encoder.now_fire _
  rw [fireEncoder_eq]
  split
  · rw [takeFault_eq]
    unfold hearFault
    dsimp only
    split
    · split
      · refine .inr ((meter_fail _ _).trans ?_)
        exact congrArg Meter.suspend fires
      · exact .inl fires
    · exact .inl fires
  · exact .inl fires

theorem meter_settle (pending : r.meter.Pending) :
    r.settle.meter.Sound ∧ r.meter.Lasts r.settle.meter 0 := by
  have resumed : r.fireResume.meter.Pending ∧ r.meter.Lasts r.fireResume.meter 0 := by
    rcases meter_fireResume r with same | ⟨still, begins⟩
    · rw [same]
      exact ⟨pending, Meter.lasts_same _⟩
    · rw [begins]
      exact pending.begin still
  obtain ⟨sound, limited⟩ := meter_fireLimit resumed.1
  rw [← meter_fireFlush r.fireResume.fireLimit] at sound limited
  have waiting := resumed.2.trans limited
  rcases meter_fireEncoder r.fireResume.fireLimit.fireFlush with same | suspends
  · rw [settle, same]
    exact ⟨sound, waiting⟩
  · rw [settle, suspends]
    exact ⟨sound.suspend.1, waiting.trans sound.suspend.2⟩

theorem openings_settle (r : Recorder) : r.settle.meter.openings = r.meter.openings := by
  have limited (r : Recorder) : r.fireLimit.meter.openings = r.meter.openings := by
    rw [fireLimit_eq]
    split
    · unfold tellLimit
      dsimp only
      split
      · rw [meter_emit]
        rfl
      · rfl
    · rfl
  have waiting : r.fireResume.fireLimit.fireFlush.meter.openings = r.meter.openings := by
    rw [meter_fireFlush, limited]
    rcases meter_fireResume r with same | ⟨-, begins⟩
    · rw [same]
    · rw [begins]
      rfl
  rcases meter_fireEncoder r.fireResume.fireLimit.fireFlush with same | suspends
  · rw [settle, same, waiting]
  · rw [settle, suspends]
    exact waiting

theorem AtRest.openings_elapse (atRest : r.AtRest) (ms : Nat) :
    (r.elapse ms).meter.openings = r.meter.openings := by
  induction ms with
  | zero => rfl
  | succ ms ih =>
      rw [atRest.elapse_succ]
      exact (openings_settle _).trans ih

theorem meter_pass (sound : r.meter.Sound) :
    r.pass.meter.Sound ∧ r.meter.Lasts r.pass.meter r.meter.records.toNat := by
  obtain ⟨pending, waits⟩ := sound.wait
  have waiting : (r.advanceTo (r.now + 1)).meter = r.meter.wait := rfl
  rw [← waiting] at pending waits
  obtain ⟨sound, settles⟩ := meter_settle pending
  exact ⟨sound, waits.trans settles⟩

/-- How much of the time that an input takes is spent recording. -/
def recordingTime (r : Recorder) (ms : Nat) : Nat :=
  (List.range ms).countP fun part => (r.elapse part).state = .recording

theorem recordingTime_succ (r : Recorder) (ms : Nat) :
    r.recordingTime (ms + 1) = r.recordingTime ms + (r.elapse ms).meter.records.toNat := by
  rw [recordingTime, List.range_succ, List.countP_append, List.countP_singleton]
  congr 1
  change _ = (decide _).toNat
  cases decide ((r.elapse ms).state = .recording) <;> rfl

theorem AtRest.meter_elapse (atRest : r.AtRest) (sound : r.meter.Sound) (ms : Nat) :
    (r.elapse ms).meter.Sound ∧ r.meter.Lasts (r.elapse ms).meter (r.recordingTime ms) := by
  induction ms with
  | zero => exact ⟨sound, Meter.lasts_same _⟩
  | succ ms ih =>
      obtain ⟨sound, lasts⟩ := ih
      obtain ⟨passes, longer⟩ := meter_pass sound
      rw [atRest.elapse_succ, recordingTime_succ]
      exact ⟨passes, lasts.trans longer⟩

/-! ## Inputs -/

/-- By an input that does not drop it, a recording lasts as much longer as is spent recording, or a new
    one is begun. -/
theorem AtRest.metered_step (atRest : r.AtRest) (sound : r.meter.Sound) {input : Input}
    (kept : input.drops = false) :
    (r.step input).meter.Sound ∧
      (r.meter.Lasts (r.step input).meter (r.recordingTime input.time) ∨
        r.meter.opened.Lasts (r.step input).meter 0) := by
  rcases timeless_or_elapse input with ⟨timeless, instant⟩ | ⟨ms, rfl⟩
  · have act := meter_operate r timeless
    rw [kept] at act
    obtain ⟨operated, outcome⟩ := act.lasts sound
    obtain ⟨settles, same⟩ := meter_settle operated.toPending
    rw [atRest.step_eq timeless, instant]
    exact ⟨settles, outcome.imp (fun lasts => lasts.trans same) (fun opens => opens.trans same)⟩
  · exact (atRest.meter_elapse sound ms).imp_right .inl

/-- A recording that begins is a new one, whatever was known before. -/
theorem AtRest.opens_step (atRest : r.AtRest) (limited : 0 < r.meter.limit) {input : Input}
    (opens : (r.step input).meter.openings ≠ r.meter.openings) :
    (r.step input).meter.Sound ∧ r.meter.opened.Lasts (r.step input).meter 0 := by
  rcases timeless_or_elapse input with ⟨timeless, -⟩ | ⟨ms, rfl⟩
  · have act := meter_operate r timeless
    rw [atRest.step_eq timeless] at opens ⊢
    rw [openings_settle] at opens
    generalize r.operate input = operated at act opens ⊢
    generalize input.drops = drops at act
    have opening : operated.meter.Sound ∧ r.meter.opened.Lasts operated.meter 0 := by
      generalize operated.meter = after at act opens ⊢
      cases act with
      | rests | begins | suspends | clears => exact absurd rfl opens
      | opens => exact ⟨Meter.sound_opened limited, Meter.lasts_same _⟩
      | opensAtOnce => exact (Meter.sound_opened limited).begin rfl
    obtain ⟨settles, same⟩ := meter_settle opening.1.toPending
    exact ⟨settles, opening.2.trans same⟩
  · exact absurd (atRest.openings_elapse ms) opens

theorem AtRest.count_run (atRest : r.AtRest) (event : RecordingEvent) (inputs : List Input) :
    (r.run inputs).log.count event = r.log.count event + (r.news (r.run inputs)).count event := by
  rw [atRest.log_run inputs, List.count_append]

/-- As long as a recording lasts, its duration grows by the time spent recording. -/
theorem AtRest.lasts_run (atRest : r.AtRest) (sound : r.meter.Sound) {inputs : List Input}
    (kept : ∀ input ∈ inputs, input.drops = false)
    (same : (r.run inputs).meter.openings = r.meter.openings) :
    (r.run inputs).meter.Sound ∧
      r.meter.Lasts (r.run inputs).meter (r.timeIn .recording inputs) := by
  induction inputs generalizing r with
  | nil => exact ⟨sound, Meter.lasts_same _⟩
  | cons input rest ih =>
      rw [List.forall_mem_cons] at kept
      obtain ⟨stepped, outcome⟩ := atRest.metered_step sound kept.1
      have onward := (atRest.step input).count_run (.stateChanged .initializing) rest
      change (r.run (input :: rest)).meter.openings = (r.step input).meter.openings + _ at onward
      rcases outcome with lasts | opens
      · have first := lasts.openings
        obtain ⟨sound, more⟩ := ih (atRest.step input) stepped kept.2 (same.trans first.symm)
        exact ⟨sound, lasts.trans more⟩
      · have first : _ = r.meter.openings + 1 := opens.openings
        omega

/-! ## One recording -/

theorem state_fireEncoder (r : Recorder) :
    r.fireEncoder.state = r.state ∨ ∃ failure, .failed failure ∈ r.news r.fireEncoder := by
  rw [fireEncoder_eq]
  split
  · rename_i failure _
    rw [takeFault_eq]
    unfold hearFault
    dsimp only
    split
    · split
      · refine .inr ⟨failure, ?_⟩
        rw [fail, emit, setState_eq, news, List.append_assoc]
        change _ ∈ (r.log ++ _).drop r.log.length
        rw [List.drop_left]
        exact List.mem_append_right _ (List.mem_singleton_self _)
      · exact .inl rfl
    · exact .inl rfl
  · exact .inl rfl

/-- The recording goes on when its limit is told, unless it fails at the same time. -/
theorem recording_of_reached (inStep : r.reel.InStep) (before : r.meter.reached = false)
    (after : r.settle.meter.reached = true) :
    r.settle.state = .recording ∨ ∃ failure, .failed failure ∈ r.news r.settle := by
  have resumed := run_of_act (act_fireResume inStep)
  have waiting := (resumed.trans (run_of_act (act_fireLimit _))).trans (run_of_act (act_fireFlush _))
  have unreached : r.fireResume.limitReached = false := by
    rcases meter_fireResume r with same | ⟨-, begins⟩
    · exact (congrArg Meter.reached same).trans before
    · exact (congrArg Meter.reached begins).trans before
  have reached : r.fireResume.fireLimit.limitReached = true := by
    have flushed := meter_fireFlush r.fireResume.fireLimit
    rcases meter_fireEncoder r.fireResume.fireLimit.fireFlush with same | suspends
    · exact (congrArg Meter.reached (same.trans flushed)).symm.trans after
    · exact (congrArg Meter.reached (suspends.trans (congrArg Meter.suspend flushed))).symm.trans after
  have records : r.fireResume.state = .recording := by
    rw [fireLimit_eq] at reached
    split at reached
    · unfold tellLimit at reached
      dsimp only at reached
      split at reached
      · rename_i tells
        exact beq_iff_eq.mp (Bool.and_eq_true_iff.mp tells).1
      · cases unreached.symm.trans reached
    · cases unreached.symm.trans reached
  rcases state_fireEncoder r.fireResume.fireLimit.fireFlush with same | ⟨failure, told⟩
  · refine .inl (same.trans ?_)
    rw [state_fireFlush, state_fireLimit, records]
  · refine .inr ⟨failure, List.drop_subset_drop_left _ ?_ told⟩
    have log : r.fireResume.fireLimit.fireFlush.log = r.log ++ _ := waiting.log
    rw [log, List.length_append]
    exact Nat.le_add_right _ _

/-- An input begins a recording, and later ones neither drop it nor begin another. -/
structure OneRecording (opened : Recorder) (opening : Input) (during : List Input) : Prop where
  begins : .stateChanged .initializing ∈ opened.news (opened.step opening)
  kept : ∀ input ∈ during, input ≠ .abandon ∧ input ≠ .reset
  alone : .stateChanged .initializing ∉
    (opened.step opening).news ((opened.step opening).run during)

theorem AtRest.opens_of_told (atRest : r.AtRest) {input : Input}
    (told : .stateChanged .initializing ∈ r.news (r.step input)) :
    (r.step input).meter.openings ≠ r.meter.openings := by
  have counts := atRest.count_run (.stateChanged .initializing) [input]
  change (r.step input).meter.openings = r.meter.openings + (r.news (r.step input)).count _ at counts
  have positive := List.count_pos_iff.mpr told
  omega

theorem OneRecording.metered {opened : Recorder} {opening : Input} {during : List Input}
    (one : OneRecording opened opening during) (atRest : opened.AtRest)
    (limited : 0 < opened.meter.limit) :
    ((opened.step opening).run during).meter.Sound ∧
      opened.meter.opened.Lasts ((opened.step opening).run during).meter
        ((opened.step opening).timeIn .recording during) := by
  have begun := atRest.step opening
  obtain ⟨sound, fresh⟩ := atRest.opens_step limited (atRest.opens_of_told one.begins)
  have kept : ∀ input ∈ during, input.drops = false := by
    intro input among
    obtain ⟨abandons, resets⟩ := one.kept input among
    cases input with
    | abandon => exact absurd rfl abandons
    | reset => exact absurd rfl resets
    | _ => rfl
  have same : ((opened.step opening).run during).meter.openings =
      (opened.step opening).meter.openings := by
    have counts := begun.count_run (.stateChanged .initializing) during
    rw [List.count_eq_zero.mpr one.alone, Nat.add_zero] at counts
    exact counts
  obtain ⟨sound, lasts⟩ := begun.lasts_run sound kept same
  have whole := fresh.trans lasts
  rw [Nat.zero_add] at whole
  exact ⟨sound, whole⟩

/-- The limit is told when it comes to be reached. -/
theorem AtRest.count_notices (atRest : r.AtRest) {inputs : List Input} {before : Bool}
    (notices : (r.run inputs).meter.notices + before.toNat =
      r.meter.notices + (r.run inputs).meter.reached.toNat) :
    (r.news (r.run inputs)).count .maxDurationReached + before.toNat =
      (r.run inputs).meter.reached.toNat := by
  have counts : (r.run inputs).meter.notices = r.meter.notices + _ :=
    atRest.count_run .maxDurationReached inputs
  rw [counts, Nat.add_assoc, Nat.add_left_cancel_iff] at notices
  exact notices

theorem AtRest.told_iff (atRest : r.AtRest) {inputs : List Input} {spent : Nat}
    (lasts : r.meter.Lasts (r.run inputs).meter spent) :
    .maxDurationReached ∈ r.news (r.run inputs) ↔
      r.meter.reached = false ∧ (r.run inputs).meter.reached = true := by
  have counted := atRest.count_notices lasts.notices
  rw [← List.count_pos_iff]
  generalize (r.news (r.run inputs)).count .maxDurationReached = told at counted ⊢
  generalize (r.run inputs).meter.reached = after at counted ⊢
  generalize r.meter.reached = before at counted ⊢
  cases before <;> cases after <;> simp at counted ⊢ <;> omega

/-- While one recording lasts, its duration is the time spent in state `recording`. That its limit is
    reached is told when that time is equal to the limit, not before and not again, and the recording
    goes on unless it fails at the same time. -/
theorem limit_told_once (isNew : r.New) (limited : 0 < r.options.maxDuration)
    (before : List Input) (opening : Input) (during : List Input)
    (one : OneRecording (r.run before) opening during) :
    let begun := (r.run before).step opening
    let session := begun.run during
    let time := begun.timeIn .recording during
    session.snapshot.duration = time ∧
      ((r.run before).news session).count .maxDurationReached =
        (if r.options.maxDuration ≤ time then 1 else 0) ∧
      (.maxDurationReached ∈ session.news (session.elapse 1) ↔
        time < r.options.maxDuration ∧
          begun.timeIn .recording (during ++ [.elapse 1]) = r.options.maxDuration) ∧
      (.maxDurationReached ∈ session.news (session.elapse 1) →
        (∀ failure, .failed failure ∉ session.news (session.elapse 1)) →
          (session.elapse 1).state = .recording) := by
  have atRest := atRest_run isNew before
  have options : (r.run before).options = r.options := (atRest_run isNew []).options_run before
  have limit : (r.run before).meter.limit = r.options.maxDuration :=
    congrArg RecordingOptions.maxDuration options
  obtain ⟨sound, lasts⟩ := one.metered atRest (limit ▸ limited)
  intro begun session time
  have duration : session.meter.duration = time := lasts.duration.trans (Nat.zero_add _)
  have reached : session.meter.reached = true ↔ r.options.maxDuration ≤ time := by
    rw [sound.reached_iff, duration, lasts.limit]
    exact (congrArg (· ≤ time) limit).to_iff
  have rests : session.AtRest := (atRest.step opening).run during
  obtain ⟨next_sound, next⟩ := rests.meter_elapse sound 1
  have next_time : begun.timeIn .recording (during ++ [.elapse 1]) = time + session.recordingTime 1 :=
    timeIn_append _ _ _ _
  have next_reached : (session.elapse 1).meter.reached = true ↔
      r.options.maxDuration ≤ time + session.recordingTime 1 := by
    rw [next_sound.reached_iff, next.duration, duration, next.limit, lasts.limit]
    exact (congrArg (· ≤ time + session.recordingTime 1) limit).to_iff
  have told_iff : .maxDurationReached ∈ session.news (session.elapse 1) ↔
      session.meter.reached = false ∧ (session.elapse 1).meter.reached = true :=
    rests.told_iff (show session.meter.Lasts (session.run [.elapse 1]).meter _ from next)
  refine ⟨duration, ?_, ?_, ?_⟩
  · have notices : ((r.run before).run (opening :: during)).meter.notices + false.toNat = _ :=
      lasts.notices
    refine (atRest.count_notices notices).trans ?_
    change session.meter.reached.toNat = _
    split
    · rename_i long
      rw [reached.mpr long]
      rfl
    · rename_i short
      rw [Bool.eq_false_iff.mpr (reached.not.mpr short)]
      rfl
  · rw [told_iff, next_time, next_reached, ← Bool.not_eq_true, reached]
    have short : session.recordingTime 1 ≤ 1 := List.countP_le_length
    omega
  · intro told fine
    rw [told_iff] at told
    rw [rests.elapse_one] at told fine ⊢
    rcases recording_of_reached (r := session.advanceTo (session.now + 1)) rests.inStep told.1 told.2 with
      records | ⟨failure, failed⟩
    · exact records
    · exact absurd failed (fine failure)

theorem limit_told_after_pause :
    let r : Recorder := { options := { maxDuration := 3 }, capture := { encoder := { timeslice := 100 } } }
    let during : List Input := [.elapse 2, .pause, .elapse 4, .resume]
    let session := (r.step .start).run during
    OneRecording r .start during ∧ session.snapshot.duration = 2 ∧
      .maxDurationReached ∈ session.news (session.elapse 1) ∧
      (session.elapse 1).state = .recording := by
  intro r during session
  have isNew : r.New := Recorder.isNew { maxDuration := 3 } 100
  have one : OneRecording r .start during := ⟨by decide +kernel, by decide, by decide +kernel⟩
  obtain ⟨duration, -, told, records⟩ := limit_told_once isNew (by decide) [] .start during one
  have time : (r.step .start).timeIn .recording during = 2 := by decide +kernel
  have next : (r.step .start).timeIn .recording (during ++ [.elapse 1]) = 3 := by decide +kernel
  have short : (r.step .start).timeIn .recording during < 3 := by
    rw [time]
    decide
  have tells := told.mpr ⟨short, next⟩
  have news : session.news (session.elapse 1) = [.maxDurationReached] := by decide +kernel
  refine ⟨one, duration.trans time, tells, records tells fun failure failed => ?_⟩
  cases List.mem_singleton.mp (news ▸ failed)

end

end Recorder

end Viva
