import Viva.Proofs.Recorder.Studio

/-! # A recorder and its capture

`Capture.Act` is one thing that can become of a capture: one of its operations, an encoder that fires
or fails, or time. Whatever happens to a recorder, nothing else becomes of its capture
(`Studio.Next.captures`). So its encoder, as long as it is at work, is paused exactly while the capture
is (`Capture.Obedient`), and an encoder that is paused delivers nothing.
-/

namespace Viva

namespace Capture

inductive Act (a : Capture) : Capture → Prop where
  | pauses : Act a a.pause.2
  | resumes : Act a a.resume.2
  | stops {blob : Blob} {b : Capture} (stopped : a.stop = .ok (blob, b)) : Act a b
  | resets : Act a a.reset
  | releases : Act a a.releaseTracks
  | acquires (constraints : Constraints) : Act a (a.acquire constraints).1
  | starts {stream : MediaStream} {audio : Option MediaStream} {b : Capture}
      (started : a.startEncoding stream audio = .ok b) : Act a b
  | hands : Act a a.takeFaultChannel.2
  /-- Somebody else opens devices. -/
  | shares (hardware : Hardware) : Act a { a with hardware }
  | asks (outcome : PermissionOutcome) : Act a (a.setOutcome outcome)
  | fires : Act a a.fire.1
  | fails (failure : Failure) :
      Act a { a with
        encoder := a.encoder.stop
        faults := a.faults ++ [(a.runs - 1, failure)] }
  | waits (time : Nat) : Act a (a.advanceTo time)

/-- The capture may become another one. -/
def Later : Capture → Capture → Prop :=
  Relation.ReflTransGen Act

/-- The encoder does what the capture says. -/
def Obedient (a : Capture) : Prop :=
  ∀ run, a.encoder.run = some run → a.state = if run.paused then .paused else .recording

variable {a b : Capture}

theorem Act.later (act : a.Act b) : a.Later b :=
  .single act

theorem later_same (a : Capture) : a.Later a :=
  .refl

theorem Later.trans {c : Capture} (first : a.Later b) (second : b.Later c) : a.Later c :=
  Relation.ReflTransGen.trans first second

/-! ## Encoders -/

theorem Obedient.of_same (obedient : a.Obedient) (run : b.encoder.run = a.encoder.run)
    (state : b.state = a.state) : b.Obedient := by
  intro current running
  rw [run] at running
  rw [state]
  exact obedient current running

theorem obedient_of_still (still : a.encoder.run = none) : a.Obedient := by
  intro run running
  rw [still] at running
  cases running

theorem obedient_setPaused (paused : Bool)
    (encoder : b.encoder = a.encoder.setPaused paused)
    (state : b.state = if paused then .paused else .recording) : b.Obedient := by
  intro run running
  rw [encoder] at running
  obtain ⟨before, -, rfl⟩ := Option.map_eq_some_iff.mp running
  exact state

/-- At the end of a timeslice the encoder is paused as before, unless it is not at work any more. -/
theorem run_fire {encoder : Encoder} {run : EncoderRun} (goesOn : encoder.fire.1.run = some run) :
    ∃ before, encoder.run = some before ∧ before.paused = run.paused := by
  have fires := encoder.fires
  generalize encoder.fire = fired at fires goesOn
  cases fires with
  | rests => exact ⟨run, goesOn, rfl⟩
  | crashes => cases goesOn
  | skips running | delivers running =>
      cases goesOn
      exact ⟨_, running, rfl⟩

theorem Act.obedient (act : a.Act b) (obedient : a.Obedient) : b.Obedient := by
  cases act with
  | pauses =>
      unfold pause
      split
      · exact obedient_setPaused true rfl rfl
      · exact obedient
  | resumes =>
      unfold resume
      split
      · exact obedient_setPaused false rfl rfl
      · exact obedient
  | stops stopped =>
      obtain ⟨_, rfl⟩ := stop_eq stopped
      apply obedient_of_still
      rw [encoder_releaseTracks]
      rfl
  | resets =>
      refine obedient_of_still ?_
      apply still_reset
      intro inactive
      -- A capture that is inactive has no encoder at work, so there is nothing to stop.
      cases running : a.encoder.run with
      | none => rfl
      | some run =>
          have state := obedient run running
          rw [inactive] at state
          split at state <;> cases state
  | releases =>
      unfold releaseTracks
      split <;> exact obedient.of_same rfl rfl
  | acquires constraints =>
      unfold acquire
      split
      · exact obedient
      · split <;> exact obedient.of_same rfl rfl
  | starts started =>
      obtain ⟨encoder, recorded, begun, rfl⟩ := Capture.startEncoding_eq started
      obtain ⟨-, rfl⟩ := Encoder.start_eq begun
      rintro run ⟨⟩
      rfl
  | hands | shares | asks | waits => exact obedient.of_same rfl rfl
  | fires =>
      obtain ⟨encoder, state⟩ := a.of_fire
      intro run running
      rw [encoder] at running
      obtain ⟨before, begun, same⟩ := run_fire running
      rw [state, ← same]
      exact obedient before begun
  | fails => exact obedient_of_still rfl

theorem Later.obedient (later : a.Later b) (obedient : a.Obedient) : b.Obedient := by
  induction later with
  | refl => exact obedient
  | tail _ act ih => exact act.obedient ih

/-- Nothing comes from an encoder while the capture is paused. -/
theorem Obedient.fire_of_paused (obedient : a.Obedient) (paused : a.state = .paused) :
    a.fire = ({ a with encoder := a.encoder.fire.1 }, none) ∧
      a.encoder.fire.1.run.isSome = a.encoder.run.isSome := by
  have hushed {run : EncoderRun} (running : a.encoder.run = some run) : run.paused = true := by
    have state := obedient run running
    rw [paused] at state
    split at state
    · assumption
    · cases state
  have fires := a.encoder.fires
  unfold fire
  generalize a.encoder.fire = fired at fires ⊢
  cases fires with
  | rests => exact ⟨rfl, rfl⟩
  | skips running => exact ⟨rfl, (Option.isSome_of_mem running).symm⟩
  | crashes running late active | delivers running late active =>
      cases (hushed running).symm.trans active

end Capture

/-! ## What the parts of an operation do to the capture -/

namespace Recorder

open Capture

theorem capture_beginActive (r : Recorder) : r.beginActive.capture = r.capture := by
  have limit (b : Recorder) : b.armLimit.capture = b.capture := by
    unfold armLimit
    split <;> rfl
  have handOut (b : Recorder) : b.armFlush.capture = b.capture := by
    unfold armFlush
    split <;> rfl
  rw [beginActive, handOut, limit, capture_setState]

theorem capture_flushPending (r : Recorder) : r.flushPending.capture = r.capture := by
  unfold flushPending
  dsimp only
  split <;> rfl

theorem capture_watchFaults (r : Recorder) :
    r.watchFaults.capture = r.capture.takeFaultChannel.2 := by
  unfold watchFaults
  dsimp only
  split <;> rfl

theorem captures_reset (capture : Capture) : capture.Later capture.reset.releaseTracks :=
  (Act.resets).later.trans (Act.releases).later

theorem captures_fail (r : Recorder) (failure : Failure) :
    r.capture.Later (r.fail failure).capture := by
  have failed : (r.fail failure).capture = r.capture.reset.releaseTracks := capture_setState _ _
  rw [failed]
  exact captures_reset _

theorem captures_begun (r : Recorder) : r.capture.Later r.resumeCapture.beginActive.capture := by
  rw [capture_beginActive]
  exact (Act.resumes (a := r.capture)).later

/-! ## Operations -/

theorem captures_openRecording (r : Recorder) (atOnce : Bool) :
    r.capture.Later (r.openRecording atOnce).1.capture := by
  have opening : r.capture.Later
      ({ r.discard with failure := none }.setState .initializing).capture := by
    rw [capture_setState]
    exact captures_reset _
  unfold openRecording
  generalize { r.discard with failure := none }.setState .initializing = o at opening
  refine opening.trans ?_
  have acquires := (Act.acquires (a := o.capture) o.options.constraints).later
  dsimp only
  generalize o.capture.acquire o.options.constraints = answer at acquires
  obtain ⟨capture, _ | stream⟩ := answer
  · exact acquires.trans (captures_fail { o with capture } _)
  · dsimp only at acquires ⊢
    cases started : capture.startEncoding stream o.audio with
    | error failure => exact acquires.trans (captures_fail { o with capture } _)
    | ok encoding =>
        let w := watchFaults { o with capture := encoding }
        have watches : o.capture.Later w.capture := by
          rw [capture_watchFaults]
          exact (acquires.trans (Act.starts started).later).trans (Act.hands).later
        cases atOnce with
        | true =>
            have begins : o.capture.Later w.beginActive.capture := by
              rw [capture_beginActive]
              exact watches
            exact begins
        | false =>
            have waits : o.capture.Later (w.pauseCapture.setState .ready).capture := by
              rw [capture_setState]
              exact watches.trans (Act.pauses).later
            exact waits

theorem captures_stop (r : Recorder) : r.capture.Later r.stop.1.capture := by
  unfold stop
  split
  · exact later_same _
  · have same : (r.setState .stopping).suspend.capture = r.capture := capture_setState r .stopping
    dsimp only
    rw [same]
    cases stopped : r.capture.stop with
    | error failure =>
        have failing := captures_fail { (r.setState .stopping).suspend with
          timers := {}, pausedByVisibility := false } failure
        rw [show r.capture = _ from same.symm]
        exact failing
    | ok result =>
        dsimp only
        rw [capture_setState]
        split
        · rw [capture_flushPending]
          exact (Act.stops stopped).later
        · exact (Act.stops stopped).later

theorem captures_operate (r : Recorder) (input : Input) :
    r.capture.Later (r.operate input).capture := by
  cases input with
  | prepare =>
      simp only [operate, prepare]
      split
      · exact captures_openRecording r _
      · exact later_same _
  | start =>
      simp only [operate, start]
      split
      · exact captures_openRecording r true
      · split
        · exact captures_begun r
        · exact later_same _
        · exact later_same _
  | stop => exact captures_stop r
  | pause =>
      simp only [operate, pause]
      split
      · rw [capture_setState]
        exact (Act.pauses (a := r.capture)).later
      · exact later_same _
      · exact later_same _
  | resume =>
      simp only [operate, resume]
      split
      · rw [capture_beginActive]
        exact (Act.resumes (a := r.capture)).later
      · exact later_same _
  | setVisibility visibility =>
      cases visibility with
      | hidden =>
          simp only [operate, setVisibility]
          split
          · rw [capture_setState]
            exact (Act.pauses (a := r.capture)).later
          · exact later_same _
      | visible =>
          simp only [operate, setVisibility]
          split <;> exact later_same _
  | abandon | reset =>
      change r.capture.Later (Recorder.setState _ _).capture
      rw [capture_setState]
      exact captures_reset _
  | setAudio audio => exact later_same _
  | share offer => exact (Act.shares _).later
  | setOutcome outcome => exact (Act.asks outcome).later
  | elapse ms => exact (Act.waits _).later

end Recorder

namespace Studio

open Capture

variable {s s' : Studio} {task : Task}

theorem Acts.captures (act : s.Acts task s') :
    s.recorder.capture.Later s'.recorder.capture := by
  cases act with
  | limit =>
      change s.recorder.capture.Later s.recorder.tellLimit.capture
      unfold Recorder.tellLimit
      dsimp only
      split <;> exact later_same _
  | handOut =>
      change s.recorder.capture.Later (Recorder.flushPending _).capture
      rw [Recorder.capture_flushPending]
      exact later_same _
  | leaves => exact later_same _
  | resume =>
      change s.recorder.capture.Later s.recorder.goOn.capture
      unfold Recorder.goOn
      dsimp only
      split
      · rw [Recorder.capture_beginActive]
        exact (Act.resumes (a := s.recorder.capture)).later
      · exact later_same _
  | @faults _ failure =>
      change s.recorder.capture.Later (s.recorder.hearFault failure).capture
      unfold Recorder.hearFault
      dsimp only
      split
      · exact Recorder.captures_fail { s.recorder with
          timers := { s.recorder.timers with faultWatch := none } } _
      · exact later_same _

/-- Whatever happens in a studio, the capture does nothing new. -/
theorem Next.captures (next : s.Next s') : s.recorder.capture.Later s'.recorder.capture := by
  cases next with
  | takes input => exact Recorder.captures_operate _ input
  | ticks => exact (Act.fires).later
  | fails running failure => exact (Act.fails failure).later
  | acts task works act => exact act.captures

theorem Reachable.obedient (reachable : s.Reachable) : s.recorder.capture.Obedient := by
  induction reachable with
  | made isNew => exact obedient_of_still isNew.encoder
  | next _ next ih => exact next.captures.obedient ih

end Studio

end Viva
