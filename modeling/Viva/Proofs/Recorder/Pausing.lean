import Viva.Proofs.Recorder.Capturing
import Viva.Proofs.Recorder.Inactive
import Viva.Proofs.Recorder.Moments

/-! # Pauses

While a recorder is paused nothing becomes of its recording (`Recorder.Rests`). What ends the pause
depends on little: what it is for, and when it ends by itself. That much of a recorder is a `Pause`,
and `Pause.after` says what every input makes of it (`AtRest.pausing_step`).
-/

namespace Viva.Recorder

/-- What ends a pause without fail. -/
def Input.endsPause : Input → Bool
  | .resume | .stop | .abandon | .reset => true
  | _ => false

/-- What is waited for in a pause. -/
structure Pause where
  /-- The page is hidden, or was not visible for long enough yet. -/
  byPage : Bool
  /-- When the pause ends by itself. -/
  endsAt : Option Nat
  deriving DecidableEq

namespace Pause

def endsBy (pause : Pause) (time : Nat) : Bool := pause.endsAt.any (· ≤ time)

/-- The pause after an input at a time, unless it has ended then. -/
def after (delay now : Nat) (pause : Pause) : Input → Option Pause
  | .resume | .stop | .abandon | .reset => none
  | .pause => some ⟨false, none⟩
  | .setVisibility .hidden => some { pause with endsAt := none }
  | .setVisibility .visible =>
    if pause.byPage then
      if delay = 0 then none else some { pause with endsAt := some (now + delay) }
    else some pause
  | .elapse ms => if pause.endsBy (now + ms) then none else some pause
  | .prepare | .start | .setAudio _ | .share _ | .setOutcome _ => some pause

/-- The pause after some inputs, unless it has ended by then. -/
def follow (delay now : Nat) (pause : Pause) : List Input → Option Pause
  | [] => some pause
  | input :: rest =>
    (pause.after delay now input).bind fun next => next.follow delay (now + input.time) rest

theorem after_visible (delay now : Nat) (pause : Pause) :
    pause.after delay now (.setVisibility .visible) =
      if pause.byPage then
        if delay = 0 then none else some { pause with endsAt := some (now + delay) }
      else some pause := rfl

theorem after_elapse (delay now : Nat) (pause : Pause) (ms : Nat) :
    pause.after delay now (.elapse ms) =
      if pause.endsBy (now + ms) then none else some pause := rfl

end Pause

/-- The pause of a recorder that is paused. -/
def pausing (r : Recorder) : Option Pause :=
  if r.state = .paused then some ⟨r.pausedByVisibility, r.timers.visibilityResume⟩ else none

/-- A recorder that was recording pauses. -/
def halt (r : Recorder) (byPage : Bool) : Recorder :=
  { r.suspend.pauseCapture with
    pausedByVisibility := byPage
    timers := r.suspend.timers.withoutResume }.setState .paused

/-- Nothing has become of the recording. -/
structure Rests (r r' : Recorder) : Prop where
  options : r'.options = r.options
  reel : r'.reel = r.reel
  accumulated : r'.accumulated = r.accumulated
  activeSince : r'.activeSince = r.activeSince

/-- What has become of a recorder that was paused. -/
inductive Becomes (r r' : Recorder) : Option Pause → Prop where
  | paused {pause : Pause} (pausing : r'.pausing = some pause) (rests : r.Rests r') :
      Becomes r r' (some pause)
  | ended (other : r'.state ≠ .paused) : Becomes r r' none

/-- The first that is told after a moment is that the recording goes on. -/
def GoesOnFrom (r r' : Recorder) : Prop := ∃ more, r'.log = r.log ++ .stateChanged .recording :: more

section
variable {r r' r'' : Recorder} {pause : Pause}

theorem rests_same (r : Recorder) : r.Rests r := ⟨rfl, rfl, rfl, rfl⟩

theorem Rests.trans (first : r.Rests r') (second : r'.Rests r'') : r.Rests r'' where
  options := second.options.trans first.options
  reel := second.reel.trans first.reel
  accumulated := second.accumulated.trans first.accumulated
  activeSince := second.activeSince.trans first.activeSince

theorem Rests.log (rests : r.Rests r') : r'.log = r.log :=
  congrArg Reel.log rests.reel

theorem pausing_eq_some : r.pausing = some pause ↔
    r.state = .paused ∧ r.pausedByVisibility = pause.byPage ∧
      r.timers.visibilityResume = pause.endsAt := by
  obtain ⟨byPage, endsAt⟩ := pause
  unfold pausing
  split
  · rename_i paused
    simp only [paused, Option.some.injEq, Pause.mk.injEq, true_and]
  · rename_i other
    simp only [other, false_and, reduceCtorEq]

theorem pausing_of_paused (paused : r.state = .paused) :
    r.pausing = some ⟨r.pausedByVisibility, r.timers.visibilityResume⟩ :=
  if_pos paused

theorem AtRest.obedient (atRest : r.AtRest) : r.capture.Obedient := by
  obtain ⟨crew, settled⟩ := atRest
  exact settled.reachable.obedient

/-! ## Settling -/

theorem ne_paused_fireResume (other : r.state ≠ .paused) : r.fireResume.state = r.state := by
  unfold fireResume
  split
  · dsimp only
    split
    · rename_i paused
      exact absurd (beq_iff_eq.mp (Bool.and_eq_true_iff.mp paused).1) other
    · rfl
  · rfl

theorem state_beginActive (r : Recorder) : r.beginActive.state = .recording :=
  congrArg Reel.state (reel_beginActive r)

theorem state_fail (r : Recorder) (failure : Failure) : (r.fail failure).state = .error :=
  state_setState _ _

theorem ne_paused_fireEncoder (other : r.state ≠ .paused) : r.fireEncoder.state ≠ .paused := by
  rw [fireEncoder_eq]
  split
  · rw [takeFault_eq]
    split
    · unfold hearFault
      dsimp only
      split
      · rw [state_fail]
        nofun
      · exact other
    · exact other
  · exact other

/-- Nothing that is due makes a pause. -/
theorem ne_paused_settle (other : r.state ≠ .paused) : r.settle.state ≠ .paused := by
  refine ne_paused_fireEncoder ?_
  rwa [state_fireFlush, state_fireLimit, ne_paused_fireResume other]

/-- A pause that is to end now ends, whatever else is due. -/
theorem goesOn_settle (armed : r.Armed) (inStep : r.reel.InStep)
    (due : r.isDue r.timers.visibilityResume = true) :
    r.settle.state ≠ .paused ∧ r.GoesOnFrom r.settle := by
  obtain ⟨mark, isSet, -⟩ := Studio.isDue_iff.mp due
  obtain ⟨paused, byPage⟩ : r.state = .paused ∧ r.pausedByVisibility = true :=
    armed.belongs .resume mark isSet
  have goesOn : r.fireResume =
      { r with pausedByVisibility := false, timers := r.timers.withoutResume }.resumeCapture.beginActive := by
    rw [fireResume_eq, if_pos due, goOn]
    simp only [paused, byPage, beq_self_eq_true, Bool.and_self, if_true]
  have begins : r.reel.Act [.stateChanged .recording] r.fireResume.reel := by
    rw [goesOn]
    exact act_begun (r := { r with
      pausedByVisibility := false
      timers := r.timers.withoutResume }) inStep (.inr paused)
  have records : r.fireResume.state = .recording := by
    rw [goesOn]
    exact state_beginActive _
  have limited := run_of_act (act_fireLimit r.fireResume)
  have flushed := limited.trans (run_of_act (act_fireFlush r.fireResume.fireLimit))
  have fired := flushed.trans (run_fireEncoder (flushed.inStep (begins.inStep inStep)))
  constructor
  · refine ne_paused_fireEncoder ?_
    rw [state_fireFlush, state_fireLimit, records]
    nofun
  · have first : r.fireResume.log = r.log ++ [.stateChanged .recording] := begins.log
    have rest : r.settle.log = r.fireResume.log ++ _ := fired.log
    rw [first, List.append_assoc] at rest
    exact ⟨_, rest⟩

/-- In a pause that does not end now, only the encoder counts its timeslices. -/
theorem settle_of_paused (armed : r.Armed) (inStep : r.reel.InStep) (obedient : r.capture.Obedient)
    (paused : r.state = .paused) (early : r.isDue r.timers.visibilityResume = false) :
    r.settle.pausing = r.pausing ∧ r.Rests r.settle := by
  have other : r.state ≠ .recording := by
    rw [paused]
    nofun
  have limit : r.timers.maxDuration = none := armed.of_eq_none .limit other
  have handOut : r.timers.chunkFlush = none := armed.of_eq_none .handOut other
  have captures : r.capture.state = .paused := by
    have captures := inStep.capture
    rw [show r.reel.state = .paused from paused] at captures
    exact captures
  obtain ⟨fires, running⟩ := obedient.fire_of_paused captures
  have settles : r.settle = { r with
      capture := { r.capture with encoder := r.capture.encoder.fire.1 } } := by
    have resume : r.fireResume = r := by rw [fireResume_eq, early, if_neg nofun]
    have limited : r.fireLimit = r := by
      rw [fireLimit_eq, limit]
      rfl
    have flushed : r.fireFlush = r := by
      unfold fireFlush
      rw [handOut]
    rw [settle, resume, limited, flushed, fireEncoder_eq, fires]
  rw [settles]
  refine ⟨rfl, rfl, ?_, rfl, rfl⟩
  simp only [reel, running]

theorem isDue_of_pausing (pausing : r.pausing = some pause) :
    r.isDue r.timers.visibilityResume = pause.endsBy r.now := by
  rw [(pausing_eq_some.mp pausing).2.2]
  cases ends : pause.endsAt <;> rw [Pause.endsBy, ends] <;> rfl

/-- A pause that is not to end now stays one. -/
theorem settle_of_pausing (armed : r.Armed) (inStep : r.reel.InStep) (obedient : r.capture.Obedient)
    (pausing : r.pausing = some pause) (early : pause.endsBy r.now = false) :
    r.settle.pausing = some pause ∧ r.Rests r.settle := by
  obtain ⟨paused, -⟩ := pausing_eq_some.mp pausing
  rw [← pausing]
  exact settle_of_paused armed inStep obedient paused ((isDue_of_pausing pausing).trans early)

/-! ## Time -/

/-- What becomes of a pause in a time by whose end it is to end, or is not. -/
inductive Passes (r r' : Recorder) (pause : Pause) : Bool → Prop where
  | waits (pausing : r'.pausing = some pause) (rests : r.Rests r') : Passes r r' pause false
  | goesOn (other : r'.state ≠ .paused) (goesOn : r.GoesOnFrom r') : Passes r r' pause true

theorem Passes.after {ended : Bool} (passes : r'.Passes r'' pause ended) (rests : r.Rests r') :
    r.Passes r'' pause ended := by
  cases passes with
  | waits pausing more => exact .waits pausing (rests.trans more)
  | goesOn other goesOn =>
      obtain ⟨more, log⟩ := goesOn
      rw [rests.log] at log
      exact .goesOn other ⟨more, log⟩

theorem AtRest.pausing_pass (atRest : r.AtRest) (pausing : r.pausing = some pause) :
    r.Passes r.pass pause (pause.endsBy (r.now + 1)) := by
  have armed : (r.advanceTo (r.now + 1)).Armed := ⟨atRest.armed.belongs, atRest.armed.watched⟩
  have inStep : (r.advanceTo (r.now + 1)).reel.InStep := atRest.inStep
  cases ends : pause.endsBy (r.now + 1) with
  | true =>
      have due := (isDue_of_pausing (r := r.advanceTo (r.now + 1)) pausing).trans ends
      obtain ⟨other, goesOn⟩ := goesOn_settle armed inStep due
      exact .goesOn other goesOn
  | false =>
      have obedient : (r.advanceTo (r.now + 1)).capture.Obedient := atRest.obedient.of_same rfl rfl
      have rests : r.Rests (r.advanceTo (r.now + 1)) := ⟨rfl, rfl, rfl, rfl⟩
      obtain ⟨same, settles⟩ := settle_of_pausing armed inStep obedient pausing ends
      exact .waits same (rests.trans settles)

theorem log_pass (inStep : r.reel.InStep) : ∃ events, r.pass.log = r.log ++ events :=
  ⟨_, (run_settle (r := r.advanceTo (r.now + 1)) inStep).log⟩

theorem endsBy_mono {time later : Nat} (ends : pause.endsBy time = true) (le : time ≤ later) :
    pause.endsBy later = true := by
  obtain ⟨byPage, _ | due⟩ := pause
  · cases ends
  · have due_le : due ≤ time := of_decide_eq_true ends
    exact decide_eq_true (Nat.le_trans due_le le)

theorem AtRest.pausing_elapse (atRest : r.AtRest) (pausing : r.pausing = some pause) (ms : Nat) :
    r.Passes (r.elapse ms) pause (pause.endsBy (r.now + ms)) := by
  induction ms with
  | zero =>
      have early : pause.endsBy r.now = false := by
        rw [← isDue_of_pausing pausing]
        exact isDue_eq_false (atRest.punctual.task .resume)
      rw [elapse_zero, Nat.add_zero, early]
      exact .waits pausing (rests_same r)
  | succ ms ih =>
      have arrived := atRest.elapse ms
      rw [atRest.elapse_succ]
      cases ended : pause.endsBy (r.now + ms) with
      | true =>
          rw [ended] at ih
          rw [endsBy_mono ended (by omega)]
          cases ih with
          | goesOn other goesOn =>
              obtain ⟨more, log⟩ := goesOn
              obtain ⟨events, passes⟩ := log_pass arrived.inStep
              rw [log, List.append_assoc] at passes
              exact .goesOn (ne_paused_settle other) ⟨_, passes⟩
      | false =>
          rw [ended] at ih
          cases ih with
          | waits pausing rests =>
              have passes := arrived.pausing_pass pausing
              rw [atRest.now_elapse] at passes
              exact passes.after rests

/-! ## Inputs -/

theorem AtRest.becomes_waiting (atRest : r.AtRest) {input : Input}
    (timeless : ∀ ms, input ≠ .elapse ms) (pausing : (r.operate input).pausing = some pause)
    (rests : r.Rests (r.operate input)) (early : pause.endsBy r.now = false) :
    r.Becomes (r.step input) (some pause) := by
  obtain ⟨armed, -, now⟩ := atRest.operate timeless
  obtain ⟨events, act⟩ := act_operate atRest.inStep input
  have obedient := (captures_operate r input).obedient atRest.obedient
  rw [← now] at early
  obtain ⟨same, settles⟩ := settle_of_pausing armed (act.inStep atRest.inStep) obedient pausing early
  rw [atRest.step_eq timeless]
  exact .paused same (rests.trans settles)

theorem AtRest.early (atRest : r.AtRest) (pausing : r.pausing = some pause) :
    pause.endsBy r.now = false := by
  rw [← isDue_of_pausing pausing]
  exact isDue_eq_false (atRest.punctual.task .resume)

/-- An operation that does nothing does nothing to a pause. -/
theorem AtRest.becomes_idle (atRest : r.AtRest) {input : Input}
    (timeless : ∀ ms, input ≠ .elapse ms) (nothing : r.operate input = r)
    (pausing : r.pausing = some pause) : r.Becomes (r.step input) (some pause) := by
  refine atRest.becomes_waiting timeless ?_ ?_ (atRest.early pausing) <;> rw [nothing]
  · exact pausing
  · exact rests_same r

theorem AtRest.becomes_ended (atRest : r.AtRest) {input : Input}
    (timeless : ∀ ms, input ≠ .elapse ms) (other : (r.operate input).state ≠ .paused) :
    r.Becomes (r.step input) none := by
  rw [atRest.step_eq timeless]
  exact .ended (ne_paused_settle other)

theorem ne_paused_of_inactive (inactive : r.state.isActive = false) : r.state ≠ .paused := by
  intro paused
  rw [paused] at inactive
  cases inactive

theorem state_resume (paused : r.state = .paused) : r.resume.state = .recording := by
  unfold resume
  split
  · exact state_beginActive _
  · rename_i other
    exact absurd paused other

theorem visible_of_byPage (pausing : r.pausing = some pause) (byPage : pause.byPage = true) :
    r.setVisibility .visible =
      { r with timers := { r.timers with
        visibilityResume := some (r.now + r.options.resumeDelay) } } := by
  obtain ⟨paused, sameReason, -⟩ := pausing_eq_some.mp pausing
  rw [byPage] at sameReason
  simp only [setVisibility, paused, sameReason, beq_self_eq_true, Bool.and_self, if_true]

/-- A page that is visible ends no pause but its own. -/
theorem visible_of_not_byPage (pausing : r.pausing = some pause) (byPage : pause.byPage = false) :
    r.setVisibility .visible = r := by
  obtain ⟨-, sameReason, -⟩ := pausing_eq_some.mp pausing
  rw [byPage] at sameReason
  simp only [setVisibility, sameReason, Bool.and_false, Bool.false_eq_true, if_false]

/-- Without a delay a page that is visible ends the pause at once. -/
theorem AtRest.goesOn_visible (atRest : r.AtRest) (pausing : r.pausing = some pause)
    (byPage : pause.byPage = true) (atOnce : r.options.resumeDelay = 0) :
    (r.step (.setVisibility .visible)).state ≠ .paused ∧
      r.GoesOnFrom (r.step (.setVisibility .visible)) := by
  have visible := visible_of_byPage pausing byPage
  rw [atOnce, Nat.add_zero] at visible
  have timeless : ∀ ms, Input.setVisibility .visible ≠ .elapse ms := nofun
  have armed := (atRest.operate timeless).1
  rw [atRest.step_eq timeless]
  rw [Recorder.operate, visible] at armed ⊢
  exact goesOn_settle armed atRest.inStep (decide_eq_true (Nat.le_refl r.now))

/-- What an input makes of a pause. -/
theorem AtRest.pausing_step (atRest : r.AtRest) (pausing : r.pausing = some pause) (input : Input) :
    r.Becomes (r.step input) (pause.after r.options.resumeDelay r.now input) := by
  obtain ⟨paused, -⟩ := pausing_eq_some.mp pausing
  have early := atRest.early pausing
  rcases timeless_or_elapse input with ⟨timeless, -⟩ | ⟨ms, rfl⟩
  · cases input with
    | prepare =>
        refine atRest.becomes_idle timeless ?_ pausing
        simp only [Recorder.operate, prepare, paused]
        rfl
    | start =>
        refine atRest.becomes_idle timeless ?_ pausing
        simp only [Recorder.operate, start, paused]
        rfl
    | setAudio | share | setOutcome =>
        exact atRest.becomes_waiting timeless pausing ⟨rfl, rfl, rfl, rfl⟩ early
    | pause =>
        have pauses : r.operate .pause =
            { r with pausedByVisibility := false, timers := r.timers.withoutResume } := by
          simp only [Recorder.operate, Recorder.pause, paused]
        refine atRest.becomes_waiting timeless ?_ ?_ rfl <;> rw [pauses]
        · exact pausing_of_paused paused
        · exact ⟨rfl, rfl, rfl, rfl⟩
    | resume =>
        refine atRest.becomes_ended timeless ?_
        rw [Recorder.operate, state_resume paused]
        decide
    | stop => exact atRest.becomes_ended timeless (ne_paused_of_inactive (inactive_stop r))
    | abandon => exact atRest.becomes_ended timeless (ne_paused_of_inactive (inactive_abandon r))
    | reset =>
        refine atRest.becomes_ended timeless ?_
        rw [Recorder.operate, reset, state_setState]
        decide
    | setVisibility visibility =>
        cases visibility with
        | hidden =>
            have hides : r.operate (.setVisibility .hidden) =
                { r with timers := r.timers.withoutResume } := by
              simp only [Recorder.operate, setVisibility, paused]
              rfl
            refine atRest.becomes_waiting timeless ?_ ?_ rfl <;> rw [hides]
            · exact pausing_eq_some.mpr ⟨paused, (pausing_eq_some.mp pausing).2.1, rfl⟩
            · exact ⟨rfl, rfl, rfl, rfl⟩
        | visible =>
            rw [Pause.after_visible]
            split
            · rename_i byPage
              split
              · rename_i atOnce
                exact .ended (atRest.goesOn_visible pausing byPage atOnce).1
              · rename_i delayed
                have visible := visible_of_byPage pausing byPage
                refine atRest.becomes_waiting timeless ?_ ?_ ?_
                · rw [Recorder.operate, visible]
                  exact pausing_eq_some.mpr ⟨paused, (pausing_eq_some.mp pausing).2.1, rfl⟩
                · rw [Recorder.operate, visible]
                  exact ⟨rfl, rfl, rfl, rfl⟩
                · exact decide_eq_false (by omega)
            · rename_i other
              have nothing := visible_of_not_byPage pausing (Bool.eq_false_iff.mpr other)
              exact atRest.becomes_idle timeless nothing pausing
    | elapse ms => exact absurd rfl (timeless ms)
  · have passes := atRest.pausing_elapse pausing ms
    rw [Pause.after_elapse]
    change r.Becomes (r.elapse ms) _
    generalize pause.endsBy (r.now + ms) = ended at passes ⊢
    cases passes with
    | waits pausing rests => exact .paused pausing rests
    | goesOn other goesOn => exact .ended other

/-! ## Runs -/

/-- A pause that an input does not end lasts all the time that the input takes. -/
theorem AtRest.paused_meanwhile (atRest : r.AtRest) (pausing : r.pausing = some pause)
    {input : Input} {next : Pause}
    (lasts : pause.after r.options.resumeDelay r.now input = some next) :
    ∀ part ≤ input.time, (r.elapse part).state = .paused := by
  intro part early
  have passes := atRest.pausing_elapse pausing part
  have waits : pause.endsBy (r.now + part) = false := by
    rw [Bool.eq_false_iff]
    intro ends
    cases input with
    | elapse ms =>
        have later := endsBy_mono ends (Nat.add_le_add_left early r.now)
        rw [Input.time] at later
        rw [Pause.after_elapse, later] at lasts
        cases lasts
    | _ =>
        obtain rfl := Nat.le_zero.mp early
        cases (atRest.early pausing).symm.trans ends
  rw [waits] at passes
  cases passes with
  | waits pausing rests => exact (pausing_eq_some.mp pausing).1

theorem AtRest.pausing_run (atRest : r.AtRest) (pausing : r.pausing = some pause)
    {inputs : List Input} {last : Pause}
    (follows : pause.follow r.options.resumeDelay r.now inputs = some last) :
    (r.run inputs).pausing = some last ∧ r.Rests (r.run inputs) := by
  induction inputs generalizing r pause with
  | nil =>
      cases follows
      exact ⟨pausing, rests_same r⟩
  | cons input rest ih =>
      have becomes := atRest.pausing_step pausing input
      obtain ⟨next, lasts, follows⟩ := Option.bind_eq_some_iff.mp follows
      rw [lasts] at becomes
      cases becomes with
      | paused pausing rests =>
          rw [← atRest.options_step input, ← atRest.now_step input] at follows
          obtain ⟨pausing, more⟩ := ih (atRest.step input) pausing follows
          exact ⟨pausing, rests.trans more⟩

/-- A recorder is paused throughout a run if no input ends its pause, and only then. -/
theorem AtRest.throughout_paused (atRest : r.AtRest) (pausing : r.pausing = some pause)
    (inputs : List Input) :
    r.Throughout (·.state = .paused) inputs ↔
      ∃ last, pause.follow r.options.resumeDelay r.now inputs = some last := by
  induction inputs generalizing r pause with
  | nil => exact ⟨fun _ => ⟨pause, rfl⟩, fun _ => (pausing_eq_some.mp pausing).1⟩
  | cons input rest ih =>
      have becomes := atRest.pausing_step pausing input
      rw [Throughout, Pause.follow]
      cases lasts : pause.after r.options.resumeDelay r.now input with
      | none =>
          rw [lasts] at becomes
          cases becomes with
          | ended other =>
              rw [Option.bind_none]
              refine ⟨fun throughout => absurd throughout.2.here other, ?_⟩
              rintro ⟨last, follows⟩
              cases follows
      | some next =>
          rw [lasts] at becomes
          cases becomes with
          | paused pausing' rests =>
              have onward := ih (atRest.step input) pausing'
              rw [atRest.options_step, atRest.now_step] at onward
              rw [onward, Option.bind_some]
              exact and_iff_right (atRest.paused_meanwhile pausing lasts)

/-! ## A pause begins -/

theorem operate_pause (records : r.state = .recording) : r.operate .pause = r.halt false := by
  change r.pause = _
  unfold Recorder.pause
  split
  · rfl
  · rename_i paused
    cases records.symm.trans paused
  · rename_i other _
    exact absurd records other

theorem operate_hidden (records : r.state = .recording) :
    r.operate (.setVisibility .hidden) = r.halt true :=
  if_pos (beq_iff_eq.mpr records)

/-- A pause begins without an end, and nothing more happens then. -/
theorem AtRest.begins_pause (atRest : r.AtRest) {input : Input} {byPage : Bool}
    (timeless : ∀ ms, input ≠ .elapse ms) (halts : r.operate input = r.halt byPage) :
    (r.step input).pausing = some ⟨byPage, none⟩ ∧ (r.halt byPage).Rests (r.step input) := by
  obtain ⟨armed, -, -⟩ := atRest.operate timeless
  obtain ⟨events, act⟩ := act_operate atRest.inStep input
  have obedient := (captures_operate r input).obedient atRest.obedient
  have pausing : (r.operate input).pausing = some ⟨byPage, none⟩ := by
    rw [halts, halt, setState_eq]
    exact pausing_eq_some.mpr ⟨rfl, rfl, rfl⟩
  rw [atRest.step_eq timeless, ← halts]
  exact settle_of_pausing armed (act.inStep atRest.inStep) obedient pausing rfl

end

end Viva.Recorder
