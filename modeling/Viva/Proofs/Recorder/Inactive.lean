import Viva.Recorder.Clock

/-! # A recorder whose recording is over

Without devices in use a recorder stays as it is until it is prepared or started: pauses, the page
and time do not bring a recording back, and there is none to give out.
-/

namespace Viva.Recorder

theorem state_setState (r : Recorder) (state : RecordingState) : (r.setState state).state = state := by
  unfold setState
  split
  · rename_i same
    exact beq_iff_eq.mp same
  · rfl

section
variable {r : Recorder}

theorem inactive_fail (r : Recorder) (failure : Failure) :
    (r.fail failure).state.isActive = false := by
  have ended : (r.fail failure).state = .error := state_setState _ _
  rw [ended]
  rfl

theorem inactive_abandon (r : Recorder) : r.abandon.state.isActive = false := by
  rw [abandon, state_setState]
  rfl

theorem inactive_pause (inactive : r.state.isActive = false) : r.pause.state.isActive = false := by
  unfold pause
  split
  · rename_i records
    rw [records] at inactive
    cases inactive
  · exact inactive
  · exact inactive

theorem inactive_resume (inactive : r.state.isActive = false) :
    r.resume.state.isActive = false := by
  unfold resume
  split
  · rename_i paused
    rw [paused] at inactive
    cases inactive
  · exact inactive

theorem inactive_setVisibility (inactive : r.state.isActive = false) (visibility : Visibility) :
    (r.setVisibility visibility).state.isActive = false := by
  cases visibility with
  | hidden =>
      simp only [setVisibility]
      split
      · rename_i records
        rw [beq_iff_eq.mp records] at inactive
        cases inactive
      · exact inactive
  | visible =>
      simp only [setVisibility]
      split <;> exact inactive

/-! ## Time -/

theorem state_fireResume (inactive : r.state.isActive = false) : r.fireResume.state = r.state := by
  unfold fireResume
  split
  · dsimp only
    split
    · rename_i paused
      rw [Bool.and_eq_true] at paused
      rw [beq_iff_eq.mp paused.1] at inactive
      cases inactive
    · rfl
  · rfl

theorem state_fireLimit (r : Recorder) : r.fireLimit.state = r.state := by
  unfold fireLimit
  split
  · dsimp only
    split <;> rfl
  · rfl

theorem state_flushPending (r : Recorder) : r.flushPending.state = r.state := by
  unfold flushPending
  dsimp only
  split <;> rfl

theorem state_fireFlush (r : Recorder) : r.fireFlush.state = r.state := by
  unfold fireFlush
  split
  · split
    · split
      · exact state_flushPending _
      · rfl
    · rfl
  · rfl

theorem inactive_takeFault (inactive : r.state.isActive = false) (failure : Failure) :
    (r.takeFault failure).state.isActive = false := by
  unfold takeFault
  split
  · dsimp only
    split
    · exact inactive_fail _ failure
    · exact inactive
  · exact inactive

theorem inactive_fireEncoder (inactive : r.state.isActive = false) :
    r.fireEncoder.state.isActive = false := by
  unfold fireEncoder
  dsimp only
  split
  · refine inactive_takeFault ?_ _
    exact inactive
  · exact inactive

theorem inactive_settle (inactive : r.state.isActive = false) : r.settle.state.isActive = false := by
  refine inactive_fireEncoder ?_
  rwa [state_fireFlush, state_fireLimit, state_fireResume inactive]

theorem inactive_advance (inactive : r.state.isActive = false) (time count : Nat) :
    (advance time r count).state.isActive = false := by
  induction count generalizing r with
  | zero => exact inactive
  | succ count ih =>
      unfold advance
      split
      · rename_i due _
        split
        · refine ih (inactive_settle ?_)
          exact inactive
        · exact inactive
      · exact inactive

theorem inactive_elapse (inactive : r.state.isActive = false) (ms : Nat) :
    (r.elapse ms).state.isActive = false :=
  inactive_advance inactive _ ms

/-! ## The end of a recording -/

/-- There is nothing to give out. -/
theorem stop_inactive (inactive : r.state.isActive = false) :
    r.stop = (r, .error (.invalidState ("cannot stop recording from " ++ r.state.label))) := by
  simp only [stop, inactive, Bool.not_false, if_true]

/-- However it ends, the recording is over then. -/
theorem inactive_stop (r : Recorder) : r.stop.1.state.isActive = false := by
  unfold stop
  split
  · rename_i inactive
    rwa [Bool.not_eq_true'] at inactive
  · dsimp only
    split
    · exact inactive_fail _ _
    · have completed (r : Recorder) : (r.setState .completed).state.isActive = false := by
        rw [state_setState]
        rfl
      exact completed _

end

end Viva.Recorder
