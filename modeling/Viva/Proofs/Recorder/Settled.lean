import Viva.Proofs.Recorder.Punctual

/-! # Inputs in a studio

The inputs that a recorder is run with are one way for things to happen in a studio: when the
recorder settles, its tasks act one after the other, and the clock never goes back. So whatever a new
recorder becomes by its inputs, it also becomes in a studio (`Studio.settled_run`), and all that is
true of reachable studios is true of it.
-/

namespace Viva

namespace Studio

/-- A studio in which nothing is due. -/
structure Settled (s : Studio) : Prop where
  reachable : s.Reachable
  punctual : s.recorder.Punctual (s.recorder.now + 1)

variable {s : Studio}

/-! ## Settling -/

theorem Reachable.works (reachable : s.Reachable) (job : Job) {mark : Nat}
    (isSet : s.recorder.timers.of job = some mark) :
    ∃ task ∈ s.crew.working, task.job = job ∧ task.mark = mark :=
  (reachable.staffed.matched.account job mark).mp isSet

theorem isDue_iff {r : Recorder} {timer : Option Nat} :
    r.isDue timer = true ↔ ∃ time, timer = some time ∧ time ≤ r.now := by
  cases timer <;> simp [Recorder.isDue]

theorem Reachable.fireResume (reachable : s.Reachable) :
    ∃ crew, Reachable ⟨s.recorder.fireResume, crew⟩ := by
  rw [Recorder.fireResume_eq]
  split
  · rename_i due
    obtain ⟨mark, isSet, due⟩ := isDue_iff.mp due
    obtain ⟨task, works, job, rfl⟩ := reachable.works .resume isSet
    exact ⟨_, reachable.next (.acts task works (.resume job due))⟩
  · exact ⟨s.crew, reachable⟩

theorem Reachable.fireLimit (reachable : s.Reachable) :
    ∃ crew, Reachable ⟨s.recorder.fireLimit, crew⟩ := by
  rw [Recorder.fireLimit_eq]
  split
  · rename_i due
    obtain ⟨mark, isSet, due⟩ := isDue_iff.mp due
    obtain ⟨task, works, job, rfl⟩ := reachable.works .limit isSet
    exact ⟨_, reachable.next (.acts task works (.limit job due))⟩
  · exact ⟨s.crew, reachable⟩

theorem Reachable.fireFlush (reachable : s.Reachable) :
    ∃ crew, Reachable ⟨s.recorder.fireFlush, crew⟩ := by
  unfold Recorder.fireFlush
  split
  · rename_i time isSet
    obtain ⟨task, works, job, rfl⟩ := reachable.works .handOut isSet
    split
    · rename_i due
      split
      · rename_i records
        exact ⟨_, reachable.next
          (.acts task works (.handOut job due (beq_iff_eq.mp records) rfl))⟩
      · rename_i other
        exact ⟨_, reachable.next
          (.acts task works (.leaves job due fun records => other (beq_iff_eq.mpr records)))⟩
    · exact ⟨s.crew, reachable⟩
  · exact ⟨s.crew, reachable⟩

/-- The fault of a run is reported as one of that run. -/
theorem faults_fire {capture : Capture} {failure : Failure}
    (fault : capture.fire.2 = some failure) :
    (capture.runs - 1, failure) ∈ capture.fire.1.faults ∧ capture.fire.1.runs = capture.runs := by
  unfold Capture.fire at fault ⊢
  dsimp only at fault ⊢
  split at fault
  · cases fault
  · cases fault
  · cases fault
    simp

theorem Reachable.fireEncoder (reachable : s.Reachable) :
    ∃ crew, Reachable ⟨s.recorder.fireEncoder, crew⟩ := by
  have ticked : s.tick.Reachable := reachable.next .ticks
  rw [Recorder.fireEncoder_eq]
  split
  · rename_i failure fault
    rw [Recorder.takeFault_eq]
    split
    · rename_i watches
      obtain ⟨run, isSet⟩ := Option.isSome_iff_exists.mp watches
      obtain ⟨task, works, job, mark⟩ := ticked.works .faults isSet
      obtain ⟨reported, runs⟩ := faults_fire fault
      have watched := reachable.staffed.armed.watched run isSet
      have atMark : task.mark = s.recorder.capture.runs - 1 := by omega
      exact ⟨_, ticked.next (.acts task works (.faults job (atMark ▸ reported)))⟩
    · exact ⟨s.crew, ticked⟩
  · exact ⟨s.crew, ticked⟩

theorem Reachable.settle (reachable : s.Reachable) :
    ∃ crew, Reachable ⟨s.recorder.settle, crew⟩ := by
  obtain ⟨_, resumed⟩ := reachable.fireResume
  obtain ⟨_, limited⟩ := resumed.fireLimit
  obtain ⟨_, flushed⟩ := limited.fireFlush
  exact flushed.fireEncoder

/-- A recorder to which nothing is due at the moment settles. -/
theorem Reachable.settles (reachable : s.Reachable)
    (punctual : s.recorder.Punctual s.recorder.now) :
    ∃ crew, Settled ⟨s.recorder.settle, crew⟩ := by
  obtain ⟨crew, settled⟩ := reachable.settle
  exact ⟨crew, settled, (punctual.settle reachable.staffed.armed).1⟩

/-! ## Inputs -/

theorem Settled.operates (settled : s.Settled) (input : Recorder.Input)
    (timeless : ∀ ms, input ≠ .elapse ms) :
    ∃ crew, Settled ⟨(s.recorder.operate input).settle, crew⟩ := by
  have taken : (s.take input).Reachable := settled.reachable.next (.takes input)
  refine taken.settles ?_
  have punctual := settled.punctual.mono (Nat.le_succ _)
  have now : (s.take input).recorder.now = s.recorder.now :=
    (Recorder.carries_operate _ input timeless).now
  rw [now]
  exact punctual.operate settled.reachable.staffed.armed timeless

theorem Reachable.advanceTo (reachable : s.Reachable) {time : Nat} (later : s.recorder.now ≤ time) :
    Reachable ⟨s.recorder.advanceTo time, s.crew⟩ := by
  have elapsed := reachable.next (.takes (.elapse (time - s.recorder.now)))
  have at_time : s.recorder.now + (time - s.recorder.now) = time := by omega
  rw [take, Recorder.operate, at_time] at elapsed
  exact elapsed

theorem Settled.advanceTo (settled : s.Settled) {time : Nat} (later : s.recorder.now ≤ time)
    (next : ∀ due, s.recorder.nextDue = some due → time + 1 ≤ due) :
    Settled ⟨s.recorder.advanceTo time, s.crew⟩ :=
  ⟨settled.reachable.advanceTo later, settled.punctual.advanceTo next time⟩

theorem Settled.advances (settled : s.Settled) {time count : Nat} (later : s.recorder.now ≤ time)
    (reaches : time ≤ s.recorder.now + count) :
    ∃ crew, Settled ⟨Recorder.advance time s.recorder count, crew⟩ := by
  induction count generalizing s with
  | zero =>
      refine ⟨s.crew, settled.advanceTo later fun due isDue => ?_⟩
      have present := settled.punctual.le_nextDue due isDue
      omega
  | succ count ih =>
      unfold Recorder.advance
      cases next : s.recorder.nextDue with
      | none =>
          refine ⟨s.crew, settled.advanceTo later fun due isDue => ?_⟩
          cases next.symm.trans isDue
      | some due =>
          have present := settled.punctual.le_nextDue due next
          dsimp only
          split
          · rename_i comes
            -- The clock has moved to a later time, so fewer such steps are left to take.
            have arrived := settled.reachable.advanceTo (Nat.le_of_succ_le present)
            have punctual : (s.recorder.advanceTo due).Punctual due := by
              refine settled.punctual.advanceTo ?_ due
              rw [next]
              rintro _ ⟨⟩
              exact Nat.le_refl _
            obtain ⟨crew, rested⟩ := arrived.settles punctual
            have now : (s.recorder.advanceTo due).settle.now = due :=
              (punctual.settle arrived.staffed.armed).2
            exact ih rested (by rw [now]; exact comes) (by rw [now]; omega)
          · rename_i late
            refine ⟨s.crew, settled.advanceTo later ?_⟩
            rw [next]
            rintro _ ⟨⟩
            omega

theorem Settled.step (settled : s.Settled) (input : Recorder.Input) :
    ∃ crew, Settled ⟨s.recorder.step input, crew⟩ := by
  have taken := settled.reachable.next (.takes input)
  cases input with
  | elapse ms => exact settled.advances (Nat.le_add_right _ ms) (Nat.le_refl _)
  | setAudio | share | setOutcome =>
      exact ⟨_, taken, settled.punctual.of_same rfl rfl rfl⟩
  | prepare => exact settled.operates .prepare nofun
  | start => exact settled.operates .start nofun
  | stop => exact settled.operates .stop nofun
  | pause => exact settled.operates .pause nofun
  | resume => exact settled.operates .resume nofun
  | setVisibility visibility => exact settled.operates (.setVisibility visibility) nofun
  | abandon => exact settled.operates .abandon nofun
  | reset => exact settled.operates .reset nofun

theorem Settled.run (settled : s.Settled) (inputs : List Recorder.Input) :
    ∃ crew, Settled ⟨s.recorder.run inputs, crew⟩ := by
  induction inputs generalizing s with
  | nil => exact ⟨s.crew, settled⟩
  | cons input rest ih =>
      obtain ⟨crew, stepped⟩ := settled.step input
      exact ih stepped

/-- Whatever becomes of a new recorder by its inputs, it also becomes in a studio, and nothing is
    due then. -/
theorem settled_run {r : Recorder} (isNew : r.New) (inputs : List Recorder.Input) :
    ∃ crew, Settled ⟨r.run inputs, crew⟩ := by
  have settled : Settled ⟨r, {}⟩ := by
    refine ⟨.made isNew, ?_, ?_, ?_⟩
    · rw [isNew.timers]
      intro job due isDue
      cases job <;> cases isDue
    · have rests : r.capture.encoder.nextDue = none := by
        rw [Encoder.nextDue, isNew.encoder]
        rfl
      intro due isDue
      cases rests.symm.trans isDue
    · rw [isNew.timers]
      intro mark isSet
      cases isSet
  exact settled.run inputs

end Studio

end Viva
