import Mathlib.Algebra.Ring.Nat
import Mathlib.Logic.Function.Iterate
import Viva.Proofs.Recorder.Settled

/-! # Moments

The clock of a recorder jumps from one point where something is due to the next. It might as well go
on by single milliseconds (`Recorder.elapse_eq_iterate`), so time can be cut anywhere: what a recorder
becomes in a time is what it becomes in the second part of it after the first. Hence every moment of a
run is a recorder at rest, and something can be true throughout a run.
-/

namespace Viva.Recorder

/-- How long an input takes. -/
def Input.time : Input → Nat
  | .elapse ms => ms
  | _ => 0

theorem timeless_or_elapse (input : Input) :
    ((∀ ms, input ≠ .elapse ms) ∧ input.time = 0) ∨ ∃ ms, input = .elapse ms := by
  cases input with
  | elapse ms => exact .inr ⟨ms, rfl⟩
  | _ => exact .inl ⟨nofun, rfl⟩

def timeOf (inputs : List Input) : Nat := (inputs.map Input.time).sum

/-- A new recorder may have become this one, and nothing is due. -/
def AtRest (r : Recorder) : Prop := ∃ crew, Studio.Settled ⟨r, crew⟩

/-- A millisecond passes. -/
def pass (r : Recorder) : Recorder := (r.advanceTo (r.now + 1)).settle

/-- Something is true at every moment of a run. -/
def Throughout (p : Recorder → Prop) (r : Recorder) : List Input → Prop
  | [] => p r
  | input :: rest => (∀ part ≤ input.time, p (r.elapse part)) ∧ Throughout p (r.step input) rest

/-- How much of the time that some inputs take is spent in a state. -/
def timeIn (state : RecordingState) (r : Recorder) : List Input → Nat
  | [] => 0
  | input :: rest =>
    (List.range input.time).countP (fun part => (r.elapse part).state = state) +
      timeIn state (r.step input) rest

/-- What was told from one moment to a later one. -/
def news (r r' : Recorder) : List RecordingEvent := r'.log.drop r.log.length

/-! ## At rest -/

section
variable {r : Recorder}

theorem atRest_run (isNew : r.New) (inputs : List Input) : (r.run inputs).AtRest :=
  Studio.settled_run isNew inputs

theorem AtRest.step (atRest : r.AtRest) (input : Input) : (r.step input).AtRest := by
  obtain ⟨crew, settled⟩ := atRest
  exact settled.step input

theorem AtRest.run (atRest : r.AtRest) (inputs : List Input) : (r.run inputs).AtRest := by
  obtain ⟨crew, settled⟩ := atRest
  exact settled.run inputs

theorem AtRest.punctual (atRest : r.AtRest) : r.Punctual (r.now + 1) := by
  obtain ⟨crew, settled⟩ := atRest
  exact settled.punctual

theorem AtRest.armed (atRest : r.AtRest) : r.Armed := by
  obtain ⟨crew, settled⟩ := atRest
  exact settled.reachable.staffed.armed

theorem AtRest.inStep (atRest : r.AtRest) : r.reel.InStep := by
  obtain ⟨crew, settled⟩ := atRest
  exact settled.reachable.inStep

theorem isDue_eq_false {timer : Option Nat} (early : ∀ due, timer = some due → r.now < due) :
    r.isDue timer = false := by
  cases timer with
  | none => rfl
  | some due => simpa [isDue] using early due rfl

/-- Nothing happens to a recorder that nothing is due for. -/
theorem settle_of_punctual (punctual : r.Punctual (r.now + 1)) : r.settle = r := by
  have resume : r.fireResume = r := by
    have early : r.isDue r.timers.visibilityResume = false := isDue_eq_false (punctual.task .resume)
    rw [fireResume_eq, early, if_neg nofun]
  have limit : r.fireLimit = r := by
    have early : r.isDue r.timers.maxDuration = false := isDue_eq_false (punctual.task .limit)
    rw [fireLimit_eq, early, if_neg nofun]
  have handOut : r.fireFlush = r := by
    unfold fireFlush
    split
    · rename_i due isSet
      rw [if_neg (Nat.not_le_of_lt (punctual.task .handOut due isSet))]
    · rfl
  have encoder : r.capture.fire = (r.capture, none) := by
    rw [Capture.fire, Encoder.fire_of_early fun due isDue => (punctual.tick due isDue).1]
  rw [settle, resume, limit, handOut, fireEncoder_eq, encoder]

/-! ## Millisecond by millisecond -/

theorem elapse_zero (r : Recorder) : r.elapse 0 = r := rfl

theorem AtRest.pass_settled (atRest : r.AtRest) : r.pass.AtRest ∧ r.pass.now = r.now + 1 := by
  obtain ⟨crew, settled⟩ := atRest
  have arrived := settled.reachable.advanceTo (Nat.le_add_right r.now 1)
  have punctual : (r.advanceTo (r.now + 1)).Punctual (r.now + 1) :=
    settled.punctual.advanceTo settled.punctual.le_nextDue _
  exact ⟨arrived.settles punctual, (punctual.settle arrived.staffed.armed).2⟩

theorem AtRest.pass (atRest : r.AtRest) : r.pass.AtRest :=
  atRest.pass_settled.1

theorem AtRest.now_pass (atRest : r.AtRest) : r.pass.now = r.now + 1 :=
  atRest.pass_settled.2

/-- Only the clock goes on as long as nothing is due. -/
theorem AtRest.pass_idle (atRest : r.AtRest)
    (idle : ∀ due, r.nextDue = some due → r.now + 2 ≤ due) : r.pass = r.advanceTo (r.now + 1) :=
  settle_of_punctual (atRest.punctual.advanceTo idle (r.now + 1))

/-- A jump to the next point where something is due skips milliseconds in which nothing is. -/
theorem AtRest.advance_eq_iterate (atRest : r.AtRest) {ms count : Nat} (enough : ms ≤ count) :
    advance (r.now + ms) r count = Recorder.pass^[ms] r := by
  induction ms generalizing r count with
  | zero =>
      have still : advance (r.now + 0) r count = r.advanceTo r.now := by
        cases count with
        | zero => rfl
        | succ count =>
            unfold advance
            split
            · rename_i due next
              have later := atRest.punctual.le_nextDue due next
              rw [if_neg (by omega)]
              rfl
            · rfl
      exact still
  | succ ms ih =>
      obtain ⟨count, rfl⟩ := Nat.exists_eq_add_of_le enough
      rw [Function.iterate_succ_apply]
      have passed := atRest.now_pass
      by_cases next : ∃ due, r.nextDue = some due ∧ due < r.now + 2
      · obtain ⟨due, next, soon⟩ := next
        have later := atRest.punctual.le_nextDue due next
        obtain rfl : due = r.now + 1 := by omega
        have onward := ih atRest.pass (Nat.le_add_right ms count)
        rw [passed, Nat.add_right_comm] at onward
        rw [← onward, Nat.add_right_comm ms 1 count]
        simp only [advance, next]
        rw [if_pos (by omega)]
        rfl
      · have idle : ∀ due, r.nextDue = some due → r.now + 2 ≤ due :=
          fun due isDue => Nat.le_of_not_lt fun soon => next ⟨due, isDue, soon⟩
        have onward := ih atRest.pass (Nat.le_add_right ms (count + 1))
        rw [passed, Nat.add_right_comm, atRest.pass_idle idle] at onward
        rw [atRest.pass_idle idle, ← onward, Nat.add_right_comm ms 1 count]
        -- The clock alone has moved, so both jump to the same point.
        rfl

theorem AtRest.elapse_eq_iterate (atRest : r.AtRest) (ms : Nat) :
    r.elapse ms = Recorder.pass^[ms] r :=
  atRest.advance_eq_iterate (Nat.le_refl ms)

theorem AtRest.elapse (atRest : r.AtRest) (ms : Nat) : (r.elapse ms).AtRest :=
  atRest.step (.elapse ms)

/-- Time can be cut anywhere. -/
theorem AtRest.elapse_add (atRest : r.AtRest) (ms more : Nat) :
    r.elapse (ms + more) = (r.elapse ms).elapse more := by
  rw [(atRest.elapse ms).elapse_eq_iterate, atRest.elapse_eq_iterate ms,
    atRest.elapse_eq_iterate, Nat.add_comm, Function.iterate_add_apply]

theorem AtRest.elapse_one (atRest : r.AtRest) : r.elapse 1 = r.pass :=
  atRest.elapse_eq_iterate 1

theorem AtRest.elapse_succ (atRest : r.AtRest) (ms : Nat) :
    r.elapse (ms + 1) = (r.elapse ms).pass := by
  rw [atRest.elapse_add, (atRest.elapse ms).elapse_one]

theorem AtRest.now_elapse (atRest : r.AtRest) (ms : Nat) : (r.elapse ms).now = r.now + ms := by
  induction ms with
  | zero => rfl
  | succ ms ih => rw [atRest.elapse_succ, (atRest.elapse ms).now_pass, ih, Nat.add_assoc]

/-- An operation takes no time, and what it makes due happens at once. -/
theorem AtRest.step_eq (atRest : r.AtRest) {input : Input} (timeless : ∀ ms, input ≠ .elapse ms) :
    r.step input = (r.operate input).settle := by
  cases input with
  | elapse ms => exact absurd rfl (timeless ms)
  | setAudio | share | setOutcome =>
      symm
      apply settle_of_punctual
      exact atRest.punctual.of_same rfl rfl rfl
  | _ => rfl

/-- An operation before it settles. -/
theorem AtRest.operate (atRest : r.AtRest) {input : Input} (timeless : ∀ ms, input ≠ .elapse ms) :
    (r.operate input).Armed ∧ (r.operate input).Punctual r.now ∧ (r.operate input).now = r.now :=
  ⟨(conducts_operate atRest.armed input).armed,
    (atRest.punctual.mono (Nat.le_succ _)).operate atRest.armed timeless,
    (carries_operate r input timeless).now⟩

theorem AtRest.now_step (atRest : r.AtRest) (input : Input) :
    (r.step input).now = r.now + input.time := by
  rcases timeless_or_elapse input with ⟨timeless, none⟩ | ⟨ms, rfl⟩
  · obtain ⟨armed, punctual, now⟩ := atRest.operate timeless
    rw [← now] at punctual
    rw [atRest.step_eq timeless, (punctual.settle armed).2, now, none]
    rfl
  · exact atRest.now_elapse ms

theorem AtRest.now_run (atRest : r.AtRest) (inputs : List Input) :
    (r.run inputs).now = r.now + timeOf inputs := by
  induction inputs generalizing r with
  | nil => rfl
  | cons input rest ih =>
      have onward := ih (atRest.step input)
      rw [atRest.now_step, Nat.add_assoc] at onward
      exact onward

theorem run_append (r : Recorder) (inputs more : List Input) :
    r.run (inputs ++ more) = (r.run inputs).run more :=
  List.foldl_append

theorem timeIn_append (state : RecordingState) (r : Recorder) (inputs more : List Input) :
    r.timeIn state (inputs ++ more) = r.timeIn state inputs + (r.run inputs).timeIn state more := by
  induction inputs generalizing r with
  | nil => exact (Nat.zero_add _).symm
  | cons input rest ih =>
      rw [List.cons_append, timeIn, timeIn, ih, Nat.add_assoc]
      rfl

/-! ## Options -/

theorem options_settle (r : Recorder) : r.settle.options = r.options := by
  have waiting := ((carries_fireResume r).trans (carries_fireLimit _)).trans (carries_fireFlush _)
  exact (fireEncoder_cases _).1.options.trans waiting.options

theorem AtRest.options_elapse (atRest : r.AtRest) (ms : Nat) : (r.elapse ms).options = r.options := by
  induction ms with
  | zero => rfl
  | succ ms ih =>
      rw [atRest.elapse_succ]
      exact (options_settle _).trans ih

theorem AtRest.options_step (atRest : r.AtRest) (input : Input) :
    (r.step input).options = r.options := by
  rcases timeless_or_elapse input with ⟨timeless, -⟩ | ⟨ms, rfl⟩
  · rw [atRest.step_eq timeless, options_settle]
    exact (carries_operate r input timeless).options
  · exact atRest.options_elapse ms

theorem AtRest.options_run (atRest : r.AtRest) (inputs : List Input) :
    (r.run inputs).options = r.options := by
  induction inputs generalizing r with
  | nil => rfl
  | cons input rest ih => exact (ih (atRest.step input)).trans (atRest.options_step input)

/-! ## News -/

theorem AtRest.log_run (atRest : r.AtRest) (inputs : List Input) :
    (r.run inputs).log = r.log ++ r.news (r.run inputs) := by
  have log := Recorder.log_run atRest.inStep inputs
  rw [news, log, List.drop_left]

/-! ## Throughout -/

section
variable {p q : Recorder → Prop} {inputs : List Input}

instance instDecidableThroughout (p : Recorder → Prop) [DecidablePred p] :
    (r : Recorder) → (inputs : List Input) → Decidable (r.Throughout p inputs)
  | r, [] => inferInstanceAs (Decidable (p r))
  | r, input :: rest =>
    have := instDecidableThroughout p (r.step input) rest
    inferInstanceAs (Decidable ((∀ part ≤ input.time, p (r.elapse part)) ∧
      (r.step input).Throughout p rest))

theorem Throughout.here (throughout : r.Throughout p inputs) : p r := by
  cases inputs with
  | nil => exact throughout
  | cons input rest => exact throughout.1 0 (Nat.zero_le _)

theorem throughout_append (p : Recorder → Prop) (r : Recorder) (inputs more : List Input) :
    r.Throughout p (inputs ++ more) ↔ r.Throughout p inputs ∧ (r.run inputs).Throughout p more := by
  induction inputs generalizing r with
  | nil => exact ⟨fun later => ⟨later.here, later⟩, And.right⟩
  | cons input rest ih =>
      rw [List.cons_append, Throughout, Throughout, ih, and_assoc]
      rfl

/-- What is true at every moment of a run may imply something else there, depending on the time. -/
theorem Throughout.imp (throughout : r.Throughout p inputs) (atRest : r.AtRest)
    (imp : ∀ m : Recorder, r.now ≤ m.now → m.now ≤ r.now + timeOf inputs → p m → q m) :
    r.Throughout q inputs := by
  induction inputs generalizing r with
  | nil => exact imp r (Nat.le_refl _) (Nat.le_refl _) throughout
  | cons input rest ih =>
      have time : timeOf (input :: rest) = input.time + timeOf rest := rfl
      refine ⟨fun part early => ?_, ih throughout.2 (atRest.step input) fun m from_ until_ => ?_⟩
      · refine imp _ ?_ ?_ (throughout.1 part early) <;> rw [atRest.now_elapse] <;> omega
      · rw [atRest.now_step] at from_ until_
        exact imp m (by omega) (by omega)

end

end

end Viva.Recorder
