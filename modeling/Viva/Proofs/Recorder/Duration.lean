import Viva.Proofs.Recorder.Metering

/-! # How long a recording is

The duration that a recorder shows is the time up to the last interruption and the time since, and
since when it records has to be known exactly while it does record (`Meter.Counts`). Every operation
and every task keeps it that way, whatever the limit is. So from its opening on a recording is as
long as it has been in state `recording` (`duration_eq_timeIn`): time counts in that state and in no
other, and nothing but another recording or the end of this one sets it back.
-/

namespace Viva

namespace Meter

/-- Since when it records is known while it records, and only then. -/
structure Counts (a : Meter) : Prop where
  counts : a.records = a.activeSince.isSome
  since : ∀ time, a.activeSince = some time → time ≤ a.now

/-- The recording has lasted some time more, and it is still the same one. -/
structure Grows (a b : Meter) (spent : Nat) : Prop where
  counts : b.Counts
  duration : b.duration = a.duration + spent
  openings : b.openings = a.openings

section
variable {a b c : Meter}

theorem Counts.grows (counts : a.Counts) : a.Grows a 0 :=
  ⟨counts, rfl, rfl⟩

theorem Grows.trans {spent more : Nat} (first : a.Grows b spent) (second : b.Grows c more) :
    a.Grows c (spent + more) where
  counts := second.counts
  duration := by rw [second.duration, first.duration, Nat.add_assoc]
  openings := second.openings.trans first.openings

/-- Neither the limit nor what was told of it makes a difference to the time. -/
theorem Counts.notice (counts : a.Counts) (reached : Bool) (alarm : Option Nat) (notices : Nat) :
    a.Grows { a with reached, alarm, notices } 0 :=
  ⟨⟨counts.counts, counts.since⟩, rfl, rfl⟩

theorem Counts.wait (counts : a.Counts) : a.Grows a.wait a.records.toNat := by
  refine ⟨⟨counts.counts, fun time active => ?_⟩, ?_, rfl⟩
  · exact Nat.le_succ_of_le (counts.since time active)
  · rw [counts.counts]
    cases active : a.activeSince with
    | none => simp [duration, Meter.wait, active]
    | some since =>
        have past := counts.since since active
        simp only [duration, Meter.wait, active, Option.isSome_some, Bool.toNat_true]
        omega

theorem Counts.begin (counts : a.Counts) (rests : a.records = false) : a.Grows a.begin 0 := by
  have inactive : a.activeSince = none := by
    have counts := counts.counts
    rw [rests] at counts
    simpa using counts.symm
  refine ⟨⟨rfl, ?_⟩, ?_, rfl⟩
  · intro time active
    cases active
    exact Nat.le_refl _
  · simp [duration, Meter.begin, inactive]

theorem counts_suspend (a : Meter) : a.Grows a.suspend 0 :=
  ⟨⟨rfl, nofun⟩, rfl, rfl⟩

theorem counts_clear (a : Meter) : a.clear.Counts ∧ a.clear.duration = 0 :=
  ⟨⟨rfl, nofun⟩, rfl⟩

theorem counts_opened (a : Meter) : a.opened.Counts ∧ a.opened.duration = 0 :=
  ⟨⟨rfl, nofun⟩, rfl⟩

/-- An operation takes no time from a recording and gives it none. -/
theorem Act.grows {drops : Bool} (act : a.Act drops b) (counts : a.Counts) (kept : drops = false)
    (same : b.openings = a.openings) : a.Grows b 0 := by
  cases act with
  | rests => exact counts.grows
  | begins still => exact counts.begin still
  | suspends => exact counts_suspend a
  | opens | opensAtOnce =>
      -- Another recording has been begun.
      have another : a.openings + 1 = a.openings := same
      omega
  | clears => cases kept

/-- A recording that begins has lasted no time, and nothing is left of one that was dropped. -/
theorem Act.cleared {drops : Bool} (act : a.Act drops b)
    (anew : drops = true ∨ b.openings ≠ a.openings) : b.Counts ∧ b.duration = 0 := by
  cases act with
  | rests | begins | suspends => simp [Meter.begin, suspend] at anew
  | opens => exact counts_opened a
  | opensAtOnce =>
      obtain ⟨counts, zero⟩ := counts_opened a
      have begun := counts.begin rfl
      exact ⟨begun.counts, begun.duration.trans zero⟩
  | clears => exact counts_clear a

end

end Meter

namespace Recorder

section
variable {r : Recorder} {inputs : List Input}

/-! ## Tasks -/

theorem counted_fireResume (counts : r.meter.Counts) : r.meter.Grows r.fireResume.meter 0 := by
  rcases meter_fireResume r with same | ⟨still, begins⟩
  · rw [same]
    exact counts.grows
  · rw [begins]
    exact counts.begin still

theorem counted_fireLimit (counts : r.meter.Counts) : r.meter.Grows r.fireLimit.meter 0 := by
  rw [fireLimit_eq]
  split
  · unfold tellLimit
    dsimp only
    split
    · rw [meter_emit]
      exact counts.notice true none _
    · exact counts.notice r.limitReached none _
  · exact counts.grows

theorem counted_fireEncoder (counts : r.meter.Counts) : r.meter.Grows r.fireEncoder.meter 0 := by
  rcases meter_fireEncoder r with same | suspends
  · rw [same]
    exact counts.grows
  · rw [suspends]
    exact Meter.counts_suspend _

/-- What is due at a moment makes no difference to the time. -/
theorem counted_settle (counts : r.meter.Counts) : r.meter.Grows r.settle.meter 0 := by
  have resumed := counted_fireResume counts
  have limited := resumed.trans (counted_fireLimit resumed.counts)
  have handsOut := r.fireResume.fireLimit.meter_fireFlush
  rw [← handsOut] at limited
  exact limited.trans (counted_fireEncoder limited.counts)

/-! ## Time -/

theorem counted_pass (counts : r.meter.Counts) : r.meter.Grows r.pass.meter r.meter.records.toNat := by
  have waits : r.meter.Grows (r.advanceTo (r.now + 1)).meter r.meter.records.toNat := counts.wait
  exact waits.trans (counted_settle waits.counts)

/-- A recording lasts as much longer as is spent recording. -/
theorem AtRest.counted_elapse (atRest : r.AtRest) (counts : r.meter.Counts) (ms : Nat) :
    r.meter.Grows (r.elapse ms).meter (r.recordingTime ms) := by
  induction ms with
  | zero => exact counts.grows
  | succ ms ih =>
      rw [atRest.elapse_succ, recordingTime_succ]
      exact ih.trans (counted_pass ih.counts)

theorem recordingTime_of_recording (ms : Nat)
    (records : ∀ part < ms, (r.elapse part).state = .recording) : r.recordingTime ms = ms := by
  rw [recordingTime, List.countP_eq_length.mpr, List.length_range]
  intro part early
  simpa using records part (List.mem_range.mp early)

theorem recordingTime_of_not_recording (ms : Nat)
    (rests : ∀ part < ms, (r.elapse part).state ≠ .recording) : r.recordingTime ms = 0 := by
  rw [recordingTime, List.countP_eq_zero]
  intro part early
  simpa using rests part (List.mem_range.mp early)

/-! ## Inputs -/

theorem AtRest.counted_step (atRest : r.AtRest) (counts : r.meter.Counts) {input : Input}
    (kept : input.drops = false) (same : (r.step input).meter.openings = r.meter.openings) :
    r.meter.Grows (r.step input).meter (r.recordingTime input.time) := by
  rcases timeless_or_elapse input with ⟨timeless, instant⟩ | ⟨ms, rfl⟩
  · rw [atRest.step_eq timeless] at same ⊢
    rw [openings_settle] at same
    have operated := (meter_operate r timeless).grows counts kept same
    rw [instant]
    exact operated.trans (counted_settle operated.counts)
  · exact atRest.counted_elapse counts ms

/-- A recording begins with no time, and nothing is left of the time of one that is dropped. -/
theorem AtRest.cleared_step (atRest : r.AtRest) (input : Input)
    (anew : input.drops = true ∨ (r.step input).meter.openings ≠ r.meter.openings) :
    (r.step input).meter.Counts ∧ (r.step input).meter.duration = 0 := by
  rcases timeless_or_elapse input with ⟨timeless, -⟩ | ⟨ms, rfl⟩
  · rw [atRest.step_eq timeless] at anew ⊢
    rw [openings_settle] at anew
    obtain ⟨counts, zero⟩ := (meter_operate r timeless).cleared anew
    have settled := counted_settle counts
    exact ⟨settled.counts, settled.duration.trans zero⟩
  · rcases anew with drops | opens
    · cases drops
    · exact absurd (atRest.openings_elapse ms) opens

theorem Input.drops_eq_false {input : Input} (abandons : input ≠ .abandon) (resets : input ≠ .reset) :
    input.drops = false := by
  cases input with
  | abandon => exact absurd rfl abandons
  | reset => exact absurd rfl resets
  | _ => rfl

/-- No recording was begun that was not told of. -/
theorem AtRest.same_of_untold (atRest : r.AtRest)
    (untold : .stateChanged .initializing ∉ r.news (r.run inputs)) :
    (r.run inputs).meter.openings = r.meter.openings := by
  have counts := atRest.count_run (.stateChanged .initializing) inputs
  rw [List.count_eq_zero.mpr untold] at counts
  exact counts

theorem AtRest.counted_run (atRest : r.AtRest) (counts : r.meter.Counts)
    (kept : ∀ input ∈ inputs, input.drops = false)
    (same : (r.run inputs).meter.openings = r.meter.openings) :
    r.meter.Grows (r.run inputs).meter (r.timeIn .recording inputs) := by
  induction inputs generalizing r with
  | nil => exact counts.grows
  | cons input rest ih =>
      obtain ⟨kept, keptAll⟩ := List.forall_mem_cons.mp kept
      -- Openings are only ever counted up, so none of the inputs has begun another recording.
      have first := atRest.count_run (.stateChanged .initializing) [input]
      have onward := (atRest.step input).count_run (.stateChanged .initializing) rest
      change (r.step input).meter.openings = r.meter.openings + _ at first
      change (r.run (input :: rest)).meter.openings = (r.step input).meter.openings + _ at onward
      have stepped := atRest.counted_step counts kept (by omega)
      apply stepped.trans
      apply ih (atRest.step input) stepped.counts keptAll
      change (r.run (input :: rest)).meter.openings = _
      omega

/-! ## A recording from its opening on -/

/-- A recording has lasted as long as it was in state `recording`. -/
theorem OneRecording.counted {opened : Recorder} {opening : Input} {during : List Input}
    (one : OneRecording opened opening during) (atRest : opened.AtRest) :
    ((opened.step opening).run during).meter.Counts ∧
      ((opened.step opening).run during).meter.duration =
        (opened.step opening).timeIn .recording during := by
  obtain ⟨counts, zero⟩ := atRest.cleared_step _ (.inr (atRest.opens_of_told one.begins))
  have kept : ∀ input ∈ during, input.drops = false := by
    intro input among
    obtain ⟨abandons, resets⟩ := one.kept input among
    exact Input.drops_eq_false abandons resets
  have begun := atRest.step opening
  have grows := begun.counted_run counts kept (begun.same_of_untold one.alone)
  refine ⟨grows.counts, ?_⟩
  rw [grows.duration, zero, Nat.zero_add]

/-- Whatever was recorded before, devices that are asked for begin a recording of no length. -/
theorem duration_prepare (isOver : r.state.isOver = true) :
    (r.step .prepare).snapshot.duration = 0 := by
  have opened : r.prepare.1.meter.Counts ∧ r.prepare.1.meter.duration = 0 := by
    rw [prepare, if_pos isOver]
    obtain ⟨counts, zero⟩ := r.meter.counts_opened
    rcases meter_openRecording isOver r.options.autoStart with waits | begins
    · rw [waits]
      exact ⟨counts, zero⟩
    · have begun := counts.begin rfl
      rw [begins]
      exact ⟨begun.counts, begun.duration.trans zero⟩
  exact (counted_settle opened.1).duration.trans opened.2

/-- At every moment of a recording its duration is the time it has spent in state `recording`. It
    grows with the time there and in no other state, no input makes it shorter but one that drops the
    recording or begins another, and it is zero where a recording begins or is dropped. -/
theorem duration_eq_timeIn (isNew : r.New) (before : List Input) (opening : Input)
    (during : List Input) (one : OneRecording (r.run before) opening during) :
    let begun := (r.run before).step opening
    let session := begun.run during
    session.snapshot.duration = begun.timeIn .recording during ∧
      (∀ ms, (∀ part < ms, (session.elapse part).state ≠ .recording) →
        (session.elapse ms).snapshot.duration = session.snapshot.duration) ∧
      (∀ ms, (∀ part < ms, (session.elapse part).state = .recording) →
        (session.elapse ms).snapshot.duration = session.snapshot.duration + ms) ∧
      (∀ input, input ≠ .abandon → input ≠ .reset →
        .stateChanged .initializing ∉ session.news (session.step input) →
          session.snapshot.duration ≤ (session.step input).snapshot.duration) ∧
      begun.snapshot.duration = 0 ∧
      (session.state.isOver = true → (session.step .prepare).snapshot.duration = 0) ∧
      (session.step .abandon).snapshot.duration = 0 ∧
      (session.step .reset).snapshot.duration = 0 := by
  intro begun session
  have atRest : (r.run before).AtRest := atRest_run isNew before
  have rests : session.AtRest := (atRest.step opening).run during
  obtain ⟨counts, duration⟩ := one.counted atRest
  refine ⟨duration, ?_, ?_, ?_, ?_, duration_prepare, ?_, ?_⟩
  · intro ms still
    have grows := rests.counted_elapse counts ms
    rw [recordingTime_of_not_recording ms still] at grows
    exact grows.duration
  · intro ms records
    have grows := rests.counted_elapse counts ms
    rw [recordingTime_of_recording ms records] at grows
    exact grows.duration
  · intro input abandons resets untold
    have kept : ∀ other ∈ [input], other.drops = false := by
      simpa using Input.drops_eq_false abandons resets
    have grows := rests.counted_run counts kept (rests.same_of_untold untold)
    exact Nat.le.intro grows.duration.symm
  · exact (atRest.cleared_step _ (.inr (atRest.opens_of_told one.begins))).2
  · exact (rests.cleared_step .abandon (.inl rfl)).2
  · exact (rests.cleared_step .reset (.inl rfl)).2

theorem duration_after_hidden_page :
    let r : Recorder := { options := { resumeDelay := 3 }, capture := { encoder := { timeslice := 100 } } }
    let during : List Input :=
      [.elapse 2, .setVisibility .hidden, .elapse 4, .setVisibility .visible, .elapse 5]
    let session := (r.step .start).run during
    OneRecording r .start during ∧ session.state = .recording ∧ session.snapshot.duration = 4 ∧
      (session.elapse 7).snapshot.duration = 11 ∧ (session.step .abandon).snapshot.duration = 0 := by
  intro r during session
  have one : OneRecording r .start during := ⟨by decide +kernel, by decide, by decide +kernel⟩
  obtain ⟨duration, -, grows, -, -, -, dropped, -⟩ :=
    duration_eq_timeIn (Recorder.isNew { resumeDelay := 3 } 100) [] .start during one
  have time : (r.step .start).timeIn .recording during = 4 := by decide +kernel
  have four : session.snapshot.duration = 4 := duration.trans time
  refine ⟨one, by decide +kernel, four, ?_, dropped⟩
  rw [← Nat.add_right_cancel_iff (n := 7)] at four
  exact (grows 7 (by decide +kernel)).trans four

end

end Recorder

end Viva
