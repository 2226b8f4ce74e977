import Viva.Proofs.Recorder.Custody

/-! # After a recording was dropped

Whatever a recorder does at once or as time passes, nothing of what it was granted is live but the
stream that it keeps (`Recorder.sound_operate`, `sound_settle`, `sound_elapse`). When it drops its
recording it keeps none and waits for nothing any more, so from then on it sleeps: however much time
passes, it tells of nothing, and its devices stay as they are (`Recorder.sleeps_elapse`).
-/

namespace Viva

namespace Hold

/-- Nothing of what was granted is live. -/
def Off (a : Hold) : Prop :=
  ∀ stream ∈ a.granted, ∀ track ∈ stream.tracks, a.hardware.isLive track = false

theorem Sound.off {a : Hold} (sound : a.Sound) (none : a.stream = none) : a.Off := by
  obtain ⟨earlier, granted, stopped⟩ := sound.earlier
  rw [none, Option.toList_none, List.append_nil] at granted
  intro stream member
  exact stopped stream (granted ▸ member)

end Hold

namespace Recorder

variable {r : Recorder}

/-! ## Time and the devices -/

theorem hold_fireLimit (r : Recorder) : r.fireLimit.hold = r.hold := by
  rw [fireLimit_eq]
  split
  · exact hold_tellLimit r
  · rfl

theorem hold_fireFlush (r : Recorder) : r.fireFlush.hold = r.hold := by
  unfold fireFlush
  split
  · split
    · split
      · exact hold_flushPending _
      · rfl
    · rfl
  · rfl

theorem sound_fireResume (sound : r.hold.Sound) : r.fireResume.hold.Sound := by
  rw [fireResume_eq]
  split
  · exact (held_goOn r).sound sound
  · exact sound

theorem sound_fireEncoder (sound : r.hold.Sound) : r.fireEncoder.hold.Sound := by
  have fired : { r with capture := r.capture.fire.1 }.hold.Sound := (hold_fire r).symm ▸ sound
  rw [fireEncoder_eq]
  split
  · rw [takeFault_eq]
    split
    · exact (held_hearFault _ _).sound fired
    · exact fired
  · exact fired

theorem sound_operate (sound : r.hold.Sound) (input : Input) : (r.operate input).hold.Sound :=
  (held_operate r input).sound sound

theorem sound_settle (sound : r.hold.Sound) : r.settle.hold.Sound := by
  apply sound_fireEncoder
  rw [hold_fireFlush, hold_fireLimit]
  exact sound_fireResume sound

theorem sound_advance (sound : r.hold.Sound) (time count : Nat) :
    (advance time r count).hold.Sound := by
  induction count generalizing r with
  | zero => exact sound
  | succ count ih =>
      unfold advance
      split
      · split
        · exact ih (sound_settle sound)
        · exact sound
      · exact sound

theorem sound_elapse (sound : r.hold.Sound) (ms : Nat) : (r.elapse ms).hold.Sound :=
  sound_advance sound _ ms

/-! ## Sleeping -/

/-- Nothing was told of meanwhile, nothing else is waited for, and the devices were left alone. -/
structure Sleeps (r r' : Recorder) : Prop where
  log : r'.log = r.log
  timers : r'.timers = r.timers
  hold : r'.hold = r.hold

theorem Sleeps.refl (r : Recorder) : r.Sleeps r := ⟨rfl, rfl, rfl⟩

theorem Sleeps.trans {a b c : Recorder} (first : a.Sleeps b) (second : b.Sleeps c) : a.Sleeps c :=
  ⟨second.log.trans first.log, second.timers.trans first.timers, second.hold.trans first.hold⟩

/-- Nobody waits for the fault of an encoder that no recording is left of. -/
theorem sleeps_fireEncoder (nothing : r.timers = {}) : r.Sleeps r.fireEncoder := by
  have fired : r.Sleeps { r with capture := r.capture.fire.1 } := ⟨rfl, rfl, hold_fire r⟩
  rw [fireEncoder_eq]
  split
  · rw [takeFault_eq]
    split
    · rename_i watched
      rw [nothing] at watched
      cases watched
    · exact fired
  · exact fired

theorem sleeps_settle (nothing : r.timers = {}) : r.Sleeps r.settle := by
  have resume : r.fireResume = r := by
    rw [fireResume_eq, nothing]
    exact if_neg nofun
  have limit : r.fireLimit = r := by
    rw [fireLimit_eq, nothing]
    exact if_neg nofun
  have handOut : r.fireFlush = r := by
    unfold fireFlush
    rw [nothing]
  rw [settle, resume, limit, handOut]
  exact sleeps_fireEncoder nothing

theorem sleeps_advance (nothing : r.timers = {}) (time count : Nat) :
    r.Sleeps (advance time r count) := by
  induction count generalizing r with
  | zero => exact ⟨rfl, rfl, rfl⟩
  | succ count ih =>
      unfold advance
      split
      · rename_i due _
        split
        · have arrived : r.Sleeps (r.advanceTo due) := ⟨rfl, rfl, rfl⟩
          have settled := arrived.trans (sleeps_settle (arrived.timers.trans nothing))
          exact settled.trans (ih (settled.timers.trans nothing))
        · exact ⟨rfl, rfl, rfl⟩
      · exact ⟨rfl, rfl, rfl⟩

theorem sleeps_elapse (nothing : r.timers = {}) (ms : Nat) : r.Sleeps (r.elapse ms) :=
  sleeps_advance nothing _ ms

/-! ## Dropping the recording -/

theorem timers_abandon (r : Recorder) : r.abandon.timers = {} := by
  rw [abandon, setState_eq]
  rfl

theorem off_abandon (sound : r.hold.Sound) : r.abandon.hold.Off := by
  have dropped : r.abandon.hold = { r.hold.release with active := false } := by
    rw [abandon, hold_setState, hold_discard]
    rfl
  rw [dropped]
  exact sound.release.off rfl

end Recorder

end Viva
