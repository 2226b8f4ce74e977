import Viva.Stream.Slot

/-! # A slot over time

A slot changes by `release`, `start` and `finish`. Each of them leaves a sound slot sound, and each
of them is a step forward: generations are given out once, and a stream that has lost the slot does
not get it back.
-/

namespace Viva.Slot

theorem isCurrent_iff {slot : Slot} {generation : Nat} :
    slot.isCurrent generation = true ↔ slot.current = some generation := by
  simp only [isCurrent, beq_iff_eq]

theorem isCurrent_eq_false_iff {slot : Slot} {generation : Nat} :
    slot.isCurrent generation = false ↔ slot.current ≠ some generation := by
  simp only [isCurrent, beq_eq_false_iff_ne, ne_eq]

theorem isLive_of_isCurrent {slot : Slot} {generation : Nat}
    (owns : slot.isCurrent generation = true) : slot.isLive = true := by
  rw [isLive, isCurrent_iff.mp owns]
  rfl

/-- The end of a stream that does not own the slot is no change. -/
theorem finish_of_not_current {slot : Slot} {generation : Nat}
    (lost : slot.isCurrent generation = false) : slot.finish generation = slot := by
  simp only [finish, lost, Bool.false_eq_true, if_false]

/-- A new stream takes the slot from those begun before. -/
theorem isCurrent_start (slot : Slot) {generation : Nat} (begun : generation < slot.next) :
    slot.start.isCurrent generation = false := by
  simp only [isCurrent, start, beq_eq_false_iff_ne, ne_eq, Option.some.injEq]
  omega

theorem release_release (slot : Slot) : slot.release.release = slot.release := rfl

/-! ## Soundness -/

/-- All generations were given out, and the stream that owns the slot is not cancelled. -/
structure Sound (slot : Slot) : Prop where
  current_lt : ∀ generation, slot.current = some generation → generation < slot.next
  cancelled_lt : ∀ generation ∈ slot.cancelled, generation < slot.next
  live : ∀ generation, slot.current = some generation → slot.isCancelled generation = false

theorem sound_new : Sound {} :=
  ⟨by simp, by simp, by simp⟩

theorem Sound.release {slot : Slot} (sound : slot.Sound) : slot.release.Sound where
  current_lt := by simp [Slot.release]
  cancelled_lt := by
    intro generation gone
    rcases List.mem_append.mp gone with owner | earlier
    · exact sound.current_lt generation (Option.mem_toList.mp owner)
    · exact sound.cancelled_lt generation earlier
  live := by simp [Slot.release]

theorem Sound.start {slot : Slot} (sound : slot.Sound) : slot.start.Sound where
  current_lt := by
    intro generation owns
    simp only [Slot.start, Option.some.injEq] at owns ⊢
    omega
  cancelled_lt := by
    intro generation gone
    exact Nat.lt_succ_of_lt (sound.release.cancelled_lt generation gone)
  live := by
    intro generation owns
    simp only [Slot.start, Option.some.injEq] at owns
    subst owns
    simp only [isCancelled, List.contains_eq_mem, decide_eq_false_iff_not]
    intro gone
    exact Nat.lt_irrefl _ (sound.release.cancelled_lt _ gone)

theorem Sound.finish {slot : Slot} (sound : slot.Sound) (generation : Nat) :
    (slot.finish generation).Sound := by
  cases owns : slot.isCurrent generation with
  | true =>
      simp only [Slot.finish, owns, if_true]
      exact ⟨by simp, sound.cancelled_lt, by simp⟩
  | false => rwa [finish_of_not_current owns]

/-! ## Steps forward -/

/-- `after` is a later state of the slot `before`. -/
structure Follows (before after : Slot) : Prop where
  next_le : before.next ≤ after.next
  /-- A stream that had been begun owns the slot only if it owned it then. -/
  owned : ∀ generation < before.next,
    after.current = some generation → before.current = some generation

theorem Follows.refl (slot : Slot) : slot.Follows slot :=
  ⟨Nat.le_refl _, fun _ _ owns => owns⟩

theorem Follows.trans {a b c : Slot} (first : a.Follows b) (second : b.Follows c) : a.Follows c where
  next_le := Nat.le_trans first.next_le second.next_le
  owned := by
    intro generation begun owns
    exact first.owned generation begun
      (second.owned generation (Nat.lt_of_lt_of_le begun first.next_le) owns)

theorem follows_release (slot : Slot) : slot.Follows slot.release :=
  ⟨Nat.le_refl _, by simp [release]⟩

theorem follows_start (slot : Slot) : slot.Follows slot.start where
  next_le := Nat.le_succ _
  owned := by
    intro generation begun owns
    simp only [start, Option.some.injEq] at owns
    omega

theorem follows_finish (slot : Slot) (generation : Nat) : slot.Follows (slot.finish generation) := by
  cases owns : slot.isCurrent generation with
  | true =>
      simp only [finish, owns, if_true]
      exact ⟨Nat.le_refl _, by simp⟩
  | false =>
      rw [finish_of_not_current owns]
      exact .refl slot

/-- A stream that has lost the slot does not get it back. -/
theorem Follows.lost {before after : Slot} (later : before.Follows after) {generation : Nat}
    (begun : generation < before.next) (lost : before.isCurrent generation = false) :
    after.isCurrent generation = false := by
  rw [isCurrent_eq_false_iff] at lost ⊢
  exact fun owns => lost (later.owned generation begun owns)

end Viva.Slot
