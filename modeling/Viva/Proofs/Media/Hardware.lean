import Viva.Media.Track

/-! # Devices that are opened and stopped

A device that is opened is a new one and delivers until its track is stopped, and a track that is
stopped is stopped wherever it is held. What is opened or stopped besides makes no difference to it.
-/

namespace Viva

namespace Hardware

theorem isLive_stop (hardware : Hardware) (track other : Track) :
    (hardware.stop track).isLive other =
      (hardware.isLive other && other.device != track.device) := by
  unfold isLive stop
  rw [List.getElem?_set]
  split
  · rename_i same
    simp [same]
    split <;> simp
  · rename_i ne
    simp [Ne.symm ne]

theorem isLive_stopAll (hardware : Hardware) (tracks : List Track) (other : Track) :
    (hardware.stopAll tracks).isLive other = true ↔
      hardware.isLive other = true ∧ ∀ track ∈ tracks, other.device ≠ track.device := by
  induction tracks generalizing hardware with
  | nil => simp [stopAll]
  | cons track rest ih =>
      have stopped := ih (hardware.stop track)
      rw [isLive_stop, Bool.and_eq_true, bne_iff_ne] at stopped
      simpa [stopAll, and_assoc] using stopped

/-- What is dead stays dead. -/
theorem dead_of_stopAll {hardware : Hardware} {track : Track} (tracks : List Track)
    (dead : hardware.isLive track = false) : (hardware.stopAll tracks).isLive track = false := by
  rw [Bool.eq_false_iff] at dead ⊢
  intro live
  exact dead ((isLive_stopAll _ _ _).mp live).1

theorem dead_of_stopped {hardware : Hardware} {track : Track} {tracks : List Track}
    (among : track ∈ tracks) : (hardware.stopAll tracks).isLive track = false := by
  rw [Bool.eq_false_iff]
  intro live
  exact ((isLive_stopAll _ _ _).mp live).2 track among rfl

theorem live_openAll (hardware : Hardware) (offer : List (String × TrackKind)) :
    (hardware.openAll offer).2.live = hardware.live ++ List.replicate offer.length true := by
  induction offer generalizing hardware with
  | nil => simp [openAll]
  | cons device rest ih =>
      simp [openAll, openTrack, ih, List.replicate_succ]

theorem lt_openAll {hardware : Hardware} (offer : List (String × TrackKind)) {track : Track}
    (old : track.device < hardware.live.length) :
    track.device < (hardware.openAll offer).2.live.length := by
  rw [live_openAll, List.length_append]
  omega

theorem isLive_openAll (hardware : Hardware) (offer : List (String × TrackKind)) {track : Track}
    (old : track.device < hardware.live.length) :
    (hardware.openAll offer).2.isLive track = hardware.isLive track := by
  unfold isLive
  rw [live_openAll, List.getElem?_append_left old]

theorem lt_of_isLive {hardware : Hardware} {track : Track} (live : hardware.isLive track = true) :
    track.device < hardware.live.length := by
  refine Nat.lt_of_not_le fun beyond => ?_
  rw [isLive, List.getElem?_eq_none beyond] at live
  cases live

/-- What is opened was not there before, and is live. -/
theorem opened_openAll (hardware : Hardware) (offer : List (String × TrackKind)) :
    ∀ track ∈ (hardware.openAll offer).1,
      hardware.live.length ≤ track.device ∧ (hardware.openAll offer).2.isLive track = true := by
  induction offer generalizing hardware with
  | nil => nofun
  | cons device rest ih =>
      have others := ih (hardware.openTrack device.1 device.2).2
      simp only [openAll, List.mem_cons, forall_eq_or_imp]
      constructor
      · refine ⟨Nat.le_refl _, ?_⟩
        rw [isLive_openAll]
        · simp [isLive, openTrack]
        · simp [openTrack]
      · intro track opened
        have new := others track opened
        refine ⟨?_, new.2⟩
        simp only [openTrack, List.length_append, List.length_singleton] at new
        omega

theorem length_openAll (hardware : Hardware) (offer : List (String × TrackKind)) :
    (hardware.openAll offer).1.length = offer.length := by
  induction offer generalizing hardware with
  | nil => rfl
  | cons device rest ih => simp [openAll, ih]

theorem length_stopAll (hardware : Hardware) (tracks : List Track) :
    (hardware.stopAll tracks).live.length = hardware.live.length := by
  induction tracks generalizing hardware with
  | nil => rfl
  | cons track rest ih =>
      have stopped := ih (hardware.stop track)
      rwa [stop, List.length_set] at stopped

end Hardware

end Viva
