import Viva.Media.Capture

/-! # An encoder and its capture

What an encoder does when its timeslice may have ended is said here once (`Encoder.fires`), with the
reason why it does that, and what a capture does with its encoder beside that.
-/

namespace Viva

namespace Encoder

/-- What becomes of an encoder whose timeslice may have ended, and what it delivers. -/
inductive Fires (a : Encoder) : Encoder × Option (Except Failure Chunk) → Prop where
  | rests (early : ∀ due, a.nextDue = some due → a.now < due) : Fires a (a, none)
  | skips {run : EncoderRun} (running : a.run = some run) (late : run.nextTick ≤ a.now)
      (paused : run.paused = true) :
      Fires a ({ a with run := some { run with nextTick := run.nextTick + a.timeslice } }, none)
  | crashes {run : EncoderRun} (running : a.run = some run) (late : run.nextTick ≤ a.now)
      (active : run.paused = false) (faulty : a.faultAfter = some run.ordinal) :
      Fires a (a.stop, some (.error crash))
  | delivers {run : EncoderRun} (running : a.run = some run) (late : run.nextTick ≤ a.now)
      (active : run.paused = false) (sound : a.faultAfter ≠ some run.ordinal) :
      Fires a
        ({ a with run := some { run with
            nextTick := run.nextTick + a.timeslice
            ordinal := run.ordinal + 1 } },
          some (.ok (chunkPayload run.ordinal)))

theorem nextDue_of_run {encoder : Encoder} {run : EncoderRun} (running : encoder.run = some run) :
    encoder.nextDue = some run.nextTick := by
  rw [nextDue, running]
  rfl

theorem fires (encoder : Encoder) : encoder.Fires encoder.fire := by
  unfold fire
  split
  · rename_i still
    refine .rests ?_
    rw [nextDue, still]
    nofun
  · rename_i run running
    split
    · rename_i early
      refine .rests ?_
      rw [nextDue_of_run running]
      rintro due ⟨⟩
      exact early
    · rename_i late
      rw [Nat.not_lt] at late
      dsimp only
      split
      · rename_i paused
        exact .skips running late paused
      · rename_i active
        rw [Bool.not_eq_true] at active
        split
        · rename_i faulty
          exact .crashes running late active faulty
        · rename_i sound
          exact .delivers running late active sound

/-- Nothing happens within a timeslice. -/
theorem fire_of_early {encoder : Encoder}
    (early : ∀ due, encoder.nextDue = some due → encoder.now < due) :
    encoder.fire = (encoder, none) := by
  have fires := encoder.fires
  generalize encoder.fire = fired at fires ⊢
  cases fires with
  | rests => rfl
  | skips running late | crashes running late | delivers running late =>
      exact absurd (early _ (nextDue_of_run running)) (Nat.not_lt_of_le late)

theorem now_fire (encoder : Encoder) : encoder.fire.1.now = encoder.now := by
  have fires := encoder.fires
  generalize encoder.fire = fired at fires ⊢
  cases fires <;> rfl

/-- An encoder that starts has a timeslice to wait for. -/
theorem start_eq {encoder encoder' : Encoder} {hardware : Hardware} {stream : MediaStream}
    (started : encoder.start hardware stream = .ok encoder') :
    encoder.timeslice ≠ 0 ∧ encoder' = { encoder with
      encodedTracks := stream.tracks.map (·.id)
      run := some { nextTick := encoder.now + encoder.timeslice } } := by
  unfold start at started
  split at started
  · cases started
  · split at started
    · cases started
    · rename_i slices
      cases started
      exact ⟨slices, rfl⟩

end Encoder

namespace Capture

/-- A capture only collects what its encoder delivers. -/
theorem of_fire (capture : Capture) :
    capture.fire.1.encoder = capture.encoder.fire.1 ∧ capture.fire.1.state = capture.state := by
  unfold fire
  dsimp only
  split <;> exact ⟨rfl, rfl⟩

/-- A run of the encoder begins. -/
theorem startEncoding_eq {before after : Capture} {stream : MediaStream}
    {audio : Option MediaStream} (started : before.startEncoding stream audio = .ok after) :
    ∃ encoder recorded, before.encoder.start before.hardware recorded = .ok encoder ∧
      after = { before with
        encoder
        state := .recording
        runs := before.runs + 1
        faultChannel := some before.runs } := by
  simp only [startEncoding, bind, Except.bind, throw, throwThe, MonadExceptOf.throw, pure,
    Except.pure] at started
  split at started
  · cases started
  · split at started
    · cases started
    · rename_i encoder begun
      cases started
      exact ⟨encoder, _, begun, rfl⟩

/-- Only an encoder that is not at work is started. -/
theorem inactive_of_startEncoding {before after : Capture} {stream : MediaStream}
    {audio : Option MediaStream} (started : before.startEncoding stream audio = .ok after) :
    before.state = .inactive := by
  by_cases idle : before.state = .inactive
  · exact idle
  · simp [startEncoding, idle, bind, Except.bind, throw, throwThe, MonadExceptOf.throw] at started

/-- A stop of an encoder at work gives everything that was collected. -/
theorem stop_of_active {capture : Capture} (active : capture.state ≠ .inactive) :
    capture.stop = .ok (Blob.concat capture.chunks Encoder.mimeType,
      { capture with encoder := capture.encoder.stop, state := .inactive }.releaseTracks) := by
  unfold stop
  rw [if_neg fun idle => active (beq_iff_eq.mp idle)]

theorem stop_eq {before after : Capture} {blob : Blob} (stopped : before.stop = .ok (blob, after)) :
    blob = Blob.concat before.chunks Encoder.mimeType ∧ after =
      { before with encoder := before.encoder.stop, state := .inactive }.releaseTracks := by
  by_cases active : before.state = .inactive
  · simp [stop, active] at stopped
  · rw [stop_of_active active] at stopped
    cases stopped
    exact ⟨rfl, rfl⟩

/-- Only an encoder that a capture knows of is stopped by a reset. -/
theorem encoder_reset (capture : Capture) :
    capture.state = .inactive ∧ capture.reset.encoder = capture.encoder ∨
      capture.reset.encoder = capture.encoder.stop := by
  by_cases idle : capture.state = .inactive
  · exact .inl ⟨idle, by simp [reset, idle]⟩
  · exact .inr (by simp [reset, idle])

theorem still_reset {capture : Capture}
    (still : capture.state = .inactive → capture.encoder.run = none) :
    capture.reset.encoder.run = none := by
  rcases capture.encoder_reset with ⟨idle, same⟩ | stopped
  · rw [same]
    exact still idle
  · rw [stopped]
    rfl

theorem encoder_releaseTracks (capture : Capture) :
    capture.releaseTracks.encoder = capture.encoder := by
  unfold releaseTracks
  split <;> rfl

/-- The devices may be granted or not: the encoder is not concerned. -/
theorem encoder_acquire (capture : Capture) (constraints : Constraints) :
    (capture.acquire constraints).1.encoder = capture.encoder := by
  unfold acquire
  split
  · rfl
  · split <;> rfl

end Capture

end Viva
