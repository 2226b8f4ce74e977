import Mathlib.Data.List.DropRight
import Viva.Proofs.Recorder.Observation

/-! # Chunks handed out

While a recording goes on, what was handed out of it is what its encoder delivered, up to the place
that the recorder has marked (`HandedOut`). The end of the recording hands out the rest; so the parts
that were handed out and the recording that is given out are the same bytes.

The mark does not always lie within the chunks. A failure throws the chunks away and leaves the mark
where it was.
-/

namespace Viva

namespace Observation

/-- A recording begins. -/
def opening : Observation := .told (.stateChanged .initializing)

/-- What was observed since the last recording began. -/
def latest (seen : List Observation) : List Observation :=
  seen.rtakeWhile (· != opening)

def handOut? : Observation → Option (Blob × Nat)
  | told (.chunkReady blob sequence) => some (blob, sequence)
  | _ => none

/-- The chunks that the encoder delivered. -/
def deliveries (seen : List Observation) : List Chunk := seen.filterMap chunk?

/-- The parts of the recording that were handed out, with their numbers. -/
def handOuts (seen : List Observation) : List (Blob × Nat) := seen.filterMap handOut?

theorem deliveries_append (seen more : List Observation) :
    deliveries (seen ++ more) = deliveries seen ++ deliveries more :=
  List.filterMap_append

theorem handOuts_append (seen more : List Observation) :
    handOuts (seen ++ more) = handOuts seen ++ handOuts more :=
  List.filterMap_append

theorem deliveries_told (events : List RecordingEvent) : deliveries (events.map .told) = [] := by
  rw [deliveries, List.filterMap_map]
  exact List.filterMap_eq_nil_iff.mpr fun event _ => rfl

theorem latest_append {more : List Observation} (goesOn : opening ∉ more)
    (seen : List Observation) : latest (seen ++ more) = latest seen ++ more := by
  induction more using List.reverseRecOn generalizing seen with
  | nil => rw [List.append_nil, List.append_nil]
  | append_singleton more last ih =>
      rw [List.mem_append, not_or, List.mem_singleton] at goesOn
      have other : (last != opening) = true := bne_iff_ne.mpr (Ne.symm goesOn.2)
      have stays : latest (seen ++ more ++ [last]) = latest (seen ++ more) ++ [last] :=
        List.rtakeWhile_concat_pos _ _ _ other
      rw [← List.append_assoc, stays, ih goesOn.1, List.append_assoc]

theorem latest_append_opening {more : List Observation} (goesOn : opening ∉ more)
    (seen : List Observation) : latest (seen ++ opening :: more) = more := by
  have begins : latest (seen ++ [opening]) = [] :=
    List.rtakeWhile_concat_neg _ _ _ (by simp)
  rw [List.append_cons, latest_append goesOn, begins, List.nil_append]

end Observation

/-! ## While a recording goes on -/

namespace Reel

open Observation

/-- What was handed out is what was delivered, up to the mark. -/
structure HandedOut (seen : List Observation) (a : Reel) : Prop where
  chunks : deliveries seen = a.chunks
  sequences : (handOuts seen).map (·.2) = List.range a.nextSequence
  data : ((handOuts seen).map (·.1.data)).flatten = (a.chunks.take a.flushed).flatten
  bound : a.flushed ≤ a.chunks.length

theorem HandedOut.of_silent {seen : List Observation} {a b : Reel} (handed : HandedOut seen a)
    (more : List Observation) (noChunk : deliveries more = []) (nothing : handOuts more = []) (chunks : b.chunks = a.chunks)
    (flushed : b.flushed = a.flushed) (next : b.nextSequence = a.nextSequence) :
    HandedOut (seen ++ more) b := by
  have same : handOuts (seen ++ more) = handOuts seen := by
    rw [handOuts_append, nothing, List.append_nil]
  constructor
  · rw [deliveries_append, noChunk, List.append_nil, chunks]
    exact handed.chunks
  · rw [same, next]
    exact handed.sequences
  · rw [same, chunks, flushed]
    exact handed.data
  · rw [chunks, flushed]
    exact handed.bound

theorem HandedOut.deliver {seen : List Observation} {a : Reel} (handed : HandedOut seen a)
    (chunk : Chunk) :
    HandedOut (seen ++ [.delivered chunk]) { a with chunks := a.chunks ++ [chunk] } := by
  have same : handOuts (seen ++ [.delivered chunk]) = handOuts seen := by
    rw [handOuts_append]
    exact List.append_nil _
  constructor
  · rw [deliveries_append, handed.chunks]
    rfl
  · rw [same]
    exact handed.sequences
  · rw [same, List.take_append_of_le_length handed.bound]
    exact handed.data
  · rw [List.length_append]
    exact Nat.le_add_right_of_le handed.bound

theorem flushed_flush {a : Reel} (bound : a.flushed ≤ a.chunks.length) :
    a.flush.flushed = a.chunks.length := by
  simp only [flush, tell, pending, List.length_drop]
  omega

/-- Handing out moves the mark to the end. -/
theorem HandedOut.flush {seen : List Observation} {a : Reel} (handed : HandedOut seen a) :
    HandedOut (seen ++ a.handOut.map .told) a.flush := by
  have marked := flushed_flush handed.bound
  by_cases nothing : a.pending = []
  · have silent : a.handOut = [] := if_pos nothing
    have same : a.flush.flushed = a.flushed := by
      simp only [Reel.flush, tell, nothing, List.length_nil, Nat.add_zero]
    refine handed.of_silent _ (by rw [silent]; rfl) (by rw [silent]; rfl) rfl same ?_
    simp only [Reel.flush, tell, silent, List.length_nil, Nat.add_zero]
  · have told : a.handOut =
        [.chunkReady (Blob.concat a.pending Encoder.mimeType) a.nextSequence] := if_neg nothing
    have next : a.flush.nextSequence = a.nextSequence + 1 := by
      simp only [Reel.flush, tell, told, List.length_singleton]
    have parts : handOuts (seen ++ a.handOut.map .told) =
        handOuts seen ++ [(Blob.concat a.pending Encoder.mimeType, a.nextSequence)] := by
      rw [handOuts_append, told]
      rfl
    constructor
    · rw [deliveries_append, deliveries_told, List.append_nil]
      exact handed.chunks
    · rw [parts, List.map_append, handed.sequences, next, List.range_succ]
      rfl
    · have whole : a.flush.chunks.take a.flush.flushed = a.chunks := by
        rw [marked]
        exact List.take_length
      rw [parts, List.map_append, List.flatten_append, handed.data, whole]
      -- What was handed out before and what is pending make up all chunks.
      calc (a.chunks.take a.flushed).flatten ++ [a.pending.flatten].flatten
          = (a.chunks.take a.flushed ++ a.chunks.drop a.flushed).flatten := by
            rw [List.flatten_append, List.flatten_singleton]
            rfl
        _ = a.chunks.flatten := by rw [List.take_append_drop]
    · rw [marked]
      exact Nat.le_refl _

theorem opening_not_mem_handOut (a : Reel) : opening ∉ a.handOut.map .told := by
  unfold handOut
  split <;> simp [opening]

/-- A step either goes on with the recording or begins another one. -/
theorem handedOut_step {seen more : List Observation} {a b : Reel} (inStep : a.InStep)
    (handed : a.state.isActive = true → HandedOut (latest seen) a) (step : a.Step more b)
    (active : b.state.isActive = true) : HandedOut (latest (seen ++ more)) b := by
  cases step with
  | delivers running chunk =>
      rw [latest_append (by simp [opening])]
      exact (handed (inStep.running running)).deliver chunk
  | acts act =>
      cases act with
      | rests =>
          rw [latest_append (by simp)]
          exact (handed active).of_silent _ rfl rfl rfl rfl rfl
      | stalls =>
          rw [latest_append (by simp)]
          exact (handed active).of_silent _ rfl rfl rfl rfl rfl
      | notices =>
          rw [latest_append (by simp [opening])]
          exact (handed active).of_silent _ rfl rfl rfl rfl rfl
      | begins waits =>
          have before := RecordingState.isActive_of_waits waits
          rw [latest_append (by simp [opening])]
          exact (handed before).of_silent _ rfl rfl rfl rfl rfl
      | pauses records =>
          have before := RecordingState.isActive_of_records records
          rw [latest_append (by simp [opening])]
          exact (handed before).of_silent _ rfl rfl rfl rfl rfl
      | hands records =>
          rw [latest_append a.opening_not_mem_handOut]
          exact (handed active).flush
      | @opens isOver state opened =>
          have other : opening ∉ [RecordingEvent.stateChanged state].map Observation.told := by
            rcases opened with rfl | rfl <;> simp [opening]
          -- Whatever was observed before belongs to an earlier recording.
          have begins := latest_append_opening other seen
          exact begins ▸ ⟨rfl, rfl, rfl, Nat.le_refl 0⟩
      | drops dropped =>
          rcases dropped with rfl | rfl <;> cases active
      | fails | refuses | stops => cases active

theorem handedOut_run {seen : List Observation} {a b : Reel} (inStep : a.InStep)
    (inactive : a.state.isActive = false) (run : a.Run seen b) (active : b.state.isActive = true) :
    HandedOut (latest seen) b := by
  induction run with
  | rests => rw [inactive] at active; cases active
  | step run step ih => exact handedOut_step (run.inStep inStep) ih step active

end Reel

namespace Recorder

open Observation

/-! ## The end of a recording -/

/-- What comes due after the end of a recording only uses up timers. -/
theorem waiting_completed {r : Recorder} (completed : r.state = .completed) :
    ∃ timers, r.fireResume.fireLimit.fireFlush = { r with timers } := by
  have notPaused : (r.state == .paused) = false := by
    rw [completed]
    rfl
  have notRecording : (r.state == .recording) = false := by
    rw [completed]
    rfl
  have resume : ∃ timers, r.fireResume = { r with timers } := by
    unfold fireResume
    split
    · simp only [notPaused, Bool.false_and, Bool.false_eq_true, if_false]
      exact ⟨_, rfl⟩
    · exact ⟨_, rfl⟩
  obtain ⟨timers, resumed⟩ := resume
  have limit : ∃ timers, r.fireResume.fireLimit = { r with timers } := by
    rw [resumed, fireLimit]
    split
    · simp only [notRecording, Bool.false_and, Bool.false_eq_true, if_false]
      exact ⟨_, rfl⟩
    · exact ⟨_, rfl⟩
  obtain ⟨timers, limited⟩ := limit
  rw [limited, fireFlush]
  split
  · simp only [notRecording, Bool.false_eq_true, if_false]
    split <;> exact ⟨_, rfl⟩
  · exact ⟨_, rfl⟩

theorem observeSettling_completed {r : Recorder} (completed : r.state = .completed)
    (still : r.capture.encoder.run = none) : r.observeSettling = [] := by
  obtain ⟨timers, waiting⟩ := waiting_completed completed
  have nothing : r.capture.encoder.fire = (r.capture.encoder, none) := by
    rw [Encoder.fire, still]
  have log : ({ r with timers } : Recorder).fireEncoder.log = r.log := by
    simp only [fireEncoder, Capture.fire, nothing]
  simp only [observeSettling, waiting, delivery, nothing, told, log, List.drop_length,
    List.map_nil, List.append_nil]

theorem observeAll_append (r : Recorder) (inputs more : List Input) :
    r.observeAll (inputs ++ more) = r.observeAll inputs ++ (r.run inputs).observeAll more := by
  induction inputs generalizing r with
  | nil => rfl
  | cons input rest ih =>
      rw [List.cons_append, observeAll, observeAll, ih, List.append_assoc]
      rfl

/-- Only an active recorder gives out a recording, with all its chunks. -/
theorem recording_of_stop {r : Recorder} (inStep : r.reel.InStep) {blob : Blob}
    (stopped : r.stop.2 = .ok blob) :
    r.state.isActive = true ∧ blob = Blob.concat r.capture.chunks Encoder.mimeType := by
  by_cases active : r.state.isActive = true
  · rw [(stop_active inStep active).1] at stopped
    cases stopped
    exact ⟨active, rfl⟩
  · rw [stop, if_pos (by simpa using active)] at stopped
    cases stopped

theorem reply_stop (r : Recorder) (blob : Blob) :
    (r.perform .stop).2 = .recording blob ↔ r.stop.2 = .ok blob := by
  change Reply.ofRecording r.stop.2 = .recording blob ↔ _
  cases r.stop.2 <;> simp [Reply.ofRecording]

/-- What there is to observe of the end of a recording. -/
theorem observe_stop {r : Recorder} (inStep : r.reel.InStep) (active : r.state.isActive = true) :
    r.observe .stop = r.reel.finishing.map .told := by
  have ended := (stop_active inStep active).2
  have told : r.told r.stop.1 = r.reel.finishing.map .told := by
    apply told_of_act
    rw [ended]
    exact .stops active
  have completed : r.stop.1.state = .completed := congrArg Reel.state ended
  have still : r.stop.1.capture.encoder.run = none := by
    rw [← Option.not_isSome_iff_eq_none, Bool.not_eq_true]
    exact congrArg Reel.running ended
  rw [observe, observeFrom, told, observeSettling_completed completed still, List.append_nil]

theorem handedOut_finishing {r : Recorder} {seen : List Observation} (hands : r.reel.handsOut = true)
    (handed : Reel.HandedOut (latest seen) r.reel) :
    Reel.HandedOut (latest (seen ++ r.reel.finishing.map .told)) r.reel.flush := by
  have quiet : opening ∉ r.reel.finishing.map .told := by
    have parts := r.reel.opening_not_mem_handOut
    simp only [Reel.finishing, hands, if_true, List.map_append, List.mem_append, not_or]
    exact ⟨⟨by simp [opening], parts⟩, by simp [opening]⟩
  have stopping := handed.of_silent [.told (.stateChanged .stopping)] rfl rfl rfl rfl rfl
  have completed := stopping.flush.of_silent [.told (.stateChanged .completed)]
    (b := r.reel.flush) rfl rfl rfl rfl rfl
  rw [latest_append quiet, Reel.finishing, hands, if_pos rfl, List.map_append, List.map_append,
    ← List.append_assoc, ← List.append_assoc]
  exact completed

/-- The parts handed out of a recording are numbered from zero without a gap. Together they are the
    recording that is given out at its end, and that is what the encoder has delivered of it, whatever
    was recorded before, however often it was paused, and whenever parts were handed out. -/
theorem handOuts_cover_recording {r : Recorder} (fresh : r.Fresh)
    (hands : r.options.handsOutChunks = true) (inputs : List Input) {blob : Blob}
    (stopped : ((r.run inputs).perform .stop).2 = .recording blob) :
    let recording := latest (r.observeAll (inputs ++ [.stop]))
    (handOuts recording).map (·.2) = List.range (handOuts recording).length ∧
      ((handOuts recording).map (·.1.data)).flatten = blob.data ∧
        (deliveries recording).flatten = blob.data := by
  have run := run_observeAll fresh.inStep inputs
  have inStep := run.inStep fresh.inStep
  obtain ⟨active, rfl⟩ := recording_of_stop inStep ((reply_stop _ blob).mp stopped)
  have inactive : r.reel.state.isActive = false := by
    rw [show r.reel.state = .idle from fresh.state]
    rfl
  -- Up to here the parts reach up to the mark, and the end moves the mark behind all chunks.
  have before := Reel.handedOut_run fresh.inStep inactive run active
  have handed := handedOut_finishing (run.handsOut.trans hands) before
  have observed : r.observeAll (inputs ++ [.stop]) =
      r.observeAll inputs ++ (r.run inputs).reel.finishing.map .told := by
    rw [observeAll_append, observeAll, observe_stop inStep active, observeAll, List.append_nil]
  rw [← observed] at handed
  have marked := Reel.flushed_flush before.bound
  intro recording
  refine ⟨?_, ?_, ?_⟩
  · have count := congrArg List.length handed.sequences
    rw [List.length_map, List.length_range] at count
    rw [handed.sequences, count]
  · rw [handed.data, marked]
    exact congrArg List.flatten List.take_length
  · exact congrArg List.flatten handed.chunks

/-- A recording is dropped, and the one after it is paused in between. -/
theorem handOuts_of_second_recording :
    let r : Recorder := { options := { chunkInterval := 2 }, capture := { encoder := { timeslice := 1 } } }
    let inputs : List Input :=
      [.start, .elapse 3, .abandon, .start, .elapse 3, .pause, .elapse 2, .resume, .elapse 2]
    let recording := latest (r.observeAll (inputs ++ [.stop]))
    ∃ blob, ((r.run inputs).perform .stop).2 = .recording blob ∧
      (handOuts recording).map (·.2) = List.range 3 ∧
        ((handOuts recording).map (·.1.data)).flatten = blob.data ∧
          (deliveries recording).flatten = blob.data := by
  intro r inputs recording
  have fresh : r.Fresh := ⟨rfl, rfl, rfl, rfl, rfl, rfl, rfl⟩
  have inStep := (run_observeAll fresh.inStep inputs).inStep fresh.inStep
  have active : (r.run inputs).state.isActive = true := by decide +kernel
  have stopped := (reply_stop _ _).mpr (stop_active inStep active).1
  have count : (handOuts recording).length = 3 := by decide +kernel
  obtain ⟨sequences, parts, delivered⟩ := handOuts_cover_recording fresh rfl inputs stopped
  rw [count] at sequences
  exact ⟨_, stopped, sequences, parts, delivered⟩

end Recorder

/-! ## The mark -/

namespace Reel

/-- The mark lies within the chunks, except that after a failure there are no chunks. -/
structure Marked (a : Reel) : Prop where
  bound : a.state ≠ .error → a.flushed ≤ a.chunks.length
  gone : a.state = .error → a.chunks = []

theorem Marked.of_bound {a : Reel} (fine : a.state ≠ .error)
    (bound : a.flushed ≤ a.chunks.length) : a.Marked :=
  ⟨fun _ => bound, fun failed => absurd failed fine⟩

theorem ne_error_of_active {state : RecordingState} (active : state.isActive = true) :
    state ≠ .error := by
  rintro rfl
  cases active

theorem marked_flush {a : Reel} (fine : a.state ≠ .error) (marked : a.Marked) : a.flush.Marked := by
  refine .of_bound fine ?_
  rw [flushed_flush (marked.bound fine)]
  exact Nat.le_refl _

theorem marked_act {a b : Reel} {events : List RecordingEvent} (act : a.Act events b)
    (marked : a.Marked) : b.Marked := by
  cases act with
  | rests | notices | stalls => exact ⟨marked.bound, marked.gone⟩
  | begins waits =>
      have fine := ne_error_of_active (RecordingState.isActive_of_waits waits)
      exact .of_bound (by nofun) (marked.bound fine)
  | pauses records =>
      have fine := ne_error_of_active (RecordingState.isActive_of_records records)
      exact .of_bound (by nofun) (marked.bound fine)
  | hands records =>
      exact marked_flush (ne_error_of_active (RecordingState.isActive_of_records records)) marked
  -- A failure leaves the mark of the recording that it throws away.
  | fails | refuses => exact ⟨fun fine => absurd rfl fine, fun _ => rfl⟩
  | opens isOver opened =>
      exact .of_bound (ne_error_of_active (RecordingState.isActive_of_opened opened)) (Nat.le_refl 0)
  | stops active =>
      have fine := ne_error_of_active active
      refine .of_bound (by nofun) ?_
      unfold finish
      split
      · exact (marked_flush fine marked).bound fine
      · exact marked.bound fine
  | drops dropped =>
      refine .of_bound ?_ (Nat.le_refl 0)
      rcases dropped with rfl | rfl <;> nofun

theorem marked_run {seen : List Observation} {a b : Reel} (inStep : a.InStep) (marked : a.Marked)
    (run : a.Run seen b) : b.Marked := by
  induction run with
  | rests => exact marked
  | @step _ _ b _ run step ih =>
      cases step with
      | acts act => exact marked_act act ih
      | delivers running chunk =>
          have active := (run.inStep inStep).running running
          refine .of_bound (ne_error_of_active active) ?_
          rw [List.length_append]
          exact Nat.le_add_right_of_le (ih.bound (ne_error_of_active active))

end Reel

namespace Recorder

/-- The mark lies within the chunks exactly as long as no recording has failed after some of it was
    handed out. -/
theorem flushed_le_chunkCount_iff {r : Recorder} (fresh : r.Fresh) (inputs : List Input) :
    let snapshot := (r.run inputs).snapshot
    snapshot.flushed ≤ snapshot.chunkCount ↔ snapshot.state ≠ .error ∨ snapshot.flushed = 0 := by
  have start : r.reel.Marked := by
    refine .of_bound ?_ ?_
    · rw [show r.reel.state = .idle from fresh.state]
      nofun
    · rw [show r.reel.flushed = 0 from fresh.flushed]
      exact Nat.zero_le _
  have marked := Reel.marked_run fresh.inStep start (run_observeAll fresh.inStep inputs)
  intro snapshot
  constructor
  · intro bound
    by_cases failed : snapshot.state = .error
    · have none : snapshot.chunkCount = 0 := by
        have gone : (r.run inputs).capture.chunks = [] := marked.gone failed
        change (r.run inputs).capture.chunks.length = 0
        rw [gone]
        rfl
      exact .inr (Nat.le_zero.mp (none ▸ bound))
    · exact .inl failed
  · rintro (fine | zero)
    · exact marked.bound fine
    · rw [zero]
      exact Nat.zero_le _

theorem flushed_le_chunkCount_while_recording :
    let r : Recorder := { options := { chunkInterval := 2 }, capture := { encoder := { timeslice := 1 } } }
    let snapshot := (r.run [.start, .elapse 5]).snapshot
    snapshot.flushed = 3 ∧ snapshot.flushed ≤ snapshot.chunkCount := by
  intro r snapshot
  have fresh : r.Fresh := ⟨rfl, rfl, rfl, rfl, rfl, rfl, rfl⟩
  have fine : snapshot.state ≠ .error := by decide +kernel
  exact ⟨by decide +kernel, (flushed_le_chunkCount_iff fresh _).mpr (.inl fine)⟩

/-- Chunks are handed out, and then the encoder fails. -/
theorem flushed_gt_chunkCount_of_fault :
    let r : Recorder :=
      { options := { chunkInterval := 2 }, capture := { encoder := { timeslice := 1, faultAfter := some 4 } } }
    let snapshot := (r.run [.start, .elapse 5]).snapshot
    r.Fresh ∧ snapshot.state = .error ∧ snapshot.chunkCount < snapshot.flushed := by
  intro r snapshot
  have fresh : r.Fresh := ⟨rfl, rfl, rfl, rfl, rfl, rfl, rfl⟩
  exact ⟨fresh, by decide +kernel, by decide +kernel⟩

end Recorder

end Viva
