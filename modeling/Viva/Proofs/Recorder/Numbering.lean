import Viva.Proofs.Recorder.Ending

/-! # The parts of one recording after another

A recorder numbers the parts of each recording from zero, so a number alone does not tell which part
it is. Dated by how many recordings had begun when it was told, a part comes after all that were
told before it (`Precedes`). The parts of a recording that is over stay what they are, and together
they are what was given out at its end (`Reel.Numbered`).
-/

namespace Viva

/-- A recording begins. -/
def RecordingEvent.isOpening : RecordingEvent → Bool
  | .stateChanged .initializing => true
  | _ => false

/-- How many recordings begin. -/
def openings (log : List RecordingEvent) : Nat := log.countP RecordingEvent.isOpening

/-- The parts that are told of, each with how many recordings have begun by then. -/
def dated (begun : Nat) : List RecordingEvent → List (Nat × Blob × Nat)
  | [] => []
  | event :: rest =>
    event.part?.toList.map (Prod.mk begun) ++
      dated (begun + if event.isOpening then 1 else 0) rest

/-- The part belongs to an earlier recording, or has a smaller number in the same one. -/
def Precedes (part other : Nat × Blob × Nat) : Prop :=
  part.1 < other.1 ∨ part.1 = other.1 ∧ part.2.2 < other.2.2

/-- Those of the parts that belong to a recording. -/
def ofRecording (recording : Nat) (parts : List (Nat × Blob × Nat)) : List (Blob × Nat) :=
  (parts.filter (·.1 == recording)).map Prod.snd

/-- The parts of a recording. -/
def partsOf (recording : Nat) (log : List RecordingEvent) : List (Blob × Nat) :=
  ofRecording recording (dated 0 log)

/-- What some parts hold together. -/
def bytesOf (parts : List (Blob × Nat)) : List UInt8 := (parts.map (·.1.data)).flatten

section
variable {begun recording : Nat} {log more : List RecordingEvent}

theorem openings_append (log more : List RecordingEvent) :
    openings (log ++ more) = openings log + openings more :=
  List.countP_append

theorem bytesOf_append (parts more : List (Blob × Nat)) :
    bytesOf (parts ++ more) = bytesOf parts ++ bytesOf more := by
  rw [bytesOf, List.map_append, List.flatten_append]
  rfl

theorem ofRecording_append (recording : Nat) (parts more : List (Nat × Blob × Nat)) :
    ofRecording recording (parts ++ more) =
      ofRecording recording parts ++ ofRecording recording more := by
  rw [ofRecording, List.filter_append, List.map_append]
  rfl

theorem dated_append (begun : Nat) (log more : List RecordingEvent) :
    dated begun (log ++ more) = dated begun log ++ dated (begun + openings log) more := by
  induction log generalizing begun with
  | nil => rfl
  | cons event rest ih =>
      have count : openings (event :: rest) =
          (if event.isOpening then 1 else 0) + openings rest := by
        rw [openings, List.countP_cons, Nat.add_comm]
        rfl
      rw [List.cons_append, dated, dated, ih, count, Nat.add_assoc, List.append_assoc]

theorem map_snd_dated (begun : Nat) (log : List RecordingEvent) :
    (dated begun log).map Prod.snd = partsIn log := by
  induction log generalizing begun with
  | nil => rfl
  | cons event rest ih =>
      rw [dated, List.map_append, ih, List.map_map]
      cases event <;> rfl

theorem dated_of_no_opening (quiet : openings log = 0) :
    dated begun log = (partsIn log).map (Prod.mk begun) := by
  induction log with
  | nil => rfl
  | cons event rest ih =>
      rw [openings, List.countP_cons, Nat.add_eq_zero_iff] at quiet
      have goesOn : event.isOpening = false := by
        cases isOpening : event.isOpening with
        | false => rfl
        | true => simp [isOpening] at quiet
      rw [dated, goesOn, if_neg (by nofun), Nat.add_zero, ih quiet.1]
      cases event <;> rfl

theorem dated_of_no_part (nothing : partsIn log = []) : dated begun log = [] := by
  rw [← List.map_eq_nil_iff, map_snd_dated, nothing]

theorem le_openings_of_mem {part : Nat × Blob × Nat} (told : part ∈ dated begun log) :
    begun ≤ part.1 ∧ part.1 ≤ begun + openings log := by
  induction log generalizing begun with
  | nil => cases told
  | cons event rest ih =>
      rw [openings, List.countP_cons, ← openings]
      rcases List.mem_append.mp told with here | later
      · obtain ⟨_, -, rfl⟩ := List.mem_map.mp here
        exact ⟨Nat.le_refl _, Nat.le_add_right _ _⟩
      · obtain ⟨low, high⟩ := ih later
        omega

theorem mem_ofRecording {parts : List (Nat × Blob × Nat)} {part : Blob × Nat} :
    part ∈ ofRecording recording parts ↔ (recording, part) ∈ parts := by
  simp [ofRecording]

theorem ofRecording_of_forall {parts : List (Nat × Blob × Nat)}
    (one : ∀ part ∈ parts, part.1 = recording) :
    ofRecording recording parts = parts.map Prod.snd := by
  rw [ofRecording, List.filter_eq_self.mpr fun part member => beq_iff_eq.mpr (one part member)]

/-- Parts that follow one another have rising numbers within each recording. -/
theorem rises_ofRecording {parts : List (Nat × Blob × Nat)} (rises : parts.Pairwise Precedes)
    (recording : Nat) : ((ofRecording recording parts).map Prod.snd).Pairwise (· < ·) := by
  rw [ofRecording, List.map_map, List.pairwise_map]
  refine (rises.filter _).imp_of_mem fun here there precedes => ?_
  have same := (beq_iff_eq.mp (List.mem_filter.mp here).2).trans
    (beq_iff_eq.mp (List.mem_filter.mp there).2).symm
  rcases precedes with earlier | ⟨-, less⟩
  · exact absurd earlier (Nat.not_lt_of_le (Nat.le_of_eq same.symm))
  · exact less

/-- A recording that is to begin has no parts yet. -/
theorem partsOf_of_openings_lt (later : openings log < recording) :
    partsOf recording log = [] := by
  rw [List.eq_nil_iff_forall_not_mem]
  intro part told
  have known := (le_openings_of_mem (mem_ofRecording.mp told)).2
  rw [Nat.zero_add] at known
  exact absurd later (Nat.not_lt_of_le known)

/-- What is told after the beginning of another recording, or without parts, does not add to it. -/
theorem partsOf_append_of_over (closed : partsIn more = [] ∨ recording < openings log) :
    partsOf recording (log ++ more) = partsOf recording log := by
  have others : ofRecording recording (dated (0 + openings log) more) = [] := by
    rcases closed with nothing | earlier
    · rw [dated_of_no_part nothing]
      rfl
    · rw [List.eq_nil_iff_forall_not_mem]
      intro part told
      have begun := (le_openings_of_mem (mem_ofRecording.mp told)).1
      rw [Nat.zero_add] at begun
      exact absurd earlier (Nat.not_lt_of_le begun)
  rw [partsOf, dated_append, ofRecording_append, others, List.append_nil]
  rfl

/-- What is told meanwhile adds to the latest recording. -/
theorem partsOf_append_current (quiet : openings more = 0) :
    partsOf (openings log) (log ++ more) = partsOf (openings log) log ++ partsIn more := by
  have all : ofRecording (openings log) ((partsIn more).map (Prod.mk (openings log))) =
      partsIn more := by
    rw [ofRecording_of_forall, List.map_map]
    · exact List.map_id _
    · intro part member
      obtain ⟨_, -, rfl⟩ := List.mem_map.mp member
      rfl
  rw [partsOf, dated_append, ofRecording_append, Nat.zero_add, dated_of_no_opening quiet, all]
  rfl

end

namespace Reel

open Observation

/-! ## What an act tells of parts -/

/-- An act tells of no part, or hands out what is pending, or begins a recording. -/
inductive Tells (a : Reel) (events : List RecordingEvent) (b : Reel) : Prop where
  | quiet (noPart : partsIn events = []) (noOpening : openings events = 0)
      (goesOn : b.state.isActive = true → a.state.isActive = true ∧ b.chunks = a.chunks ∧
        b.flushed = a.flushed ∧ b.nextSequence = a.nextSequence)
  | hands (active : a.state.isActive = true) (noOpening : openings events = 0)
      (part : partsIn events = [(Blob.concat a.pending Encoder.mimeType, a.nextSequence)])
      (goesOn : b.state.isActive = true → b.chunks = a.chunks ∧
        b.flushed = a.flushed + a.pending.length ∧ b.nextSequence = a.nextSequence + 1)
  | opens (inactive : a.state.isActive = false) (noPart : partsIn events = [])
      (one : openings events = 1)
      (cleared : b.state.isActive = true → b.chunks = [] ∧ b.flushed = 0)

variable {a b : Reel} {events : List RecordingEvent}

theorem openings_handOut (a : Reel) : openings a.handOut = 0 := by
  unfold handOut
  split <;> rfl

theorem partsIn_handOut (a : Reel) : partsIn a.handOut =
    if a.pending = [] then [] else [(Blob.concat a.pending Encoder.mimeType, a.nextSequence)] := by
  unfold handOut
  split <;> rfl

theorem openings_finishing (a : Reel) : openings a.finishing = 0 := by
  rw [finishing, openings_append, openings_append]
  split
  · rw [openings_handOut]
    rfl
  · rfl

theorem inactive_of_isOver {state : RecordingState} (isOver : state.isOver = true) :
    state.isActive = false := by
  cases state <;> first | rfl | cases isOver

/-- What is pending is handed out, if there is anything. -/
theorem tells_of_handOut (active : a.state.isActive = true) (noOpening : openings events = 0)
    (parts : partsIn events = partsIn a.handOut)
    (goesOn : b.state.isActive = true → b = a.flush) : a.Tells events b := by
  rw [partsIn_handOut] at parts
  split at parts
  · rename_i nothing
    refine .quiet parts noOpening fun still => ?_
    obtain rfl := goesOn still
    refine ⟨active, rfl, ?_, ?_⟩
    · simp only [flush, tell, nothing, List.length_nil, Nat.add_zero]
    · simp only [flush, tell, handOut, nothing, if_pos, List.length_nil, Nat.add_zero]
  · rename_i something
    refine .hands active noOpening parts fun still => ?_
    obtain rfl := goesOn still
    refine ⟨rfl, rfl, ?_⟩
    simp only [flush, tell, handOut, something, if_false, List.length_singleton]

theorem Act.tells (act : a.Act events b) : a.Tells events b := by
  cases act with
  | rests | notices | stalls => exact .quiet rfl rfl fun active => ⟨active, rfl, rfl, rfl⟩
  | begins waits =>
      exact .quiet rfl rfl fun _ => ⟨RecordingState.isActive_of_waits waits, rfl, rfl, rfl⟩
  | pauses records =>
      exact .quiet rfl rfl fun _ => ⟨RecordingState.isActive_of_records records, rfl, rfl, rfl⟩
  | hands records =>
      have active := RecordingState.isActive_of_records records
      exact tells_of_handOut active a.openings_handOut rfl fun _ => rfl
  | fails => exact .quiet rfl rfl nofun
  | opens isOver opened =>
      have inactive := inactive_of_isOver isOver
      rcases opened with rfl | rfl
      · exact .opens inactive rfl rfl fun _ => ⟨rfl, rfl⟩
      · exact .opens inactive rfl rfl fun _ => ⟨rfl, rfl⟩
  | refuses isOver failure => exact .opens (inactive_of_isOver isOver) rfl rfl nofun
  | stops active =>
      have parts := a.partsIn_finishing
      split at parts
      · exact tells_of_handOut active a.openings_finishing parts nofun
      · exact .quiet parts a.openings_finishing nofun
  | @drops state dropped =>
      unfold entering
      rcases dropped with rfl | rfl <;> split <;> exact .quiet rfl rfl nofun

/-! ## Numbers and contents -/

/-- The parts told so far follow one another, and while a recording goes on those of it reach up to
    the mark. -/
structure Numbered (a : Reel) : Prop where
  rises : (dated 0 a.log).Pairwise Precedes
  below : a.state.isActive = true → ∀ part ∈ partsOf (openings a.log) a.log,
    part.2 < a.nextSequence
  bytes : a.state.isActive = true →
    bytesOf (partsOf (openings a.log) a.log) = (a.chunks.take a.flushed).flatten
  bound : a.state.isActive = true → a.flushed ≤ a.chunks.length

/-- The parts of this recording are complete. -/
def IsOver (recording : Nat) (a : Reel) : Prop :=
  recording < openings a.log ∨ recording = openings a.log ∧ a.state.isActive = false

theorem Numbered.handedOut (numbered : a.Numbered) (active : a.state.isActive = true) :
    bytesOf (partsOf (openings a.log) a.log ++ [(Blob.concat a.pending Encoder.mimeType,
      a.nextSequence)]) = a.chunks.flatten := by
  rw [bytesOf_append, numbered.bytes active]
  calc (a.chunks.take a.flushed).flatten ++ [a.pending.flatten].flatten
      = (a.chunks.take a.flushed ++ a.chunks.drop a.flushed).flatten := by
        rw [List.flatten_append, List.flatten_singleton]
        rfl
    _ = a.chunks.flatten := by rw [List.take_append_drop]

theorem Numbered.act (numbered : a.Numbered) (act : a.Act events b) : b.Numbered := by
  have log := act.log
  cases act.tells with
  | quiet noPart noOpening goesOn =>
      have same : openings b.log = openings a.log := by
        rw [log, openings_append, noOpening, Nat.add_zero]
      have parts : dated 0 b.log = dated 0 a.log := by
        rw [log, dated_append, dated_of_no_part noPart, List.append_nil]
      constructor
      · rw [parts]
        exact numbered.rises
      all_goals
        intro still
        obtain ⟨active, chunks, flushed, next⟩ := goesOn still
      · rw [partsOf, same, parts, next]
        exact numbered.below active
      · rw [partsOf, same, parts, chunks, flushed]
        exact numbered.bytes active
      · rw [chunks, flushed]
        exact numbered.bound active
  | hands active noOpening part goesOn =>
      have same : openings b.log = openings a.log := by
        rw [log, openings_append, noOpening, Nat.add_zero]
      have parts : partsOf (openings b.log) b.log = partsOf (openings a.log) a.log ++
          [(Blob.concat a.pending Encoder.mimeType, a.nextSequence)] := by
        rw [same, log, partsOf_append_current noOpening, part]
      refine ⟨?_, ?_, ?_, ?_⟩
      · rw [log, dated_append, Nat.zero_add, dated_of_no_opening noOpening, part,
          List.pairwise_append]
        refine ⟨numbered.rises, List.pairwise_singleton _ _, fun earlier told latest isLatest => ?_⟩
        obtain rfl := List.mem_singleton.mp isLatest
        -- A part of the same recording has a number already taken; any other is of an earlier one.
        obtain ⟨-, bound⟩ := le_openings_of_mem told
        rw [Nat.zero_add] at bound
        rcases Nat.lt_or_eq_of_le bound with before | now
        · exact .inl before
        · refine .inr ⟨now, numbered.below active earlier.2 (mem_ofRecording.mpr ?_)⟩
          rw [← now]
          exact told
      all_goals
        intro still
        obtain ⟨chunks, flushed, next⟩ := goesOn still
      · rw [parts, next]
        intro other told
        rcases List.mem_append.mp told with before | new
        · exact Nat.lt_succ_of_lt (numbered.below active other before)
        · rw [List.mem_singleton.mp new]
          exact Nat.lt_succ_self _
      · have marked : a.flushed + a.pending.length = a.chunks.length :=
          flushed_flush (numbered.bound active)
        rw [parts, numbered.handedOut active, chunks, flushed, marked, List.take_length]
      · rw [chunks, flushed]
        exact Nat.le_of_eq (flushed_flush (numbered.bound active))
  | opens inactive noPart one cleared =>
      have parts : dated 0 b.log = dated 0 a.log := by
        rw [log, dated_append, dated_of_no_part noPart, List.append_nil]
      have none : partsOf (openings b.log) b.log = [] := by
        have later : openings a.log < openings b.log := by
          rw [log, openings_append, one]
          exact Nat.lt_succ_self _
        rw [partsOf, parts]
        exact partsOf_of_openings_lt later
      constructor
      · rw [parts]
        exact numbered.rises
      all_goals
        intro still
        obtain ⟨chunks, flushed⟩ := cleared still
      · rw [none]
        nofun
      · rw [none, chunks, flushed]
        rfl
      · rw [chunks, flushed]
        exact Nat.le_refl 0

theorem Numbered.run {seen : List Observation} (numbered : a.Numbered) (inStep : a.InStep)
    (run : a.Run seen b) : b.Numbered := by
  induction run with
  | rests => exact numbered
  | step run step ih =>
      cases step with
      | acts act => exact ih.act act
      | delivers running chunk =>
          have active := (run.inStep inStep).running running
          refine ⟨ih.rises, ih.below, fun _ => ?_, fun _ => ?_⟩
          · rw [ih.bytes active, List.take_append_of_le_length (ih.bound active)]
          · rw [List.length_append]
            exact Nat.le_add_right_of_le (ih.bound active)

/-- Nothing is added to a recording that is over. -/
theorem IsOver.act {recording : Nat} (isOver : a.IsOver recording) (act : a.Act events b) :
    b.IsOver recording ∧ partsOf recording b.log = partsOf recording a.log := by
  have log := act.log
  have count : openings b.log = openings a.log + openings events := by
    rw [log, openings_append]
  cases act.tells with
  | quiet noPart noOpening goesOn =>
      rw [noOpening, Nat.add_zero] at count
      constructor
      · rcases isOver with earlier | ⟨latest, inactive⟩
        · exact .inl (count ▸ earlier)
        · refine .inr ⟨count ▸ latest, ?_⟩
          rw [Bool.eq_false_iff]
          intro still
          cases inactive.symm.trans (goesOn still).1
      · rw [log]
        exact partsOf_append_of_over (.inl noPart)
  | hands active noOpening part goesOn =>
      rw [noOpening, Nat.add_zero] at count
      rcases isOver with earlier | ⟨-, inactive⟩
      · refine ⟨.inl (count ▸ earlier), ?_⟩
        rw [log]
        exact partsOf_append_of_over (.inr earlier)
      · cases inactive.symm.trans active
  | opens inactive noPart one cleared =>
      have known : recording ≤ openings a.log := by
        rcases isOver with earlier | ⟨latest, -⟩
        · exact Nat.le_of_lt earlier
        · exact Nat.le_of_eq latest
      refine ⟨.inl (by omega), ?_⟩
      rw [log]
      exact partsOf_append_of_over (.inl noPart)

theorem IsOver.run {recording : Nat} {seen : List Observation} (isOver : a.IsOver recording)
    (run : a.Run seen b) :
    b.IsOver recording ∧ partsOf recording b.log = partsOf recording a.log := by
  induction run with
  | rests => exact ⟨isOver, rfl⟩
  | step run step ih =>
      cases step with
      | acts act =>
          obtain ⟨still, same⟩ := ih.1.act act
          exact ⟨still, same.trans ih.2⟩
      | delivers running chunk => exact ih

end Reel

namespace Recorder

/-- A recording that is given out is over, and it is all its parts, if parts are handed out. -/
theorem partsOf_of_stop {r : Recorder} (inStep : r.reel.InStep) (numbered : r.reel.Numbered)
    (hands : r.options.handsOutChunks = true) {blob : Blob} (given : r.stop.2 = .ok blob) :
    r.stop.1.reel.IsOver (openings r.stop.1.log) ∧
      bytesOf (partsOf (openings r.stop.1.log) r.stop.1.log) = blob.data := by
  obtain ⟨active, rfl⟩ := recording_of_stop inStep given
  have ended := (stop_active inStep active).2
  have log : r.stop.1.log = r.log ++ r.reel.finishing := congrArg Reel.log ended
  have same : openings r.stop.1.log = openings r.log := by
    rw [log, openings_append, Reel.openings_finishing, Nat.add_zero]
  refine ⟨.inr ⟨rfl, inactive_stop r⟩, ?_⟩
  rw [same, log, partsOf_append_current r.reel.openings_finishing, Reel.partsIn_finishing,
    if_pos (show r.reel.handsOut = true from hands), Reel.partsIn_handOut]
  split
  · rename_i nothing
    have whole := numbered.bytes active
    rw [List.append_nil, show r.log = r.reel.log from rfl, whole]
    have all : r.reel.chunks.length ≤ r.reel.flushed := List.drop_eq_nil_iff.mp nothing
    rw [List.take_of_length_le all]
    rfl
  · exact numbered.handedOut active

theorem Fresh.numbered {r : Recorder} (fresh : r.Fresh) : r.reel.Numbered := by
  have inactive : r.reel.state.isActive = false := by
    rw [show r.reel.state = .idle from fresh.state]
    rfl
  have silent : r.reel.log = [] := fresh.log
  refine ⟨?_, fun active => ?_, fun active => ?_, fun active => ?_⟩
  · rw [silent]
    exact .nil
  all_goals cases inactive.symm.trans active

end Recorder

end Viva
