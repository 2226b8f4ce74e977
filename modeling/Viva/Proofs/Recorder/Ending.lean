import Viva.Proofs.Recorder.Handout
import Viva.Proofs.Recorder.Metering
import Viva.Proofs.Recorder.Pausing

/-! # How a recording ends

What is given out at the end of a recording, how long it has lasted then and which parts of it were
handed out depends on what was recorded. So it makes no difference whether a recording is paused
before it is stopped (`same_ending_after_pause`).
-/

namespace Viva

/-- A part of a recording that is handed out, and its number. -/
def RecordingEvent.part? : RecordingEvent → Option (Blob × Nat)
  | .chunkReady blob sequence => some (blob, sequence)
  | _ => none

def partsIn (log : List RecordingEvent) : List (Blob × Nat) := log.filterMap RecordingEvent.part?

theorem partsIn_append (log more : List RecordingEvent) :
    partsIn (log ++ more) = partsIn log ++ partsIn more :=
  List.filterMap_append

namespace Reel

/-- The same has been recorded and handed out. -/
structure Alike (a b : Reel) : Prop where
  handsOut : b.handsOut = a.handsOut
  chunks : b.chunks = a.chunks
  flushed : b.flushed = a.flushed
  nextSequence : b.nextSequence = a.nextSequence
  parts : partsIn b.log = partsIn a.log

variable {a b : Reel}

theorem partsIn_finishing (a : Reel) :
    partsIn a.finishing = if a.handsOut then partsIn a.handOut else [] := by
  rw [finishing, partsIn_append, partsIn_append]
  split
  · exact List.append_nil _
  · rfl

theorem log_finish (a : Reel) : a.finish.log = a.log ++ a.finishing := rfl

theorem Alike.finish (alike : a.Alike b) : partsIn b.finish.log = partsIn a.finish.log := by
  have pending : b.pending = a.pending := by rw [Reel.pending, Reel.pending, alike.chunks, alike.flushed]
  have handOut : b.handOut = a.handOut := by
    rw [Reel.handOut, Reel.handOut, pending, alike.nextSequence]
  rw [log_finish, log_finish, partsIn_append, partsIn_append, partsIn_finishing, partsIn_finishing,
    alike.parts, alike.handsOut, handOut]

end Reel

namespace Recorder

/-- The same has been recorded, for as long. -/
structure Alike (r r' : Recorder) : Prop where
  reel : r.reel.Alike r'.reel
  duration : r'.duration = r.duration

section
variable {r r' r'' : Recorder}

/-! ## The end -/

/-- Nothing is due to a recorder whose recording is over. -/
theorem settle_of_inactive (armed : r.Armed) (inStep : r.reel.InStep)
    (inactive : r.state.isActive = false) : r.settle = r := by
  have idle (job : Job) : r.timers.of job = none :=
    armed.of_eq_none job fun belongs => by
      have active := belongs.lasts.isActive
      rw [inactive] at active
      cases active
  have still : r.capture.encoder.run = none := by
    rw [← Option.not_isSome_iff_eq_none]
    intro running
    have active := inStep.running running
    rw [show r.reel.state.isActive = false from inactive] at active
    cases active
  refine settle_of_punctual ⟨fun job due isDue => ?_, ?_, ?_⟩
  · have isSet : r.timers.of job = some due := by
      cases job with
      | faults => cases isDue
      | _ => exact isDue
    cases (idle job).symm.trans isSet
  · intro due isDue
    rw [Encoder.nextDue, still] at isDue
    cases isDue
  · intro mark isSet
    cases (idle .handOut).symm.trans isSet

theorem duration_stop (r : Recorder) : r.stop.1.duration = r.duration := by
  rcases meter_stop r with same | suspended
  · exact congrArg Meter.duration same
  · exact congrArg Meter.duration suspended

/-- What a recorder that holds a recording has given out, told and counted once it is stopped. -/
theorem AtRest.stopped (atRest : r.AtRest) (active : r.state.isActive = true) :
    (r.perform .stop).2 = .recording (Blob.concat r.capture.chunks Encoder.mimeType) ∧
      (r.step .stop).reel = r.reel.finish ∧ (r.step .stop).duration = r.duration := by
  have timeless : ∀ ms, Input.stop ≠ .elapse ms := nofun
  obtain ⟨gives, ended⟩ := stop_active atRest.inStep active
  obtain ⟨armed, -, -⟩ := atRest.operate timeless
  obtain ⟨events, act⟩ := act_operate atRest.inStep .stop
  have still : r.step .stop = r.stop.1 := by
    rw [atRest.step_eq timeless]
    exact settle_of_inactive armed (act.inStep atRest.inStep) (inactive_stop r)
  rw [still]
  exact ⟨(reply_stop r _).mpr gives, ended, duration_stop r⟩

/-- Two recorders that have recorded the same end alike. -/
theorem Alike.stopped (alike : r.Alike r') (atRest : r.AtRest) (atRest' : r'.AtRest)
    (active : r.state.isActive = true) (active' : r'.state.isActive = true) :
    (r'.perform .stop).2 = (r.perform .stop).2 ∧
      (r'.step .stop).duration = (r.step .stop).duration ∧
      partsIn (r'.step .stop).log = partsIn (r.step .stop).log := by
  obtain ⟨gives, ended, duration⟩ := atRest.stopped active
  obtain ⟨gives', ended', duration'⟩ := atRest'.stopped active'
  have chunks : r'.capture.chunks = r.capture.chunks := alike.reel.chunks
  have parts : partsIn (r'.step .stop).reel.log = partsIn (r.step .stop).reel.log := by
    rw [ended, ended']
    exact alike.reel.finish
  refine ⟨?_, ?_, parts⟩
  · rw [gives, gives', chunks]
  · rw [duration, duration', alike.duration]

/-! ## The pause before it -/

theorem Rests.alike (rests : r'.Rests r'') (alike : r.Alike r') (still : r'.activeSince = none) :
    r.Alike r'' where
  reel := rests.reel ▸ alike.reel
  duration := by
    rw [← alike.duration, duration, duration, rests.activeSince, rests.accumulated, still]

/-- A recorder that pauses has recorded the same, and its time stands still. -/
theorem alike_halt (inStep : r.reel.InStep) (records : r.state = .recording) (byPage : Bool) :
    r.Alike (r.halt byPage) ∧ (r.halt byPage).activeSince = none := by
  have captures : r.suspend.reel.capture = .recording := by
    rw [show r.suspend.reel.capture = r.reel.capture from rfl, inStep.capture,
      show r.reel.state = .recording from records]
    rfl
  have paused : (r.halt byPage).reel = { r.reel with capture := .paused }.enter .paused := by
    rw [halt, reel_setState]
    exact congrArg (Reel.enter · .paused) (reel_pauseCapture captures)
  have ne : r.reel.state ≠ .paused := by
    rw [show r.reel.state = .recording from records]
    decide
  rw [Reel.enter_of_ne (by exact ne)] at paused
  have still : (r.halt byPage).activeSince = none := congrArg Recorder.activeSince (setState_eq _ _)
  have accumulated : (r.halt byPage).accumulated = r.duration :=
    congrArg Recorder.accumulated (setState_eq _ _)
  refine ⟨⟨?_, ?_⟩, still⟩
  · rw [paused]
    refine ⟨rfl, rfl, rfl, rfl, ?_⟩
    exact (partsIn_append _ _).trans (List.append_nil _)
  · rw [duration, still, accumulated]

theorem halts_of_either (records : r.state = .recording) {pauses : Input}
    (either : pauses = .pause ∨ pauses = .setVisibility .hidden) :
    (∀ ms, pauses ≠ .elapse ms) ∧ ∃ byPage, r.operate pauses = r.halt byPage := by
  rcases either with rfl | rfl
  · exact ⟨nofun, false, operate_pause records⟩
  · exact ⟨nofun, true, operate_hidden records⟩

/-- A recording that is paused, however and for however long, and then stopped ends as if it had been
    stopped when it was paused: the same is given out, it has lasted as long, and the same parts of it
    were handed out in all. -/
theorem same_ending_after_pause (isNew : r.New) (before : List Input)
    (records : (r.run before).state = .recording) {pauses : Input}
    (either : pauses = .pause ∨ pauses = .setVisibility .hidden) :
    let direct := r.run before
    let paused := direct.step pauses
    (∀ ms, paused.Throughout (·.state = .paused) [.elapse ms]) ∧
      ∀ meanwhile, paused.Throughout (·.state = .paused) meanwhile →
        let later := paused.run meanwhile
        ∃ blob, (direct.perform .stop).2 = .recording blob ∧
          (later.perform .stop).2 = .recording blob ∧
          (later.step .stop).snapshot.duration = (direct.step .stop).snapshot.duration ∧
          partsIn (later.step .stop).log = partsIn (direct.step .stop).log := by
  intro direct paused
  have atRest : direct.AtRest := atRest_run isNew before
  have rests : paused.AtRest := atRest.step pauses
  obtain ⟨timeless, byPage, halts⟩ := halts_of_either records either
  obtain ⟨pausing, halted⟩ := atRest.begins_pause timeless halts
  obtain ⟨alike, still⟩ := alike_halt atRest.inStep records byPage
  constructor
  · exact fun ms => (rests.throughout_paused pausing [.elapse ms]).mpr ⟨_, rfl⟩
  · intro meanwhile lasts later
    obtain ⟨last, follows⟩ := (rests.throughout_paused pausing meanwhile).mp lasts
    obtain ⟨pausing, goesOn⟩ := rests.pausing_run pausing follows
    have same : direct.Alike later := (halted.trans goesOn).alike alike still
    have active : direct.state.isActive = true := RecordingState.isActive_of_records records
    have active' : later.state.isActive = true :=
      RecordingState.isActive_of_waits (.inr (pausing_eq_some.mp pausing).1)
    obtain ⟨gives, duration, parts⟩ := same.stopped atRest (rests.run meanwhile) active active'
    have given := (atRest.stopped active).1
    exact ⟨_, given, gives.trans given, duration, parts⟩

theorem same_ending_after_hidden_page :
    let r : Recorder :=
      { options := { chunkInterval := 2 }, capture := { encoder := { timeslice := 1 } } }
    let direct := r.run [.start, .elapse 3]
    let later := (direct.step (.setVisibility .hidden)).run [.elapse 5]
    ∃ blob, (direct.perform .stop).2 = .recording blob ∧
      (later.perform .stop).2 = .recording blob ∧
      (later.step .stop).snapshot.duration = (direct.step .stop).snapshot.duration ∧
      partsIn (later.step .stop).log = partsIn (direct.step .stop).log := by
  intro r direct later
  have isNew : r.New := Recorder.isNew { chunkInterval := 2 } 1
  obtain ⟨lasts, same⟩ := same_ending_after_pause isNew [.start, .elapse 3]
    (by decide +kernel) (.inr rfl)
  exact same [.elapse 5] (lasts 5)

end

end Recorder

end Viva
