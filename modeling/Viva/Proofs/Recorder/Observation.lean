import Viva.Proofs.Media.Encoding
import Viva.Proofs.Recorder.Reel

/-! # What can be observed of a recorder

Next to what a recorder tells there is what its encoder delivers to it. `Recorder.observe` gives both
in the order in which they happen while the recorder takes an input, however much is due on the
way. A `Reel.Run` is what happens to the reel at the same time: acts, and deliveries of the encoder.
-/

namespace Viva

inductive Observation where
  | told (event : RecordingEvent)
  | delivered (chunk : Chunk)
  deriving DecidableEq

namespace Observation

def event? : Observation → Option RecordingEvent
  | told event => some event
  | delivered _ => none

def chunk? : Observation → Option Chunk
  | told _ => none
  | delivered chunk => some chunk

end Observation

/-! ## Runs of a reel -/

namespace Reel

inductive Step (a : Reel) : List Observation → Reel → Prop where
  | acts {events : List RecordingEvent} {b : Reel} (act : a.Act events b) :
      Step a (events.map .told) b
  | delivers (running : a.running = true) (chunk : Chunk) :
      Step a [.delivered chunk] { a with chunks := a.chunks ++ [chunk] }

inductive Run (a : Reel) : List Observation → Reel → Prop where
  | rests : Run a [] a
  | step {seen more : List Observation} {b c : Reel} (run : Run a seen b) (step : b.Step more c) :
      Run a (seen ++ more) c

theorem Step.run {a b : Reel} {seen : List Observation} (step : a.Step seen b) : a.Run seen b :=
  .step .rests step

theorem Run.trans {a b c : Reel} {seen more : List Observation} (first : a.Run seen b)
    (second : b.Run more c) : a.Run (seen ++ more) c := by
  induction second with
  | rests =>
      rw [List.append_nil]
      exact first
  | step run step ih =>
      rw [← List.append_assoc]
      exact .step ih step

theorem Step.inStep {a b : Reel} {seen : List Observation} (step : a.Step seen b)
    (inStep : a.InStep) : b.InStep := by
  cases step with
  | acts act => exact act.inStep inStep
  | delivers running chunk => exact ⟨inStep.capture, inStep.running⟩

theorem Run.inStep {a b : Reel} {seen : List Observation} (run : a.Run seen b)
    (inStep : a.InStep) : b.InStep := by
  induction run with
  | rests => exact inStep
  | step run step ih => exact step.inStep ih

theorem Run.log {a b : Reel} {seen : List Observation} (run : a.Run seen b) :
    b.log = a.log ++ seen.filterMap Observation.event? := by
  induction run with
  | rests => exact (List.append_nil _).symm
  | step run step ih =>
      rw [List.filterMap_append, ← List.append_assoc, ← ih]
      cases step with
      | @acts events _ act =>
          have events_told : (events.map Observation.told).filterMap Observation.event? = events := by
            rw [List.filterMap_map]
            exact List.filterMap_some
          rw [act.log, events_told]
      | delivers running chunk => exact (List.append_nil _).symm

theorem Run.handsOut {a b : Reel} {seen : List Observation} (run : a.Run seen b) :
    b.handsOut = a.handsOut := by
  induction run with
  | rests => rfl
  | step run step ih =>
      cases step with
      | acts act => exact act.handsOut.trans ih
      | delivers running chunk => exact ih

end Reel

namespace Recorder

/-! ## What is due -/

/-- Tells that the limit is reached, now that its time has come. -/
def tellLimit (r : Recorder) : Recorder :=
  let r := { r with timers := { r.timers with maxDuration := none } }
  if r.state == .recording && !r.limitReached then
    { r with limitReached := true }.emit .maxDurationReached
  else r

/-- Hands out chunks, to do so again at `next`. -/
def handOutAgain (r : Recorder) (next : Nat) : Recorder :=
  { r with timers := { r.timers with chunkFlush := some next } }.flushPending

/-- Goes on, now that the page has been visible long enough. -/
def goOn (r : Recorder) : Recorder :=
  let r := { r with timers := r.timers.withoutResume }
  if r.state == .paused && r.pausedByVisibility then
    { r with pausedByVisibility := false }.resumeCapture.beginActive
  else r

/-- Ends with a fault that was waited for. -/
def hearFault (r : Recorder) (failure : Failure) : Recorder :=
  let r := { r with timers := { r.timers with faultWatch := none } }
  if r.state.isActive then r.fail failure else r

theorem fireResume_eq (r : Recorder) :
    r.fireResume = if r.isDue r.timers.visibilityResume then r.goOn else r := rfl

theorem fireLimit_eq (r : Recorder) :
    r.fireLimit = if r.isDue r.timers.maxDuration then r.tellLimit else r := rfl

theorem takeFault_eq (r : Recorder) (failure : Failure) :
    r.takeFault failure = if r.timers.faultWatch.isSome then r.hearFault failure else r := rfl

theorem fireEncoder_eq (r : Recorder) :
    r.fireEncoder = match r.capture.fire.2 with
      | some failure => { r with capture := r.capture.fire.1 }.takeFault failure
      | none => { r with capture := r.capture.fire.1 } := rfl

theorem act_goOn {r : Recorder} (inStep : r.reel.InStep) :
    ∃ events, r.reel.Act events r.goOn.reel := by
  unfold goOn
  dsimp only
  split
  · rename_i hidden
    have paused : r.state = .paused := beq_iff_eq.mp (Bool.and_eq_true_iff.mp hidden).1
    exact ⟨_, act_begun (r := { r with
      pausedByVisibility := false
      timers := r.timers.withoutResume }) inStep (.inr paused)⟩
  · exact ⟨_, .rests⟩

theorem act_fireResume {r : Recorder} (inStep : r.reel.InStep) :
    ∃ events, r.reel.Act events r.fireResume.reel := by
  rw [fireResume_eq]
  split
  · exact act_goOn inStep
  · exact ⟨_, .rests⟩

theorem act_tellLimit (r : Recorder) : ∃ events, r.reel.Act events r.tellLimit.reel := by
  unfold tellLimit
  dsimp only
  split
  · rename_i reached
    exact ⟨_, .notices (beq_iff_eq.mp (Bool.and_eq_true_iff.mp reached).1)⟩
  · exact ⟨_, .rests⟩

theorem act_fireLimit (r : Recorder) : ∃ events, r.reel.Act events r.fireLimit.reel := by
  rw [fireLimit_eq]
  split
  · exact act_tellLimit r
  · exact ⟨_, .rests⟩

theorem act_handOutAgain {r : Recorder} (records : r.state = .recording) (next : Nat) :
    ∃ events, r.reel.Act events (r.handOutAgain next).reel := by
  rw [handOutAgain, reel_flushPending]
  exact ⟨_, .hands (a := r.reel) records⟩

theorem act_fireFlush (r : Recorder) : ∃ events, r.reel.Act events r.fireFlush.reel := by
  unfold fireFlush
  split
  · split
    · split
      · rename_i records
        exact act_handOutAgain (beq_iff_eq.mp records) _
      · exact ⟨_, .rests⟩
    · exact ⟨_, .rests⟩
  · exact ⟨_, .rests⟩

theorem act_hearFault {r : Recorder} (inStep : r.reel.InStep) (failure : Failure) :
    ∃ events, r.reel.Act events (r.hearFault failure).reel := by
  unfold hearFault
  dsimp only
  split
  · rename_i active
    have ne : r.reel.state ≠ .error := by
      intro state
      rw [show r.state = .error from state] at active
      cases active
    rw [reel_fail (r := { r with timers := { r.timers with faultWatch := none } }) inStep.still,
      Reel.enter_of_ne (by exact ne), Reel.tell_tell]
    exact ⟨_, .fails active failure⟩
  · exact ⟨_, .rests⟩

/-- A fault ends the recording if the run of the encoder is watched. -/
theorem act_takeFault {r : Recorder} (inStep : r.reel.InStep) (failure : Failure) :
    ∃ events, r.reel.Act events (r.takeFault failure).reel := by
  rw [takeFault_eq]
  split
  · exact act_hearFault inStep failure
  · exact ⟨_, .rests⟩

/-- What an encoder does at the end of a timeslice, as far as anybody can see. -/
inductive Fired (before after : Encoder) : Option (Except Failure Chunk) → Prop where
  | nothing (same : after.run.isSome = before.run.isSome) : Fired before after none
  | chunk (chunk : Chunk) (running : before.run.isSome = true) (goesOn : after.run.isSome = true) :
      Fired before after (some (.ok chunk))
  | fault (failure : Failure) (stopped : after.run.isSome = false) :
      Fired before after (some (.error failure))

theorem fired_fire (encoder : Encoder) : Fired encoder encoder.fire.1 encoder.fire.2 := by
  have fires := encoder.fires
  generalize encoder.fire = fired at fires ⊢
  cases fires with
  | rests => exact .nothing rfl
  | crashes => exact .fault _ rfl
  | skips running => exact .nothing (Option.isSome_of_mem running).symm
  | delivers running => exact .chunk _ (Option.isSome_of_mem running) rfl

/-- What the encoder delivers if its timeslice may end now. -/
def delivery (r : Recorder) : List Observation :=
  match r.capture.encoder.fire.2 with
  | some (.ok chunk) => [.delivered chunk]
  | _ => []

/-- What was told from one moment to a later one. -/
def told (before after : Recorder) : List Observation :=
  (after.log.drop before.log.length).map .told

theorem told_of_act {r r' : Recorder} {events : List RecordingEvent}
    (act : r.reel.Act events r'.reel) : r.told r' = events.map .told := by
  have log : r'.log = r.log ++ events := act.log
  rw [told, log, List.drop_left]

theorem run_of_act {r r' : Recorder} (act : ∃ events, r.reel.Act events r'.reel) :
    r.reel.Run (r.told r') r'.reel := by
  obtain ⟨events, act⟩ := act
  rw [told_of_act act]
  exact Reel.Step.run (.acts act)

theorem told_append {r r' r'' : Recorder} {seen more : List Observation}
    (first : r.reel.Run seen r'.reel) (second : r'.reel.Run more r''.reel) :
    r.told r' ++ r'.told r'' = r.told r'' := by
  have log : r'.log = r.log ++ seen.filterMap Observation.event? := first.log
  have log' : r''.log = r'.log ++ more.filterMap Observation.event? := second.log
  rw [told, told, told, log', List.drop_left, log, List.drop_left, List.append_assoc,
    List.drop_left, List.map_append]

theorem step_fire (r : Recorder) :
    r.reel.Step r.delivery { r with capture := r.capture.fire.1 }.reel := by
  have fired := fired_fire r.capture.encoder
  unfold delivery Capture.fire
  generalize r.capture.encoder.fire = after at fired ⊢
  obtain ⟨encoder, item⟩ := after
  dsimp only at fired ⊢
  cases fired with
  | nothing same =>
      have rests : { r with capture := { r.capture with encoder } }.reel = r.reel := by
        simp only [reel, same]
      rw [rests]
      exact .acts .rests
  | chunk chunk running goesOn =>
      have delivered : { r with capture := { r.capture with
          encoder, chunks := r.capture.chunks ++ [chunk] } }.reel =
          { r.reel with chunks := r.reel.chunks ++ [chunk] } := by
        simp only [reel, goesOn, running]
      rw [delivered]
      exact .delivers running chunk
  | fault failure stopped =>
      have stalled : { r with capture := { r.capture with
          encoder, faults := r.capture.faults ++ [(r.capture.runs - 1, failure)] } }.reel =
          { r.reel with running := false } := by
        simp only [reel, stopped]
      rw [stalled]
      exact .acts .stalls

theorem run_fireEncoder {r : Recorder} (inStep : r.reel.InStep) :
    r.reel.Run (r.delivery ++ r.told r.fireEncoder) r.fireEncoder.reel := by
  have fired := step_fire r
  have heard : ∃ events,
      { r with capture := r.capture.fire.1 }.reel.Act events r.fireEncoder.reel := by
    rw [fireEncoder_eq]
    split
    · exact act_takeFault (fired.inStep inStep) _
    · exact ⟨_, .rests⟩
  exact fired.run.trans (run_of_act heard)

/-! ## What there is to observe -/

/-- What happens when the recorder settles. -/
def observeSettling (r : Recorder) : List Observation :=
  let waiting := r.fireResume.fireLimit.fireFlush
  r.told waiting ++ waiting.delivery ++ waiting.told waiting.fireEncoder

/-- What happens when the recorder has become another by an operation, and settles. -/
def observeFrom (before after : Recorder) : List Observation :=
  before.told after ++ after.observeSettling

/-- What happens up to a time, at up to `count` points. -/
def observeUntil (time : Nat) (r : Recorder) : Nat → List Observation
  | 0 => []
  | count + 1 =>
    match r.nextDue with
    | some due =>
      if due ≤ time then
        (r.advanceTo due).observeSettling ++ observeUntil time (r.advanceTo due).settle count
      else []
    | none => []

/-- What happens when the recorder takes an input. -/
def observe (r : Recorder) : Input → List Observation
  | .prepare => r.observeFrom r.prepare.1
  | .start => r.observeFrom r.start.1
  | .stop => r.observeFrom r.stop.1
  | .pause => r.observeFrom r.pause
  | .resume => r.observeFrom r.resume
  | .setVisibility visibility => r.observeFrom (r.setVisibility visibility)
  | .abandon => r.observeFrom r.abandon
  | .reset => r.observeFrom r.reset
  | .setAudio _ | .share _ | .setOutcome _ => []
  | .elapse ms => observeUntil (r.now + ms) r ms

def observeAll (r : Recorder) : List Input → List Observation
  | [] => []
  | input :: rest => r.observe input ++ (r.step input).observeAll rest

theorem run_settle {r : Recorder} (inStep : r.reel.InStep) :
    r.reel.Run r.observeSettling r.settle.reel := by
  have resumed := run_of_act (act_fireResume inStep)
  have limited := run_of_act (act_fireLimit r.fireResume)
  have flushed := run_of_act (act_fireFlush r.fireResume.fireLimit)
  have waiting := (resumed.trans limited).trans flushed
  rw [told_append resumed limited, told_append (resumed.trans limited) flushed] at waiting
  -- Only the encoder delivers, and it comes last, so what is told before it is one stretch of the log.
  have fired := waiting.trans (run_fireEncoder (waiting.inStep inStep))
  rw [← List.append_assoc] at fired
  exact fired

theorem run_advance (time : Nat) {r : Recorder} (inStep : r.reel.InStep) (count : Nat) :
    r.reel.Run (observeUntil time r count) (advance time r count).reel := by
  induction count generalizing r with
  | zero => exact .rests
  | succ count ih =>
      cases next : r.nextDue with
      | none =>
          simp only [observeUntil, advance, next]
          exact .rests
      | some due =>
          simp only [observeUntil, advance, next]
          split
          · have settled := run_settle (r := r.advanceTo due) inStep
            exact settled.trans (ih (settled.inStep inStep))
          · exact .rests

theorem run_observeFrom {r r' : Recorder} (inStep : r.reel.InStep)
    (act : ∃ events, r.reel.Act events r'.reel) :
    r.reel.Run (r.observeFrom r') r'.settle.reel := by
  have acted := run_of_act act
  exact acted.trans (run_settle (acted.inStep inStep))

theorem run_observe {r : Recorder} (inStep : r.reel.InStep) (input : Input) :
    r.reel.Run (r.observe input) (r.step input).reel := by
  cases input with
  | prepare => exact run_observeFrom inStep (act_prepare inStep)
  | start => exact run_observeFrom inStep (act_start inStep)
  | stop => exact run_observeFrom inStep (act_stop inStep)
  | pause => exact run_observeFrom inStep (act_pause inStep)
  | resume => exact run_observeFrom inStep (act_resume inStep)
  | setVisibility visibility => exact run_observeFrom inStep (act_setVisibility inStep visibility)
  | abandon => exact run_observeFrom inStep (act_abandon inStep)
  | reset => exact run_observeFrom inStep (act_reset inStep)
  | setAudio | share | setOutcome => exact .rests
  | elapse ms => exact run_advance _ inStep ms

theorem run_observeAll {r : Recorder} (inStep : r.reel.InStep) (inputs : List Input) :
    r.reel.Run (r.observeAll inputs) (r.run inputs).reel := by
  induction inputs generalizing r with
  | nil => exact .rests
  | cons input rest ih =>
      have first := run_observe inStep input
      exact first.trans (ih (first.inStep inStep))

/-- All that is told is observed, in its order. -/
theorem log_run {r : Recorder} (inStep : r.reel.InStep) (inputs : List Input) :
    (r.run inputs).log = r.log ++ (r.observeAll inputs).filterMap Observation.event? :=
  (run_observeAll inStep inputs).log

/-! ## Recorders that have not recorded -/

/-- A recorder that has never been used; its devices and its options are up to its host. -/
structure Fresh (r : Recorder) : Prop where
  state : r.state = .idle
  capture : r.capture.state = .inactive
  encoder : r.capture.encoder.run = none
  chunks : r.capture.chunks = []
  flushed : r.flushed = 0
  nextSequence : r.nextSequence = 0
  log : r.log = []

theorem Fresh.inStep {r : Recorder} (fresh : r.Fresh) : r.reel.InStep where
  capture := by
    change r.capture.state = r.state.capturing
    rw [fresh.capture, fresh.state]
    rfl
  running := by
    change r.capture.encoder.run.isSome = true → _
    rw [fresh.encoder]
    nofun

end Recorder

end Viva
