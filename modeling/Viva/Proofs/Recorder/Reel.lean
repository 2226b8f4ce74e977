import Viva.Proofs.Media.Encoding
import Viva.Recorder.Clock

/-! # What a recorder records

Much of a recorder is about time and devices. What it records and hands out does not depend on
them once it is known what happened: a `Reel` is a recorder without its times, timers and devices,
and `Reel.Act` says once what a recorder can do to it. Every operation, and everything that is due at
some time, is one such act, as long as the encoder does what the state of the recorder says
(`Reel.InStep`); and acts keep it so.
-/

namespace Viva

/-- What the capture does while the recorder is settled in a state. -/
def RecordingState.capturing : RecordingState → CaptureState
  | recording => .recording
  | ready | paused => .paused
  | _ => .inactive

theorem RecordingState.isActive_of_waits {state : RecordingState}
    (waits : state = .ready ∨ state = .paused) : state.isActive = true := by
  rcases waits with rfl | rfl <;> rfl

theorem RecordingState.isActive_of_opened {state : RecordingState}
    (opened : state = .ready ∨ state = .recording) : state.isActive = true := by
  rcases opened with rfl | rfl <;> rfl

theorem RecordingState.isActive_of_records {state : RecordingState} (records : state = .recording) :
    state.isActive = true := by
  rw [records]
  rfl

structure Reel where
  /-- Chunks are handed out as they come. -/
  handsOut : Bool
  state : RecordingState
  capture : CaptureState
  /-- The encoder is at work, be it paused. -/
  running : Bool
  chunks : List Chunk
  flushed : Nat
  nextSequence : Nat
  log : List RecordingEvent

def Recorder.reel (r : Recorder) : Reel where
  handsOut := r.options.handsOutChunks
  state := r.state
  capture := r.capture.state
  running := r.capture.encoder.run.isSome
  chunks := r.capture.chunks
  flushed := r.flushed
  nextSequence := r.nextSequence
  log := r.log

namespace Reel

def tell (a : Reel) (events : List RecordingEvent) : Reel :=
  { a with log := a.log ++ events }

/-- What is told when the state is entered: nothing by a recorder that is in it already. -/
def entering (a : Reel) (state : RecordingState) : List RecordingEvent :=
  if a.state = state then [] else [.stateChanged state]

def enter (a : Reel) (state : RecordingState) : Reel :=
  { a with state }.tell (a.entering state)

/-- The state changes, and the capture follows. -/
def move (a : Reel) (state : RecordingState) : Reel :=
  { a with state, capture := state.capturing }

/-- The chunks that were not handed out yet. -/
def pending (a : Reel) : List Chunk := a.chunks.drop a.flushed

/-- The hand-out of what is pending, if there is anything. -/
def handOut (a : Reel) : List RecordingEvent :=
  if a.pending = [] then []
  else [.chunkReady (Blob.concat a.pending Encoder.mimeType) a.nextSequence]

def flush (a : Reel) : Reel :=
  { a with
    flushed := a.flushed + a.pending.length
    nextSequence := a.nextSequence + a.handOut.length }.tell a.handOut

/-- Nothing is recorded any more, and nothing of it is left. -/
def wipe (a : Reel) : Reel :=
  { a with capture := .inactive, running := false, chunks := [] }

/-- Nothing is left of the counters either. -/
def clear (a : Reel) : Reel :=
  { a.wipe with flushed := 0, nextSequence := 0 }

/-- What is told when the recording ends. What is pending goes out if chunks are handed out at
    all. -/
def finishing (a : Reel) : List RecordingEvent :=
  [.stateChanged .stopping] ++ (if a.handsOut then a.handOut else []) ++ [.stateChanged .completed]

def finish (a : Reel) : Reel :=
  let b := if a.handsOut then a.flush else a
  ({ b with running := false, log := a.log }.move .completed).tell a.finishing

/-- The encoder does what the state says. -/
structure InStep (a : Reel) : Prop where
  capture : a.capture = a.state.capturing
  running : a.running = true → a.state.isActive = true

/-- What a recorder can do, and what it tells of it. -/
inductive Act (a : Reel) : List RecordingEvent → Reel → Prop where
  | rests : Act a [] a
  | notices (records : a.state = .recording) :
      Act a [.maxDurationReached] (a.tell [.maxDurationReached])
  | begins (waits : a.state = .ready ∨ a.state = .paused) :
      Act a [.stateChanged .recording] ((a.move .recording).tell [.stateChanged .recording])
  | pauses (records : a.state = .recording) :
      Act a [.stateChanged .paused] ((a.move .paused).tell [.stateChanged .paused])
  | hands (records : a.state = .recording) : Act a a.handOut a.flush
  /-- The encoder stops by itself, and nobody hears why. -/
  | stalls : Act a [] { a with running := false }
  | fails (active : a.state.isActive = true) (failure : Failure) :
      Act a [.stateChanged .error, .failed failure]
        ((a.wipe.move .error).tell [.stateChanged .error, .failed failure])
  | opens (isOver : a.state.isOver = true) {state : RecordingState}
      (opened : state = .ready ∨ state = .recording) :
      Act a [.stateChanged .initializing, .stateChanged state]
        (({ a.clear with running := true }.move state).tell
          [.stateChanged .initializing, .stateChanged state])
  | refuses (isOver : a.state.isOver = true) (failure : Failure) :
      Act a [.stateChanged .initializing, .stateChanged .error, .failed failure]
        ((a.clear.move .error).tell
          [.stateChanged .initializing, .stateChanged .error, .failed failure])
  | stops (active : a.state.isActive = true) : Act a a.finishing a.finish
  | drops {state : RecordingState} (dropped : state = .idle ∨ state = .abandoned) :
      Act a (a.entering state) ((a.clear.move state).tell (a.entering state))

theorem tell_tell (a : Reel) (events more : List RecordingEvent) :
    (a.tell events).tell more = a.tell (events ++ more) := by
  simp only [tell, List.append_assoc]

theorem enter_of_ne {a : Reel} {state : RecordingState} (other : a.state ≠ state) :
    a.enter state = { a with state }.tell [.stateChanged state] := by
  rw [enter, entering, if_neg other]

/-- What is told goes to the end of the log. -/
theorem Act.log {a b : Reel} {events : List RecordingEvent} (act : a.Act events b) :
    b.log = a.log ++ events := by
  cases act with
  | rests | stalls => exact (List.append_nil _).symm
  | _ => rfl

theorem Act.handsOut {a b : Reel} {events : List RecordingEvent} (act : a.Act events b) :
    b.handsOut = a.handsOut := by
  cases act with
  | stops active =>
      simp only [finish]
      split <;> rfl
  | _ => rfl

/-- A capture that is inactive has an encoder that is not at work. -/
theorem InStep.still {a : Reel} (inStep : a.InStep) (inactive : a.capture = .inactive) :
    a.running = false := by
  rw [Bool.eq_false_iff]
  intro running
  have active := inStep.running running
  have captures := inStep.capture
  rw [inactive] at captures
  cases state : a.state <;> simp [state, RecordingState.isActive, RecordingState.capturing] at *

theorem Act.inStep {a b : Reel} {events : List RecordingEvent} (act : a.Act events b)
    (inStep : a.InStep) : b.InStep := by
  cases act with
  | rests | notices | hands => exact ⟨inStep.capture, inStep.running⟩
  | begins | pauses => exact ⟨rfl, fun _ => rfl⟩
  | stalls => exact ⟨inStep.capture, nofun⟩
  | opens isOver opened => exact ⟨rfl, fun _ => RecordingState.isActive_of_opened opened⟩
  | fails | refuses | stops | drops => exact ⟨rfl, nofun⟩

end Reel

namespace Recorder

/-! ## What the parts of an operation do to the reel -/

theorem reel_emit (r : Recorder) (event : RecordingEvent) :
    (r.emit event).reel = r.reel.tell [event] := rfl

theorem setState_eq (r : Recorder) (state : RecordingState) :
    r.setState state = { r with state, log := r.log ++ r.reel.entering state } := by
  unfold setState Reel.entering
  split
  · rename_i same
    rw [if_pos (show r.reel.state = state from beq_iff_eq.mp same), List.append_nil,
      ← beq_iff_eq.mp same]
  · rename_i other
    have ne : r.reel.state ≠ state := fun same => other (beq_iff_eq.mpr same)
    rw [if_neg ne]
    rfl

theorem reel_setState (r : Recorder) (state : RecordingState) :
    (r.setState state).reel = r.reel.enter state := by
  rw [setState_eq]
  rfl

theorem capture_setState (r : Recorder) (state : RecordingState) :
    (r.setState state).capture = r.capture := by
  rw [setState_eq]

theorem timers_setState (r : Recorder) (state : RecordingState) :
    (r.setState state).timers = r.timers := by
  rw [setState_eq]

theorem reel_armLimit (r : Recorder) : r.armLimit.reel = r.reel := by
  unfold armLimit
  split <;> rfl

theorem reel_armFlush (r : Recorder) : r.armFlush.reel = r.reel := by
  unfold armFlush
  split <;> rfl

theorem reel_watchFaults (r : Recorder) : r.watchFaults.reel = r.reel := by
  unfold watchFaults
  dsimp only
  split <;> rfl

theorem reel_beginActive (r : Recorder) : r.beginActive.reel = r.reel.enter .recording := by
  rw [beginActive, reel_armFlush, reel_armLimit, reel_setState]
  rfl

theorem reel_flushPending (r : Recorder) : r.flushPending.reel = r.reel.flush := by
  have pending : r.capture.chunksFrom r.flushed = r.reel.pending := rfl
  unfold flushPending Reel.flush Reel.handOut
  rw [pending]
  dsimp only
  split
  · rename_i nothing
    rw [List.isEmpty_iff] at nothing
    rw [if_pos nothing, nothing, Reel.tell, List.append_nil]
    rfl
  · rename_i something
    rw [List.isEmpty_iff] at something
    rw [if_neg something]
    rfl

theorem reel_releaseTracks (r : Recorder) (capture : Capture) :
    { r with capture := capture.releaseTracks }.reel = { r with capture }.reel := by
  unfold Capture.releaseTracks
  split <;> rfl

/-- Throwing the recording away leaves no encoder at work, if the capture knew of it. -/
theorem reel_reset {r : Recorder} (still : r.reel.capture = .inactive → r.reel.running = false) :
    { r with capture := r.capture.reset.releaseTracks }.reel = r.reel.wipe := by
  rw [reel_releaseTracks]
  have running : r.capture.reset.encoder.run.isSome = false := by
    rw [Option.isSome_eq_false_iff, Option.isNone_iff_eq_none]
    apply Capture.still_reset
    intro inactive
    simpa [reel] using still inactive
  unfold reel Reel.wipe
  rw [running]
  rfl

theorem reel_discard {r : Recorder} (still : r.reel.capture = .inactive → r.reel.running = false) :
    r.discard.reel = r.reel.clear := by
  have reset := reel_reset still
  exact congrArg (fun a : Reel => { a with flushed := 0, nextSequence := 0 }) reset

theorem reel_fail {r : Recorder} (still : r.reel.capture = .inactive → r.reel.running = false)
    (failure : Failure) :
    (r.fail failure).reel = (r.reel.wipe.enter .error).tell [.failed failure] := by
  have reset := reel_reset still
  rw [fail, reel_emit, reel_setState]
  exact congrArg (fun a : Reel => (a.enter .error).tell [.failed failure]) reset

theorem reel_pauseCapture {r : Recorder} (records : r.reel.capture = .recording) :
    r.pauseCapture.reel = { r.reel with capture := .paused } := by
  have recording : (r.capture.state == .recording) = true := beq_iff_eq.mpr records
  simp only [pauseCapture, Capture.pause, recording, if_true, reel, Encoder.setPaused,
    Option.isSome_map]

theorem reel_resumeCapture {r : Recorder} (paused : r.reel.capture = .paused) :
    r.resumeCapture.reel = { r.reel with capture := .recording } := by
  have waits : (r.capture.state == .paused) = true := beq_iff_eq.mpr paused
  simp only [resumeCapture, Capture.resume, waits, if_true, reel, Encoder.setPaused,
    Option.isSome_map]

/-! ## Operations -/

/-- The recorder pauses, for whatever reason. -/
theorem act_paused {r : Recorder} (inStep : r.reel.InStep) (records : r.state = .recording) :
    r.reel.Act [.stateChanged .paused] (r.suspend.pauseCapture.reel.enter .paused) := by
  have captures : r.reel.capture = .recording := by
    rw [inStep.capture, show r.reel.state = .recording from records]
    rfl
  have ne : r.reel.state ≠ .paused := by
    rw [show r.reel.state = .recording from records]
    nofun
  rw [reel_pauseCapture (r := r.suspend) captures, Reel.enter_of_ne (by exact ne)]
  exact .pauses records

/-- The recorder goes on, for whatever reason. -/
theorem act_begun {r : Recorder} (inStep : r.reel.InStep)
    (waits : r.state = .ready ∨ r.state = .paused) :
    r.reel.Act [.stateChanged .recording] r.resumeCapture.beginActive.reel := by
  have captures : r.reel.capture = .paused := by
    rw [inStep.capture]
    rcases waits with ready | paused
    · rw [show r.reel.state = .ready from ready]
      rfl
    · rw [show r.reel.state = .paused from paused]
      rfl
  have ne : r.reel.state ≠ .recording := by
    intro records
    rcases waits with ready | paused
    · cases ready.symm.trans records
    · cases paused.symm.trans records
  rw [reel_beginActive, reel_resumeCapture captures, Reel.enter_of_ne (by exact ne)]
  exact .begins waits

theorem act_pause {r : Recorder} (inStep : r.reel.InStep) :
    ∃ events, r.reel.Act events r.pause.reel := by
  unfold pause
  split
  · rename_i records
    dsimp only
    rw [reel_setState]
    exact ⟨_, act_paused inStep records⟩
  · exact ⟨_, .rests⟩
  · exact ⟨_, .rests⟩

theorem act_resume {r : Recorder} (inStep : r.reel.InStep) :
    ∃ events, r.reel.Act events r.resume.reel := by
  unfold resume
  split
  · rename_i paused
    exact ⟨_, act_begun (r := { r with
      pausedByVisibility := false
      timers := r.timers.withoutResume }) inStep (.inr paused)⟩
  · exact ⟨_, .rests⟩

theorem act_setVisibility {r : Recorder} (inStep : r.reel.InStep) (visibility : Visibility) :
    ∃ events, r.reel.Act events (r.setVisibility visibility).reel := by
  cases visibility with
  | hidden =>
      simp only [setVisibility]
      split
      · rename_i records
        rw [reel_setState]
        exact ⟨_, act_paused (r := { r with timers := r.timers.withoutResume }) inStep
          (beq_iff_eq.mp records)⟩
      · exact ⟨_, .rests⟩
  | visible =>
      simp only [setVisibility]
      split <;> exact ⟨_, .rests⟩

theorem act_abandon {r : Recorder} (inStep : r.reel.InStep) :
    ∃ events, r.reel.Act events r.abandon.reel := by
  rw [abandon, reel_setState, reel_discard inStep.still]
  exact ⟨_, .drops (.inr rfl)⟩

theorem act_reset {r : Recorder} (inStep : r.reel.InStep) :
    ∃ events, r.reel.Act events r.reset.reel := by
  rw [reset, reel_setState]
  change ∃ events, r.reel.Act events (r.discard.reel.enter .idle)
  rw [reel_discard inStep.still]
  exact ⟨_, .drops (.inl rfl)⟩

theorem reel_acquire (r : Recorder) (constraints : Constraints) :
    { r with capture := (r.capture.acquire constraints).1 }.reel = r.reel := by
  unfold Capture.acquire
  split
  · rfl
  · split <;> rfl

theorem reel_startEncoding {r : Recorder} {capture : Capture} {stream : MediaStream}
    {audio : Option MediaStream} (started : r.capture.startEncoding stream audio = .ok capture) :
    { r with capture }.reel = { r.reel with capture := .recording, running := true } := by
  obtain ⟨encoder, recorded, begun, rfl⟩ := Capture.startEncoding_eq started
  obtain ⟨-, rfl⟩ := Encoder.start_eq begun
  rfl

theorem reel_opening {r : Recorder} (inStep : r.reel.InStep) (isOver : r.state.isOver = true) :
    ({ r.discard with failure := none }.setState .initializing).reel =
      { r.reel.clear with state := .initializing }.tell [.stateChanged .initializing] := by
  have ne : r.reel.clear.state ≠ .initializing := by
    intro state
    rw [show r.state = .initializing from state] at isOver
    cases isOver
  rw [← Reel.enter_of_ne ne, ← reel_discard inStep.still]
  exact reel_setState _ _

/-- A recorder begins anew; its encoder was started. -/
theorem act_opened {r starting : Recorder} (isOver : r.state.isOver = true)
    (started : starting.reel =
      { r.reel.clear with state := .initializing, capture := .recording, running := true }.tell
        [.stateChanged .initializing]) (atOnce : Bool) :
    ∃ events, r.reel.Act events
      (if atOnce then starting.beginActive else starting.pauseCapture.setState .ready).reel := by
  cases atOnce with
  | true =>
      have opened : starting.beginActive.reel =
          ({ r.reel.clear with running := true }.move .recording).tell
            [.stateChanged .initializing, .stateChanged .recording] := by
        rw [reel_beginActive, started, Reel.enter_of_ne (by nofun)]
        simp only [Reel.tell, Reel.clear, Reel.wipe, Reel.move, RecordingState.capturing,
          List.append_assoc, List.cons_append, List.nil_append]
      rw [if_pos rfl, opened]
      exact ⟨_, .opens isOver (.inr rfl)⟩
  | false =>
      have opened : (starting.pauseCapture.setState .ready).reel =
          ({ r.reel.clear with running := true }.move .ready).tell
            [.stateChanged .initializing, .stateChanged .ready] := by
        have records : starting.reel.capture = .recording := by
          rw [started]
          rfl
        rw [reel_setState, reel_pauseCapture records, started, Reel.enter_of_ne (by nofun)]
        simp only [Reel.tell, Reel.clear, Reel.wipe, Reel.move, RecordingState.capturing,
          List.append_assoc, List.cons_append, List.nil_append]
      rw [if_neg (by nofun), opened]
      exact ⟨_, .opens isOver (.inl rfl)⟩

/-- A recorder fails to begin anew; its encoder was not started. -/
theorem act_refused {r failing : Recorder} (isOver : r.state.isOver = true)
    (opening : failing.reel =
      { r.reel.clear with state := .initializing }.tell [.stateChanged .initializing])
    (failure : Failure) :
    r.reel.Act [.stateChanged .initializing, .stateChanged .error, .failed failure]
      (failing.fail failure).reel := by
  have still : failing.reel.capture = .inactive → failing.reel.running = false := by
    rw [opening]
    exact fun _ => rfl
  have ended : (failing.fail failure).reel = (r.reel.clear.move .error).tell
      [.stateChanged .initializing, .stateChanged .error, .failed failure] := by
    rw [reel_fail still, opening, Reel.enter_of_ne (by nofun)]
    simp only [Reel.tell, Reel.wipe, Reel.clear, Reel.move, RecordingState.capturing,
      List.append_assoc, List.cons_append, List.nil_append]
  rw [ended]
  exact .refuses isOver failure

theorem act_openRecording {r : Recorder} (inStep : r.reel.InStep) (isOver : r.state.isOver = true)
    (atOnce : Bool) : ∃ events, r.reel.Act events (r.openRecording atOnce).1.reel := by
  have opening := reel_opening inStep isOver
  unfold openRecording
  generalize { r.discard with failure := none }.setState .initializing = o at opening
  dsimp only
  have acquires := reel_acquire o o.options.constraints
  split
  · rename_i capture failure acquired
    rw [acquired] at acquires
    exact ⟨_, act_refused isOver (acquires.trans opening) failure⟩
  · rename_i capture stream acquired
    rw [acquired] at acquires
    split
    · rename_i failure started
      exact ⟨_, act_refused isOver (acquires.trans opening) failure⟩
    · rename_i capture' started
      have encodes := reel_startEncoding (r := { o with capture }) started
      rw [acquires, opening] at encodes
      have starting := (reel_watchFaults { o with capture := capture' }).trans encodes
      have act := act_opened isOver starting atOnce
      cases atOnce <;> exact act

theorem act_prepare {r : Recorder} (inStep : r.reel.InStep) :
    ∃ events, r.reel.Act events r.prepare.1.reel := by
  unfold prepare
  split
  · rename_i isOver
    exact act_openRecording inStep isOver _
  · exact ⟨_, .rests⟩

theorem act_start {r : Recorder} (inStep : r.reel.InStep) :
    ∃ events, r.reel.Act events r.start.1.reel := by
  unfold start
  split
  · rename_i isOver
    exact act_openRecording inStep isOver _
  · split
    · rename_i ready
      exact ⟨_, act_begun inStep (.inl ready)⟩
    · exact ⟨_, .rests⟩
    · exact ⟨_, .rests⟩

theorem reel_captureStop {r : Recorder} (running : r.capture.state ≠ .inactive) :
    ∃ capture, r.capture.stop = .ok (Blob.concat r.capture.chunks Encoder.mimeType, capture) ∧
      { r with capture }.reel = { r.reel with capture := .inactive, running := false } := by
  refine ⟨_, Capture.stop_of_active running, ?_⟩
  rw [reel_releaseTracks]
  rfl

theorem reel_completed {a : Reel} (ended : Recorder)
    (stopping : ended.reel = { a with state := .stopping, capture := .inactive, running := false }.tell
      [.stateChanged .stopping]) :
    ((if ended.options.handsOutChunks then ended.flushPending else ended).setState .completed).reel =
      a.finish := by
  have hands : ended.options.handsOutChunks = a.handsOut := congrArg Reel.handsOut stopping
  rw [reel_setState, hands]
  unfold Reel.finish Reel.finishing
  split
  · rw [reel_flushPending, stopping, Reel.enter_of_ne (by nofun)]
    simp only [Reel.flush, Reel.tell, Reel.move, RecordingState.capturing, List.append_assoc]
    rfl
  · rw [stopping, Reel.enter_of_ne (by nofun)]
    simp only [Reel.tell, Reel.move, RecordingState.capturing, List.append_assoc, List.append_nil]

/-- A recorder that holds a recording gives it out. -/
theorem stop_active {r : Recorder} (inStep : r.reel.InStep) (active : r.state.isActive = true) :
    r.stop.2 = .ok (Blob.concat r.capture.chunks Encoder.mimeType) ∧
      r.stop.1.reel = r.reel.finish := by
  have running : r.capture.state ≠ .inactive := by
    rw [show r.capture.state = r.state.capturing from inStep.capture]
    cases state : r.state <;> simp [state, RecordingState.isActive] at active <;> nofun
  have ne : r.reel.state ≠ .stopping := by
    intro state
    rw [show r.state = .stopping from state] at active
    cases active
  have stopping := (reel_setState r .stopping).trans (Reel.enter_of_ne ne)
  have same := capture_setState r .stopping
  unfold stop
  rw [active]
  -- From here on only the reel and the capture of the stopping recorder matter.
  generalize r.setState .stopping = o at stopping same
  rw [← same] at running ⊢
  let o' := { o.suspend with timers := {}, pausedByVisibility := false }
  obtain ⟨capture, stops, stopped⟩ := reel_captureStop (r := o') running
  dsimp only [Bool.not_true, Bool.false_eq_true, if_false]
  rw [if_neg nofun, show o.suspend.capture.stop = _ from stops]
  refine ⟨rfl, ?_⟩
  refine reel_completed { o' with capture } ?_
  rw [stopped, show o'.reel = o.reel from rfl, stopping]
  rfl

theorem act_stop {r : Recorder} (inStep : r.reel.InStep) :
    ∃ events, r.reel.Act events r.stop.1.reel := by
  by_cases active : r.state.isActive = true
  · rw [(stop_active inStep active).2]
    exact ⟨_, .stops active⟩
  · unfold stop
    rw [if_pos (by simpa using active)]
    exact ⟨_, .rests⟩

end Recorder

end Viva
