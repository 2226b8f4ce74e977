import Mathlib.Data.List.Chain
import Viva.Proofs.Recorder.Studio

/-! # What the log says

`RecordingState.GoesTo` is the machine that a recorder goes through, and `RecordingEvent.FitsAfter`
says after which log an event may stand. Whatever happens in a studio, every event in the log of its
recorder stands where it may, and the log arrives at the state that the recorder is in
(`Reel.Faithful`).
-/

namespace Viva

/-- A recorder may go from a state to another. -/
def RecordingState.GoesTo (before : RecordingState) : RecordingState → Prop
  | initializing => before.isOver = true
  | ready => before = initializing
  | recording => before = initializing ∨ before = ready ∨ before = paused
  | paused => before = recording
  | stopping => before.isActive = true
  | completed => before = stopping
  | error => before = initializing ∨ before.isActive = true ∨ before = stopping
  | abandoned => before ≠ abandoned
  | idle => before ≠ idle

def RecordingEvent.state? : RecordingEvent → Option RecordingState
  | stateChanged state => some state
  | _ => none

/-- The states that a log tells of, in their order. -/
def statesIn (log : List RecordingEvent) : List RecordingState :=
  log.filterMap RecordingEvent.state?

/-- The state that a log arrives at. -/
def stateAfter (log : List RecordingEvent) : RecordingState :=
  (statesIn log).getLastD .idle

def RecordingEvent.FitsAfter (before : List RecordingEvent) : RecordingEvent → Prop
  | stateChanged state => (stateAfter before).GoesTo state
  | chunkReady _ _ => stateAfter before = .recording ∨ stateAfter before = .stopping
  | maxDurationReached => stateAfter before = .recording
  | failed _ => before.getLast? = some (.stateChanged .error)

/-- Each of the events may stand where it stands when they are told after a log. -/
def Continues (log : List RecordingEvent) : List RecordingEvent → Prop
  | [] => True
  | event :: rest => event.FitsAfter log ∧ Continues (log ++ [event]) rest

namespace RecordingState.GoesTo

theorem ne {before after : RecordingState} (goes : before.GoesTo after) :
    before ≠ after := by
  rintro rfl
  cases before <;> simp [GoesTo, isOver, isActive] at goes

/-- What is over stays over until a recording is opened. -/
theorem isOver {before after : RecordingState} (goes : before.GoesTo after)
    (ended : before.isOver = true) (opens : after ≠ .initializing) : after.isOver = true := by
  cases after with
  | initializing => exact absurd rfl opens
  | idle | completed | error | abandoned => rfl
  | _ => cases before <;> simp [GoesTo, RecordingState.isOver, isActive] at goes ended

end RecordingState.GoesTo

/-! ## Logs -/

theorem stateAfter_append (log events : List RecordingEvent) :
    stateAfter (log ++ events) = (statesIn events).getLastD (stateAfter log) := by
  unfold stateAfter statesIn
  rw [List.filterMap_append]
  cases states : events.filterMap RecordingEvent.state? using List.reverseRecOn with
  | nil => simp
  | append_singleton rest state => simp [← List.append_assoc]

@[simp] theorem stateAfter_entered (log : List RecordingEvent) (state : RecordingState) :
    stateAfter (log ++ [.stateChanged state]) = state :=
  stateAfter_append log [.stateChanged state]

theorem continues_append {log events more : List RecordingEvent} :
    Continues log (events ++ more) ↔ Continues log events ∧ Continues (log ++ events) more := by
  induction events generalizing log with
  | nil => simp [Continues]
  | cons event rest ih => simp [Continues, ih, and_assoc]

/-- Where a log continues another, each of its events fits. -/
theorem Continues.fits {log before after : List RecordingEvent} {event : RecordingEvent}
    (continues : Continues log (before ++ event :: after)) : event.FitsAfter (log ++ before) :=
  (continues_append.mp continues).2.1

/-- The states that are told of form a path of the machine. -/
theorem Continues.isChain {log events : List RecordingEvent} (continues : Continues log events) :
    (stateAfter log :: statesIn events).IsChain RecordingState.GoesTo := by
  induction events generalizing log with
  | nil => exact .singleton _
  | cons event rest ih =>
      have goesOn := ih continues.2
      rw [stateAfter_append] at goesOn
      cases event with
      | stateChanged state => exact .cons_cons continues.1 goesOn
      | chunkReady | maxDurationReached | failed => exact goesOn

theorem Continues.isOver {log events : List RecordingEvent} (continues : Continues log events)
    (ended : (stateAfter log).isOver = true) (opens : .stateChanged .initializing ∉ events) :
    (stateAfter (log ++ events)).isOver = true := by
  induction events generalizing log with
  | nil => rwa [List.append_nil]
  | cons event rest ih =>
      rw [List.append_cons]
      rw [List.mem_cons, not_or] at opens
      refine ih continues.2 ?_ opens.2
      rw [stateAfter_append]
      cases event with
      | stateChanged state =>
          refine continues.1.isOver ended ?_
          rintro rfl
          exact opens.1 rfl
      | chunkReady | maxDurationReached | failed => exact ended

/-! ## What happens to the log -/

namespace Reel

/-- The log tells what has happened, up to the state there is. -/
structure Faithful (a : Reel) : Prop where
  continues : Continues [] a.log
  arrives : stateAfter a.log = a.state
  /-- The recorder is not left on its way. -/
  settled : a.state ≠ .initializing ∧ a.state ≠ .stopping

theorem statesIn_handOut (a : Reel) : statesIn a.handOut = [] := by
  unfold handOut
  split <;> rfl

theorem continues_handOut {a : Reel} {log : List RecordingEvent}
    (fits : stateAfter log = .recording ∨ stateAfter log = .stopping) :
    Continues log a.handOut := by
  unfold handOut
  split
  · trivial
  · exact ⟨fits, trivial⟩

/-- One act continues the log to the state that it leads to. -/
theorem Act.continues {a b : Reel} {events : List RecordingEvent} (act : a.Act events b)
    (faithful : a.Faithful) :
    Continues a.log events ∧ (statesIn events).getLastD a.state = b.state := by
  have arrives := faithful.arrives
  cases act with
  | rests | stalls => exact ⟨trivial, rfl⟩
  | notices records => exact ⟨⟨arrives.trans records, trivial⟩, rfl⟩
  | begins waits =>
      rw [← arrives] at waits
      exact ⟨⟨.inr waits, trivial⟩, rfl⟩
  | pauses records => exact ⟨⟨arrives.trans records, trivial⟩, rfl⟩
  | hands records =>
      refine ⟨continues_handOut (.inl (arrives.trans records)), ?_⟩
      rw [statesIn_handOut]
      rfl
  | fails active failure =>
      rw [← arrives] at active
      exact ⟨⟨.inr (.inl active), by simp [RecordingEvent.FitsAfter], trivial⟩, rfl⟩
  | opens isOver opened =>
      rw [← arrives] at isOver
      refine ⟨⟨isOver, ?_, trivial⟩, rfl⟩
      rcases opened with rfl | rfl
      · exact stateAfter_entered _ _
      · exact .inl (stateAfter_entered _ _)
  | refuses isOver failure =>
      rw [← arrives] at isOver
      refine ⟨⟨isOver, .inl (stateAfter_entered _ _), ?_, trivial⟩, rfl⟩
      simp [RecordingEvent.FitsAfter]
  | stops active =>
      rw [← arrives] at active
      have stopping := stateAfter_entered a.log .stopping
      have hands : Continues (a.log ++ [.stateChanged .stopping])
          (if a.handsOut then a.handOut else []) := by
        split
        · exact continues_handOut (.inr stopping)
        · trivial
      have quiet : statesIn (if a.handsOut then a.handOut else []) = [] := by
        split
        · exact statesIn_handOut a
        · rfl
      unfold finishing
      refine ⟨?_, ?_⟩
      · rw [continues_append, continues_append, ← List.append_assoc]
        refine ⟨⟨⟨active, trivial⟩, hands⟩, ?_, trivial⟩
        change stateAfter _ = .stopping
        rw [stateAfter_append, quiet]
        exact stopping
      · rw [statesIn, List.filterMap_append]
        exact List.getLastD_concat
  | @drops state dropped =>
      unfold entering
      split
      · rename_i same
        exact ⟨trivial, same⟩
      · rename_i ne
        rw [← arrives] at ne
        refine ⟨⟨?_, trivial⟩, rfl⟩
        rcases dropped with rfl | rfl <;> exact ne

theorem Act.settled {a b : Reel} {events : List RecordingEvent} (act : a.Act events b)
    (settled : a.state ≠ .initializing ∧ a.state ≠ .stopping) :
    b.state ≠ .initializing ∧ b.state ≠ .stopping := by
  cases act with
  | rests | stalls | notices | hands => exact settled
  | begins | pauses | fails | refuses | stops => exact ⟨nofun, nofun⟩
  | opens isOver opened => rcases opened with rfl | rfl <;> exact ⟨nofun, nofun⟩
  | drops dropped => rcases dropped with rfl | rfl <;> exact ⟨nofun, nofun⟩

theorem Step.faithful {a b : Reel} {seen : List Observation} (step : a.Step seen b)
    (faithful : a.Faithful) : b.Faithful := by
  cases step with
  | acts act =>
      have continues := act.continues faithful
      refine ⟨?_, ?_, act.settled faithful.settled⟩
      · rw [act.log, continues_append]
        exact ⟨faithful.continues, continues.1⟩
      · rw [act.log, stateAfter_append, faithful.arrives]
        exact continues.2
  | delivers => exact ⟨faithful.continues, faithful.arrives, faithful.settled⟩

end Reel

namespace Studio

theorem Reachable.faithful {s : Studio} (reachable : s.Reachable) : s.recorder.reel.Faithful := by
  induction reachable with
  | @made r isNew =>
      have log : r.reel.log = [] := isNew.log
      have state : r.reel.state = .idle := isNew.state
      constructor
      · rw [log]
        trivial
      · rw [log, state]
        rfl
      · rw [state]
        exact ⟨nofun, nofun⟩
  | next reachable next ih =>
      obtain ⟨seen, step⟩ := next.step reachable.inStep
      exact step.faithful ih

variable {s : Studio}

/-- The recorder and its capture agree at all times. So a recording can be stopped whenever there is
    one, and the recorder is never left in a state that it only passes through. -/
theorem in_lockstep (reachable : s.Reachable) :
    (s.recorder.state = .recording ↔ s.recorder.capture.state = .recording) ∧
      (s.recorder.state = .ready ∨ s.recorder.state = .paused ↔
        s.recorder.capture.state = .paused) ∧
      (s.recorder.state.isActive = false ↔ s.recorder.capture.state = .inactive) ∧
      (s.recorder.state.isActive = true → ∃ blob, s.recorder.stop.2 = .ok blob) ∧
      s.recorder.state ≠ .initializing ∧ s.recorder.state ≠ .stopping := by
  have follows : s.recorder.capture.state = s.recorder.state.capturing := reachable.inStep.capture
  refine ⟨?_, ?_, ?_, ?_, reachable.faithful.settled⟩
  · rw [follows]
    cases s.recorder.state <;> decide
  · rw [follows]
    cases s.recorder.state <;> decide
  · rw [follows]
    cases s.recorder.state <;> decide
  · intro active
    exact ⟨_, (Recorder.stop_active reachable.inStep active).1⟩

theorem in_lockstep_paused :
    let s := (Studio.mk { options := {}, capture := { encoder := { timeslice := 100 } } } {}).take
      .start |>.take .pause
    s.Reachable ∧ s.recorder.state = .paused ∧ s.recorder.capture.state = .paused ∧
      ∃ blob, s.recorder.stop.2 = .ok blob := by
  intro s
  have made := Reachable.made (Recorder.isNew {} 100)
  have reachable : s.Reachable := (made.next (.takes .start)).next (.takes .pause)
  have paused : s.recorder.state = .paused := by decide
  have lockstep := in_lockstep reachable
  exact ⟨reachable, paused, lockstep.2.1.mp (.inr paused), lockstep.2.2.2.1 (by rw [paused]; rfl)⟩

/-- The log is a faithful trace: the states follow the machine up to the current one, everything
    else is told in a state where it may be told, and nothing of a recording is told once it is
    abandoned. -/
theorem log_faithful (reachable : s.Reachable) :
    (.idle :: statesIn s.recorder.log).IsChain RecordingState.GoesTo ∧
      (.idle :: statesIn s.recorder.log).IsChain (· ≠ ·) ∧
      (statesIn s.recorder.log).getLastD .idle = s.recorder.snapshot.state ∧
      (∀ before event after, s.recorder.log = before ++ event :: after → event.FitsAfter before) ∧
      ∀ before between event after,
        s.recorder.log = before ++ .stateChanged .abandoned :: (between ++ event :: after) →
          .stateChanged .initializing ∉ between →
            event ≠ .maxDurationReached ∧ ∀ blob sequence, event ≠ .chunkReady blob sequence := by
  have faithful := reachable.faithful
  have path := faithful.continues.isChain
  refine ⟨path, path.imp fun _ _ => RecordingState.GoesTo.ne, faithful.arrives, ?_, ?_⟩
  · intro before event after log
    have continues := faithful.continues
    rw [show s.recorder.reel.log = _ from log] at continues
    exact continues.fits
  · intro before between event after log opens
    have continues := faithful.continues
    rw [show s.recorder.reel.log = _ from log] at continues
    have rest := (continues_append.mp continues).2.2
    have ended := (continues_append.mp rest).1.isOver (by rw [stateAfter_entered]; rfl) opens
    have fits := rest.fits
    constructor
    · rintro rfl
      rw [show stateAfter _ = .recording from fits] at ended
      cases ended
    · rintro blob sequence rfl
      rcases fits with records | stops
      · rw [records] at ended
        cases ended
      · rw [stops] at ended
        cases ended

theorem log_faithful_completed :
    let s := (Studio.mk { options := {}, capture := { encoder := { timeslice := 100 } } } {}).take
      .start |>.take (.elapse 100) |>.tick |>.take .stop
    s.Reachable ∧ ∃ blob,
      s.recorder.log = [.stateChanged .initializing, .stateChanged .recording,
        .stateChanged .stopping, .chunkReady blob 0, .stateChanged .completed] ∧
      (.idle :: statesIn s.recorder.log).IsChain RecordingState.GoesTo ∧
      (RecordingEvent.chunkReady blob 0).FitsAfter [.stateChanged .initializing,
        .stateChanged .recording, .stateChanged .stopping] := by
  intro s
  have made := Reachable.made (Recorder.isNew {} 100)
  have started := made.next (.takes .start)
  have reachable : s.Reachable :=
    ((started.next (.takes (.elapse 100))).next .ticks).next (.takes .stop)
  have faithful := log_faithful reachable
  refine ⟨reachable, _, rfl, faithful.1, ?_⟩
  exact faithful.2.2.2.1 [_, _, _] _ _ rfl

end Studio

end Viva
