import Mathlib.Logic.Relation
import Viva.Proofs.Recorder.Observation

/-! # A recorder and its tasks

What a recorder waits for is waited for by tasks that work in the background. A task can be stopped
only through a handle on it, and the recorder keeps one handle for every job: a handle that is
overwritten or given up leaves its task at work. The recorder's `Timers` are its own account of this.
In a `Studio` the tasks themselves stand next to the recorder, and it is they who act.

`Studio.Next` is one thing that happens in a studio. Nothing has to happen in time or in a certain
order: tasks may act long after their time has come, operations may come between, and the encoder may
fail whenever it is at work. None of this looks at the recorder's own account of its timers.
-/

namespace Viva

/-- What a task is there for. -/
inductive Job where
  /-- To tell that the limit is reached. -/
  | limit
  /-- To hand out chunks, again and again. -/
  | handOut
  /-- To go on when the page has been visible long enough. -/
  | resume
  /-- To wait for the fault of a run of the encoder. -/
  | faults
  deriving DecidableEq

structure Task where
  /-- A handle on the task is its number. -/
  number : Nat
  job : Job
  /-- When its time comes, or the run that it watches. -/
  mark : Nat
  /-- How much the recorder had told when the task began. -/
  since : Nat
  deriving DecidableEq

structure Crew where
  /-- How many tasks have begun. -/
  begun : Nat := 0
  working : List Task := []
  handle : Job → Option Nat := fun _ => none

namespace Crew

def setHandle (crew : Crew) (job : Job) (handle : Option Nat) : Crew :=
  { crew with handle := fun other => if other = job then handle else crew.handle other }

/-- A task begins, and the handle on it takes the place of the one before. -/
def start (crew : Crew) (job : Job) (mark since : Nat) : Crew :=
  let task : Task := { number := crew.begun, job, mark, since }
  { crew with begun := crew.begun + 1, working := crew.working ++ [task] }.setHandle job
    (some crew.begun)

/-- A task is over. The handle on it, if there is one, stays. -/
def strike (crew : Crew) (number : Nat) : Crew :=
  { crew with working := crew.working.filter (·.number != number) }

/-- The task that there is a handle on is stopped, if it still works. -/
def stop (crew : Crew) (job : Job) : Crew :=
  match crew.handle job with
  | some number => (crew.strike number).setHandle job none
  | none => crew

/-- A task goes on and has another time to wait for. -/
def postpone (crew : Crew) (number mark : Nat) : Crew :=
  { crew with
    working := crew.working.map fun task =>
      if task.number = number then { task with mark } else task }

end Crew

/-- What a recorder does with its tasks. -/
inductive Order where
  | start (job : Job) (mark since : Nat)
  | stop (job : Job)
  /-- The handle is given up; the task is not stopped. -/
  | release (job : Job)
  deriving DecidableEq

namespace Crew

def obey (crew : Crew) : Order → Crew
  | .start job mark since => crew.start job mark since
  | .stop job => crew.stop job
  | .release job => crew.setHandle job none

def obeyAll (crew : Crew) (orders : List Order) : Crew :=
  orders.foldl obey crew

end Crew

namespace Recorder

/-! ## What becomes of the tasks in an operation -/

/-- The tasks of a running recording are stopped. -/
def suspension : List Order := [.stop .limit, .stop .handOut]

/-- All tasks are stopped. -/
def dismissal : List Order := suspension ++ [.stop .resume, .stop .faults]

def failureOrders : List Order := suspension ++ dismissal

def limitOrders (r : Recorder) : List Order :=
  if r.options.maxDuration = 0 || r.limitReached then []
  else [.start .limit (r.now + (r.options.maxDuration - r.duration)) r.log.length]

def handOutOrders (r : Recorder) : List Order :=
  if r.options.handsOutChunks then
    [.start .handOut (r.now + r.options.chunkInterval) r.log.length]
  else []

def beginOrders (r : Recorder) : List Order :=
  let r := { r with activeSince := some r.now }.setState .recording
  r.limitOrders ++ r.handOutOrders

def watchOrders (r : Recorder) : List Order :=
  match r.capture.faultChannel with
  | some run => [.start .faults run r.log.length]
  | none => []

def openOrders (r : Recorder) (atOnce : Bool) : List Order :=
  let r := { r.discard with failure := none }.setState .initializing
  dismissal ++
    match r.capture.acquire r.options.constraints with
    | (_, .error _) => failureOrders
    | (capture, .ok stream) =>
      let r := { r with capture }
      match r.capture.startEncoding stream r.audio with
      | .error _ => failureOrders
      | .ok capture =>
        let r := { r with capture }
        r.watchOrders ++ if atOnce then r.watchFaults.beginOrders else []

def startOrders (r : Recorder) : List Order :=
  if r.state.isOver then r.openOrders true
  else
    match r.state with
    | .ready => r.resumeCapture.beginOrders
    | _ => []

def stopOrders (r : Recorder) : List Order :=
  if !r.state.isActive then []
  else
    suspension ++ dismissal ++
      match r.capture.stop with
      | .error _ => failureOrders
      | .ok _ => []

def pauseOrders (r : Recorder) : List Order :=
  match r.state with
  | .recording => suspension ++ [.stop .resume]
  | .paused => [.stop .resume]
  | _ => []

def resumeOrders (r : Recorder) : List Order :=
  match r.state with
  | .paused =>
    [.stop .resume] ++
      { r with
        pausedByVisibility := false
        timers := r.timers.withoutResume }.resumeCapture.beginOrders
  | _ => []

def visibilityOrders (r : Recorder) : Visibility → List Order
  | .hidden => [.stop .resume] ++ if r.state == .recording then suspension else []
  | .visible =>
    if r.state == .paused && r.pausedByVisibility then
      [.stop .resume, .start .resume (r.now + r.options.resumeDelay) r.log.length]
    else []

def orders (r : Recorder) : Input → List Order
  | .prepare => if r.state.isOver then r.openOrders r.options.autoStart else []
  | .start => r.startOrders
  | .stop => r.stopOrders
  | .pause => r.pauseOrders
  | .resume => r.resumeOrders
  | .setVisibility visibility => r.visibilityOrders visibility
  | .abandon | .reset => dismissal
  | .setAudio _ | .share _ | .setOutcome _ | .elapse _ => []

/-- An operation alone, or time that passes; whatever comes due is left to the tasks. -/
def operate (r : Recorder) : Input → Recorder
  | .prepare => r.prepare.1
  | .start => r.start.1
  | .stop => r.stop.1
  | .pause => r.pause
  | .resume => r.resume
  | .setVisibility visibility => r.setVisibility visibility
  | .abandon => r.abandon
  | .reset => r.reset
  | .setAudio audio => r.setAudio audio
  | .share offer => r.share offer
  | .setOutcome outcome => r.setOutcome outcome
  | .elapse ms => r.advanceTo (r.now + ms)

/-! ## What the tasks do -/

def goOnOrders (r : Recorder) : List Order :=
  if r.state == .paused && r.pausedByVisibility then
    { r with
      timers := r.timers.withoutResume
      pausedByVisibility := false }.resumeCapture.beginOrders
  else []

def faultOrders (r : Recorder) : List Order :=
  if r.state.isActive then failureOrders else []

/-- The encoder fails, for whatever reason. -/
def failEncoder (r : Recorder) (failure : Failure) : Recorder :=
  { r with capture := { r.capture with
      encoder := r.capture.encoder.stop
      faults := r.capture.faults ++ [(r.capture.runs - 1, failure)] } }

end Recorder

structure Studio where
  recorder : Recorder
  crew : Crew := {}

namespace Studio

/-- The recorder takes an input, and its tasks are told what to do. -/
def take (s : Studio) (input : Recorder.Input) : Studio :=
  ⟨s.recorder.operate input, s.crew.obeyAll (s.recorder.orders input)⟩

/-- The encoder's timeslice ends, if it is due. -/
def tick (s : Studio) : Studio :=
  { s with recorder := { s.recorder with capture := s.recorder.capture.fire.1 } }

/-- A task does its work. It is struck off then, except that hand-outs go on while the recorder
    records. -/
inductive Acts (s : Studio) (task : Task) : Studio → Prop where
  | limit (job : task.job = .limit) (due : task.mark ≤ s.recorder.now) :
      Acts s task ⟨s.recorder.tellLimit, s.crew.strike task.number⟩
  | handOut (job : task.job = .handOut) (due : task.mark ≤ s.recorder.now)
      (records : s.recorder.state = .recording) {next : Nat}
      (again : next = task.mark + s.recorder.options.chunkInterval) :
      Acts s task ⟨s.recorder.handOutAgain next, s.crew.postpone task.number next⟩
  | leaves (job : task.job = .handOut) (due : task.mark ≤ s.recorder.now)
      (other : s.recorder.state ≠ .recording) :
      Acts s task
        ⟨{ s.recorder with timers := { s.recorder.timers with chunkFlush := none } },
          s.crew.strike task.number⟩
  | resume (job : task.job = .resume) (due : task.mark ≤ s.recorder.now) :
      Acts s task ⟨s.recorder.goOn,
        (s.crew.strike task.number).obeyAll (.release .resume :: s.recorder.goOnOrders)⟩
  | faults (job : task.job = .faults) {failure : Failure}
      (reported : (task.mark, failure) ∈ s.recorder.capture.faults) :
      Acts s task ⟨s.recorder.hearFault failure,
        (s.crew.strike task.number).obeyAll (.release .faults :: s.recorder.faultOrders)⟩

inductive Next (s : Studio) : Studio → Prop where
  | takes (input : Recorder.Input) : Next s (s.take input)
  | ticks : Next s s.tick
  | fails (running : s.recorder.capture.encoder.run.isSome = true) (failure : Failure) :
      Next s ⟨s.recorder.failEncoder failure, s.crew⟩
  | acts {s' : Studio} (task : Task) (works : task ∈ s.crew.working) (act : s.Acts task s') :
      Next s s'

/-- The studio may become `s'`. -/
def Later : Studio → Studio → Prop :=
  Relation.ReflTransGen Next

end Studio

/-- A recorder that was just made. -/
structure Recorder.New (r : Recorder) : Prop extends Fresh r where
  timers : r.timers = {}
  audio : r.audio = none
  stream : r.capture.stream = none
  granted : r.capture.devices.granted = []

theorem Recorder.isNew (options : RecordingOptions) (timeslice : Nat) :
    ({ options, capture := { encoder := { timeslice } } } : Recorder).New :=
  ⟨⟨rfl, rfl, rfl, rfl, rfl, rfl, rfl⟩, rfl, rfl, rfl, rfl⟩

namespace Studio

/-- What becomes of a recorder that was just made. -/
inductive Reachable : Studio → Prop where
  | made {r : Recorder} (isNew : r.New) : Reachable ⟨r, {}⟩
  | next {s s' : Studio} (reachable : Reachable s) (next : s.Next s') : Reachable s'

theorem Reachable.later {s s' : Studio} (reachable : s.Reachable) (later : s.Later s') :
    s'.Reachable := by
  induction later with
  | refl => exact reachable
  | tail _ next ih => exact ih.next next

end Studio

/-! ## What happens to the reel -/

namespace Recorder

theorem act_operate {r : Recorder} (inStep : r.reel.InStep) (input : Input) :
    ∃ events, r.reel.Act events (r.operate input).reel := by
  cases input with
  | prepare => exact act_prepare inStep
  | start => exact act_start inStep
  | stop => exact act_stop inStep
  | pause => exact act_pause inStep
  | resume => exact act_resume inStep
  | setVisibility visibility => exact act_setVisibility inStep visibility
  | abandon => exact act_abandon inStep
  | reset => exact act_reset inStep
  | setAudio | share | setOutcome | elapse => exact ⟨_, .rests⟩

end Recorder

namespace Studio

theorem Acts.act {s s' : Studio} {task : Task} (act : s.Acts task s')
    (inStep : s.recorder.reel.InStep) :
    ∃ events, s.recorder.reel.Act events s'.recorder.reel := by
  cases act with
  | limit => exact Recorder.act_tellLimit _
  | handOut job due records again => exact Recorder.act_handOutAgain records _
  | leaves => exact ⟨_, .rests⟩
  | resume => exact Recorder.act_goOn inStep
  | faults => exact Recorder.act_hearFault inStep _

/-- Whatever happens in a studio, the reel does nothing new. -/
theorem Next.step {s s' : Studio} (next : s.Next s') (inStep : s.recorder.reel.InStep) :
    ∃ seen, s.recorder.reel.Step seen s'.recorder.reel := by
  cases next with
  | takes input =>
      obtain ⟨events, act⟩ := Recorder.act_operate inStep input
      exact ⟨_, .acts act⟩
  | ticks => exact ⟨_, Recorder.step_fire s.recorder⟩
  | fails running failure => exact ⟨_, .acts .stalls⟩
  | acts task works act =>
      obtain ⟨events, act⟩ := act.act inStep
      exact ⟨_, .acts act⟩

theorem Next.inStep {s s' : Studio} (next : s.Next s') (inStep : s.recorder.reel.InStep) :
    s'.recorder.reel.InStep := by
  obtain ⟨seen, step⟩ := next.step inStep
  exact step.inStep inStep

theorem Reachable.inStep {s : Studio} (reachable : s.Reachable) : s.recorder.reel.InStep := by
  induction reachable with
  | made isNew => exact isNew.toFresh.inStep
  | next _ next ih => exact next.inStep ih

end Studio

end Viva
