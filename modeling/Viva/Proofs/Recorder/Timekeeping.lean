import Viva.Proofs.Recorder.Crew

/-! # What operations do with timers

What an operation does to the timers is what its orders say, and the tasks that it begins are begun for
what goes on afterwards (`Recorder.Complies`). No operation leaves a timer set that has nothing to wait
for (`Recorder.Armed`): the limit and the hand-outs are for one stretch of recording, the resumption is
for one pause, and a run of the encoder is watched for as long as the recording lasts.
-/

namespace Viva

/-! ## What tasks are begun for -/

namespace Job

/-- The states in which there is something to wait for. -/
def Lasts (job : Job) (state : RecordingState) : Prop :=
  match job with
  | .limit | .handOut => state = .recording
  | .resume => state = .paused
  | .faults => state.isActive = true

def Belongs (job : Job) (r : Recorder) : Prop :=
  match job with
  | .limit | .handOut => r.state = .recording
  | .resume => r.state = .paused ∧ r.pausedByVisibility = true
  | .faults => r.state.isActive = true

/-- What is told does not end what a task was begun for. A run of the encoder is watched until the
    recording is over; everything else is for one stretch of recording, or for one pause. -/
def Survives (job : Job) (event : RecordingEvent) : Prop :=
  match job with
  | .faults => ∀ state, event = .stateChanged state → state.isActive = true
  | _ => ∀ state, event ≠ .stateChanged state

theorem Belongs.lasts {job : Job} {r : Recorder} (belongs : job.Belongs r) : job.Lasts r.state := by
  cases job with
  | resume => exact belongs.1
  | _ => exact belongs

theorem Lasts.isActive {job : Job} {state : RecordingState} (lasts : job.Lasts state) :
    state.isActive = true := by
  cases job with
  | faults => exact lasts
  | _ => exact lasts ▸ rfl

/-- Only a run of the encoder is watched from one state to another. -/
theorem Lasts.eq_faults {job : Job} {before after : RecordingState} (lasts : job.Lasts before)
    (goesOn : job.Lasts after) (ne : before ≠ after) : job = .faults := by
  cases job with
  | faults => rfl
  | _ => exact absurd (lasts.trans goesOn.symm) ne

theorem survives_of_quiet {job : Job} {event : RecordingEvent}
    (quiet : ∀ state, event ≠ .stateChanged state) : job.Survives event := by
  cases job with
  | faults => exact fun state same => absurd same (quiet state)
  | _ => exact quiet

theorem faults_survives {state : RecordingState} (active : state.isActive = true) :
    faults.Survives (.stateChanged state) := by
  rintro _ ⟨⟩
  exact active

theorem faults_survives_entering {a : Reel} {state : RecordingState}
    (active : state.isActive = true) : ∀ event ∈ a.entering state, faults.Survives event := by
  intro event told
  unfold Reel.entering at told
  split at told
  · cases told
  · rw [List.mem_singleton.mp told]
    exact faults_survives active

/-- What lasts is not ended on the way. -/
theorem survives_of_act {a b : Reel} {events : List RecordingEvent} (act : a.Act events b)
    {job : Job} (before : job.Lasts a.state) (after : job.Lasts b.state) :
    ∀ event ∈ events, job.Survives event := by
  have wasActive := before.isActive
  have isActive := after.isActive
  cases act with
  | rests | stalls => simp
  | notices => simp [survives_of_quiet]
  | hands records =>
      intro event told
      unfold Reel.handOut at told
      split at told
      · cases told
      · rw [List.mem_singleton] at told
        subst told
        exact survives_of_quiet nofun
  | begins waits =>
      have ne : a.state ≠ .recording := by
        rcases waits with state | state <;> rw [state] <;> nofun
      obtain rfl := before.eq_faults after ne
      simp only [List.forall_mem_singleton]
      exact faults_survives rfl
  | pauses records =>
      have ne : a.state ≠ .paused := by
        rw [records]
        nofun
      obtain rfl := before.eq_faults after ne
      simp only [List.forall_mem_singleton]
      exact faults_survives rfl
  | opens isOver =>
      cases state : a.state <;> rw [state] at isOver wasActive <;> cases isOver <;> cases wasActive
  | fails | refuses | stops => cases isActive
  | drops dropped => rcases dropped with rfl | rfl <;> cases isActive

end Job

namespace Recorder

/-- A timer is set only while it belongs there, and the run that is watched is the current one. -/
structure Armed (r : Recorder) : Prop where
  belongs : ∀ job mark, r.timers.of job = some mark → job.Belongs r
  watched : ∀ run, r.timers.faultWatch = some run → r.capture.runs = run + 1

/-- What is done to the timers is what the orders say, the orders are safe, and every task that they
    begin is begun for what goes on afterwards. -/
structure Complies (r : Recorder) (orders : List Order) (r' : Recorder) : Prop where
  timers : r'.timers = Order.noteAll r.timers orders
  safe : Order.Safe r.timers orders
  fresh : ∀ job mark since, .start job mark since ∈ orders →
    ∀ event ∈ r'.log.drop since, job.Survives event

/-! ## What complies -/

theorem complies_rests {r r' : Recorder} (timers : r'.timers = r.timers) : r.Complies [] r' where
  timers := timers
  safe := trivial
  fresh := nofun

theorem complies_start {r r' : Recorder} (job : Job) {mark : Nat} (unset : r.timers.of job = none)
    (timers : r'.timers = r.timers.set (some mark) job) (log : r'.log = r.log) :
    r.Complies [.start job mark r.log.length] r' where
  timers := timers
  safe := ⟨unset, trivial⟩
  fresh := by
    intro _ _ _ begun
    cases List.mem_singleton.mp begun
    rw [log, List.drop_length]
    nofun

/-- First some tasks are stopped or let go of. -/
theorem Complies.after {r r' r'' : Recorder} {more : List Order}
    (complies : r'.Complies more r'') (orders : List Order)
    (timers : r'.timers = Order.noteAll r.timers orders)
    (safe : Order.Safe r.timers orders)
    (begins : ∀ job mark since, .start job mark since ∉ orders) :
    r.Complies (orders ++ more) r'' where
  timers := by rw [complies.timers, timers, Order.noteAll_append]
  safe := by
    rw [Order.safe_append, ← timers]
    exact ⟨safe, complies.safe⟩
  fresh := by
    intro job mark since begun
    rw [List.mem_append] at begun
    exact complies.fresh job mark since (begun.resolve_left (begins job mark since))

theorem Complies.trans {r r' r'' : Recorder} {orders more : List Order}
    {events : List RecordingEvent} (first : r.Complies orders r') (second : r'.Complies more r'')
    (log : r''.log = r'.log ++ events)
    (lasts : ∀ job mark since, .start job mark since ∈ orders →
      ∀ event ∈ events, job.Survives event) :
    r.Complies (orders ++ more) r'' where
  timers := by rw [second.timers, first.timers, Order.noteAll_append]
  safe := by
    rw [Order.safe_append, ← first.timers]
    exact ⟨first.safe, second.safe⟩
  fresh := by
    intro job mark since begun event told
    rcases List.mem_append.mp begun with earlier | later
    · rw [log, List.drop_append, List.mem_append] at told
      rcases told with before | since
      · exact first.fresh job mark _ earlier event before
      · exact lasts job mark _ earlier event (List.mem_of_mem_drop since)
    · exact second.fresh job mark since later event told

theorem complies_stops {r r' : Recorder} {orders : List Order}
    (stops : ∀ order ∈ orders, ∃ job, order = .stop job)
    (timers : r'.timers = Order.noteAll r.timers orders) : r.Complies orders r' where
  timers := timers
  safe := Order.safe_of_stops stops
  fresh := by
    intro job mark since begun
    obtain ⟨_, same⟩ := stops _ begun
    cases same

/-- An operation that also leaves no timer set that does not belong there. -/
structure Conducts (r : Recorder) (orders : List Order) (r' : Recorder) : Prop
    extends Complies r orders r' where
  armed : r'.Armed

/-- First some tasks are stopped. -/
theorem Conducts.after {r r' r'' : Recorder} {more : List Order}
    (conducts : r'.Conducts more r'') (orders : List Order)
    (timers : r'.timers = Order.noteAll r.timers orders)
    (stops : ∀ order ∈ orders, ∃ job, order = .stop job) : r.Conducts (orders ++ more) r'' := by
  refine ⟨conducts.toComplies.after orders timers (Order.safe_of_stops stops) ?_, conducts.armed⟩
  intro job mark since begun
  obtain ⟨_, same⟩ := stops _ begun
  cases same

theorem armed_of_none {r : Recorder} (timers : r.timers = {}) : r.Armed where
  belongs := by
    intro job mark isSet
    rw [timers, Timers.of_none] at isSet
    cases isSet
  watched := by
    rw [timers]
    nofun

/-- All that the recorder waits for is a fault. -/
theorem armed_of_watching {r : Recorder} (only : r.timers = { faultWatch := r.timers.faultWatch })
    (active : r.state.isActive = true)
    (watched : ∀ run, r.timers.faultWatch = some run → r.capture.runs = run + 1) : r.Armed where
  belongs := by
    intro job mark isSet
    rw [only] at isSet
    cases job with
    | faults => exact active
    | _ => cases isSet
  watched := watched

theorem Armed.unset {r : Recorder} (armed : r.Armed) (job : Job) :
    { r with timers := r.timers.set none job }.Armed where
  belongs := by
    intro other mark isSet
    rw [Timers.of_set] at isSet
    split at isSet
    · cases isSet
    · exact armed.belongs other mark isSet
  watched := by
    intro run isSet
    cases job with
    | faults => cases isSet
    | _ => exact armed.watched run isSet

theorem Armed.set {r : Recorder} (armed : r.Armed) (job : Job) (belongs : job.Belongs r)
    (ne : job ≠ .faults) (mark : Nat) :
    { r with timers := r.timers.set (some mark) job }.Armed where
  belongs := by
    intro other mark isSet
    rw [Timers.of_set] at isSet
    split at isSet
    · rename_i same
      subst same
      cases other <;> exact belongs
    · exact armed.belongs other mark isSet
  watched := by
    intro run isSet
    cases job with
    | faults => exact absurd rfl ne
    | _ => exact armed.watched run isSet

theorem Armed.of_eq_none {r : Recorder} (armed : r.Armed) (job : Job) (other : ¬ job.Belongs r) :
    r.timers.of job = none := by
  cases isSet : r.timers.of job with
  | none => rfl
  | some mark => exact absurd (armed.belongs job mark isSet) other

/-- Outside of a recording and its pauses, all that can be waited for is a fault. -/
theorem Armed.only_watching {r : Recorder} (armed : r.Armed) (still : r.state ≠ .recording) :
    r.timers.withoutResume = { faultWatch := r.timers.faultWatch } := by
  have limit : r.timers.maxDuration = none := armed.of_eq_none .limit still
  have handOut : r.timers.chunkFlush = none := armed.of_eq_none .handOut still
  simp only [Timers.withoutResume, limit, handOut]

/-! ## Recording begins -/

theorem complies_armLimit {r : Recorder} (unset : r.timers.maxDuration = none) :
    r.Complies r.limitOrders r.armLimit := by
  unfold limitOrders armLimit
  split
  · exact complies_rests rfl
  · exact complies_start .limit unset rfl rfl

theorem complies_armFlush {r : Recorder} (unset : r.timers.chunkFlush = none) :
    r.Complies r.handOutOrders r.armFlush := by
  unfold handOutOrders armFlush
  split
  · exact complies_start .handOut unset rfl rfl
  · exact complies_rests rfl

theorem armLimit_eq (r : Recorder) :
    ∃ mark, r.armLimit = { r with timers := { r.timers with maxDuration := mark } } := by
  unfold armLimit
  split
  · exact ⟨r.timers.maxDuration, rfl⟩
  · exact ⟨_, rfl⟩

theorem armFlush_eq (r : Recorder) :
    ∃ mark, r.armFlush = { r with timers := { r.timers with chunkFlush := mark } } := by
  unfold armFlush
  split
  · exact ⟨_, rfl⟩
  · exact ⟨r.timers.chunkFlush, rfl⟩

theorem log_beginActive (r : Recorder) :
    r.beginActive.log = r.log ++ r.reel.entering .recording :=
  congrArg Reel.log (reel_beginActive r)

theorem conducts_beginActive {r : Recorder}
    (only : r.timers = { faultWatch := r.timers.faultWatch })
    (watched : ∀ run, r.timers.faultWatch = some run → r.capture.runs = run + 1) :
    r.Conducts r.beginOrders r.beginActive := by
  have timers := timers_setState { r with activeSince := some r.now } .recording
  have records : ({ r with activeSince := some r.now }.setState .recording).state = .recording := by
    rw [setState_eq]
  have capture := capture_setState { r with activeSince := some r.now } .recording
  unfold beginOrders beginActive
  dsimp only at timers capture ⊢
  generalize { r with activeSince := some r.now }.setState .recording = b at timers records capture ⊢
  rw [← timers] at only watched
  rw [← capture] at watched
  have limit : b.timers.maxDuration = none := by rw [only]
  have handOut : b.timers.chunkFlush = none := by rw [only]
  have resume : b.timers.visibilityResume = none := by rw [only]
  have waits := complies_armLimit limit
  obtain ⟨mark, armed⟩ := b.armLimit_eq
  rw [armed] at waits ⊢
  have hands := complies_armFlush (r := { b with timers := { b.timers with maxDuration := mark } })
    handOut
  obtain ⟨next, armed'⟩ := armFlush_eq { b with timers := { b.timers with maxDuration := mark } }
  rw [armed'] at hands ⊢
  have complies := waits.trans hands (List.append_nil _).symm nofun
  refine ⟨complies.after [] timers trivial nofun, ?_, watched⟩
  intro job _ isSet
  cases job with
  | limit | handOut => exact records
  | resume => cases resume.symm.trans isSet
  | faults => exact RecordingState.isActive_of_records records

/-- The recorder goes on from a state in which the encoder waits. -/
theorem Armed.conducts_begun {r : Recorder} (armed : r.Armed)
    (waits : r.timers = { faultWatch := r.timers.faultWatch }) :
    r.Conducts r.resumeCapture.beginOrders r.resumeCapture.beginActive := by
  have runs : r.resumeCapture.capture.runs = r.capture.runs := by
    unfold resumeCapture Capture.resume
    split <;> rfl
  have begins : r.resumeCapture.Conducts r.resumeCapture.beginOrders r.resumeCapture.beginActive :=
    conducts_beginActive waits (by rw [runs]; exact armed.watched)
  exact begins.after [] rfl nofun

/-! ## Operations -/

theorem conducts_ended {r r' : Recorder} {orders : List Order}
    (stops : ∀ order ∈ orders, ∃ job, order = .stop job)
    (all : Order.noteAll r.timers orders = {}) (timers : r'.timers = {}) :
    r.Conducts orders r' :=
  ⟨complies_stops stops (timers.trans all.symm), armed_of_none timers⟩

theorem timers_fail (r : Recorder) (failure : Failure) : (r.fail failure).timers = {} :=
  timers_setState _ .error

theorem conducts_fail (r failing : Recorder) (failure : Failure) :
    r.Conducts failureOrders (failing.fail failure) :=
  conducts_ended (by simp [failureOrders, suspension, dismissal]) rfl (timers_fail failing failure)

theorem conducts_discard {r r' : Recorder} (timers : r'.timers = {}) : r.Conducts dismissal r' :=
  conducts_ended (by simp [suspension, dismissal]) rfl timers

theorem timers_flushPending (r : Recorder) : r.flushPending.timers = r.timers := by
  unfold flushPending
  dsimp only
  split <;> rfl

theorem conducts_stop {r : Recorder} (armed : r.Armed) : r.Conducts r.stopOrders r.stop.1 := by
  have same : (r.setState .stopping).suspend.capture = r.capture := capture_setState r .stopping
  unfold stopOrders stop
  split
  · exact ⟨complies_rests rfl, armed⟩
  · dsimp only
    rw [same]
    cases r.capture.stop with
    | error failure =>
        refine conducts_ended ?_ rfl (timers_fail _ _)
        simp [failureOrders, suspension, dismissal]
    | ok result =>
        refine conducts_ended ?_ rfl ?_
        · simp [suspension, dismissal]
        · dsimp only
          rw [timers_setState]
          split
          · exact timers_flushPending _
          · rfl

theorem runs_pauseCapture (r : Recorder) : r.pauseCapture.capture.runs = r.capture.runs := by
  unfold pauseCapture Capture.pause
  split <;> rfl

theorem conducts_paused {r r' : Recorder} {orders : List Order} (armed : r.Armed)
    (stops : ∀ order ∈ orders, ∃ job, order = .stop job)
    (all : Order.noteAll r.timers orders = { faultWatch := r.timers.faultWatch })
    (timers : r'.timers = { faultWatch := r.timers.faultWatch })
    (state : r'.state = .paused) (runs : r'.capture.runs = r.capture.runs) :
    r.Conducts orders r' := by
  refine ⟨complies_stops stops (timers.trans all.symm), armed_of_watching ?_ ?_ ?_⟩
  · rw [timers]
  · rw [state]
    rfl
  · rw [timers, runs]
    exact armed.watched

theorem conducts_pause {r : Recorder} (armed : r.Armed) : r.Conducts r.pauseOrders r.pause := by
  cases state : r.state with
  | recording =>
      simp only [pauseOrders, pause, state]
      refine conducts_paused armed (by simp [suspension]) rfl ?_ ?_ ?_
      · exact timers_setState _ _
      · rw [setState_eq]
      · rw [capture_setState]
        exact runs_pauseCapture _
  | paused =>
      have only := armed.only_watching (by rw [state]; nofun)
      simp only [pauseOrders, pause, state]
      exact conducts_paused armed (by simp) only only rfl rfl
  | _ =>
      simp only [pauseOrders, pause, state]
      exact ⟨complies_rests rfl, armed⟩

theorem conducts_resume {r : Recorder} (armed : r.Armed) : r.Conducts r.resumeOrders r.resume := by
  cases state : r.state with
  | paused =>
      have only := armed.only_watching (by rw [state]; nofun)
      have waits : { r with
          pausedByVisibility := false, timers := r.timers.withoutResume }.Armed :=
        armed_of_watching only (by rw [state]; rfl) armed.watched
      have begins := waits.conducts_begun only
      simp only [resumeOrders, resume, state] at begins ⊢
      exact begins.after [.stop .resume] rfl (by simp)
  | _ =>
      simp only [resumeOrders, resume, state]
      exact ⟨complies_rests rfl, armed⟩

theorem conducts_setVisibility {r : Recorder} (armed : r.Armed) (visibility : Visibility) :
    r.Conducts (r.visibilityOrders visibility) (r.setVisibility visibility) := by
  cases visibility with
  | hidden =>
      unfold visibilityOrders setVisibility
      dsimp only
      split
      · refine conducts_paused armed (by simp [suspension]) rfl ?_ ?_ ?_
        · exact timers_setState _ _
        · rw [setState_eq]
        · rw [capture_setState]
          exact runs_pauseCapture _
      · exact ⟨complies_stops (by simp) rfl, armed.unset .resume⟩
  | visible =>
      unfold visibilityOrders setVisibility
      dsimp only
      split
      · rename_i hidden
        rw [Bool.and_eq_true, beq_iff_eq] at hidden
        have waits : { r with timers := r.timers.withoutResume }.Complies
            [.start .resume (r.now + r.options.resumeDelay) r.log.length]
            { r with timers := { r.timers with
              visibilityResume := some (r.now + r.options.resumeDelay) } } :=
          complies_start .resume rfl rfl rfl
        refine ⟨waits.after [.stop .resume] rfl ⟨trivial, trivial⟩ (by simp), ?_⟩
        exact armed.set .resume hidden nofun _
      · exact ⟨complies_rests rfl, armed⟩

theorem complies_watchFaults {r : Recorder} (unset : r.timers.faultWatch = none) :
    r.Complies r.watchOrders r.watchFaults := by
  unfold watchOrders watchFaults Capture.takeFaultChannel
  cases r.capture.faultChannel with
  | none => exact complies_rests rfl
  | some run => exact complies_start .faults unset rfl rfl

theorem job_of_watchOrders {r : Recorder} {job : Job} {mark since : Nat}
    (begun : .start job mark since ∈ r.watchOrders) : job = .faults := by
  unfold watchOrders at begun
  split at begun
  · cases List.mem_singleton.mp begun
    rfl
  · cases begun

/-- A run of the encoder that was just started is the one to be watched. -/
theorem watched_of_start {before after : Capture} {stream : MediaStream}
    {audio : Option MediaStream} (started : before.startEncoding stream audio = .ok after) :
    ∀ run, after.faultChannel = some run → after.runs = run + 1 := by
  obtain ⟨encoder, recorded, begun, rfl⟩ := Capture.startEncoding_eq started
  rintro run ⟨⟩
  rfl

/-- The encoder was started, and its run is watched from now on. -/
theorem conducts_watched {r : Recorder} (none : r.timers = {})
    (watched : ∀ run, r.capture.faultChannel = some run → r.capture.runs = run + 1)
    (atOnce : Bool) :
    r.Conducts (r.watchOrders ++ if atOnce then r.watchFaults.beginOrders else [])
      (if atOnce then r.watchFaults.beginActive
        else r.watchFaults.pauseCapture.setState .ready) := by
  have watches : r.Complies r.watchOrders r.watchFaults :=
    complies_watchFaults (by rw [none])
  have only : r.watchFaults.timers = { faultWatch := r.watchFaults.timers.faultWatch } := by
    unfold watchFaults
    dsimp only
    rw [none]
    split <;> rfl
  have current : ∀ run, r.watchFaults.timers.faultWatch = some run →
      r.watchFaults.capture.runs = run + 1 := by
    unfold watchFaults Capture.takeFaultChannel
    dsimp only
    split
    · rename_i channel
      rintro _ ⟨⟩
      exact watched _ channel
    · rw [none]
      nofun
  generalize r.watchFaults = w at watches only current
  cases atOnce with
  | true =>
      have begins := conducts_beginActive only current
      refine ⟨watches.trans begins.toComplies (log_beginActive w) ?_, begins.armed⟩
      intro job mark since begun
      obtain rfl := job_of_watchOrders begun
      exact Job.faults_survives_entering rfl
  | false =>
      have same : (w.pauseCapture.setState .ready).timers = w.timers := timers_setState _ _
      have log : (w.pauseCapture.setState .ready).log = w.log ++ w.reel.entering .ready := by
        rw [setState_eq]
        rfl
      refine ⟨watches.trans (complies_rests same) log ?_, armed_of_watching ?_ ?_ ?_⟩
      · intro job mark since begun
        obtain rfl := job_of_watchOrders begun
        exact Job.faults_survives_entering rfl
      · exact same ▸ only
      · rw [setState_eq]
        rfl
      · rw [if_neg nofun, same, capture_setState, runs_pauseCapture]
        exact current

theorem conducts_openRecording (r : Recorder) (atOnce : Bool) :
    r.Conducts (r.openOrders atOnce) (r.openRecording atOnce).1 := by
  unfold openOrders openRecording
  have timers : ({ r.discard with failure := none }.setState .initializing).timers = {} :=
    timers_setState _ _
  generalize { r.discard with failure := none }.setState .initializing = o at timers
  suffices conducts : o.Conducts _ _ from
    conducts.after dismissal timers (by simp [suspension, dismissal])
  dsimp only
  rcases o.capture.acquire o.options.constraints with ⟨capture, _ | stream⟩
  · exact conducts_fail o _ _
  · dsimp only
    cases started : capture.startEncoding stream o.audio with
    | error failure => exact conducts_fail o _ _
    | ok capture =>
        have watched := conducts_watched (r := { o with capture }) timers (watched_of_start started)
          atOnce
        have fromHere := watched.after (r := o) [] rfl nofun
        cases atOnce <;> exact fromHere

theorem conducts_start {r : Recorder} (armed : r.Armed) : r.Conducts r.startOrders r.start.1 := by
  unfold startOrders start
  split
  · exact conducts_openRecording r true
  · cases state : r.state with
    | ready =>
        have only := armed.only_watching (by rw [state]; nofun)
        have resume : r.timers.visibilityResume = none :=
          armed.of_eq_none .resume fun belongs => by cases state.symm.trans belongs.1
        have same : r.timers.withoutResume = r.timers := by
          simp only [Timers.withoutResume, ← resume]
        exact armed.conducts_begun (same ▸ only)
    | _ => exact ⟨complies_rests rfl, armed⟩

theorem conducts_operate {r : Recorder} (armed : r.Armed) (input : Input) :
    r.Conducts (r.orders input) (r.operate input) := by
  cases input with
  | prepare =>
      simp only [orders, operate, prepare]
      split
      · exact conducts_openRecording r _
      · exact ⟨complies_rests rfl, armed⟩
  | start => exact conducts_start armed
  | stop => exact conducts_stop armed
  | pause => exact conducts_pause armed
  | resume => exact conducts_resume armed
  | setVisibility visibility => exact conducts_setVisibility armed visibility
  | abandon => exact conducts_discard (timers_setState _ _)
  | reset => exact conducts_discard (timers_setState _ _)
  | setAudio | share | setOutcome | elapse =>
      exact ⟨complies_rests rfl, armed.belongs, armed.watched⟩

end Recorder

end Viva
