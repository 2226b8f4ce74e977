import Viva.Proofs.Recorder.Staffing

/-! # What is due

A recorder is punctual up to a time if nothing is due before it (`Recorder.Punctual`). Operations
take no time and wait for nothing that is past; when a recorder settles, everything that is due does
its work once, and what it waits for then is later. So nothing is due while a recorder is settled, and
the clock goes from one point where something is due to a later one.
-/

namespace Viva

/-- When a task has something to do. A fault is not due at any time. -/
def Timers.due (timers : Timers) : Job → Option Nat
  | .faults => none
  | job => timers.of job

namespace Recorder

/-- Nothing is due before a time, and nothing that is done again and again is done all the time. -/
structure Punctual (r : Recorder) (time : Nat) : Prop where
  task : ∀ job due, r.timers.due job = some due → time ≤ due
  tick : ∀ due, r.capture.encoder.nextDue = some due →
    time ≤ due ∧ r.capture.encoder.timeslice ≠ 0
  handsOut : ∀ mark, r.timers.chunkFlush = some mark → r.options.handsOutChunks = true

/-- What goes on in an operation: it takes no time, and only an encoder that is started has another
    timeslice to end. -/
structure Carries (r r' : Recorder) : Prop where
  options : r'.options = r.options
  now : r'.now = r.now
  timeslice : r'.capture.encoder.timeslice = r.capture.encoder.timeslice
  tick : ∀ due, r'.capture.encoder.nextDue = some due →
    r.capture.encoder.nextDue = some due ∨
      r.capture.encoder.timeslice ≠ 0 ∧ due = r.now + r.capture.encoder.timeslice

end Recorder

namespace Order

/-- A task that is begun has nothing to do before a time, and hands out chunks only if they are to
    be handed out. -/
def Later (time : Nat) (options : RecordingOptions) : Order → Prop
  | start .faults _ _ | stop _ | release _ => True
  | start .handOut mark _ => time ≤ mark ∧ options.handsOutChunks = true
  | start _ mark _ => time ≤ mark

theorem of_noteAll {timers : Timers} {orders : List Order} {job : Job} {mark : Nat}
    (isSet : (noteAll timers orders).of job = some mark) :
    timers.of job = some mark ∨ ∃ since, .start job mark since ∈ orders := by
  induction orders generalizing timers with
  | nil => exact .inl isSet
  | cons order rest ih =>
      rcases ih isSet with noted | ⟨since, begun⟩
      · cases order with
        | start other mark' since =>
            rw [note, Timers.of_set] at noted
            split at noted
            · rename_i same
              cases noted
              exact .inr ⟨since, same ▸ List.mem_cons_self⟩
            · exact .inl noted
        | stop other | release other =>
            rw [note, Timers.of_set] at noted
            split at noted
            · cases noted
            · exact .inl noted
      · exact .inr ⟨since, List.mem_cons_of_mem _ begun⟩

end Order

namespace Recorder

/-- What was punctual before some orders is so after them. -/
theorem Punctual.obeys {r r' : Recorder} {time : Nat} (punctual : r.Punctual time)
    (present : time ≤ r.now) {orders : List Order}
    (timers : r'.timers = Order.noteAll r.timers orders) (carries : r.Carries r')
    (later : ∀ order ∈ orders, order.Later r.now r.options) : r'.Punctual time where
  task := by
    intro job due isDue
    have isSet : r'.timers.of job = some due := by
      cases job with
      | faults => cases isDue
      | _ => exact isDue
    rw [timers] at isSet
    rcases Order.of_noteAll isSet with before | ⟨since, begun⟩
    · refine punctual.task job due ?_
      cases job with
      | faults => cases isDue
      | _ => exact before
    · have fits := later _ begun
      cases job with
      | faults => cases isDue
      | limit | resume => exact Nat.le_trans present fits
      | handOut => exact Nat.le_trans present fits.1
  tick := by
    intro due isDue
    rw [carries.timeslice]
    rcases carries.tick due isDue with before | ⟨slices, rfl⟩
    · exact punctual.tick due before
    · exact ⟨by omega, slices⟩
  handsOut := by
    intro mark isSet
    rw [timers] at isSet
    have noted : (Order.noteAll r.timers orders).of .handOut = some mark := isSet
    rw [carries.options]
    rcases Order.of_noteAll noted with before | ⟨since, begun⟩
    · exact punctual.handsOut mark before
    · exact (later _ begun).2

/-! ## Encoders in an operation -/

theorem carries_same {r r' : Recorder} (options : r'.options = r.options)
    (same : r'.capture.encoder = r.capture.encoder) : r.Carries r' where
  options := options
  now := congrArg Encoder.now same
  timeslice := congrArg Encoder.timeslice same
  tick := fun due isDue => .inl (by rwa [same] at isDue)

theorem Carries.trans {r r' r'' : Recorder} (first : r.Carries r') (second : r'.Carries r'') :
    r.Carries r'' where
  options := second.options.trans first.options
  now := second.now.trans first.now
  timeslice := second.timeslice.trans first.timeslice
  tick := by
    intro due isDue
    rcases second.tick due isDue with before | ⟨slices, rfl⟩
    · exact first.tick due before
    · rw [first.timeslice] at slices ⊢
      rw [first.now]
      exact .inr ⟨slices, rfl⟩

theorem Carries.of_same {r r' r'' : Recorder} (carries : r'.Carries r'')
    (options : r'.options = r.options) (same : r'.capture.encoder = r.capture.encoder) :
    r.Carries r'' :=
  (carries_same options same).trans carries

theorem carries_setState (r : Recorder) (state : RecordingState) :
    r.Carries (r.setState state) := by
  rw [setState_eq]
  exact carries_same rfl rfl

theorem carries_beginActive (r : Recorder) : r.Carries r.beginActive := by
  have begun : r.Carries ({ r with activeSince := some r.now }.setState .recording) :=
    (carries_setState _ .recording).of_same rfl rfl
  have limit (b : Recorder) : b.Carries b.armLimit := by
    unfold armLimit
    split <;> exact carries_same rfl rfl
  have handOut (b : Recorder) : b.Carries b.armFlush := by
    unfold armFlush
    split <;> exact carries_same rfl rfl
  exact (begun.trans (limit _)).trans (handOut _)

theorem carries_setPaused {r r' : Recorder} {paused : Bool} (options : r'.options = r.options)
    (encoder : r'.capture.encoder = r.capture.encoder.setPaused paused) : r.Carries r' where
  options := options
  now := by
    rw [now, Capture.now, encoder]
    rfl
  timeslice := by
    rw [encoder]
    rfl
  tick := by
    intro due isDue
    rw [encoder] at isDue
    exact .inl (by simpa [Encoder.setPaused, Encoder.nextDue, Function.comp_def] using isDue)

theorem carries_pauseCapture (r : Recorder) : r.Carries r.pauseCapture := by
  unfold pauseCapture Capture.pause
  split
  · exact carries_setPaused rfl rfl
  · exact carries_same rfl rfl

theorem carries_resumeCapture (r : Recorder) : r.Carries r.resumeCapture := by
  unfold resumeCapture Capture.resume
  split
  · exact carries_setPaused rfl rfl
  · exact carries_same rfl rfl

theorem carries_stopped {r r' : Recorder} (options : r'.options = r.options)
    (encoder : r'.capture.encoder = r.capture.encoder.stop) : r.Carries r' where
  options := options
  now := by
    rw [now, Capture.now, encoder]
    rfl
  timeslice := by
    rw [encoder]
    rfl
  tick := by
    rw [encoder]
    nofun

theorem carries_reset {r r' : Recorder} (options : r'.options = r.options)
    (capture : r'.capture = r.capture.reset.releaseTracks) : r.Carries r' := by
  have encoder : r'.capture.encoder = r.capture.reset.encoder := by
    rw [capture, Capture.encoder_releaseTracks]
  rcases r.capture.encoder_reset with ⟨_, same⟩ | stopped
  · exact carries_same options (encoder.trans same)
  · exact carries_stopped options (encoder.trans stopped)

theorem options_setState (r : Recorder) (state : RecordingState) :
    (r.setState state).options = r.options := by
  rw [setState_eq]

theorem carries_fail (r : Recorder) (failure : Failure) : r.Carries (r.fail failure) :=
  carries_reset (options_setState _ .error) (capture_setState _ .error)

theorem carries_flushPending (r : Recorder) : r.Carries r.flushPending := by
  unfold flushPending
  dsimp only
  split <;> exact carries_same rfl rfl

theorem carries_watchFaults (r : Recorder) : r.Carries r.watchFaults := by
  unfold watchFaults
  dsimp only
  split <;> exact carries_same rfl rfl

theorem carries_startEncoding {r : Recorder} {capture : Capture} {stream : MediaStream}
    {audio : Option MediaStream} (started : r.capture.startEncoding stream audio = .ok capture) :
    r.Carries { r with capture } := by
  obtain ⟨encoder, recorded, begun, rfl⟩ := Capture.startEncoding_eq started
  obtain ⟨slices, rfl⟩ := Encoder.start_eq begun
  refine ⟨rfl, rfl, rfl, ?_⟩
  rintro due ⟨⟩
  exact .inr ⟨slices, rfl⟩

theorem carries_captureStop {r : Recorder} {blob : Blob} {capture : Capture}
    (stops : r.capture.stop = .ok (blob, capture)) : r.Carries { r with capture } := by
  obtain ⟨_, rfl⟩ := Capture.stop_eq stops
  exact carries_stopped rfl (Capture.encoder_releaseTracks _)

/-! ## Operations -/

theorem carries_stop (r : Recorder) : r.Carries r.stop.1 := by
  unfold stop
  split
  · exact carries_same rfl rfl
  · have stopping := carries_setState r .stopping
    generalize r.setState .stopping = o at stopping
    refine stopping.trans ?_
    dsimp only
    cases stops : o.suspend.capture.stop with
    | error failure => exact (carries_fail _ failure).of_same rfl rfl
    | ok result =>
        have ended : o.Carries _ := (carries_captureStop
          (r := { o.suspend with timers := {}, pausedByVisibility := false }) stops).of_same rfl rfl
        have handedOut := ended.trans (carries_flushPending _)
        dsimp only
        split
        · exact handedOut.trans (carries_setState _ _)
        · exact ended.trans (carries_setState _ _)

theorem carries_openRecording (r : Recorder) (atOnce : Bool) :
    r.Carries (r.openRecording atOnce).1 := by
  have opening : r.Carries ({ r.discard with failure := none }.setState .initializing) :=
    carries_reset (options_setState _ _) (capture_setState _ _)
  unfold openRecording
  generalize { r.discard with failure := none }.setState .initializing = o at opening
  refine opening.trans ?_
  dsimp only
  have encoder := Capture.encoder_acquire o.capture o.options.constraints
  generalize o.capture.acquire o.options.constraints = answer at encoder
  obtain ⟨capture, _ | stream⟩ := answer
  · exact (carries_fail _ _).of_same rfl encoder
  · dsimp only
    cases started : capture.startEncoding stream o.audio with
    | error failure => exact (carries_fail _ _).of_same rfl encoder
    | ok encoding =>
        have starting := carries_startEncoding (r := { o with capture }) started
        have watches := (starting.trans (carries_watchFaults _)).of_same (r := o) rfl encoder
        cases atOnce with
        | true => exact watches.trans (carries_beginActive _)
        | false =>
            exact (watches.trans (carries_pauseCapture _)).trans (carries_setState _ _)

theorem carries_begun (r : Recorder) : r.Carries r.resumeCapture.beginActive :=
  (carries_resumeCapture r).trans (carries_beginActive _)

theorem carries_operate (r : Recorder) (input : Input) (timeless : ∀ ms, input ≠ .elapse ms) :
    r.Carries (r.operate input) := by
  cases input with
  | prepare =>
      simp only [operate, prepare]
      split
      · exact carries_openRecording r _
      · exact carries_same rfl rfl
  | start =>
      simp only [operate, start]
      split
      · exact carries_openRecording r true
      · split
        · exact carries_begun r
        · exact carries_same rfl rfl
        · exact carries_same rfl rfl
  | stop => exact carries_stop r
  | pause =>
      simp only [operate, pause]
      split
      · have pauses : r.Carries r.suspend.pauseCapture :=
          (carries_pauseCapture r.suspend).of_same rfl rfl
        exact pauses.trans ((carries_setState _ .paused).of_same rfl rfl)
      · exact carries_same rfl rfl
      · exact carries_same rfl rfl
  | resume =>
      simp only [operate, resume]
      split
      · exact (carries_begun _).of_same rfl rfl
      · exact carries_same rfl rfl
  | setVisibility visibility =>
      cases visibility with
      | hidden =>
          simp only [operate, setVisibility]
          split
          · have pauses : r.Carries (Recorder.pauseCapture _) :=
              (carries_pauseCapture
                (suspend { r with timers := r.timers.withoutResume })).of_same rfl rfl
            exact pauses.trans ((carries_setState _ .paused).of_same rfl rfl)
          · exact carries_same rfl rfl
      | visible =>
          simp only [operate, setVisibility]
          split <;> exact carries_same rfl rfl
  | abandon => exact carries_reset (options_setState _ _) (capture_setState _ _)
  | reset => exact carries_reset (options_setState _ _) (capture_setState _ _)
  | setAudio | share | setOutcome => exact carries_same rfl rfl
  | elapse ms => exact absurd rfl (timeless ms)

/-! ## Orders are for later -/

theorem later_beginOrders {r b : Recorder} (carries : r.Carries b) :
    ∀ order ∈ b.beginOrders, order.Later r.now r.options := by
  rw [← carries.now, ← carries.options]
  unfold beginOrders
  rw [setState_eq]
  unfold limitOrders handOutOrders
  intro order ordered
  rcases List.mem_append.mp ordered with limit | handOut
  · split at limit
    · cases limit
    · rw [List.mem_singleton] at limit
      subst limit
      exact Nat.le_add_right _ _
  · split at handOut
    · rename_i hands
      rw [List.mem_singleton] at handOut
      subst handOut
      exact ⟨Nat.le_add_right _ _, hands⟩
    · cases handOut

theorem later_stops (r : Recorder) {orders : List Order}
    (stops : ∀ order ∈ orders, ∃ job, order = .stop job) :
    ∀ order ∈ orders, order.Later r.now r.options := by
  intro order ordered
  obtain ⟨job, rfl⟩ := stops order ordered
  trivial

theorem later_watchOrders (r b : Recorder) :
    ∀ order ∈ b.watchOrders, order.Later r.now r.options := by
  unfold watchOrders
  split
  · simp [Order.Later]
  · nofun

theorem later_openOrders (r : Recorder) (atOnce : Bool) :
    ∀ order ∈ r.openOrders atOnce, order.Later r.now r.options := by
  have opening : r.Carries ({ r.discard with failure := none }.setState .initializing) :=
    carries_reset (options_setState _ _) (capture_setState _ _)
  unfold openOrders
  generalize { r.discard with failure := none }.setState .initializing = o at opening
  have failing : ∀ order ∈ failureOrders, order.Later r.now r.options :=
    later_stops r (by simp [failureOrders, suspension, dismissal])
  rw [List.forall_mem_append]
  refine ⟨later_stops r (by simp [suspension, dismissal]), ?_⟩
  dsimp only
  have encoder := Capture.encoder_acquire o.capture o.options.constraints
  generalize o.capture.acquire o.options.constraints = answer at encoder
  obtain ⟨capture, _ | stream⟩ := answer
  · exact failing
  · dsimp only
    cases started : capture.startEncoding stream o.audio with
    | error failure => exact failing
    | ok encoding =>
        have starting := carries_startEncoding (r := { o with capture }) started
        have watches := (starting.trans (carries_watchFaults _)).of_same (r := o) rfl encoder
        rw [List.forall_mem_append]
        refine ⟨later_watchOrders r _, ?_⟩
        split
        · exact later_beginOrders (opening.trans watches)
        · exact List.forall_mem_nil _

theorem later_orders (r : Recorder) (input : Input) :
    ∀ order ∈ r.orders input, order.Later r.now r.options := by
  have resumes (b : Recorder) (carries : r.Carries b) :
      ∀ order ∈ b.resumeCapture.beginOrders, order.Later r.now r.options :=
    later_beginOrders (carries.trans (carries_resumeCapture b))
  cases input with
  | prepare =>
      simp only [orders]
      split
      · exact later_openOrders r _
      · exact List.forall_mem_nil _
  | start =>
      simp only [orders, startOrders]
      split
      · exact later_openOrders r true
      · split
        · exact resumes r (carries_same rfl rfl)
        · exact List.forall_mem_nil _
  | stop =>
      simp only [orders, stopOrders]
      split
      · exact List.forall_mem_nil _
      · refine later_stops r ?_
        split <;> simp [failureOrders, suspension, dismissal]
  | pause =>
      simp only [orders, pauseOrders]
      split
      · exact later_stops r (by simp [suspension])
      · exact later_stops r (by simp)
      · exact List.forall_mem_nil _
  | resume =>
      simp only [orders, resumeOrders]
      split
      · rw [List.forall_mem_append]
        exact ⟨later_stops r (by simp), resumes _ (carries_same rfl rfl)⟩
      · exact List.forall_mem_nil _
  | setVisibility visibility =>
      cases visibility with
      | hidden =>
          simp only [orders, visibilityOrders]
          refine later_stops r ?_
          split <;> simp [suspension]
      | visible =>
          simp only [orders, visibilityOrders]
          split
          · simp [Order.Later]
          · exact List.forall_mem_nil _
  | abandon | reset => exact later_stops r (by simp [orders, suspension, dismissal])
  | setAudio | share | setOutcome | elapse => exact List.forall_mem_nil _

theorem Punctual.operate {r : Recorder} (punctual : r.Punctual r.now) (armed : r.Armed)
    {input : Input} (timeless : ∀ ms, input ≠ .elapse ms) : (r.operate input).Punctual r.now :=
  punctual.obeys (Nat.le_refl _) (conducts_operate armed input).timers
    (carries_operate r input timeless) (later_orders r input)

/-! ## Settling -/

/-- The time of a job has not come yet. -/
def Waits (r : Recorder) (job : Job) : Prop :=
  ∀ due, r.timers.due job = some due → r.now < due

theorem not_isDue {r : Recorder} {timer : Option Nat} (early : ¬ r.isDue timer = true) {due : Nat}
    (isSet : timer = some due) : r.now < due := by
  subst isSet
  simpa [isDue] using early

theorem carries_goOn (r : Recorder) : r.Carries r.goOn := by
  unfold goOn
  dsimp only
  split
  · exact (carries_begun _).of_same rfl rfl
  · exact carries_same rfl rfl

theorem later_goOnOrders (r : Recorder) : ∀ order ∈ r.goOnOrders, order.Later r.now r.options := by
  unfold goOnOrders
  split
  · exact later_beginOrders ((carries_resumeCapture _).of_same rfl rfl)
  · nofun

theorem carries_fireResume (r : Recorder) : r.Carries r.fireResume := by
  rw [fireResume_eq]
  split
  · exact carries_goOn r
  · exact carries_same rfl rfl

theorem Punctual.fireResume {r : Recorder} (punctual : r.Punctual r.now) (armed : r.Armed) :
    r.fireResume.Punctual r.now := by
  rw [fireResume_eq]
  split
  · have timers : r.goOn.timers = Order.noteAll r.timers (.release .resume :: r.goOnOrders) :=
      (conducts_goOn (armed.unset .resume) rfl).timers
    refine punctual.obeys (Nat.le_refl _) timers (carries_goOn r) ?_
    rw [List.forall_mem_cons]
    exact ⟨trivial, later_goOnOrders r⟩
  · exact punctual

theorem resume_beginActive (r : Recorder) :
    r.beginActive.timers.visibilityResume = r.timers.visibilityResume := by
  have begun := timers_setState { r with activeSince := some r.now } .recording
  unfold beginActive
  generalize { r with activeSince := some r.now }.setState .recording = b at begun ⊢
  obtain ⟨mark, limit⟩ := b.armLimit_eq
  obtain ⟨next, handOut⟩ := b.armLimit.armFlush_eq
  rw [handOut, limit]
  have same : b.timers.visibilityResume = r.timers.visibilityResume :=
    congrArg Timers.visibilityResume begun
  exact same

theorem waits_fireResume (r : Recorder) : r.fireResume.Waits .resume := by
  intro due isDue
  rw [(carries_fireResume r).now]
  rw [fireResume_eq] at isDue
  split at isDue
  · have unset : r.goOn.timers.visibilityResume = none := by
      unfold goOn
      dsimp only
      split
      · exact resume_beginActive _
      · rfl
    cases unset.symm.trans isDue
  · rename_i early
    exact not_isDue early isDue

theorem timers_tellLimit (r : Recorder) :
    r.tellLimit.timers = { r.timers with maxDuration := none } := by
  unfold tellLimit
  dsimp only
  split <;> rfl

theorem carries_tellLimit (r : Recorder) : r.Carries r.tellLimit := by
  unfold tellLimit
  dsimp only
  split <;> exact carries_same rfl rfl

theorem carries_fireLimit (r : Recorder) : r.Carries r.fireLimit := by
  rw [fireLimit_eq]
  split
  · exact carries_tellLimit r
  · exact carries_same rfl rfl

theorem Punctual.fireLimit {r : Recorder} (punctual : r.Punctual r.now) :
    r.fireLimit.Punctual r.now := by
  rw [fireLimit_eq]
  split
  · have timers : r.tellLimit.timers = Order.noteAll r.timers [.stop .limit] := timers_tellLimit r
    exact punctual.obeys (Nat.le_refl _) timers (carries_tellLimit r) (by simp [Order.Later])
  · exact punctual

theorem waits_fireLimit {r : Recorder} {job : Job} (waits : job = .limit ∨ r.Waits job) :
    r.fireLimit.Waits job := by
  intro due isDue
  rw [(carries_fireLimit r).now]
  rw [fireLimit_eq] at isDue
  split at isDue
  · rw [timers_tellLimit] at isDue
    cases job with
    | limit => cases isDue
    | _ => exact waits.resolve_left nofun due isDue
  · rename_i early
    rcases waits with rfl | waits
    · exact not_isDue early isDue
    · exact waits due isDue

/-- What becomes of the hand-out. -/
theorem fireFlush_cases (r : Recorder) :
    r.fireFlush = r ∧ r.Waits .handOut ∨
      ∃ time mark, r.timers.chunkFlush = some time ∧
        r.fireFlush.timers = { r.timers with chunkFlush := mark } ∧ r.Carries r.fireFlush ∧
        ∀ next, mark = some next → next = time + r.options.chunkInterval := by
  unfold fireFlush
  cases isSet : r.timers.chunkFlush with
  | none => exact .inl ⟨rfl, fun due isDue => by cases isSet.symm.trans isDue⟩
  | some time =>
      dsimp only
      split
      · refine .inr ⟨time, ?_⟩
        split
        · refine ⟨some (time + r.options.chunkInterval), rfl, timers_flushPending _, ?_, ?_⟩
          · exact (carries_flushPending _).of_same rfl rfl
          · rintro _ ⟨⟩
            rfl
        · exact ⟨none, rfl, rfl, carries_same rfl rfl, nofun⟩
      · rename_i early
        refine .inl ⟨rfl, fun due isDue => ?_⟩
        cases isSet.symm.trans isDue
        exact Nat.lt_of_not_le early

theorem carries_fireFlush (r : Recorder) : r.Carries r.fireFlush := by
  rcases fireFlush_cases r with ⟨same, -⟩ | ⟨_, _, _, _, carries, _⟩
  · rw [same]
    exact carries_same rfl rfl
  · exact carries

theorem Punctual.fireFlush {r : Recorder} (punctual : r.Punctual r.now) :
    r.fireFlush.Punctual r.now := by
  rcases fireFlush_cases r with ⟨same, -⟩ | ⟨time, mark, isSet, timers, carries, next⟩
  · rw [same]
    exact punctual
  · cases mark with
    | none =>
        have noted : r.fireFlush.timers = Order.noteAll r.timers [.stop .handOut] := timers
        exact punctual.obeys (Nat.le_refl _) noted carries (by simp [Order.Later])
    | some mark =>
        have noted : r.fireFlush.timers = Order.noteAll r.timers [.start .handOut mark 0] := timers
        have present := punctual.task .handOut time isSet
        have later := next mark rfl
        refine punctual.obeys (Nat.le_refl _) noted carries ?_
        rw [List.forall_mem_singleton]
        exact ⟨by omega, punctual.handsOut time isSet⟩

theorem waits_fireFlush {r : Recorder} (punctual : r.Punctual r.now) {job : Job}
    (waits : job = .handOut ∨ r.Waits job) : r.fireFlush.Waits job := by
  intro due isDue
  rw [(carries_fireFlush r).now]
  rcases fireFlush_cases r with ⟨same, early⟩ | ⟨time, mark, isSet, timers, -, next⟩
  · rw [same] at isDue
    rcases waits with rfl | waits
    · exact early due isDue
    · exact waits due isDue
  · rw [timers] at isDue
    cases job with
    | handOut =>
        have present := punctual.task .handOut time isSet
        have hands := punctual.handsOut time isSet
        have later := next due isDue
        have interval : r.options.chunkInterval ≠ 0 := by
          simpa [RecordingOptions.handsOutChunks] using hands
        omega
    | _ => exact waits.resolve_left nofun due isDue

/-- The end of a timeslice that was due is over, and the next one is to come. -/
theorem next_fire {encoder : Encoder}
    (slices : ∀ due, encoder.nextDue = some due → encoder.now ≤ due ∧ encoder.timeslice ≠ 0) :
    encoder.fire.1.now = encoder.now ∧ encoder.fire.1.timeslice = encoder.timeslice ∧
      ∀ due, encoder.fire.1.nextDue = some due → encoder.now < due ∧ encoder.timeslice ≠ 0 := by
  have fires := encoder.fires
  generalize encoder.fire = fired at fires ⊢
  cases fires with
  | rests early => exact ⟨rfl, rfl, fun due isDue => ⟨early due isDue, (slices due isDue).2⟩⟩
  | crashes => exact ⟨rfl, rfl, nofun⟩
  | @skips run running late | @delivers run running late =>
      obtain ⟨present, whole⟩ := slices run.nextTick (Encoder.nextDue_of_run running)
      have next : encoder.now < run.nextTick + encoder.timeslice := by omega
      refine ⟨rfl, rfl, ?_⟩
      rintro due ⟨⟩
      exact ⟨next, whole⟩

theorem carries_takeFault (r : Recorder) (failure : Failure) : r.Carries (r.takeFault failure) := by
  rw [takeFault_eq]
  unfold hearFault
  dsimp only
  split
  · split
    · exact (carries_fail _ failure).of_same rfl rfl
    · exact carries_same rfl rfl
  · exact carries_same rfl rfl

theorem fewer_takeFault {r : Recorder} {failure : Failure} {job : Job} {mark : Nat}
    (isSet : (r.takeFault failure).timers.of job = some mark) : r.timers.of job = some mark := by
  rw [takeFault_eq] at isSet
  unfold hearFault at isSet
  dsimp only at isSet
  split at isSet
  · split at isSet
    · rw [timers_fail, Timers.of_none] at isSet
      cases isSet
    · cases job with
      | faults => cases isSet
      | _ => exact isSet
  · exact isSet

theorem fireEncoder_cases (r : Recorder) :
    { r with capture := r.capture.fire.1 }.Carries r.fireEncoder ∧
      ∀ job mark, r.fireEncoder.timers.of job = some mark → r.timers.of job = some mark := by
  rw [fireEncoder_eq]
  split
  · exact ⟨carries_takeFault _ _, fun job mark => fewer_takeFault⟩
  · exact ⟨carries_same rfl rfl, fun job mark => id⟩

theorem Punctual.fireEncoder {r : Recorder} (punctual : r.Punctual r.now)
    (waits : ∀ job, r.Waits job) :
    r.fireEncoder.Punctual (r.now + 1) ∧ r.fireEncoder.now = r.now := by
  obtain ⟨now, timeslice, next⟩ := next_fire punctual.tick
  rw [← (Capture.of_fire _).1] at now timeslice next
  obtain ⟨carries, fewer⟩ := fireEncoder_cases r
  have present : r.fireEncoder.now = r.now := carries.now.trans now
  refine ⟨⟨?_, ?_, ?_⟩, present⟩
  · intro job due isDue
    refine waits job due ?_
    cases job with
    | faults => cases isDue
    | limit => exact fewer .limit due isDue
    | handOut => exact fewer .handOut due isDue
    | resume => exact fewer .resume due isDue
  · intro due isDue
    rw [carries.timeslice]
    dsimp only
    rw [timeslice]
    rcases carries.tick due isDue with before | ⟨slices, rfl⟩
    · exact next due before
    · dsimp only at slices ⊢
      rw [timeslice] at slices ⊢
      have starts : Recorder.now { r with capture := r.capture.fire.1 } = r.now := now
      rw [starts]
      exact ⟨by omega, slices⟩
  · rw [carries.options]
    exact fun mark isSet => punctual.handsOut mark (fewer .handOut mark isSet)

/-- Every timer that is due does its work once, and whatever is set then is set for later. -/
theorem Punctual.settle {r : Recorder} (punctual : r.Punctual r.now) (armed : r.Armed) :
    r.settle.Punctual (r.settle.now + 1) ∧ r.settle.now = r.now := by
  have resumed := punctual.fireResume armed
  rw [← (carries_fireResume r).now] at resumed
  have limited := resumed.fireLimit
  rw [← (carries_fireLimit _).now] at limited
  have flushed := limited.fireFlush
  rw [← (carries_fireFlush _).now] at flushed
  have carried := ((carries_fireResume r).trans (carries_fireLimit _)).trans (carries_fireFlush _)
  have settled := flushed.fireEncoder fun job => by
    refine waits_fireFlush limited ?_
    cases job with
    | handOut => exact .inl rfl
    | limit => exact .inr (waits_fireLimit (.inl rfl))
    | resume => exact .inr (waits_fireLimit (.inr (waits_fireResume r)))
    | faults => exact .inr fun due isDue => by cases isDue
  have now : r.settle.now = r.now := settled.2.trans carried.now
  rw [← carried.now] at now
  rw [now]
  exact ⟨settled.1, carried.now⟩

/-! ## Time -/

theorem le_earlier {a b : Option Nat} {time : Nat} :
    (∀ first, earlier a b = some first → time ≤ first) ↔
      (∀ due, a = some due → time ≤ due) ∧ ∀ due, b = some due → time ≤ due := by
  cases a with
  | none => simp [earlier]
  | some first =>
      cases b with
      | none => simp [earlier]
      | some second =>
          simp only [earlier, Option.some.injEq, forall_eq']
          omega

theorem Punctual.le_nextDue {r : Recorder} {time : Nat} (punctual : r.Punctual time) :
    ∀ due, r.nextDue = some due → time ≤ due := by
  unfold nextDue
  rw [le_earlier, le_earlier, le_earlier]
  exact ⟨fun due isDue => (punctual.tick due isDue).1, punctual.task .limit, punctual.task .handOut,
    punctual.task .resume⟩

theorem Punctual.mono {r : Recorder} {time before : Nat} (punctual : r.Punctual time)
    (le : before ≤ time) : r.Punctual before where
  task := fun job due isDue => Nat.le_trans le (punctual.task job due isDue)
  tick := fun due isDue => (punctual.tick due isDue).imp_left (Nat.le_trans le)
  handsOut := punctual.handsOut

/-- What is due depends on the timers, the encoder and the options only. -/
theorem Punctual.of_same {r r' : Recorder} {time : Nat} (punctual : r.Punctual time)
    (timers : r'.timers = r.timers) (encoder : r'.capture.encoder = r.capture.encoder)
    (options : r'.options = r.options) : r'.Punctual time := by
  constructor
  · rw [timers]
    exact punctual.task
  · rw [encoder]
    exact punctual.tick
  · rw [timers, options]
    exact punctual.handsOut

/-- Nothing is due before the time that comes next. -/
theorem Punctual.advanceTo {r : Recorder} {before time : Nat} (punctual : r.Punctual before)
    (next : ∀ due, r.nextDue = some due → time ≤ due) (now : Nat) :
    (r.advanceTo now).Punctual time := by
  unfold nextDue at next
  rw [le_earlier, le_earlier, le_earlier] at next
  obtain ⟨tick, limit, handOut, resume⟩ := next
  refine ⟨?_, fun due isDue => ⟨tick due isDue, (punctual.tick due isDue).2⟩, punctual.handsOut⟩
  intro job due isDue
  cases job with
  | faults => cases isDue
  | limit => exact limit due isDue
  | handOut => exact handOut due isDue
  | resume => exact resume due isDue

end Recorder

end Viva
