import Viva.Proofs.Recorder.Timekeeping

/-! # Every task in its place

In a studio nothing is left behind: the tasks at work are those that the recorder's timers speak of
(`Studio.Staffed`), whatever happens and in whatever order. So there is at most one task for each
job, it is there only as long as the state of the recorder calls for it, and what it was begun for
still goes on whenever it acts.
-/

namespace Viva

namespace Recorder

theorem Armed.of_eq {r r' : Recorder} (armed : r.Armed) (timers : r'.timers = r.timers)
    (state : r'.state = r.state) (hidden : r'.pausedByVisibility = r.pausedByVisibility)
    (runs : r'.capture.runs = r.capture.runs) : r'.Armed where
  belongs := by
    intro job mark isSet
    rw [timers] at isSet
    have belongs := armed.belongs job mark isSet
    cases job with
    | limit | handOut => exact state.trans belongs
    | resume => exact ⟨state.trans belongs.1, hidden.trans belongs.2⟩
    | faults => exact (congrArg RecordingState.isActive state).trans belongs
  watched := by
    rw [timers, runs]
    exact armed.watched

/-! ## Tasks at work -/

theorem conducts_tellLimit {r : Recorder} (armed : r.Armed) (unset : r.timers.maxDuration = none) :
    r.Conducts [] r.tellLimit := by
  have same : { r.timers with maxDuration := none } = r.timers := by rw [← unset]
  unfold tellLimit
  rw [same]
  dsimp only
  split <;> exact ⟨complies_rests rfl, armed.of_eq rfl rfl rfl rfl⟩

theorem conducts_flushPending {r : Recorder} (armed : r.Armed) : r.Conducts [] r.flushPending := by
  unfold flushPending
  dsimp only
  split <;> exact ⟨complies_rests rfl, armed.of_eq rfl rfl rfl rfl⟩

theorem conducts_goOn {r : Recorder} (armed : r.Armed) (unset : r.timers.visibilityResume = none) :
    r.Conducts (.release .resume :: r.goOnOrders) r.goOn := by
  have released : ∀ {more : List Order} {r' : Recorder},
      { r with timers := r.timers.withoutResume }.Conducts more r' →
        r.Conducts (.release .resume :: more) r' := fun conducts =>
    ⟨conducts.toComplies.after [.release .resume] rfl ⟨unset, trivial⟩ (by simp),
      conducts.armed⟩
  refine released ?_
  unfold goOnOrders goOn
  dsimp only
  split
  · rename_i hidden
    rw [Bool.and_eq_true, beq_iff_eq] at hidden
    have only := armed.only_watching (by rw [hidden.1]; nofun)
    have waits : { r with
        pausedByVisibility := false, timers := r.timers.withoutResume }.Armed :=
      armed_of_watching only (by rw [hidden.1]; rfl) armed.watched
    exact (waits.conducts_begun only).after [] rfl nofun
  · exact ⟨complies_rests rfl, armed.unset .resume⟩

theorem conducts_hearFault {r : Recorder} (armed : r.Armed) (unset : r.timers.faultWatch = none)
    (failure : Failure) :
    r.Conducts (.release .faults :: r.faultOrders) (r.hearFault failure) := by
  unfold faultOrders hearFault
  dsimp only
  split
  · have fails := conducts_fail { r with timers := { r.timers with faultWatch := none } }
      { r with timers := { r.timers with faultWatch := none } } failure
    exact ⟨fails.toComplies.after [.release .faults] rfl ⟨unset, trivial⟩ (by simp),
      fails.armed⟩
  · exact ⟨(complies_rests rfl).after [.release .faults] rfl ⟨unset, trivial⟩ (by simp),
      armed.unset .faults⟩

end Recorder

namespace Studio

structure Staffed (s : Studio) : Prop where
  armed : s.recorder.Armed
  matched : s.crew.Matches s.recorder.timers
  current : ∀ task ∈ s.crew.working, ∀ event ∈ s.recorder.log.drop task.since,
    task.job.Survives event

variable {s s' : Studio} {task : Task}

theorem Staffed.belongs (staffed : s.Staffed) (works : task ∈ s.crew.working) :
    task.job.Belongs s.recorder := by
  have isSet := (staffed.matched.account task.job task.mark).mpr ⟨task, works, rfl, rfl⟩
  exact staffed.armed.belongs task.job task.mark isSet

theorem Staffed.obeys (staffed : s.Staffed) {orders : List Order} {r' : Recorder}
    {events : List RecordingEvent} (conducts : s.recorder.Conducts orders r')
    (act : s.recorder.reel.Act events r'.reel) : Staffed ⟨r', s.crew.obeyAll orders⟩ := by
  have matched : (s.crew.obeyAll orders).Matches r'.timers := by
    rw [conducts.timers]
    exact staffed.matched.obeyAll conducts.safe
  have belongs : ∀ task ∈ (s.crew.obeyAll orders).working, task.job.Belongs r' := by
    intro task works
    have isSet := (matched.account task.job task.mark).mpr ⟨task, works, rfl, rfl⟩
    exact conducts.armed.belongs task.job task.mark isSet
  refine ⟨conducts.armed, matched, ?_⟩
  intro task works event told
  rcases Crew.working_obeyAll works with before | begun
  · have log : r'.log = s.recorder.log ++ events := act.log
    rw [log, List.drop_append, List.mem_append] at told
    rcases told with earlier | now
    · exact staffed.current task before event earlier
    · exact Job.survives_of_act act (staffed.belongs before).lasts (belongs task works).lasts event
        (List.mem_of_mem_drop now)
  · exact conducts.fresh task.job task.mark task.since begun event told

/-- A task is over, and nothing else has happened. -/
theorem Staffed.strike (staffed : s.Staffed) (works : task ∈ s.crew.working) {job : Job}
    (atJob : task.job = job) :
    Staffed ⟨{ s.recorder with timers := s.recorder.timers.set none job },
      s.crew.strike task.number⟩ where
  armed := staffed.armed.unset job
  matched := atJob ▸ staffed.matched.strike works
  current := fun other works => staffed.current other (List.mem_filter.mp works).1

theorem Staffed.postpone (staffed : s.Staffed) (works : task ∈ s.crew.working)
    (atJob : task.job = .handOut) (mark : Nat) :
    Staffed ⟨{ s.recorder with timers := s.recorder.timers.set (some mark) .handOut },
      s.crew.postpone task.number mark⟩ where
  armed := by
    have belongs := staffed.belongs works
    rw [atJob] at belongs
    exact staffed.armed.set .handOut belongs nofun mark
  matched := atJob ▸ staffed.matched.postpone works mark
  current := by
    simp only [Crew.postpone, List.forall_mem_map]
    intro other works event told
    split at told <;> split <;> exact staffed.current other works event told

/-- Something happens in the capture alone. -/
theorem Staffed.captures (staffed : s.Staffed) {capture : Capture}
    (runs : capture.runs = s.recorder.capture.runs) :
    Staffed ⟨{ s.recorder with capture }, s.crew⟩ where
  armed := staffed.armed.of_eq rfl rfl rfl runs
  matched := staffed.matched
  current := staffed.current

theorem Acts.staffed (act : s.Acts task s') (works : task ∈ s.crew.working)
    (inStep : s.recorder.reel.InStep) (staffed : s.Staffed) : s'.Staffed := by
  obtain ⟨events, acted⟩ := act.act inStep
  cases act with
  | limit job =>
      have struck := staffed.strike works job
      exact struck.obeys (Recorder.conducts_tellLimit struck.armed rfl) acted
  | @handOut job due records next again =>
      have postponed := staffed.postpone works job next
      exact postponed.obeys (Recorder.conducts_flushPending postponed.armed) acted
  | leaves job => exact staffed.strike works job
  | resume job =>
      have struck := staffed.strike works job
      exact struck.obeys (Recorder.conducts_goOn struck.armed rfl) acted
  | faults job =>
      have struck := staffed.strike works job
      exact struck.obeys (Recorder.conducts_hearFault struck.armed rfl _) acted

theorem Next.staffed (next : s.Next s') (inStep : s.recorder.reel.InStep) (staffed : s.Staffed) :
    s'.Staffed := by
  cases next with
  | takes input =>
      obtain ⟨events, act⟩ := Recorder.act_operate inStep input
      exact staffed.obeys (Recorder.conducts_operate staffed.armed input) act
  | ticks =>
      refine staffed.captures ?_
      unfold Capture.fire
      dsimp only
      split <;> rfl
  | fails => exact staffed.captures rfl
  | acts task works act => exact act.staffed works inStep staffed

theorem Reachable.staffed (reachable : s.Reachable) : s.Staffed := by
  induction reachable with
  | made isNew =>
      refine ⟨Recorder.armed_of_none isNew.timers, ?_, nofun⟩
      rw [isNew.timers]
      exact Crew.matches_none
  | next reachable next ih => exact next.staffed reachable.inStep ih

/-- There is at most one task for each job, only while the recorder is in a state that calls for it,
    and nothing that was told since the task began has ended what it was begun for. Only a task that
    is at work can act, so none acts in a later recording, or in a later stretch or pause of one. -/
theorem tasks_in_place (reachable : s.Reachable) :
    (∀ job, (s.crew.working.filter (·.job = job)).length ≤ 1) ∧
      (∀ task ∈ s.crew.working, task.job.Belongs s.recorder) ∧
      ∀ task ∈ s.crew.working, ∀ event ∈ s.recorder.log.drop task.since,
        task.job.Survives event := by
  have staffed := reachable.staffed
  exact ⟨staffed.matched.alone, fun task => staffed.belongs, staffed.current⟩

theorem tasks_in_place_hidden :
    let r : Recorder :=
      { options := { maxDuration := 1000 }, capture := { encoder := { timeslice := 100 } } }
    let s := (Studio.mk r {}).take .start |>.take (.setVisibility .hidden) |>.take
      (.setVisibility .visible)
    s.Reachable ∧ s.crew.begun = 4 ∧ s.crew.working.map (·.job) = [.faults, .resume] ∧
      (∀ job, (s.crew.working.filter (·.job = job)).length ≤ 1) ∧
      (∀ task ∈ s.crew.working, task.job.Belongs s.recorder) ∧
      ∀ task ∈ s.crew.working, ∀ event ∈ s.recorder.log.drop task.since,
        task.job.Survives event := by
  intro r s
  have made := Reachable.made (Recorder.isNew { maxDuration := 1000 } 100)
  have hidden := (made.next (.takes .start)).next (.takes (.setVisibility .hidden))
  have reachable : s.Reachable := hidden.next (.takes (.setVisibility .visible))
  exact ⟨reachable, by decide, by decide, tasks_in_place reachable⟩

end Studio

end Viva
