import Viva.Proofs.Recorder.Studio

/-! # Tasks and timers

A crew matches some timers if the timers that are set are those that a task works for, one task for
each, and there is a handle on it (`Crew.Matches`). Then the task of a timer can be stopped. Orders are
looked at one by one: as long as a task is only begun for a timer that is not set (`Order.Safe`), the
crew that obeys them matches the timers in which they are noted.
-/

namespace Viva

namespace Timers

def of (timers : Timers) : Job → Option Nat
  | .limit => timers.maxDuration
  | .handOut => timers.chunkFlush
  | .resume => timers.visibilityResume
  | .faults => timers.faultWatch

def set (timers : Timers) (mark : Option Nat) : Job → Timers
  | .limit => { timers with maxDuration := mark }
  | .handOut => { timers with chunkFlush := mark }
  | .resume => { timers with visibilityResume := mark }
  | .faults => { timers with faultWatch := mark }

@[simp] theorem of_set (timers : Timers) (mark : Option Nat) (job other : Job) :
    (timers.set mark job).of other = if other = job then mark else timers.of other := by
  cases job <;> cases other <;> rfl

@[simp] theorem of_none (job : Job) : ({} : Timers).of job = none := by
  cases job <;> rfl

end Timers

/-! ## Timers and tasks -/

namespace Crew

/-- The timers that are set are those that some task works for, and the recorder has a handle on the
    task. -/
structure Matches (crew : Crew) (timers : Timers) : Prop where
  account : ∀ job mark, timers.of job = some mark ↔
    ∃ task ∈ crew.working, task.job = job ∧ task.mark = mark
  apart : crew.working.Pairwise (·.job ≠ ·.job)
  held : ∀ task ∈ crew.working, crew.handle task.job = some task.number
  named : ∀ task ∈ crew.working, ∀ job, crew.handle job = some task.number → job = task.job
  bound : ∀ job number, crew.handle job = some number → number < crew.begun

variable {crew : Crew} {timers : Timers}

theorem matches_none : ({} : Crew).Matches {} where
  account := fun job mark => by simp
  apart := .nil
  held := fun task works => by cases works
  named := fun task works => by cases works
  bound := fun job number handle => by cases handle

/-- At most one task works for a job. -/
theorem Matches.alone (matched : crew.Matches timers) (job : Job) :
    (crew.working.filter (·.job = job)).length ≤ 1 := by
  have apart : (crew.working.filter (·.job = job)).Pairwise (·.job ≠ ·.job) :=
    matched.apart.sublist List.filter_sublist
  have atJob : ∀ task ∈ crew.working.filter (·.job = job), task.job = job := by simp
  generalize crew.working.filter (·.job = job) = tasks at apart atJob ⊢
  match tasks with
  | [] | [_] => simp
  | first :: second :: rest =>
      have ne := List.rel_of_pairwise_cons apart List.mem_cons_self
      have same := (atJob first (by simp)).trans (atJob second (by simp)).symm
      exact absurd same ne

theorem Matches.job_ne (matched : crew.Matches timers) {job : Job} (unset : timers.of job = none) :
    ∀ task ∈ crew.working, task.job ≠ job := by
  intro task works same
  have isSet := (matched.account job task.mark).mpr ⟨task, works, same, rfl⟩
  rw [unset] at isSet
  cases isSet

theorem Matches.start (matched : crew.Matches timers) {job : Job} (unset : timers.of job = none)
    (mark since : Nat) : (crew.start job mark since).Matches (timers.set (some mark) job) := by
  have others := matched.job_ne unset
  have old : ∀ task ∈ crew.working, task.number < crew.begun :=
    fun task works => matched.bound task.job task.number (matched.held task works)
  constructor
  · intro other mark'
    have account := matched.account other mark'
    simp only [Timers.of_set, Crew.start, setHandle, List.mem_append, List.mem_singleton]
    by_cases same : other = job
    · subst same
      simp only [if_true, Option.some.injEq]
      constructor
      · rintro rfl
        exact ⟨_, .inr rfl, rfl, rfl⟩
      · rintro ⟨task, works | rfl, atJob, atMark⟩
        · exact absurd atJob (others task works)
        · exact atMark
    · simp only [if_neg same, account]
      constructor
      · rintro ⟨task, works, rest⟩
        exact ⟨task, .inl works, rest⟩
      · rintro ⟨task, works | rfl, atJob, atMark⟩
        · exact ⟨task, works, atJob, atMark⟩
        · exact absurd atJob.symm same
  · refine List.pairwise_append.mpr ⟨matched.apart, List.pairwise_singleton _ _, ?_⟩
    intro task works new isNew
    rw [List.mem_singleton] at isNew
    subst isNew
    exact others task works
  · intro task works
    simp only [Crew.start, setHandle, List.mem_append, List.mem_singleton] at works ⊢
    rcases works with works | rfl
    · rw [if_neg (others task works)]
      exact matched.held task works
    · exact if_pos rfl
  · intro task works other handle
    simp only [Crew.start, setHandle, List.mem_append, List.mem_singleton] at works handle
    by_cases same : other = job
    · subst same
      rcases works with works | rfl
      · simp only [if_true, Option.some.injEq] at handle
        have := old task works
        omega
      · rfl
    · rw [if_neg same] at handle
      rcases works with works | rfl
      · exact matched.named task works other handle
      · have := matched.bound other _ handle
        exact absurd this (Nat.lt_irrefl _)
  · intro other number handle
    simp only [Crew.start, setHandle] at handle ⊢
    split at handle
    · cases handle
      exact Nat.lt_succ_self _
    · exact Nat.lt_succ_of_lt (matched.bound other number handle)

/-- The task of a job is gone, whichever way. -/
theorem Matches.without (matched : crew.Matches timers) {crew' : Crew} {job : Job}
    (fewer : crew'.working.Sublist crew.working)
    (gone : ∀ task ∈ crew.working, task ∈ crew'.working ↔ task.job ≠ job)
    (begun : crew'.begun = crew.begun)
    (handle : ∀ other number, crew'.handle other = some number → crew.handle other = some number)
    (kept : ∀ other, other ≠ job → crew'.handle other = crew.handle other) :
    crew'.Matches (timers.set none job) := by
  have before {task : Task} (works : task ∈ crew'.working) :
      task ∈ crew.working ∧ task.job ≠ job :=
    ⟨fewer.subset works, (gone task (fewer.subset works)).mp works⟩
  constructor
  · intro other mark
    rw [Timers.of_set]
    split
    · rename_i same
      subst same
      simp only [reduceCtorEq, false_iff, not_exists, not_and]
      exact fun task works atJob => absurd atJob (before works).2
    · rename_i ne
      rw [matched.account]
      constructor
      · rintro ⟨task, works, rfl, atMark⟩
        exact ⟨task, (gone task works).mpr ne, rfl, atMark⟩
      · rintro ⟨task, works, rest⟩
        exact ⟨task, (before works).1, rest⟩
  · exact matched.apart.sublist fewer
  · intro task works
    rw [kept _ (before works).2]
    exact matched.held task (before works).1
  · intro task works other here
    exact matched.named task (before works).1 other (handle other _ here)
  · intro other number here
    rw [begun]
    exact matched.bound other number (handle other number here)

theorem Matches.number_ne (matched : crew.Matches timers) {job : Job} {number : Nat}
    (handle : crew.handle job = some number) :
    ∀ task ∈ crew.working, task.number ≠ number ↔ task.job ≠ job := by
  intro task works
  refine not_congr ⟨?_, ?_⟩
  · rintro rfl
    exact (matched.named task works job handle).symm
  · rintro rfl
    have held := matched.held task works
    rw [handle] at held
    exact (Option.some.inj held).symm

theorem setHandle_none {job other : Job} {number : Nat}
    (handle : (crew.setHandle job none).handle other = some number) :
    crew.handle other = some number := by
  simp only [setHandle] at handle
  split at handle
  · cases handle
  · exact handle

theorem Matches.stop (matched : crew.Matches timers) (job : Job) :
    (crew.stop job).Matches (timers.set none job) := by
  unfold Crew.stop
  split
  · rename_i number handle
    refine matched.without List.filter_sublist ?_ rfl (fun _ _ => setHandle_none) ?_
    · intro task works
      simp only [strike, setHandle, List.mem_filter, works, true_and, bne_iff_ne]
      exact matched.number_ne handle task works
    · intro other ne
      exact if_neg ne
  · rename_i noHandle
    refine matched.without (.refl _) ?_ rfl (fun _ _ => id) (fun _ _ => rfl)
    intro task works
    simp only [works, true_iff]
    rintro rfl
    have held := matched.held task works
    rw [noHandle] at held
    cases held

theorem Matches.release (matched : crew.Matches timers) {job : Job} (unset : timers.of job = none) :
    (crew.setHandle job none).Matches (timers.set none job) := by
  refine matched.without (.refl _) ?_ rfl (fun _ _ => setHandle_none) ?_
  · intro task works
    exact iff_of_true works (matched.job_ne unset task works)
  · intro other ne
    exact if_neg ne

theorem Matches.strike (matched : crew.Matches timers) {task : Task} (works : task ∈ crew.working) :
    (crew.strike task.number).Matches (timers.set none task.job) := by
  refine matched.without List.filter_sublist ?_ rfl (fun _ _ => id) (fun _ _ => rfl)
  intro other here
  simp only [Crew.strike, List.mem_filter, here, true_and, bne_iff_ne]
  exact matched.number_ne (matched.held task works) other here

theorem Matches.postpone (matched : crew.Matches timers) {task : Task}
    (works : task ∈ crew.working) (mark : Nat) :
    (crew.postpone task.number mark).Matches (timers.set (some mark) task.job) := by
  have number := matched.number_ne (matched.held task works)
  have job (other : Task) :
      (if other.number = task.number then { other with mark } else other).job = other.job := by
    split <;> rfl
  have same (other : Task) :
      (if other.number = task.number then { other with mark } else other).number =
        other.number := by
    split <;> rfl
  constructor
  · intro other mark'
    rw [Timers.of_set]
    simp only [Crew.postpone, List.mem_map]
    split
    · rename_i here
      subst here
      constructor
      · rintro marked
        refine ⟨_, ⟨task, works, rfl⟩, job task, ?_⟩
        rw [if_pos rfl]
        exact Option.some.inj marked
      · rintro ⟨_, ⟨before, here, rfl⟩, atJob, atMark⟩
        have atNumber : before.number = task.number :=
          Decidable.not_not.mp fun ne => (number before here).mp ne ((job before).symm.trans atJob)
        rw [if_pos atNumber] at atMark
        exact congrArg some atMark
    · rename_i ne
      rw [matched.account]
      constructor
      · rintro ⟨before, here, rfl, atMark⟩
        refine ⟨before, ⟨before, here, ?_⟩, rfl, atMark⟩
        exact if_neg ((number before here).mpr ne)
      · rintro ⟨_, ⟨before, here, rfl⟩, atJob, atMark⟩
        have apart : before.number ≠ task.number := by
          refine (number before here).mpr ?_
          rwa [← job before, atJob]
        rw [if_neg apart] at atJob atMark
        exact ⟨before, here, atJob, atMark⟩
  · rw [Crew.postpone, List.pairwise_map]
    simp only [job]
    exact matched.apart
  · simp only [Crew.postpone, List.forall_mem_map, job, same]
    exact matched.held
  · simp only [Crew.postpone, List.forall_mem_map, job, same]
    exact matched.named
  · exact matched.bound

end Crew

/-! ## Orders -/

namespace Order

/-- What an order does to the timers. -/
def note (timers : Timers) : Order → Timers
  | start job mark _ => timers.set (some mark) job
  | stop job | release job => timers.set none job

def noteAll (timers : Timers) (orders : List Order) : Timers :=
  orders.foldl note timers

/-- A task is begun, or the handle on it given up, only when there is none. -/
def Fits (timers : Timers) : Order → Prop
  | start job _ _ | release job => timers.of job = none
  | stop _ => True

def Safe (timers : Timers) : List Order → Prop
  | [] => True
  | order :: rest => order.Fits timers ∧ Safe (order.note timers) rest

theorem noteAll_append (timers : Timers) (orders more : List Order) :
    noteAll timers (orders ++ more) = noteAll (noteAll timers orders) more :=
  List.foldl_append

theorem safe_append {timers : Timers} {orders more : List Order} :
    Safe timers (orders ++ more) ↔ Safe timers orders ∧ Safe (noteAll timers orders) more := by
  induction orders generalizing timers with
  | nil => simp [Safe, noteAll]
  | cons order rest ih =>
      simp only [List.cons_append, Safe, ih, and_assoc]
      rfl

theorem safe_of_stops {timers : Timers} {orders : List Order}
    (stops : ∀ order ∈ orders, ∃ job, order = .stop job) : Safe timers orders := by
  induction orders generalizing timers with
  | nil => trivial
  | cons order rest ih =>
      obtain ⟨⟨job, rfl⟩, others⟩ := List.forall_mem_cons.mp stops
      exact ⟨trivial, ih others⟩

end Order

theorem Crew.Matches.obey {crew : Crew} {timers : Timers} (matched : crew.Matches timers)
    {order : Order} (fits : order.Fits timers) : (crew.obey order).Matches (order.note timers) := by
  cases order with
  | start job mark since => exact matched.start fits mark since
  | stop job => exact matched.stop job
  | release job => exact matched.release fits

theorem Crew.Matches.obeyAll {crew : Crew} {timers : Timers} (matched : crew.Matches timers)
    {orders : List Order} (safe : Order.Safe timers orders) :
    (crew.obeyAll orders).Matches (Order.noteAll timers orders) := by
  induction orders generalizing crew timers with
  | nil => exact matched
  | cons order rest ih => exact ih (matched.obey safe.1) safe.2

theorem Crew.working_obey {crew : Crew} {order : Order} {task : Task}
    (works : task ∈ (crew.obey order).working) :
    task ∈ crew.working ∨ order = .start task.job task.mark task.since := by
  cases order with
  | start job mark since =>
      simp only [obey, start, setHandle, List.mem_append, List.mem_singleton] at works
      rcases works with works | rfl
      · exact .inl works
      · exact .inr rfl
  | stop job =>
      simp only [obey, stop] at works
      split at works
      · exact .inl (List.mem_filter.mp works).1
      · exact .inl works
  | release job => exact .inl works

/-- Whoever works after some orders worked before, or one of the orders has begun it. -/
theorem Crew.working_obeyAll {crew : Crew} {orders : List Order} {task : Task}
    (works : task ∈ (crew.obeyAll orders).working) :
    task ∈ crew.working ∨ .start task.job task.mark task.since ∈ orders := by
  induction orders generalizing crew with
  | nil => exact .inl works
  | cons order rest ih =>
      rcases ih works with earlier | later
      · rcases working_obey earlier with before | rfl
        · exact .inl before
        · exact .inr List.mem_cons_self
      · exact .inr (List.mem_cons_of_mem _ later)

end Viva
