import Viva.Proofs.Recorder.Pausing

/-! # When a recording goes on by itself

A pause that is there since the page is hidden ends some time after the page is visible again, if
nobody intervenes and the page is not reported again meanwhile. Everything that may intervene is an
input, so this is about the inputs since the page was hidden (`Recorder.Undisturbed`), and about what they
make of a `Pause`.
-/

namespace Viva.Recorder

/-- A report of the page's visibility. -/
def Input.report? : Input → Option Visibility
  | .setVisibility visibility => some visibility
  | _ => none

def reports (inputs : List Input) : List Visibility := inputs.filterMap Input.report?

/-- The inputs before any time passes. -/
def atOnce (inputs : List Input) : List Input := inputs.takeWhile (·.time = 0)

/-- The inputs since some time has passed. -/
def later (inputs : List Input) : List Input := inputs.dropWhile (·.time = 0)

theorem instant_cons {input : Input} (instant : input.time = 0) (rest : List Input) :
    atOnce (input :: rest) = input :: atOnce rest ∧ later (input :: rest) = later rest :=
  ⟨List.takeWhile_cons_of_pos (decide_eq_true instant),
    List.dropWhile_cons_of_pos (decide_eq_true instant)⟩

theorem passing_cons {input : Input} (passes : input.time ≠ 0) (rest : List Input) :
    atOnce (input :: rest) = [] ∧ later (input :: rest) = input :: rest := by
  have fails : ¬ decide (input.time = 0) = true := fun zero => passes (of_decide_eq_true zero)
  exact ⟨List.takeWhile_cons_of_neg fails, List.dropWhile_cons_of_neg fails⟩

/-- Nobody does anything about a pause. -/
def Unattended (inputs : List Input) : Prop :=
  ∀ input ∈ inputs, input ≠ .pause ∧ input.endsPause = false

theorem unattended_cons {input : Input} {rest : List Input} : Unattended (input :: rest) ↔
    (input ≠ .pause ∧ input.endsPause = false) ∧ Unattended rest :=
  List.forall_mem_cons

theorem unattended_append {inputs more : List Input} :
    Unattended (inputs ++ more) ↔ Unattended inputs ∧ Unattended more :=
  List.forall_mem_append

/-- Nothing comes between a page that is hidden, then visible, and the end of the pause. Of several
    reports at the instant at which it is visible, the last one counts. -/
structure Undisturbed (between after : List Input) : Prop where
  unattended : Unattended (between ++ after)
  visible : (reports (atOnce after)).getLastD .visible = .visible
  unreported : reports (later after) = []

theorem undisturbed_iff {between after : List Input} : Undisturbed between after ↔
    Unattended between ∧ Unattended after ∧
      (reports (atOnce after)).getLastD .visible = .visible ∧ reports (later after) = [] := by
  constructor
  · rintro ⟨unattended, visible, unreported⟩
    obtain ⟨before, since⟩ := unattended_append.mp unattended
    exact ⟨before, since, visible, unreported⟩
  · rintro ⟨before, since, visible, unreported⟩
    exact ⟨unattended_append.mpr ⟨before, since⟩, visible, unreported⟩

/-- The recorder is paused until a time, and then goes on. -/
structure GoesOn (r : Recorder) (inputs : List Input) (time : Nat) : Prop where
  paused : r.Throughout (fun m => m.now < time → m.state = .paused) inputs
  goesOn : r.GoesOnFrom (r.run inputs)

/-! ## What inputs make of a pause -/

namespace Pause

variable {delay now time : Nat} {pause next last : Pause} {input : Input} {inputs : List Input}

theorem byPage_after (lasts : pause.after delay now input = some next) :
    (next.byPage = true ↔ pause.byPage = true ∧ input ≠ .pause) ∧ input.endsPause = false := by
  cases input with
  | resume | stop | abandon | reset => cases lasts
  | pause =>
      cases lasts
      exact ⟨⟨nofun, fun byPage => absurd rfl byPage.2⟩, rfl⟩
  | setVisibility visibility =>
      cases visibility with
      | hidden =>
          cases lasts
          exact ⟨(and_iff_left nofun).symm, rfl⟩
      | visible =>
          refine ⟨?_, rfl⟩
          rw [after_visible] at lasts
          split at lasts
          · split at lasts
            · cases lasts
            · cases lasts
              exact (and_iff_left nofun).symm
          · cases lasts
            exact (and_iff_left nofun).symm
  | elapse ms =>
      rw [after_elapse] at lasts
      split at lasts
      · cases lasts
      · cases lasts
        exact ⟨(and_iff_left nofun).symm, rfl⟩
  | prepare | start | setAudio | share | setOutcome =>
      cases lasts
      exact ⟨(and_iff_left nofun).symm, rfl⟩

/-- A pause that is the page's stays so as long as nobody does anything about it. -/
theorem byPage_follow (follows : pause.follow delay now inputs = some last) :
    last.byPage = true ↔ pause.byPage = true ∧ Unattended inputs := by
  induction inputs generalizing pause now with
  | nil =>
      cases follows
      exact (and_iff_left nofun).symm
  | cons input rest ih =>
      obtain ⟨next, lasts, follows⟩ := Option.bind_eq_some_iff.mp follows
      obtain ⟨reason, unended⟩ := byPage_after lasts
      rw [ih follows, reason, unattended_cons, and_assoc]
      simp only [unended, and_true]

/-- A pause that is the learner's own is not ended by the page. -/
theorem follow_of_manual (lasts : ∀ input ∈ inputs, input.endsPause = false) :
    follow delay now ⟨false, none⟩ inputs = some ⟨false, none⟩ := by
  induction inputs generalizing now with
  | nil => rfl
  | cons input rest ih =>
      rw [List.forall_mem_cons] at lasts
      have stays : after delay now ⟨false, none⟩ input = some ⟨false, none⟩ := by
        cases input with
        | resume | stop | abandon | reset => cases lasts.1
        | setVisibility visibility => cases visibility <;> rfl
        | _ => rfl
      rw [follow, stays]
      exact ih lasts.2

/-- The pause ends neither at a time nor, by a report from now on, at that time. -/
structure Misses (delay now time : Nat) (pause : Pause) : Prop where
  endsAt : pause.endsAt ≠ some time
  late : pause.byPage = true → time < now + delay

theorem Misses.after (misses : Misses delay now time pause)
    (lasts : pause.after delay now input = some next) :
    Misses delay (now + input.time) time next := by
  have same : Misses delay (now + input.time) time pause :=
    ⟨misses.endsAt, fun byPage => by have := misses.late byPage; omega⟩
  cases input with
  | resume | stop | abandon | reset => cases lasts
  | pause =>
      cases lasts
      exact ⟨nofun, nofun⟩
  | setVisibility visibility =>
      cases visibility with
      | hidden =>
          cases lasts
          exact ⟨nofun, same.late⟩
      | visible =>
          rw [after_visible] at lasts
          split at lasts
          · rename_i byPage
            split at lasts
            · cases lasts
            · cases lasts
              refine ⟨fun ends => ?_, same.late⟩
              have late := misses.late byPage
              rw [Option.some.injEq] at ends
              omega
          · cases lasts
            exact same
  | elapse ms =>
      rw [after_elapse] at lasts
      split at lasts
      · cases lasts
      · cases lasts
        exact same
  | prepare | start | setAudio | share | setOutcome =>
      cases lasts
      exact same

/-- After some inputs there is still a pause, and it is going to end at a time. -/
def EndsAt (delay now : Nat) (pause : Pause) (inputs : List Input) (time : Nat) : Prop :=
  ∃ last, pause.follow delay now inputs = some last ∧ last.endsAt = some time

theorem endsAt_cons {rest : List Input} : pause.EndsAt delay now (input :: rest) time ↔
    ∃ next, pause.after delay now input = some next ∧
      next.EndsAt delay (now + input.time) rest time := by
  unfold EndsAt
  rw [follow]
  cases pause.after delay now input <;> simp

theorem endsAt_of_after {rest : List Input} (lasts : pause.after delay now input = some next) :
    pause.EndsAt delay now (input :: rest) time ↔
      next.EndsAt delay (now + input.time) rest time := by
  rw [endsAt_cons, lasts]
  exact ⟨fun ⟨_, same, ends⟩ => Option.some.inj same ▸ ends, fun ends => ⟨next, rfl, ends⟩⟩

theorem Misses.not_endsAt (misses : Misses delay now time pause) :
    ¬ pause.EndsAt delay now inputs time := by
  induction inputs generalizing pause now with
  | nil =>
      rintro ⟨last, ⟨⟩, ends⟩
      exact misses.endsAt ends
  | cons input rest ih =>
      rw [endsAt_cons]
      rintro ⟨next, lasts, ends⟩
      exact ih (misses.after lasts) ends

/-- Whatever else is done about a pause, it does not end at that time by itself. -/
theorem not_endsAt_of_attended {rest : List Input}
    (attended : ¬ (input ≠ .pause ∧ input.endsPause = false)) :
    ¬ pause.EndsAt delay now (input :: rest) time := by
  rw [endsAt_cons]
  rintro ⟨next, lasts, ends⟩
  have paused : input = .pause := by
    by_contra other
    exact attended ⟨other, (byPage_after lasts).2⟩
  rw [paused] at lasts
  cases lasts
  have misses : Misses delay (now + input.time) time ⟨false, none⟩ := ⟨nofun, nofun⟩
  exact misses.not_endsAt ends

/-- What is neither done about a pause nor a report does nothing to it before it ends. -/
theorem after_of_quiet (unattended : input ≠ .pause ∧ input.endsPause = false)
    (unreported : input.report? = none) (early : pause.endsBy (now + input.time) = false) :
    pause.after delay now input = some pause := by
  cases input with
  | resume | stop | abandon | reset => cases unattended.2
  | pause => exact absurd rfl unattended.1
  | setVisibility visibility => cases unreported
  | elapse ms =>
      rw [after_elapse, show pause.endsBy (now + ms) = false from early]
      rfl
  | prepare | start | setAudio | share | setOutcome => rfl

theorem eq_setVisibility {visibility : Visibility} (reported : input.report? = some visibility) :
    input = .setVisibility visibility := by
  cases input <;> cases reported
  rfl

theorem reports_of_none {rest : List Input} (unreported : input.report? = none) :
    reports (input :: rest) = reports rest :=
  List.filterMap_cons_none unreported

theorem reports_of_some {rest : List Input} {visibility : Visibility}
    (reported : input.report? = some visibility) :
    reports (input :: rest) = visibility :: reports rest :=
  List.filterMap_cons_some reported

/-- What a report makes of a pause that is the page's. -/
def shown (time : Nat) : Visibility → Pause
  | .visible => ⟨true, some time⟩
  | .hidden => ⟨true, none⟩

theorem byPage_shown (time : Nat) (visibility : Visibility) : (shown time visibility).byPage = true := by
  cases visibility <;> rfl

theorem after_report (delayed : delay ≠ 0) (byPage : pause.byPage = true) (now : Nat)
    (visibility : Visibility) :
    pause.after delay now (.setVisibility visibility) = some (shown (now + delay) visibility) := by
  obtain ⟨_, endsAt⟩ := pause
  obtain rfl : _ = true := byPage
  cases visibility with
  | hidden => rfl
  | visible =>
      rw [after_visible, if_pos rfl, if_neg delayed]
      rfl

theorem endsBy_shown (visibility : Visibility) (lt : now < time) :
    (shown time visibility).endsBy now = false := by
  cases visibility with
  | hidden => rfl
  | visible => exact decide_eq_false (Nat.not_le_of_lt lt)

/-- Once time has passed, every report puts off the end of a pause, and everything that is done
    about it as well. -/
theorem endsAt_iff_unreported (passed : time < now + delay) (soon : now + timeOf inputs < time) :
    (shown time .visible).EndsAt delay now inputs time ↔
      Unattended inputs ∧ reports inputs = [] := by
  induction inputs generalizing now with
  | nil => exact ⟨fun _ => ⟨nofun, rfl⟩, fun _ => ⟨_, rfl, rfl⟩⟩
  | cons input rest ih =>
      have time_cons : timeOf (input :: rest) = input.time + timeOf rest := rfl
      rw [unattended_cons]
      by_cases unattended : input ≠ .pause ∧ input.endsPause = false
      · cases reported : input.report? with
        | none =>
            have stays : (shown time .visible).after delay now input = some (shown time .visible) :=
              after_of_quiet unattended reported (endsBy_shown .visible (by omega))
            rw [endsAt_of_after stays, ih (by omega) (by omega), reports_of_none reported]
            exact and_congr_left' (and_iff_right unattended).symm
        | some visibility =>
            obtain rfl := eq_setVisibility reported
            rw [reports_of_some reported, endsAt_of_after (after_report (by omega) rfl now visibility)]
            refine iff_of_false (Misses.not_endsAt ⟨fun ends => ?_, fun _ => passed⟩) nofun
            cases visibility with
            | hidden => cases ends
            | visible =>
                have same : now + delay = time := Option.some.inj ends
                omega
      · exact iff_of_false (not_endsAt_of_attended unattended) fun quiet => unattended quiet.1.1

/-- Of the reports at one instant the last one counts, and there may be none later. -/
theorem endsAt_iff_last {visibility : Visibility} (soon : timeOf inputs < delay) :
    (shown (now + delay) visibility).EndsAt delay now inputs (now + delay) ↔
      Unattended inputs ∧ (reports (atOnce inputs)).getLastD visibility = .visible ∧
        reports (later inputs) = [] := by
  induction inputs generalizing visibility with
  | nil =>
      refine ⟨fun ⟨last, follows, ends⟩ => ⟨nofun, ?_, rfl⟩, fun ⟨_, last, _⟩ => ⟨_, rfl, ?_⟩⟩
      · cases follows
        cases visibility with
        | visible => rfl
        | hidden => cases ends
      · rw [show visibility = .visible from last]
        rfl
  | cons input rest ih =>
      have time_cons : timeOf (input :: rest) = input.time + timeOf rest := rfl
      rw [unattended_cons]
      by_cases unattended : input ≠ .pause ∧ input.endsPause = false
      · cases reported : input.report? with
        | some report =>
            obtain rfl := eq_setVisibility reported
            have delayed : delay ≠ 0 := by omega
            have byPage := byPage_shown (now + delay) visibility
            have instant : Input.time (.setVisibility report) = 0 := rfl
            obtain ⟨now_cons, later_cons⟩ := instant_cons instant rest
            rw [endsAt_of_after (after_report delayed byPage now report), instant, Nat.add_zero,
              ih (by omega), now_cons, later_cons, reports_of_some reported, List.getLastD_cons]
            exact and_congr_left' (and_iff_right unattended).symm
        | none =>
            have stays : (shown (now + delay) visibility).after delay now input =
                some (shown (now + delay) visibility) :=
              after_of_quiet unattended reported (endsBy_shown visibility (by omega))
            rw [endsAt_of_after stays]
            by_cases instant : input.time = 0
            · obtain ⟨now_cons, later_cons⟩ := instant_cons instant rest
              rw [instant, Nat.add_zero, ih (by omega), now_cons, later_cons, reports_of_none reported]
              exact and_congr_left' (and_iff_right unattended).symm
            · obtain ⟨now_cons, later_cons⟩ := passing_cons instant rest
              rw [now_cons, later_cons, reports_of_none reported]
              cases visibility with
              | visible =>
                  rw [endsAt_iff_unreported (by omega) (by omega)]
                  constructor
                  · exact fun ⟨others, unreported⟩ => ⟨⟨unattended, others⟩, rfl, unreported⟩
                  · exact fun ⟨⟨_, others⟩, _, unreported⟩ => ⟨others, unreported⟩
              | hidden =>
                  have misses : Misses delay (now + input.time) (now + delay) (shown (now + delay) .hidden) :=
                    ⟨nofun, fun _ => by omega⟩
                  exact iff_of_false misses.not_endsAt nofun
      · exact iff_of_false (not_endsAt_of_attended unattended) fun quiet => unattended quiet.1.1

end Pause

/-! ## What becomes of the recorder -/

section
variable {r r' : Recorder} {pause : Pause}

theorem Rests.not_goesOn (rests : r.Rests r') : ¬ r.GoesOnFrom r' := by
  rintro ⟨more, log⟩
  rw [rests.log] at log
  exact List.cons_ne_nil _ _ (List.append_right_eq_self.mp log.symm)

theorem Rests.goesOn_iff (rests : r.Rests r') (r'' : Recorder) :
    r.GoesOnFrom r'' ↔ r'.GoesOnFrom r'' := by
  rw [GoesOnFrom, GoesOnFrom, rests.log]

theorem endsBy_iff {time : Nat} : pause.endsBy time = true ↔
    ∃ due, pause.endsAt = some due ∧ due ≤ time := by
  obtain ⟨byPage, _ | due⟩ := pause
  · exact ⟨nofun, nofun⟩
  · exact ⟨fun ends => ⟨due, rfl, of_decide_eq_true ends⟩,
      fun ⟨_, same, ends⟩ => decide_eq_true (Option.some.inj same ▸ ends)⟩

theorem AtRest.paused_elapse_iff (atRest : r.AtRest) (pausing : r.pausing = some pause) (ms : Nat) :
    (r.elapse ms).state = .paused ↔ pause.endsBy (r.now + ms) = false := by
  have passes := atRest.pausing_elapse pausing ms
  generalize pause.endsBy (r.now + ms) = ended at passes ⊢
  cases passes with
  | waits pausing rests => exact iff_of_true (pausing_eq_some.mp pausing).1 rfl
  | goesOn other goesOn => exact iff_of_false other nofun

theorem AtRest.goesOn_elapse_iff (atRest : r.AtRest) (pausing : r.pausing = some pause) (ms : Nat) :
    r.GoesOnFrom (r.elapse ms) ↔ pause.endsBy (r.now + ms) = true := by
  have passes := atRest.pausing_elapse pausing ms
  generalize pause.endsBy (r.now + ms) = ended at passes ⊢
  cases passes with
  | waits pausing rests => exact iff_of_false rests.not_goesOn nofun
  | goesOn other goesOn => exact iff_of_true goesOn rfl

/-- A pause lasts until the time at which it is to end, and the recorder goes on then. -/
theorem AtRest.goesOn_then_iff (atRest : r.AtRest) (pausing : r.pausing = some pause) {ms : Nat}
    (passes : ms ≠ 0) : r.GoesOn [.elapse ms] (r.now + ms) ↔ pause.endsAt = some (r.now + ms) := by
  constructor
  · rintro ⟨paused, goesOn⟩
    obtain ⟨due, endsAt, soon⟩ := endsBy_iff.mp ((atRest.goesOn_elapse_iff pausing ms).mp goesOn)
    have before : (r.elapse (ms - 1)).now < r.now + ms := by
      rw [atRest.now_elapse]
      omega
    have early := (atRest.paused_elapse_iff pausing _).mp (paused.1 (ms - 1) (Nat.sub_le ms 1) before)
    have late : ¬ due ≤ r.now + (ms - 1) := fun ends =>
      Bool.eq_false_iff.mp early (endsBy_iff.mpr ⟨due, endsAt, ends⟩)
    rw [endsAt]
    congr 1
    omega
  · intro endsAt
    have endsBy (time : Nat) : pause.endsBy time = true ↔ r.now + ms ≤ time := by
      rw [endsBy_iff, endsAt]
      simp only [Option.some.injEq, exists_eq_left']
    refine ⟨⟨fun part _ before => ?_, fun before => ?_⟩, ?_⟩
    · rw [atRest.now_elapse] at before
      rw [atRest.paused_elapse_iff pausing, ← Bool.not_eq_true, endsBy]
      omega
    · rw [atRest.now_step] at before
      exact absurd before (Nat.lt_irrefl _)
    · exact (atRest.goesOn_elapse_iff pausing ms).mpr ((endsBy _).mpr (Nat.le_refl _))

/-- A recorder goes on by itself at a time if its pause is going to end then, after all inputs
    before that time. -/
theorem AtRest.goesOn_iff_endsAt (atRest : r.AtRest) (pausing : r.pausing = some pause)
    (inputs : List Input) {ms : Nat} (passes : ms ≠ 0) :
    r.GoesOn (inputs ++ [.elapse ms]) (r.now + timeOf inputs + ms) ↔
      pause.EndsAt r.options.resumeDelay r.now inputs (r.now + timeOf inputs + ms) := by
  have arrived := atRest.run inputs
  have now := atRest.now_run inputs
  constructor
  · rintro ⟨paused, goesOn⟩
    obtain ⟨meanwhile, waits⟩ := (throughout_append _ _ _ _).mp paused
    have throughout : r.Throughout (·.state = .paused) inputs :=
      meanwhile.imp atRest fun m _ until_ paused => paused (by omega)
    obtain ⟨last, follows⟩ := (atRest.throughout_paused pausing inputs).mp throughout
    obtain ⟨pausing', rests⟩ := atRest.pausing_run pausing follows
    rw [run_append, rests.goesOn_iff] at goesOn
    rw [← now] at waits ⊢
    exact ⟨last, follows, (arrived.goesOn_then_iff pausing' passes).mp ⟨waits, goesOn⟩⟩
  · rintro ⟨last, follows, endsAt⟩
    obtain ⟨pausing', rests⟩ := atRest.pausing_run pausing follows
    rw [← now] at endsAt ⊢
    obtain ⟨waits, goesOn⟩ := (arrived.goesOn_then_iff pausing' passes).mpr endsAt
    have paused := (atRest.throughout_paused pausing inputs).mpr ⟨last, follows⟩
    refine ⟨(throughout_append _ _ _ _).mpr ⟨?_, waits⟩, ?_⟩
    · exact paused.imp atRest fun m _ _ paused _ => paused
    · rw [run_append, rests.goesOn_iff]
      exact goesOn

/-- Only a pause of the page's is going to end. -/
theorem AtRest.endsAt_eq_none (atRest : r.AtRest) (pausing : r.pausing = some pause)
    (own : pause.byPage ≠ true) : pause.endsAt = none := by
  obtain ⟨-, reason, isSet⟩ := pausing_eq_some.mp pausing
  rw [← isSet]
  refine atRest.armed.of_eq_none .resume fun belongs => own ?_
  rw [← reason]
  exact belongs.2

/-- Without a delay only a pause of the page's ends at once when the page is visible. -/
theorem AtRest.goesOn_at_once_iff (atRest : r.AtRest) (pausing : r.pausing = some pause)
    (undelayed : r.options.resumeDelay = 0) :
    r.GoesOn [.setVisibility .visible, .elapse 0] r.now ↔ pause.byPage = true := by
  constructor
  · rintro ⟨-, goesOn⟩
    by_contra own
    have nothing : r.operate (.setVisibility .visible) = r :=
      visible_of_not_byPage pausing (Bool.eq_false_iff.mpr own)
    have timeless : ∀ ms, Input.setVisibility .visible ≠ .elapse ms := nofun
    have becomes := atRest.becomes_idle timeless nothing pausing
    cases becomes with
    | paused pausing rests => exact rests.not_goesOn goesOn
  · intro byPage
    have now := atRest.now_step (.setVisibility .visible)
    have past (m : Recorder) (at_ : m.now = r.now) : m.now < r.now → m.state = .paused :=
      fun before => absurd before (by omega)
    refine ⟨⟨fun part early => ?_, fun part early => ?_, ?_⟩, ?_⟩
    · obtain rfl := Nat.le_zero.mp early
      exact past r rfl
    · obtain rfl := Nat.le_zero.mp early
      exact past _ now
    · exact past _ now
    · exact (atRest.goesOn_visible pausing byPage undelayed).2

/-- After a page was hidden, and is visible again. -/
theorem AtRest.goesOn_iff (atRest : r.AtRest) (pausing : r.pausing = some ⟨true, none⟩)
    {between after : List Input} (paused : r.Throughout (·.state = .paused) between)
    (soon : after = [] ∨ timeOf after < r.options.resumeDelay) :
    (r.run between).GoesOn
        (.setVisibility .visible :: after ++ [.elapse (r.options.resumeDelay - timeOf after)])
        ((r.run between).now + r.options.resumeDelay) ↔ Undisturbed between after := by
  have seen := atRest.run between
  obtain ⟨last, follows⟩ := (atRest.throughout_paused pausing between).mp paused
  obtain ⟨pausing', rests⟩ := atRest.pausing_run pausing follows
  have reason : last.byPage = true ↔ Unattended between :=
    (Pause.byPage_follow follows).trans (and_iff_right rfl)
  rw [undisturbed_iff, ← reason, ← rests.options] at *
  generalize r.run between = seeing at *
  by_cases undelayed : seeing.options.resumeDelay = 0
  · obtain rfl : after = [] := by
      rcases soon with none | soon
      · exact none
      · omega
    rw [undelayed]
    exact (seen.goesOn_at_once_iff pausing' undelayed).trans
      ⟨fun byPage => ⟨byPage, nofun, rfl, rfl⟩, And.left⟩
  · have timely : timeOf after < seeing.options.resumeDelay := by
      rcases soon with rfl | timely
      · exact Nat.pos_of_ne_zero undelayed
      · exact timely
    have ending : seeing.now + timeOf (.setVisibility .visible :: after) +
        (seeing.options.resumeDelay - timeOf after) = seeing.now + seeing.options.resumeDelay := by
      have time_cons : timeOf (.setVisibility .visible :: after) = 0 + timeOf after := rfl
      omega
    have endsAt := seen.goesOn_iff_endsAt pausing' (.setVisibility .visible :: after)
      (Nat.sub_ne_zero_of_lt timely)
    rw [ending] at endsAt
    rw [endsAt]
    by_cases byPage : last.byPage = true
    · have visible := Pause.after_report undelayed byPage seeing.now .visible
      rw [Pause.endsAt_of_after visible]
      exact (Pause.endsAt_iff_last timely).trans (and_iff_right byPage).symm
    · have misses : Pause.Misses seeing.options.resumeDelay seeing.now
          (seeing.now + seeing.options.resumeDelay) last := by
        refine ⟨?_, fun own => absurd own byPage⟩
        rw [seen.endsAt_eq_none pausing' byPage]
        nofun
      exact iff_of_false misses.not_endsAt fun undisturbed => byPage undisturbed.1

end

/-- A recording that is paused since the page is hidden goes on by itself, after the page was
    visible for as long as it has to be, if and only if nothing comes between. A pause that is the
    learner's own is ended by no report. -/
theorem goesOn_iff_undisturbed {r : Recorder} (isNew : r.New) (before : List Input) :
    ((r.run before).state = .recording →
      let hidden := (r.run before).step (.setVisibility .hidden)
      ∀ between after, hidden.Throughout (·.state = .paused) between →
        (after = [] ∨ timeOf after < r.options.resumeDelay) →
          let seen := hidden.run between
          (seen.GoesOn
              (.setVisibility .visible :: after ++ [.elapse (r.options.resumeDelay - timeOf after)])
              (seen.now + r.options.resumeDelay) ↔ Undisturbed between after)) ∧
      ((r.run before).state = .recording ∨ (r.run before).state = .paused →
        ∀ inputs, (∀ input ∈ inputs, input.endsPause = false) →
          ((r.run before).step .pause).Throughout (·.state = .paused) inputs) := by
  have atRest := atRest_run isNew before
  have options : (r.run before).options = r.options := (atRest_run isNew []).options_run before
  constructor
  · intro records hidden between after paused soon
    have pausing := (atRest.begins_pause (by nofun) (operate_hidden records)).1
    have hides := atRest.step (.setVisibility .hidden)
    have same : hidden.options = r.options := (atRest.options_step _).trans options
    have goesOn := hides.goesOn_iff pausing paused (same ▸ soon)
    rwa [show Recorder.options _ = r.options from same] at goesOn
  · intro pausable inputs lasts
    have pauses : ((r.run before).step .pause).pausing = some ⟨false, none⟩ := by
      rcases pausable with records | paused
      · exact (atRest.begins_pause (by nofun) (operate_pause records)).1
      · have becomes := atRest.pausing_step (pausing_of_paused paused) .pause
        cases becomes with
        | paused pausing rests => exact pausing
    have steady := (atRest.step .pause).throughout_paused pauses inputs
    exact steady.mpr ⟨_, Pause.follow_of_manual lasts⟩

theorem goesOn_after_short_delay :
    let r : Recorder :=
      { options := { resumeDelay := 3 }, capture := { encoder := { timeslice := 100 } } }
    let hidden := (r.run [.start]).step (.setVisibility .hidden)
    let seen := hidden.run [.elapse 2]
    hidden.Throughout (·.state = .paused) [.elapse 2] ∧
      seen.GoesOn [.setVisibility .visible, .elapse 1, .elapse 2] (seen.now + 3) ∧
      ¬ seen.GoesOn [.setVisibility .visible, .elapse 1, .setVisibility .visible, .elapse 2]
        (seen.now + 3) ∧
      ((r.run [.start]).step .pause).Throughout (·.state = .paused)
        [.setVisibility .hidden, .setVisibility .visible, .elapse 10] := by
  intro r hidden seen
  have isNew : r.New := Recorder.isNew { resumeDelay := 3 } 100
  have records : (r.run [.start]).state = .recording := by decide
  have throughout : hidden.Throughout (·.state = .paused) [.elapse 2] := by decide +kernel
  have goesOn := (goesOn_iff_undisturbed isNew [.start]).1 records [.elapse 2]
  have soon : timeOf [.elapse 1] < 3 := by decide
  have undisturbed := goesOn [.elapse 1] throughout (.inr soon)
  have reported := goesOn [.elapse 1, .setVisibility .visible] throughout (.inr soon)
  have unattended : Unattended [.elapse 2, .elapse 1] := by
    unfold Unattended
    decide
  refine ⟨throughout, undisturbed.mpr ⟨unattended, rfl, rfl⟩, fun again => ?_, ?_⟩
  · cases (reported.mp again).unreported
  · exact (goesOn_iff_undisturbed isNew [.start]).2 (.inl records) _ (by decide)

end Viva.Recorder
