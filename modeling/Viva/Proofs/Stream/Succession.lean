import Mathlib.Data.List.Induction
import Viva.Proofs.Stream.Ownership

/-! # How streams succeed each other

A slot is told that a stream begins or is over, is asked which stream owns it, and is told to cancel
whatever runs. A `Slot.Moment` is one such call with the slot as it was, and a stream leaves the
slot at the moment at which it ceases to own it. `Slot.leaves_once` is the history of a slot in
these terms: nobody but the stream begun last owns it, every other stream has left it at one moment
and no other, and the call of that moment tells whether the stream was cancelled.
-/

namespace Viva.Slot

/-- What a slot is told or asked. -/
inductive Call where
  /-- A stream begins. -/
  | begin
  /-- Whether the stream of this generation owns the slot. -/
  | isCurrent (generation : Nat)
  /-- The stream of this generation is over. -/
  | finish (generation : Nat)
  /-- Whatever runs is to be cancelled. -/
  | cancel
  deriving Repr, DecidableEq

/-- What a call returns. -/
inductive Answer where
  /-- The generation of the stream that begins. -/
  | ticket (generation : Nat)
  | verdict (value : Bool)
  deriving Repr, DecidableEq

/-- The slot after a call. -/
def after (slot : Slot) : Call → Slot
  | .begin => slot.start
  | .isCurrent _ => slot
  | .finish generation => slot.finish generation
  | .cancel => slot.release

/-- What a call returns: a stream that is over learns whether it owned the slot until now, and a
    cancellation whether there was a stream. -/
def answer (slot : Slot) : Call → Answer
  | .begin => .ticket slot.ticket
  | .isCurrent generation | .finish generation => .verdict (slot.isCurrent generation)
  | .cancel => .verdict slot.isLive

/-- The slot after some calls. -/
def run (slot : Slot) (calls : List Call) : Slot :=
  calls.foldl after slot

/-- A call, and the slot that it was made on. -/
structure Moment where
  before : Slot
  call : Call
  deriving Repr, DecidableEq

namespace Moment

def after (moment : Moment) : Slot :=
  moment.before.after moment.call

def answer (moment : Moment) : Answer :=
  moment.before.answer moment.call

/-- The stream of this generation owned the slot up to this moment, and does not own it after it. -/
def leaves (generation : Nat) (moment : Moment) : Bool :=
  moment.before.isCurrent generation && !moment.after.isCurrent generation

/-- The stream of this generation is told that it owned the slot to its end. -/
def completes (generation : Nat) (moment : Moment) : Bool :=
  moment.call = .finish generation && moment.answer = .verdict true

/-- The generation of the stream that begins at this moment. -/
def ticket? (moment : Moment) : Option Nat :=
  match moment.answer with
  | .ticket generation => some generation
  | .verdict _ => none

end Moment

/-- What happens to a slot. -/
def moments (slot : Slot) : List Call → List Moment
  | [] => []
  | call :: rest => ⟨slot, call⟩ :: moments (slot.after call) rest

/-- The generations of the streams that were begun, in their order. -/
def tickets (slot : Slot) (calls : List Call) : List Nat :=
  (slot.moments calls).filterMap Moment.ticket?

theorem run_concat (slot : Slot) (calls : List Call) (call : Call) :
    slot.run (calls ++ [call]) = (slot.run calls).after call := by
  simp [run]

theorem moments_concat (slot : Slot) (calls : List Call) (call : Call) :
    slot.moments (calls ++ [call]) = slot.moments calls ++ [⟨slot.run calls, call⟩] := by
  induction calls generalizing slot with
  | nil => rfl
  | cons first rest ih => simp only [List.cons_append, moments, ih, run, List.foldl_cons]

theorem countP_moments_concat (slot : Slot) (calls : List Call) (call : Call) (p : Moment → Bool) :
    (slot.moments (calls ++ [call])).countP p =
      (slot.moments calls).countP p + (p ⟨slot.run calls, call⟩).toNat := by
  rw [moments_concat, List.countP_append, List.countP_singleton]
  cases p ⟨slot.run calls, call⟩ <;> rfl

/-! ## One moment -/

theorem next_after (slot : Slot) (call : Call) :
    (slot.after call).next = slot.next + if call = .begin then 1 else 0 := by
  cases call with
  | begin | isCurrent | cancel => rfl
  | finish generation =>
      simp only [after, finish]
      split <;> rfl

/-- Only a begin and a cancellation cancel anything, and what they cancel is the owner. -/
theorem cancelled_after (slot : Slot) (call : Call) :
    (slot.after call).cancelled =
      (if call = .begin ∨ call = .cancel then slot.current.toList else []) ++ slot.cancelled := by
  cases call with
  | begin | isCurrent | cancel => rfl
  | finish generation =>
      simp only [after, finish]
      split <;> rfl

theorem Sound.after {slot : Slot} (sound : slot.Sound) (call : Call) : (slot.after call).Sound := by
  cases call with
  | begin => exact sound.start
  | isCurrent generation => exact sound
  | finish generation => exact sound.finish generation
  | cancel => exact sound.release

namespace Moment

variable {moment : Moment} {generation : Nat}

theorem leaves_iff : moment.leaves generation = true ↔
    moment.before.current = some generation ∧ moment.after.current ≠ some generation := by
  rw [leaves, Bool.and_eq_true, Bool.not_eq_true', isCurrent_iff, isCurrent_eq_false_iff]

/-- The calls at which the owner leaves. -/
theorem leaves_iff_call (sound : moment.before.Sound) : moment.leaves generation = true ↔
    moment.before.current = some generation ∧
      (moment.call = .begin ∨ moment.call = .cancel ∨ moment.call = .finish generation) := by
  obtain ⟨slot, call⟩ := moment
  rw [leaves_iff]
  refine and_congr_right fun owns => ?_
  cases call with
  | begin =>
      have earlier : generation ≠ slot.next := Nat.ne_of_lt (sound.current_lt generation owns)
      simpa [Moment.after, Slot.after, Slot.start] using Ne.symm earlier
  | isCurrent other => simpa [Moment.after, Slot.after] using owns
  | finish other =>
      by_cases same : other = generation
      · simp [Moment.after, Slot.after, Slot.finish, isCurrent_iff.mpr owns, same]
      · have stays : slot.isCurrent other = false :=
          isCurrent_eq_false_iff.mpr fun others => same (Option.some.inj (others.symm.trans owns))
        simpa [Moment.after, Slot.after, finish_of_not_current stays, same] using owns
  | cancel => simp [Moment.after, Slot.after, Slot.release]

/-- Only a stream that begins comes to own the slot. -/
theorem gains_iff (sound : moment.before.Sound) :
    moment.after.isCurrent generation = true ∧ moment.before.isCurrent generation = false ↔
      moment.call = .begin ∧ generation = moment.before.next := by
  obtain ⟨slot, call⟩ := moment
  rw [isCurrent_iff, isCurrent_eq_false_iff]
  cases call with
  | begin =>
      have unowned : slot.current ≠ some slot.next :=
        fun owns => Nat.lt_irrefl _ (sound.current_lt _ owns)
      simp only [Moment.after, Slot.after, Slot.start, Option.some.injEq, true_and]
      exact ⟨fun gains => gains.1.symm, fun same => ⟨same.symm, same ▸ unowned⟩⟩
  | isCurrent other => simp [Moment.after, Slot.after]
  | finish other =>
      simp only [Moment.after, Slot.after, Slot.finish]
      split <;> simp
  | cancel => simp [Moment.after, Slot.after, Slot.release]

/-- A moment at which a stream leaves or begins, counted: who owned the slot or begins now leaves it
    or owns it afterwards. -/
theorem leaves_add_isCurrent (sound : moment.before.Sound) (generation : Nat) :
    (moment.leaves generation).toNat + (moment.after.isCurrent generation).toNat =
      (moment.before.isCurrent generation).toNat +
        if moment.call = .begin ∧ generation = moment.before.next then 1 else 0 := by
  simp only [← gains_iff sound, leaves]
  cases moment.after.isCurrent generation <;> cases moment.before.isCurrent generation <;> rfl

/-- A stream that learns that it owned the slot leaves it with that. -/
theorem leaves_of_completes (sound : moment.before.Sound)
    (completes : moment.completes generation = true) : moment.leaves generation = true := by
  simp only [Moment.completes, Bool.and_eq_true, decide_eq_true_eq] at completes
  obtain ⟨isFinish, owned⟩ := completes
  simp only [Moment.answer, isFinish, Slot.answer, Answer.verdict.injEq] at owned
  exact (leaves_iff_call sound).mpr ⟨isCurrent_iff.mp owned, .inr (.inr isFinish)⟩

end Moment

/-! ## All moments -/

section
variable (calls : List Call)

theorem sound_run : (run {} calls).Sound := by
  induction calls using List.reverseRecOn with
  | nil => exact sound_new
  | append_singleton calls call ih =>
      rw [run_concat]
      exact ih.after call

theorem sound_before {moment : Moment} (happened : moment ∈ moments {} calls) :
    moment.before.Sound := by
  induction calls using List.reverseRecOn with
  | nil => cases happened
  | append_singleton calls call ih =>
      rw [moments_concat, List.mem_append, List.mem_singleton] at happened
      rcases happened with earlier | rfl
      · exact ih earlier
      · exact sound_run calls

/-- Generations are given out one after the other. -/
theorem tickets_eq : tickets {} calls = List.range (run {} calls).next := by
  induction calls using List.reverseRecOn with
  | nil => rfl
  | append_singleton calls call ih =>
      have before : tickets {} (calls ++ [call]) =
          tickets {} calls ++ (Moment.ticket? ⟨run {} calls, call⟩).toList := by
        simp only [tickets, moments_concat, List.filterMap_append]
        congr 1
      rw [before, ih, run_concat, next_after]
      cases call with
      | begin => exact List.range_succ.symm
      | isCurrent | finish | cancel => exact List.append_nil _

/-- Nothing was begun after the stream that owns the slot. -/
theorem next_of_current {generation : Nat} (owns : (run {} calls).current = some generation) :
    (run {} calls).next = generation + 1 := by
  induction calls using List.reverseRecOn with
  | nil => cases owns
  | append_singleton calls call ih =>
      rw [run_concat] at owns
      rw [run_concat, next_after]
      cases call with
      | begin => exact congrArg Nat.succ (Option.some.inj owns)
      | isCurrent other => exact ih owns
      | finish other =>
          simp only [after, finish] at owns
          split at owns
          · cases owns
          · exact ih owns
      | cancel => cases owns

/-- A stream that was begun owns the slot or has left it. -/
theorem countP_leaves_add (generation : Nat) :
    (moments {} calls).countP (Moment.leaves generation) +
        ((run {} calls).isCurrent generation).toNat =
      if generation < (run {} calls).next then 1 else 0 := by
  induction calls using List.reverseRecOn with
  | nil => rfl
  | append_singleton calls call ih =>
      have sound : Sound (Moment.before ⟨run {} calls, call⟩) := sound_run calls
      have counted := Moment.leaves_add_isCurrent sound generation
      simp only [Moment.after] at counted
      rw [countP_moments_concat, run_concat, next_after]
      by_cases begins : call = .begin
      · simp only [begins, true_and, if_true] at counted ⊢
        split at ih <;> split at counted <;> split <;> omega
      · simp only [begins, false_and, if_false, Nat.add_zero] at counted ⊢
        omega

theorem isCancelled_iff (generation : Nat) :
    (run {} calls).isCancelled generation = true ↔ ∃ moment ∈ moments {} calls,
      moment.leaves generation = true ∧ (moment.call = .begin ∨ moment.call = .cancel) := by
  induction calls using List.reverseRecOn with
  | nil => simp [run, moments, isCancelled]
  | append_singleton calls call ih =>
      have sound : Sound (Moment.before ⟨run {} calls, call⟩) := sound_run calls
      have here : Moment.leaves generation ⟨run {} calls, call⟩ = true ↔ _ :=
        Moment.leaves_iff_call sound
      simp only [isCancelled, List.contains_eq_mem, decide_eq_true_eq] at ih ⊢
      simp only [run_concat, moments_concat, List.mem_append, List.mem_singleton, or_and_right,
        exists_or, exists_eq_left, ← ih, here, cancelled_after]
      by_cases cancels : call = .begin ∨ call = .cancel
      · simp only [cancels, if_true, Option.mem_toList]
        tauto
      · simp only [cancels, if_false, List.not_mem_nil, false_or, and_false, or_false]

end

/-- What becomes of the streams of a slot. -/
structure LeftOnce (calls : List Call) : Prop where
  /-- Generations rise, so no two streams have the same. -/
  rising : (tickets {} calls).Pairwise (· < ·)
  /-- Nobody but the stream begun last owns the slot. -/
  owner : ∀ generation, (run {} calls).isCurrent generation = true →
    (tickets {} calls).getLast? = some generation
  /-- A stream that was begun has left the slot once, unless it owns it still. -/
  once : ∀ generation ∈ tickets {} calls,
    (moments {} calls).countP (Moment.leaves generation) =
      if (run {} calls).isCurrent generation then 0 else 1
  /-- It left when a later one began, when a cancellation found it, or when it was over itself. -/
  occasion : ∀ moment ∈ moments {} calls, ∀ generation, moment.leaves generation = true →
    (moment.call = .begin ∧ ∃ later > generation, moment.answer = .ticket later) ∨
      (moment.call = .cancel ∧ moment.answer = .verdict true) ∨
      (moment.call = .finish generation ∧ moment.answer = .verdict true)
  /-- Only the last is told to a stream that is over. -/
  completed : ∀ moment ∈ moments {} calls, ∀ generation,
    moment.completes generation = true → moment.leaves generation = true
  completedOnce : ∀ generation, (moments {} calls).countP (Moment.completes generation) ≤ 1
  /-- The other two cancel it, and nothing else does. -/
  cancelled : ∀ generation ∈ tickets {} calls,
    (run {} calls).isCancelled generation = true ↔ ∃ moment ∈ moments {} calls,
      moment.leaves generation = true ∧ (moment.call = .begin ∨ moment.call = .cancel)

/-- However a slot is used, a stream has it from its begin on until it leaves it, and it leaves it
    once. -/
theorem leaves_once (calls : List Call) : LeftOnce calls where
  rising := by
    rw [tickets_eq]
    exact List.pairwise_lt_range
  owner := by
    intro generation owns
    rw [tickets_eq, next_of_current calls (isCurrent_iff.mp owns), List.range_succ,
      List.getLast?_concat]
  once := by
    intro generation begun
    rw [tickets_eq, List.mem_range] at begun
    have counted := countP_leaves_add calls generation
    rw [if_pos begun] at counted
    cases owns : (run {} calls).isCurrent generation <;> simp [owns] at counted ⊢ <;> omega
  occasion := by
    intro moment happened generation leaves
    have sound := sound_before calls happened
    obtain ⟨owns, isBegin | isCancel | isFinish⟩ := (Moment.leaves_iff_call sound).mp leaves
    · refine .inl ⟨isBegin, moment.before.next, sound.current_lt generation owns, ?_⟩
      rw [Moment.answer, isBegin]
      rfl
    · refine .inr (.inl ⟨isCancel, ?_⟩)
      rw [Moment.answer, isCancel, answer, isLive_of_isCurrent (isCurrent_iff.mpr owns)]
    · refine .inr (.inr ⟨isFinish, ?_⟩)
      rw [Moment.answer, isFinish, answer, isCurrent_iff.mpr owns]
  completed := fun moment happened _ completes =>
    Moment.leaves_of_completes (sound_before calls happened) completes
  completedOnce := by
    intro generation
    calc (moments {} calls).countP (Moment.completes generation)
        ≤ (moments {} calls).countP (Moment.leaves generation) :=
          List.countP_mono_left fun moment happened completes =>
            Moment.leaves_of_completes (sound_before calls happened) completes
      _ ≤ 1 := by
          have counted := countP_leaves_add calls generation
          split at counted <;> omega
  cancelled := fun generation _ => isCancelled_iff calls generation

end Viva.Slot
