import Viva.Proofs.Session.Reply

/-! # Owners are waited for

A slot is never left to a stream that nobody follows: for every stream that owns its slot there is a
call that waits for it. A call that is done with its stream takes it out of the slot, and a call
that returns because its stream was cancelled had lost the slot before.
-/

namespace Viva

theorem Slot.isCurrent_finish (slot : Slot) (generation : Nat) :
    (slot.finish generation).isCurrent generation = false := by
  cases owns : slot.isCurrent generation with
  | true =>
      simp only [finish, owns, if_true]
      rfl
  | false => rwa [finish_of_not_current owns]

theorem Slot.isCurrent_of_finish {slot : Slot} {other generation : Nat}
    (owns : (slot.finish other).isCurrent generation = true) : slot.isCurrent generation = true := by
  unfold finish at owns
  split at owns
  · cases owns
  · exact owns

/-- The stream that a turn brings into a slot is the one that its call waits for. -/
theorem Slot.Turn.newOwner {slot after : Slot} {waits : Option Nat} (turn : slot.Turn after waits)
    {generation : Nat} (owns : after.isCurrent generation = true)
    (isNew : slot.isCurrent generation = false) : waits = some generation := by
  cases turn with
  | kept => cases owns.symm.trans isNew
  | released => cases owns
  | failed =>
      obtain rfl := Option.some.inj (Slot.isCurrent_iff.mp (Slot.isCurrent_of_finish owns))
      cases owns.symm.trans (Slot.isCurrent_finish _ _)
  | started => exact Slot.isCurrent_iff.mp owns

namespace Session

/-- A call waits for the stream. -/
def HasFollower (s : Session) (transport : Transport) (generation : Nat) : Prop :=
  ∃ (id : Nat) (state : CallState), s.calls[id]? = some state ∧
    state.generation? transport = some generation

/-- Every stream that owns its slot is waited for. -/
def Attended (s : Session) : Prop :=
  ∀ transport generation, (s.slot transport).isCurrent generation = true →
    s.HasFollower transport generation

section
variable {s s' : Session} {id : Nat} {transport : Transport} {generation : Nat}

theorem StreamOver.lost (ended : StreamOver id transport generation s s') :
    (s'.slot transport).isCurrent generation = false := by
  rw [ended.slot]
  exact Slot.isCurrent_finish _ generation

theorem Turn.others (turn : Turn id s s') {other : Nat} (ne : id ≠ other) :
    s'.calls[other]? = s.calls[other]? := by
  obtain ⟨state, calls, -⟩ := turn
  rw [calls, List.getElem?_set_ne ne]

theorem StreamTurn.others (turn : StreamTurn id transport generation s s') {other : Nat}
    (ne : id ≠ other) : s'.calls[other]? = s.calls[other]? := by
  cases turn with
  | goesOn state calls | cancelled result calls => rw [calls, List.getElem?_set_ne ne]
  | ends ended =>
      obtain ⟨result, calls⟩ := ended.calls
      rw [calls, List.getElem?_set_ne ne]

theorem others_takeAnswer (s : Session) (answer : Answer) {other : Nat} (ne : id ≠ other) :
    (s.takeAnswer id answer).calls[other]? = s.calls[other]? := by
  unfold takeAnswer
  split
  · exact (streamTurn_takeHeaders s id _ _ _).others ne
  · exact (turn_takeUploaded s id _ _ _).others ne
  · exact (turn_takeCompleted s id _).others ne
  · rfl

theorem others_takeReadOf (s : Session) (read : Read) {other : Nat} (ne : id ≠ other) :
    (s.takeReadOf id read).calls[other]? = s.calls[other]? := by
  unfold takeReadOf
  split
  · exact (streamTurn_takeRead s id _ _ _ read).others ne
  · rfl

/-! ## An owner keeps its call -/

/-- While a stream owns its slot its call goes on waiting for it. -/
theorem waits_of_await {awaiting : Awaiting} (inside : id < s.calls.length)
    (waits : (CallState.waiting awaiting).generation? transport = some generation) :
    (s.await id awaiting).HasFollower transport generation :=
  ⟨id, _, List.getElem?_set_self inside, waits⟩

theorem follower_takeHeaders (inside : id < s.calls.length)
    (live : (s.slot transport).isCancelled generation = false) (answer : Except Failure Unit)
    (owns : ((s.takeHeaders id transport generation answer).slot transport).isCurrent generation =
      true) : (s.takeHeaders id transport generation answer).HasFollower transport generation := by
  match answer with
  | .ok () =>
      have waits : s.takeHeaders id transport generation (.ok ()) =
          s.await id (.read transport generation {}) := by
        simp only [takeHeaders, awaitRead, live, Bool.false_eq_true, if_false]
      rw [waits]
      exact waits_of_await inside (CallState.generation?_read _ _ _)
  | .error failure =>
      have lost := (streamOver_failStream s id transport generation failure).lost
      cases owns.symm.trans lost

theorem Attends.follower {c : Consumption} (attends : s.Attends id transport generation c)
    (read : Read)
    (owns : ((s.react (.read id read)).slot transport).isCurrent generation = true) :
    (s.react (.read id read)).HasFollower transport generation := by
  cases read with
  | bytes bytes =>
      rw [attends.react_bytes] at owns ⊢
      cases failure : (c.tells bytes).failure with
      | some failed =>
          simp only [failure] at owns
          have lost := (streamOver_failStream (s.tell (c.tells bytes).events) id transport
            generation failed).lost
          cases owns.symm.trans lost
      | none =>
          obtain ⟨inside, -⟩ :=
            List.getElem?_eq_some_iff.mp (attends.tell (c.tells bytes).events).here
          exact waits_of_await inside (CallState.generation?_read _ _ _)
  | failure detail =>
      have reacts : s.react (.read id (.failure detail)) =
          s.failStream id transport generation
            (.network (Failure.message (.network detail))) := by
        simp only [react, takeReadOf, attends.here, takeRead, endStream]
      rw [reacts] at owns
      cases owns.symm.trans (streamOver_failStream s id transport generation _).lost
  | ended =>
      have reacts : s.react (.read id .ended) =
          s.endStream id transport generation (c.finish transport) := by
        simp only [react, takeReadOf, attends.here, takeRead]
      have ends : c.finish transport ≠ .ok .cancelled := by
        cases transport <;> simp only [Consumption.finish] <;> grind
      rw [reacts] at owns
      cases owns.symm.trans (streamOver_endStream s id transport generation ends).lost

/-- What comes for the call of an owner leaves it waiting, or takes its stream out of the slot. -/
theorem follower_of_own {state : CallState} (here : s.calls[id]? = some state)
    (waits : state.generation? transport = some generation)
    (live : (s.slot transport).isCancelled generation = false)
    (owns : (s.slot transport).isCurrent generation = true) {stimulus : Stimulus}
    (own : (∃ answer, stimulus = .answer id answer) ∨ ∃ read, stimulus = .read id read)
    (still : ((s.react stimulus).slot transport).isCurrent generation = true) :
    (s.react stimulus).HasFollower transport generation := by
  have kept : s.HasFollower transport generation := ⟨id, state, here, waits⟩
  obtain ⟨inside, -⟩ := List.getElem?_eq_some_iff.mp here
  cases state with
  | returned result => cases waits
  | waiting awaiting =>
      cases awaiting with
      | upload attemptId recording => cases waits
      | completion => cases waits
      | headers other g =>
          obtain ⟨rfl, rfl⟩ :=
            CallState.generation?_unique waits (CallState.generation?_headers other g)
          rcases own with ⟨answer, rfl⟩ | ⟨read, rfl⟩
          · have reacts : s.react (.answer id answer) = s.takeHeaders id other g answer.check := by
              simp only [react, takeAnswer, here]
            rw [reacts] at still ⊢
            exact follower_takeHeaders inside live answer.check still
          · have nothing : s.react (.read id read) = s := by
              simp only [react, takeReadOf, here]
            rwa [nothing]
      | read other g c =>
          obtain ⟨rfl, rfl⟩ :=
            CallState.generation?_unique waits (CallState.generation?_read other g c)
          rcases own with ⟨answer, rfl⟩ | ⟨read, rfl⟩
          · have nothing : s.react (.answer id answer) = s := by
              simp only [react, takeAnswer, here]
            rwa [nothing]
          · exact Attends.follower ⟨here, owns, live⟩ read still

/-- What comes for other calls leaves it waiting too. -/
theorem follower_react {state : CallState} (here : s.calls[id]? = some state)
    (waits : state.generation? transport = some generation)
    (live : (s.slot transport).isCancelled generation = false)
    (owns : (s.slot transport).isCurrent generation = true) (stimulus : Stimulus)
    (still : ((s.react stimulus).slot transport).isCurrent generation = true) :
    (s.react stimulus).HasFollower transport generation := by
  have quiet (same : s.SameStreams (s.react stimulus)) :
      (s.react stimulus).HasFollower transport generation :=
    ⟨id, state, by rw [same.calls, here], waits⟩
  cases stimulus with
  | call call => exact ⟨id, state, (turn_runCall _ _ call).kept here, waits⟩
  | answer other answer =>
      by_cases same : other = id
      · subst same
        exact follower_of_own here waits live owns (.inl ⟨answer, rfl⟩) still
      · exact ⟨id, state, (others_takeAnswer s answer same).trans here, waits⟩
  | read other read =>
      by_cases same : other = id
      · subst same
        exact follower_of_own here waits live owns (.inr ⟨read, rfl⟩) still
      · exact ⟨id, state, (others_takeReadOf s read same).trans here, waits⟩
  | uploaded answer => exact quiet (sameStreams_pump.takePumpAnswer s)
  | pump => exact quiet (sameStreams_pump.takeEvents s _)
  | elapse ms => exact quiet (sameStreams_onRecorder s _)
  | dispatch action => exact quiet (sameStreams_dispatch s action)
  | setToken token => exact quiet (.of_fields rfl rfl rfl)
  | setOutcome outcome => exact quiet (sameStreams_onRecorder s _)

end

/-! ## Over a run -/

section
variable {s s' : Session} {transport : Transport} {generation : Nat}

/-- A stream that owns its slot only now has just been begun by a call that waits for it. -/
theorem Reaction.newFollower (reaction : Reaction s s')
    (owns : (s'.slot transport).isCurrent generation = true)
    (isNew : (s.slot transport).isCurrent generation = false) :
    s'.HasFollower transport generation := by
  cases reaction with
  | quiet same =>
      rw [same.slot, isNew] at owns
      cases owns
  | call turn =>
      obtain ⟨state, calls, -, slots⟩ := turn
      rw [← slot_withCall s] at isNew
      refine ⟨s.nextCall, state, ?_, (slots transport).newOwner owns isNew⟩
      rw [calls]
      exact getElem?_set_nextCall s state
  | answer id old here waits none turn =>
      obtain ⟨state, calls, -, slots⟩ := turn
      obtain ⟨inside, -⟩ := List.getElem?_eq_some_iff.mp here
      refine ⟨id, state, ?_, (slots transport).newOwner owns isNew⟩
      rw [calls]
      exact List.getElem?_set_self inside
  | stream id old other g here waits turn =>
      -- The turn of a stream begins none.
      have kept : s'.slot transport = s.slot transport ∨
          s'.slot transport = (s.slot transport).finish g := by
        cases turn with
        | goesOn state calls waits settled slots => exact .inl (slots transport)
        | ends ended => exact ended.slot_cases transport
        | cancelled result calls slots => exact .inl (slots transport)
      have before : (s.slot transport).isCurrent generation = true := by
        rcases kept with same | left
        · rwa [same] at owns
        · rw [left] at owns
          exact Slot.isCurrent_of_finish owns
      cases before.symm.trans isNew

theorem HasFollower.settle (follower : s.HasFollower transport generation)
    (live : (s.slot transport).isCancelled generation = false) :
    s.settle.HasFollower transport generation := by
  obtain ⟨id, state, here, waits⟩ := follower
  exact ⟨id, state, waits_settle live here waits, waits⟩

theorem Attended.step (attended : s.Attended) (tended : s.Tended) (stimulus : Stimulus) :
    (s.step stimulus).Attended := by
  intro transport generation owns
  rw [Session.step, (untouched_settle _).slot] at owns
  have sound := ((reaction s stimulus).tended tended).slots transport
  refine HasFollower.settle ?_ (sound.live generation (Slot.isCurrent_iff.mp owns))
  cases before : (s.slot transport).isCurrent generation with
  | true =>
      obtain ⟨id, state, here, waits⟩ := attended transport generation before
      have live := (tended.slots transport).live generation (Slot.isCurrent_iff.mp before)
      exact follower_react here waits live before stimulus owns
  | false => exact (reaction s stimulus).newFollower owns before

theorem Fresh.attended (fresh : s.Fresh) : s.Attended := by
  intro transport generation owns
  rw [fresh.slots] at owns
  cases owns

/-- Whatever happens, every stream that owns its slot is waited for. -/
theorem attended_run (fresh : s.Fresh) (stimuli : List Stimulus) : (s.run stimuli).Attended := by
  have reachable : s.Reachable := ⟨s, fresh, .refl⟩
  have attended := fresh.attended
  clear fresh
  induction stimuli generalizing s with
  | nil => exact attended
  | cons stimulus rest ih =>
      exact ih (reachable.step stimulus) (attended.step reachable.tended stimulus)

end

end Session

end Viva
