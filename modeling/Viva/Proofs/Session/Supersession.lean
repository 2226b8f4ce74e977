import Viva.Proofs.Session.Tickets

/-! # Superseded streams

A stream that has lost its slot is inert: whatever it still delivers, in whichever way it ends, and
whatever happened in between, the conversation, the token and the slots stay as they are. Losing the
slot is for good (`Later.follows`), so this holds from the loss on.
-/

namespace Viva.Session

/-- The conversation, the token and the slots have not changed. -/
structure Untouched (s s' : Session) : Prop where
  store : s'.store = s.store
  tokenFile : s'.tokenFile = s.tokenFile
  slot : ∀ transport, s'.slot transport = s.slot transport

theorem Untouched.refl (s : Session) : s.Untouched s :=
  ⟨rfl, rfl, fun _ => rfl⟩

theorem Untouched.trans {a b c : Session} (first : a.Untouched b) (second : b.Untouched c) :
    a.Untouched c :=
  ⟨second.store.trans first.store, second.tokenFile.trans first.tokenFile,
    fun t => (second.slot t).trans (first.slot t)⟩

theorem untouched_giveBack (s : Session) (id : Nat) (result : CallResult) :
    s.Untouched (s.giveBack id result) :=
  ⟨rfl, rfl, fun t => by cases t <;> rfl⟩

theorem untouched_settle (s : Session) : s.Untouched s.settle :=
  ⟨rfl, rfl, fun t => by cases t <;> rfl⟩

theorem untouched_of_nothing {s : Session} {stimulus : Stimulus} (nothing : s.react stimulus = s) :
    s.Untouched (s.step stimulus) := by
  rw [step, nothing]
  exact untouched_settle s

/-! ## What a stream does that has lost its slot -/

section
variable {s : Session} {transport : Transport} {generation : Nat}

theorem takeFrames_lost (lost : (s.slot transport).isCurrent generation = false)
    (c : Consumption) (frames : List Frame) :
    (Consumption.takeFrames (observer transport generation) c s frames).2 = s := by
  induction frames generalizing c with
  | nil => rfl
  | cons frame rest ih =>
      have unheard : ∀ event, (observer transport generation).notify s event = s := by
        intro event
        simp only [observer, lost, Bool.false_eq_true, if_false]
      unfold Consumption.takeFrames
      split
      · rfl
      · split
        · exact ih c
        · exact ih c
        · rfl
        · rw [unheard]
          exact ih _

theorem untouched_failStream (lost : (s.slot transport).isCurrent generation = false) (id : Nat)
    (failure : Failure) : s.Untouched (s.failStream id transport generation failure) := by
  simp only [failStream, lost, Bool.false_eq_true, if_false]
  exact untouched_giveBack s id _

theorem untouched_endStream (lost : (s.slot transport).isCurrent generation = false) (id : Nat)
    (result : Except Failure StreamOutcome) :
    s.Untouched (s.endStream id transport generation result) := by
  match result with
  | .ok .cancelled => exact untouched_giveBack s id _
  | .ok (.completed done tokens) =>
      simp only [endStream, lost, Slot.finish_of_not_current lost, setSlot_slot,
        Bool.false_eq_true, if_false]
      cases transport <;> exact untouched_giveBack s id _
  | .error failure => exact untouched_failStream lost id failure

theorem untouched_awaitRead (s : Session) (id : Nat) (transport : Transport) (generation : Nat)
    (c : Consumption) : s.Untouched (s.awaitRead id transport generation c) := by
  unfold awaitRead
  split
  · exact untouched_giveBack s id _
  · exact ⟨rfl, rfl, fun t => slot_await s id _ t⟩

theorem untouched_takeHeaders (lost : (s.slot transport).isCurrent generation = false) (id : Nat)
    (answer : Except Failure Unit) :
    s.Untouched (s.takeHeaders id transport generation answer) := by
  match answer with
  | .ok () => exact untouched_awaitRead s id transport generation {}
  | .error failure => exact untouched_failStream lost id failure

theorem untouched_takeRest (lost : (s.slot transport).isCurrent generation = false) (id : Nat)
    (c : Consumption) (frames : List Frame) :
    s.Untouched (s.takeRest id transport generation c frames) := by
  have unheard := takeFrames_lost lost c frames
  unfold takeRest
  split
  · rename_i c' s' taken
    rw [taken] at unheard
    obtain rfl : s' = s := unheard
    exact untouched_awaitRead s' id transport generation c'
  · rename_i result s' taken
    rw [taken] at unheard
    obtain rfl : s' = s := unheard
    exact untouched_endStream lost id result

theorem untouched_takeRead (lost : (s.slot transport).isCurrent generation = false) (id : Nat)
    (c : Consumption) (read : Read) :
    s.Untouched (s.takeRead id transport generation c read) := by
  cases read with
  | bytes bytes => exact untouched_takeRest lost id _ _
  | failure detail => exact untouched_failStream lost id _
  | ended => exact untouched_endStream lost id _

end

/-! ## Inert streams -/

/-- Nothing that the stream of a call can still do touches the conversation, the token or a slot:
    not the answer to its request, not a read of it, and no piece of a read. -/
structure Inert (s : Session) (id : Nat) (transport : Transport) (generation : Nat) : Prop where
  answer : ∀ answer, s.Untouched (s.step (.answer id answer))
  read : ∀ read, s.Untouched (s.step (.read id read))
  partway : ∀ c frames,
    s.Untouched (Consumption.takeFrames (observer transport generation) c s frames).2
  rest : ∀ c frames, s.Untouched (s.takeRest id transport generation c frames)

theorem inert_of_lost {s : Session} {id : Nat} {transport : Transport} {generation : Nat}
    (lost : (s.slot transport).isCurrent generation = false) {state : CallState}
    (here : s.calls[id]? = some state)
    (waits : state.generation? transport = some generation ∨ state.isReturned = true) :
    s.Inert id transport generation where
  answer := by
    intro answer
    refine Untouched.trans ?_ (untouched_settle _)
    unfold react takeAnswer
    dsimp only
    rw [here]
    split
    · rename_i other g same
      obtain rfl := Option.some.inj same
      rcases waits with waits | returned
      · obtain ⟨rfl, rfl⟩ := CallState.generation?_unique waits (CallState.generation?_headers other g)
        exact untouched_takeHeaders lost id _
      · cases returned
    -- A call that waits for an upload or a notice waits for no stream.
    · rename_i same
      obtain rfl := Option.some.inj same
      rcases waits with waits | returned <;> contradiction
    · rename_i same
      obtain rfl := Option.some.inj same
      rcases waits with waits | returned <;> contradiction
    · exact .refl s
  read := by
    intro read
    refine Untouched.trans ?_ (untouched_settle _)
    unfold react takeReadOf
    dsimp only
    rw [here]
    split
    · rename_i other g c same
      obtain rfl := Option.some.inj same
      rcases waits with waits | returned
      · obtain ⟨rfl, rfl⟩ := CallState.generation?_unique waits (CallState.generation?_read other g c)
        exact untouched_takeRead lost id c read
      · cases returned
    · exact .refl s
  partway := by
    intro c frames
    rw [takeFrames_lost lost]
    exact .refl s
  rest := fun c frames => untouched_takeRest lost id c frames

/-- Once the stream of a call has lost its slot it is inert, whatever else happens and in whatever
    order: to calls, to other streams, or between two pieces of one of its reads. -/
theorem inert_of_superseded {s s' : Session} (reachable : s.Reachable) {id : Nat}
    {state : CallState} {transport : Transport} {generation : Nat}
    (here : s.calls[id]? = some state) (waits : state.generation? transport = some generation)
    (lost : (s.slot transport).isCurrent generation = false) (later : s.Later s') :
    s'.Inert id transport generation := by
  have begun := reachable.tended.begun id state transport generation here waits
  obtain ⟨state', there, follows⟩ := later.follows.calls id state here
  exact inert_of_lost ((later.follows.slot transport).lost begun lost) there
    (follows.stream transport generation waits)

/-- Beginning anew while the request of a start is pending: the start waits on, and is inert when
    the server has answered it. -/
theorem inert_pending_start :
    let s := ({ baseUrl := "", tokenFile := some "t" } : Session).run
      [.call (.assign "A"), .call .start, .call (.assign "B")]
    s.calls[1]? = some (.waiting (.headers .response 0)) ∧
      (s.run [.answer 1 (.status 200)]).Inert 1 .response 0 := by
  intro s
  have here : s.calls[1]? = some (.waiting (.headers .response 0)) := rfl
  have reachable : s.Reachable :=
    ⟨_, ⟨rfl, fun transport => by cases transport <;> rfl⟩, later_run _ _⟩
  exact ⟨here, inert_of_superseded reachable here rfl rfl (later_run s _)⟩

end Viva.Session
