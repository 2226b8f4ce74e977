import Mathlib.Logic.Relation
import Viva.Proofs.Session.Turns

/-! # Tickets over a run

Two things hold of every run, whatever happens in it and in whatever order. A session only moves on:
a call that has returned stays so, a call that waits for a stream waits for that stream or has
returned, and a slot that a stream has lost stays lost to it (`Follows`). And its tickets are in
order: streams that are waited for were begun, and the owner of a slot is not cancelled (`Tended`).
-/

namespace Viva

namespace CallState

/-- What a later state of the same call may be. -/
structure Follows (before after : CallState) : Prop where
  returned : ∀ result, before = .returned result → after = .returned result
  stream : ∀ transport generation, before.generation? transport = some generation →
    after.generation? transport = some generation ∨ after.isReturned = true

theorem Follows.refl (state : CallState) : state.Follows state :=
  ⟨fun _ same => same, fun _ _ waits => .inl waits⟩

theorem Follows.trans {a b c : CallState} (first : a.Follows b) (second : b.Follows c) :
    a.Follows c where
  returned := fun result same => second.returned result (first.returned result same)
  stream := by
    intro transport generation waits
    -- In between the call may have returned, and then it stays returned.
    rcases first.stream transport generation waits with still | returned
    · exact second.stream transport generation still
    · cases b with
      | waiting awaiting => simp [isReturned] at returned
      | returned result => exact .inr (by rw [second.returned result rfl]; rfl)

/-- A call waits for one stream at most. -/
theorem generation?_unique {state : CallState} {transport other : Transport} {generation g : Nat}
    (waits : state.generation? transport = some generation)
    (also : state.generation? other = some g) : other = transport ∧ g = generation := by
  cases state with
  | returned result => simp [generation?] at waits
  | waiting awaiting =>
      cases awaiting with
      | upload | completion => simp [generation?] at waits
      | headers kind n | read kind n consumption =>
          simp only [generation?, Option.ite_none_right_eq_some, Option.some.injEq] at waits also
          exact ⟨also.1.symm.trans waits.1, also.2.symm.trans waits.2⟩

theorem not_returned_of_generation? {state : CallState} {transport : Transport}
    {generation : Nat} (waits : state.generation? transport = some generation)
    {result : CallResult} : state ≠ .returned result := by
  rintro rfl
  simp [generation?] at waits

theorem follows_returned {state : CallState} {transport : Transport} {generation : Nat}
    (waits : state.generation? transport = some generation) (result : CallResult) :
    state.Follows (.returned result) :=
  ⟨fun _ same => absurd same (not_returned_of_generation? waits), fun _ _ _ => .inr rfl⟩

theorem follows_stream {state after : CallState} {transport : Transport} {generation : Nat}
    (waits : state.generation? transport = some generation)
    (still : after.generation? transport = some generation) : state.Follows after where
  returned := fun _ same => absurd same (not_returned_of_generation? waits)
  stream := by
    intro other g also
    obtain ⟨rfl, rfl⟩ := generation?_unique waits also
    exact .inl still

end CallState

namespace Slot.Turn

theorem follows {slot after : Slot} {generation : Option Nat} (turn : slot.Turn after generation) :
    slot.Follows after := by
  cases turn with
  | kept => exact .refl slot
  | released => exact follows_release slot
  | failed => exact (follows_start slot).trans (follows_finish _ _)
  | started => exact follows_start slot

theorem sound {slot after : Slot} {generation : Option Nat} (turn : slot.Turn after generation)
    (sound : slot.Sound) : after.Sound := by
  cases turn with
  | kept => exact sound
  | released => exact sound.release
  | failed => exact sound.start.finish _
  | started => exact sound.start

theorem begun {slot after : Slot} {generation : Nat} (turn : slot.Turn after (some generation)) :
    generation < after.next := by
  cases turn
  exact Nat.lt_succ_self _

end Slot.Turn

namespace Session

/-! ## Moving on -/

/-- `s'` is a later state of the session `s`. -/
structure Follows (s s' : Session) : Prop where
  slot : ∀ transport, (s.slot transport).Follows (s'.slot transport)
  calls : ∀ (id : Nat) (state : CallState), s.calls[id]? = some state →
    ∃ state' : CallState, s'.calls[id]? = some state' ∧ state.Follows state'

theorem Follows.refl (s : Session) : s.Follows s :=
  ⟨fun _ => .refl _, fun _ state here => ⟨state, here, .refl state⟩⟩

theorem Follows.trans {a b c : Session} (first : a.Follows b) (second : b.Follows c) :
    a.Follows c where
  slot := fun t => (first.slot t).trans (second.slot t)
  calls := by
    intro id state here
    obtain ⟨state', there, follows⟩ := first.calls id state here
    obtain ⟨state'', last, follows'⟩ := second.calls id state' there
    exact ⟨state'', last, follows.trans follows'⟩

theorem SameStreams.follows {s s' : Session} (same : s.SameStreams s') : s.Follows s' where
  slot := fun t => by rw [same.slot t]; exact .refl _
  calls := fun id state here => ⟨state, by rw [same.calls, here], .refl state⟩

/-- One call takes another state, and the others keep theirs. -/
theorem calls_follow_set {calls : List CallState} {id : Nat} {new : CallState}
    (follows : ∀ old, calls[id]? = some old → old.Follows new) (i : Nat) (state : CallState)
    (here : calls[i]? = some state) :
    ∃ state', (calls.set id new)[i]? = some state' ∧ state.Follows state' := by
  by_cases same : id = i
  · subst same
    obtain ⟨inside, -⟩ := List.getElem?_eq_some_iff.mp here
    exact ⟨new, List.getElem?_set_self inside, follows state here⟩
  · exact ⟨state, (List.getElem?_set_ne same).trans here, .refl state⟩

theorem StreamTurn.follows {id : Nat} {transport : Transport} {generation : Nat}
    {s s' : Session} (turn : StreamTurn id transport generation s s') {state : CallState}
    (here : s.calls[id]? = some state) (waits : state.generation? transport = some generation) :
    s.Follows s' := by
  have only : ∀ {new : CallState}, state.Follows new →
      ∀ old, s.calls[id]? = some old → old.Follows new := by
    intro new follows old there
    obtain rfl := Option.some.inj (here.symm.trans there)
    exact follows
  cases turn with
  | goesOn new calls still settled slots =>
      refine ⟨fun t => by rw [slots t]; exact .refl _, ?_⟩
      rw [calls]
      exact calls_follow_set (only (CallState.follows_stream waits still))
  | ends ended =>
      obtain ⟨result, calls⟩ := ended.calls
      refine ⟨fun t => ?_, ?_⟩
      · rcases ended.slot_cases t with kept | left
        · rw [kept]
          exact .refl _
        · rw [left]
          exact Slot.follows_finish _ _
      · rw [calls]
        exact calls_follow_set (only (CallState.follows_returned waits result))
  | cancelled result calls slots =>
      refine ⟨fun t => by rw [slots t]; exact .refl _, ?_⟩
      rw [calls]
      exact calls_follow_set (only (CallState.follows_returned waits result))

theorem Reaction.follows {s s' : Session} (reaction : Reaction s s') : s.Follows s' := by
  cases reaction with
  | quiet same => exact same.follows
  | call turn =>
      refine ⟨fun t => ?_, fun id old here => ⟨old, turn.kept here, .refl old⟩⟩
      obtain ⟨state, -, -, slots⟩ := turn
      exact slot_withCall s t ▸ (slots t).follows
  | answer id state here waits none turn =>
      obtain ⟨new, calls, -, slots⟩ := turn
      refine ⟨fun t => (slots t).follows, ?_⟩
      rw [calls]
      refine calls_follow_set fun old there => ?_
      obtain rfl := Option.some.inj (here.symm.trans there)
      exact ⟨by rintro result rfl; simp [CallState.isReturned] at waits, by simp [none]⟩
  | stream id state transport generation here waits turn => exact turn.follows here waits

/-- The state of a call once the calls of cancelled streams have returned. -/
theorem getElem?_releaseCancelled (s : Session) {id : Nat} {state : CallState}
    (here : s.calls[id]? = some state) :
    s.releaseCancelled.calls[id]? = some state ∨
      s.releaseCancelled.calls[id]? = some (.returned (some (.ok ()))) ∧
        ∃ transport generation, state.generation? transport = some generation ∧
          (s.slot transport).isCancelled generation = true := by
  simp only [releaseCancelled, List.getElem?_map, here, Option.map_some]
  split
  · rename_i transport generation consumption
    split
    · rename_i gone
      exact .inr ⟨rfl, transport, generation, CallState.generation?_read _ _ _, gone⟩
    · exact .inl rfl
  · exact .inl rfl

theorem slot_releaseCancelled (s : Session) (transport : Transport) :
    s.releaseCancelled.slot transport = s.slot transport := by
  cases transport <;> rfl

theorem follows_releaseCancelled (s : Session) : s.Follows s.releaseCancelled where
  slot := fun t => by rw [slot_releaseCancelled]; exact .refl _
  calls := by
    intro id state here
    rcases getElem?_releaseCancelled s here with same | ⟨returned, _, _, waits, _⟩
    · exact ⟨state, same, .refl state⟩
    · exact ⟨_, returned, CallState.follows_returned waits _⟩

/-! ## Tickets in order -/

/-- Calls and slots fit together. -/
structure Tended (s : Session) : Prop where
  slots : ∀ transport, (s.slot transport).Sound
  /-- Streams that are waited for have been begun. -/
  begun : ∀ (id : Nat) (state : CallState) transport generation, s.calls[id]? = some state →
    state.generation? transport = some generation → generation < (s.slot transport).next
  settled : ∀ (id : Nat) (state : CallState), s.calls[id]? = some state → state.Settled

theorem SameStreams.tended {s s' : Session} (same : s.SameStreams s') (tended : s.Tended) :
    s'.Tended where
  slots := fun t => by rw [same.slot t]; exact tended.slots t
  begun := fun id state t generation here waits => by
    rw [same.slot t]
    exact tended.begun id state t generation (same.calls ▸ here) waits
  settled := fun id state here => tended.settled id state (same.calls ▸ here)

/-- A call that begins waits for nothing yet. -/
theorem Tended.withCall {s : Session} (tended : s.Tended) : s.withCall.Tended := by
  have split : ∀ (id : Nat) (state : CallState), s.withCall.calls[id]? = some state →
      s.calls[id]? = some state ∨ state = .returned none := by
    intro id state here
    rw [Session.withCall] at here
    rcases Nat.lt_or_ge id s.calls.length with old | new
    · exact .inl (by rwa [List.getElem?_append_left old] at here)
    · rw [List.getElem?_append_right new] at here
      exact .inr (List.mem_singleton.mp (List.mem_of_getElem? here))
  refine ⟨fun t => slot_withCall s t ▸ tended.slots t, ?_, ?_⟩
  · intro id state t generation here waits
    rw [slot_withCall]
    rcases split id state here with old | rfl
    · exact tended.begun id state t generation old waits
    · simp [CallState.generation?] at waits
  · intro id state here
    rcases split id state here with old | rfl
    · exact tended.settled id state old
    · exact trivial

/-- The other calls are as they were, and this call has its new state. -/
theorem getElem?_set_cases {calls : List CallState} {id i : Nat} {new state : CallState}
    (here : (calls.set id new)[i]? = some state) : calls[i]? = some state ∨ state = new := by
  by_cases same : id = i
  · subst same
    obtain ⟨inside, value⟩ := List.getElem?_eq_some_iff.mp here
    exact .inr (by rw [← value, List.getElem_set_self])
  · exact .inl ((List.getElem?_set_ne same).symm.trans here)

/-- One call takes another state, and the slots move on with it. -/
theorem Tended.set {s s' : Session} (tended : s.Tended) {id : Nat} {new : CallState}
    (calls : s'.calls = s.calls.set id new) (settled : new.Settled)
    (sound : ∀ t, (s'.slot t).Sound) (next : ∀ t, (s.slot t).next ≤ (s'.slot t).next)
    (begun : ∀ t generation, new.generation? t = some generation →
      generation < (s'.slot t).next) : s'.Tended where
  slots := sound
  begun := by
    intro i state t generation here waits
    rw [calls] at here
    rcases getElem?_set_cases here with old | rfl
    · exact Nat.lt_of_lt_of_le (tended.begun i state t generation old waits) (next t)
    · exact begun t generation waits
  settled := by
    intro i state here
    rw [calls] at here
    rcases getElem?_set_cases here with old | rfl
    · exact tended.settled i state old
    · exact settled

theorem Turn.tended {id : Nat} {s s' : Session} (turn : Turn id s s') (tended : s.Tended) :
    s'.Tended := by
  obtain ⟨new, calls, settled, slots⟩ := turn
  refine tended.set calls settled (fun t => (slots t).sound (tended.slots t))
    (fun t => (slots t).follows.next_le) fun t generation waits => ?_
  exact (waits ▸ slots t).begun

theorem StreamTurn.tended {id : Nat} {transport : Transport} {generation : Nat} {s s' : Session}
    (turn : StreamTurn id transport generation s s') (tended : s.Tended) {state : CallState}
    (here : s.calls[id]? = some state) (waits : state.generation? transport = some generation) :
    s'.Tended := by
  have idle : ∀ {result : CallResult} t g,
      (CallState.returned result).generation? t = some g → g < (s'.slot t).next := by
    intro result t g waits
    simp [CallState.generation?] at waits
  cases turn with
  | goesOn new calls still settled slots =>
      refine tended.set calls settled (fun t => slots t ▸ tended.slots t)
        (fun t => Nat.le_of_eq (by rw [slots t])) fun t g also => ?_
      obtain ⟨rfl, rfl⟩ := CallState.generation?_unique still also
      rw [slots]
      exact tended.begun id state _ _ here waits
  | ends ended =>
      obtain ⟨result, calls⟩ := ended.calls
      refine tended.set calls trivial (fun t => ?_) (fun t => ?_) idle
      · rcases ended.slot_cases t with kept | left
        · exact kept ▸ tended.slots t
        · exact left ▸ (tended.slots t).finish generation
      · rcases ended.slot_cases t with kept | left
        · exact Nat.le_of_eq (by rw [kept])
        · rw [left]
          exact (Slot.follows_finish _ _).next_le
  | cancelled result calls slots =>
      exact tended.set calls trivial (fun t => slots t ▸ tended.slots t)
        (fun t => Nat.le_of_eq (by rw [slots t])) idle

theorem Reaction.tended {s s' : Session} (reaction : Reaction s s') (tended : s.Tended) :
    s'.Tended := by
  cases reaction with
  | quiet same => exact same.tended tended
  | call turn => exact turn.tended tended.withCall
  | answer id state here waits none turn => exact turn.tended tended
  | stream id state transport generation here waits turn => exact turn.tended tended here waits

/-- The states of calls before cancelled streams returned. -/
theorem getElem?_of_releaseCancelled (s : Session) {id : Nat} {state : CallState}
    (here : s.releaseCancelled.calls[id]? = some state) :
    s.calls[id]? = some state ∨ state = .returned (some (.ok ())) := by
  have known := here
  simp only [releaseCancelled, List.getElem?_map, Option.map_eq_some_iff] at known
  obtain ⟨before, there, -⟩ := known
  rcases getElem?_releaseCancelled s there with same | ⟨returned, -⟩
  · exact .inl (there.trans (same.symm.trans here))
  · exact .inr (Option.some.inj (here.symm.trans returned))

theorem Tended.releaseCancelled {s : Session} (tended : s.Tended) : s.releaseCancelled.Tended where
  slots := fun t => slot_releaseCancelled s t ▸ tended.slots t
  begun := by
    intro id state t generation here waits
    rw [slot_releaseCancelled]
    rcases getElem?_of_releaseCancelled s here with before | rfl
    · exact tended.begun id state t generation before waits
    · simp [CallState.generation?] at waits
  settled := by
    intro id state here
    rcases getElem?_of_releaseCancelled s here with before | rfl
    · exact tended.settled id state before
    · exact trivial

/-! ## Interleavings -/

/-- What may happen next: a stimulus, or a piece of a read. A read that carries several records may
    be held up between two of them, and anything may happen before it goes on. -/
inductive Next (s : Session) : Session → Prop where
  | stimulus (stimulus : Stimulus) : Next s (s.step stimulus)
  /-- Some records of a read, and more are to come. -/
  | partway {id : Nat} {state : CallState} {transport : Transport} {generation : Nat}
      (here : s.calls[id]? = some state)
      (waits : state.generation? transport = some generation) (c : Consumption)
      (frames : List Frame) :
      Next s (Consumption.takeFrames (observer transport generation) c s frames).2
  /-- The rest of a read. -/
  | rest {id : Nat} {state : CallState} {transport : Transport} {generation : Nat}
      (here : s.calls[id]? = some state)
      (waits : state.generation? transport = some generation) {c : Consumption}
      (settled : c.reader.Settled) (frames : List Frame) :
      Next s (s.takeRest id transport generation c frames)

theorem Next.follows {s s' : Session} (next : s.Next s') : s.Follows s' := by
  cases next with
  | stimulus stimulus =>
      exact ((reaction s stimulus).follows.trans (sameStreams_onRecorder _ _).follows).trans
        (follows_releaseCancelled _)
  | partway here waits c frames => exact (sameStreams_takeFrames _ _ c s frames).follows
  | rest here waits settled frames =>
      exact (streamTurn_takeRest s _ _ _ settled frames).follows here waits

theorem Next.tended {s s' : Session} (next : s.Next s') (tended : s.Tended) : s'.Tended := by
  cases next with
  | stimulus stimulus =>
      have reacted := (reaction s stimulus).tended tended
      exact ((sameStreams_onRecorder _ _).tended reacted).releaseCancelled
  | partway here waits c frames => exact (sameStreams_takeFrames _ _ c s frames).tended tended
  | rest here waits settled frames =>
      exact (streamTurn_takeRest s _ _ _ settled frames).tended tended here waits

/-- The session may become `s'`. -/
def Later : Session → Session → Prop :=
  Relation.ReflTransGen Next

/-- A session only moves on. -/
theorem Later.follows {s s' : Session} (later : s.Later s') : s.Follows s' := by
  induction later with
  | refl => exact .refl s
  | tail _ next ih => exact ih.trans next.follows

theorem later_run (s : Session) (stimuli : List Stimulus) : s.Later (s.run stimuli) := by
  induction stimuli generalizing s with
  | nil => exact .refl
  | cons stimulus rest ih => exact .head (.stimulus stimulus) (ih (s.step stimulus))

/-- A session without calls and streams; what else it holds is up to its host. -/
structure Fresh (s : Session) : Prop where
  calls : s.calls = []
  slots : ∀ transport, s.slot transport = {}

def Reachable (s : Session) : Prop :=
  ∃ fresh : Session, fresh.Fresh ∧ fresh.Later s

theorem Reachable.step {s : Session} (reachable : s.Reachable) (stimulus : Stimulus) :
    (s.step stimulus).Reachable := by
  obtain ⟨fresh, isFresh, later⟩ := reachable
  exact ⟨fresh, isFresh, later.tail (.stimulus stimulus)⟩

theorem Reachable.run {s : Session} (reachable : s.Reachable) (stimuli : List Stimulus) :
    (s.run stimuli).Reachable := by
  obtain ⟨fresh, isFresh, later⟩ := reachable
  exact ⟨fresh, isFresh, later.trans (later_run s stimuli)⟩

theorem Fresh.tended {s : Session} (fresh : s.Fresh) : s.Tended where
  slots := fun t => fresh.slots t ▸ Slot.sound_new
  begun := fun id state t generation here => by simp [fresh.calls] at here
  settled := fun id state here => by simp [fresh.calls] at here

theorem Reachable.tended {s : Session} (reachable : s.Reachable) : s.Tended := by
  obtain ⟨fresh, isFresh, later⟩ := reachable
  induction later with
  | refl => exact isFresh.tended
  | tail _ next ih => exact next.tended ih

end Session

end Viva
