import Viva.Proofs.Stream.Ownership
import Viva.Proofs.Stream.Transcript
import Viva.Session.Run

/-! # What a stimulus does to the streams

The streams of a session are its two slots and the calls that wait for them. This module says once
what a stimulus can do to them, so that no invariant has to look into the calls again:

* most of what a session does leaves them alone (`SameStreams`);
* a call takes a turn (`Turn`): it may empty a slot or begin a stream, and then returns or waits;
* an answer or a read moves one stream on or ends it (`StreamTurn`);
* settling returns the calls whose streams were cancelled.
-/

namespace Viva

namespace CallState

/-- The generation of the stream of a kind that the call waits for. -/
def generation? (state : CallState) (transport : Transport) : Option Nat :=
  match state with
  | .waiting (.headers other generation) | .waiting (.read other generation _) =>
    if other = transport then some generation else none
  | _ => none

theorem generation?_headers (transport : Transport) (generation : Nat) :
    (waiting (.headers transport generation)).generation? transport = some generation :=
  if_pos rfl

theorem generation?_read (transport : Transport) (generation : Nat) (c : Consumption) :
    (waiting (.read transport generation c)).generation? transport = some generation :=
  if_pos rfl

/-- The stream that the call reads keeps no complete record. -/
def Settled : CallState → Prop
  | .waiting (.read _ _ consumption) => consumption.reader.Settled
  | _ => True

end CallState

/-- What one call may do to a slot; the last argument is the generation it waits for afterwards. -/
inductive Slot.Turn (slot : Slot) : Slot → Option Nat → Prop where
  | kept : Turn slot slot none
  | released : Turn slot slot.release none
  /-- A stream was begun, and its request could not be sent. -/
  | failed : Turn slot (slot.start.finish slot.ticket) none
  | started : Turn slot slot.start (some slot.ticket)

/-- A slot that was emptied before a call's turn counts into the turn. -/
theorem Slot.Turn.after_release {slot after : Slot} {generation : Option Nat}
    (turn : slot.release.Turn after generation) : slot.Turn after generation := by
  cases turn with
  | kept => exact .released
  | released => exact .released
  | failed => exact .failed
  | started => exact .started

namespace Session

/-! ## Leaving the streams alone -/

/-- No slot and no call has changed. -/
structure SameStreams (s s' : Session) : Prop where
  slot : ∀ transport, s'.slot transport = s.slot transport
  calls : s'.calls = s.calls

theorem SameStreams.of_fields {s s' : Session} (replies : s'.replies = s.replies)
    (events : s'.events = s.events) (calls : s'.calls = s.calls) : s.SameStreams s' where
  slot := by
    intro transport
    cases transport with
    | response => exact replies
    | eventSource => exact events
  calls := calls

theorem SameStreams.refl (s : Session) : s.SameStreams s :=
  ⟨fun _ => rfl, rfl⟩

theorem SameStreams.trans {a b c : Session} (first : a.SameStreams b) (second : b.SameStreams c) :
    a.SameStreams c :=
  ⟨fun t => (second.slot t).trans (first.slot t), second.calls.trans first.calls⟩

theorem sameStreams_dispatch (s : Session) (action : Action) : s.SameStreams (s.dispatch action) :=
  .of_fields rfl rfl rfl

theorem sameStreams_report (s : Session) (failure : Failure) : s.SameStreams (s.report failure) :=
  .of_fields rfl rfl rfl

/-- A request is sent with the token there is. -/
theorem eq_of_send {s s' : Session} {waiter : Waiter} {endpoint : Endpoint}
    (isSent : s.send waiter endpoint = .ok s') :
    ∃ token, s.token? = some token ∧
      s' = { s with sent := s.sent ++ [⟨waiter, endpoint, token⟩] } := by
  unfold send at isSent
  split at isSent
  · cases isSent
  · rename_i token signedIn
    exact ⟨token, signedIn, (Except.ok.inj isSent).symm⟩

theorem sameStreams_send {s s' : Session} {waiter : Waiter} {endpoint : Endpoint}
    (isSent : s.send waiter endpoint = .ok s') : s.SameStreams s' := by
  obtain ⟨token, -, rfl⟩ := eq_of_send isSent
  exact .of_fields rfl rfl rfl

theorem sameStreams_onRecorder (s : Session) (change : Recorder → Recorder) :
    s.SameStreams (s.onRecorder change) :=
  .of_fields rfl rfl rfl

theorem sameStreams_prepareRecorder (s : Session) : s.SameStreams s.prepareRecorder.1 := by
  unfold prepareRecorder
  split
  · exact .refl s
  · exact .of_fields rfl rfl rfl

theorem sameStreams_startRecorder (s : Session) : s.SameStreams s.startRecorder.1 := by
  unfold startRecorder
  split
  · exact .refl s
  · exact .of_fields rfl rfl rfl

theorem sameStreams_takeRecording (s : Session) : s.SameStreams s.takeRecording.1 := by
  unfold takeRecording
  split
  · exact .of_fields rfl rfl rfl
  · exact .refl s
  · dsimp only
    split <;> exact .of_fields rfl rfl rfl

theorem sameStreams_applyEvent (s : Session) (event : Event) : s.SameStreams (s.applyEvent event) := by
  cases event with
  | token content => exact (sameStreams_dispatch s _).trans (sameStreams_dispatch _ _)
  | done payload => exact (sameStreams_dispatch s _).trans (sameStreams_dispatch _ _)
  | messageDone => exact sameStreams_dispatch s _
  | assessmentComplete evaluationId => exact sameStreams_dispatch s _
  | error text recoverable => exact .refl s
  | unknown name => exact .refl s

theorem sameStreams_notify (transport : Transport) (generation : Nat) (s : Session)
    (event : Event) : s.SameStreams ((observer transport generation).notify s event) := by
  simp only [observer]
  split
  · exact sameStreams_applyEvent s event
  · exact .refl s

theorem sameStreams_takeFrames (transport : Transport) (generation : Nat) (c : Consumption)
    (s : Session) (frames : List Frame) :
    s.SameStreams (Consumption.takeFrames (observer transport generation) c s frames).2 := by
  induction frames generalizing c s with
  | nil => exact .refl s
  | cons frame rest ih =>
      unfold Consumption.takeFrames
      split
      · exact .refl s
      · split
        · exact ih c s
        · exact ih c s
        · exact .refl s
        · exact (sameStreams_notify transport generation s _).trans (ih _ _)

/-! ### The pump -/

/-- The pump sends one of the parts that it holds and goes on to hold those behind it, or it is
    left with none. -/
theorem uploadNext_cases (s : Session) (attemptId : String) (held : List (Blob × Nat)) :
    s.uploadNext attemptId held = s.setPump { s.pump with held := [], uploading := none } ∨
      ∃ blob sequence rest s', (blob, sequence) :: rest <:+ held ∧
        s.send .pump (.chunk attemptId blob sequence) = .ok s' ∧
          s.uploadNext attemptId held =
            s'.setPump { s'.pump with held := rest, uploading := some attemptId } := by
  induction held with
  | nil => exact .inl rfl
  | cons part rest ih =>
      unfold uploadNext
      split
      · rename_i sent
        exact .inr ⟨_, _, rest, _, List.suffix_refl _, sent, rfl⟩
      · rcases ih with nothing | ⟨blob, sequence, behind, s', among, sent, same⟩
        · exact .inl nothing
        · exact .inr ⟨blob, sequence, behind, s', among.trans (List.suffix_cons _ _), sent, same⟩

/-- What holds of a session and itself, and goes on to hold when an event is taken, holds of it and
    what it has become when it has taken some. -/
theorem takeEvents_induction {R : Session → Session → Prop} (refl : ∀ s, R s s)
    (trans : ∀ {a b c}, R a b → R b c → R a c) (takes : ∀ s event, R s (s.takeEvent event))
    (s : Session) (events : List RecordingEvent) : R s (s.takeEvents events) := by
  induction events generalizing s with
  | nil => exact refl s
  | cons event rest ih =>
      unfold takeEvents
      split
      · exact refl s
      · exact trans (takes s event) (ih _)

/-- A relation of a session to what it becomes that all parts of the pump's work keep. -/
structure KeptByPump (R : Session → Session → Prop) : Prop where
  trans : ∀ {a b c : Session}, R a b → R b c → R a c
  setPump : ∀ (s : Session) (pump : Pump), R s (s.setPump pump)
  limit : ∀ s : Session, R s { s with maxDurationReached := true }
  report : ∀ (s : Session) (failure : Failure), R s (s.report failure)
  send : ∀ {s s' : Session} {attemptId : String} {blob : Blob} {sequence : Nat},
    s.send .pump (.chunk attemptId blob sequence) = .ok s' → R s s'

section
variable {R : Session → Session → Prop}

theorem KeptByPump.refl (kept : KeptByPump R) (s : Session) : R s s :=
  kept.setPump s s.pump

theorem KeptByPump.uploadNext (kept : KeptByPump R) (s : Session) (attemptId : String)
    (held : List (Blob × Nat)) : R s (s.uploadNext attemptId held) := by
  rcases uploadNext_cases s attemptId held with same | ⟨_, _, _, s', -, sent, same⟩ <;> rw [same]
  · exact kept.setPump s _
  · exact kept.trans (kept.send sent) (kept.setPump s' _)

theorem KeptByPump.takeEvent (kept : KeptByPump R) (s : Session) (event : RecordingEvent) :
    R s (s.takeEvent event) := by
  refine kept.trans (kept.setPump s { s.pump with taken := s.pump.taken + 1 }) ?_
  cases event with
  | stateChanged state => exact kept.refl _
  | maxDurationReached => exact kept.limit _
  | failed failure => exact kept.report _ failure
  | chunkReady blob sequence =>
      simp only [Session.takeEvent]
      split
      · exact kept.setPump _ _
      · exact kept.uploadNext _ _ _

theorem KeptByPump.takeEvents (kept : KeptByPump R) (s : Session) (events : List RecordingEvent) :
    R s (s.takeEvents events) :=
  takeEvents_induction kept.refl kept.trans kept.takeEvent s events

theorem KeptByPump.takePumpAnswer (kept : KeptByPump R) (s : Session) : R s s.takePumpAnswer := by
  unfold Session.takePumpAnswer
  split
  · exact kept.uploadNext s _ _
  · exact kept.refl s

end

theorem sameStreams_pump : KeptByPump SameStreams where
  trans := .trans
  setPump := fun _ _ => .of_fields rfl rfl rfl
  limit := fun _ => .of_fields rfl rfl rfl
  report := sameStreams_report
  send := sameStreams_send

/-! ## The turn of a call -/

/-- Before a call returns or waits: the calls are as they were, and slots may have been emptied. -/
structure Clears (s s' : Session) : Prop where
  slot : ∀ transport, s'.slot transport = s.slot transport ∨
    s'.slot transport = (s.slot transport).release
  calls : s'.calls = s.calls

theorem SameStreams.clears {s s' : Session} (same : s.SameStreams s') : s.Clears s' :=
  ⟨fun t => .inl (same.slot t), same.calls⟩

theorem Clears.trans {a b c : Session} (first : a.Clears b) (second : b.Clears c) : a.Clears c where
  slot := by
    intro transport
    rcases second.slot transport with kept | emptied
    · rw [kept]
      exact first.slot transport
    · rw [emptied]
      rcases first.slot transport with kept | already
      · exact .inr (by rw [kept])
      · exact .inr (by rw [already, Slot.release_release])
  calls := second.calls.trans first.calls

theorem slot_setSlot (s : Session) (transport : Transport) (slot : Slot) :
    (s.setSlot transport slot).slot transport = slot := by
  cases transport <;> rfl

theorem slot_setSlot_of_ne (s : Session) {transport other : Transport} (slot : Slot)
    (ne : other ≠ transport) : (s.setSlot transport slot).slot other = s.slot other := by
  cases transport <;> cases other <;> first | rfl | exact absurd rfl ne

theorem calls_setSlot (s : Session) (transport : Transport) (slot : Slot) :
    (s.setSlot transport slot).calls = s.calls := by
  cases transport <;> rfl

theorem clears_supersede (s : Session) (transport : Transport) :
    s.Clears (s.supersede transport) := by
  unfold supersede
  dsimp only
  split
  · refine Clears.trans ?_ (sameStreams_dispatch _ _).clears
    refine ⟨fun other => ?_, calls_setSlot s transport _⟩
    by_cases same : other = transport
    · subst same
      exact .inr (slot_setSlot s other _)
    · exact .inl (slot_setSlot_of_ne s _ same)
  · exact (SameStreams.refl s).clears

theorem clears_assign (s : Session) (assignmentId : String) : s.Clears (s.assign assignmentId) where
  slot := by
    intro transport
    cases transport <;> exact .inr rfl
  calls := rfl

/-- The call with this number has taken its turn: it has returned, or it waits, for a stream only if
    it has just begun that stream. -/
def Turn (id : Nat) (s s' : Session) : Prop :=
  ∃ state : CallState, s'.calls = s.calls.set id state ∧ state.Settled ∧
    ∀ transport, (s.slot transport).Turn (s'.slot transport) (state.generation? transport)

theorem Turn.after {id : Nat} {s before after : Session} (turn : Turn id before after)
    (cleared : s.Clears before) : Turn id s after := by
  obtain ⟨state, calls, settled, slots⟩ := turn
  refine ⟨state, by rw [calls, cleared.calls], settled, fun transport => ?_⟩
  have slot := slots transport
  rcases cleared.slot transport with kept | emptied
  · rwa [kept] at slot
  · rw [emptied] at slot
    exact slot.after_release

theorem turn_giveBack (s : Session) (id : Nat) (result : CallResult) :
    Turn id s (s.giveBack id result) :=
  ⟨.returned result, rfl, trivial, fun transport => by cases transport <;> exact .kept⟩

theorem turn_failCall (s : Session) (id : Nat) (failure : Failure) :
    Turn id s (s.failCall id failure) :=
  (turn_giveBack _ id _).after (sameStreams_report s failure).clears

/-- A call that waits for something other than a stream. -/
theorem turn_await (s : Session) (id : Nat) (awaiting : Awaiting)
    (none : ∀ transport, (CallState.waiting awaiting).generation? transport = none)
    (settled : (CallState.waiting awaiting).Settled) : Turn id s (s.await id awaiting) := by
  refine ⟨.waiting awaiting, rfl, settled, fun transport => ?_⟩
  rw [none transport]
  cases transport <;> exact .kept

/-! ## The turn of a stream -/

/-- The call with this number has returned, and its stream has left the slot. -/
structure StreamOver (id : Nat) (transport : Transport) (generation : Nat) (s s' : Session) :
    Prop where
  calls : ∃ result, s'.calls = s.calls.set id (.returned result)
  slot : s'.slot transport = (s.slot transport).finish generation
  others : ∀ other, other ≠ transport → s'.slot other = s.slot other

theorem StreamOver.slot_cases {id : Nat} {transport : Transport} {generation : Nat}
    {s s' : Session} (ended : StreamOver id transport generation s s') (other : Transport) :
    s'.slot other = s.slot other ∨ s'.slot other = (s.slot other).finish generation := by
  by_cases same : other = transport
  · exact .inr (same ▸ ended.slot)
  · exact .inl (ended.others other same)

/-- The call with this number has moved its stream on, or has returned. -/
inductive StreamTurn (id : Nat) (transport : Transport) (generation : Nat) (s s' : Session) :
    Prop where
  | goesOn (state : CallState) (calls : s'.calls = s.calls.set id state)
      (waits : state.generation? transport = some generation) (settled : state.Settled)
      (slots : ∀ other, s'.slot other = s.slot other)
  | ends (ended : StreamOver id transport generation s s')
  | cancelled (result : CallResult) (calls : s'.calls = s.calls.set id (.returned result))
      (slots : ∀ other, s'.slot other = s.slot other)

theorem StreamTurn.after {id transport generation} {s before after : Session}
    (turn : StreamTurn id transport generation before after) (same : s.SameStreams before) :
    StreamTurn id transport generation s after := by
  cases turn with
  | goesOn state calls waits settled slots =>
      exact .goesOn state (by rw [calls, same.calls]) waits settled
        (fun other => (slots other).trans (same.slot other))
  | ends ended =>
      obtain ⟨⟨result, calls⟩, slot, others⟩ := ended
      exact .ends ⟨⟨result, by rw [calls, same.calls]⟩, by rw [slot, same.slot],
        fun other ne => (others other ne).trans (same.slot other)⟩
  | cancelled result calls slots =>
      exact .cancelled result (by rw [calls, same.calls])
        (fun other => (slots other).trans (same.slot other))

/-- A stream that ends leaves its slot and returns; what happens to the conversation on the way is
    no matter. -/
theorem streamOver_giveBack {s s' : Session} {id transport generation} {result : CallResult}
    (same : (s.setSlot transport ((s.slot transport).finish generation)).SameStreams s') :
    StreamOver id transport generation s (s'.giveBack id result) where
  calls := ⟨result, by rw [giveBack, same.calls, calls_setSlot]⟩
  slot := (same.slot transport).trans (slot_setSlot s transport _)
  others := fun other ne => (same.slot other).trans (slot_setSlot_of_ne s _ ne)

theorem setSlot_slot (s : Session) (transport : Transport) :
    s.setSlot transport (s.slot transport) = s := by
  cases transport <;> rfl

theorem streamOver_failStream (s : Session) (id : Nat) (transport : Transport) (generation : Nat)
    (failure : Failure) :
    StreamOver id transport generation s (s.failStream id transport generation failure) := by
  unfold failStream
  dsimp only
  split
  · exact streamOver_giveBack (sameStreams_report _ failure)
  · rename_i lost
    -- A stream that has lost its slot leaves nothing, so this is the same end.
    have same : (s.setSlot transport ((s.slot transport).finish generation)).SameStreams s := by
      rw [Slot.finish_of_not_current (Bool.eq_false_iff.mpr lost), setSlot_slot]
      exact .refl s
    exact streamOver_giveBack same

/-- A stream that was not cancelled leaves its slot when it ends. -/
theorem streamOver_endStream (s : Session) (id : Nat) (transport : Transport) (generation : Nat)
    {outcome : Except Failure StreamOutcome} (ends : outcome ≠ .ok .cancelled) :
    StreamOver id transport generation s (s.endStream id transport generation outcome) := by
  match outcome with
  | .ok .cancelled => exact absurd rfl ends
  | .ok (.completed done tokens) =>
      unfold endStream
      dsimp only
      split
      · split
        · exact streamOver_giveBack (sameStreams_dispatch _ _)
        · exact streamOver_giveBack (.refl _)
      · exact streamOver_giveBack (.refl _)
  | .error failure => exact streamOver_failStream s id transport generation failure

theorem streamTurn_endStream (s : Session) (id : Nat) (transport : Transport) (generation : Nat)
    (outcome : Except Failure StreamOutcome) :
    StreamTurn id transport generation s (s.endStream id transport generation outcome) := by
  by_cases cancelled : outcome = .ok .cancelled
  · subst cancelled
    exact .cancelled _ rfl (fun other => by cases other <;> rfl)
  · exact .ends (streamOver_endStream s id transport generation cancelled)

theorem streamTurn_awaitRead (s : Session) (id : Nat) (transport : Transport) (generation : Nat)
    {c : Consumption} (settled : c.reader.Settled) :
    StreamTurn id transport generation s (s.awaitRead id transport generation c) := by
  unfold awaitRead
  split
  · exact .cancelled _ rfl (fun other => by cases other <;> rfl)
  · exact .goesOn _ rfl (CallState.generation?_read transport generation c) settled
      (fun other => by cases other <;> rfl)

theorem streamTurn_takeHeaders (s : Session) (id : Nat) (transport : Transport) (generation : Nat)
    (answer : Except Failure Unit) :
    StreamTurn id transport generation s (s.takeHeaders id transport generation answer) := by
  match answer with
  | .ok () => exact streamTurn_awaitRead s id transport generation FrameReader.settled_new
  | .error failure => exact .ends (streamOver_failStream s id transport generation failure)

theorem settled_takeFrames {σ : Type} (observer : Consumption.Observer σ) {c c' : Consumption}
    {s s' : σ} {frames : List Frame} (settled : c.reader.Settled)
    (taken : Consumption.takeFrames observer c s frames = (.open c', s')) : c'.reader.Settled := by
  induction frames generalizing c s with
  | nil =>
      simp only [Consumption.takeFrames, Prod.mk.injEq, Consumption.Progress.open.injEq] at taken
      exact taken.1 ▸ settled
  | cons frame rest ih =>
      unfold Consumption.takeFrames at taken
      split at taken
      · simp at taken
      · split at taken
        · exact ih settled taken
        · exact ih settled taken
        · simp at taken
        · exact ih (by rwa [Consumption.note_eq]) taken

/-- What is left of a read: some records, and what follows them. -/
def takeRest (s : Session) (id : Nat) (transport : Transport) (generation : Nat)
    (c : Consumption) (frames : List Frame) : Session :=
  match Consumption.takeFrames (observer transport generation) c s frames with
  | (.open c, s) => s.awaitRead id transport generation c
  | (.over result, s) => s.endStream id transport generation result

theorem takeRead_bytes (s : Session) (id : Nat) (transport : Transport) (generation : Nat)
    (c : Consumption) (bytes : List UInt8) :
    s.takeRead id transport generation c (.bytes bytes) =
      s.takeRest id transport generation { c with reader := (c.reader.feed bytes).2 }
        (c.reader.feed bytes).1 := rfl

theorem streamTurn_takeRest (s : Session) (id : Nat) (transport : Transport) (generation : Nat)
    {c : Consumption} (settled : c.reader.Settled) (frames : List Frame) :
    StreamTurn id transport generation s (s.takeRest id transport generation c frames) := by
  have same := sameStreams_takeFrames transport generation c s frames
  unfold takeRest
  split
  · rename_i c' s' taken
    rw [taken] at same
    exact (streamTurn_awaitRead s' id transport generation
      (settled_takeFrames _ settled taken)).after same
  · rename_i result s' taken
    rw [taken] at same
    exact (streamTurn_endStream s' id transport generation result).after same

theorem streamTurn_takeRead (s : Session) (id : Nat) (transport : Transport) (generation : Nat)
    (c : Consumption) (read : Read) :
    StreamTurn id transport generation s (s.takeRead id transport generation c read) := by
  cases read with
  | bytes bytes =>
      rw [takeRead_bytes]
      exact streamTurn_takeRest s id transport generation (FrameReader.settled_feed c.reader bytes) _
  | failure detail =>
      exact .ends (streamOver_failStream s id transport generation _)
  | ended =>
      exact streamTurn_endStream s id transport generation _

/-! ## The calls -/

theorem slot_await (s : Session) (id : Nat) (awaiting : Awaiting) (transport : Transport) :
    (s.await id awaiting).slot transport = s.slot transport := by
  cases transport <;> rfl

/-- Where a new stream leaves its call and its slot. -/
structure Opened (id : Nat) (transport : Transport) (s s' : Session) : Prop where
  /-- The call waits and its stream owns the slot, unless the request could not be sent. -/
  own : s'.calls = s.calls.set id (.waiting (.headers transport (s.slot transport).ticket)) ∧
        s'.slot transport = (s.slot transport).start ∨
      (∃ result, s'.calls = s.calls.set id (.returned result)) ∧
        s'.slot transport = (s.slot transport).start.finish (s.slot transport).ticket
  others : ∀ other, other ≠ transport → s'.slot other = s.slot other

theorem opened_openStream (s : Session) (id : Nat) (transport : Transport) (endpoint : Endpoint) :
    Opened id transport s (s.openStream id transport endpoint) := by
  unfold openStream
  dsimp only
  split
  · rename_i s' sent
    have same := sameStreams_send sent
    refine ⟨.inl ⟨?_, ?_⟩, fun other ne => ?_⟩
    · rw [await, same.calls, calls_setSlot]
    · rw [slot_await, same.slot, slot_setSlot]
    · rw [slot_await, same.slot, slot_setSlot_of_ne s _ ne]
  · rename_i failure notSent
    obtain ⟨⟨result, calls⟩, slot, others⟩ := streamOver_failStream
      (s.setSlot transport (s.slot transport).start) id transport (s.slot transport).ticket failure
    refine ⟨.inr ⟨⟨result, by rw [calls, calls_setSlot]⟩, ?_⟩, fun other ne => ?_⟩
    · rw [slot, slot_setSlot]
    · rw [others other ne, slot_setSlot_of_ne s _ ne]

theorem Opened.turn {id : Nat} {transport : Transport} {s s' : Session}
    (opened : Opened id transport s s') : Turn id s s' := by
  rcases opened.own with ⟨calls, slot⟩ | ⟨⟨result, calls⟩, slot⟩
  · refine ⟨_, calls, trivial, fun other => ?_⟩
    by_cases same : other = transport
    · subst same
      rw [slot, CallState.generation?_headers]
      exact .started
    · rw [opened.others other same, CallState.generation?, if_neg (Ne.symm same)]
      exact .kept
  · refine ⟨_, calls, trivial, fun other => ?_⟩
    by_cases same : other = transport
    · subst same
      rw [slot]
      exact .failed
    · rw [opened.others other same]
      exact .kept

/-- A new stream takes the slot from those before it. -/
theorem Opened.lost {id : Nat} {transport : Transport} {s s' : Session}
    (opened : Opened id transport s s') {generation : Nat}
    (begun : generation < (s.slot transport).next) :
    (s'.slot transport).isCurrent generation = false := by
  have started := (s.slot transport).isCurrent_start begun
  rcases opened.own with ⟨-, slot⟩ | ⟨-, slot⟩
  · rwa [slot]
  · rw [slot]
    exact (Slot.follows_finish _ _).lost (Nat.lt_succ_of_lt begun) started

theorem turn_openStream (s : Session) (id : Nat) (transport : Transport) (endpoint : Endpoint) :
    Turn id s (s.openStream id transport endpoint) :=
  (opened_openStream s id transport endpoint).turn

theorem turn_acquireDevices (s : Session) (id : Nat) : Turn id s (s.acquireDevices id) := by
  have same := sameStreams_prepareRecorder s
  unfold acquireDevices
  split
  · rename_i prepared
    rw [prepared] at same
    exact (turn_failCall _ id _).after same.clears
  · rename_i prepared
    rw [prepared] at same
    exact (turn_giveBack _ id _).after (same.trans (sameStreams_dispatch _ _)).clears

theorem turn_grantPermissions (s : Session) (id : Nat) : Turn id s (s.grantPermissions id) := by
  unfold grantPermissions
  dsimp only
  split
  · exact turn_acquireDevices s id
  · split
    · split
      · exact turn_giveBack s id _
      · exact (turn_acquireDevices _ id).after (sameStreams_dispatch s _).clears
    · exact turn_giveBack s id _

theorem turn_start (s : Session) (id : Nat) : Turn id s (s.start id) := by
  unfold start
  dsimp only
  split
  · exact turn_giveBack s id _
  · split
    · exact turn_giveBack s id _
    · rename_i assignmentId bound
      have same := (sameStreams_dispatch s (.startAssessment none none s.wallClock)).trans
        (sameStreams_startRecorder _)
      split
      · rename_i started
        rw [started] at same
        exact (turn_failCall _ id _).after same.clears
      · rename_i started
        rw [started] at same
        exact (turn_openStream _ id _ _).after same.clears

theorem turn_startExisting (s : Session) (id : Nat) (attemptId objectiveTitle : String) :
    Turn id s (s.startExisting id attemptId objectiveTitle) := by
  unfold startExisting
  dsimp only
  split
  · exact turn_giveBack s id _
  · have same := (sameStreams_dispatch s
      (.startAssessment (some attemptId) (some objectiveTitle) s.wallClock)).trans
        (sameStreams_startRecorder _)
    split
    · rename_i started
      rw [started] at same
      exact (turn_failCall _ id _).after same.clears
    · rename_i started
      rw [started] at same
      exact (turn_giveBack _ id _).after same.clears

theorem turn_streamReply (s : Session) (id : Nat) (content : String) :
    Turn id s (s.streamReply id content) := by
  have same := sameStreams_dispatch s .beginInterviewerMessage
  unfold streamReply
  dsimp only
  split
  · exact (turn_failCall _ id _).after same.clears
  · exact (turn_openStream _ id _ _).after same.clears

theorem turn_sendMessage (s : Session) (id : Nat) (content : String) :
    Turn id s (s.sendMessage id content) := by
  have cleared := clears_supersede s .response
  unfold sendMessage
  dsimp only
  split
  · exact turn_giveBack s id _
  · split
    · refine (turn_streamReply _ id content).after (cleared.trans ?_)
      exact SameStreams.clears ((sameStreams_dispatch _ (.sendMessage content)).trans
        (.of_fields rfl rfl rfl))
    · exact (turn_giveBack _ id _).after cleared

theorem turn_retryStart (s : Session) (id : Nat) : Turn id s (s.retryStart id) := by
  unfold retryStart
  dsimp only
  split
  · exact (turn_giveBack _ id _).after (sameStreams_dispatch s _).clears
  · split
    · exact turn_grantPermissions s id
    · split
      · exact turn_giveBack s id _
      · exact (turn_start _ id).after
          ((sameStreams_dispatch s _).trans (sameStreams_dispatch _ _)).clears

theorem turn_retry (s : Session) (id : Nat) : Turn id s (s.retry id) := by
  unfold retry
  dsimp only
  split
  · exact turn_giveBack s id _
  · split
    · exact turn_retryStart s id
    · have same := sameStreams_dispatch s .clearError
      split
      · exact (turn_streamReply _ id _).after same.clears
      · exact (turn_giveBack _ id _).after same.clears

theorem turn_followEvents (s : Session) (id : Nat) : Turn id s (s.followEvents id) := by
  unfold followEvents
  split
  · exact turn_giveBack s id _
  · exact turn_openStream s id _ _

theorem turn_sendCompletion (s : Session) (id : Nat) (attemptId : String) :
    Turn id s (s.sendCompletion id attemptId) := by
  unfold sendCompletion
  split
  · rename_i sent
    exact (turn_await _ id .completion (fun _ => rfl) trivial).after (sameStreams_send sent).clears
  · exact turn_failCall s id _

theorem turn_failUpload (s : Session) (id : Nat) (recording : Blob) (failure : Failure) :
    Turn id s (s.failUpload id recording failure) := by
  have same : s.SameStreams { s with finalRecording := some recording } := .of_fields rfl rfl rfl
  exact (turn_failCall _ id failure).after same.clears

theorem turn_finish (s : Session) (id : Nat) : Turn id s (s.finish id) := by
  unfold finish
  dsimp only
  split
  · exact turn_giveBack s id _
  · split
    · exact turn_failCall s id _
    · rename_i attemptId known
      have cleared := ((clears_supersede s .response).trans (clears_supersede _ .eventSource)).trans
        (sameStreams_dispatch _ .beginCompletion).clears
      have taken := cleared.trans (sameStreams_takeRecording _).clears
      split
      · rename_i nothing
        rw [nothing] at taken
        exact (turn_sendCompletion _ id attemptId).after taken
      · rename_i recorded
        rw [recorded] at taken
        split
        · rename_i sent
          exact (turn_await _ id (.upload _ _) (fun _ => rfl) trivial).after
            (taken.trans (sameStreams_send sent).clears)
        · exact (turn_failUpload _ id _ _).after taken

theorem clears_abandon (s : Session) : s.Clears s.abandon :=
  ((clears_supersede s .response).trans (clears_supersede _ .eventSource)).trans
    (sameStreams_onRecorder _ _).clears

/-- Whatever the call is, it takes one turn. -/
theorem turn_runCall (s : Session) (id : Nat) (call : Call) : Turn id s (s.runCall id call) := by
  cases call with
  | assign assignmentId => exact (turn_giveBack _ id _).after (clears_assign s assignmentId)
  | grantPermissions => exact turn_grantPermissions s id
  | start => exact turn_start s id
  | startExisting attemptId title => exact turn_startExisting s id attemptId title
  | sendMessage content => exact turn_sendMessage s id content
  | retry => exact turn_retry s id
  | clearError | continueAfterClosure =>
      exact (turn_giveBack _ id _).after (sameStreams_dispatch s _).clears
  | followEvents => exact turn_followEvents s id
  | pauseRecording | resumeRecording | setVisibility visibility =>
      exact (turn_giveBack _ id _).after (sameStreams_onRecorder s _).clears
  | finish => exact turn_finish s id
  | abandon => exact (turn_giveBack _ id _).after (clears_abandon s)

theorem turn_takeUploaded (s : Session) (id : Nat) (attemptId : String) (recording : Blob)
    (answer : Except Failure Unit) : Turn id s (s.takeUploaded id attemptId recording answer) := by
  match answer with
  | .ok () => exact turn_sendCompletion s id attemptId
  | .error failure => exact turn_failUpload s id recording failure

theorem turn_takeCompleted (s : Session) (id : Nat) (answer : Except Failure Unit) :
    Turn id s (s.takeCompleted id answer) := by
  match answer with
  | .ok () => exact (turn_giveBack _ id _).after (sameStreams_dispatch s _).clears
  | .error failure => exact turn_failCall s id failure

/-! ## A stimulus -/

/-- The session in which a new call runs. -/
def withCall (s : Session) : Session :=
  { s with calls := s.calls ++ [.returned none] }

theorem slot_withCall (s : Session) (transport : Transport) :
    s.withCall.slot transport = s.slot transport := by
  cases transport <;> rfl

/-- The turn of a new call leaves the calls before it as they are. -/
theorem Turn.kept {s s' : Session} (turn : Turn s.nextCall s.withCall s') {id : Nat}
    {state : CallState} (here : s.calls[id]? = some state) : s'.calls[id]? = some state := by
  obtain ⟨new, calls, -, -⟩ := turn
  obtain ⟨inside, -⟩ := List.getElem?_eq_some_iff.mp here
  have other : s.nextCall ≠ id := Nat.ne_of_gt inside
  rw [calls, List.getElem?_set_ne other, withCall, List.getElem?_append_left inside, here]

/-- What a stimulus does to the streams before the session settles. -/
inductive Reaction (s s' : Session) : Prop where
  | quiet (same : s.SameStreams s')
  /-- A new call takes its turn. -/
  | call (turn : Turn s.nextCall s.withCall s')
  /-- A call that waited for something other than a stream takes another turn. -/
  | answer (id : Nat) (state : CallState) (here : s.calls[id]? = some state)
      (waits : state.isReturned = false) (none : ∀ transport, state.generation? transport = none)
      (turn : Turn id s s')
  /-- A stream takes a turn. -/
  | stream (id : Nat) (state : CallState) (transport : Transport) (generation : Nat)
      (here : s.calls[id]? = some state) (waits : state.generation? transport = some generation)
      (turn : StreamTurn id transport generation s s')

theorem reaction_takeAnswer (s : Session) (id : Nat) (answer : Answer) :
    Reaction s (s.takeAnswer id answer) := by
  unfold takeAnswer
  split
  · rename_i transport generation here
    exact .stream id _ transport generation here (CallState.generation?_headers _ _)
      (streamTurn_takeHeaders s id transport generation _)
  · rename_i here
    exact .answer id _ here rfl (fun _ => rfl) (turn_takeUploaded s id _ _ _)
  · rename_i here
    exact .answer id _ here rfl (fun _ => rfl) (turn_takeCompleted s id _)
  · exact .quiet (.refl s)

theorem reaction_takeReadOf (s : Session) (id : Nat) (read : Read) :
    Reaction s (s.takeReadOf id read) := by
  unfold takeReadOf
  split
  · rename_i transport generation consumption here
    exact .stream id _ transport generation here (CallState.generation?_read _ _ _)
      (streamTurn_takeRead s id transport generation consumption read)
  · exact .quiet (.refl s)

/-- Every stimulus does one of four things to the streams. -/
theorem reaction (s : Session) (stimulus : Stimulus) : Reaction s (s.react stimulus) := by
  cases stimulus with
  | call call => exact .call (turn_runCall _ _ call)
  | answer id answer => exact reaction_takeAnswer s id answer
  | read id read => exact reaction_takeReadOf s id read
  | uploaded answer => exact .quiet (sameStreams_pump.takePumpAnswer s)
  | pump => exact .quiet (sameStreams_pump.takeEvents s _)
  | elapse ms => exact .quiet (sameStreams_onRecorder s _)
  | dispatch action => exact .quiet (sameStreams_dispatch s action)
  | setToken token => exact .quiet (.of_fields rfl rfl rfl)
  | setOutcome outcome => exact .quiet (sameStreams_onRecorder s _)

end Session

end Viva
