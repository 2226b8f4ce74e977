import Viva.Proofs.Session.Background
import Viva.Proofs.Session.Saying
import Viva.Proofs.Stream.Transcript

/-! # A reply from its request to its end

A call that streams waits for the answer, then for reads, and hears the events of the records that
they complete. While it owns its slot nobody else is heard, so what the body comes to is what its
transcript says (`run_response`), however it is cut into reads and whatever goes on beside the calls.
-/

namespace Viva

/-- What a whole body tells. -/
def Body.transcript (body : Body) : Transcript :=
  .ofFrames (({} : FrameReader).feed body.bytes).1

namespace Consumption

/-! ## One read after the other -/

/-- What the records tell that these bytes complete. -/
def tells (c : Consumption) (bytes : List UInt8) : Transcript :=
  .ofFrames (c.reader.feed bytes).1

/-- What is known after a read that completes no error of the server. -/
def advance (c : Consumption) (bytes : List UInt8) : Consumption :=
  (c.tells bytes).events.foldl note { c with reader := (c.reader.feed bytes).2 }

section
variable {c : Consumption} {bytes : List UInt8}

theorem reader_advance (c : Consumption) (bytes : List UInt8) :
    (c.advance bytes).reader = (c.reader.feed bytes).2 := by
  rw [advance, foldl_note]

theorem settled_advance (c : Consumption) (bytes : List UInt8) :
    (c.advance bytes).reader.Settled := by
  rw [reader_advance]
  exact FrameReader.settled_feed c.reader bytes

theorem tells_nil (settled : c.reader.Settled) : c.tells [] = ⟨[], none⟩ := by
  rw [tells, FrameReader.feed_nil settled]
  rfl

theorem tells_append_of_failure {failure : Failure} (more : List UInt8)
    (fails : (c.tells bytes).failure = some failure) : c.tells (bytes ++ more) = c.tells bytes := by
  rw [tells, FrameReader.feed_append]
  exact Transcript.ofFrames_append_of_failure _ fails

theorem tells_append_of_fine (more : List UInt8) (fine : (c.tells bytes).failure = none) :
    c.tells (bytes ++ more) =
      ⟨(c.tells bytes).events ++ ((c.advance bytes).tells more).events,
        ((c.advance bytes).tells more).failure⟩ := by
  rw [tells, FrameReader.feed_append, Transcript.ofFrames_append_of_fine _ fine,
    tells, tells, reader_advance]

theorem conclude_advance (transport : Transport) (t : Transcript) (readFailure : Option String) :
    (c.advance bytes).conclude transport t readFailure =
      c.conclude transport ⟨(c.tells bytes).events ++ t.events, t.failure⟩ readFailure :=
  conclude_append c _ transport _ t readFailure

end

end Consumption

namespace Session

/-! ## Hearing some events -/

theorem applyEvent_eq (s : Session) (event : Event) :
    s.applyEvent event = event.actions.foldl dispatch s := by
  cases event <;> rfl

theorem conversation_foldl_dispatch (s : Session) (actions : List Action) :
    (actions.foldl dispatch s).conversation = actions.foldl Conversation.reduce s.conversation :=
  (List.foldl_hom conversation fun s action => (conversation_dispatch s action).symm).symm

theorem hears_applyEvent (s : Session) (event : Event) : s.Hears [event] (s.applyEvent event) := by
  refine ⟨?_, ?_, (sameStreams_applyEvent s event).slot, [], ?_, nofun⟩
  · rw [applyEvent_eq, conversation_foldl_dispatch, Conversation.hear, List.flatMap_singleton]
  · cases event <;> rfl
  · cases event <;> exact (List.append_nil _).symm

/-- The session after some events. -/
def tell (s : Session) (events : List Event) : Session :=
  events.foldl applyEvent s

theorem hears_tell (s : Session) (events : List Event) : s.Hears events (s.tell events) := by
  induction events generalizing s with
  | nil => exact .refl s
  | cons event rest ih => exact (hears_applyEvent s event).trans (ih _)

theorem sameStreams_tell (s : Session) (events : List Event) : s.SameStreams (s.tell events) := by
  induction events generalizing s with
  | nil => exact .refl s
  | cons event rest ih => exact (sameStreams_applyEvent s event).trans (ih _)

/-- The owner of a slot is heard like somebody whom nobody cancels. -/
theorem takeFrames_owner {s : Session} {transport : Transport} {generation : Nat}
    (owns : (s.slot transport).isCurrent generation = true)
    (live : (s.slot transport).isCancelled generation = false) (c : Consumption)
    (frames : List Frame) :
    Consumption.takeFrames (observer transport generation) c s frames =
      Consumption.takeFrames (.steady applyEvent) c s frames := by
  induction frames generalizing c s with
  | nil => rfl
  | cons frame rest ih =>
      have waiting : (observer transport generation).isCancelled s = false := live
      have heard (event : Event) :
          (observer transport generation).notify s event = s.applyEvent event := by
        simp only [observer, owns, if_true]
      have same := fun event => (sameStreams_applyEvent s event).slot transport
      simp only [Consumption.takeFrames, waiting, Consumption.Observer.steady, Bool.false_eq_true,
        if_false, heard]
      split
      · exact ih owns live c
      · exact ih owns live c
      · rfl
      · exact ih (by rwa [same]) (by rwa [same]) _

/-! ## A call and its stream -/

/-- The call waits for a read of a stream that owns its slot. -/
structure Attends (s : Session) (id : Nat) (transport : Transport) (generation : Nat)
    (c : Consumption) : Prop where
  here : s.calls[id]? = some (.waiting (.read transport generation c))
  owns : (s.slot transport).isCurrent generation = true
  live : (s.slot transport).isCancelled generation = false

/-- A stream that had heard some events has come to its end, and the call has returned. -/
def EndsWith (s : Session) (id : Nat) (transport : Transport) (generation : Nat)
    (events : List Event) (outcome : Except Failure StreamOutcome) (s' : Session) : Prop :=
  ∃ u c, s.Hears events u ∧ u.Attends id transport generation c ∧
    (u.endStream id transport generation outcome).settle.Aside s'

section
variable {s s' : Session} {id : Nat} {transport : Transport} {generation : Nat} {c : Consumption}

theorem undisturbed_of_live {state : CallState}
    (live : (s.slot transport).isCancelled generation = false)
    (waits : state.generation? transport = some generation) : s.Undisturbed state := by
  intro other g also
  obtain ⟨rfl, rfl⟩ := CallState.generation?_unique waits also
  exact live

theorem Attends.aside (attends : s.Attends id transport generation c) (aside : s.Aside s') :
    s'.Attends id transport generation c where
  here := aside.calls id _ attends.here
    (undisturbed_of_live attends.live (CallState.generation?_read _ _ _))
  owns := by
    rw [aside.slot]
    exact attends.owns
  live := by
    rw [aside.slot]
    exact attends.live

theorem Attends.tell (attends : s.Attends id transport generation c) (events : List Event) :
    (s.tell events).Attends id transport generation c := by
  have same := sameStreams_tell s events
  refine ⟨?_, ?_, ?_⟩
  · rw [same.calls]
    exact attends.here
  · rw [same.slot]
    exact attends.owns
  · rw [same.slot]
    exact attends.live

theorem attends_await (inside : id < s.calls.length)
    (owns : (s.slot transport).isCurrent generation = true)
    (live : (s.slot transport).isCancelled generation = false) (c : Consumption) :
    let s' := (s.await id (.read transport generation c)).settle
    s.Hears [] s' ∧ s'.Attends id transport generation c := by
  have awaits : s.Hears [] (s.await id (.read transport generation c)) :=
    .of_same (slot_await s id _) rfl rfl rfl
  have waiting : (s.await id (.read transport generation c)).Attends id transport generation c :=
    ⟨List.getElem?_set_self inside, by rwa [awaits.slot], by rwa [awaits.slot]⟩
  have settles := aside_settle (s.await id (.read transport generation c))
  exact ⟨awaits.trans settles.toHears, waiting.aside settles⟩

/-- The server accepts the request, and the call goes on to the body. -/
theorem attends_of_accepted (here : s.calls[id]? = some (.waiting (.headers transport generation)))
    (owns : (s.slot transport).isCurrent generation = true)
    (live : (s.slot transport).isCancelled generation = false) {code : Nat}
    (ok : 200 ≤ code ∧ code < 300) :
    let s' := s.step (.answer id (.status code))
    s.Hears [] s' ∧ s'.Attends id transport generation {} := by
  obtain ⟨inside, -⟩ := List.getElem?_eq_some_iff.mp here
  have accepted : (Answer.status code).check = .ok () := if_pos ok
  have reacts : s.react (.answer id (.status code)) = s.await id (.read transport generation {}) := by
    simp only [react, takeAnswer, here, accepted, takeHeaders, awaitRead, live, Bool.false_eq_true,
      if_false]
  rw [step, reacts]
  exact attends_await inside owns live {}

/-- What a read of a stream does that owns its slot. -/
theorem Attends.react_bytes (attends : s.Attends id transport generation c) (bytes : List UInt8) :
    s.react (.read id (.bytes bytes)) =
      match (c.tells bytes).failure with
      | some failure =>
        (s.tell (c.tells bytes).events).endStream id transport generation (.error failure)
      | none =>
        (s.tell (c.tells bytes).events).await id (.read transport generation (c.advance bytes)) := by
  have live := (attends.tell (c.tells bytes).events).live
  have taken := takeFrames_owner attends.owns attends.live
    { c with reader := (c.reader.feed bytes).2 } (c.reader.feed bytes).1
  rw [Consumption.takeFrames_steady] at taken
  simp only [react, takeReadOf, attends.here, takeRead_bytes, takeRest, taken]
  cases failure : (c.tells bytes).failure with
  | some failed =>
      rw [Consumption.tells] at failure
      simp only [failure]
      rfl
  | none =>
      rw [Session.tell, Consumption.tells] at live
      rw [Consumption.tells] at failure
      simp only [failure, awaitRead, live, Bool.false_eq_true, if_false]
      rfl

/-- The read completes no error of the server, so the call goes on to the next one. -/
theorem Attends.goesOn (attends : s.Attends id transport generation c) {bytes : List UInt8}
    (fine : (c.tells bytes).failure = none) :
    let s' := s.step (.read id (.bytes bytes))
    s.Hears (c.tells bytes).events s' ∧ s'.Attends id transport generation (c.advance bytes) := by
  have told := attends.tell (c.tells bytes).events
  obtain ⟨inside, -⟩ := List.getElem?_eq_some_iff.mp told.here
  have reacts := attends.react_bytes bytes
  rw [fine] at reacts
  rw [step, reacts]
  obtain ⟨quiet, waits⟩ := attends_await inside told.owns told.live (c.advance bytes)
  have heard := (hears_tell s (c.tells bytes).events).trans quiet
  rw [List.append_nil] at heard
  exact ⟨heard, waits⟩

/-! ## The end of a stream -/

theorem calls_endStream (s : Session) (id : Nat) (transport : Transport) (generation : Nat)
    (outcome : Except Failure StreamOutcome) :
    ∃ result, (s.endStream id transport generation outcome).calls =
      s.calls.set id (.returned result) := by
  match outcome with
  | .ok .cancelled => exact ⟨_, rfl⟩
  | .ok (.completed done tokens) =>
      unfold endStream
      dsimp only
      split
      · split <;> exact ⟨_, rfl⟩
      · exact ⟨_, rfl⟩
  | .error failure => exact (streamOver_failStream s id transport generation failure).calls

/-- The stream ends with this stimulus; what still comes for its call is passed over. -/
theorem Attends.ends {events : List Event} {u : Session} {stimulus : Stimulus}
    {after : List Stimulus} (attends : u.Attends id transport generation c)
    (hears : s.Hears events u) {outcome : Except Failure StreamOutcome}
    (reacts : s.react stimulus = u.endStream id transport generation outcome)
    (only : ∀ other ∈ after.filter (!·.isBackground), ∃ read, other = .read id read)
    (untroubled : (s.step stimulus).isUntroubled after = true) :
    s.EndsWith id transport generation events outcome ((s.step stimulus).run after) := by
  obtain ⟨inside, -⟩ := List.getElem?_eq_some_iff.mp attends.here
  obtain ⟨result, calls⟩ := calls_endStream u id transport generation outcome
  have ended : s.step stimulus = (u.endStream id transport generation outcome).settle :=
    congrArg settle reacts
  rw [ended] at untroubled ⊢
  have returned : (u.endStream id transport generation outcome).settle.calls[id]? =
      some (.returned result) := by
    refine calls_settle_of_returned ?_
    rw [calls]
    exact List.getElem?_set_self inside
  refine ⟨u, c, hears, attends, aside_run_of_returned returned (fun other member front => ?_)
    untroubled⟩
  exact only other (List.mem_filter.mpr ⟨member, by rw [front]; rfl⟩)

theorem EndsWith.after {first : Session} {before events : List Event}
    {outcome : Except Failure StreamOutcome} (hears : first.Hears before s)
    (ends : s.EndsWith id transport generation events outcome s') :
    first.EndsWith id transport generation (before ++ events) outcome s' := by
  obtain ⟨u, c, heard, attends, aside⟩ := ends
  exact ⟨u, c, hears.trans heard, attends, aside⟩

theorem EndsWith.aside {first : Session} {events : List Event}
    {outcome : Except Failure StreamOutcome} (aside : first.Aside s)
    (ends : s.EndsWith id transport generation events outcome s') :
    first.EndsWith id transport generation events outcome s' := by
  have ends := ends.after aside.toHears
  rwa [List.nil_append] at ends

theorem endStream_keeps (s : Session) (id : Nat) (transport : Transport) (generation : Nat)
    (outcome : Except Failure StreamOutcome) :
    (s.endStream id transport generation outcome).sent = s.sent ∧
      (s.endStream id transport generation outcome).lastMessage = s.lastMessage := by
  match outcome with
  | .ok .cancelled => exact ⟨rfl, rfl⟩
  | .ok (.completed done tokens) =>
      unfold endStream
      dsimp only
      split
      · split <;> exact ⟨rfl, rfl⟩
      · exact ⟨rfl, rfl⟩
  | .error failure =>
      unfold endStream failStream
      dsimp only
      split
      · exact ⟨by cases transport <;> rfl, by cases transport <;> rfl⟩
      · exact ⟨rfl, rfl⟩

/-- What the end of its stream does to the conversation and returns is what a call comes to. Beside
    that, parts of the recording may have been sent. -/
theorem EndsWith.comesTo {events : List Event} {outcome : Except Failure StreamOutcome}
    (ends : s.EndsWith id transport generation events outcome s')
    (change : Conversation → Conversation) {result : CallResult}
    (does : ∀ u c, Attends u id transport generation c →
      (u.endStream id transport generation outcome).conversation = change u.conversation ∧
        (u.endStream id transport generation outcome).calls =
          u.calls.set id (.returned result)) :
    s'.conversation = change (s.conversation.hear events) ∧
      s'.calls[id]? = some (.returned result) ∧ s'.lastMessage = s.lastMessage ∧
      ∃ parts, s'.sent = s.sent ++ parts ∧
        ∀ request ∈ parts, request.endpoint.route = .chunks := by
  obtain ⟨u, c, hears, attends, aside⟩ := ends
  obtain ⟨inside, -⟩ := List.getElem?_eq_some_iff.mp attends.here
  obtain ⟨conversation, calls⟩ := does u c attends
  obtain ⟨sentThen, remembered⟩ := endStream_keeps u id transport generation outcome
  refine ⟨?_, ?_, ?_, ?_⟩
  · rw [← hears.conversation, ← conversation]
    exact aside.conversation
  · refine aside.calls id _ (calls_settle_of_returned ?_) (undisturbed_returned _ _)
    rw [calls]
    exact List.getElem?_set_self inside
  · exact (aside.lastMessage.trans remembered).trans hears.lastMessage
  · obtain ⟨before, sentBefore, partsBefore⟩ := hears.sent
    obtain ⟨after, sentAfter, partsAfter⟩ := aside.sent
    refine ⟨before ++ after, ?_, fun request member => ?_⟩
    · rw [← List.append_assoc, ← sentBefore, ← sentThen]
      exact sentAfter
    · rcases List.mem_append.mp member with early | late
      · exact partsBefore request early
      · exact partsAfter request late

/-- A stream that comes to its end closes its message, and the call succeeds. -/
theorem EndsWith.completed {events : List Event} {done : Option DonePayload} {count : Nat}
    (ends : s.EndsWith id .response generation events (.ok (.completed done count)) s') :
    s'.conversation = (s.conversation.hear events).reduce .finishStreamingMessage ∧
      s'.calls[id]? = some (.returned (some (.ok ()))) ∧ s'.lastMessage = s.lastMessage ∧
      ∃ parts, s'.sent = s.sent ++ parts ∧
        ∀ request ∈ parts, request.endpoint.route = .chunks := by
  refine ends.comesTo (·.reduce .finishStreamingMessage) fun u c attends => ?_
  have ended : u.endStream id .response generation (.ok (.completed done count)) =
      ((u.setSlot .response (u.replies.finish generation)).dispatch
        .finishStreamingMessage).succeed id := by
    have owns : (u.slot .response).isCurrent generation = true := attends.owns
    simp only [endStream, owns, if_true]
    rfl
  rw [ended]
  exact ⟨conversation_dispatch (u.setSlot .response _) .finishStreamingMessage, rfl⟩

/-- A standing connection that comes to its end leaves the conversation as it is, and the call
    succeeds. -/
theorem EndsWith.closed {events : List Event} {done : Option DonePayload} {count : Nat}
    (ends : s.EndsWith id .eventSource generation events (.ok (.completed done count)) s') :
    s'.conversation = s.conversation.hear events ∧
      s'.calls[id]? = some (.returned (some (.ok ()))) ∧ s'.lastMessage = s.lastMessage ∧
      ∃ parts, s'.sent = s.sent ++ parts ∧
        ∀ request ∈ parts, request.endpoint.route = .chunks :=
  ends.comesTo (fun c => c) fun _ _ _ => ⟨rfl, rfl⟩

/-- A stream that fails closes its message with an error, and the call fails. -/
theorem EndsWith.failed {events : List Event} {failure : Failure}
    (ends : s.EndsWith id .response generation events (.error failure) s') :
    s'.conversation = (s.conversation.hear events).reduce (.setError failure.learnerMessage) ∧
      s'.calls[id]? = some (.returned (some (.error failure))) ∧ s'.lastMessage = s.lastMessage ∧
      ∃ parts, s'.sent = s.sent ++ parts ∧
        ∀ request ∈ parts, request.endpoint.route = .chunks := by
  refine ends.comesTo (·.reduce (.setError failure.learnerMessage)) fun u c attends => ?_
  have ended : u.endStream id .response generation (.error failure) =
      (u.setSlot .response (u.replies.finish generation)).failCall id failure := by
    have owns : (u.slot .response).isCurrent generation = true := attends.owns
    simp only [endStream, failStream, owns, if_true]
    rfl
  rw [ended]
  exact ⟨conversation_dispatch _ (.setError failure.learnerMessage), rfl⟩

end

/-! ## A whole response -/

/-- A read as the session meets it. -/
def Read.of : Except String (List UInt8) → Read
  | .ok piece => .bytes piece
  | .error detail => .failure detail

/-- A body is delivered to a call, up to its end. -/
def delivery (id : Nat) (body : Body) : List Stimulus :=
  body.map (fun read => .read id (.of read)) ++ [.read id .ended]

/-- A successful response: its status and its body. -/
def response (id code : Nat) (body : Body) : List Stimulus :=
  .answer id (.status code) :: delivery id body

/-- The text of the read that fails, as the learner gets it. -/
def readFailure? (body : Body) : Option String :=
  body.failure?.map fun detail => Failure.message (.network detail)

theorem read_of_mem_delivery {id : Nat} {body : Body} {stimulus : Stimulus}
    (member : stimulus ∈ delivery id body) : ∃ read, stimulus = .read id read := by
  rcases List.mem_append.mp member with early | last
  · obtain ⟨read, -, rfl⟩ := List.mem_map.mp early
    exact ⟨_, rfl⟩
  · exact ⟨_, List.mem_singleton.mp last⟩

/-- What is left of a body is heard by the call that waits for it, and ends its stream. -/
theorem run_delivery {s : Session} {id : Nat} {transport : Transport} {generation : Nat}
    {c : Consumption} (attends : s.Attends id transport generation c) (settled : c.reader.Settled)
    {body : Body} {stimuli : List Stimulus}
    (delivers : stimuli.filter (!·.isBackground) = delivery id body)
    (untroubled : s.isUntroubled stimuli = true) :
    s.EndsWith id transport generation (c.tells body.bytes).events
      (c.conclude transport (c.tells body.bytes) (readFailure? body)) (s.run stimuli) := by
  -- Before each read the call attends its stream, and `c` knows all that was read so far.
  induction body generalizing s c stimuli with
  | nil =>
      obtain ⟨s', after, aside, run, further, untroubled⟩ := run_first delivers untroubled
      have attends := attends.aside aside
      have reacts : s'.react (.read id .ended) =
          s'.endStream id transport generation (c.finish transport) := by
        simp only [react, takeReadOf, attends.here, takeRead]
      have only : ∀ other ∈ after.filter (!·.isBackground), ∃ read, other = .read id read := by
        rw [further]
        exact fun other member => absurd member List.not_mem_nil
      rw [run, Body.bytes, Consumption.tells_nil settled]
      exact (attends.ends (.refl s') reacts only untroubled).aside aside
  | cons read rest ih =>
      have delivers : stimuli.filter (!·.isBackground) =
          .read id (.of read) :: delivery id rest := delivers
      obtain ⟨s', after, aside, run, further, untroubled⟩ := run_first delivers untroubled
      have attends := attends.aside aside
      have only : ∀ other ∈ after.filter (!·.isBackground), ∃ read, other = .read id read := by
        rw [further]
        exact fun other => read_of_mem_delivery
      rw [run]
      cases read with
      | error detail =>
          have reacts : s'.react (.read id (.of (.error detail))) =
              s'.endStream id transport generation
                (.error (.network (Failure.message (.network detail)))) := by
            simp only [react, takeReadOf, attends.here, Read.of, takeRead]
          rw [Body.bytes, Consumption.tells_nil settled]
          exact (attends.ends (.refl s') reacts only untroubled).aside aside
      | ok bytes =>
          rw [Body.bytes]
          cases failure : (c.tells bytes).failure with
          | some failed =>
              have reacts := attends.react_bytes bytes
              rw [failure] at reacts
              have told := attends.tell (c.tells bytes).events
              have broken : c.conclude transport (c.tells bytes) (readFailure? (.ok bytes :: rest)) =
                  .error failed := by
                simp only [Consumption.conclude, failure]
              rw [Consumption.tells_append_of_failure _ failure, broken]
              exact (told.ends (hears_tell s' _) reacts only untroubled).aside aside
          | none =>
              obtain ⟨heard, attends⟩ := attends.goesOn failure
              have ends := ih attends (Consumption.settled_advance c bytes) further untroubled
              rw [Consumption.conclude_advance] at ends
              rw [Consumption.tells_append_of_fine _ failure]
              exact (ends.after heard).aside aside

/-- A call hears what the transcript of its response tells, and its stream comes to what the
    transcript comes to. -/
theorem run_response {s : Session} {id : Nat} {transport : Transport} {generation : Nat}
    (here : s.calls[id]? = some (.waiting (.headers transport generation)))
    (owns : (s.slot transport).isCurrent generation = true)
    (live : (s.slot transport).isCancelled generation = false) {code : Nat}
    (ok : 200 ≤ code ∧ code < 300) {body : Body} {stimuli : List Stimulus}
    (exchange : stimuli.filter (!·.isBackground) = response id code body)
    (untroubled : s.isUntroubled stimuli = true) :
    s.EndsWith id transport generation body.transcript.events
      (body.transcript.outcome transport (readFailure? body)) (s.run stimuli) := by
  obtain ⟨s', after, aside, run, further, untroubled⟩ := run_first exchange untroubled
  have waits := aside.calls id _ here
    (undisturbed_of_live live (CallState.generation?_headers _ _))
  obtain ⟨accepted, attends⟩ := attends_of_accepted waits (by rwa [aside.slot])
    (by rwa [aside.slot]) ok
  have ends := run_delivery attends FrameReader.settled_new further untroubled
  rw [Consumption.conclude_new] at ends
  rw [run]
  have ends := ends.after accepted
  rw [List.nil_append] at ends
  exact ends.aside aside

end Session

end Viva
