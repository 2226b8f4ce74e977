import Viva.Proofs.Session.Supersession

/-! # Beginning anew

A session begins anew with an assignment in three ways: by its name, by asking for the devices
again, and by doing a start again that has failed. Streams of before may be under way then. Those
whose slot the call takes are inert from then on: the first way takes both slots, and the last one
that of the replies, once the recorder has started. Nothing else takes a slot, and a stream that
keeps its slot is heard: what it says of its attempt becomes the attempt of the new conversation.
-/

namespace Viva.Session

/-- The call begins anew with an assignment. -/
def beginsAnew (s : Session) : Call → Bool
  | .assign _ => true
  | .grantPermissions =>
    (s.conversation.phase == .error || s.conversation.phase == .idle) &&
      s.conversation.attemptId.isNone && s.conversation.assignmentId.isSome
  | .retry =>
    s.conversation.phase == .error && s.lastMessage.isNone &&
      s.conversation.attemptId.isNone && s.conversation.assignmentId.isSome
  | _ => false

/-- A call that begins anew takes the slot of a kind from the stream that owns it. -/
def takesSlot (s : Session) (transport : Transport) : Call → Bool
  | .assign _ => true
  | .retry =>
    transport == .response && s.conversation.startedAt.isSome && s.startRecorder.2.isOk
  | _ => false

/-! ## What becomes of the conversation -/

theorem conversation_dispatch (s : Session) (action : Action) :
    (s.dispatch action).conversation = s.conversation.reduce action := by
  simp only [dispatch, conversation, Store.dispatch]
  split
  · rfl
  · rename_i refused
    have same := Bool.eq_false_iff.mpr refused
    simp only [Store.accepts, bne_eq_false_iff_eq] at same
    exact same.symm

theorem conversation_send {s s' : Session} {waiter : Waiter} {endpoint : Endpoint}
    (sent : s.send waiter endpoint = .ok s') : s'.conversation = s.conversation := by
  obtain ⟨token, -, rfl⟩ := eq_of_send sent
  rfl

theorem conversation_setSlot (s : Session) (transport : Transport) (slot : Slot) :
    (s.setSlot transport slot).conversation = s.conversation := by
  cases transport <;> rfl

theorem conversation_prepareRecorder (s : Session) :
    s.prepareRecorder.1.conversation = s.conversation := by
  unfold prepareRecorder
  split <;> rfl

theorem conversation_startRecorder (s : Session) :
    s.startRecorder.1.conversation = s.conversation := by
  unfold startRecorder
  split <;> rfl

theorem attemptId_setError (c : Conversation) (message : String) :
    (c.reduce (.setError message)).attemptId = c.attemptId := by
  simp only [Conversation.reduce]
  split <;> rfl

theorem attemptId_grantPermissions (c : Conversation) :
    (c.reduce .grantPermissions).attemptId = c.attemptId := by
  simp only [Conversation.reduce]
  split <;> rfl

theorem startRecorder_of_recorder {s s' : Session} (same : s'.recorder = s.recorder) :
    s'.startRecorder.2 = s.startRecorder.2 := by
  cases recorder : s.recorder <;> simp only [startRecorder, same, recorder]

theorem attemptId_finishMessage (c : Conversation) :
    c.finishMessage.attemptId = c.attemptId := by
  unfold Conversation.finishMessage
  dsimp only
  split <;> rfl

/-- An attempt that is known stays; otherwise the event says which it is. -/
theorem attemptId_applyEvent_done (s : Session) (payload : DonePayload) :
    (s.applyEvent (.done payload)).conversation.attemptId =
      s.conversation.attemptId.or payload.attemptId := by
  rw [applyEvent, conversation_dispatch, conversation_dispatch]
  exact attemptId_finishMessage _

/-- The recorder starts or fails whatever is said. -/
theorem startRecorder_dispatch (s : Session) (action : Action) :
    (s.dispatch action).startRecorder.2 = s.startRecorder.2 :=
  startRecorder_of_recorder rfl

theorem attemptId_report (s : Session) (failure : Failure) :
    (s.report failure).conversation.attemptId = s.conversation.attemptId := by
  rw [report, conversation_dispatch]
  exact attemptId_setError s.conversation _

theorem attemptId_failStream (s : Session) (id : Nat) (transport : Transport) (generation : Nat)
    (failure : Failure) :
    (s.failStream id transport generation failure).conversation.attemptId =
      s.conversation.attemptId := by
  unfold failStream
  dsimp only
  split
  · exact (attemptId_report _ failure).trans (by rw [conversation_setSlot])
  · rfl

theorem attemptId_openStream (s : Session) (id : Nat) (transport : Transport)
    (endpoint : Endpoint) :
    (s.openStream id transport endpoint).conversation.attemptId = s.conversation.attemptId := by
  unfold openStream
  dsimp only
  split
  · rename_i sent
    have same := conversation_send sent
    rw [conversation_setSlot] at same
    exact congrArg Conversation.attemptId same
  · rw [attemptId_failStream, conversation_setSlot]

/-! ## What the calls come down to -/

/-- What a call comes down to that begins anew, but not by name. -/
inductive Restart (s : Session) (id : Nat) (call : Call) : Prop where
  | returns (s' : Session) (same : s.SameStreams s')
      (unidentified : s'.conversation.attemptId = none) (result : CallResult)
      (run : s.runCall id call = s'.giveBack id result)
      (keeps : ∀ transport, s.takesSlot transport call = false)
  | opens (s' : Session) (same : s.SameStreams s')
      (unidentified : s'.conversation.attemptId = none) (endpoint : Endpoint)
      (run : s.runCall id call = s'.openStream id .response endpoint)
      (takes : ∀ transport, s.takesSlot transport call = (transport == .response))

theorem acquireDevices_returns (s : Session) (id : Nat) :
    ∃ (s' : Session) (result : CallResult), s.SameStreams s' ∧
      s'.conversation.attemptId = s.conversation.attemptId ∧
        s.acquireDevices id = s'.giveBack id result := by
  have same := sameStreams_prepareRecorder s
  have said := conversation_prepareRecorder s
  unfold acquireDevices
  split
  · rename_i prepared failure isPrepared
    rw [isPrepared] at same said
    refine ⟨_, _, same.trans (sameStreams_report prepared failure), ?_, rfl⟩
    rw [attemptId_report, said]
  · rename_i prepared isPrepared
    rw [isPrepared] at same said
    refine ⟨_, _, same.trans (sameStreams_dispatch prepared .grantPermissions), ?_, rfl⟩
    rw [conversation_dispatch, said, attemptId_grantPermissions]

theorem grantPermissions_anew {s : Session} (anew : s.beginsAnew .grantPermissions = true)
    (id : Nat) :
    ∃ assignmentId, s.conversation.assignmentId = some assignmentId ∧
      s.grantPermissions id = (s.dispatch (.assign assignmentId)).acquireDevices id := by
  simp only [beginsAnew, Bool.and_eq_true] at anew
  obtain ⟨⟨refused, unidentified⟩, bound⟩ := anew
  obtain ⟨assignmentId, bound⟩ := Option.isSome_iff_exists.mp bound
  have notYet : (s.conversation.phase == .initializing) = false := by
    cases phase : s.conversation.phase <;> simp [phase] at refused <;> rfl
  refine ⟨assignmentId, bound, ?_⟩
  simp only [grantPermissions, notYet, refused, unidentified, bound, Bool.and_self, if_true,
    Bool.false_eq_true, if_false]

theorem retry_anew {s : Session} (anew : s.beginsAnew .retry = true) (id : Nat) :
    ∃ assignmentId, s.conversation.assignmentId = some assignmentId ∧
      s.retry id =
        if s.conversation.startedAt.isNone then
          (s.dispatch (.assign assignmentId)).acquireDevices id
        else ((s.dispatch (.assign assignmentId)).dispatch .grantPermissions).start id := by
  have known := anew
  simp only [beginsAnew, Bool.and_eq_true] at known
  obtain ⟨⟨⟨failed, silent⟩, unidentified⟩, bound⟩ := known
  have again : s.beginsAnew .grantPermissions = true := by
    simp only [beginsAnew, failed, unidentified, bound, Bool.true_or, Bool.and_self]
  obtain ⟨assignmentId, bound, devices⟩ := grantPermissions_anew again id
  rw [Option.isNone_iff_eq_none] at silent unidentified
  refine ⟨assignmentId, bound, ?_⟩
  simp only [retry, bne, failed, Bool.not_true, Bool.false_eq_true, if_false, silent, retryStart,
    unidentified, Option.isSome_none, bound, devices]

/-- A start from the beginning returns if the recorder fails, and begins a stream otherwise. -/
theorem start_ready {s : Session} {assignmentId : String}
    (ready : s.conversation.phase = .ready)
    (bound : s.conversation.assignmentId = some assignmentId)
    (unidentified : s.conversation.attemptId = none) (id : Nat) :
    ∃ s' : Session, s.SameStreams s' ∧ s'.conversation.attemptId = none ∧
      (s.startRecorder.2.isOk = false ∧ (∃ result, s.start id = s'.giveBack id result) ∨
        s.startRecorder.2.isOk = true ∧
          s.start id = s'.openStream id .response (.start assignmentId)) := by
  have begun : ((s.dispatch (.startAssessment none none s.wallClock)).conversation).attemptId =
      none := by
    rw [conversation_dispatch]
    simp only [Conversation.reduce]
    split
    · exact (Option.or_none).trans unidentified
    · exact unidentified
  have same := (sameStreams_dispatch s (.startAssessment none none s.wallClock)).trans
    (sameStreams_startRecorder _)
  have said := conversation_startRecorder (s.dispatch (.startAssessment none none s.wallClock))
  have recorded := startRecorder_dispatch s (.startAssessment none none s.wallClock)
  have canStart : canStart .ready = true := rfl
  simp only [start, ready, canStart, bound, Bool.not_true, Bool.false_eq_true, if_false]
  split
  · rename_i started failure isStarted
    rw [isStarted] at same said recorded
    refine ⟨_, same.trans (sameStreams_report started failure), ?_, .inl ⟨?_, _, rfl⟩⟩
    · rw [attemptId_report, said, begun]
    · rw [← recorded]
      rfl
  · rename_i started isStarted
    rw [isStarted] at same said recorded
    refine ⟨_, same, ?_, .inr ⟨?_, rfl⟩⟩
    · rw [said, begun]
    · rw [← recorded]
      rfl

theorem restart_grantPermissions {s : Session} (anew : s.beginsAnew .grantPermissions = true)
    (id : Nat) : Restart s id .grantPermissions := by
  obtain ⟨assignmentId, -, run⟩ := grantPermissions_anew anew id
  obtain ⟨s', result, same, said, returns⟩ :=
    acquireDevices_returns (s.dispatch (.assign assignmentId)) id
  refine .returns s' ((sameStreams_dispatch s _).trans same) ?_ result (run.trans returns)
    fun _ => rfl
  rw [said, conversation_dispatch]
  rfl

theorem restart_retry {s : Session} (anew : s.beginsAnew .retry = true) (id : Nat) :
    Restart s id .retry := by
  obtain ⟨assignmentId, -, run⟩ := retry_anew anew id
  split at run
  · rename_i never
    obtain ⟨s', result, same, said, returns⟩ :=
      acquireDevices_returns (s.dispatch (.assign assignmentId)) id
    refine .returns s' ((sameStreams_dispatch s _).trans same) ?_ result (run.trans returns)
      fun transport => ?_
    · rw [said, conversation_dispatch]
      rfl
    · rw [Option.isNone_iff_eq_none] at never
      simp only [takesSlot, never, Option.isSome_none, Bool.and_false, Bool.false_and]
  · rename_i before
    have begun : s.conversation.startedAt.isSome = true := by
      cases startedAt : s.conversation.startedAt <;> simp [startedAt] at before ⊢
    have fresh : (((s.dispatch (.assign assignmentId)).dispatch .grantPermissions).conversation) =
        { Conversation.about assignmentId with phase := .ready } := by
      rw [conversation_dispatch, conversation_dispatch]
      rfl
    obtain ⟨s', same, unidentified, done⟩ := start_ready (congrArg Conversation.phase fresh)
      (congrArg Conversation.assignmentId fresh) (congrArg Conversation.attemptId fresh) id
    have cleared := ((sameStreams_dispatch s (.assign assignmentId)).trans
      (sameStreams_dispatch _ .grantPermissions)).trans same
    rw [startRecorder_dispatch, startRecorder_dispatch] at done
    rcases done with ⟨fails, result, returns⟩ | ⟨starts, opens⟩
    · exact .returns s' cleared unidentified result (run.trans returns)
        fun transport => by simp only [takesSlot, fails, Bool.and_false]
    · exact .opens s' cleared unidentified _ (run.trans opens)
        fun transport => by simp only [takesSlot, begun, starts, Bool.and_true]

/-- A call that begins anew does it by name, or is a restart. -/
theorem restart {s : Session} {call : Call} (anew : s.beginsAnew call = true) (id : Nat) :
    (∃ assignmentId, call = .assign assignmentId) ∨ Restart s id call := by
  cases call with
  | assign assignmentId => exact .inl ⟨assignmentId, rfl⟩
  | grantPermissions => exact .inr (restart_grantPermissions anew id)
  | retry => exact .inr (restart_retry anew id)
  | _ => cases anew

/-! ## What becomes of the streams -/

theorem beginsAnew_withCall (s : Session) (call : Call) :
    s.withCall.beginsAnew call = s.beginsAnew call := by
  cases call <;> rfl

theorem takesSlot_withCall (s : Session) (transport : Transport) (call : Call) :
    s.withCall.takesSlot transport call = s.takesSlot transport call := by
  have recorder : s.withCall.startRecorder.2 = s.startRecorder.2 := startRecorder_of_recorder rfl
  cases call with
  | retry =>
      simp only [takesSlot, recorder]
      rfl
  | _ => rfl

theorem unidentified_of_anew {s : Session} {call : Call} (anew : s.beginsAnew call = true) :
    (s.step (.call call)).conversation.attemptId = none := by
  change (s.withCall.runCall s.nextCall call).conversation.attemptId = none
  rw [← beginsAnew_withCall] at anew
  rcases restart anew s.nextCall with ⟨assignmentId, rfl⟩ | restart
  · change (s.withCall.assign assignmentId).conversation.attemptId = none
    rw [assign, conversation_dispatch]
    rfl
  · cases restart with
    | returns s' same unidentified result run keeps =>
        rw [run]
        exact unidentified
    | opens s' same unidentified endpoint run takes =>
        rw [run, attemptId_openStream, unidentified]

theorem slot_step_call (s : Session) (call : Call) (transport : Transport) :
    (s.step (.call call)).slot transport =
      (s.withCall.runCall s.nextCall call).slot transport :=
  (untouched_settle _).slot transport

theorem slot_of_keeps {s : Session} {call : Call} (anew : s.beginsAnew call = true)
    {transport : Transport} (keeps : s.takesSlot transport call = false) :
    (s.step (.call call)).slot transport = s.slot transport := by
  rw [slot_step_call]
  refine Eq.trans ?_ (slot_withCall s transport)
  rw [← beginsAnew_withCall] at anew
  rcases restart anew s.nextCall with ⟨assignmentId, rfl⟩ | restart
  · cases keeps
  · cases restart with
    | returns s' same unidentified result run none =>
        rw [run, ← same.slot]
        exact (untouched_giveBack s' _ result).slot transport
    | opens s' same unidentified endpoint run takes =>
        have other : transport ≠ .response := by
          rintro rfl
          rw [← takesSlot_withCall, takes] at keeps
          cases keeps
        rw [run, (opened_openStream s' _ .response endpoint).others transport other, same.slot]

theorem lost_of_takes {s : Session} {call : Call} (anew : s.beginsAnew call = true)
    {transport : Transport} (takes : s.takesSlot transport call = true) {generation : Nat}
    (begun : generation < (s.slot transport).next) :
    ((s.step (.call call)).slot transport).isCurrent generation = false := by
  rw [slot_step_call]
  rw [← beginsAnew_withCall] at anew
  rw [← takesSlot_withCall] at takes
  rcases restart anew s.nextCall with ⟨assignmentId, rfl⟩ | restart
  · cases transport <;> rfl
  · cases restart with
    | returns s' same unidentified result run none =>
        rw [none transport] at takes
        cases takes
    | opens s' same unidentified endpoint run taken =>
        rw [taken transport, beq_iff_eq] at takes
        subst takes
        rw [run]
        refine (opened_openStream s' _ .response endpoint).lost ?_
        rwa [same.slot, slot_withCall]

/-- A call whose stream is not cancelled waits on. -/
theorem waits_settle {s : Session} {id : Nat} {state : CallState} {transport : Transport}
    {generation : Nat} (live : (s.slot transport).isCancelled generation = false)
    (here : s.calls[id]? = some state)
    (waits : state.generation? transport = some generation) :
    s.settle.calls[id]? = some state := by
  have slots := (sameStreams_onRecorder s Recorder.settle).slot
  rcases getElem?_releaseCancelled (s.onRecorder Recorder.settle) here with
    same | ⟨-, other, g, also, gone⟩
  · exact same
  · obtain ⟨rfl, rfl⟩ := CallState.generation?_unique waits also
    rw [slots, live] at gone
    cases gone

/-- A call that has returned stays so. -/
theorem calls_settle_of_returned {s : Session} {id : Nat} {result : CallResult}
    (here : s.calls[id]? = some (.returned result)) :
    s.settle.calls[id]? = some (.returned result) := by
  rcases getElem?_releaseCancelled (s.onRecorder Recorder.settle) here with
    same | ⟨-, transport, generation, waits, -⟩
  · exact same
  · cases waits

/-- A new call does not touch those that wait for a stream that is not cancelled. -/
theorem waits_call {s : Session} {id : Nat} {state : CallState} {transport : Transport}
    {generation : Nat} (here : s.calls[id]? = some state)
    (waits : state.generation? transport = some generation) {call : Call}
    (live : ((s.step (.call call)).slot transport).isCancelled generation = false) :
    (s.step (.call call)).calls[id]? = some state := by
  rw [slot_step_call] at live
  exact waits_settle live ((turn_runCall s.withCall s.nextCall call).kept here) waits

/-! ## A stream that is heard -/

/-- What a server may send late: the end of a message, and the attempt it belongs to. -/
def lateFrame : Frame :=
  ⟨"done", "\x7b\"attempt_id\":\"T-old\"\x7d"⟩

def lateText : String :=
  "event: done\ndata: \x7b\"attempt_id\":\"T-old\"\x7d\n\n"

/-- The record, after a comment line. -/
def lateBytes : List UInt8 :=
  0x3A :: 0x0A :: Text.Utf8.encode lateText

theorem decode_lateFrame : Event.decode lateFrame = .ok (.done ⟨some "T-old", none, none⟩) := by
  cbv

/-- The record is read in whatever record its lines come to stand. -/
theorem parseFrom_late (draft : Frame.Draft) (start : List Char) :
    (Frame.parseFrom draft start lateText.toList).1 = [lateFrame] := by
  let name := "event: done".toList
  let data := "data: \x7b\"attempt_id\":\"T-old\"\x7d".toList
  have first : Frame.cutLine lateText.toList = some (name, data ++ ['\n', '\n']) := by decide
  have second : Frame.cutLine (data ++ ['\n', '\n']) = some (data, ['\n']) := by decide
  have last : Frame.cutLine ['\n'] = some ([], []) := rfl
  have isName : Frame.fieldValue "event".toList (Frame.withoutReturn name) =
      some "done".toList := by decide
  have noName : Frame.fieldValue "event".toList (Frame.withoutReturn data) = none := by decide
  have isData : Frame.fieldValue "data".toList (Frame.withoutReturn data) =
      some lateFrame.data.toList := by decide
  have nothing : Frame.parse [] = ([], []) := Frame.parseFrom_unfinished {} [] rfl
  rw [Frame.parseFrom_field draft start first (by decide),
    Frame.parseFrom_field _ start second (by decide), Frame.parseFrom_blank _ start last rfl,
    nothing]
  -- Both lines win over what the draft holds, so the draft does not show in the record.
  simp only [Frame.Draft.read, isName, noName, isData, Frame.Draft.close, List.append_nil]
  rfl

/-- The record is read wherever a reader stands. -/
theorem feed_late {reader : FrameReader} (settled : reader.Settled) :
    (reader.feed lateBytes).1 = [lateFrame] := by
  obtain ⟨draft, start, fed⟩ := FrameReader.feed_colon settled (Text.Utf8.encode lateText)
  have decoded : (Text.Utf8.decode [] (Text.Utf8.encode lateText)).1 = lateText.toList := by
    decide +kernel
  rw [decoded] at fed
  exact fed.trans (parseFrom_late draft start)

/-- A stream that owns its slot gives its attempt to a conversation that knows of none. -/
theorem identified_by_late {s : Session} {id : Nat} {transport : Transport} {generation : Nat}
    {c : Consumption} (here : s.calls[id]? = some (.waiting (.read transport generation c)))
    (settled : c.reader.Settled) (owns : (s.slot transport).isCurrent generation = true)
    (live : (s.slot transport).isCancelled generation = false)
    (unidentified : s.conversation.attemptId = none) :
    (s.step (.read id (.bytes lateBytes))).conversation.attemptId = some "T-old" := by
  have fed := feed_late settled
  -- The read holds one record, and the stream goes on after it.
  have reacts : s.react (.read id (.bytes lateBytes)) =
      (s.applyEvent (.done ⟨some "T-old", none, none⟩)).awaitRead id transport generation
        ({ c with reader := (c.reader.feed lateBytes).2 }.note
          (.done ⟨some "T-old", none, none⟩)) := by
    have waiting : (observer transport generation).isCancelled s = false := live
    simp only [react, takeReadOf, here, takeRead_bytes, takeRest, fed, Consumption.takeFrames,
      waiting, Bool.false_eq_true, if_false, decode_lateFrame]
    simp only [observer, owns, if_true]
  change (s.react (.read id (.bytes lateBytes))).settle.store.conversation.attemptId = _
  rw [(untouched_settle _).store, reacts, (untouched_awaitRead _ id transport generation _).store]
  exact (attemptId_applyEvent_done s _).trans (by rw [unidentified]; rfl)

/-- A call whose stream owns its slot comes to read it, and nothing else has changed by then. -/
theorem reads_of_owner {s : Session} {id : Nat} {state : CallState} {transport : Transport}
    {generation : Nat} (here : s.calls[id]? = some state)
    (waits : state.generation? transport = some generation) (settled : state.Settled)
    (live : (s.slot transport).isCancelled generation = false) :
    ∃ (stimuli : List Stimulus) (c : Consumption), c.reader.Settled ∧
      (s.run stimuli).calls[id]? = some (.waiting (.read transport generation c)) ∧
        s.Untouched (s.run stimuli) := by
  cases state with
  | returned result => cases waits
  | waiting awaiting =>
      cases awaiting with
      | upload attemptId recording => cases waits
      | completion => cases waits
      | read other g c =>
          obtain ⟨rfl, rfl⟩ :=
            CallState.generation?_unique waits (CallState.generation?_read other g c)
          exact ⟨[], c, settled, here, .refl s⟩
      | headers other g =>
          obtain ⟨rfl, rfl⟩ :=
            CallState.generation?_unique waits (CallState.generation?_headers other g)
          have reacts : s.react (.answer id (.status 200)) =
              s.await id (.read other g {}) := by
            have ok : (Answer.status 200).check = .ok () := rfl
            simp only [react, takeAnswer, here, ok, takeHeaders, awaitRead, live,
              Bool.false_eq_true, if_false]
          have awaits : s.Untouched (s.await id (.read other g {})) :=
            ⟨rfl, rfl, slot_await s id _⟩
          obtain ⟨inside, -⟩ := List.getElem?_eq_some_iff.mp here
          refine ⟨[.answer id (.status 200)], {}, FrameReader.settled_new, ?_, ?_⟩
          · change (s.react (.answer id (.status 200))).settle.calls[id]? = _
            rw [reacts]
            refine waits_settle (by rwa [awaits.slot]) (List.getElem?_set_self inside)
              (CallState.generation?_read other g {})
          · change s.Untouched (s.react (.answer id (.status 200))).settle
            rw [reacts]
            exact awaits.trans (untouched_settle _)

/-- What becomes of a stream when its session begins anew. If the call takes its slot, or the slot
    was lost before, the stream is inert whatever happens later. If it keeps its slot, it can still
    give its attempt to the new conversation, which knows of none. -/
theorem inert_or_heard_of_anew {s : Session} (reachable : s.Reachable) {call : Call}
    (anew : s.beginsAnew call = true) {id : Nat} {state : CallState} {transport : Transport}
    {generation : Nat} (here : s.calls[id]? = some state)
    (waits : state.generation? transport = some generation) :
    (s.takesSlot transport call = true ∨ (s.slot transport).isCurrent generation = false →
      ∀ s', (s.step (.call call)).Later s' → s'.Inert id transport generation) ∧
    (s.takesSlot transport call = false ∧ (s.slot transport).isCurrent generation = true →
      ∃ stimuli, ((s.step (.call call)).run stimuli).conversation.attemptId = none ∧
        (((s.step (.call call)).run stimuli).step (.read id (.bytes lateBytes))).conversation.attemptId
          = some "T-old") := by
  have tended := reachable.tended
  have begun := tended.begun id state transport generation here waits
  refine ⟨fun lost s' later => ?_, fun ⟨keeps, owns⟩ => ?_⟩
  · have next : s.Later (s.step (.call call)) := .single (.stimulus (.call call))
    have slots := next.follows.slot transport
    have lostNow : ((s.step (.call call)).slot transport).isCurrent generation = false := by
      rcases lost with takes | already
      · exact lost_of_takes anew takes begun
      · exact slots.lost begun already
    -- The loss is for good, and the call still waits for this stream or has returned.
    have lostThen := (later.follows.slot transport).lost
      (Nat.lt_of_lt_of_le begun slots.next_le) lostNow
    have all : s.Later s' := next.trans later
    obtain ⟨state', there, follows⟩ := all.follows.calls id state here
    exact inert_of_lost lostThen there (follows.stream transport generation waits)
  · have slots := slot_of_keeps anew keeps
    -- An owner is not cancelled, so its call waits on while the new one runs.
    have live := (tended.slots transport).live generation (Slot.isCurrent_iff.mp owns)
    rw [← slots] at live owns
    obtain ⟨stimuli, c, settled, reading, untouched⟩ := reads_of_owner
      (waits_call here waits live) waits (tended.settled id state here) live
    have unidentified : ((s.step (.call call)).run stimuli).conversation.attemptId = none := by
      rw [conversation, untouched.store]
      exact unidentified_of_anew anew
    rw [← untouched.slot] at live owns
    exact ⟨stimuli, unidentified, identified_by_late reading settled owns live unidentified⟩

/-- A start is under way when something fails. Asking for the devices again leaves it its slot;
    binding an assignment by name makes it inert. -/
theorem anew_during_start :
    let s := ({ baseUrl := "", tokenFile := some "t" } : Session).run
      [.call (.assign "A"), .call .start, .call .finish]
    s.calls[1]? = some (.waiting (.headers .response 0)) ∧
      s.beginsAnew .grantPermissions = true ∧
      (∃ stimuli, ((s.step (.call .grantPermissions)).run stimuli).conversation.attemptId = none ∧
        (((s.step (.call .grantPermissions)).run stimuli).step
          (.read 1 (.bytes lateBytes))).conversation.attemptId = some "T-old") ∧
      (s.step (.call (.assign "B"))).Inert 1 .response 0 := by
  intro s
  have here : s.calls[1]? = some (.waiting (.headers .response 0)) := rfl
  have reachable : s.Reachable :=
    ⟨_, ⟨rfl, fun transport => by cases transport <;> rfl⟩, later_run _ _⟩
  have waits := CallState.generation?_headers .response 0
  have devices : s.beginsAnew .grantPermissions = true := rfl
  have byName : s.beginsAnew (.assign "B") = true := rfl
  have heard := (inert_or_heard_of_anew reachable devices here waits).2 ⟨rfl, rfl⟩
  have inert := (inert_or_heard_of_anew reachable byName here waits).1 (.inl rfl)
  exact ⟨here, devices, heard, inert _ .refl⟩

/-- The start answers after the devices were asked for again, and its attempt becomes that of the
    new conversation. -/
theorem old_attempt_after_anew :
    let s := ({ baseUrl := "", tokenFile := some "t" } : Session).run
      [.call (.assign "A"), .call .grantPermissions, .call .start, .call .finish]
    s.beginsAnew .grantPermissions = true ∧
      s.calls[2]? = some (.waiting (.headers .response 0)) ∧
      (s.run [.call .grantPermissions, .answer 2 (.status 200)]).conversation.attemptId = none ∧
      (s.run [.call .grantPermissions, .answer 2 (.status 200),
        .read 2 (.bytes lateBytes)]).conversation.attemptId = some "T-old" := by
  intro s
  let s' := s.run [.call .grantPermissions, .answer 2 (.status 200)]
  have reading : s'.calls[2]? = some (.waiting (.read .response 0 {})) := rfl
  have owns : (s'.slot .response).isCurrent 0 = true := rfl
  have live : (s'.slot .response).isCancelled 0 = false := rfl
  have unidentified : s'.conversation.attemptId = none := rfl
  exact ⟨rfl, rfl, unidentified,
    identified_by_late reading FrameReader.settled_new owns live unidentified⟩

end Viva.Session
