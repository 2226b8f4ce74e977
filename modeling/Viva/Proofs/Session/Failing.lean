import Viva.Proofs.Session.Completion

/-! # What a call that fails leaves behind

A call that fails was refused before it changed anything, or it tells the learner of its failure,
however much it changed before (`Accounts`). That holds while one call goes on alone, so that nobody
takes its stream from it (`Sole`). One call is an exception: a message that never reached an attempt
is not repeated, but the error that says so is put aside first (`misses`).
-/

namespace Viva

namespace Conversation

theorem notOver_foldl {c : Conversation} {actions : List Action}
    (goOn : ∀ action ∈ actions, action.goesOn = true) (notOver : c.phase ≠ .completed) :
    (actions.foldl reduce c).phase ≠ .completed := by
  induction actions generalizing c with
  | nil => exact notOver
  | cons action rest ih =>
      obtain ⟨now, later⟩ := List.forall_mem_cons.mp goOn
      exact ih later fun completed => notOver (completed_of_reduce now completed)

end Conversation

theorem Event.goesOn_actions (events : List Event) :
    ∀ action ∈ events.flatMap Event.actions, action.goesOn = true := by
  intro action member
  obtain ⟨event, -, inside⟩ := List.mem_flatMap.mp member
  have all : event.actions.all Action.goesOn = true := by cases event <;> rfl
  exact List.all_eq_true.mp all action inside

/-- What the call has failed with. -/
def CallState.failure? : CallState → Option Failure
  | returned (some (.error failure)) => some failure
  | _ => none

namespace Session

open Conversation

/-- The call with this number has not returned. -/
def isPending (s : Session) (id : Nat) : Bool :=
  s.calls[id]?.any (!·.isReturned)

/-- The call is to repeat a message, but no attempt is known that it belongs to. -/
def misses (s : Session) : Call → Bool
  | .retry =>
    s.conversation.phase == .error && s.conversation.error.isSome && s.lastMessage.isSome &&
      s.conversation.attemptId.isNone
  | _ => false

/-- If the call has failed, the learner was told; and while it has not returned, the attempt is not
    completed. -/
structure Reports (s : Session) (id : Nat) : Prop where
  told : ∀ failure, s.calls[id]? = some (.returned (some (.error failure))) →
    s.conversation.Tells failure
  notOver : s.isPending id = true → s.conversation.phase ≠ .completed

/-- The call has left the conversation as it was, or it reports. -/
def Accounts (s : Session) (c : Conversation) (id : Nat) : Prop :=
  s.conversation = c ∨ s.Reports id

section
variable {s s' : Session} {id : Nat}

theorem not_isPending_of_returned {result : CallResult}
    (here : s.calls[id]? = some (.returned result)) : s.isPending id = false := by
  rw [isPending, here]
  rfl

theorem exists_of_isPending (pending : s.isPending id = true) :
    ∃ awaiting, s.calls[id]? = some (.waiting awaiting) := by
  cases here : s.calls[id]? with
  | none => simp [isPending, here] at pending
  | some state =>
      cases state with
      | waiting awaiting => exact ⟨awaiting, rfl⟩
      | returned result =>
          rw [not_isPending_of_returned here] at pending
          cases pending

theorem failed_of_failure? {failure : Failure}
    (fails : s.calls[id]?.bind CallState.failure? = some failure) :
    s.calls[id]? = some (.returned (some (.error failure))) := by
  obtain ⟨state, here, said⟩ := Option.bind_eq_some_iff.mp fails
  unfold CallState.failure? at said
  split at said
  · cases said
    exact here
  · cases said

/-! ## What the parts of a call report -/

theorem eq_of_getElem?_set {calls : List CallState} {new state : CallState}
    (here : (calls.set id new)[id]? = some state) : state = new := by
  obtain ⟨inside, value⟩ := List.getElem?_eq_some_iff.mp here
  rw [← value, List.getElem_set_self]

/-- A call that waits has not failed. -/
theorem reports_of_pending (pending : s.isPending id = true)
    (notOver : s.conversation.phase ≠ .completed) : s.Reports id where
  told := by
    intro failure failed
    rw [not_isPending_of_returned failed] at pending
    cases pending
  notOver := fun _ => notOver

theorem reports_await (notOver : s.conversation.phase ≠ .completed) (id : Nat)
    (awaiting : Awaiting) : (s.await id awaiting).Reports id where
  told := fun _ failed => by cases eq_of_getElem?_set failed
  notOver := fun _ => notOver

/-- A call that returns anything else has not failed. -/
theorem reports_giveBack (s : Session) (id : Nat) {result : CallResult}
    (fine : ∀ failure, result ≠ some (.error failure)) : (s.giveBack id result).Reports id where
  told := by
    intro failure failed
    cases eq_of_getElem?_set failed
    exact absurd rfl (fine failure)
  notOver := by
    intro pending
    obtain ⟨awaiting, waits⟩ := exists_of_isPending pending
    cases eq_of_getElem?_set waits

theorem reports_succeed (s : Session) (id : Nat) : (s.succeed id).Reports id :=
  reports_giveBack s id nofun

theorem Fails.reports {kept : Option Blob} {failure : Failure}
    (fails : s.Fails id kept failure s') (notOver : s.conversation.phase ≠ .completed) :
    s'.Reports id where
  told := by
    intro other failed
    rw [fails.calls] at failed
    cases eq_of_getElem?_set failed
    rw [fails.conversation]
    exact tells_setError notOver failure
  notOver := by
    intro pending
    obtain ⟨awaiting, waits⟩ := exists_of_isPending pending
    rw [fails.calls] at waits
    cases eq_of_getElem?_set waits

theorem reports_failCall (notOver : s.conversation.phase ≠ .completed) (id : Nat)
    (failure : Failure) : (s.failCall id failure).Reports id :=
  (fails_failCall s id failure).reports notOver

theorem Requests.reports {endpoint : Endpoint} {awaiting : Awaiting}
    (requests : s.Requests id endpoint awaiting s') (notOver : s.conversation.phase ≠ .completed) :
    s'.Reports id where
  told := by
    intro failure failed
    rw [requests.calls] at failed
    cases eq_of_getElem?_set failed
  notOver := fun _ => by
    rw [requests.toUntouched.conversation]
    exact notOver

theorem notOver_dispatch (notOver : s.conversation.phase ≠ .completed) {action : Action}
    (goesOn : action.goesOn = true) : (s.dispatch action).conversation.phase ≠ .completed := by
  rw [conversation_dispatch]
  exact fun completed => notOver (completed_of_reduce goesOn completed)

theorem notOver_assigned (s : Session) (assignmentId : String) :
    (s.dispatch (.assign assignmentId)).conversation.phase ≠ .completed := by
  rw [conversation_dispatch]
  nofun

theorem notOver_supersede (notOver : s.conversation.phase ≠ .completed) (transport : Transport) :
    (s.supersede transport).conversation.phase ≠ .completed := by
  rw [conversation_supersede]
  split
  · have closes : Action.finishStreamingMessage.goesOn = true := rfl
    exact fun completed => notOver (completed_of_reduce closes completed)
  · exact notOver

/-! ### Streams -/

section
variable {transport : Transport} {generation : Nat}

/-- The failure of a stream that owns its slot is told. -/
theorem reports_failStream (notOver : s.conversation.phase ≠ .completed) (id : Nat)
    (owns : (s.slot transport).isCurrent generation = true) (failure : Failure) :
    (s.failStream id transport generation failure).Reports id := by
  simp only [failStream, owns, if_true]
  refine reports_failCall ?_ id failure
  rwa [conversation_setSlot]

theorem reports_endStream (notOver : s.conversation.phase ≠ .completed) (id : Nat)
    (owns : (s.slot transport).isCurrent generation = true)
    (outcome : Except Failure StreamOutcome) :
    (s.endStream id transport generation outcome).Reports id := by
  match outcome with
  | .ok .cancelled => exact reports_succeed s id
  | .ok (.completed done tokens) =>
      unfold endStream
      dsimp only
      split
      · split <;> exact reports_succeed _ id
      · exact reports_succeed _ id
  | .error failure => exact reports_failStream notOver id owns failure

theorem reports_openStream (notOver : s.conversation.phase ≠ .completed) (id : Nat)
    (transport : Transport) (endpoint : Endpoint) :
    (s.openStream id transport endpoint).Reports id := by
  cases signedIn : s.token? with
  | some token =>
      rw [openStream_of_token signedIn]
      refine reports_await ?_ id _
      cases transport <;> exact notOver
  | none =>
      rw [openStream_of_no_token signedIn]
      refine reports_failCall ?_ id .unauthorized
      rwa [conversation_setSlot]

end

/-! ## The calls -/

theorem accounts_refuse (s : Session) (id : Nat) (failure : Failure) :
    (s.refuse id failure).Accounts s.conversation id :=
  .inl rfl

theorem reports_acquireDevices (notOver : s.conversation.phase ≠ .completed) (id : Nat) :
    (s.acquireDevices id).Reports id := by
  have same := conversation_prepareRecorder s
  unfold acquireDevices
  split
  · rename_i prepared failure isPrepared
    rw [isPrepared] at same
    refine reports_failCall ?_ id failure
    rwa [same]
  · exact reports_succeed _ id

theorem accounts_grantPermissions (notOver : s.conversation.phase ≠ .completed) (id : Nat) :
    (s.grantPermissions id).Accounts s.conversation id := by
  unfold grantPermissions
  dsimp only
  split
  · exact .inr (reports_acquireDevices notOver id)
  · split
    · split
      · exact accounts_refuse s id _
      · exact .inr (reports_acquireDevices (notOver_assigned s _) id)
    · exact accounts_refuse s id _

/-- Where an attempt begins the recorder may fail, and the learner is told. -/
theorem notOver_begun {started : Session} {result : Except Failure Unit} {action : Action}
    (notOver : s.conversation.phase ≠ .completed) (goesOn : action.goesOn = true)
    (isStarted : (s.dispatch action).startRecorder = (started, result)) :
    started.conversation.phase ≠ .completed := by
  have same := conversation_startRecorder (s.dispatch action)
  rw [isStarted] at same
  rw [same]
  exact notOver_dispatch notOver goesOn

/-- A start that is not refused tells of its failure. -/
theorem reports_start (can : canStart s.conversation.phase = true) {assignmentId : String}
    (bound : s.conversation.assignmentId = some assignmentId) (id : Nat) :
    (s.start id).Reports id := by
  have notOver : s.conversation.phase ≠ .completed := by
    intro completed
    rw [completed] at can
    cases can
  simp only [start, can, bound, Bool.not_true, Bool.false_eq_true, if_false]
  split
  · rename_i isStarted
    exact reports_failCall (notOver_begun notOver rfl isStarted) id _
  · rename_i isStarted
    exact reports_openStream (notOver_begun notOver rfl isStarted) id _ _

theorem accounts_start (s : Session) (id : Nat) : (s.start id).Accounts s.conversation id := by
  cases can : canStart s.conversation.phase with
  | false =>
      simp only [start, can, Bool.not_false, if_true]
      exact accounts_refuse s id _
  | true =>
      cases bound : s.conversation.assignmentId with
      | none =>
          simp only [start, can, bound, Bool.not_true, Bool.false_eq_true, if_false]
          exact accounts_refuse s id _
      | some assignmentId => exact .inr (reports_start can bound id)

theorem accounts_startExisting (notOver : s.conversation.phase ≠ .completed) (id : Nat)
    (attemptId objectiveTitle : String) :
    (s.startExisting id attemptId objectiveTitle).Accounts s.conversation id := by
  unfold startExisting
  dsimp only
  split
  · exact accounts_refuse s id _
  · split
    · rename_i isStarted
      exact .inr (reports_failCall (notOver_begun notOver rfl isStarted) id _)
    · exact .inr (reports_succeed _ id)

theorem reports_streamReply (notOver : s.conversation.phase ≠ .completed) (id : Nat)
    (content : String) : (s.streamReply id content).Reports id := by
  have opened : (s.dispatch .beginInterviewerMessage).conversation.phase ≠ .completed :=
    notOver_dispatch notOver rfl
  unfold streamReply
  dsimp only
  split
  · exact reports_failCall opened id _
  · exact reports_openStream opened id _ _

theorem reports_sendMessage (notOver : s.conversation.phase ≠ .completed) (id : Nat)
    (content : String) : (s.sendMessage id content).Reports id := by
  unfold sendMessage
  dsimp only
  split
  · exact reports_succeed s id
  · split
    · have adds : (Action.sendMessage content).goesOn = true := rfl
      refine reports_streamReply ?_ id content
      exact notOver_dispatch (notOver_supersede notOver .response) adds
    · exact reports_succeed _ id

theorem accounts_retryStart (notOver : s.conversation.phase ≠ .completed) (id : Nat) :
    (s.retryStart id).Accounts s.conversation id := by
  unfold retryStart
  dsimp only
  split
  · exact .inr (reports_succeed _ id)
  · split
    · exact accounts_grantPermissions notOver id
    · split
      · exact accounts_refuse s id _
      · -- The conversation starts over, so the start is not refused.
        rename_i assignmentId bound
        have fresh : ((s.dispatch (.assign assignmentId)).dispatch .grantPermissions).conversation =
            { about assignmentId with phase := .ready } := by
          rw [conversation_dispatch, conversation_dispatch]
          rfl
        refine .inr (reports_start ?_ (congrArg Conversation.assignmentId fresh) id)
        rw [fresh]
        rfl

/-- What was said last is said again, unless no attempt is known. -/
theorem accounts_retry (notOver : s.conversation.phase ≠ .completed) (id : Nat)
    (fine : s.misses .retry = false) : (s.retry id).Accounts s.conversation id := by
  unfold retry
  dsimp only
  split
  · exact accounts_refuse s id _
  · rename_i failed
    split
    · exact accounts_retryStart notOver id
    · rename_i content remembered
      split
      · exact .inr (reports_streamReply (notOver_dispatch notOver rfl) id content)
      · -- The error stays, for there is none that could be put aside.
        rename_i cannot
        refine .inl ?_
        change (s.dispatch .clearError).conversation = s.conversation
        rw [conversation_dispatch] at cannot ⊢
        cases told : s.conversation.error.isSome with
        | false => simp only [reduce, told, Bool.false_eq_true, if_false]
        | true =>
            have known : s.conversation.attemptId.isSome = true := by
              have failed : (s.conversation.phase == .error) = true := by simpa [bne] using failed
              simpa [misses, failed, told, remembered] using fine
            simp [reduce, told, known, canSend] at cannot

theorem accounts_followEvents (notOver : s.conversation.phase ≠ .completed) (id : Nat) :
    (s.followEvents id).Accounts s.conversation id := by
  unfold followEvents
  split
  · exact accounts_refuse s id _
  · exact .inr (reports_openStream notOver id _ _)

theorem accounts_finish (notOver : s.conversation.phase ≠ .completed) (id : Nat) :
    (s.finish id).Accounts s.conversation id := by
  cases can : s.canFinish with
  | false =>
      rw [finish_refused can]
      exact accounts_refuse s id _
  | true =>
      cases identified : s.conversation.attemptId with
      | none =>
          rw [finish_unidentified can identified]
          exact .inr (reports_failCall notOver id unidentified)
      | some attemptId =>
          have closing : s.closing.takeRecording.1.conversation.phase ≠ .completed := by
            rw [(untouched_takeRecording _).conversation, (conversation_closing can).1]
            nofun
          rcases finish_requests can identified id with requests | ⟨failure, -, fails⟩
          · exact .inr (requests.reports closing)
          · exact .inr (fails.reports closing)

/-- Whatever the call is, it accounts for its failure, with one exception. -/
theorem accounts_runCall (notOver : s.conversation.phase ≠ .completed) (id : Nat) {call : Call}
    (fine : s.misses call = false) : (s.runCall id call).Accounts s.conversation id := by
  cases call with
  | assign | clearError | continueAfterClosure | pauseRecording | resumeRecording | setVisibility
  | abandon => exact .inr (reports_giveBack _ id nofun)
  | grantPermissions => exact accounts_grantPermissions notOver id
  | start => exact accounts_start s id
  | startExisting attemptId title => exact accounts_startExisting notOver id attemptId title
  | sendMessage content => exact .inr (reports_sendMessage notOver id content)
  | retry => exact accounts_retry notOver id fine
  | followEvents => exact accounts_followEvents notOver id
  | finish => exact accounts_finish notOver id

/-- The exception: the call is refused when the error is put aside already. -/
theorem retry_missed (missed : s.misses .retry = true) (id : Nat) :
    s.retry id =
      (s.dispatch .clearError).refuse id (.invalidState "attempt is not in progress") ∧
    (s.dispatch .clearError).conversation =
      { s.conversation with error := none, phase := .idle } := by
  simp only [misses, Bool.and_eq_true] at missed
  obtain ⟨⟨⟨failed, told⟩, remembered⟩, unidentified⟩ := missed
  obtain ⟨content, remembered⟩ := Option.isSome_iff_exists.mp remembered
  rw [Option.isNone_iff_eq_none] at unidentified
  have idle : (s.dispatch .clearError).conversation =
      { s.conversation with error := none, phase := .idle } := by
    rw [conversation_dispatch]
    simp only [reduce, told, unidentified, Option.isSome_none, Bool.false_eq_true, if_false, if_true]
  have cannot : (s.dispatch .clearError).conversation.canSend = false := by
    rw [idle]
    rfl
  refine ⟨?_, idle⟩
  simp only [retry, bne, failed, Bool.not_true, Bool.false_eq_true, if_false, remembered, cannot]

/-! ## While the call waits -/

/-- All other calls have returned, and the stream that the call waits for owns its slot. -/
structure Sole (s : Session) (id : Nat) : Prop where
  others : ∀ (other : Nat) (state : CallState), other ≠ id → s.calls[other]? = some state →
    state.isReturned = true
  owns : ∀ (state : CallState) transport generation, s.calls[id]? = some state →
    state.generation? transport = some generation →
      (s.slot transport).isCurrent generation = true

theorem Sole.same (sole : s.Sole id) (same : s.SameStreams s') : s'.Sole id where
  others := fun other state ne here => sole.others other state ne (same.calls ▸ here)
  owns := fun state transport generation here waits => by
    rw [same.slot]
    exact sole.owns state transport generation (same.calls ▸ here) waits

/-- Only the call itself has taken another state, and its stream, if it waits for one, is in place. -/
theorem Sole.set {state : CallState}
    (others : ∀ (other : Nat) (state : CallState), other ≠ id → s.calls[other]? = some state →
      state.isReturned = true)
    (calls : s'.calls = s.calls.set id state)
    (owns : ∀ transport generation, state.generation? transport = some generation →
      (s'.slot transport).isCurrent generation = true) : s'.Sole id where
  others := by
    intro other old ne here
    rw [calls, List.getElem?_set_ne ne.symm] at here
    exact others other old ne here
  owns := by
    intro now transport generation here waits
    rw [calls] at here
    obtain rfl := eq_of_getElem?_set here
    exact owns transport generation waits

/-- A turn leaves a call waiting for a stream only if that stream has begun. -/
theorem owns_of_turn {slot after : Slot} {generation : Nat}
    (turn : slot.Turn after (some generation)) : after.isCurrent generation = true := by
  cases turn
  exact Slot.isCurrent_iff.mpr rfl

theorem Sole.turn (others : ∀ (other : Nat) (state : CallState), other ≠ id →
    s.calls[other]? = some state → state.isReturned = true) (turn : Turn id s s') :
    s'.Sole id := by
  obtain ⟨state, calls, -, slots⟩ := turn
  refine .set others calls fun transport generation waits => ?_
  have slot := slots transport
  rw [waits] at slot
  exact owns_of_turn slot

theorem Sole.stream (sole : s.Sole id) {transport : Transport} {generation : Nat}
    {state : CallState} (here : s.calls[id]? = some state) (waits : state.generation? transport = some generation)
    (turn : StreamTurn id transport generation s s') : s'.Sole id := by
  cases turn with
  | goesOn after calls still settled slots =>
      refine .set sole.others calls fun other g also => ?_
      obtain ⟨rfl, rfl⟩ := CallState.generation?_unique still also
      rw [slots]
      exact sole.owns state other g here waits
  | ends ended =>
      obtain ⟨result, calls⟩ := ended.calls
      exact .set sole.others calls nofun
  | cancelled result calls slots => exact .set sole.others calls nofun

theorem calls_of_settle {state : CallState} (here : s.settle.calls[id]? = some state) :
    s.calls[id]? = some state ∨ state = .returned (some (.ok ())) := by
  cases before : s.calls[id]? with
  | none =>
      have outside : s.settle.calls.length = s.calls.length := List.length_map _
      have none : s.settle.calls[id]? = none := by
        rw [List.getElem?_eq_none_iff, outside]
        exact List.getElem?_eq_none_iff.mp before
      rw [none] at here
      cases here
  | some old =>
      rcases getElem?_releaseCancelled (s.onRecorder Recorder.settle) before with
        same | ⟨released, -⟩
      · exact .inl (same.symm.trans here)
      · exact .inr (Option.some.inj (here.symm.trans released))

theorem Sole.settle (sole : s.Sole id) : s.settle.Sole id where
  others := by
    intro other state ne here
    rcases calls_of_settle here with before | rfl
    · exact sole.others other state ne before
    · rfl
  owns := by
    intro state transport generation here waits
    rw [(untouched_settle s).slot]
    rcases calls_of_settle here with before | rfl
    · exact sole.owns state transport generation before waits
    · cases waits

theorem Reports.settle (reports : s.Reports id) : s.settle.Reports id where
  told := by
    intro failure failed
    rcases calls_of_settle failed with before | same
    · exact reports.told failure before
    · cases same
  notOver := by
    intro pending
    obtain ⟨awaiting, waits⟩ := exists_of_isPending pending
    rcases calls_of_settle waits with before | same
    · refine reports.notOver ?_
      rw [isPending, before]
      rfl
    · cases same

/-- A new call is the only one that waits, and its stream owns its slot. -/
theorem sole_call (alone : s.calls.all CallState.isReturned = true) (call : Call) :
    (s.step (.call call)).Sole s.nextCall := by
  refine Sole.settle (.turn (fun other state ne here => ?_) (turn_runCall s.withCall s.nextCall call))
  have inside : other < s.calls.length := by
    have atMost : other < s.withCall.calls.length := (List.getElem?_eq_some_iff.mp here).1
    rw [withCall, List.length_append, List.length_singleton] at atMost
    exact Nat.lt_of_le_of_ne (Nat.le_of_lt_succ atMost) ne
  rw [withCall, List.getElem?_append_left inside] at here
  exact List.all_eq_true.mp alone state (List.mem_of_getElem? here)

/-- What comes for a call that has returned is passed over. -/
theorem Sole.passes (sole : s.Sole id) {other : Nat} (ne : other ≠ id) :
    (∀ answer, s.react (.answer other answer) = s) ∧ ∀ read, s.react (.read other read) = s := by
  cases here : s.calls[other]? with
  | none =>
      exact ⟨fun answer => by simp only [react, takeAnswer, here],
        fun read => by simp only [react, takeReadOf, here]⟩
  | some state =>
      cases state with
      | waiting awaiting => cases sole.others other _ ne here
      | returned result => exact react_of_returned here

theorem Sole.react (sole : s.Sole id) {stimulus : Stimulus} (passive : stimulus.isPassive = true) :
    (s.react stimulus).Sole id := by
  cases stimulus with
  | call | dispatch => cases passive
  | uploaded answer => exact sole.same (sameStreams_pump.takePumpAnswer s)
  | pump => exact sole.same (sameStreams_pump.takeEvents s _)
  | elapse ms => exact sole.same (sameStreams_onRecorder s _)
  | setToken token => exact sole.same (.of_fields rfl rfl rfl)
  | setOutcome outcome => exact sole.same (sameStreams_onRecorder s _)
  | answer other answer =>
      by_cases own : other = id
      · subst own
        simp only [Session.react]
        unfold takeAnswer
        split
        · rename_i here
          exact sole.stream here (CallState.generation?_headers _ _)
            (streamTurn_takeHeaders s other _ _ _)
        · exact .turn sole.others (turn_takeUploaded s other _ _ _)
        · exact .turn sole.others (turn_takeCompleted s other _)
        · exact sole
      · rw [(sole.passes own).1]
        exact sole
  | read other read =>
      by_cases own : other = id
      · subst own
        simp only [Session.react]
        unfold takeReadOf
        split
        · rename_i here
          exact sole.stream here (CallState.generation?_read _ _ _)
            (streamTurn_takeRead s other _ _ _ read)
        · exact sole
      · rw [(sole.passes own).2]
        exact sole

theorem reports_takeHeaders {transport : Transport} {generation : Nat}
    (notOver : s.conversation.phase ≠ .completed) (id : Nat)
    (owns : (s.slot transport).isCurrent generation = true)
    (alive : (s.slot transport).isCancelled generation = false) (answer : Except Failure Unit) :
    (s.takeHeaders id transport generation answer).Reports id := by
  cases answer with
  | ok answered =>
      simp only [takeHeaders, awaitRead, alive, Bool.false_eq_true, if_false]
      exact reports_await notOver id _
  | error failure => exact reports_failStream notOver id owns failure

theorem Attends.reports {transport : Transport} {generation : Nat} {c : Consumption}
    (attends : s.Attends id transport generation c) (notOver : s.conversation.phase ≠ .completed)
    (read : Read) : (s.react (.read id read)).Reports id := by
  cases read with
  | bytes bytes =>
      have told := attends.tell (c.tells bytes).events
      have open' : (s.tell (c.tells bytes).events).conversation.phase ≠ .completed := by
        rw [(hears_tell s _).conversation]
        exact notOver_foldl (Event.goesOn_actions _) notOver
      rw [attends.react_bytes]
      split
      · exact reports_failStream open' id told.owns _
      · exact reports_await open' id _
  | failure detail =>
      simp only [Session.react, takeReadOf, attends.here, takeRead]
      exact reports_endStream notOver id attends.owns _
  | ended =>
      simp only [Session.react, takeReadOf, attends.here, takeRead]
      exact reports_endStream notOver id attends.owns _

/-- What comes for the call itself. -/
theorem Sole.reports_own (sole : s.Sole id) (tended : s.Tended) (pending : s.isPending id = true)
    (notOver : s.conversation.phase ≠ .completed) :
    (∀ answer, (s.react (.answer id answer)).Reports id) ∧
      ∀ read, (s.react (.read id read)).Reports id := by
  obtain ⟨awaiting, here⟩ := exists_of_isPending pending
  have waiting : s.Reports id := reports_of_pending pending notOver
  have owns := fun transport generation => sole.owns _ transport generation here
  have live := fun transport generation waits =>
    (tended.slots transport).live generation
      (Slot.isCurrent_iff.mp (owns transport generation waits))
  -- While the recording is uploaded or the attempt handed in, no read comes.
  have unread (hands : (CallState.waiting awaiting).handsIn = true) (read : Read) :
      (s.react (.read id read)).Reports id := by
    have nothing : s.react (.read id read) = s := takeReadOf_of_handsIn here hands read
    rw [nothing]
    exact waiting
  cases awaiting with
  | headers transport generation =>
      have owner := owns transport generation (CallState.generation?_headers _ _)
      have alive := live transport generation (CallState.generation?_headers _ _)
      refine ⟨fun answer => ?_, fun read => ?_⟩
      · simp only [Session.react, takeAnswer, here]
        exact reports_takeHeaders notOver id owner alive answer.check
      · simp only [Session.react, takeReadOf, here]
        exact waiting
  | read transport generation c =>
      have owner := owns transport generation (CallState.generation?_read _ _ _)
      have alive := live transport generation (CallState.generation?_read _ _ _)
      have attends : s.Attends id transport generation c := ⟨here, owner, alive⟩
      refine ⟨fun answer => ?_, attends.reports notOver⟩
      simp only [Session.react, takeAnswer, here]
      exact waiting
  | upload attemptId recording =>
      refine ⟨fun answer => ?_, unread rfl⟩
      rcases answer_upload here answer with
        ⟨-, requests | ⟨failure, -, fails⟩⟩ | ⟨failure, -, fails⟩
      · exact requests.reports notOver
      · exact fails.reports notOver
      · exact fails.reports notOver
  | completion =>
      refine ⟨fun answer => ?_, unread rfl⟩
      rcases answer_completion here answer with ⟨-, succeeds⟩ | ⟨failure, -, fails⟩
      · rw [succeeds]
        exact reports_succeed _ id
      · exact fails.reports notOver

/-- Whatever happens while the call goes on alone, it reports. -/
theorem Sole.reports_step (sole : s.Sole id) (tended : s.Tended) (pending : s.isPending id = true)
    (notOver : s.conversation.phase ≠ .completed) {stimulus : Stimulus}
    (passive : stimulus.isPassive = true) : (s.step stimulus).Reports id := by
  refine Reports.settle ?_
  have waiting : s.Reports id := reports_of_pending pending notOver
  -- What comes for nobody leaves the call waiting, and completes no attempt.
  have quiet (goesOn : s.goesOn stimulus = true) (same : s.SameStreams (s.react stimulus)) :
      (s.react stimulus).Reports id := by
    have proceeds : Proceeds true s (s.step stimulus) :=
      proceeds_step s stimulus (fun _ => goesOn) fun _ active => by cases passive.symm.trans active
    obtain ⟨actions, goOn, changed⟩ := proceeds.acts
    refine reports_of_pending ?_ ?_
    · rwa [isPending, same.calls]
    · change (s.step stimulus).conversation.phase ≠ .completed
      rw [changed]
      exact notOver_foldl (goOn rfl) notOver
  cases stimulus with
  | call | dispatch => cases passive
  | uploaded answer => exact quiet rfl (sameStreams_pump.takePumpAnswer s)
  | pump => exact quiet rfl (sameStreams_pump.takeEvents s _)
  | elapse ms => exact quiet rfl (sameStreams_onRecorder s _)
  | setToken token => exact quiet rfl (.of_fields rfl rfl rfl)
  | setOutcome outcome => exact quiet rfl (sameStreams_onRecorder s _)
  | answer other answer =>
      by_cases own : other = id
      · subst own
        exact (sole.reports_own tended pending notOver).1 answer
      · rw [(sole.passes own).1]
        exact waiting
  | read other read =>
      by_cases own : other = id
      · subst own
        exact (sole.reports_own tended pending notOver).2 read
      · rw [(sole.passes own).2]
        exact waiting

theorem Accounts.settle {c : Conversation} (accounts : s.Accounts c id) : s.settle.Accounts c id :=
  accounts.imp (fun same => same) Reports.settle

/-- While the call goes on alone it accounts for its failure. -/
theorem accounts_run {c : Conversation} (open' : c.phase ≠ .completed) (reachable : s.Reachable)
    (sole : s.Sole id) (accounts : s.Accounts c id) {stimuli : List Stimulus}
    (lasts : throughout (fun u stimulus => stimulus.isPassive && u.isPending id) s stimuli = true) :
    (s.run stimuli).Accounts c id := by
  induction stimuli generalizing s with
  | nil => exact accounts
  | cons stimulus rest ih =>
      rw [throughout, Bool.and_eq_true, Bool.and_eq_true] at lasts
      obtain ⟨⟨passive, pending⟩, later⟩ := lasts
      have notOver : s.conversation.phase ≠ .completed := by
        rcases accounts with same | reports
        · rwa [same]
        · exact reports.notOver pending
      have reports := sole.reports_step reachable.tended pending notOver passive
      exact ih (reachable.step stimulus) (sole.react passive).settle (.inr reports) later

/-- A call that is refused at once leaves the session to nobody. -/
theorem eq_nil_of_returned {result : CallResult} (here : s.calls[id]? = some (.returned result))
    {stimuli : List Stimulus}
    (lasts : throughout (fun u stimulus => stimulus.isPassive && u.isPending id) s stimuli = true) :
    stimuli = [] := by
  cases stimuli with
  | nil => rfl
  | cons stimulus rest =>
      simp [throughout, not_isPending_of_returned here] at lasts

end

/-- What a call that fails leaves behind. Nobody else calls anything meanwhile, and the attempt is not
    completed. Then the conversation is what it was before the call, or it tells the learner of the
    failure, unless the call was to repeat a message of no attempt: that one is refused, but the error
    was put aside already, and the conversation is idle. -/
theorem unchanged_or_told {s : Session} (reachable : s.Reachable)
    (alone : s.calls.all CallState.isReturned = true) (notOver : s.conversation.phase ≠ .completed)
    (call : Call) {stimuli : List Stimulus}
    (lasts : throughout (fun u stimulus => stimulus.isPassive && u.isPending s.nextCall)
      (s.step (.call call)) stimuli = true)
    {failure : Failure}
    (failed : ((s.step (.call call)).run stimuli).calls[s.nextCall]? =
      some (.returned (some (.error failure)))) :
    let t := (s.step (.call call)).run stimuli
    ((t.conversation = s.conversation ∨ t.conversation.Tells failure) ↔ s.misses call = false) ∧
      (s.misses call = true →
        t.conversation = { s.conversation with error := none, phase := .idle }) := by
  intro t
  cases misses : s.misses call with
  | false =>
      refine ⟨⟨fun _ => rfl, fun _ => ?_⟩, nofun⟩
      have accounts : (s.step (.call call)).Accounts s.conversation s.nextCall :=
        (accounts_runCall (s := s.withCall) notOver s.nextCall misses).settle
      exact (accounts_run notOver (reachable.step _) (sole_call alone call) accounts lasts).imp
        (fun same => same) fun reports => reports.told failure failed
  | true =>
      cases call with
      | retry =>
          obtain ⟨refused, idle⟩ := retry_missed (s := s.withCall) misses s.nextCall
          have steps : s.step (.call .retry) = ((s.withCall.dispatch .clearError).refuse s.nextCall
            (.invalidState "attempt is not in progress")).settle := congrArg Session.settle refused
          have returned : (s.step (.call .retry)).calls[s.nextCall]? = some (.returned (some (.error
              (.invalidState "attempt is not in progress")))) := by
            rw [steps]
            exact calls_settle_of_returned (getElem?_set_nextCall s _)
          obtain rfl := eq_nil_of_returned returned lasts
          have left : t.conversation = { s.conversation with error := none, phase := .idle } := by
            change (s.step (.call .retry)).conversation = _
            rw [steps]
            exact idle
          refine ⟨⟨?_, nofun⟩, fun _ => left⟩
          rw [left]
          rintro (same | ⟨phase, -⟩)
          · have wrong : s.conversation.phase = .error := by
              simp only [Session.misses, Bool.and_eq_true, beq_iff_eq] at misses
              exact misses.1.1.1
            have idle : s.conversation.phase = .idle := (congrArg Conversation.phase same).symm
            rw [wrong] at idle
            cases idle
          · cases phase
      | _ => cases misses

/-- A reply that the server gives up after a token. -/
def givenUpText : String :=
  "event: token\ndata: \x7b\"content\":\"Hel\"\x7d\n\n" ++
    "event: error\ndata: \x7b\"message\":\"busy\"\x7d\n\n"

/-- The server gives up a reply: the call fails with what the server said, and the conversation says
    the same. -/
theorem told_of_given_up_reply :
    let s := ({ baseUrl := "", tokenFile := some "t" } : Session).run
      [.call (.assign "A"), .call (.startExisting "T" ""), .dispatch .finishStreamingMessage]
    let bytes := Text.Utf8.encode givenUpText
    let stimuli : List Stimulus :=
      [.answer 2 (.status 200), .elapse 5, .read 2 (.bytes (bytes.take 60)), .read 0 .ended,
        .read 2 (.bytes (bytes.drop 60))]
    let call := Call.sendMessage "Hello?"
    let t := (s.step (.call call)).run stimuli
    let failure := Failure.server "busy" false
    s.Reachable ∧ s.calls.all CallState.isReturned = true ∧ s.conversation.phase ≠ .completed ∧
      s.misses call = false ∧ t.calls[s.nextCall]? = some (.returned (some (.error failure))) ∧
      (t.conversation = s.conversation ∨ t.conversation.Tells failure) := by
  intro s bytes stimuli call t failure
  have reachable : s.Reachable :=
    ⟨_, ⟨rfl, fun transport => by cases transport <;> rfl⟩, later_run _ _⟩
  have notOver : s.conversation.phase ≠ .completed := by decide
  have lasts : throughout (fun u stimulus => stimulus.isPassive && u.isPending s.nextCall)
      (s.step (.call call)) stimuli = true := by decide +kernel
  have failed : t.calls[s.nextCall]? = some (.returned (some (.error failure))) :=
    failed_of_failure? (by decide +kernel)
  exact ⟨reachable, rfl, notOver, rfl, failed,
    (unchanged_or_told reachable rfl notOver call lasts failed).1.mpr rfl⟩

/-- The start has not told which attempt it began when the learner says something, so that fails.
    Doing it again is refused; but then the session is idle, and nothing is wrong any more. -/
theorem idle_after_missed_retry :
    let s := ({ baseUrl := "", tokenFile := some "t" } : Session).run
      [.call (.assign "A"), .call .grantPermissions, .call .start, .answer 2 (.status 200),
        .call (.sendMessage "Hello")]
    let t := s.step (.call .retry)
    let failure := Failure.invalidState "attempt is not in progress"
    s.Reachable ∧ s.calls.all CallState.isReturned = true ∧ s.conversation.phase ≠ .completed ∧
      t.calls[s.nextCall]? = some (.returned (some (.error failure))) ∧
      ¬ (t.conversation = s.conversation ∨ t.conversation.Tells failure) := by
  intro s t failure
  have reachable : s.Reachable :=
    ⟨_, ⟨rfl, fun transport => by cases transport <;> rfl⟩, later_run _ _⟩
  have idle : t.conversation.phase = .idle := rfl
  have failed : s.conversation.phase = .error := rfl
  refine ⟨reachable, rfl, by decide, rfl, ?_⟩
  rintro (same | ⟨phase, -⟩)
  · rw [same, failed] at idle
    cases idle
  · rw [idle] at phase
    cases phase

end Session

end Viva
