import Viva.Proofs.Session.HandingIn
import Viva.Proofs.Session.Saying

/-! # What a session asks the server for

A call asks the server for one thing at most before it waits, and so does the answer to its request.
What that is does not hang on the token (`Asking`): if there is one, the request is sent with it, and
the call waits for the answer; if there is none, nothing is sent, and the call fails for that reason.
-/

namespace Viva

/-- What is waited for is the answer to a request for this. -/
def Awaiting.isFor : Awaiting → Endpoint → Bool
  | .headers .response _, .start _ | .headers .response _, .message _ _ => true
  | .headers .eventSource _, .stream _ => true
  | .upload attemptId recording, .video owner blob => attemptId == owner && recording == blob
  | .completion, .complete _ => true
  | _, _ => false

/-- The call waits for the answer to a request. -/
def CallState.awaitsAnswer : CallState → Bool
  | .waiting (.read _ _ _) | .returned _ => false
  | .waiting _ => true

namespace Session

/-- The session with something else in its token file. -/
def withToken (s : Session) (tokenFile : Option String) : Session := { s with tokenFile }

/-- The request is sent with the token there is, and the call waits for its answer. -/
structure Poses (s : Session) (id : Nat) (endpoint : Endpoint) (t : Session) : Prop where
  sent : ∃ token, s.token? = some token ∧ t.sent = s.sent ++ [⟨.call id, endpoint, token⟩]
  calls : ∃ awaiting, awaiting.isFor endpoint = true ∧ t.calls = s.calls.set id (.waiting awaiting)

/-- There is no token, so nothing is sent, and the call fails. -/
structure Declines (s : Session) (id : Nat) (t : Session) : Prop where
  signedOut : s.token? = none
  sent : t.sent = s.sent
  calls : t.calls = s.calls.set id (.returned (some (.error .unauthorized)))

/-- Nothing is asked for. -/
structure Silent (s : Session) (id : Nat) (t : Session) : Prop where
  sent : t.sent = s.sent
  calls : ∃ state : CallState, state.awaitsAnswer = false ∧ t.calls = s.calls.set id state

/-- A call comes to `outcome`, whatever the token file holds: it asks for nothing, or for one thing. -/
def Asking (s : Session) (id : Nat) (outcome : Option String → Session) : Prop :=
  (∀ file, (s.withToken file).Silent id (outcome file)) ∨
    ∃ endpoint, ∀ file, (s.withToken file).Poses id endpoint (outcome file) ∨
      (s.withToken file).Declines id (outcome file)

/-- Nothing was sent, and no call has changed. -/
structure Prepares (s s' : Session) : Prop where
  sent : s'.sent = s.sent
  calls : s'.calls = s.calls

section
variable {s s' t : Session} {id : Nat} {outcome : Option String → Session}

theorem Prepares.trans {a b c : Session} (first : a.Prepares b) (second : b.Prepares c) :
    a.Prepares c :=
  ⟨second.sent.trans first.sent, second.calls.trans first.calls⟩

theorem Silent.after (silent : s'.Silent id t) (prepares : s.Prepares s') : s.Silent id t where
  sent := silent.sent.trans prepares.sent
  calls := by
    rw [← prepares.calls]
    exact silent.calls

theorem Asking.after (asking : s'.Asking id outcome) (prepares : s.Prepares s') :
    s.Asking id outcome := by
  rcases asking with silent | ⟨endpoint, asks⟩
  · exact .inl fun file => (silent file).after ⟨prepares.sent, prepares.calls⟩
  · refine .inr ⟨endpoint, fun file => ?_⟩
    obtain ⟨sent, calls⟩ := prepares
    rcases asks file with ⟨⟨token, signedIn, posed⟩, waits⟩ | ⟨signedOut, nothing, fails⟩
    · left
      refine ⟨⟨token, signedIn, posed.trans ?_⟩, ?_⟩
      · exact congrArg (· ++ _) sent
      · obtain ⟨awaiting, isFor, set⟩ := waits
        exact ⟨awaiting, isFor, set.trans (congrArg (List.set · id _) calls)⟩
    · right
      exact ⟨signedOut, nothing.trans sent, fails.trans (congrArg (List.set · id _) calls)⟩

/-! ## Asking for nothing -/

theorem silent_giveBack (s : Session) (id : Nat) (result : CallResult) :
    s.Silent id (s.giveBack id result) :=
  ⟨rfl, _, rfl, rfl⟩

theorem silent_failCall (s : Session) (id : Nat) (failure : Failure) :
    s.Silent id (s.failCall id failure) :=
  ⟨rfl, _, rfl, rfl⟩

theorem prepares_dispatch (s : Session) (action : Action) : s.Prepares (s.dispatch action) :=
  ⟨rfl, rfl⟩

theorem prepares_setSlot (s : Session) (transport : Transport) (slot : Slot) :
    s.Prepares (s.setSlot transport slot) := by
  cases transport <;> exact ⟨rfl, rfl⟩

theorem prepares_supersede (s : Session) (transport : Transport) :
    s.Prepares (s.supersede transport) := by
  unfold supersede
  dsimp only
  split
  · exact (prepares_setSlot s transport _).trans (prepares_dispatch _ _)
  · exact ⟨rfl, rfl⟩

theorem prepares_prepareRecorder (s : Session) : s.Prepares s.prepareRecorder.1 := by
  unfold prepareRecorder
  split <;> exact ⟨rfl, rfl⟩

theorem prepares_startRecorder (s : Session) : s.Prepares s.startRecorder.1 := by
  unfold startRecorder
  split <;> exact ⟨rfl, rfl⟩

theorem prepares_takeRecording (s : Session) : s.Prepares s.takeRecording.1 :=
  ⟨(takeRecording_keeps s).1, (sameStreams_takeRecording s).calls⟩

theorem silent_acquireDevices (s : Session) (id : Nat) : s.Silent id (s.acquireDevices id) := by
  have prepares := prepares_prepareRecorder s
  unfold acquireDevices
  split
  · rename_i isPrepared
    rw [isPrepared] at prepares
    exact (silent_failCall _ id _).after prepares
  · rename_i isPrepared
    rw [isPrepared] at prepares
    exact (silent_giveBack _ id _).after (prepares.trans (prepares_dispatch _ _))

theorem silent_grantPermissions (s : Session) (id : Nat) :
    s.Silent id (s.grantPermissions id) := by
  unfold grantPermissions
  dsimp only
  split
  · exact silent_acquireDevices s id
  · split
    · split
      · exact silent_giveBack s id _
      · exact (silent_acquireDevices _ id).after (prepares_dispatch s _)
    · exact silent_giveBack s id _

theorem silent_startExisting (s : Session) (id : Nat) (attemptId title : String) :
    s.Silent id (s.startExisting id attemptId title) := by
  unfold startExisting
  dsimp only
  split
  · exact silent_giveBack s id _
  · have prepares := (prepares_dispatch s
      (.startAssessment (some attemptId) (some title) s.wallClock)).trans (prepares_startRecorder _)
    split
    · rename_i isStarted
      rw [isStarted] at prepares
      exact (silent_failCall _ id _).after prepares
    · rename_i isStarted
      rw [isStarted] at prepares
      exact (silent_giveBack _ id _).after prepares

theorem silent_failStream (s : Session) (id : Nat) (transport : Transport) (generation : Nat)
    (failure : Failure) : s.Silent id (s.failStream id transport generation failure) := by
  unfold failStream
  dsimp only
  split
  · exact (silent_failCall _ id failure).after (prepares_setSlot s transport _)
  · exact silent_giveBack s id _

theorem silent_awaitRead (s : Session) (id : Nat) (transport : Transport) (generation : Nat)
    (c : Consumption) : s.Silent id (s.awaitRead id transport generation c) := by
  unfold awaitRead
  split
  · exact silent_giveBack s id _
  · exact ⟨rfl, _, rfl, rfl⟩

theorem silent_takeHeaders (s : Session) (id : Nat) (transport : Transport) (generation : Nat)
    (answer : Except Failure Unit) : s.Silent id (s.takeHeaders id transport generation answer) := by
  cases answer with
  | ok => exact silent_awaitRead s id transport generation {}
  | error failure => exact silent_failStream s id transport generation failure

theorem silent_failUpload (s : Session) (id : Nat) (recording : Blob) (failure : Failure) :
    s.Silent id (s.failUpload id recording failure) :=
  (silent_failCall _ id failure).after ⟨rfl, rfl⟩

theorem silent_takeCompleted (s : Session) (id : Nat) (answer : Except Failure Unit) :
    s.Silent id (s.takeCompleted id answer) := by
  cases answer with
  | ok => exact (silent_giveBack _ id _).after (prepares_dispatch s _)
  | error failure => exact silent_failCall s id failure

/-! ## Whatever the token file holds -/

@[simp] theorem conversation_withToken (s : Session) (file : Option String) :
    (s.withToken file).conversation = s.conversation := rfl

@[simp] theorem store_withToken (s : Session) (file : Option String) :
    (s.withToken file).store = s.store := rfl

@[simp] theorem lastMessage_withToken (s : Session) (file : Option String) :
    (s.withToken file).lastMessage = s.lastMessage := rfl

@[simp] theorem wallClock_withToken (s : Session) (file : Option String) :
    (s.withToken file).wallClock = s.wallClock := rfl

@[simp] theorem dispatch_withToken (s : Session) (file : Option String) (action : Action) :
    (s.withToken file).dispatch action = (s.dispatch action).withToken file := rfl

@[simp] theorem supersede_withToken (s : Session) (file : Option String) (transport : Transport) :
    (s.withToken file).supersede transport = (s.supersede transport).withToken file := by
  have same : (s.withToken file).slot transport = s.slot transport := by cases transport <;> rfl
  unfold supersede
  simp only [same]
  split
  · cases transport <;> rfl
  · rfl

@[simp] theorem startRecorder_withToken (s : Session) (file : Option String) :
    (s.withToken file).startRecorder =
      (s.startRecorder.1.withToken file, s.startRecorder.2) := by
  have same : (s.withToken file).recorder = s.recorder := rfl
  unfold startRecorder
  rw [same]
  split <;> rfl

@[simp] theorem takeRecording_withToken (s : Session) (file : Option String) :
    (s.withToken file).takeRecording =
      (s.takeRecording.1.withToken file, s.takeRecording.2) := by
  have kept : (s.withToken file).finalRecording = s.finalRecording := rfl
  have same : (s.withToken file).recorder = s.recorder := rfl
  unfold takeRecording
  rw [kept, same]
  split
  · rfl
  · rfl
  · dsimp only
    split <;> rfl

/-! ## Asking for one thing -/

theorem asking_ite {condition : Prop} {decides : Option String → Decidable condition}
    {other : Option String → Session} (yes : s.Asking id outcome) (no : s.Asking id other) :
    s.Asking id fun file => @ite _ condition (decides file) (outcome file) (other file) := by
  by_cases holds : condition
  · simp only [holds, if_true]
    exact yes
  · simp only [holds, if_false]
    exact no

theorem asking_openStream (s : Session) (id : Nat) (transport : Transport) {endpoint : Endpoint}
    (fits : ∀ generation, (Awaiting.headers transport generation).isFor endpoint = true) :
    s.Asking id fun file => (s.withToken file).openStream id transport endpoint := by
  refine .inr ⟨endpoint, fun file => ?_⟩
  dsimp only
  cases signed : (s.withToken file).token? with
  | some token =>
      left
      rw [openStream_of_token signed]
      refine ⟨⟨token, signed, by cases transport <;> rfl⟩, _,
        fits ((s.withToken file).slot transport).ticket, ?_⟩
      cases transport <;> rfl
  | none =>
      right
      rw [openStream_of_no_token signed]
      exact ⟨signed, by cases transport <;> rfl, by cases transport <;> rfl⟩

theorem asking_streamReply (s : Session) (id : Nat) (content : String) :
    s.Asking id fun file => (s.withToken file).streamReply id content := by
  simp only [streamReply, dispatch_withToken, conversation_withToken]
  refine Asking.after ?_ (prepares_dispatch s .beginInterviewerMessage)
  cases (s.dispatch .beginInterviewerMessage).conversation.attemptId with
  | none => exact .inl fun file => silent_failCall _ id _
  | some attemptId => exact asking_openStream _ id .response fun _ => rfl

theorem asking_sendMessage (s : Session) (id : Nat) (content : String) :
    s.Asking id fun file => (s.withToken file).sendMessage id content := by
  simp only [sendMessage, conversation_withToken, supersede_withToken, store_withToken]
  apply asking_ite
  · exact .inl fun file => silent_giveBack _ id _
  · refine Asking.after (asking_ite ?_ ?_) (prepares_supersede s .response)
    · have asking := asking_streamReply
        { (s.supersede .response).dispatch (.sendMessage content) with lastMessage := some content }
        id content
      exact asking.after ⟨rfl, rfl⟩
    · exact .inl fun file => silent_giveBack _ id _

theorem asking_start (s : Session) (id : Nat) :
    s.Asking id fun file => (s.withToken file).start id := by
  simp only [start, conversation_withToken, wallClock_withToken, dispatch_withToken,
    startRecorder_withToken]
  apply asking_ite
  · exact .inl fun file => silent_giveBack _ id _
  · cases s.conversation.assignmentId with
    | none => exact .inl fun file => silent_giveBack _ id _
    | some assignmentId =>
        refine Asking.after ?_ ((prepares_dispatch s (.startAssessment none none s.wallClock)).trans
          (prepares_startRecorder _))
        dsimp only
        cases (s.dispatch (.startAssessment none none s.wallClock)).startRecorder.2 with
        | error failure => exact .inl fun file => silent_failCall _ id _
        | ok => exact asking_openStream _ id .response fun _ => rfl

theorem asking_retryStart (s : Session) (id : Nat) :
    s.Asking id fun file => (s.withToken file).retryStart id := by
  simp only [retryStart, conversation_withToken, dispatch_withToken]
  apply asking_ite
  · exact Asking.after (.inl fun file => silent_giveBack _ id _) (prepares_dispatch s .clearError)
  · apply asking_ite
    · exact .inl fun file => silent_grantPermissions _ id
    · cases s.conversation.assignmentId with
      | none => exact .inl fun file => silent_giveBack _ id _
      | some assignmentId =>
          exact (asking_start _ id).after ((prepares_dispatch s (.assign assignmentId)).trans
            (prepares_dispatch _ .grantPermissions))

theorem asking_retry (s : Session) (id : Nat) :
    s.Asking id fun file => (s.withToken file).retry id := by
  simp only [retry, conversation_withToken, lastMessage_withToken, dispatch_withToken]
  apply asking_ite
  · exact .inl fun file => silent_giveBack _ id _
  · cases s.lastMessage with
    | none => exact asking_retryStart s id
    | some content =>
        refine Asking.after (asking_ite ?_ ?_) (prepares_dispatch s .clearError)
        · exact asking_streamReply _ id content
        · exact .inl fun file => silent_giveBack _ id _

theorem asking_followEvents (s : Session) (id : Nat) :
    s.Asking id fun file => (s.withToken file).followEvents id := by
  simp only [followEvents, conversation_withToken]
  cases s.conversation.attemptId with
  | none => exact .inl fun file => silent_giveBack _ id _
  | some attemptId => exact asking_openStream s id .eventSource fun _ => rfl

theorem send_withToken (s : Session) (file : Option String) (waiter : Waiter)
    (endpoint : Endpoint) :
    (∃ token asked, (s.withToken file).token? = some token ∧
        asked = { s.withToken file with sent := s.sent ++ [⟨waiter, endpoint, token⟩] } ∧
        (s.withToken file).send waiter endpoint = .ok asked) ∨
      (s.withToken file).token? = none ∧
        (s.withToken file).send waiter endpoint = .error .unauthorized := by
  unfold send
  cases signed : (s.withToken file).token? with
  | some token => exact .inl ⟨token, _, rfl, rfl, rfl⟩
  | none => exact .inr ⟨rfl, rfl⟩

theorem asking_sendCompletion (s : Session) (id : Nat) (attemptId : String) :
    s.Asking id fun file => (s.withToken file).sendCompletion id attemptId := by
  refine .inr ⟨.complete attemptId, fun file => ?_⟩
  unfold sendCompletion
  rcases send_withToken s file (.call id) (.complete attemptId) with
    ⟨token, asked, signed, rfl, isSent⟩ | ⟨signedOut, unsent⟩
  · simp only [isSent]
    exact .inl ⟨⟨token, signed, rfl⟩, .completion, rfl, rfl⟩
  · simp only [unsent]
    exact .inr ⟨signedOut, rfl, rfl⟩

theorem asking_upload (s : Session) (id : Nat) (attemptId : String) (recording : Blob) :
    s.Asking id fun file =>
      match (s.withToken file).send (.call id) (.video attemptId recording) with
      | .ok asked => asked.await id (.upload attemptId recording)
      | .error failure => (s.withToken file).failUpload id recording failure := by
  refine .inr ⟨.video attemptId recording, fun file => ?_⟩
  rcases send_withToken s file (.call id) (.video attemptId recording) with
    ⟨token, asked, signed, rfl, isSent⟩ | ⟨signedOut, unsent⟩
  · simp only [isSent]
    exact .inl ⟨⟨token, signed, rfl⟩, .upload attemptId recording, by simp [Awaiting.isFor], rfl⟩
  · simp only [unsent]
    exact .inr ⟨signedOut, rfl, rfl⟩

theorem asking_finish (s : Session) (id : Nat) :
    s.Asking id fun file => (s.withToken file).finish id := by
  simp only [finish, conversation_withToken, supersede_withToken, dispatch_withToken,
    takeRecording_withToken]
  apply asking_ite
  · exact .inl fun file => silent_giveBack _ id _
  · cases s.conversation.attemptId with
    | none => exact .inl fun file => silent_failCall _ id _
    | some attemptId =>
        have closed := ((prepares_supersede s .response).trans
          (prepares_supersede _ .eventSource)).trans (prepares_dispatch _ .beginCompletion)
        refine Asking.after ?_ (closed.trans (prepares_takeRecording _))
        dsimp only
        cases (((s.supersede .response).supersede .eventSource).dispatch
          .beginCompletion).takeRecording.2 with
        | none => exact asking_sendCompletion _ id attemptId
        | some recording => exact asking_upload _ id attemptId recording

/-- What a call asks for does not hang on the token. -/
theorem asking_runCall (s : Session) (id : Nat) (call : Call) :
    s.Asking id fun file => (s.withToken file).runCall id call := by
  cases call with
  | start => exact asking_start s id
  | sendMessage content => exact asking_sendMessage s id content
  | retry => exact asking_retry s id
  | followEvents => exact asking_followEvents s id
  | finish => exact asking_finish s id
  | grantPermissions => exact .inl fun file => silent_grantPermissions _ id
  | startExisting attemptId title =>
      exact .inl fun file => silent_startExisting _ id attemptId title
  | assign | clearError | continueAfterClosure | pauseRecording | resumeRecording |
      setVisibility =>
      exact .inl fun file => (silent_giveBack _ id _).after ⟨rfl, rfl⟩
  | abandon =>
      refine .inl fun file => (silent_giveBack _ id _).after ?_
      have closed := (prepares_supersede (s.withToken file) .response).trans
        (prepares_supersede _ .eventSource)
      exact closed.trans ⟨rfl, rfl⟩

/-- Neither does what the session asks for when a call's request is answered. -/
theorem asking_takeAnswer (s : Session) {id : Nat} {state : CallState}
    (here : s.calls[id]? = some state) (awaits : state.awaitsAnswer = true) (answer : Answer) :
    s.Asking id fun file => (s.withToken file).takeAnswer id answer := by
  have same (file : Option String) : (s.withToken file).calls[id]? = some state := here
  simp only [takeAnswer, same]
  cases state with
  | returned => cases awaits
  | waiting awaiting =>
      cases awaiting with
      | read => cases awaits
      | headers transport generation =>
          exact .inl fun file => silent_takeHeaders _ id transport generation _
      | completion => exact .inl fun file => silent_takeCompleted _ id _
      | upload attemptId recording =>
          cases answer.check with
          | ok => exact asking_sendCompletion s id attemptId
          | error failure => exact .inl fun file => silent_failUpload _ id recording failure

end

end Session

end Viva
