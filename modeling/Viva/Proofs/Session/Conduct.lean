import Viva.Proofs.Conversation.Soundness
import Viva.Proofs.Recorder.Inactive
import Viva.Proofs.Session.Reply

/-! # What goes on without handing in

Whatever a session does, it changes the conversation by actions only, so the conversation of every
run is sound. And while an attempt is under way, everything but finishing it proceeds beside the
handing in: no recording is taken or kept, nothing of it is sent, no recording begins, and no call
comes to wait for the answer to such a request.
-/

namespace Viva

/-- The action neither begins a conversation nor completes an attempt. -/
def Action.goesOn : Action → Bool
  | assign _ | reset | completeAssessment _ => false
  | _ => true

/-- The call neither begins with an assignment nor finishes an attempt. -/
def Call.goesOn : Call → Bool
  | assign _ | finish => false
  | _ => true

/-- The request hands in the recording or the attempt. -/
def Endpoint.handsIn : Endpoint → Bool
  | video _ _ | complete _ => true
  | _ => false

/-- The call waits for the answer to a request that hands in. -/
def CallState.handsIn : CallState → Bool
  | waiting (.upload _ _) | waiting .completion => true
  | _ => false

namespace Conversation

/-- The attempt is known and has begun. -/
structure UnderWay (c : Conversation) (attemptId : String) : Prop extends Sound c where
  attempt : c.attemptId = some attemptId
  begun : c.phase ≠ .idle ∧ c.phase ≠ .initializing ∧ c.phase ≠ .ready

section
variable {c : Conversation} {attemptId : String}

theorem UnderWay.reduce (underWay : c.UnderWay attemptId) {action : Action}
    (goesOn : action.startsOver = false) : (c.reduce action).UnderWay attemptId := by
  obtain ⟨sound, attempt, begun⟩ := underWay
  refine ⟨sound.reduce action, ?_, ?_⟩ <;> cases action <;>
    grind [Conversation.reduce, Action.startsOver, push, append, closeMessages, openPlaceholder,
      finishMessage, signalCompletion, fill]

theorem goesOn_startsOver {action : Action} (goesOn : action.goesOn = true) :
    action.startsOver = false := by
  cases action <;> first | rfl | cases goesOn

theorem UnderWay.foldl (underWay : c.UnderWay attemptId) {actions : List Action}
    (goOn : ∀ action ∈ actions, action.goesOn = true) :
    (actions.foldl Conversation.reduce c).UnderWay attemptId := by
  induction actions generalizing c with
  | nil => exact underWay
  | cons action rest ih =>
      obtain ⟨now, later⟩ := List.forall_mem_cons.mp goOn
      exact ih (underWay.reduce (goesOn_startsOver now)) later

/-- An attempt is completed for good, unless the conversation starts over. -/
theorem Sound.completed (sound : c.Sound) (completed : c.phase = .completed) {action : Action}
    (goesOn : action.startsOver = false) : (c.reduce action).phase = .completed := by
  have fine : c.error.isSome = false := by
    apply Bool.eq_false_iff.mpr
    intro wrong
    cases completed.symm.trans (sound.error_iff.mpr wrong)
  cases action <;>
    grind [Conversation.reduce, Action.startsOver, push, append,
      Conversation.closeMessages, finishMessage, signalCompletion]

/-- Only one action completes an attempt. -/
theorem completed_of_reduce {action : Action} (goesOn : action.goesOn = true)
    (completed : (c.reduce action).phase = .completed) : c.phase = .completed := by
  cases action <;>
    grind [Conversation.reduce, Action.goesOn, push, append, closeMessages, openPlaceholder,
      finishMessage, signalCompletion]

theorem UnderWay.completed_foldl_iff (underWay : c.UnderWay attemptId) {actions : List Action}
    (goOn : ∀ action ∈ actions, action.goesOn = true) :
    (actions.foldl Conversation.reduce c).phase = .completed ↔ c.phase = .completed := by
  induction actions generalizing c with
  | nil => exact Iff.rfl
  | cons action rest ih =>
      obtain ⟨now, later⟩ := List.forall_mem_cons.mp goOn
      have startsOver := goesOn_startsOver now
      exact (ih (underWay.reduce startsOver) later).trans
        ⟨completed_of_reduce now, fun completed => underWay.completed completed startsOver⟩

end

end Conversation

namespace Session

/-- Some call hands in. -/
def isHandingIn (s : Session) : Bool :=
  s.calls.any CallState.handsIn

/-- The recorder has devices in use. -/
def isRecording (s : Session) : Bool :=
  s.recorder.any (·.state.isActive)

/-- The conversation has changed by actions. If `beside` is set, nothing was handed in meanwhile. -/
structure Proceeds (beside : Bool) (s s' : Session) : Prop where
  acts : ∃ actions : List Action, (beside = true → ∀ action ∈ actions, action.goesOn = true) ∧
    s'.conversation = actions.foldl Conversation.reduce s.conversation
  kept : beside = true → s'.finalRecording = s.finalRecording
  recording : beside = true → s.isRecording = false → s'.isRecording = false
  sent : beside = true → ∃ more, s'.sent = s.sent ++ more ∧
    ∀ request ∈ more, request.endpoint.handsIn = false
  calls : beside = true → ∀ (id : Nat) (state : CallState), s'.calls[id]? = some state →
    state.handsIn = true → s.calls[id]? = some state

section
variable {beside : Bool} {s s' : Session}

theorem Proceeds.of_same (conversation : s'.conversation = s.conversation)
    (kept : s'.finalRecording = s.finalRecording) (recorder : s'.recorder = s.recorder)
    (sent : s'.sent = s.sent) (calls : s'.calls = s.calls) : Proceeds beside s s' where
  acts := ⟨[], fun _ => nofun, conversation⟩
  kept := fun _ => kept
  recording := fun _ off => by rwa [isRecording, recorder]
  sent := fun _ => ⟨[], by rw [sent, List.append_nil], nofun⟩
  calls := fun _ id state here _ => calls ▸ here

theorem Proceeds.refl (s : Session) : Proceeds beside s s :=
  .of_same rfl rfl rfl rfl rfl

theorem Proceeds.trans {a b c : Session} (first : Proceeds beside a b)
    (second : Proceeds beside b c) : Proceeds beside a c where
  acts := by
    obtain ⟨early, earlyGo, before⟩ := first.acts
    obtain ⟨late, lateGo, after⟩ := second.acts
    refine ⟨early ++ late, fun isBeside action member => ?_, ?_⟩
    · rcases List.mem_append.mp member with isEarly | isLate
      · exact earlyGo isBeside action isEarly
      · exact lateGo isBeside action isLate
    · rw [List.foldl_append, ← before, after]
  kept := fun isBeside => (second.kept isBeside).trans (first.kept isBeside)
  recording := fun isBeside off => second.recording isBeside (first.recording isBeside off)
  sent := fun isBeside => by
    obtain ⟨early, sentEarly, noneEarly⟩ := first.sent isBeside
    obtain ⟨late, sentLate, noneLate⟩ := second.sent isBeside
    refine ⟨early ++ late, ?_, fun request member => ?_⟩
    · rw [sentLate, sentEarly, List.append_assoc]
    · rcases List.mem_append.mp member with isEarly | isLate
      · exact noneEarly request isEarly
      · exact noneLate request isLate
  calls := fun isBeside id state here hands =>
    first.calls isBeside id state (second.calls isBeside id state here hands) hands

/-! ## What everything is made of -/

theorem proceeds_dispatch (s : Session) {action : Action}
    (goesOn : beside = true → action.goesOn = true) : Proceeds beside s (s.dispatch action) where
  acts := by
    refine ⟨[action], fun isBeside other member => ?_, conversation_dispatch s action⟩
    rw [List.mem_singleton.mp member]
    exact goesOn isBeside
  kept := fun _ => rfl
  recording := fun _ off => off
  sent := fun _ => ⟨[], (List.append_nil _).symm, nofun⟩
  calls := fun _ _ _ here _ => here

theorem proceeds_setCall (s : Session) (id : Nat) {state : CallState}
    (free : beside = true → state.handsIn = false) :
    Proceeds beside s { s with calls := s.calls.set id state } where
  acts := ⟨[], fun _ => nofun, rfl⟩
  kept := fun _ => rfl
  recording := fun _ off => off
  sent := fun _ => ⟨[], (List.append_nil _).symm, nofun⟩
  calls := by
    intro isBeside i other here hands
    rcases getElem?_set_cases here with before | rfl
    · exact before
    · cases hands.symm.trans (free isBeside)

theorem proceeds_giveBack (s : Session) (id : Nat) (result : CallResult) :
    Proceeds beside s (s.giveBack id result) :=
  proceeds_setCall s id fun _ => rfl

theorem proceeds_await (s : Session) (id : Nat) {awaiting : Awaiting}
    (free : beside = true → (CallState.waiting awaiting).handsIn = false) :
    Proceeds beside s (s.await id awaiting) :=
  proceeds_setCall s id free

theorem proceeds_send {waiter : Waiter} {endpoint : Endpoint}
    (isSent : s.send waiter endpoint = .ok s')
    (free : beside = true → endpoint.handsIn = false) : Proceeds beside s s' := by
  obtain ⟨token, -, rfl⟩ := eq_of_send isSent
  refine ⟨⟨[], fun _ => nofun, rfl⟩, fun _ => rfl, fun _ off => off, fun isBeside => ?_,
    fun _ _ _ here _ => here⟩
  refine ⟨[⟨waiter, endpoint, token⟩], rfl, fun request member => ?_⟩
  rw [List.mem_singleton.mp member]
  exact free isBeside

theorem proceeds_setSlot (s : Session) (transport : Transport) (slot : Slot) :
    Proceeds beside s (s.setSlot transport slot) := by
  cases transport <;> exact .of_same rfl rfl rfl rfl rfl

theorem proceeds_report (s : Session) (failure : Failure) :
    Proceeds beside s (s.report failure) := by
  have kept : Proceeds beside s
      { s with tokenFile := if failure.requiresLogout then none else s.tokenFile } :=
    .of_same rfl rfl rfl rfl rfl
  exact kept.trans (proceeds_dispatch _ fun _ => rfl)

theorem proceeds_failCall (s : Session) (id : Nat) (failure : Failure) :
    Proceeds beside s (s.failCall id failure) :=
  (proceeds_report s failure).trans (proceeds_giveBack _ id _)

/-! ### The recorder -/

theorem isRecording_some {r : Recorder} (here : s.recorder = some r) :
    s.isRecording = r.state.isActive := by
  rw [isRecording, here, Option.any_some]

theorem proceeds_setRecorder (s : Session) {r r' : Recorder} (here : s.recorder = some r)
    (off : beside = true → r.state.isActive = false → r'.state.isActive = false) :
    Proceeds beside s { s with recorder := some r' } where
  acts := ⟨[], fun _ => nofun, rfl⟩
  kept := fun _ => rfl
  recording := by
    intro isBeside inactive
    rw [isRecording_some here] at inactive
    exact off isBeside inactive
  sent := fun _ => ⟨[], (List.append_nil _).symm, nofun⟩
  calls := fun _ _ _ here _ => here

theorem proceeds_onRecorder (s : Session) {change : Recorder → Recorder}
    (off : ∀ r : Recorder, r.state.isActive = false → (change r).state.isActive = false) :
    Proceeds beside s (s.onRecorder change) := by
  cases here : s.recorder with
  | none =>
      have same : s.onRecorder change = s := by
        rw [onRecorder, here, Option.map_none, ← here]
      rw [same]
      exact .refl s
  | some r =>
      have changed : s.onRecorder change = { s with recorder := some (change r) } := by
        rw [onRecorder, here, Option.map_some]
      rw [changed]
      exact proceeds_setRecorder s here fun _ => off r

/-- A recording may begin. -/
theorem proceeds_prepareRecorder (s : Session) : Proceeds false s s.prepareRecorder.1 := by
  unfold prepareRecorder
  split
  · exact .refl s
  · rename_i here
    exact proceeds_setRecorder s here nofun

theorem proceeds_startRecorder (s : Session) : Proceeds false s s.startRecorder.1 := by
  unfold startRecorder
  split
  · exact .refl s
  · rename_i here
    exact proceeds_setRecorder s here nofun

theorem proceeds_takeRecording (s : Session) : Proceeds false s s.takeRecording.1 := by
  refine ⟨⟨[], nofun, ?_⟩, nofun, nofun, nofun, nofun⟩
  unfold takeRecording
  split
  · rfl
  · rfl
  · dsimp only
    split <;> rfl

/-! ## Streams -/

theorem proceeds_supersede (s : Session) (transport : Transport) :
    Proceeds beside s (s.supersede transport) := by
  unfold supersede
  dsimp only
  split
  · exact (proceeds_setSlot s transport _).trans (proceeds_dispatch _ fun _ => rfl)
  · exact .refl s

theorem proceeds_failStream (s : Session) (id : Nat) (transport : Transport) (generation : Nat)
    (failure : Failure) : Proceeds beside s (s.failStream id transport generation failure) := by
  unfold failStream
  dsimp only
  split
  · exact (proceeds_setSlot s transport _).trans (proceeds_failCall _ id failure)
  · exact proceeds_giveBack s id _

theorem proceeds_openStream (s : Session) (id : Nat) (transport : Transport) {endpoint : Endpoint}
    (free : endpoint.handsIn = false) : Proceeds beside s (s.openStream id transport endpoint) := by
  have started : Proceeds beside s (s.setSlot transport (s.slot transport).start) :=
    proceeds_setSlot s transport _
  unfold openStream
  dsimp only
  split
  · rename_i isSent
    exact (started.trans (proceeds_send isSent fun _ => free)).trans
      (proceeds_await _ id fun _ => rfl)
  · exact started.trans (proceeds_failStream _ id transport _ _)

theorem proceeds_endStream (s : Session) (id : Nat) (transport : Transport) (generation : Nat)
    (outcome : Except Failure StreamOutcome) :
    Proceeds beside s (s.endStream id transport generation outcome) := by
  match outcome with
  | .ok .cancelled => exact proceeds_giveBack s id _
  | .ok (.completed done tokens) =>
      have left : Proceeds beside s
          (s.setSlot transport ((s.slot transport).finish generation)) :=
        proceeds_setSlot s transport _
      unfold endStream
      dsimp only
      split
      · split
        · exact (left.trans (proceeds_dispatch _ fun _ => rfl)).trans (proceeds_giveBack _ id _)
        · exact left.trans (proceeds_giveBack _ id _)
      · exact left.trans (proceeds_giveBack _ id _)
  | .error failure => exact proceeds_failStream s id transport generation failure

theorem proceeds_awaitRead (s : Session) (id : Nat) (transport : Transport) (generation : Nat)
    (c : Consumption) : Proceeds beside s (s.awaitRead id transport generation c) := by
  unfold awaitRead
  split
  · exact proceeds_giveBack s id _
  · exact proceeds_await s id fun _ => rfl

theorem proceeds_takeHeaders (s : Session) (id : Nat) (transport : Transport) (generation : Nat)
    (answer : Except Failure Unit) :
    Proceeds beside s (s.takeHeaders id transport generation answer) := by
  match answer with
  | .ok () => exact proceeds_awaitRead s id transport generation {}
  | .error failure => exact proceeds_failStream s id transport generation failure

theorem proceeds_applyEvent (s : Session) (event : Event) :
    Proceeds beside s (s.applyEvent event) := by
  cases event with
  | token | done =>
      exact (proceeds_dispatch s fun _ => rfl).trans (proceeds_dispatch _ fun _ => rfl)
  | messageDone | assessmentComplete => exact proceeds_dispatch s fun _ => rfl
  | error | unknown => exact .refl s

theorem proceeds_takeFrames (transport : Transport) (generation : Nat) (c : Consumption)
    (s : Session) (frames : List Frame) :
    Proceeds beside s (Consumption.takeFrames (observer transport generation) c s frames).2 := by
  induction frames generalizing c s with
  | nil => exact .refl s
  | cons frame rest ih =>
      unfold Consumption.takeFrames
      split
      · exact .refl s
      · split
        · exact ih c s
        · exact ih c s
        · exact .refl s
        · refine Proceeds.trans ?_ (ih _ _)
          simp only [observer]
          split
          · exact proceeds_applyEvent s _
          · exact .refl s

theorem proceeds_takeRead (s : Session) (id : Nat) (transport : Transport) (generation : Nat)
    (c : Consumption) (read : Read) :
    Proceeds beside s (s.takeRead id transport generation c read) := by
  cases read with
  | bytes bytes =>
      have taken : Proceeds beside s _ := proceeds_takeFrames transport generation
        { c with reader := (c.reader.feed bytes).2 } s (c.reader.feed bytes).1
      rw [takeRead_bytes]
      unfold takeRest
      split
      · rename_i c' s' took
        rw [took] at taken
        exact taken.trans (proceeds_awaitRead s' id transport generation c')
      · rename_i outcome s' took
        rw [took] at taken
        exact taken.trans (proceeds_endStream s' id transport generation outcome)
  | failure detail => exact proceeds_failStream s id transport generation _
  | ended => exact proceeds_endStream s id transport generation _

theorem proceeds_takeReadOf (s : Session) (id : Nat) (read : Read) :
    Proceeds beside s (s.takeReadOf id read) := by
  unfold takeReadOf
  split
  · exact proceeds_takeRead s id _ _ _ read
  · exact .refl s

/-! ## The pump -/

theorem proceeds_pump : KeptByPump (Proceeds beside) where
  trans := .trans
  setPump := fun _ _ => .of_same rfl rfl rfl rfl rfl
  limit := fun _ => .of_same rfl rfl rfl rfl rfl
  report := proceeds_report
  send := fun isSent => proceeds_send isSent fun _ => rfl

/-! ## Calls -/

theorem proceeds_withCall (s : Session) : Proceeds beside s s.withCall where
  acts := ⟨[], fun _ => nofun, rfl⟩
  kept := fun _ => rfl
  recording := fun _ off => off
  sent := fun _ => ⟨[], (List.append_nil _).symm, nofun⟩
  calls := by
    intro _ id state here hands
    rw [withCall] at here
    rcases Nat.lt_or_ge id s.calls.length with old | new
    · rwa [List.getElem?_append_left old] at here
    · rw [List.getElem?_append_right new] at here
      rw [List.mem_singleton.mp (List.mem_of_getElem? here)] at hands
      cases hands

theorem proceeds_acquireDevices (s : Session) (id : Nat) :
    Proceeds false s (s.acquireDevices id) := by
  have prepared := proceeds_prepareRecorder s
  unfold acquireDevices
  split
  · rename_i isPrepared
    rw [isPrepared] at prepared
    exact prepared.trans (proceeds_failCall _ id _)
  · rename_i isPrepared
    rw [isPrepared] at prepared
    exact (prepared.trans (proceeds_dispatch _ (by nofun))).trans (proceeds_giveBack _ id _)

/-- While an attempt is under way the devices are not asked for, so no recording begins. -/
theorem proceeds_grantPermissions (s : Session) (id : Nat)
    (underWay : beside = true → ∃ attemptId, s.conversation.UnderWay attemptId) :
    Proceeds beside s (s.grantPermissions id) := by
  cases beside with
  | true =>
      obtain ⟨attemptId, underWay⟩ := underWay rfl
      have known := underWay.attempt
      have begun := underWay.begun.2.1
      have refuses : s.grantPermissions id =
          s.refuse id (wrongPhase "cannot grant permissions" s.conversation.phase) := by
        simp [grantPermissions, known, begun]
      rw [refuses]
      exact proceeds_giveBack s id _
  | false =>
      unfold grantPermissions
      dsimp only
      split
      · exact proceeds_acquireDevices s id
      · split
        · split
          · exact proceeds_giveBack s id _
          · exact (proceeds_dispatch s (by simp)).trans (proceeds_acquireDevices _ id)
        · exact proceeds_giveBack s id _

theorem canStart_underWay {attemptId : String} (underWay : s.conversation.UnderWay attemptId) :
    canStart s.conversation.phase = false := by
  simp [canStart, underWay.begun]

theorem proceeds_start (s : Session) (id : Nat)
    (underWay : beside = true → ∃ attemptId, s.conversation.UnderWay attemptId) :
    Proceeds beside s (s.start id) := by
  cases beside with
  | true =>
      obtain ⟨attemptId, underWay⟩ := underWay rfl
      unfold start
      simp only [canStart_underWay underWay, Bool.not_false, if_true]
      exact proceeds_giveBack s id _
  | false =>
      unfold start
      dsimp only
      split
      · exact proceeds_giveBack s id _
      · split
        · exact proceeds_giveBack s id _
        · have started := (proceeds_dispatch s (by nofun)).trans
            (proceeds_startRecorder (s.dispatch (.startAssessment none none s.wallClock)))
          split
          · rename_i isStarted
            rw [isStarted] at started
            exact started.trans (proceeds_failCall _ id _)
          · rename_i isStarted
            rw [isStarted] at started
            exact started.trans (proceeds_openStream _ id .response rfl)

theorem proceeds_startExisting (s : Session) (id : Nat) (attemptId objectiveTitle : String)
    (underWay : beside = true → ∃ attemptId, s.conversation.UnderWay attemptId) :
    Proceeds beside s (s.startExisting id attemptId objectiveTitle) := by
  cases beside with
  | true =>
      obtain ⟨attemptId, underWay⟩ := underWay rfl
      unfold startExisting
      simp only [canStart_underWay underWay, Bool.not_false, if_true]
      exact proceeds_giveBack s id _
  | false =>
      unfold startExisting
      dsimp only
      split
      · exact proceeds_giveBack s id _
      · have started := (proceeds_dispatch s (by nofun)).trans (proceeds_startRecorder
          (s.dispatch (.startAssessment (some attemptId) (some objectiveTitle) s.wallClock)))
        split
        · rename_i isStarted
          rw [isStarted] at started
          exact started.trans (proceeds_failCall _ id _)
        · rename_i isStarted
          rw [isStarted] at started
          exact started.trans (proceeds_giveBack _ id _)

theorem proceeds_streamReply (s : Session) (id : Nat) (content : String) :
    Proceeds beside s (s.streamReply id content) := by
  have begun : Proceeds beside s (s.dispatch .beginInterviewerMessage) :=
    proceeds_dispatch s fun _ => rfl
  unfold streamReply
  dsimp only
  split
  · exact begun.trans (proceeds_failCall _ id _)
  · exact begun.trans (proceeds_openStream _ id .response rfl)

theorem proceeds_sendMessage (s : Session) (id : Nat) (content : String) :
    Proceeds beside s (s.sendMessage id content) := by
  have superseded : Proceeds beside s (s.supersede .response) := proceeds_supersede s .response
  unfold sendMessage
  dsimp only
  split
  · exact proceeds_giveBack s id _
  · split
    · have said : Proceeds beside s ((s.supersede .response).dispatch (.sendMessage content)) :=
        superseded.trans (proceeds_dispatch _ fun _ => rfl)
      refine Proceeds.trans ?_ (proceeds_streamReply _ id content)
      exact said.trans (.of_same rfl rfl rfl rfl rfl)
    · exact superseded.trans (proceeds_giveBack _ id _)

theorem proceeds_retryStart (s : Session) (id : Nat)
    (underWay : beside = true → ∃ attemptId, s.conversation.UnderWay attemptId) :
    Proceeds beside s (s.retryStart id) := by
  unfold retryStart
  dsimp only
  split
  · exact (proceeds_dispatch s fun _ => rfl).trans (proceeds_giveBack _ id _)
  · rename_i unknown
    cases beside with
    | true =>
        obtain ⟨attemptId, underWay⟩ := underWay rfl
        rw [underWay.attempt] at unknown
        exact absurd rfl unknown
    | false =>
        split
        · exact proceeds_grantPermissions s id nofun
        · split
          · exact proceeds_giveBack s id _
          · exact ((proceeds_dispatch s (by nofun)).trans (proceeds_dispatch _ (by nofun))).trans
              (proceeds_start _ id (by nofun))

theorem proceeds_retry (s : Session) (id : Nat)
    (underWay : beside = true → ∃ attemptId, s.conversation.UnderWay attemptId) :
    Proceeds beside s (s.retry id) := by
  unfold retry
  dsimp only
  split
  · exact proceeds_giveBack s id _
  · split
    · exact proceeds_retryStart s id underWay
    · have cleared : Proceeds beside s (s.dispatch .clearError) := proceeds_dispatch s fun _ => rfl
      split
      · exact cleared.trans (proceeds_streamReply _ id _)
      · exact cleared.trans (proceeds_giveBack _ id _)

theorem proceeds_followEvents (s : Session) (id : Nat) :
    Proceeds beside s (s.followEvents id) := by
  unfold followEvents
  split
  · exact proceeds_giveBack s id _
  · exact proceeds_openStream s id .eventSource rfl

theorem proceeds_abandon (s : Session) : Proceeds beside s s.abandon :=
  ((proceeds_supersede s .response).trans (proceeds_supersede _ .eventSource)).trans
    (proceeds_onRecorder _ fun r _ => Recorder.inactive_abandon r)

/-! ### Handing in -/

theorem proceeds_sendCompletion (s : Session) (id : Nat) (attemptId : String) :
    Proceeds false s (s.sendCompletion id attemptId) := by
  unfold sendCompletion
  split
  · rename_i isSent
    exact (proceeds_send isSent (by nofun)).trans (proceeds_await _ id (by nofun))
  · exact proceeds_failCall s id _

theorem proceeds_failUpload (s : Session) (id : Nat) (recording : Blob) (failure : Failure) :
    Proceeds false s (s.failUpload id recording failure) := by
  have keeps : Proceeds false s { s with finalRecording := some recording } :=
    ⟨⟨[], nofun, rfl⟩, nofun, nofun, nofun, nofun⟩
  exact keeps.trans (proceeds_failCall _ id failure)

theorem proceeds_finish (s : Session) (id : Nat) : Proceeds false s (s.finish id) := by
  unfold finish
  dsimp only
  split
  · exact proceeds_giveBack s id _
  · split
    · exact proceeds_failCall s id _
    · rename_i attemptId _
      have closed : Proceeds false s ((s.supersede .response).supersede .eventSource) :=
        (proceeds_supersede s .response).trans (proceeds_supersede _ .eventSource)
      have begun : Proceeds false s
          (((s.supersede .response).supersede .eventSource).dispatch .beginCompletion) :=
        closed.trans (proceeds_dispatch _ nofun)
      have taken := begun.trans (proceeds_takeRecording _)
      split
      · rename_i took
        rw [took] at taken
        exact taken.trans (proceeds_sendCompletion _ id attemptId)
      · rename_i took
        rw [took] at taken
        split
        · rename_i isSent
          exact (taken.trans (proceeds_send isSent (by nofun))).trans (proceeds_await _ id (by nofun))
        · exact taken.trans (proceeds_failUpload _ id _ _)

theorem proceeds_assign (s : Session) (assignmentId : String) :
    Proceeds false s (s.assign assignmentId) := by
  refine ⟨⟨[.assign assignmentId], nofun, ?_⟩, nofun, nofun, nofun, nofun⟩
  exact conversation_dispatch _ (.assign assignmentId)

theorem proceeds_runCall (s : Session) (id : Nat) {call : Call}
    (goesOn : beside = true → call.goesOn = true)
    (underWay : beside = true → ∃ attemptId, s.conversation.UnderWay attemptId) :
    Proceeds beside s (s.runCall id call) := by
  cases call with
  | assign assignmentId =>
      cases beside with
      | true => cases goesOn rfl
      | false => exact (proceeds_assign s assignmentId).trans (proceeds_giveBack _ id _)
  | finish =>
      cases beside with
      | true => cases goesOn rfl
      | false => exact proceeds_finish s id
  | grantPermissions => exact proceeds_grantPermissions s id underWay
  | start => exact proceeds_start s id underWay
  | startExisting attemptId title => exact proceeds_startExisting s id attemptId title underWay
  | sendMessage content => exact proceeds_sendMessage s id content
  | retry => exact proceeds_retry s id underWay
  | clearError | continueAfterClosure =>
      exact (proceeds_dispatch s fun _ => rfl).trans (proceeds_giveBack _ id _)
  | followEvents => exact proceeds_followEvents s id
  | pauseRecording =>
      exact (proceeds_onRecorder s fun _ => Recorder.inactive_pause).trans
        (proceeds_giveBack _ id _)
  | resumeRecording =>
      exact (proceeds_onRecorder s fun _ => Recorder.inactive_resume).trans
        (proceeds_giveBack _ id _)
  | setVisibility visibility =>
      exact (proceeds_onRecorder s fun _ off =>
        Recorder.inactive_setVisibility off visibility).trans (proceeds_giveBack _ id _)
  | abandon => exact (proceeds_abandon s).trans (proceeds_giveBack _ id _)

/-! ## A step -/

/-- Neither does a call begin, nor does the host change the conversation. -/
def Stimulus.isPassive : Stimulus → Bool
  | .call _ | .dispatch _ => false
  | _ => true

/-- The stimulus neither begins with an assignment nor hands in, and the host leaves the
    conversation alone. -/
def goesOn (s : Session) : Stimulus → Bool
  | .call call => call.goesOn
  | .answer id _ => !(s.calls[id]?.any CallState.handsIn)
  | .dispatch _ => false
  | _ => true

theorem proceeds_takeAnswer (s : Session) (id : Nat) (answer : Answer)
    (goesOn : beside = true → s.goesOn (.answer id answer) = true) :
    Proceeds beside s (s.takeAnswer id answer) := by
  unfold takeAnswer
  split
  · exact proceeds_takeHeaders s id _ _ _
  · rename_i here
    cases beside with
    | true => simp [Session.goesOn, here, CallState.handsIn] at goesOn
    | false =>
        unfold takeUploaded
        split
        · exact proceeds_sendCompletion s id _
        · exact proceeds_failUpload s id _ _
  · rename_i here
    cases beside with
    | true => simp [Session.goesOn, here, CallState.handsIn] at goesOn
    | false =>
        unfold takeCompleted
        split
        · exact (proceeds_dispatch s (by nofun)).trans (proceeds_giveBack _ id _)
        · exact proceeds_failCall s id _
  · exact .refl s

theorem proceeds_releaseCancelled (s : Session) : Proceeds beside s s.releaseCancelled where
  acts := ⟨[], fun _ => nofun, rfl⟩
  kept := fun _ => rfl
  recording := fun _ off => off
  sent := fun _ => ⟨[], (List.append_nil _).symm, nofun⟩
  calls := by
    intro _ id state here hands
    rcases getElem?_of_releaseCancelled s here with before | rfl
    · exact before
    · cases hands

theorem proceeds_settle (s : Session) : Proceeds beside s s.settle :=
  (proceeds_onRecorder s fun _ => Recorder.inactive_settle).trans (proceeds_releaseCancelled _)

theorem proceeds_step (s : Session) (stimulus : Stimulus)
    (goesOn : beside = true → s.goesOn stimulus = true)
    (underWay : beside = true → stimulus.isPassive = false →
      ∃ attemptId, s.conversation.UnderWay attemptId) :
    Proceeds beside s (s.step stimulus) := by
  refine Proceeds.trans ?_ (proceeds_settle _)
  cases stimulus with
  | call call =>
      exact (proceeds_withCall s).trans
        (proceeds_runCall _ s.nextCall goesOn fun isBeside => underWay isBeside rfl)
  | answer id answer => exact proceeds_takeAnswer s id answer goesOn
  | read id read => exact proceeds_takeReadOf s id read
  | uploaded answer => exact proceeds_pump.takePumpAnswer s
  | pump => exact proceeds_pump.takeEvents s _
  | elapse ms => exact proceeds_onRecorder s fun _ off => Recorder.inactive_elapse off ms
  | dispatch action =>
      cases beside with
      | true => cases goesOn rfl
      | false => exact proceeds_dispatch s (by nofun)
  | setToken token => exact .of_same rfl rfl rfl rfl rfl
  | setOutcome outcome => exact proceeds_onRecorder s fun _ off => off

/-- The conversation of every run is sound. -/
theorem sound_run (sound : s.conversation.Sound) (stimuli : List Stimulus) :
    (s.run stimuli).conversation.Sound := by
  induction stimuli generalizing s with
  | nil => exact sound
  | cons stimulus rest ih =>
      have proceeds : Proceeds false s (s.step stimulus) := proceeds_step s stimulus nofun nofun
      obtain ⟨actions, -, changed⟩ := proceeds.acts
      refine ih ?_
      rw [changed]
      exact sound.foldl actions

end

end Session

end Viva
