import Viva.Proofs.Session.Closing

/-! # Completing an attempt

It may take several calls until an attempt is completed. The recorder gives the recording out once;
it is kept until an upload of it succeeds, and after that only the notice that the attempt is over is
sent again. So between two calls the attempt rests (`Resting`), or one call hands it in (`Handing`),
and what that call waits for says how far it has come.
-/

namespace Viva

namespace CallState

def awaitsUpload : CallState → Bool
  | waiting (.upload _ _) => true
  | _ => false

def awaitsCompletion : CallState → Bool
  | waiting .completion => true
  | _ => false

end CallState

namespace Conversation

/-- It has ended with this failure, and says so. -/
def Tells (c : Conversation) (failure : Failure) : Prop :=
  c.phase = .error ∧ c.error = some failure.learnerMessage

theorem tells_setError {c : Conversation} (notOver : c.phase ≠ .completed) (failure : Failure) :
    (c.reduce (.setError failure.learnerMessage)).Tells failure := by
  simp [Tells, reduce, notOver]

end Conversation

namespace Session

open Conversation

/-! ## What happens in a run -/

/-- It happens at some stimulus of the run. -/
def occurs (happens : Session → Stimulus → Bool) (s : Session) : List Stimulus → Bool
  | [] => false
  | stimulus :: rest => happens s stimulus || occurs happens (s.step stimulus) rest

/-- It holds at every stimulus of the run. -/
def throughout (holds : Session → Stimulus → Bool) (s : Session) : List Stimulus → Bool
  | [] => true
  | stimulus :: rest => holds s stimulus && throughout holds (s.step stimulus) rest

/-- The server has the recording. -/
def uploads (s : Session) : Stimulus → Bool
  | .answer id answer => s.calls[id]?.any CallState.awaitsUpload && answer.check.isOk
  | _ => false

/-- The server has taken note that the attempt is over. -/
def completes (s : Session) : Stimulus → Bool
  | .answer id answer => s.calls[id]?.any CallState.awaitsCompletion && answer.check.isOk
  | _ => false

/-- Calls that hand in come one after the other, no assignment begins, and the host leaves the
    conversation alone. -/
def takesTurn (s : Session) : Stimulus → Bool
  | .call .finish => !s.isHandingIn
  | .call (.assign _) | .dispatch _ => false
  | _ => true

/-- While a call hands in no other begins, and the learner is told of no fault. -/
def leavesAlone (s : Session) (stimulus : Stimulus) : Bool :=
  !s.isHandingIn || stimulus.isPassive && !(stimulus == .pump && s.tellsFault s.untaken)

/-- What was sent meanwhile to hand in fits. -/
def Sends (s : Session) (fits : Endpoint → Prop) (s' : Session) : Prop :=
  ∃ more, s'.sent = s.sent ++ more ∧
    ∀ request ∈ more, request.endpoint.handsIn = true → fits request.endpoint

section
variable {s t u : Session} {fits : Endpoint → Prop}

theorem sends_refl (s : Session) : s.Sends fits s :=
  ⟨[], (List.append_nil _).symm, nofun⟩

theorem Sends.trans (first : s.Sends fits t) (second : t.Sends fits u) : s.Sends fits u := by
  obtain ⟨early, sentEarly, fitsEarly⟩ := first
  obtain ⟨late, sentLate, fitsLate⟩ := second
  refine ⟨early ++ late, ?_, fun request member => ?_⟩
  · rw [sentLate, sentEarly, List.append_assoc]
  · rcases List.mem_append.mp member with isEarly | isLate
    · exact fitsEarly request isEarly
    · exact fitsLate request isLate

theorem Sends.mono {others : Endpoint → Prop} (sends : s.Sends fits t)
    (also : ∀ endpoint, fits endpoint → others endpoint) : s.Sends others t := by
  obtain ⟨more, sent, all⟩ := sends
  exact ⟨more, sent, fun request member hands => also _ (all request member hands)⟩

theorem Proceeds.sends (proceeds : Proceeds true s t) : s.Sends fits t := by
  obtain ⟨more, sent, none⟩ := proceeds.sent rfl
  refine ⟨more, sent, fun request member hands => ?_⟩
  cases (none request member).symm.trans hands

theorem Requests.sends {id : Nat} {endpoint : Endpoint} {awaiting : Awaiting}
    (requests : s.Requests id endpoint awaiting t) : s.Sends (· = endpoint) t := by
  obtain ⟨token, -, sent⟩ := requests.sent
  refine ⟨_, sent, fun request member _ => ?_⟩
  rw [List.mem_singleton.mp member]

theorem sends_of_same (sent : t.sent = s.sent) : s.Sends fits t :=
  ⟨[], sent.trans (List.append_nil _).symm, nofun⟩

end

/-! ## How far it has come -/

/-- What still has to be uploaded. -/
def unsent (recording : Blob) (uploaded : Bool) : Option Blob :=
  if uploaded then none else some recording

theorem handIn_unsent (attemptId : String) (recording : Blob) (uploaded : Bool) :
    Endpoint.handIn attemptId (unsent recording uploaded) =
      if uploaded then .complete attemptId else .video attemptId recording := by
  cases uploaded <;> rfl

/-- No call hands in. The recording is kept until the server has it. -/
structure Resting (attemptId : String) (recording : Blob) (uploaded done fine : Bool)
    (s : Session) : Prop where
  underWay : s.conversation.UnderWay attemptId
  off : s.isRecording = false
  kept : s.finalRecording = unsent recording uploaded
  nobody : s.isHandingIn = false
  completed : s.conversation.phase = .completed → done = true
  onceDone : fine = true → done = true → s.conversation.phase = .completed

/-- One call hands in at most, and it has the recording if there is still one to upload. If all is
    fine, the attempt is not completed yet, and nothing else reaches the conversation. -/
structure Handing (attemptId : String) (done fine : Bool) (id : Nat) (s : Session) : Prop where
  underWay : s.conversation.UnderWay attemptId
  off : s.isRecording = false
  taken : s.finalRecording = none
  alone : ∀ (other : Nat) (state : CallState), s.calls[other]? = some state →
    state.handsIn = true → other = id
  notOver : s.conversation.phase ≠ .completed
  calm : fine = true → done = false ∧ s.Vacant ∧ s.conversation.phase = .completing

/-- Between two calls the attempt rests; otherwise a call waits for its answer. -/
inductive Progress (attemptId : String) (recording : Blob) (uploaded done fine : Bool)
    (s : Session) : Prop where
  | rests (resting : Resting attemptId recording uploaded done fine s)
  | waits (id : Nat) (handing : Handing attemptId done fine id s)
      (here : s.calls[id]? = some (.waiting (.handIn attemptId (unsent recording uploaded))))

section
variable {s t : Session} {attemptId : String} {recording : Blob}
  {uploaded done fine still : Bool} {id : Nat}

theorem isHandingIn_of_handsIn {state : CallState} (here : s.calls[id]? = some state)
    (hands : state.handsIn = true) : s.isHandingIn = true :=
  List.any_eq_true.mpr ⟨state, List.mem_of_getElem? here, hands⟩

theorem isHandingIn_eq_false_iff : s.isHandingIn = false ↔
    ∀ (id : Nat) (state : CallState), s.calls[id]? = some state → state.handsIn = false := by
  constructor
  · intro nobody id state here
    rw [Bool.eq_false_iff]
    intro hands
    cases nobody.symm.trans (isHandingIn_of_handsIn here hands)
  · intro nobody
    rw [isHandingIn, List.any_eq_false]
    intro state member hands
    obtain ⟨id, here⟩ := List.getElem?_of_mem member
    cases (nobody id state here).symm.trans hands

/-! ### What goes on beside -/

theorem Proceeds.nobody (proceeds : Proceeds true s t) (nobody : s.isHandingIn = false) :
    t.isHandingIn = false := by
  rw [isHandingIn_eq_false_iff]
  intro id state here
  rw [Bool.eq_false_iff]
  intro hands
  have before := proceeds.calls rfl id state here hands
  cases (isHandingIn_eq_false_iff.mp nobody id state before).symm.trans hands

theorem Proceeds.underWay (proceeds : Proceeds true s t)
    (underWay : s.conversation.UnderWay attemptId) :
    t.conversation.UnderWay attemptId ∧
      (t.conversation.phase = .completed ↔ s.conversation.phase = .completed) := by
  obtain ⟨actions, goOn, changed⟩ := proceeds.acts
  rw [changed]
  exact ⟨underWay.foldl (goOn rfl), underWay.completed_foldl_iff (goOn rfl)⟩

theorem Resting.beside (resting : Resting attemptId recording uploaded done fine s)
    (proceeds : Proceeds true s t) (less : still = true → fine = true) :
    Resting attemptId recording uploaded done still t := by
  obtain ⟨underWay, same⟩ := proceeds.underWay resting.underWay
  exact ⟨underWay, proceeds.recording rfl resting.off, (proceeds.kept rfl).trans resting.kept,
    proceeds.nobody resting.nobody, fun isOver => resting.completed (same.mp isOver),
    fun isStill isDone => same.mpr (resting.onceDone (less isStill) isDone)⟩

theorem Handing.beside (handing : Handing attemptId done fine id s) (proceeds : Proceeds true s t)
    (calm : still = true → done = false ∧ t.Vacant ∧ t.conversation.phase = .completing) :
    Handing attemptId done still id t := by
  obtain ⟨underWay, same⟩ := proceeds.underWay handing.underWay
  exact ⟨underWay, proceeds.recording rfl handing.off, (proceeds.kept rfl).trans handing.taken,
    fun other state here hands =>
      handing.alone other state (proceeds.calls rfl other state here hands) hands,
    fun isOver => handing.notOver (same.mp isOver), calm⟩

theorem Handing.settle (handing : Handing attemptId done fine id s) :
    Handing attemptId done fine id s.settle := by
  have settled := untouched_settle s
  refine handing.beside (proceeds_settle s) fun isFine => ?_
  obtain ⟨notDone, vacant, completing⟩ := handing.calm isFine
  refine ⟨notDone, fun transport => ?_, ?_⟩
  · rw [settled.slot]
    exact vacant transport
  · rw [settled.conversation]
    exact completing

theorem Progress.underWay (progress : Progress attemptId recording uploaded done fine s) :
    s.conversation.UnderWay attemptId := by
  cases progress with
  | rests resting => exact resting.underWay
  | waits id handing here => exact handing.underWay

theorem Progress.notOver (progress : Progress attemptId recording uploaded done fine s)
    (handing : s.isHandingIn = true) : s.conversation.phase ≠ .completed := by
  cases progress with
  | rests resting => cases resting.nobody.symm.trans handing
  | waits id handing here => exact handing.notOver

theorem Progress.completed (progress : Progress attemptId recording uploaded done fine s)
    (completed : s.conversation.phase = .completed) : done = true := by
  cases progress with
  | rests resting => exact resting.completed completed
  | waits id handing here => exact absurd completed handing.notOver

theorem Progress.onceDone (progress : Progress attemptId recording uploaded true true s) :
    s.conversation.phase = .completed := by
  cases progress with
  | rests resting => exact resting.onceDone rfl rfl
  | waits id handing here => cases (handing.calm rfl).1

theorem Progress.proceeds (progress : Progress attemptId recording uploaded done fine s)
    {stimulus : Stimulus} (goesOn : s.goesOn stimulus = true) :
    Proceeds true s (s.step stimulus) :=
  proceeds_step s stimulus (fun _ => goesOn) fun _ _ => ⟨attemptId, progress.underWay⟩

/-- Whatever goes on beside leaves it as far as it has come. -/
theorem Progress.goesOn (progress : Progress attemptId recording uploaded done fine s)
    {stimulus : Stimulus} (goesOn : s.goesOn stimulus = true) :
    Progress attemptId recording uploaded done (fine && s.leavesAlone stimulus)
      (s.step stimulus) := by
  have proceeds := progress.proceeds goesOn
  cases progress with
  | rests resting =>
      refine .rests (resting.beside proceeds ?_)
      exact fun both => (Bool.and_eq_true_iff.mp both).1
  | waits id handing here =>
      have hands := handsIn_handIn attemptId (unsent recording uploaded)
      have stays := handsIn_step here hands (foreign_of_goesOn here hands goesOn)
      refine .waits id (handing.beside proceeds fun both => ?_) stays
      -- A call waits, so nothing begins and no fault is told: the conversation stays as it is.
      obtain ⟨isFine, alone⟩ := Bool.and_eq_true_iff.mp both
      obtain ⟨notDone, vacant, completing⟩ := handing.calm isFine
      rw [leavesAlone, isHandingIn_of_handsIn here hands, Bool.not_true, Bool.false_or,
        Bool.and_eq_true, Bool.not_eq_true'] at alone
      obtain ⟨slots, same⟩ := vacant.untouched alone.1 goesOn alone.2
      refine ⟨notDone, fun transport => ?_, ?_⟩
      · rw [slots]
        exact vacant transport
      · rw [same]
        exact completing

/-! ### Requests and failures -/

theorem Requests.progress {endpoint : Endpoint}
    (requests : s.Requests id endpoint (.handIn attemptId (unsent recording uploaded)) t)
    (handing : Handing attemptId done fine id s) (inside : id < s.calls.length) :
    Progress attemptId recording uploaded done fine t.settle := by
  have asks : Handing attemptId done fine id t := by
    refine ⟨?_, ?_, requests.kept.trans handing.taken, ?_, ?_, ?_⟩
    · rw [requests.conversation]
      exact handing.underWay
    · rw [isRecording, requests.recorder]
      exact handing.off
    · intro other state here hands
      rw [requests.calls] at here
      by_cases same : id = other
      · exact same.symm
      · rw [List.getElem?_set_ne same] at here
        exact handing.alone other state here hands
    · rw [requests.conversation]
      exact handing.notOver
    · intro isFine
      obtain ⟨notDone, vacant, completing⟩ := handing.calm isFine
      refine ⟨notDone, fun transport => ?_, ?_⟩
      · rw [requests.slot]
        exact vacant transport
      · rw [requests.conversation]
        exact completing
  exact .waits id asks.settle (requests.waits inside (handsIn_handIn attemptId _))

/-- The call has returned, so nobody hands in. -/
theorem Handing.nobody (handing : Handing attemptId done fine id s) {result : CallResult}
    (calls : t.calls = s.calls.set id (.returned result)) : t.isHandingIn = false := by
  rw [isHandingIn_eq_false_iff]
  intro other state here
  rw [calls] at here
  by_cases same : id = other
  · subst same
    obtain ⟨inside, value⟩ := List.getElem?_eq_some_iff.mp here
    rw [← value, List.getElem_set_self]
    rfl
  · rw [List.getElem?_set_ne same] at here
    rw [Bool.eq_false_iff]
    intro hands
    exact same (handing.alone other state here hands).symm

theorem Fails.progress {failure : Failure}
    (fails : s.Fails id (unsent recording uploaded) failure t)
    (handing : Handing attemptId done fine id s) :
    Progress attemptId recording uploaded done fine t.settle := by
  have closes := fails.conversation
  obtain ⟨error, -⟩ := tells_setError handing.notOver failure
  rw [← closes] at error
  have failed : Resting attemptId recording uploaded done fine t := by
    refine ⟨?_, ?_, fails.kept, handing.nobody fails.calls, ?_, ?_⟩
    · rw [closes]
      exact handing.underWay.reduce rfl
    · rw [isRecording, fails.recorder]
      exact handing.off
    · intro completed
      cases error.symm.trans completed
    · intro isFine isDone
      cases (handing.calm isFine).1.symm.trans isDone
  exact .rests (failed.beside (proceeds_settle t) fun isFine => isFine)

/-! ### The answers -/

theorem leavesAlone_answer (s : Session) (id : Nat) (answer : Answer) :
    s.leavesAlone (.answer id answer) = true :=
  Bool.or_true _

/-- The server has answered the upload. -/
theorem Handing.answer_upload (handing : Handing attemptId done fine id s)
    (here : s.calls[id]? = some (.waiting (.upload attemptId recording))) (answer : Answer) :
    Progress attemptId recording answer.check.isOk done fine (s.step (.answer id answer)) ∧
      s.Sends (· = .handIn attemptId (unsent recording answer.check.isOk))
        (s.step (.answer id answer)) := by
  obtain ⟨inside, -⟩ := List.getElem?_eq_some_iff.mp here
  have settles : Proceeds true (s.react (.answer id answer)) (s.step (.answer id answer)) :=
    proceeds_settle _
  rcases Session.answer_upload here answer with
    ⟨ok, requests | ⟨failure, -, fails⟩⟩ | ⟨failure, wrong, fails⟩
  · rw [ok]
    exact ⟨requests.progress handing inside, requests.sends.trans settles.sends⟩
  · rw [ok]
    rw [handing.taken] at fails
    exact ⟨fails.progress handing, (sends_of_same fails.sent).trans settles.sends⟩
  · rw [wrong]
    exact ⟨fails.progress handing, (sends_of_same fails.sent).trans settles.sends⟩

/-- The server has answered that the attempt is over. -/
theorem Handing.answer_completion (handing : Handing attemptId done fine id s)
    (here : s.calls[id]? = some (.waiting .completion)) (answer : Answer) :
    Progress attemptId recording true (done || answer.check.isOk) fine
        (s.step (.answer id answer)) ∧
      s.Sends (· = .complete attemptId) (s.step (.answer id answer)) := by
  have settles : Proceeds true (s.react (.answer id answer)) (s.step (.answer id answer)) :=
    proceeds_settle _
  rcases Session.answer_completion here answer with ⟨ok, succeeds⟩ | ⟨failure, wrong, fails⟩
  · have closes : (s.react (.answer id answer)).conversation =
        s.conversation.reduce (.completeAssessment s.wallClock) := by
      rw [succeeds]
      exact conversation_dispatch s _
    have rests : Resting attemptId recording true (done || answer.check.isOk) fine
        (s.react (.answer id answer)) := by
      refine ⟨?_, ?_, ?_, handing.nobody (by rw [succeeds]; rfl), fun _ => ?_, fun isFine _ => ?_⟩
      · rw [closes]
        exact handing.underWay.reduce rfl
      · rw [succeeds]
        exact handing.off
      · rw [succeeds]
        exact handing.taken
      · rw [ok]
        exact Bool.or_true done
      · obtain ⟨-, -, completing⟩ := handing.calm isFine
        rw [closes]
        simp [reduce, completing]
    refine ⟨.rests (rests.beside settles fun isFine => isFine), Sends.trans ?_ settles.sends⟩
    rw [succeeds]
    exact sends_of_same rfl
  · rw [handing.taken] at fails
    rw [wrong]
    refine ⟨?_, (sends_of_same fails.sent).trans settles.sends⟩
    have progress : Progress attemptId recording true done fine (s.step (.answer id answer)) :=
      fails.progress handing
    rwa [show (done || (Except.error failure : Except Failure Unit).isOk) = done from
      Bool.or_false done]

/-! ### A call that finishes -/

/-- A call that finishes the attempt now takes what is due, and leaves nothing. -/
structure HandsOver (s : Session) (due : Option Blob) : Prop where
  took : s.withCall.closing.takeRecording.2 = due
  taken : s.withCall.closing.takeRecording.1.finalRecording = none
  off : s.withCall.closing.takeRecording.1.isRecording = false

theorem progress_of_finish (underWay : s.conversation.UnderWay attemptId)
    (can : s.canFinish = true) (nobody : s.isHandingIn = false)
    (notDone : fine = true → done = false) (handsOver : s.HandsOver (unsent recording uploaded)) :
    Progress attemptId recording uploaded done fine (s.step (.call .finish)) ∧
      s.Sends (· = .handIn attemptId (unsent recording uploaded)) (s.step (.call .finish)) := by
  have begun : Proceeds true s s.withCall.closing :=
    (proceeds_withCall s).trans (proceeds_closing _)
  have closed := untouched_takeRecording s.withCall.closing
  have can' : s.withCall.canFinish = true := can
  obtain ⟨completing, -⟩ := conversation_closing can'
  rw [← closed.conversation] at completing
  obtain ⟨calls, unchanged, -⟩ := handedOver_keeps s.withCall
  have sent : s.withCall.closing.takeRecording.1.sent = s.sent := unchanged
  have inside : s.nextCall < s.withCall.closing.takeRecording.1.calls.length := by
    rw [calls]
    simp [withCall, nextCall]
  -- Nothing is sent yet, so the call hands in before it waits for an answer.
  have handing : Handing attemptId done fine s.nextCall s.withCall.closing.takeRecording.1 := by
    refine ⟨?_, handsOver.off, handsOver.taken, ?_, ?_,
      fun isFine => ⟨notDone isFine, fun transport => ?_, completing⟩⟩
    · rw [closed.conversation]
      exact (begun.underWay underWay).1
    · intro other state here hands
      rw [calls] at here
      have before := (proceeds_withCall s).calls rfl other state here hands
      cases (isHandingIn_eq_false_iff.mp nobody other state before).symm.trans hands
    · rw [completing]
      decide
    · rw [closed.slot]
      exact vacant_closing _ transport
  have settles : Proceeds true (s.withCall.finish s.nextCall) (s.step (.call .finish)) :=
    proceeds_settle _
  have requests := finish_requests can' underWay.attempt s.nextCall
  dsimp only at requests
  rw [handsOver.took, handsOver.taken, Option.or_none] at requests
  rcases requests with requests | ⟨failure, -, fails⟩
  · exact ⟨requests.progress handing inside,
      ((sends_of_same sent).trans requests.sends).trans settles.sends⟩
  · exact ⟨fails.progress handing,
      ((sends_of_same sent).trans (sends_of_same fails.sent)).trans settles.sends⟩

/-- With a token what is due is sent. -/
theorem sent_of_finish {due : Option Blob} (handsOver : s.HandsOver due) (can : s.canFinish = true)
    (identified : s.conversation.attemptId = some attemptId) {token : String}
    (signedIn : s.token? = some token) :
    (s.step (.call .finish)).sent =
      s.sent ++ [⟨.call s.nextCall, .handIn attemptId due, token⟩] := by
  obtain ⟨-, unchanged, sameToken⟩ := handedOver_keeps s.withCall
  have can' : s.withCall.canFinish = true := can
  rcases finish_requests can' identified s.nextCall with requests | ⟨failure, signedOut, -⟩
  · obtain ⟨used, isUsed, sent⟩ := requests.sent
    obtain rfl : used = token :=
      Option.some.inj (isUsed.symm.trans (sameToken.trans signedIn))
    rw [unchanged, handsOver.took] at sent
    exact sent
  · cases signedOut.symm.trans signedIn

theorem takeRecording_of_kept (kept : s.finalRecording = some recording) :
    s.takeRecording = ({ s with finalRecording := none }, some recording) := by
  unfold takeRecording
  rw [kept]

/-- A recorder that is done gives nothing out. -/
theorem takeRecording_of_over (nothing : s.finalRecording = none) (off : s.isRecording = false) :
    s.takeRecording.2 = none ∧ s.takeRecording.1.finalRecording = none ∧
      s.takeRecording.1.isRecording = false := by
  unfold takeRecording
  rw [nothing]
  cases here : s.recorder with
  | none => exact ⟨rfl, nothing, off⟩
  | some r =>
      rw [isRecording_some here] at off
      dsimp only
      rw [Recorder.stop_inactive off]
      exact ⟨rfl, rfl, off⟩

theorem takeRecording_of_stop (nothing : s.finalRecording = none) {r : Recorder}
    (here : s.recorder = some r) (stops : r.stop.2 = .ok recording)
    (content : recording.isEmpty = false) :
    s.takeRecording.2 = some recording ∧ s.takeRecording.1.finalRecording = none ∧
      s.takeRecording.1.isRecording = false := by
  have off := Recorder.inactive_stop r
  unfold takeRecording
  rw [nothing, here]
  dsimp only
  rw [stops]
  dsimp only
  rw [content]
  exact ⟨rfl, rfl, off⟩

theorem Resting.handsOver (resting : Resting attemptId recording uploaded done fine s) :
    s.HandsOver (unsent recording uploaded) := by
  obtain ⟨-, -, -, recorder, kept⟩ := closing_keeps s.withCall
  have off : s.withCall.closing.isRecording = false := by
    rw [isRecording, recorder]
    exact resting.off
  have keeps : s.withCall.closing.finalRecording = unsent recording uploaded :=
    kept.trans resting.kept
  cases uploaded with
  | false =>
      have took := takeRecording_of_kept keeps
      refine ⟨?_, ?_, ?_⟩
      · rw [took]
        rfl
      · rw [took]
      · rw [took]
        exact off
  | true =>
      obtain ⟨took, taken, still⟩ := takeRecording_of_over keeps off
      exact ⟨took, taken, still⟩

theorem Resting.finish (resting : Resting attemptId recording uploaded done fine s) :
    Progress attemptId recording uploaded done fine (s.step (.call .finish)) ∧
      s.Sends (· = .handIn attemptId (unsent recording uploaded)) (s.step (.call .finish)) := by
  cases can : s.canFinish with
  | false =>
      have refused : Proceeds true s (s.step (.call .finish)) := by
        refine Proceeds.trans ?_ (proceeds_settle _)
        have can' : s.withCall.canFinish = false := can
        change Proceeds true s (s.withCall.finish s.nextCall)
        rw [finish_refused can']
        exact (proceeds_withCall s).trans (proceeds_giveBack _ _ _)
      exact ⟨.rests (resting.beside refused fun isFine => isFine), refused.sends⟩
  | true =>
      refine progress_of_finish resting.underWay can resting.nobody (fun isFine => ?_)
        resting.handsOver
      rw [Bool.eq_false_iff]
      intro isDone
      simp [canFinish, resting.onceDone isFine isDone] at can

theorem Progress.handsOver (progress : Progress attemptId recording uploaded done fine s)
    (nobody : s.isHandingIn = false) : s.HandsOver (unsent recording uploaded) := by
  cases progress with
  | rests resting => exact resting.handsOver
  | waits id handing here =>
      cases nobody.symm.trans (isHandingIn_of_handsIn here (handsIn_handIn attemptId _))

/-! ## Over a run -/

theorem happens_of_goesOn {stimulus : Stimulus} (goesOn : s.goesOn stimulus = true) :
    s.uploads stimulus = false ∧ s.completes stimulus = false := by
  cases stimulus with
  | answer id answer =>
      cases here : s.calls[id]? with
      | none => simp [uploads, completes, here]
      | some state =>
          have free : state.handsIn = false := by simpa [Session.goesOn, here] using goesOn
          cases state with
          | returned result =>
              simp [uploads, completes, here, CallState.awaitsUpload, CallState.awaitsCompletion]
          | waiting awaiting =>
              cases awaiting with
              | upload | completion => cases free
              | headers | read =>
                  simp [uploads, completes, here, CallState.awaitsUpload,
                    CallState.awaitsCompletion]
  | _ => exact ⟨rfl, rfl⟩

/-- One stimulus brings it as far as its answer says, and only what is still due is sent. -/
theorem Progress.step (progress : Progress attemptId recording uploaded done fine s)
    {stimulus : Stimulus} (turn : s.takesTurn stimulus = true) :
    Progress attemptId recording (uploaded || s.uploads stimulus) (done || s.completes stimulus)
        (fine && s.leavesAlone stimulus) (s.step stimulus) ∧
      s.Sends (· = .handIn attemptId (unsent recording (uploaded || s.uploads stimulus)))
        (s.step stimulus) := by
  cases goesOn : s.goesOn stimulus with
  | true =>
      obtain ⟨noUpload, noCompletion⟩ := happens_of_goesOn goesOn
      rw [noUpload, noCompletion, Bool.or_false, Bool.or_false]
      exact ⟨progress.goesOn goesOn, (progress.proceeds goesOn).sends⟩
  | false =>
      -- What is left hands in: a call that finishes the attempt, or the answer to one.
      cases stimulus with
      | read | uploaded | pump | elapse | setToken | setOutcome => cases goesOn
      | dispatch action => cases turn
      | call call =>
          cases call with
          | assign assignmentId => cases turn
          | finish =>
              have nobody : s.isHandingIn = false := by simpa [takesTurn] using turn
              have alone : (fine && s.leavesAlone (.call .finish)) = fine := by
                simp [leavesAlone, nobody]
              have answered : s.uploads (.call .finish) = false ∧
                  s.completes (.call .finish) = false := ⟨rfl, rfl⟩
              rw [alone, answered.1, answered.2, Bool.or_false, Bool.or_false]
              cases progress with
              | rests resting => exact resting.finish
              | waits id handing here =>
                  have hands := handsIn_handIn attemptId (unsent recording uploaded)
                  cases nobody.symm.trans (isHandingIn_of_handsIn here hands)
          | _ => cases goesOn
      | answer id answer =>
          rw [leavesAlone_answer, Bool.and_true]
          obtain ⟨state, there, hands⟩ := handsIn_of_not_goesOn goesOn
          cases progress with
          | rests resting => cases resting.nobody.symm.trans (isHandingIn_of_handsIn there hands)
          | waits other handing here =>
              obtain rfl := handing.alone id state there hands
              cases uploaded with
              | false =>
                  have answered : s.uploads (.answer id answer) = answer.check.isOk ∧
                      s.completes (.answer id answer) = false := by
                    simp [uploads, completes, here, Awaiting.handIn, unsent,
                      CallState.awaitsUpload, CallState.awaitsCompletion]
                  rw [answered.1, answered.2, Bool.false_or, Bool.or_false]
                  exact handing.answer_upload here answer
              | true =>
                  have answered : s.completes (.answer id answer) = answer.check.isOk := by
                    simp [completes, here, Awaiting.handIn, unsent, CallState.awaitsCompletion]
                  rw [answered, Bool.true_or]
                  exact handing.answer_completion here answer

theorem Progress.run (progress : Progress attemptId recording uploaded done fine s)
    {stimuli : List Stimulus} (turns : s.throughout takesTurn stimuli = true) :
    Progress attemptId recording (uploaded || s.occurs uploads stimuli)
        (done || s.occurs completes stimuli) (fine && s.throughout leavesAlone stimuli)
        (s.run stimuli) ∧
      s.Sends (fun endpoint =>
          endpoint = .video attemptId recording ∧ uploaded = false ∨
            endpoint = .complete attemptId ∧ (uploaded || s.occurs uploads stimuli) = true)
        (s.run stimuli) := by
  -- What the first stimulus brings about is part of what the others find.
  induction stimuli generalizing s uploaded done fine with
  | nil =>
      simp only [occurs, throughout, Bool.or_false, Bool.and_true]
      exact ⟨progress, sends_refl s⟩
  | cons stimulus rest ih =>
      rw [throughout, Bool.and_eq_true] at turns
      obtain ⟨next, sends⟩ := progress.step turns.1
      obtain ⟨last, sendsLater⟩ := ih next turns.2
      rw [Bool.or_assoc, Bool.or_assoc, Bool.and_assoc] at last
      refine ⟨last, (sends.mono ?_).trans (sendsLater.mono ?_)⟩
      · rintro _ rfl
        simp only [occurs, ← Bool.or_assoc]
        cases now : uploaded || s.uploads stimulus with
        | false => exact .inl ⟨rfl, (Bool.or_eq_false_iff.mp now).1⟩
        | true => exact .inr ⟨rfl, rfl⟩
      · simp only [occurs, ← Bool.or_assoc]
        rintro _ (⟨rfl, before⟩ | ⟨rfl, after⟩)
        · exact .inl ⟨rfl, (Bool.or_eq_false_iff.mp before).1⟩
        · exact .inr ⟨rfl, after⟩

theorem failed_of_answer {state : CallState} (here : s.calls[id]? = some state)
    (hands : state.handsIn = true) {answer : Answer} {failure : Failure}
    (wrong : answer.check = .error failure) :
    (s.step (.answer id answer)).calls[id]? = some (.returned (some (.error failure))) := by
  obtain ⟨inside, -⟩ := List.getElem?_eq_some_iff.mp here
  have returns {kept : Option Blob} {other : Failure} (fails : s.Fails id kept other
      (s.react (.answer id answer))) (same : answer.check = .error other) :
      (s.step (.answer id answer)).calls[id]? = some (.returned (some (.error failure))) := by
    obtain rfl : failure = other := Except.error.inj (wrong.symm.trans same)
    exact fails.returned inside
  cases state with
  | returned result => cases hands
  | waiting awaiting =>
      cases awaiting with
      | headers | read => cases hands
      | upload attemptId recording =>
          rcases answer_upload here answer with ⟨ok, -⟩ | ⟨other, same, fails⟩
          · cases wrong.symm.trans ok
          · exact returns fails same
      | completion =>
          rcases answer_completion here answer with ⟨ok, -⟩ | ⟨other, same, fails⟩
          · cases wrong.symm.trans ok
          · exact returns fails same

/-- A failure that ends a call which hands in is told. -/
theorem tells_of_failed (known : s.conversation.attemptId = some attemptId)
    (notOver : s.isHandingIn = true → s.conversation.phase ≠ .completed) {stimulus : Stimulus}
    (handing : (∃ state : CallState, s.calls[id]? = some state ∧ state.handsIn = true) ∨
      stimulus = .call .finish ∧ id = s.nextCall ∧ s.canFinish = true)
    {failure : Failure}
    (failed : (s.step stimulus).calls[id]? = some (.returned (some (.error failure)))) :
    (s.step stimulus).conversation.Tells failure := by
  have tells {u : Session} {kept : Option Blob} {told : Failure} (inside : id < u.calls.length)
      (going : u.conversation.phase ≠ .completed)
      (fails : u.Fails id kept told (s.react stimulus)) :
      (s.step stimulus).conversation.Tells failure := by
    have same := failed.symm.trans (fails.returned inside)
    obtain rfl : failure = told := by simpa using same
    have settled : (s.step stimulus).conversation = (s.react stimulus).conversation :=
      (untouched_settle _).conversation
    rw [settled, fails.conversation]
    exact tells_setError going failure
  rcases handing with ⟨state, here, hands⟩ | ⟨rfl, rfl, can⟩
  · obtain ⟨inside, -⟩ := List.getElem?_eq_some_iff.mp here
    rcases handsIn_outcome here hands stimulus with
      ⟨awaiting, waits⟩ | ⟨-, -, succeeds⟩ | ⟨kept, told, fails⟩
    · cases failed.symm.trans waits
    · cases failed.symm.trans succeeds
    · exact tells inside (notOver (isHandingIn_of_handsIn here hands)) fails
  · have can' : s.withCall.canFinish = true := can
    have inside : s.nextCall < s.withCall.closing.takeRecording.1.calls.length := by
      rw [(handedOver_keeps _).1]
      simp [withCall, nextCall]
    rcases finish_requests can' known s.nextCall with requests | ⟨told, -, fails⟩
    · have waits := requests.waits inside (handsIn_handIn attemptId _)
      cases failed.symm.trans waits
    · refine tells inside ?_ fails
      rw [(untouched_takeRecording _).conversation, (conversation_closing can').1]
      decide

/-! ## From the first call on -/

/-- What the recorder would give out now. -/
def recorded? (s : Session) : Option Blob :=
  s.recorder.bind fun recorder => recorder.stop.2.toOption

/-- The attempt can be finished, nothing of it was handed in yet, and there is a recording of it. -/
structure Recorded (attemptId : String) (recording : Blob) (s : Session) : Prop where
  can : s.canFinish = true
  attempt : s.conversation.attemptId = some attemptId
  nobody : s.isHandingIn = false
  nothing : s.finalRecording = none
  stops : s.recorded? = some recording
  content : recording.isEmpty = false

theorem Recorded.underWay (recorded : Recorded attemptId recording s)
    (sound : s.conversation.Sound) : s.conversation.UnderWay attemptId := by
  refine ⟨sound, recorded.attempt, ?_⟩
  have can := recorded.can
  rw [canFinish, Bool.or_eq_true, beq_iff_eq, beq_iff_eq] at can
  rcases can with talks | closes
  · rw [talks]
    exact ⟨nofun, nofun, nofun⟩
  · rw [closes]
    exact ⟨nofun, nofun, nofun⟩

theorem Recorded.handsOver (recorded : Recorded attemptId recording s) :
    s.HandsOver (some recording) := by
  obtain ⟨-, -, -, recorder, kept⟩ := closing_keeps s.withCall
  obtain ⟨r, here, gives⟩ := Option.bind_eq_some_iff.mp recorded.stops
  have stops : r.stop.2 = .ok recording := by
    cases result : r.stop.2 with
    | ok blob =>
        rw [result] at gives
        exact congrArg Except.ok (Option.some.inj gives)
    | error failure =>
        rw [result] at gives
        cases gives
  obtain ⟨took, taken, off⟩ := takeRecording_of_stop (kept.trans recorded.nothing)
    (recorder.trans here) stops recorded.content
  exact ⟨took, taken, off⟩

theorem Recorded.finish (recorded : Recorded attemptId recording s)
    (sound : s.conversation.Sound) :
    Progress attemptId recording false false true (s.step (.call .finish)) ∧
      s.Sends (· = .video attemptId recording) (s.step (.call .finish)) :=
  progress_of_finish (recorded.underWay sound) recorded.can recorded.nobody (fun _ => rfl)
    recorded.handsOver

/-- How an attempt is completed, from the first call that finishes it on, however many such calls
    follow one another, and whatever the server answers to each of their requests. Only the
    recording is uploaded, and not again once the server has it; before that it is not told that the
    attempt is over. A call sends what is due. A failure ends the call that made the request, and is
    told. The attempt is completed only when the server has taken note; and then it is, as long as
    no other call begins, and the learner is told of no fault, while a call waits for such an
    answer. -/
theorem completion_of_attempt {new : Session} (isNew : new.New) {before stimuli : List Stimulus}
    (recorded : Recorded attemptId recording (new.run before))
    (turns : ((new.run before).step (.call .finish)).throughout takesTurn stimuli = true) :
    let s := new.run before
    let asked := s.step (.call .finish)
    let t := asked.run stimuli
    s.Sends (fun endpoint => endpoint = .video attemptId recording ∨
      endpoint = .complete attemptId ∧ asked.occurs uploads stimuli = true) t ∧
    (asked.occurs uploads stimuli = true → ∀ later : List Stimulus,
      t.throughout takesTurn later = true → t.Sends (· = .complete attemptId) (t.run later)) ∧
    (∀ token : String, s.token? = some token →
      asked.sent = s.sent ++ [⟨.call s.nextCall, .video attemptId recording, token⟩]) ∧
    (∀ token : String, t.token? = some token → t.isHandingIn = false → t.canFinish = true →
      (t.step (.call .finish)).sent = t.sent ++ [⟨.call t.nextCall,
        if asked.occurs uploads stimuli then .complete attemptId else .video attemptId recording,
        token⟩]) ∧
    (∀ (id : Nat) (state : CallState) (answer : Answer) (failure : Failure),
      t.calls[id]? = some state → state.handsIn = true → answer.check = .error failure →
      (t.step (.answer id answer)).calls[id]? = some (.returned (some (.error failure)))) ∧
    (∀ u : Session, u = s ∨ u = t → ∀ (stimulus : Stimulus) (id : Nat) (failure : Failure),
      ((∃ state : CallState, u.calls[id]? = some state ∧ state.handsIn = true) ∨
        stimulus = .call .finish ∧ id = u.nextCall ∧ u.canFinish = true) →
      (u.step stimulus).calls[id]? = some (.returned (some (.error failure))) →
      (u.step stimulus).conversation.Tells failure) ∧
    (t.conversation.phase = .completed → asked.occurs completes stimuli = true) ∧
    (asked.throughout leavesAlone stimuli = true → asked.occurs completes stimuli = true →
      t.conversation.phase = .completed) := by
  intro s asked t
  have sound : s.conversation.Sound := by
    refine sound_run ?_ before
    rw [isNew.conversation]
    exact sound_new
  obtain ⟨first, sends⟩ := recorded.finish sound
  obtain ⟨progress, sendsLater⟩ := first.run turns
  rw [Bool.false_or, Bool.false_or, Bool.true_and] at progress
  refine ⟨(sends.mono fun _ video => .inl video).trans (sendsLater.mono ?_), ?_, ?_, ?_, ?_, ?_,
    progress.completed, ?_⟩
  · rintro endpoint (⟨video, -⟩ | ⟨complete, uploaded⟩)
    · exact .inl video
    · rw [Bool.false_or] at uploaded
      exact .inr ⟨complete, uploaded⟩
  · intro uploaded later turnsLater
    have progress : Progress attemptId recording true _ _ t := uploaded ▸ progress
    obtain ⟨-, sendsThen⟩ := progress.run turnsLater
    refine sendsThen.mono ?_
    rintro endpoint (⟨-, wrong⟩ | ⟨complete, -⟩)
    · cases wrong
    · exact complete
  · intro token signedIn
    exact sent_of_finish recorded.handsOver recorded.can recorded.attempt signedIn
  · intro token signedIn nobody can
    rw [← handIn_unsent]
    exact sent_of_finish (progress.handsOver nobody) can progress.underWay.attempt signedIn
  · intro id state answer failure here hands wrong
    exact failed_of_answer here hands wrong
  · rintro u (rfl | rfl) stimulus id failure handing failed
    · refine tells_of_failed recorded.attempt (fun going => ?_) handing failed
      cases recorded.nobody.symm.trans going
    · exact tells_of_failed progress.underWay.attempt progress.notOver handing failed
  · intro isFine isDone
    rw [isFine, isDone] at progress
    exact progress.onceDone

end

/-- The first upload is refused; the second succeeds, but not the notice; the third call only sends
    the notice. -/
theorem completed_by_third_call :
    let new : Session :=
      { baseUrl := "", tokenFile := some "t"
        recorder := some { options := {}, capture := { encoder := { timeslice := 1 } } } }
    let s := new.run [.call (.assign "A"), .call (.startExisting "T" ""), .elapse 3]
    let recording := Blob.concat ([0, 1, 2].map Encoder.chunkPayload) Encoder.mimeType
    let refused : List Stimulus :=
      [.answer 2 (.status 500), .call .clearError, .call .finish, .answer 4 (.status 200), .pump]
    let noted : List Stimulus :=
      [.answer 4 (.failed "reset" none), .call .clearError, .call .finish, .answer 6 (.status 200)]
    let uploaded := (s.step (.call .finish)).run refused
    let t := (s.step (.call .finish)).run (refused ++ noted)
    Recorded "T" recording s ∧
      s.Sends (fun endpoint => endpoint = .video "T" recording ∨ endpoint = .complete "T") t ∧
      uploaded.Sends (· = .complete "T") (uploaded.run noted) ∧
      t.conversation.phase = .completed := by
  intro new s recording refused noted uploaded t
  have isNew : new.New := ⟨⟨rfl, fun transport => by cases transport <;> rfl⟩, rfl⟩
  have recorded : Recorded "T" recording s := by
    refine ⟨?_, ?_, ?_, ?_, ?_, ?_⟩ <;> decide +kernel
  have turns : (s.step (.call .finish)).throughout takesTurn (refused ++ noted) = true := by
    decide +kernel
  have first : (s.step (.call .finish)).throughout takesTurn refused = true := by decide +kernel
  have second : uploaded.throughout takesTurn noted = true := by decide +kernel
  have hasIt : (s.step (.call .finish)).occurs uploads refused = true := by decide +kernel
  have alone : (s.step (.call .finish)).throughout leavesAlone (refused ++ noted) = true := by
    decide +kernel
  have isDone : (s.step (.call .finish)).occurs completes (refused ++ noted) = true := by
    decide +kernel
  obtain ⟨-, sendsLater, -⟩ := completion_of_attempt isNew recorded first
  obtain ⟨sends, -, -, -, -, -, -, completed⟩ := completion_of_attempt isNew recorded turns
  exact ⟨recorded, sends.mono fun _ sent => sent.imp_right And.left, sendsLater hasIt noted second,
    completed alone isDone⟩

/-- A fault of an earlier recording, told while a later one is uploaded, ends the attempt with an
    error, though the server takes note that it is over and the call succeeds. -/
theorem uncompleted_after_fault :
    let new : Session :=
      { baseUrl := "", tokenFile := some "t"
        recorder := some
          { options := { chunkInterval := 2 }
            capture := { encoder := { timeslice := 1, faultAfter := some 3 } } } }
    let s := new.run
      [.call (.assign "A"), .call .grantPermissions, .call (.startExisting "T-a" ""), .elapse 2,
        .pump, .elapse 2, .call (.assign "B"), .call .grantPermissions,
        .call (.startExisting "T-b" ""), .elapse 2]
    let recording := Blob.concat ([0, 1].map Encoder.chunkPayload) Encoder.mimeType
    let stimuli : List Stimulus :=
      [.uploaded (.status 200), .pump, .uploaded (.status 200), .pump, .answer 6 (.status 200),
        .answer 6 (.status 200)]
    let asked := s.step (.call .finish)
    let t := asked.run stimuli
    Recorded "T-b" recording s ∧ asked.throughout takesTurn stimuli = true ∧
      asked.occurs completes stimuli = true ∧
      t.calls[6]? = some (.returned (some (.ok ()))) ∧ ¬ t.conversation.phase = .completed := by
  intro new s recording stimuli asked t
  have succeeded : t.calls[6]?.any CallState.hasSucceeded = true := by decide +kernel
  refine ⟨⟨?_, ?_, ?_, ?_, ?_, ?_⟩, ?_, ?_, succeeds_of_hasSucceeded succeeded, ?_⟩ <;>
    decide +kernel

end Session

end Viva
