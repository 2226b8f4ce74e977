import Viva.Proofs.Session.Credentials
import Viva.Proofs.Session.Moves

/-! # What ends with a refused token

The server may answer any request that the token is of no use. A request waits for its answer from
the moment it was sent (`Expects`), and whether the token is then thrown away hangs on who waits: a
call throws it away, unless its stream has been superseded meanwhile; the upload of a part of the
recording only passes on to the next part. `token_after_refusal` says so of every request of a run.
-/

namespace Viva

/-- The status that the answer came with, if there is one. -/
def Answer.status? : Answer → Option Nat
  | .status code => some code
  | .failed _ code => code

theorem check_of_refused {answer : Answer} (refused : answer.status? = some 401) :
    answer.check = .error .unauthorized := by
  cases answer with
  | status code =>
      obtain rfl := Option.some.inj refused
      rfl
  | failed detail status =>
      obtain rfl : status = some 401 := refused
      rfl

namespace Session

/-- The stimulus by which the server answers a request. -/
def Stimulus.answering (request : Sent) (answer : Answer) : Stimulus :=
  match request.waiter with
  | .call id => .answer id answer
  | .pump => .uploaded answer

/-- The request waits for its answer. -/
def Expects (s : Session) (request : Sent) : Prop :=
  match request.waiter with
  | .call id => ∃ awaiting, s.calls[id]? = some (.waiting awaiting) ∧
      awaiting.isFor request.endpoint = true
  | .pump => s.pump.uploading.isSome = true ∧ request.endpoint.route = .chunks

/-- The request is for a stream that has been superseded since. -/
def isSuperseded (s : Session) (request : Sent) : Bool :=
  match request.waiter with
  | .call id =>
    match s.calls[id]? with
    | some (.waiting (.headers transport generation)) => !(s.slot transport).isCurrent generation
    | _ => false
  | .pump => false

section
variable {s : Session} {request : Sent}

/-! ## Sending -/

/-- Nothing was sent, or one request that waits for its answer. -/
def SendsOne (s s' : Session) : Prop :=
  s'.sent = s.sent ∨ ∃ request, s'.sent = s.sent ++ [request] ∧ s'.Expects request

/-- Nothing was sent, or one part of the recording, and the pump waits for the end of its upload. -/
def SendsPart (s s' : Session) : Prop :=
  s'.sent = s.sent ∨ s'.pump.uploading.isSome = true ∧ ∃ attemptId blob sequence token,
    s'.sent = s.sent ++ [⟨.pump, .chunk attemptId blob sequence, token⟩]

theorem SendsPart.sendsOne {s' : Session} (sends : s.SendsPart s') : s.SendsOne s' := by
  rcases sends with same | ⟨busy, attemptId, blob, sequence, token, sent⟩
  · exact .inl same
  · exact .inr ⟨_, sent, busy, rfl⟩

theorem sendsPart_uploadNext (s : Session) (attemptId : String) (held : List (Blob × Nat)) :
    s.SendsPart (s.uploadNext attemptId held) := by
  rcases uploadNext_cases s attemptId held with same | ⟨_, _, rest, s', -, isSent, same⟩ <;> rw [same]
  · exact .inl rfl
  · obtain ⟨token, -, rfl⟩ := eq_of_send isSent
    exact .inr ⟨rfl, _, _, _, token, rfl⟩

theorem sendsPart_takeEvent (s : Session) (event : RecordingEvent) :
    s.SendsPart (s.takeEvent event) := by
  cases event with
  | stateChanged | maxDurationReached | failed => exact .inl rfl
  | chunkReady blob sequence =>
      simp only [takeEvent]
      split
      · exact .inl rfl
      · exact sendsPart_uploadNext _ _ _

theorem takeEvents_of_uploading (busy : s.pump.uploading.isSome = true)
    (events : List RecordingEvent) : s.takeEvents events = s := by
  cases events with
  | nil => rfl
  | cons => simp only [takeEvents, busy, if_true]

theorem sendsPart_takeEvents (s : Session) (events : List RecordingEvent) :
    s.SendsPart (s.takeEvents events) := by
  induction events generalizing s with
  | nil => exact .inl rfl
  | cons event rest ih =>
      unfold takeEvents
      split
      · exact .inl rfl
      · have next := ih (s.takeEvent event)
        rcases sendsPart_takeEvent s event with same | ⟨busy, sent⟩
        · unfold SendsPart at next ⊢
          rwa [same] at next
        · -- The pump waits already, so it takes no other event.
          rw [takeEvents_of_uploading busy]
          exact .inr ⟨busy, sent⟩

theorem sendsPart_takePumpAnswer (s : Session) : s.SendsPart s.takePumpAnswer := by
  unfold takePumpAnswer
  split
  · exact sendsPart_uploadNext s _ _
  · exact .inl rfl

theorem SendsOne.of_needs {stimulus : Stimulus} {id : Nat}
    (needs : s.NeedsNobody stimulus ∨ ∃ endpoint, s.NeedsServer stimulus id endpoint) :
    s.SendsOne (s.step stimulus) := by
  rcases needs with nobody | ⟨endpoint, server⟩
  · exact .inl (nobody s.tokenFile)
  · have asks := server s.tokenFile
    dsimp only at asks
    split at asks
    · exact .inr ⟨_, asks⟩
    · exact .inl asks.1

theorem sendsOne_step (s : Session) (stimulus : Stimulus) : s.SendsOne (s.step stimulus) := by
  cases stimulus with
  | call call => exact .of_needs (needsServer_of_call s call)
  | answer id answer => exact .of_needs (needsServer_of_answer s id answer)
  | read id read => exact .inl (apart_streams.takeReadOf s id read).sent
  | pump =>
      have sends : s.SendsPart (s.step .pump) := sendsPart_takeEvents s s.untaken
      exact sends.sendsOne
  | uploaded answer =>
      have sends : s.SendsPart (s.step (.uploaded answer)) := sendsPart_takePumpAnswer s
      exact sends.sendsOne
  | elapse | dispatch | setToken | setOutcome => exact .inl rfl

/-! ## Waiting for the answer -/

theorem pump_step (s : Session) {stimulus : Stimulus} (beside : stimulus.isPumping = false) :
    (s.step stimulus).pump = s.pump := by
  have moves : Moves false (s.unmarked stimulus) (s.step stimulus) := moves_step s beside nofun
  rw [moves.pump]
  unfold unmarked
  split <;> rfl

theorem expects_step (expects : s.Expects request) {stimulus : Stimulus}
    (foreign : ∀ answer, stimulus ≠ .answering request answer) :
    (s.step stimulus).Expects request := by
  obtain ⟨waiter, endpoint, token⟩ := request
  cases waiter with
  | call id =>
      obtain ⟨awaiting, here, isFor⟩ := expects
      have unread (read : Read) : s.takeReadOf id read = s := by
        cases awaiting with
        | read => cases isFor
        | headers | upload | completion => simp only [takeReadOf, here]
      exact ⟨awaiting, awaits_settle (react_waits here unread foreign) isFor, isFor⟩
  | pump =>
      obtain ⟨busy, isPart⟩ := expects
      have same : (s.step stimulus).pump = s.pump := by
        cases stimulus with
        | uploaded answer => exact absurd rfl (foreign answer)
        | pump =>
            change (s.takeEvents s.untaken).pump = s.pump
            rw [takeEvents_of_uploading busy]
        | call | answer | read | elapse | dispatch | setToken | setOutcome => exact pump_step s rfl
      exact ⟨same ▸ busy, isPart⟩

theorem expects_run (expects : s.Expects request) {later : List Stimulus}
    (foreign : ∀ answer, .answering request answer ∉ later) :
    (s.run later).Expects request := by
  induction later generalizing s with
  | nil => exact expects
  | cons stimulus rest ih =>
      refine ih (expects_step expects fun answer same => ?_) fun answer member => ?_
      · exact foreign answer (same ▸ List.mem_cons_self)
      · exact foreign answer (List.mem_cons_of_mem _ member)

/-! ## The answer -/

theorem tokenFile_uploadNext (s : Session) (attemptId : String) (held : List (Blob × Nat)) :
    (s.uploadNext attemptId held).tokenFile = s.tokenFile := by
  rcases uploadNext_cases s attemptId held with same | ⟨_, _, rest, s', -, isSent, same⟩ <;> rw [same]
  · rfl
  · obtain ⟨token, -, rfl⟩ := eq_of_send isSent
    rfl

theorem tokenFile_failStream (s : Session) (id : Nat) (transport : Transport) (generation : Nat) :
    (s.failStream id transport generation .unauthorized).tokenFile =
      if (s.slot transport).isCurrent generation then none else s.tokenFile := by
  unfold failStream
  dsimp only
  split <;> rfl

theorem tokenFile_refused (expects : s.Expects request) {answer : Answer}
    (refused : answer.check = .error .unauthorized) :
    (s.step (.answering request answer)).tokenFile =
      if request.endpoint.route = .chunks ∨ s.isSuperseded request = true then s.tokenFile
      else none := by
  obtain ⟨waiter, endpoint, token⟩ := request
  cases waiter with
  | pump =>
      rw [if_pos (.inl expects.2)]
      change s.takePumpAnswer.tokenFile = s.tokenFile
      unfold takePumpAnswer
      split
      · exact tokenFile_uploadNext s _ _
      · rfl
  | call id =>
      obtain ⟨awaiting, here, isFor⟩ := expects
      have whole : endpoint.route ≠ .chunks := by
        rintro isPart
        cases endpoint <;> cases isPart
        cases awaiting with
        | headers transport => cases transport <;> cases isFor
        | read | upload | completion => cases isFor
      simp only [whole, false_or, isSuperseded, here]
      change (s.takeAnswer id answer).tokenFile = _
      simp only [takeAnswer, here]
      cases awaiting with
      | read => cases isFor
      | upload | completion =>
          simp only [refused]
          rfl
      | headers transport generation =>
          simp only [refused, takeHeaders, tokenFile_failStream]
          by_cases owns : (s.slot transport).isCurrent generation = true <;> simp [owns]

/-- What becomes of the token when a request is refused. In one step one request is sent at most. It
    is answered at some later time, and if that is by status 401 the token is gone then, unless the
    request was for a part of the recording, or for a stream that has been superseded since: then
    the token stays as it is. -/
theorem token_after_refusal (s : Session) (stimulus : Stimulus) :
    let t := s.step stimulus
    t.sent = s.sent ∨ ∃ request, t.sent = s.sent ++ [request] ∧
      ∀ (later : List Stimulus) (answer : Answer), (∀ other, .answering request other ∉ later) →
        answer.status? = some 401 →
          let u := t.run later
          (u.step (.answering request answer)).tokenFile =
            if request.endpoint.route = .chunks ∨ u.isSuperseded request = true then u.tokenFile
            else none := by
  intro t
  rcases sendsOne_step s stimulus with nothing | ⟨request, sent, expects⟩
  · exact .inl nothing
  · refine .inr ⟨request, sent, fun later answer foreign refused => ?_⟩
    exact tokenFile_refused (expects_run expects foreign) (check_of_refused refused)

/-- The request for the first message is refused after a while, and the token is gone. -/
theorem no_token_after_refused_start :
    let s := ({ baseUrl := "", tokenFile := some "t" } : Session).run
      [.call (.assign "A"), .call .grantPermissions]
    let t := s.step (.call .start)
    let request : Sent := ⟨.call 2, .start "A", "t"⟩
    let later : List Stimulus := [.elapse 5, .call .clearError, .answer 1 (.status 200)]
    let u := t.run later
    t.sent = s.sent ++ [request] ∧ u.tokenFile = some "t" ∧
      (u.step (.answer 2 (.status 401))).tokenFile = none := by
  intro s t request later u
  have sent : t.sent = s.sent ++ [request] := by decide +kernel
  have foreign : ∀ other, Stimulus.answering request other ∉ later := by
    intro other member
    simp [later, request, Stimulus.answering] at member
  refine ⟨sent, by decide +kernel, ?_⟩
  rcases token_after_refusal s (.call .start) with nothing | ⟨other, alsoSent, gone⟩
  · have nothing : t.sent = s.sent := nothing
    rw [nothing] at sent
    exact absurd sent.symm (by simp)
  · obtain rfl : request = other := by simpa using sent.symm.trans alsoSent
    exact (gone later (.status 401) foreign rfl).trans (if_neg (by decide +kernel))

/-- The upload of the first part is refused. The token stays, and the next part is sent with it. -/
theorem token_after_refused_part :
    let s := ({ baseUrl := "", tokenFile := some "t"
                recorder := some
                  { options := { autoStart := true, chunkInterval := 2 }
                    capture := { encoder := { timeslice := 1 } } } } : Session).run
      [.call (.assign "A"), .call .grantPermissions, .call (.startExisting "T" ""), .elapse 3]
    let t := s.step .pump
    let u := t.step (.uploaded (.status 401))
    let v := u.run [.elapse 2, .pump]
    s.sent = [] ∧ t.sent.map (·.endpoint.route) = [.chunks] ∧ t.sent.any t.isSuperseded = false ∧
      u.tokenFile = some "t" ∧ v.sent.map (·.endpoint.route) = [.chunks, .chunks] := by
  decide +kernel

end

end Session

end Viva
