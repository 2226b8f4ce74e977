import Viva.Proofs.Session.Asking
import Viva.Proofs.Session.Failing
import Viva.Proofs.Session.Keeping

/-! # What a session shows the server

Every request shows who the learner is: it carries the token that is stored at that moment, without
the blanks around it. So nothing is sent while no token is stored, be it that the learner has never
signed in or has been signed out, and what needs the server fails for that reason until a token is
stored again.
-/

namespace Viva

/-- The request carries the token, in a header or in the query, and not in both. -/
def Request.Carries (request : Request) (token : String) : Prop :=
  (request.authorization = some (Endpoint.bearer token) ∧ request.query = []) ∨
    (request.authorization = none ∧ request.query = [("token", token)])

theorem carries_request (endpoint : Endpoint) (baseUrl token : String) :
    (endpoint.request baseUrl token).Carries token := by
  cases endpoint with
  | stream => exact .inr ⟨rfl, rfl⟩
  | start | message | chunk | video | complete => exact .inl ⟨rfl, rfl⟩

/-- A token is what is left without the blanks around it, if anything is. -/
theorem token_of_content {content token : String} (isToken : Token.ofContent? content = some token) :
    token = Text.trim content ∧ token ≠ "" := by
  unfold Token.ofContent? at isToken
  dsimp only at isToken
  split at isToken
  · cases isToken
  · rename_i someText
    obtain rfl := Option.some.inj isToken
    exact ⟨rfl, fun nothing => someText (String.isEmpty_iff.mpr nothing)⟩

namespace Session

/-- The host stores a token; blanks are none. -/
def Stimulus.signsIn : Stimulus → Bool
  | .setToken token => ((token.map Token.toContent).bind Token.ofContent?).isSome
  | _ => false

/-! ## Every request carries the token -/

/-- The learner was not signed in meanwhile, and all that was sent carries the token there was. -/
structure Shows (s s' : Session) : Prop where
  file : s'.tokenFile = s.tokenFile ∨ s'.tokenFile = none
  sent : ∃ asked, s'.sent = s.sent ++ asked ∧ ∀ request ∈ asked, s.token? = some request.token

section
variable {s s' : Session}

theorem Shows.of_same (file : s'.tokenFile = s.tokenFile) (sent : s'.sent = s.sent) : s.Shows s' :=
  ⟨.inl file, [], sent.trans (List.append_nil _).symm, nofun⟩

theorem Shows.token (shown : s.Shows s') {token : String} (signedIn : s'.token? = some token) :
    s.token? = some token := by
  unfold token? at signedIn ⊢
  rcases shown.file with same | gone
  · rwa [same] at signedIn
  · rw [gone] at signedIn
    cases signedIn

theorem Shows.trans {a b c : Session} (first : a.Shows b) (second : b.Shows c) : a.Shows c where
  file := by
    rcases second.file with same | gone
    · rw [same]
      exact first.file
    · exact .inr gone
  sent := by
    obtain ⟨early, sentEarly, before⟩ := first.sent
    obtain ⟨late, sentLate, after⟩ := second.sent
    refine ⟨early ++ late, ?_, fun request member => ?_⟩
    · rw [sentLate, sentEarly, List.append_assoc]
    · rcases List.mem_append.mp member with isEarly | isLate
      · exact before request isEarly
      · exact first.token (after request isLate)

theorem shows_send {waiter : Waiter} {endpoint : Endpoint}
    (isSent : s.send waiter endpoint = .ok s') : s.Shows s' := by
  obtain ⟨token, signedIn, rfl⟩ := eq_of_send isSent
  refine ⟨.inl rfl, _, rfl, fun request member => ?_⟩
  rw [List.mem_singleton.mp member]
  exact signedIn

theorem shows_report (s : Session) (failure : Failure) : s.Shows (s.report failure) := by
  refine ⟨?_, [], (List.append_nil _).symm, nofun⟩
  have file : (s.report failure).tokenFile =
      if failure.requiresLogout then none else s.tokenFile := rfl
  rw [file]
  split
  · exact .inr rfl
  · exact .inl rfl

theorem shows_work : KeptByWork Shows where
  trans := .trans
  setPump := fun _ _ => .of_same rfl rfl
  limit := fun _ => .of_same rfl rfl
  report := shows_report
  send := shows_send
  dispatch := fun _ _ => .of_same rfl rfl
  setSlot := fun _ transport _ => by cases transport <;> exact .of_same rfl rfl
  turns := fun _ _ => .of_same rfl rfl
  remembers := fun _ _ => .of_same rfl rfl
  keeps := fun _ _ => .of_same rfl rfl
  unmarks := fun _ => .of_same rfl rfl
  asks := shows_send
  records := fun _ _ => .of_same rfl rfl

/-- What is sent in a step carries the token that was stored before. -/
theorem sent_step (s : Session) (stimulus : Stimulus) :
    ∃ asked, (s.step stimulus).sent = s.sent ++ asked ∧
      ∀ request ∈ asked, s.token? = some request.token := by
  cases stimulus with
  | setToken token => exact ⟨[], (List.append_nil _).symm, nofun⟩
  | _ => exact (shows_work.step s (by nofun)).sent

theorem signedOut_step (signedOut : s.token? = none) {stimulus : Stimulus}
    (stays : stimulus.signsIn = false) : (s.step stimulus).token? = none := by
  rw [Option.eq_none_iff_forall_ne_some] at signedOut ⊢
  intro token signedIn
  cases stimulus with
  | setToken saved =>
      have none : (saved.map Token.toContent).bind Token.ofContent? = none :=
        Option.not_isSome_iff_eq_none.mp (Bool.eq_false_iff.mp stays)
      have same : (s.step (.setToken saved)).token? =
          (saved.map Token.toContent).bind Token.ofContent? := rfl
      rw [same, none] at signedIn
      cases signedIn
  | _ => exact signedOut token ((shows_work.step s (by nofun)).token signedIn)

/-- As long as no token is stored, nothing is sent. -/
theorem sent_run_of_signedOut (signedOut : s.token? = none) {stimuli : List Stimulus}
    (stays : ∀ stimulus ∈ stimuli, stimulus.signsIn = false) :
    (s.run stimuli).token? = none ∧ (s.run stimuli).sent = s.sent := by
  induction stimuli generalizing s with
  | nil => exact ⟨signedOut, rfl⟩
  | cons stimulus rest ih =>
      have still := signedOut_step signedOut (stays stimulus List.mem_cons_self)
      obtain ⟨last, same⟩ := ih still fun other later => stays other (List.mem_cons_of_mem _ later)
      refine ⟨last, same.trans ?_⟩
      obtain ⟨asked, sent, carry⟩ := sent_step s stimulus
      cases asked with
      | nil => rw [sent, List.append_nil]
      | cons request more => cases signedOut.symm.trans (carry request List.mem_cons_self)

/-! ## What needs the server -/

/-- By the stimulus the call with this number asks for one thing: with a token it sends the request
    and waits for its answer; without one it sends nothing and fails. -/
def NeedsServer (s : Session) (stimulus : Stimulus) (id : Nat) (endpoint : Endpoint) : Prop :=
  ∀ file, let t := (s.withToken file).step stimulus
    match file.bind Token.ofContent? with
    | some token => t.sent = s.sent ++ [⟨.call id, endpoint, token⟩] ∧
        ∃ awaiting, t.calls[id]? = some (.waiting awaiting) ∧ awaiting.isFor endpoint = true
    | none => t.sent = s.sent ∧ t.calls[id]? = some (.returned (some (.error .unauthorized)))

/-- Nothing is sent by the stimulus, whatever the token file holds. -/
def NeedsNobody (s : Session) (stimulus : Stimulus) : Prop :=
  ∀ file, ((s.withToken file).step stimulus).sent = s.sent

theorem awaits_settle {id : Nat} {awaiting : Awaiting} {endpoint : Endpoint}
    (here : s.calls[id]? = some (.waiting awaiting)) (isFor : awaiting.isFor endpoint = true) :
    s.settle.calls[id]? = some (.waiting awaiting) := by
  have here : (s.onRecorder Recorder.settle).calls[id]? = some (.waiting awaiting) := here
  simp only [settle, releaseCancelled, List.getElem?_map, here, Option.map_some]
  cases awaiting with
  | read => cases isFor
  | headers | upload | completion => rfl

/-- A call that asks the server for something only fails without a token. -/
theorem needsServer_of_asking {id : Nat} {outcome : Option String → Session}
    (asking : s.Asking id outcome) (inside : id < s.calls.length) {stimulus : Stimulus}
    {before : Session} (sent : s.sent = before.sent)
    (comes : ∀ file, (before.withToken file).react stimulus = outcome file) :
    before.NeedsNobody stimulus ∨ ∃ endpoint, before.NeedsServer stimulus id endpoint := by
  have last (file : Option String) :
      (before.withToken file).step stimulus = (outcome file).settle := congrArg settle (comes file)
  have set (state : CallState) : (s.calls.set id state)[id]? = some state :=
    List.getElem?_set_self inside
  rcases asking with silent | ⟨endpoint, asks⟩
  · left
    intro file
    rw [last file]
    exact (silent file).sent.trans sent
  · refine .inr ⟨endpoint, fun file => ?_⟩
    dsimp only
    have stored : (s.withToken file).token? = file.bind Token.ofContent? := rfl
    rw [last file, ← stored]
    rcases asks file with ⟨⟨token, signedIn, posed⟩, awaiting, isFor, waits⟩ | declines
    · rw [signedIn]
      refine ⟨posed.trans (congrArg (· ++ _) sent), awaiting, ?_, isFor⟩
      refine awaits_settle ?_ isFor
      rw [waits]
      exact set _
    · rw [declines.signedOut]
      refine ⟨declines.sent.trans sent, ?_⟩
      apply calls_settle_of_returned
      rw [declines.calls]
      exact set _

theorem needsServer_of_call (s : Session) (call : Call) :
    s.NeedsNobody (.call call) ∨ ∃ endpoint, s.NeedsServer (.call call) s.nextCall endpoint := by
  have inside : s.nextCall < s.withCall.calls.length := by simp [withCall, nextCall]
  exact needsServer_of_asking (asking_runCall s.withCall s.nextCall call) inside rfl fun _ => rfl

theorem needsNobody_of_passed {stimulus : Stimulus}
    (passed : ∀ file, (s.withToken file).react stimulus = s.withToken file) :
    s.NeedsNobody stimulus :=
  fun file => (congrArg (fun t : Session => t.settle.sent) (passed file)).trans rfl

theorem needsServer_of_answer (s : Session) (id : Nat) (answer : Answer) :
    s.NeedsNobody (.answer id answer) ∨
      ∃ endpoint, s.NeedsServer (.answer id answer) id endpoint := by
  cases here : s.calls[id]? with
  | none =>
      refine .inl (needsNobody_of_passed fun file => ?_)
      have same : (s.withToken file).calls[id]? = none := here
      exact (react_of_unknown same).1 answer
  | some state =>
      cases awaits : state.awaitsAnswer with
      | true =>
          have inside := (List.getElem?_eq_some_iff.mp here).1
          exact needsServer_of_asking (asking_takeAnswer s here awaits answer) inside rfl
            fun _ => rfl
      | false =>
          refine .inl (needsNobody_of_passed fun file => ?_)
          have same : (s.withToken file).calls[id]? = some state := here
          simp only [react, takeAnswer, same]
          cases state with
          | returned => rfl
          | waiting awaiting =>
              cases awaiting with
              | read => rfl
              | headers | upload | completion => cases awaits

/-- Whatever happens in a run, each request that is sent by it carries, in a header or in the query,
    the token that is stored when it happens, without the blanks around it. While no token is stored
    nothing is sent, until one is stored again. A call asks the server for nothing, whatever the
    token file holds, or it needs the server, and then without a token it fails as unauthorized; and
    the same goes for what a call does when its request has been answered. -/
theorem asked_with_token (s : Session) (stimuli : List Stimulus) :
    let t := s.run stimuli
    (∀ stimulus, ∃ asked, (t.step stimulus).sent = t.sent ++ asked ∧ ∀ request ∈ asked,
      (∃ content, t.tokenFile = some content ∧ request.token = Text.trim content) ∧
        request.token ≠ "" ∧
        ((request.endpoint.request t.baseUrl request.token).Carries request.token)) ∧
      (t.token? = none → ∀ later : List Stimulus, (∀ stimulus ∈ later, stimulus.signsIn = false) →
        (t.run later).token? = none ∧ (t.run later).sent = t.sent) ∧
      (∀ call, t.NeedsNobody (.call call) ∨
        ∃ endpoint, t.NeedsServer (.call call) t.nextCall endpoint) ∧
      ∀ id answer, t.NeedsNobody (.answer id answer) ∨
        ∃ endpoint, t.NeedsServer (.answer id answer) id endpoint := by
  intro t
  refine ⟨fun stimulus => ?_, fun signedOut later stays => sent_run_of_signedOut signedOut stays,
    needsServer_of_call t, needsServer_of_answer t⟩
  obtain ⟨asked, sent, carry⟩ := sent_step t stimulus
  refine ⟨asked, sent, fun request member => ?_⟩
  obtain ⟨content, stored, isToken⟩ := Option.bind_eq_some_iff.mp (carry request member)
  obtain ⟨trimmed, someText⟩ := token_of_content isToken
  exact ⟨⟨content, stored, trimmed⟩, someText, carries_request request.endpoint _ _⟩

/-- The request of `start` carries the token without the blanks around it, and is refused. The token
    is gone then, so `start` fails the next time, and nothing more is sent. -/
theorem nothing_after_refusal :
    let s : Session := { baseUrl := "", tokenFile := some " t\n" }
    let stimuli : List Stimulus :=
      [.call (.assign "A"), .call .grantPermissions, .call .start, .answer 2 (.status 401)]
    let again : List Stimulus := [.call .grantPermissions, .call .start]
    let t := s.run stimuli
    t.sent = [⟨.call 2, .start "A", "t"⟩] ∧ t.token? = none ∧
      (∀ stimulus ∈ again, stimulus.signsIn = false) ∧ (t.run again).sent = t.sent ∧
      (t.run again).calls[4]? = some (.returned (some (.error .unauthorized))) := by
  intro s stimuli again t
  have signedOut : t.token? = none := by decide +kernel
  have stays : ∀ stimulus ∈ again, stimulus.signsIn = false := by decide +kernel
  obtain ⟨-, nothing, -⟩ := asked_with_token s stimuli
  have later : (t.run again).sent = t.sent := (nothing signedOut again stays).2
  have failed : (t.run again).calls[4]? = some (.returned (some (.error .unauthorized))) :=
    failed_of_failure? (by decide +kernel)
  exact ⟨by decide +kernel, signedOut, stays, later, failed⟩

end

end Session

end Viva
