import Viva.Proofs.Session.Exchange

/-! # A reply that signals the completion

Somewhere in its last reply the interviewer says that it has nothing more to ask. Before the event
that ends the reply the completion waits for that event; behind it the completion takes place at
once. Both come to the same: the signal may be moved to the beginning of the reply
(`Replying.hear_anywhere`), so its place makes no difference.
-/

namespace Viva

namespace Transcript

/-- An answer in which a message ends, without an error of the server, is a success. -/
theorem outcome_of_complete {t : Transcript} (complete : t.isComplete = true)
    (fine : t.failure = none) :
    t.outcome .response none = .ok (.completed t.done? t.tokenCount) := by
  simp only [outcome, complete, fine]

end Transcript

namespace Conversation

section
variable {c : Conversation} {before : List Message} {id text : String}

theorem Replying.signalled (replying : c.Replying before id text) (evaluationId : Option String) :
    (c.hear [.assessmentComplete evaluationId]).Replying before id text := by
  rw [replying.hear_signal]
  exact ⟨replying.phase, replying.messages, replying.silent⟩

/-! ## The place of the signal -/

/-- Whether the message ends first or the signal comes first, the completion takes place. -/
theorem finishMessage_signalCompletion (talking : c.phase = .inProgress)
    (streams : c.isStreaming = true) (evaluationId : Option String) :
    (c.signalCompletion evaluationId).finishMessage =
      c.finishMessage.signalCompletion evaluationId := by
  rw [signalCompletion_of_streams talking streams]
  cases pending : c.completionPending with
  | true =>
      -- A completion waits already, so the end of the message is enough.
      simp [finishMessage, signalCompletion, closeMessages, talking, pending]
  | false =>
      simp [finishMessage, signalCompletion, closeMessages, talking, pending, isStreaming]

theorem Replying.signal_token (replying : c.Replying before id text) (content : String)
    (evaluationId : Option String) :
    (c.hear [.assessmentComplete evaluationId]).hear [.token content] =
      (c.hear [.token content]).hear [.assessmentComplete evaluationId] := by
  rw [(replying.signalled evaluationId).hear_token, (replying.token content).hear_signal,
    replying.hear_signal, replying.hear_token]
  rfl

theorem Replying.signal_last (replying : c.Replying before id text) {last : Event}
    (terminal : last.isTerminal = true) (evaluationId : Option String) :
    (c.hear [.assessmentComplete evaluationId]).hear [last] =
      (c.hear [last]).hear [.assessmentComplete evaluationId] := by
  cases last with
  | messageDone => exact finishMessage_signalCompletion replying.phase replying.isStreaming _
  | done payload =>
      -- What the server tells of the attempt has nothing to do with the signal.
      let told := Action.attemptIdentified payload.attemptId payload.assignmentId
        payload.objectiveTitle
      have identified : (c.reduce told).Replying before id text :=
        ⟨replying.phase, replying.messages, replying.silent⟩
      have same : (c.hear [.assessmentComplete evaluationId]).reduce told =
          (c.reduce told).signalCompletion evaluationId := by
        rw [replying.hear_signal]
        exact (identified.hear_signal evaluationId).symm
      calc ((c.hear [.assessmentComplete evaluationId]).reduce told).finishMessage
          = ((c.reduce told).signalCompletion evaluationId).finishMessage := by rw [same]
        _ = (c.reduce told).finishMessage.signalCompletion evaluationId :=
            finishMessage_signalCompletion identified.phase identified.isStreaming evaluationId
  | token | assessmentComplete | error | unknown => cases terminal

/-- The signal may as well be the first event of the reply. -/
theorem Replying.hear_anywhere (replying : c.Replying before id text) {tokens : List String}
    {last : Event} (terminal : last.isTerminal = true) {earlier later : List Event}
    (split : earlier ++ later = tokens.map .token ++ [last]) (evaluationId : Option String) :
    c.hear (earlier ++ .assessmentComplete evaluationId :: later) =
      (c.hear [.assessmentComplete evaluationId]).hear (tokens.map .token ++ [last]) := by
  -- The signal moves to the front over one event after the other that stands before it.
  induction earlier generalizing c text tokens with
  | nil =>
      rw [List.nil_append] at split
      rw [List.nil_append, hear_cons, split]
  | cons event rest ih =>
      cases tokens with
      | nil =>
          obtain ⟨rfl, nothing⟩ := List.cons.inj split
          -- Both lists are empty: the last event of the reply stands before the signal.
          obtain ⟨rfl, rfl⟩ := List.append_eq_nil_iff.mp nothing
          exact (hear_append c [event] _).trans (replying.signal_last terminal evaluationId).symm
      | cons content tokens =>
          obtain ⟨rfl, others⟩ := List.cons.inj split
          rw [List.cons_append, hear_cons, ih (replying.token content) others,
            ← replying.signal_token content evaluationId, ← hear_cons]
          rfl

/-- A reply during which the completion waits: at its end it takes place. -/
theorem Replying.concludes (replying : c.Replying before id text)
    (waits : c.completionPending = true) (tokens : List String) {last : Event}
    (terminal : last.isTerminal = true) :
    let after := (c.hear (tokens.map .token ++ [last])).reduce .finishStreamingMessage
    after.phase = .closureReady ∧ after.completionPending = false ∧
      after.evaluationId = c.evaluationId := by
  intro after
  have heard : after = ((c.hear (tokens.map .token)).hear [last]).finishMessage := by
    rw [← hear_append]
    rfl
  rw [heard, replying.hear_tokens]
  cases last with
  | messageDone | done payload =>
      simp [hear, Event.actions, reduce, finishMessage, closeMessages, waits, replying.phase]
  | token | assessmentComplete | error | unknown => cases terminal

end

theorem evaluationId_said (c : Conversation) (content : String) :
    (c.said content).evaluationId = c.evaluationId := by
  simp only [said, reduce]
  split <;> split <;> rfl

end Conversation

namespace Session

open Conversation

/-! ## Two replies -/

/-- The server accepts what a call has sent, and these are the events of its answer that mean
    something. It is cut into reads somehow, and no other call is under way meanwhile. -/
structure Answered (s : Session) (id : Nat) (events : List Event) (stimuli : List Stimulus) :
    Prop where
  delivered : ∃ (code : Nat) (reads : List (List UInt8)), (200 ≤ code ∧ code < 300) ∧
    (({} : FrameReader).feed reads.flatten).1.filterMap Event.ofFrame? = events ∧
    stimuli.filter (!·.isBackground) = response id code (reads.map .ok)
  untroubled : s.isUntroubled stimuli = true

section
variable {s : Session} {content attemptId token : String}

/-- A message and an answer in which a message ends: the conversation hears the whole answer, and
    the call succeeds. -/
theorem hears_answer (reachable : s.Reachable) (can : s.conversation.canSend = true)
    (identified : s.conversation.attemptId = some attemptId) (idle : s.replies.isLive = false)
    (hasText : Text.isBlankText content = false) {events : List Event}
    (complete : events.any Event.isTerminal = true)
    (fine : ∀ event ∈ events, event.serverFailure? = none) {stimuli : List Stimulus}
    (answered : (s.step (.call (.sendMessage content))).Answered s.nextCall events stimuli)
    (signedIn : s.token? = some token) :
    let t := (s.step (.call (.sendMessage content))).run stimuli
    t.conversation = ((s.conversation.said content).hear events).reduce .finishStreamingMessage ∧
      t.calls[s.nextCall]? = some (.returned (some (.ok ()))) := by
  intro t
  obtain ⟨⟨code, reads, ok, known, exchange⟩, untroubled⟩ := answered
  have nothing := cutOff_of_idle idle
  obtain ⟨asks, said, -⟩ :=
    asks_of_taken reachable can (by rwa [nothing]) hasText identified signedIn
  have live := ((reachable.step (.call (.sendMessage content))).tended.slots .response).live _
    (Slot.isCurrent_iff.mp asks.owns)
  have ends := run_response asks.waits asks.owns live ok exchange untroubled
  let told := Transcript.mk events none
  have completed : told.outcome .response none = .ok (.completed told.done? told.tokenCount) :=
    Transcript.outcome_of_complete complete rfl
  rw [Body.transcript, Body.bytes_map_ok, readFailure?, Body.failure?_map_ok,
    Transcript.ofFrames_of_fine known fine, Option.map_none, completed] at ends
  obtain ⟨conversation, returned, -⟩ := ends.completed
  rw [said, nothing] at conversation
  exact ⟨conversation, returned⟩

/-- A reply that signals the completion somewhere: the conversation is what it would be if the
    signal had come first. -/
theorem hears_signalled (reachable : s.Reachable) (phase : s.conversation.phase = .inProgress)
    (identified : s.conversation.attemptId = some attemptId) (idle : s.replies.isLive = false)
    (silent : s.conversation.isStreaming = false) (hasText : Text.isBlankText content = false)
    {tokens : List String} {last : Event} (terminal : last.isTerminal = true)
    {earlier later : List Event} (split : earlier ++ later = tokens.map .token ++ [last])
    {evaluationId : Option String} {stimuli : List Stimulus}
    (answered : (s.step (.call (.sendMessage content))).Answered s.nextCall
      (earlier ++ .assessmentComplete evaluationId :: later) stimuli)
    (signedIn : s.token? = some token) :
    let t := (s.step (.call (.sendMessage content))).run stimuli
    t.conversation = (((s.conversation.said content).hear [.assessmentComplete evaluationId]).hear
        (tokens.map .token ++ [last])).reduce .finishStreamingMessage ∧
      t.calls[s.nextCall]? = some (.returned (some (.ok ()))) := by
  intro t
  have can := canSend_of_inProgress phase
  -- The signal is neither the event that ends the reply nor an error, so these are the reply's.
  have amongst (event : Event) : event ∈ earlier ++ .assessmentComplete evaluationId :: later ↔
      event = .assessmentComplete evaluationId ∨ event ∈ tokens.map .token ++ [last] := by
    rw [← split, List.mem_append, List.mem_cons, List.mem_append, or_left_comm]
  have complete : (earlier ++ .assessmentComplete evaluationId :: later).any Event.isTerminal =
      true := by
    refine List.any_eq_true.mpr ⟨last, (amongst last).mpr (.inr ?_), terminal⟩
    exact List.mem_append_right _ List.mem_cons_self
  have fine : ∀ event ∈ earlier ++ .assessmentComplete evaluationId :: later,
      event.serverFailure? = none := by
    intro event member
    rcases (amongst event).mp member with rfl | reply
    · rfl
    · exact Event.fine_of_mem_reply terminal reply
  obtain ⟨heard, returned⟩ := hears_answer reachable can identified idle hasText complete fine answered
    signedIn
  rw [(replying_said can hasText silent).hear_anywhere terminal split] at heard
  exact ⟨heard, returned⟩

/-- Two answers to a message with the same tokens, the same event that ends the reply and the same
    signal of the completion, which may stand anywhere in either: before the tokens, between them,
    right before the end or behind it. A learner who is signed out gets no answer. For one who is
    signed in both calls succeed, and they leave the same conversation: the completion has taken
    place, the reply is a message of its own, and nothing is waited for. -/
theorem same_of_signal_moved (reachable : s.Reachable)
    (phase : s.conversation.phase = .inProgress)
    (identified : s.conversation.attemptId = some attemptId) (idle : s.replies.isLive = false)
    (silent : s.conversation.isStreaming = false) (hasText : Text.isBlankText content = false)
    {tokens : List String} {last : Event} (terminal : last.isTerminal = true)
    {evaluationId : Option String} {earlier later earlier' later' : List Event}
    (split : earlier ++ later = tokens.map .token ++ [last])
    (split' : earlier' ++ later' = tokens.map .token ++ [last]) {stimuli stimuli' : List Stimulus}
    (answered : (s.step (.call (.sendMessage content))).Answered s.nextCall
      (earlier ++ .assessmentComplete evaluationId :: later) stimuli)
    (answered' : (s.step (.call (.sendMessage content))).Answered s.nextCall
      (earlier' ++ .assessmentComplete evaluationId :: later') stimuli') :
    let asking := s.step (.call (.sendMessage content))
    let t := asking.run stimuli
    let t' := asking.run stimuli'
    (s.token? = none → asking.sent = s.sent ∧
      ∃ failure, asking.calls[s.nextCall]? = some (.returned (some (.error failure)))) ∧
    ∀ token, s.token? = some token →
      t.calls[s.nextCall]? = some (.returned (some (.ok ()))) ∧
      t'.calls[s.nextCall]? = some (.returned (some (.ok ()))) ∧
      t'.conversation = t.conversation ∧ t.conversation.phase = .closureReady ∧
      t.conversation.completionPending = false ∧ t.conversation.isWaiting = false ∧
      t.conversation.messages = s.conversation.messages ++
        [⟨messageId s.conversation.nextMessage, .learner, content, false⟩,
          ⟨messageId (s.conversation.nextMessage + 1), .interviewer, String.join tokens, false⟩] ∧
      t.conversation.evaluationId = fill s.conversation.evaluationId evaluationId := by
  intro asking t t'
  refine ⟨unanswered_of_signedOut reachable phase idle hasText, fun token signedIn => ?_⟩
  have can := canSend_of_inProgress phase
  obtain ⟨heard, returned⟩ := hears_signalled reachable phase identified idle silent hasText
    terminal split answered signedIn
  obtain ⟨heard', returned'⟩ := hears_signalled reachable phase identified idle silent hasText
    terminal split' answered' signedIn
  have same : t'.conversation = t.conversation := heard'.trans heard.symm
  have replying := replying_said can hasText silent
  have signalled := replying.hear_signal evaluationId
  have waits : ((s.conversation.said content).hear
      [.assessmentComplete evaluationId]).completionPending = true := by rw [signalled]
  obtain ⟨messages, silence⟩ := (replying.signalled evaluationId).complete tokens terminal
  obtain ⟨isOver, settled, evaluated⟩ :=
    (replying.signalled evaluationId).concludes waits tokens terminal
  rw [← heard] at messages silence isOver settled evaluated
  rw [List.append_assoc] at messages
  rw [signalled] at evaluated
  have filled := congrArg (fill · evaluationId) (evaluationId_said s.conversation content)
  exact ⟨returned, returned', same, isOver, settled, silence, messages, evaluated.trans filled⟩

end

/-- The interviewer says good-bye: the signal comes first. -/
def farewellText : String :=
  "event: assessment_complete\ndata: \x7b\"evaluation_id\":\"E\"\x7d\n\n" ++
    "event: token\ndata: \x7b\"content\":\"Bye\"\x7d\n\n" ++ "event: done\ndata: \x7b\x7d\n\n"

/-- The interviewer says good-bye: the signal comes last. -/
def afterthoughtText : String :=
  "event: token\ndata: \x7b\"content\":\"Bye\"\x7d\n\n" ++ "event: done\ndata: \x7b\x7d\n\n" ++
    "event: assessment_complete\ndata: \x7b\"evaluation_id\":\"E\"\x7d\n\n"

/-- The signal comes before all else, or after the end in a read of its own. -/
theorem same_of_farewells :
    let s := ({ baseUrl := "", tokenFile := some "t" } : Session).run
      [.call (.assign "A"), .call (.startExisting "T" ""), .dispatch .finishStreamingMessage]
    let first := Text.Utf8.encode farewellText
    let second := Text.Utf8.encode afterthoughtText
    let asking := s.step (.call (.sendMessage "Hello?"))
    let t := asking.run [.answer 2 (.status 200), .read 2 (.bytes first), .elapse 5, .read 2 .ended]
    let t' := asking.run [.answer 2 (.status 200), .read 2 (.bytes (second.take 60)), .pump,
      .read 2 (.bytes (second.drop 60)), .read 2 .ended]
    s.Reachable ∧ t'.conversation = t.conversation ∧ t.conversation.phase = .closureReady ∧
      t.conversation.completionPending = false ∧ t.conversation.isWaiting = false ∧
      t.conversation.evaluationId = some "E" := by
  intro s first second asking t t'
  have reachable : s.Reachable :=
    ⟨_, ⟨rfl, fun transport => by cases transport <;> rfl⟩, later_run _ _⟩
  have hasText : Text.isBlankText "Hello?" = false := by decide
  let last := Event.done {}
  have split : [] ++ [.token "Bye", last] = ["Bye"].map .token ++ [last] := rfl
  have split' : [.token "Bye", last] ++ [] = ["Bye"].map .token ++ [last] := rfl
  have answered : asking.Answered s.nextCall
      ([] ++ .assessmentComplete (some "E") :: [.token "Bye", last])
      [.answer 2 (.status 200), .read 2 (.bytes first), .elapse 5, .read 2 .ended] :=
    ⟨⟨200, [first], by decide, by decide +kernel, rfl⟩, by decide +kernel⟩
  have answered' : asking.Answered s.nextCall
      ([.token "Bye", last] ++ .assessmentComplete (some "E") :: [])
      [.answer 2 (.status 200), .read 2 (.bytes (second.take 60)), .pump,
        .read 2 (.bytes (second.drop 60)), .read 2 .ended] := by
    refine ⟨⟨200, [second.take 60, second.drop 60], by decide, ?_, rfl⟩, by decide +kernel⟩
    decide +kernel
  obtain ⟨-, answers⟩ := same_of_signal_moved reachable rfl rfl rfl rfl hasText rfl split split'
    answered answered'
  obtain ⟨-, -, same, isOver, settled, silence, -, evaluated⟩ := answers "t" rfl
  exact ⟨reachable, same, isOver, settled, silence, evaluated⟩

end Session

end Viva
