import Viva.Proofs.Conversation.Soundness

/-! # What stays

Only two actions drop what there was: the one that assigns, and the reset. As long as neither of them
is taken, messages are added one at a time at the end, a message changes only while it receives
tokens, and what is known of the attempt stays known. A step lemma says so of one action, and the
relations are transitive, so runs follow by induction.
-/

namespace Viva

/-- The action drops the conversation there was. -/
def Action.startsOver : Action → Bool
  | assign _ | reset => true
  | _ => false

/-- What may become of a message: text is added to it, and it is closed, both only while it receives
    tokens. -/
structure Message.Grows (before after : Message) : Prop where
  id : after.id = before.id
  speaker : after.speaker = before.speaker
  content : ∃ more, after.content = before.content ++ more
  streams : after.isStreaming = true → before.isStreaming = true
  complete : before.isStreaming = false → after = before

namespace Message.Grows

theorem refl (message : Message) : message.Grows message :=
  ⟨rfl, rfl, ⟨"", String.append_empty.symm⟩, fun streams => streams, fun _ => rfl⟩

theorem trans {a b c : Message} (first : a.Grows b) (second : b.Grows c) : a.Grows c where
  id := second.id.trans first.id
  speaker := second.speaker.trans first.speaker
  content := by
    obtain ⟨more, added⟩ := first.content
    obtain ⟨yetMore, addedThen⟩ := second.content
    exact ⟨more ++ yetMore, by rw [addedThen, added, String.append_assoc]⟩
  streams := fun still => first.streams (second.streams still)
  complete := by
    intro done
    -- A complete message is the same after the first change, so it is complete for the second.
    obtain rfl := first.complete done
    exact second.complete done

theorem tokens {message : Message} (streams : message.isStreaming = true) (content : String) :
    message.Grows { message with content := message.content ++ content } :=
  ⟨rfl, rfl, ⟨content, rfl⟩, fun _ => streams, fun done => by cases streams.symm.trans done⟩

theorem close (message : Message) : message.Grows { message with isStreaming := false } where
  id := rfl
  speaker := rfl
  content := ⟨"", String.append_empty.symm⟩
  streams := nofun
  complete := by
    intro done
    cases message
    cases done
    rfl

end Message.Grows

namespace Conversation

/-! ## Messages -/

/-- The messages `before` are the first of `after`, each in its place and perhaps grown, and `added`
    messages follow them. -/
structure Extends (before after : List Message) (added : Nat) : Prop where
  length : after.length = before.length + added
  kept : ∀ (i : Nat) (message : Message), before[i]? = some message →
    ∃ later, after[i]? = some later ∧ message.Grows later

namespace Extends

theorem refl (messages : List Message) : Extends messages messages 0 :=
  ⟨rfl, fun _ message here => ⟨message, here, .refl message⟩⟩

theorem trans {a b c : List Message} {m n : Nat} (first : Extends a b m) (second : Extends b c n) :
    Extends a c (m + n) where
  length := by rw [second.length, first.length, Nat.add_assoc]
  kept := by
    intro i message here
    obtain ⟨later, there, grows⟩ := first.kept i message here
    obtain ⟨last, atLast, growsThen⟩ := second.kept i later there
    exact ⟨last, atLast, grows.trans growsThen⟩

theorem concat (messages : List Message) (message : Message) :
    Extends messages (messages ++ [message]) 1 where
  length := List.length_append
  kept := by
    intro i old here
    have inside := (List.getElem?_eq_some_iff.mp here).1
    exact ⟨old, (List.getElem?_append_left inside).trans here, .refl old⟩

theorem close (messages : List Message) :
    Extends messages (messages.map fun message => { message with isStreaming := false }) 0 where
  length := List.length_map _
  kept := by
    intro i message here
    refine ⟨{ message with isStreaming := false }, ?_, .close message⟩
    rw [List.getElem?_map, here]
    rfl

theorem tokens (content : String) (messages : List Message) :
    Extends messages (appendToFirst content messages) 0 := by
  induction messages with
  | nil => exact .refl []
  | cons message rest ih =>
      unfold appendToFirst
      split
      · rename_i streams
        refine ⟨rfl, fun i old here => ?_⟩
        cases i with
        | zero =>
            obtain rfl := Option.some.inj here
            exact ⟨_, rfl, .tokens streams content⟩
        | succ i => exact ⟨old, here, .refl old⟩
      · refine ⟨congrArg (· + 1) ih.length, fun i old here => ?_⟩
        cases i with
        | zero => exact ⟨old, here, .refl old⟩
        | succ i => exact ih.kept i old here

end Extends

theorem extends_closeMessages (c : Conversation) :
    Extends c.messages c.closeMessages.messages 0 :=
  .close c.messages

theorem extends_finishMessage (c : Conversation) :
    Extends c.messages c.finishMessage.messages 0 := by
  unfold finishMessage
  dsimp only
  split <;> exact extends_closeMessages c

theorem extends_openPlaceholder (c : Conversation) :
    ∃ added ≤ 1, Extends c.messages c.openPlaceholder.messages added := by
  unfold openPlaceholder
  split
  · exact ⟨0, Nat.zero_le 1, .refl _⟩
  · exact ⟨1, Nat.le_refl 1, .concat _ _⟩

theorem messages_signalCompletion (c : Conversation) (evaluationId : Option String) :
    (c.signalCompletion evaluationId).messages = c.messages := by
  unfold signalCompletion
  dsimp only
  split
  · split <;> rfl
  · rfl

/-- One action: it adds a message or lets messages grow. -/
theorem extends_reduce (c : Conversation) {action : Action} (goesOn : action.startsOver = false) :
    ∃ added ≤ 1, Extends c.messages (c.reduce action).messages added := by
  have same : ∃ added ≤ 1, Extends c.messages c.messages added := ⟨0, Nat.zero_le 1, .refl _⟩
  have closed : ∃ added ≤ 1, Extends c.messages c.closeMessages.messages added :=
    ⟨0, Nat.zero_le 1, extends_closeMessages c⟩
  have pushed (speaker content isStreaming) :
      ∃ added ≤ 1, Extends c.messages (c.push speaker content isStreaming).messages added :=
    ⟨1, Nat.le_refl 1, .concat _ _⟩
  cases action with
  | assign assignmentId | reset => cases goesOn
  | attemptIdentified attemptId assignmentId objectiveTitle => exact same
  | addSystemMessage content => exact pushed .system content false
  | appendToken content => exact ⟨0, Nat.zero_le 1, .tokens content c.messages⟩
  | finishStreamingMessage => exact ⟨0, Nat.zero_le 1, extends_finishMessage c⟩
  | assessmentComplete evaluationId =>
      simp only [reduce, messages_signalCompletion]
      exact same
  | startAssessment attemptId objectiveTitle startedAt =>
      simp only [reduce]
      split
      · exact extends_openPlaceholder c
      · exact same
  | sendMessage content =>
      simp only [reduce]
      split
      · exact pushed .learner content false
      · exact same
  | beginInterviewerMessage =>
      simp only [reduce]
      split
      · exact pushed .interviewer "" true
      · exact same
  | setError message =>
      simp only [reduce]
      split
      · exact same
      · exact closed
  | grantPermissions | continueAfterClosure | beginCompletion | completeAssessment completedAt
  | clearError =>
      simp only [reduce]
      split <;> exact same

theorem extends_foldl (c : Conversation) {actions : List Action}
    (goesOn : ∀ action ∈ actions, action.startsOver = false) :
    ∃ added, Extends c.messages (actions.foldl reduce c).messages added := by
  induction actions generalizing c with
  | nil => exact ⟨0, .refl _⟩
  | cons action rest ih =>
      obtain ⟨goesOnNow, goesOnLater⟩ := List.forall_mem_cons.mp goesOn
      obtain ⟨one, -, now⟩ := extends_reduce c goesOnNow
      obtain ⟨more, later⟩ := ih (c.reduce action) goesOnLater
      exact ⟨one + more, now.trans later⟩

/-- What was said stays. One action leaves every message in its place, changes at most the text and
    the flag of one that receives tokens, and adds one message at most, at the end. So a message that
    is complete is the same after any number of actions. -/
theorem transcript_append_only (c : Conversation) :
    (∀ action : Action, action.startsOver = false →
      ∃ added ≤ 1, Extends c.messages (c.reduce action).messages added) ∧
    ∀ actions : List Action, (∀ action ∈ actions, action.startsOver = false) →
      ∀ (i : Nat) (message : Message), c.messages[i]? = some message →
        message.isStreaming = false → (actions.foldl reduce c).messages[i]? = some message := by
  refine ⟨fun action goesOn => extends_reduce c goesOn, ?_⟩
  intro actions goesOn i message here done
  obtain ⟨added, extended⟩ := extends_foldl c goesOn
  obtain ⟨later, there, grows⟩ := extended.kept i message here
  rw [there, grows.complete done]

/-- The learner's message is complete at once, and the reply to it goes on behind it until an error
    closes it. -/
theorem transcript_of_failed_reply :
    let asked := [Action.assign "A", .startAssessment (some "T") none "", .finishStreamingMessage,
      .sendMessage "two"].foldl reduce {}
    let reply : List Action := [.beginInterviewerMessage, .appendToken "fo", .setError "gone"]
    asked.messages[1]? = some ⟨messageId 1, .learner, "two", false⟩ ∧
      (∃ added ≤ 1, Extends asked.messages
        (asked.reduce .beginInterviewerMessage).messages added) ∧
      (reply.foldl reduce asked).messages[1]? = some ⟨messageId 1, .learner, "two", false⟩ ∧
      (reply.foldl reduce asked).messages[2]? = some ⟨messageId 2, .interviewer, "fo", false⟩ := by
  intro asked reply
  have here : asked.messages[1]? = some ⟨messageId 1, .learner, "two", false⟩ := by decide
  obtain ⟨step, stays⟩ := transcript_append_only asked
  exact ⟨here, step .beginInterviewerMessage rfl, stays reply (by decide) 1 _ here rfl, by decide⟩

/-! ## What is known of the attempt -/

/-- What there is to know of an attempt besides its messages. -/
inductive Fact where
  | attempt
  | assignment
  | title
  | evaluation
  | start
  | completion
  deriving Repr, DecidableEq

/-- What is known, if it is known yet. -/
def known? (c : Conversation) : Fact → Option String
  | .attempt => c.attemptId
  | .assignment => c.assignmentId
  | .title => c.objectiveTitle
  | .evaluation => c.evaluationId
  | .start => c.startedAt
  | .completion => c.completedAt

/-- Whatever is known before is known after. -/
def Retains (before after : Conversation) : Prop :=
  ∀ fact value, before.known? fact = some value → after.known? fact = some value

theorem Retains.trans {a b c : Conversation} (first : a.Retains b) (second : b.Retains c) :
    a.Retains c :=
  fun fact value known => second fact value (first fact value known)

theorem Retains.of_same {c c' : Conversation} (same : c'.known? = c.known?) : c.Retains c' :=
  fun fact _ known => (congrFun same fact).trans known

/-- A value that is filled in does not replace one that is known. -/
theorem fill_of_known {known : Option String} {value : String} (isKnown : known = some value)
    (new : Option String) : fill known new = some value := by
  rw [isKnown]
  rfl

/-- An attempt that has not begun has no time at which it began. This is what makes it harmless that
    the beginning of an attempt overwrites the time. -/
def Undated (c : Conversation) : Prop :=
  c.phase = .ready ∨ c.phase = .initializing → c.startedAt = none

theorem undated_new : Undated {} :=
  fun _ => rfl

theorem Undated.reduce {c : Conversation} (undated : c.Undated) (action : Action) :
    (c.reduce action).Undated := by
  unfold Undated at undated ⊢
  cases action <;> grind [Conversation.reduce, about, push, openPlaceholder, append, closeMessages,
    finishMessage, signalCompletion]

theorem known?_finishMessage (c : Conversation) : c.finishMessage.known? = c.known? := by
  unfold finishMessage
  dsimp only
  split <;> rfl

theorem known?_openPlaceholder (c : Conversation) : c.openPlaceholder.known? = c.known? := by
  unfold openPlaceholder
  split <;> rfl

theorem retains_startAssessment {c : Conversation} (undated : c.Undated)
    (attemptId objectiveTitle : Option String) (startedAt : Timestamp) :
    c.Retains (c.reduce (.startAssessment attemptId objectiveTitle startedAt)) := by
  simp only [reduce]
  split
  · rename_i waits
    intro fact value known
    have kept : c.openPlaceholder.known? fact = some value := by
      rwa [known?_openPlaceholder]
    cases fact with
    | attempt | title => exact fill_of_known known _
    | assignment | evaluation | completion => exact kept
    | start =>
        have never := undated (by simpa using waits)
        cases never.symm.trans known
  · exact .of_same rfl

theorem retains_signalCompletion (c : Conversation) (evaluationId : Option String) :
    c.Retains (c.signalCompletion evaluationId) := by
  have filled : c.Retains { c with evaluationId := fill c.evaluationId evaluationId } := by
    intro fact value known
    cases fact with
    | evaluation => exact fill_of_known known _
    | attempt | assignment | title | start | completion => exact known
  unfold signalCompletion
  dsimp only
  split
  · split <;> exact filled
  · exact filled

/-- An attempt that is handed in is completed in another phase, so its time is not there yet. -/
theorem retains_completeAssessment {c : Conversation} (sound : c.Sound) (completedAt : Timestamp) :
    c.Retains (c.reduce (.completeAssessment completedAt)) := by
  simp only [reduce]
  split
  · rename_i completing
    intro fact value known
    cases fact with
    | attempt | assignment | title | evaluation | start => exact known
    | completion =>
        have completed := sound.completed_iff.mpr (Option.isSome_iff_exists.mpr ⟨value, known⟩)
        rw [completed] at completing
        cases completing
  · exact .of_same rfl

theorem retains_reduce {c : Conversation} (sound : c.Sound) (undated : c.Undated)
    {action : Action} (goesOn : action.startsOver = false) : c.Retains (c.reduce action) := by
  cases action with
  | assign assignmentId | reset => cases goesOn
  | startAssessment attemptId objectiveTitle startedAt =>
      exact retains_startAssessment undated attemptId objectiveTitle startedAt
  | attemptIdentified attemptId assignmentId objectiveTitle =>
      intro fact value known
      cases fact with
      | attempt | assignment | title => exact fill_of_known known _
      | evaluation | start | completion => exact known
  | assessmentComplete evaluationId => exact retains_signalCompletion c evaluationId
  | completeAssessment completedAt => exact retains_completeAssessment sound completedAt
  | finishStreamingMessage => exact .of_same (known?_finishMessage c)
  | appendToken content | addSystemMessage content => exact .of_same rfl
  | grantPermissions | sendMessage content | beginInterviewerMessage | continueAfterClosure
  | beginCompletion | setError message | clearError =>
      simp only [reduce]
      split <;> exact .of_same rfl

theorem retains_foldl {c : Conversation} (sound : c.Sound) (undated : c.Undated)
    {actions : List Action} (goesOn : ∀ action ∈ actions, action.startsOver = false) :
    c.Retains (actions.foldl reduce c) := by
  induction actions generalizing c with
  | nil => exact .of_same rfl
  | cons action rest ih =>
      obtain ⟨goesOnNow, goesOnLater⟩ := List.forall_mem_cons.mp goesOn
      exact (retains_reduce sound undated goesOnNow).trans
        (ih (sound.reduce action) (undated.reduce action) goesOnLater)

theorem Undated.foldl {c : Conversation} (undated : c.Undated) (actions : List Action) :
    (actions.foldl Conversation.reduce c).Undated := by
  induction actions generalizing c with
  | nil => exact undated
  | cons action rest ih => exact ih (undated.reduce action)

/-- What is known of an attempt at some point of a run stays as it is, as long as the conversation
    does not start over: who it is, what it is about, when it began and when it was completed. -/
theorem known_stays_known (actions : List Action) {stretch : List Action}
    (goesOn : ∀ action ∈ stretch, action.startsOver = false) {fact : Fact} {value : String}
    (known : (actions.foldl reduce {}).known? fact = some value) :
    ((actions ++ stretch).foldl reduce {}).known? fact = some value := by
  rw [List.foldl_append]
  exact retains_foldl (sound_new.foldl actions) (undated_new.foldl actions) goesOn fact value known

/-- A conversation that is back in progress after an error is not begun again, and its attempt is
    not given another name. -/
theorem start_known_after_error :
    let actions : List Action := [.assign "A", .startAssessment (some "T") none "noon"]
    let stretch : List Action := [.setError "gone", .clearError,
      .startAssessment (some "U") none "late", .attemptIdentified (some "V") none none]
    (actions.foldl reduce {}).known? .start = some "noon" ∧
      ((actions ++ stretch).foldl reduce {}).known? .start = some "noon" ∧
      ((actions ++ stretch).foldl reduce {}).known? .attempt = some "T" := by
  intro actions stretch
  have goesOn : ∀ action ∈ stretch, action.startsOver = false := by decide
  exact ⟨rfl, known_stays_known actions goesOn rfl, known_stays_known actions goesOn rfl⟩

end Conversation

end Viva
