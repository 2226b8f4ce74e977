import Viva.Proofs.Conversation.Hearing
import Viva.Stream.Consumption

/-! # What messages are made of

The text of a message comes in pieces, from a stream or from the host. A conversation keeps the text
and not who said it, so the pieces are put down beside it: each with its voice, and with the place of
the message it went to. The text of a message of the interviewer is that of its pieces (`Made`), and
whatever is done besides carries the messages on as they are (`Carries`).
-/

namespace Viva

/-- Who adds text to a message. -/
inductive Voice where
  /-- The host, by hand. -/
  | host
  | stream (transport : Transport) (generation : Nat)
  deriving Repr, DecidableEq

/-- A piece of text that went into a message. -/
structure Piece where
  voice : Voice
  /-- The place of the message among all. -/
  place : Nat
  text : String
  deriving Repr, DecidableEq

/-- The text of the pieces that went into the message at this place. -/
def Piece.textAt (pieces : List Piece) (place : Nat) : String :=
  String.join ((pieces.filter (·.place == place)).map (·.text))

theorem Piece.textAt_append (first second : List Piece) (place : Nat) :
    textAt (first ++ second) place = textAt first place ++ textAt second place := by
  simp only [textAt, List.filter_append, List.map_append, String.join_append]

/-- The action adds text to a message. -/
def Action.addsText : Action → Bool
  | appendToken _ => true
  | _ => false

namespace Conversation

/-- The place of the message that receives tokens. -/
def openPlace? (c : Conversation) : Option Nat :=
  c.messages.findIdx? (·.isStreaming)

/-- The piece that a text becomes when a voice says it now; it is lost if no message receives
    tokens. -/
def placed (c : Conversation) (voice : Voice) (text : String) : List Piece :=
  c.openPlace?.toList.map fun place => ⟨voice, place, text⟩

/-- The pieces that come of some actions. -/
def pieces (c : Conversation) (voice : Voice) : List Action → List Piece
  | [] => []
  | .appendToken text :: rest => c.placed voice text ++ (c.append text).pieces voice rest
  | action :: rest => (c.reduce action).pieces voice rest

theorem pieces_cons_of_silent (c : Conversation) (voice : Voice) {action : Action}
    (silent : action.addsText = false) (rest : List Action) :
    c.pieces voice (action :: rest) = (c.reduce action).pieces voice rest := by
  cases action with
  | appendToken => cases silent
  | _ => rfl

theorem mem_placed {c : Conversation} {voice : Voice} {text : String} {piece : Piece}
    (member : piece ∈ c.placed voice text) :
    piece.voice = voice ∧ ∃ message, c.messages[piece.place]? = some message ∧
      message.isStreaming = true := by
  obtain ⟨place, found, rfl⟩ := List.mem_map.mp member
  rw [Option.mem_toList, openPlace?, List.findIdx?_eq_some_iff_getElem] at found
  obtain ⟨inside, streams, -⟩ := found
  exact ⟨rfl, c.messages[place], List.getElem?_eq_getElem inside, streams⟩

/-! ## Carrying messages on -/

/-- The first messages are as they were, only that they may be closed, and those behind them that
    are the interviewer's have no text yet. -/
structure Carries (c c' : Conversation) : Prop where
  length : c.messages.length ≤ c'.messages.length
  kept : ∀ (i : Nat) (message : Message), c.messages[i]? = some message →
    ∃ later, c'.messages[i]? = some later ∧ later.speaker = message.speaker ∧
      later.content = message.content ∧
      (later.isStreaming = true → message.isStreaming = true)
  fresh : ∀ (i : Nat) (message : Message), c.messages.length ≤ i →
    c'.messages[i]? = some message → message.speaker = .interviewer → message.content = ""

theorem Carries.of_same {c c' : Conversation} (same : c'.messages = c.messages) : c.Carries c' where
  length := Nat.le_of_eq (congrArg List.length same).symm
  kept := fun i message here => ⟨message, same ▸ here, rfl, rfl, fun streams => streams⟩
  fresh := fun i message behind here => by
    rw [same, List.getElem?_eq_none behind] at here
    cases here

theorem Carries.refl (c : Conversation) : c.Carries c := .of_same rfl

theorem Carries.trans {a b c : Conversation} (first : a.Carries b) (second : b.Carries c) :
    a.Carries c where
  length := Nat.le_trans first.length second.length
  kept := by
    intro i message here
    obtain ⟨later, there, speaker, content, streams⟩ := first.kept i message here
    obtain ⟨last, atLast, speakerThen, contentThen, streamsThen⟩ := second.kept i later there
    exact ⟨last, atLast, speakerThen.trans speaker, contentThen.trans content,
      fun still => streams (streamsThen still)⟩
  fresh := by
    intro i message behind here speaks
    rcases Nat.lt_or_ge i b.messages.length with inside | beyond
    · have there := List.getElem?_eq_getElem inside
      obtain ⟨last, atLast, speaker, content, -⟩ := second.kept i _ there
      obtain rfl := Option.some.inj (here.symm.trans atLast)
      rw [content]
      exact first.fresh i _ behind there (speaker.symm.trans speaks)
    · exact second.fresh i message beyond here speaks

theorem carries_push (c : Conversation) (speaker : Speaker) (content : String) (streams : Bool)
    (text : speaker = .interviewer → content = "") : c.Carries (c.push speaker content streams) where
  length := by simp [push]
  kept := by
    intro i message here
    have inside := (List.getElem?_eq_some_iff.mp here).1
    exact ⟨message, (List.getElem?_append_left inside).trans here, rfl, rfl, fun still => still⟩
  fresh := by
    intro i message behind here speaks
    rw [push, List.getElem?_append_right behind, List.getElem?_singleton] at here
    split at here
    · obtain rfl := Option.some.inj here
      exact text speaks
    · cases here

theorem carries_closeMessages (c : Conversation) : c.Carries c.closeMessages where
  length := by simp [closeMessages]
  kept := by
    intro i message here
    refine ⟨{ message with isStreaming := false }, ?_, rfl, rfl, fun still => by cases still⟩
    simp only [closeMessages, List.getElem?_map, here, Option.map_some]
  fresh := by
    intro i message behind here
    have none : c.messages[i]? = none := List.getElem?_eq_none behind
    simp only [closeMessages, List.getElem?_map, none, Option.map_none, reduceCtorEq] at here

/-- An action that neither drops the messages nor adds text carries them on. -/
theorem carries_reduce (c : Conversation) {action : Action}
    (goesOn : action.startsOver = false) (silent : action.addsText = false) :
    c.Carries (c.reduce action) := by
  have same {c' : Conversation} (messages : c'.messages = c.messages) : c.Carries c' :=
    .of_same messages
  cases action with
  | assign | reset => cases goesOn
  | appendToken => cases silent
  | attemptIdentified => exact same rfl
  | addSystemMessage content => exact carries_push c .system content false fun speaks => by cases speaks
  | finishStreamingMessage =>
      exact (carries_closeMessages c).trans (.of_same (messages_finishMessage c))
  | assessmentComplete evaluationId => exact same (messages_signalCompletion c evaluationId)
  | startAssessment =>
      simp only [reduce]
      split
      · unfold openPlaceholder
        split
        · exact same rfl
        · exact (carries_push c .interviewer "" true fun _ => rfl).trans (.of_same rfl)
      · exact .refl c
  | sendMessage content =>
      simp only [reduce]
      split
      · have said := carries_push c .learner content false fun speaks => by cases speaks
        exact said.trans (.of_same rfl)
      · exact .refl c
  | beginInterviewerMessage =>
      simp only [reduce]
      split
      · exact (carries_push c .interviewer "" true fun _ => rfl).trans (.of_same rfl)
      · exact .refl c
  | setError =>
      simp only [reduce]
      split
      · exact .refl c
      · exact (carries_closeMessages c).trans (.of_same rfl)
  | grantPermissions | continueAfterClosure | beginCompletion | completeAssessment | clearError =>
      simp only [reduce]
      split <;> exact same rfl

/-- One of the first messages receives tokens. -/
def OpenBefore (c : Conversation) (count : Nat) : Prop :=
  ∃ (i : Nat) (message : Message), i < count ∧ c.messages[i]? = some message ∧
    message.isStreaming = true

theorem OpenBefore.isStreaming {c : Conversation} {count : Nat} (isOpen : c.OpenBefore count) :
    c.isStreaming = true := by
  obtain ⟨i, message, -, here, streams⟩ := isOpen
  exact List.any_eq_true.mpr ⟨message, List.mem_of_getElem? here, streams⟩

theorem OpenBefore.mono {c : Conversation} {count more : Nat} (le : count ≤ more)
    (isOpen : c.OpenBefore count) : c.OpenBefore more := by
  obtain ⟨i, message, inside, here, streams⟩ := isOpen
  exact ⟨i, message, Nat.lt_of_lt_of_le inside le, here, streams⟩

/-- Messages are not opened again. -/
theorem Carries.openBefore {c c' : Conversation} (carries : c.Carries c') {count : Nat}
    (le : count ≤ c.messages.length) (isOpen : c'.OpenBefore count) : c.OpenBefore count := by
  obtain ⟨i, message, inside, here, streams⟩ := isOpen
  have old := List.getElem?_eq_getElem (Nat.lt_of_lt_of_le inside le)
  obtain ⟨later, there, -, -, wasOpen⟩ := carries.kept i _ old
  obtain rfl := Option.some.inj (here.symm.trans there)
  exact ⟨i, _, inside, old, wasOpen streams⟩

/-! ## The text of the pieces -/

theorem getElem?_appendToFirst (text : String) (messages : List Message) (i : Nat) :
    (appendToFirst text messages)[i]? = messages[i]?.map fun message =>
      if messages.findIdx? (·.isStreaming) = some i then
        { message with content := message.content ++ text }
      else message := by
  induction messages generalizing i with
  | nil => rfl
  | cons message rest ih =>
      rw [List.findIdx?_cons, appendToFirst]
      cases streams : message.isStreaming with
      | true => cases i <;> simp [streams]
      | false =>
          cases i with
          | zero => simp
          | succ i => simp [ih]

theorem textAt_placed (c : Conversation) (voice : Voice) (text : String) (place : Nat) :
    Piece.textAt (c.placed voice text) place = if c.openPlace? = some place then text else "" := by
  unfold placed
  cases c.openPlace? with
  | none => simp [Piece.textAt]
  | some i => by_cases here : i = place <;> simp [Piece.textAt, here]

/-- The pieces went into messages that there are, and the text of a message of the interviewer is
    theirs. -/
structure Made (c : Conversation) (pieces : List Piece) : Prop where
  inside : ∀ piece ∈ pieces, piece.place < c.messages.length
  content : ∀ (i : Nat) (message : Message), c.messages[i]? = some message →
    message.speaker = .interviewer → message.content = Piece.textAt pieces i

section
variable {c c' : Conversation} {pieces : List Piece}

theorem made_new {c : Conversation} (none : c.messages = []) : c.Made [] where
  inside := nofun
  content := fun i message here => by
    rw [none] at here
    cases here

theorem Made.carries (made : c.Made pieces) (carries : c.Carries c') : c'.Made pieces where
  inside := fun piece member => Nat.lt_of_lt_of_le (made.inside piece member) carries.length
  content := by
    intro i message here speaks
    rcases Nat.lt_or_ge i c.messages.length with inside | beyond
    · have old := List.getElem?_eq_getElem inside
      obtain ⟨later, there, speaker, content, -⟩ := carries.kept i _ old
      obtain rfl := Option.some.inj (here.symm.trans there)
      rw [content]
      exact made.content i _ old (speaker.symm.trans speaks)
    · -- No piece went into a message that was not there.
      have none : pieces.filter (·.place == i) = [] := by
        refine List.filter_eq_nil_iff.mpr fun piece member isHere => ?_
        have inside := made.inside piece member
        rw [beq_iff_eq.mp isHere] at inside
        exact Nat.not_lt_of_ge beyond inside
      rw [carries.fresh i message beyond here speaks, Piece.textAt, none]
      rfl

theorem Made.append (made : c.Made pieces) (voice : Voice) (text : String) :
    (c.append text).Made (pieces ++ c.placed voice text) where
  inside := by
    intro piece member
    have length : (c.append text).messages.length = c.messages.length :=
      (Extends.tokens text c.messages).length
    rw [length]
    rcases List.mem_append.mp member with old | new
    · exact made.inside piece old
    · obtain ⟨-, message, here, -⟩ := mem_placed new
      exact (List.getElem?_eq_some_iff.mp here).1
  content := by
    intro i message here speaks
    rw [Conversation.append, getElem?_appendToFirst, Option.map_eq_some_iff] at here
    obtain ⟨old, there, changed⟩ := here
    rw [Piece.textAt_append, textAt_placed, openPlace?]
    split at changed
    · rename_i isOpen
      subst changed
      rw [if_pos isOpen, made.content i old there speaks]
    · rename_i isClosed
      subst changed
      rw [if_neg isClosed, made.content i old there speaks, String.append_empty]

end

end Conversation

end Viva
