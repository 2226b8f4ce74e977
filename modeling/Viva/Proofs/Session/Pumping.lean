import Mathlib.Data.List.DropRight
import Viva.Proofs.Recorder.Ending
import Viva.Proofs.Session.Moves
import Viva.Proofs.Session.Tickets

/-! # The order of uploads

The pump takes parts of the recording one after the other and passes them on to be uploaded. What it
does with them in a run is a list of acts (`pumpActsIn`), and the pump's own state and what was sent
are kept in step with it (`Books`): what was taken is what was told, in its order, and was passed on
or is held. A part is passed on to the attempt that was found when the latest part was taken. So
parts are neither reordered nor repeated, and none is left out once an attempt was found behind it
(`passed_in_order`).
-/

namespace Viva

/-- What the pump does with a part of the recording. -/
inductive PumpAct where
  /-- A part is taken, and this attempt is found in the conversation, if any. -/
  | takes (part : Blob × Nat) (found : Option String)
  /-- A part is passed on to be uploaded to an attempt, with the token there is. -/
  | passes (attemptId : String) (part : Blob × Nat) (token : Option String)
  deriving Repr, DecidableEq

namespace PumpAct

def take? : PumpAct → Option ((Blob × Nat) × Option String)
  | takes part found => some (part, found)
  | passes _ _ _ => none

def passed? : PumpAct → Option (Blob × Nat)
  | passes _ part _ => some part
  | takes _ _ => none

/-- The request that the act sends; without a token there is none. -/
def request? : PumpAct → Option Sent
  | passes attemptId part (some token) => some ⟨.pump, .chunk attemptId part.1 part.2, token⟩
  | _ => none

/-- The parts that are taken. -/
def taken (acts : List PumpAct) : List (Blob × Nat) := (acts.filterMap take?).map Prod.fst

/-- The parts that are passed on. -/
def passed (acts : List PumpAct) : List (Blob × Nat) := acts.filterMap passed?

/-- The attempt that was found when the latest part was taken. -/
def found (acts : List PumpAct) : Option String := (acts.filterMap take?).getLast?.bind Prod.snd

/-- The parts taken, up to the latest one that was taken with an attempt found. -/
def due (acts : List PumpAct) : List (Blob × Nat) :=
  ((acts.filterMap take?).rdropWhile (·.2.isNone)).map Prod.fst

/-- Parts go where the attempt was that was found when the latest part was taken. -/
def Addressed (acts : List PumpAct) : Prop :=
  ∀ before attemptId part token after, acts = before ++ passes attemptId part token :: after →
    found before = some attemptId

section
variable {acts : List PumpAct} {attemptId : String} {part : Blob × Nat} {token : Option String}

theorem passed_append (acts more : List PumpAct) :
    passed (acts ++ more) = passed acts ++ passed more :=
  List.filterMap_append

theorem passed_takes (acts : List PumpAct) (part : Blob × Nat) (there : Option String) :
    passed (acts ++ [takes part there]) = passed acts := by
  rw [passed_append]
  exact List.append_nil _

theorem takings_takes (acts : List PumpAct) (part : Blob × Nat) (there : Option String) :
    (acts ++ [takes part there]).filterMap take? = acts.filterMap take? ++ [(part, there)] :=
  List.filterMap_append

theorem takings_passes (acts : List PumpAct) (attemptId : String) (part : Blob × Nat)
    (token : Option String) :
    (acts ++ [passes attemptId part token]).filterMap take? = acts.filterMap take? := by
  rw [List.filterMap_append]
  exact List.append_nil _

theorem taken_takes (acts : List PumpAct) (part : Blob × Nat) (there : Option String) :
    taken (acts ++ [takes part there]) = taken acts ++ [part] := by
  rw [taken, takings_takes, List.map_append]
  rfl

theorem taken_passes (acts : List PumpAct) (attemptId : String) (part : Blob × Nat)
    (token : Option String) : taken (acts ++ [passes attemptId part token]) = taken acts :=
  congrArg (List.map Prod.fst) (takings_passes acts attemptId part token)

theorem found_takes (acts : List PumpAct) (part : Blob × Nat) (there : Option String) :
    found (acts ++ [takes part there]) = there := by
  rw [found, takings_takes, List.getLast?_concat]
  rfl

theorem found_passes (acts : List PumpAct) (attemptId : String) (part : Blob × Nat)
    (token : Option String) : found (acts ++ [passes attemptId part token]) = found acts :=
  congrArg (·.getLast?.bind Prod.snd) (takings_passes acts attemptId part token)

theorem due_takes_none (acts : List PumpAct) (part : Blob × Nat) :
    due (acts ++ [takes part none]) = due acts := by
  rw [due, takings_takes, List.rdropWhile_concat_pos _ _ _ rfl]
  rfl

theorem due_takes_some (acts : List PumpAct) (part : Blob × Nat) (attemptId : String) :
    due (acts ++ [takes part (some attemptId)]) = taken acts ++ [part] := by
  rw [due, takings_takes, List.rdropWhile_concat_neg _ _ _ Bool.false_ne_true, List.map_append]
  rfl

theorem due_passes (acts : List PumpAct) (attemptId : String) (part : Blob × Nat)
    (token : Option String) : due (acts ++ [passes attemptId part token]) = due acts :=
  congrArg (fun takings => (takings.rdropWhile (·.2.isNone)).map Prod.fst)
    (takings_passes acts attemptId part token)

theorem due_prefix_taken (acts : List PumpAct) : due acts <+: taken acts :=
  (List.rdropWhile_prefix _ _).map _

theorem due_of_found (here : found acts = some attemptId) : due acts = taken acts := by
  induction acts using List.reverseRecOn with
  | nil => cases here
  | append_singleton rest act ih =>
      cases act with
      | takes part there =>
          rw [found_takes] at here
          rw [here, due_takes_some, taken_takes]
      | passes other part token =>
          rw [found_passes] at here
          rw [due_passes, taken_passes, ih here]

theorem due_prefix_append (acts more : List PumpAct) : due acts <+: due (acts ++ more) := by
  induction more using List.reverseRecOn with
  | nil => simp only [List.append_nil, List.prefix_refl]
  | append_singleton rest act ih =>
      rw [← List.append_assoc]
      refine ih.trans ?_
      cases act with
      | takes part there =>
          cases there with
          | none => simp only [due_takes_none, List.prefix_refl]
          | some attemptId =>
              rw [due_takes_some]
              exact (due_prefix_taken _).trans (List.prefix_append _ _)
      | passes attemptId part token => simp only [due_passes, List.prefix_refl]

theorem Addressed.concat (addressed : Addressed acts) {act : PumpAct}
    (fits : ∀ attemptId part token, act = passes attemptId part token →
      found acts = some attemptId) : Addressed (acts ++ [act]) := by
  intro before attemptId part token after split
  cases after using List.reverseRecOn with
  | nil =>
      obtain ⟨rfl, same⟩ := List.append_inj' split rfl
      exact fits attemptId part token (List.singleton_inj.mp same)
  | append_singleton rest last =>
      rw [← List.cons_append, ← List.append_assoc] at split
      exact addressed before attemptId part token rest (List.append_inj' split rfl).1

end

/-- What comes of parts that may be passed on: an upload is waited for, but without a token there is
    none. -/
def passing (token : Option String) (attemptId : String) : List (Blob × Nat) → List PumpAct
  | [] => []
  | part :: rest =>
    passes attemptId part token :: if token.isSome then [] else passing token attemptId rest

end PumpAct

namespace Session

open PumpAct

/-! ## The acts of a run -/

/-- What the pump does with parts when it takes an event of the recorder. -/
def eventActs (s : Session) : RecordingEvent → List PumpAct
  | .chunkReady blob sequence =>
    takes (blob, sequence) s.conversation.attemptId ::
      match s.conversation.attemptId with
      | some attemptId => passing s.token? attemptId (s.pump.held ++ [(blob, sequence)])
      | none => []
  | _ => []

/-- What it does when it takes events until an upload has to be waited for. -/
def eventsActs (s : Session) : List RecordingEvent → List PumpAct
  | [] => []
  | event :: rest =>
    if s.pump.uploading.isSome then [] else s.eventActs event ++ (s.takeEvent event).eventsActs rest

def pumpActs (s : Session) : Stimulus → List PumpAct
  | .pump => s.eventsActs s.untaken
  | .uploaded _ =>
    match s.pump.uploading with
    | some attemptId => passing s.token? attemptId s.pump.held
    | none => []
  | _ => []

def pumpActsIn (s : Session) : List Stimulus → List PumpAct
  | [] => []
  | stimulus :: rest => s.pumpActs stimulus ++ (s.step stimulus).pumpActsIn rest

/-- The request uploads a part of the recording. -/
def isPart (request : Sent) : Bool := request.endpoint.route == .chunks

/-- The server answers the upload of a part. -/
def Stimulus.isUploaded : Stimulus → Bool
  | .uploaded _ => true
  | _ => false

theorem pumpActsIn_append (s : Session) (stimuli more : List Stimulus) :
    s.pumpActsIn (stimuli ++ more) = s.pumpActsIn stimuli ++ (s.run stimuli).pumpActsIn more := by
  induction stimuli generalizing s with
  | nil => rfl
  | cons stimulus rest ih =>
      rw [List.cons_append, pumpActsIn, pumpActsIn, ih, List.append_assoc]
      rfl

/-! ## The books -/

/-- The acts agree with what was told, taken and sent, and these parts are still to be passed on. -/
structure Ledger (acts : List PumpAct) (waiting : List (Blob × Nat)) (s : Session) : Prop where
  bound : s.pump.taken ≤ s.told.length
  taken : taken acts = partsIn (s.told.take s.pump.taken)
  passed : passed acts ++ waiting = PumpAct.taken acts
  addressed : Addressed acts
  sent : s.sent.filter isPart = acts.filterMap request?

/-- The pump holds what is to be passed on. Unless it waits for an upload, nothing more is due. -/
structure Books (acts : List PumpAct) (s : Session) : Prop extends Ledger acts s.pump.held s where
  idle : s.pump.uploading = none → PumpAct.passed acts = due acts
  busy : ∀ attemptId, s.pump.uploading = some attemptId → found acts = some attemptId

section
variable {s s' : Session} {acts : List PumpAct} {waiting : List (Blob × Nat)}

/-- The recorder may go on: what is told later is not taken yet. -/
theorem Ledger.of_same (ledger : Ledger acts waiting s) (told : ∃ more, s'.told = s.told ++ more)
    (taken : s'.pump.taken = s.pump.taken)
    (sent : s'.sent.filter isPart = s.sent.filter isPart) : Ledger acts waiting s' := by
  obtain ⟨more, told⟩ := told
  refine ⟨?_, ?_, ledger.passed, ledger.addressed, sent.trans ledger.sent⟩
  · rw [taken, told, List.length_append]
    exact Nat.le_add_right_of_le ledger.bound
  · rw [taken, told, List.take_append_of_le_length ledger.bound]
    exact ledger.taken

theorem told_of_recorder (recorder : s'.recorder = s.recorder) : s'.told = s.told := by
  rw [told, told, recorder]

/-- The first of the waiting parts is passed on. -/
theorem Ledger.pass {part : Blob × Nat} (ledger : Ledger acts (part :: waiting) s)
    {attemptId : String} (here : found acts = some attemptId) {token : Option String}
    (recorder : s'.recorder = s.recorder) (taken : s'.pump.taken = s.pump.taken)
    (sent : s'.sent.filter isPart =
      s.sent.filter isPart ++ (passes attemptId part token).request?.toList) :
    Ledger (acts ++ [passes attemptId part token]) waiting s' := by
  have same := told_of_recorder recorder
  refine ⟨?_, ?_, ?_, ?_, ?_⟩
  · rw [taken, same]
    exact ledger.bound
  · rw [taken, same, taken_passes]
    exact ledger.taken
  · rw [passed_append, taken_passes, List.append_assoc]
    exact ledger.passed
  · refine ledger.addressed.concat fun other _ _ isLast => ?_
    obtain ⟨rfl, -⟩ := PumpAct.passes.inj isLast
    exact here
  · rw [sent, ledger.sent, List.filterMap_append]
    cases token <;> rfl

/-- Parts are passed on until there is an upload to wait for. -/
theorem Ledger.uploadNext (ledger : Ledger acts waiting s) {attemptId : String}
    (here : found acts = some attemptId) :
    Books (acts ++ passing s.token? attemptId waiting) (s.uploadNext attemptId waiting) := by
  induction waiting generalizing acts with
  | nil =>
      rw [passing, List.append_nil]
      refine ⟨ledger.of_same ⟨[], (List.append_nil _).symm⟩ rfl rfl, fun _ => ?_, fun _ waits => ?_⟩
      · rw [due_of_found here, ← ledger.passed, List.append_nil]
      · cases waits
  | cons part rest ih =>
      unfold passing Session.uploadNext send
      cases token : s.token? <;> dsimp only
      case none =>
          have next : Ledger (acts ++ [passes attemptId part none]) rest s :=
            ledger.pass here rfl rfl (List.append_nil _).symm
          have later := ih next ((found_passes _ _ _ _).trans here)
          rw [token] at later
          rw [List.append_cons]
          exact later
      case some token =>
          refine ⟨ledger.pass here rfl rfl ?_, fun free => ?_, fun other uploads => ?_⟩
          · exact List.filter_append _ _
          · cases free
          · obtain rfl : attemptId = other := Option.some.inj uploads
            exact (found_passes _ _ _ _).trans here

theorem takeEvent_of_unknown (unknown : s.conversation.attemptId = none) (blob : Blob)
    (sequence : Nat) :
    s.takeEvent (.chunkReady blob sequence) =
      s.setPump { s.pump with
        taken := s.pump.taken + 1
        held := s.pump.held ++ [(blob, sequence)] } := by
  have same : (s.setPump { s.pump with taken := s.pump.taken + 1 }).conversation.attemptId = none :=
    unknown
  simp only [takeEvent, same]
  rfl

theorem takeEvent_of_known {attemptId : String} (known : s.conversation.attemptId = some attemptId)
    (blob : Blob) (sequence : Nat) :
    s.takeEvent (.chunkReady blob sequence) =
      (s.setPump { s.pump with taken := s.pump.taken + 1 }).uploadNext attemptId
        (s.pump.held ++ [(blob, sequence)]) := by
  have same : (s.setPump { s.pump with taken := s.pump.taken + 1 }).conversation.attemptId =
      some attemptId := known
  simp only [takeEvent, same]
  rfl

theorem Books.takeEvent (books : Books acts s) (free : s.pump.uploading = none)
    {event : RecordingEvent} {rest : List RecordingEvent} (next : s.untaken = event :: rest) :
    Books (acts ++ s.eventActs event) (s.takeEvent event) := by
  rw [untaken_eq] at next
  have here : s.told[s.pump.taken]? = some event := by
    rw [← List.head?_drop, next]
    rfl
  obtain ⟨inside, -⟩ := List.getElem?_eq_some_iff.mp here
  have more : partsIn (s.told.take (s.pump.taken + 1)) = taken acts ++ event.part?.toList := by
    rw [List.take_add_one, here, partsIn_append, ← books.taken]
    cases event <;> rfl
  have quiet (noPart : event.part? = none) {t : Session} (recorder : t.recorder = s.recorder)
      (pump : t.pump = { s.pump with taken := s.pump.taken + 1 }) (sent : t.sent = s.sent) :
      Books acts t := by
    refine ⟨⟨?_, ?_, ?_, books.addressed, ?_⟩, fun _ => books.idle free, ?_⟩
    · rw [told_of_recorder recorder, pump]
      exact inside
    · rw [told_of_recorder recorder, pump, more, noPart]
      exact (List.append_nil _).symm
    · rw [pump]
      exact books.passed
    · rw [sent]
      exact books.sent
    · rw [pump]
      exact books.busy
  cases event with
  | stateChanged | maxDurationReached | failed =>
      rw [eventActs, List.append_nil]
      · exact quiet rfl rfl rfl rfl
      · nofun
  | chunkReady blob sequence =>
      have taken : Ledger (acts ++ [takes (blob, sequence) s.conversation.attemptId])
          (s.pump.held ++ [(blob, sequence)])
          (s.setPump { s.pump with taken := s.pump.taken + 1 }) := by
        refine ⟨inside, ?_, ?_, books.addressed.concat nofun, ?_⟩
        · rw [taken_takes]
          exact more.symm
        · rw [passed_takes, taken_takes, ← books.passed, List.append_assoc]
        · rw [List.filterMap_append]
          exact books.sent.trans (List.append_nil _).symm
      cases attempt : s.conversation.attemptId with
      | none =>
          rw [attempt] at taken
          rw [takeEvent_of_unknown attempt, eventActs, attempt]
          refine ⟨taken.of_same ⟨[], (List.append_nil _).symm⟩ rfl rfl, fun _ => ?_, ?_⟩
          · rw [passed_takes, due_takes_none, books.idle free]
          · intro attemptId uploads
            cases free.symm.trans uploads
      | some attemptId =>
          rw [attempt] at taken
          have passes := taken.uploadNext (found_takes _ _ _)
          rw [takeEvent_of_known attempt, eventActs, attempt, List.append_cons]
          exact passes

theorem taken_uploadNext (s : Session) (attemptId : String) (held : List (Blob × Nat)) :
    (s.uploadNext attemptId held).pump.taken = s.pump.taken := by
  rcases s.uploadNext_cases attemptId held with same | ⟨_, _, _, _, -, isSent, same⟩ <;> rw [same]
  · rfl
  · obtain ⟨token, -, rfl⟩ := eq_of_send isSent
    rfl

theorem taken_takeEvent (s : Session) (event : RecordingEvent) :
    (s.takeEvent event).pump.taken = s.pump.taken + 1 := by
  cases event with
  | stateChanged | maxDurationReached | failed => rfl
  | chunkReady blob sequence =>
      simp only [takeEvent]
      split
      · rfl
      · exact taken_uploadNext _ _ _

theorem untaken_takeEvent (s : Session) (event : RecordingEvent) :
    (s.takeEvent event).untaken = s.untaken.drop 1 := by
  rw [untaken_eq, untaken_eq, taken_takeEvent,
    told_of_recorder (pumps_pump.takeEvent s event).recorder, List.drop_drop]

theorem Books.takeEvents (books : Books acts s) {events : List RecordingEvent}
    (next : events <+: s.untaken) : Books (acts ++ s.eventsActs events) (s.takeEvents events) := by
  induction events generalizing s acts with
  | nil =>
      rw [eventsActs, List.append_nil]
      exact books
  | cons event rest ih =>
      unfold Session.takeEvents eventsActs
      cases uploads : s.pump.uploading with
      | some attemptId =>
          simp only [Option.isSome_some, if_true, List.append_nil]
          exact books
      | none =>
          simp only [Option.isSome_none, Bool.false_eq_true, if_false]
          obtain ⟨later, whole⟩ := next
          rw [← List.append_assoc]
          refine ih (books.takeEvent uploads whole.symm) ⟨later, ?_⟩
          rw [untaken_takeEvent, ← whole]
          rfl

theorem Moves.parts {mute : Bool} (moves : s.Moves mute s') :
    s'.sent.filter isPart = s.sent.filter isPart := by
  induction moves with
  | refl => rfl
  | tail _ move ih =>
      refine Eq.trans ?_ ih
      cases move with
      | slot transport => cases transport <;> rfl
      | asks id endpoint token whole mutes held =>
          rw [List.filter_append, List.filter_cons_of_neg, List.filter_nil, List.append_nil]
          exact fun isPart => whole (beq_iff_eq.mp isPart)
      | _ => rfl

theorem Books.of_pump (books : Books acts s) (told : ∃ more, s'.told = s.told ++ more)
    (pump : s'.pump = s.pump) (sent : s'.sent.filter isPart = s.sent.filter isPart) :
    Books acts s' := by
  refine ⟨?_, ?_, ?_⟩
  · rw [pump]
    exact books.toLedger.of_same told (congrArg Pump.taken pump) sent
  · rw [pump]
    exact books.idle
  · rw [pump]
    exact books.busy

theorem Books.moves {mute : Bool} (books : Books acts s) (inStep : s.InStep)
    (moves : s.Moves mute s') :
    Books acts s' :=
  books.of_pump (moves.records inStep).told moves.pump moves.parts

theorem Books.step (books : Books acts s) (inStep : s.InStep) (stimulus : Stimulus) :
    Books (acts ++ s.pumpActs stimulus) (s.step stimulus) := by
  have settled {acts : List PumpAct} (same : (s.react stimulus).recorder = s.recorder)
      (reacted : Books acts (s.react stimulus)) : Books acts (s.step stimulus) := by
    have moves : Moves false _ _ := moves_settle (s.react stimulus)
    exact reacted.moves ((records_of_same same).inStep inStep) moves
  cases pumping : stimulus.isPumping with
  | false =>
      have nothing : s.pumpActs stimulus = [] := by
        cases stimulus <;> first | rfl | cases pumping
      have unmarked : Books acts (s.unmarked stimulus) ∧ (s.unmarked stimulus).InStep := by
        unfold Session.unmarked
        split
        · exact ⟨books.of_pump ⟨[], (List.append_nil _).symm⟩ rfl rfl, inStep⟩
        · exact ⟨books, inStep⟩
      rw [nothing, List.append_nil]
      have moves : Moves false _ _ := moves_step s pumping (by nofun)
      exact unmarked.1.moves unmarked.2 moves
  | true =>
      refine settled (pumps_react s pumping).recorder ?_
      cases stimulus with
      | pump => exact books.takeEvents (List.prefix_refl _)
      | uploaded answer =>
          simp only [react, takePumpAnswer, pumpActs]
          cases uploads : s.pump.uploading with
          | some attemptId => exact books.toLedger.uploadNext (books.busy attemptId uploads)
          | none =>
              rw [List.append_nil]
              exact books
      | _ => cases pumping

theorem Books.run (books : Books acts s) (inStep : s.InStep) (stimuli : List Stimulus) :
    Books (acts ++ s.pumpActsIn stimuli) (s.run stimuli) := by
  induction stimuli generalizing s acts with
  | nil =>
      rw [pumpActsIn, List.append_nil]
      exact books
  | cons stimulus rest ih =>
      rw [pumpActsIn, ← List.append_assoc]
      exact ih (books.step inStep stimulus) ((records_step inStep stimulus).inStep inStep)

/-! ## Parts arrive -/

theorem Books.passed_prefix (books : Books acts s) : PumpAct.passed acts <+: partsIn s.told := by
  have known : PumpAct.passed acts <+: partsIn (s.told.take s.pump.taken) :=
    ⟨_, books.passed.trans books.taken⟩
  exact known.trans ((List.take_prefix _ _).filterMap _)

/-- Every answer to an upload makes way for another part. -/
theorem passes_on_answer {attemptId : String} (uploads : s.pump.uploading = some attemptId)
    (waits : s.pump.held ≠ []) (acts : List PumpAct) (answer : Answer) :
    (PumpAct.passed acts).length <
      (PumpAct.passed (acts ++ s.pumpActs (.uploaded answer))).length := by
  obtain ⟨part, rest, held⟩ := List.exists_cons_of_ne_nil waits
  rw [passed_append, List.length_append, pumpActs, uploads]
  simp only [held, passing, PumpAct.passed]
  exact Nat.lt_add_of_pos_right (Nat.succ_pos _)

/-- What is due is passed on as soon as the uploads before it are answered, whatever the answers
    are. -/
theorem Books.arrives (books : Books acts s) (inStep : s.InStep) {count : Nat}
    (isDue : count ≤ (due acts).length) (more : List Stimulus)
    (answered : count ≤ (PumpAct.passed acts).length + more.countP Stimulus.isUploaded) :
    count ≤ (PumpAct.passed (acts ++ s.pumpActsIn more)).length := by
  induction more generalizing s acts with
  | nil =>
      rw [pumpActsIn, List.append_nil]
      exact answered
  | cons stimulus rest ih =>
      rw [pumpActsIn, ← List.append_assoc]
      have stays := (due_prefix_append acts (s.pumpActs stimulus)).length_le
      refine ih (books.step inStep stimulus) ((records_step inStep stimulus).inStep inStep)
        (isDue.trans stays) ?_
      have grows : (PumpAct.passed acts).length ≤
          (PumpAct.passed (acts ++ s.pumpActs stimulus)).length := by
        rw [passed_append, List.length_append]
        exact Nat.le_add_right _ _
      cases stimulus with
      | uploaded answer =>
          have oneLess : (Stimulus.uploaded answer :: rest).countP Stimulus.isUploaded =
              rest.countP Stimulus.isUploaded + 1 := List.countP_cons_of_pos rfl
          rw [oneLess] at answered
          cases uploads : s.pump.uploading with
          | none =>
              rw [← books.idle uploads] at isDue
              omega
          | some attemptId =>
              by_cases waits : s.pump.held = []
              · have all := books.passed
                rw [waits, List.append_nil] at all
                rw [due_of_found (books.busy attemptId uploads), ← all] at isDue
                omega
              · have next := passes_on_answer uploads waits acts answer
                omega
      | _ =>
          rw [List.countP_cons_of_neg (by nofun)] at answered
          omega

/-! ## The run of a session -/

/-- A session that has not been used, with a recorder that has not been used, if there is one. -/
structure Unused (s : Session) : Prop extends Fresh s where
  pump : s.pump = {}
  sent : s.sent = []
  kept : s.finalRecording = none
  recorder : ∀ r, s.recorder = some r → r.Fresh

theorem unused_with {r : Recorder} (fresh : r.Fresh) (baseUrl : String)
    (tokenFile : Option String) : Unused { baseUrl, tokenFile, recorder := some r } := by
  refine ⟨⟨rfl, fun transport => by cases transport <;> rfl⟩, rfl, rfl, rfl, fun _ same => ?_⟩
  obtain rfl := Option.some.inj same
  exact fresh

theorem Unused.inStep (unused : s.Unused) : s.InStep :=
  fun r here => (unused.recorder r here).inStep

theorem Unused.told (unused : s.Unused) : s.told = [] := by
  unfold Session.told
  split
  · rename_i r here
    exact (unused.recorder r here).log
  · rfl

theorem Unused.books (unused : s.Unused) : Books [] s := by
  refine ⟨⟨?_, ?_, ?_, ?_, ?_⟩, fun _ => rfl, ?_⟩
  · rw [unused.pump]
    exact Nat.zero_le _
  · rw [unused.told, List.take_nil]
    rfl
  · rw [unused.pump]
    rfl
  · intro before attemptId part token after split
    cases List.nil_eq_append_iff.mp split |>.2
  · rw [unused.sent]
    rfl
  · rw [unused.pump]
    nofun

theorem Unused.books_run (unused : s.Unused) (stimuli : List Stimulus) :
    Books (s.pumpActsIn stimuli) (s.run stimuli) :=
  unused.books.run unused.inStep stimuli

/-- What the pump has passed on at any moment of a run: the parts that the recorder has told of,
    from the first on, each of them once, and each to the attempt found when the latest part was
    taken. The parts that were taken are those among the events that were. Unless the pump waits for
    an upload it has passed on all of them up to the latest one that was taken with an attempt
    found; and it waits no longer when the uploads are answered, be it with failures. What is passed
    on is requested with the token there is. -/
theorem passed_in_order (unused : s.Unused) (stimuli : List Stimulus) :
    let acts := s.pumpActsIn stimuli
    let t := s.run stimuli
    PumpAct.passed acts <+: partsIn t.told ∧
      PumpAct.taken acts = partsIn (t.told.take t.pump.taken) ∧
      (∀ before attemptId part token after, acts = before ++ passes attemptId part token :: after →
        found before = some attemptId) ∧
      (t.pump.uploading = none → PumpAct.passed acts = due acts) ∧
      (∀ more, t.pump.held.length ≤ more.countP Stimulus.isUploaded →
        due acts <+: PumpAct.passed (s.pumpActsIn (stimuli ++ more))) ∧
      t.sent.filter isPart = acts.filterMap request? := by
  intro acts t
  have books : Books acts t := unused.books_run stimuli
  refine ⟨books.passed_prefix, books.taken, books.addressed, books.idle, fun more answered => ?_,
    books.sent⟩
  have inStep := (records_run unused.inStep stimuli).inStep unused.inStep
  have later := books.run inStep more
  rw [pumpActsIn_append]
  -- Both are the beginning of what is taken by then, so it is enough to count.
  have isDue : due acts <+: PumpAct.taken (acts ++ t.pumpActsIn more) :=
    (due_prefix_append _ _).trans (due_prefix_taken _)
  refine List.prefix_of_prefix_length_le isDue ⟨_, later.passed⟩ ?_
  refine books.arrives inStep (Nat.le_refl _) more ?_
  have all := congrArg List.length books.passed
  rw [List.length_append] at all
  have bound := (due_prefix_taken acts).length_le
  omega

/-- Two parts are held back until a third is told of after the attempt has begun. Then all three are
    passed on, though the first upload is refused and the second fails. -/
theorem passed_after_refusals :
    let s : Session :=
      { baseUrl := "", tokenFile := some "t"
        recorder := some
          { options := { autoStart := true, chunkInterval := 2 }
            capture := { encoder := { timeslice := 1 } } } }
    let stimuli : List Stimulus :=
      [.call (.assign "A"), .call .grantPermissions, .elapse 5, .pump,
        .call (.startExisting "T" ""), .elapse 2, .pump]
    let answers : List Stimulus := [.uploaded (.status 500), .uploaded (.failed "reset" none)]
    let acts := s.pumpActsIn stimuli
    s.Unused ∧ (PumpAct.passed acts).length = 1 ∧ (due acts).length = 3 ∧
      due acts <+: PumpAct.passed (s.pumpActsIn (stimuli ++ answers)) := by
  intro s stimuli answers acts
  have unused : s.Unused := unused_with ⟨rfl, rfl, rfl, rfl, rfl, rfl, rfl⟩ "" (some "t")
  have answered : (s.run stimuli).pump.held.length ≤ answers.countP Stimulus.isUploaded := by
    decide +kernel
  obtain ⟨-, -, -, -, arrives, -⟩ := passed_in_order unused stimuli
  exact ⟨unused, by decide +kernel, by decide +kernel, arrives answers answered⟩

end

end Session

end Viva
