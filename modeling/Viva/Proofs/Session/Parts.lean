import Viva.Proofs.Recorder.Numbering
import Viva.Proofs.Session.HandingIn
import Viva.Proofs.Session.Pumping

/-! # The parts of an attempt and its recording

What the pump sends to an attempt are parts of recordings, in the order in which they were told of.
Their numbers rise as long as they belong to one recording (`numbers_rise`), for every recording is
numbered from zero. The recording that is uploaded as a whole is all its parts, those that were
passed on and those that are still with the pump (`parts_of_upload`); the pump lets go of the latter
only when it takes another part.
-/

namespace Viva

/-- The part that the request uploads to this attempt. -/
def Sent.partTo? (attemptId : String) (request : Sent) : Option (Blob × Nat) :=
  match request.endpoint with
  | .chunk other blob sequence => if other = attemptId then some (blob, sequence) else none
  | _ => none

/-- Those of the parts that are sent to an attempt, when they are passed on in their order. -/
def PumpAct.sentTo (attemptId : String) :
    List (Nat × Blob × Nat) → List PumpAct → List (Nat × Blob × Nat)
  | parts, takes _ _ :: rest => sentTo attemptId parts rest
  | part :: parts, passes other _ token :: rest =>
    if other = attemptId ∧ token.isSome then part :: sentTo attemptId parts rest
    else sentTo attemptId parts rest
  | _, _ => []

namespace Session

open PumpAct

/-- The parts that were uploaded to an attempt, with their numbers. -/
def partsTo (s : Session) (attemptId : String) : List (Blob × Nat) :=
  s.sent.filterMap (Sent.partTo? attemptId)

section
variable {s s' : Session} {acts : List PumpAct} {attemptId : String}

/-! ## Numbers -/

theorem sentTo_sublist (attemptId : String) (parts : List (Nat × Blob × Nat))
    (acts : List PumpAct) : (sentTo attemptId parts acts).Sublist parts := by
  induction acts generalizing parts with
  | nil =>
      cases parts <;> exact List.nil_sublist _
  | cons act rest ih =>
      cases act with
      | takes part there =>
          rw [sentTo]
          exact ih parts
      | passes other part token =>
          cases parts with
          | nil => exact List.nil_sublist _
          | cons first parts =>
              rw [sentTo]
              split
              · exact (ih parts).cons_cons first
              · exact (ih parts).cons first

/-- If the parts are those that were passed on, they are what was requested. -/
theorem map_sentTo {parts : List (Nat × Blob × Nat)}
    (inOrder : PumpAct.passed acts <+: parts.map Prod.snd) :
    (sentTo attemptId parts acts).map Prod.snd =
      (acts.filterMap request?).filterMap (Sent.partTo? attemptId) := by
  induction acts generalizing parts with
  | nil => cases parts <;> rfl
  | cons act rest ih =>
      cases act with
      | takes part there =>
          rw [sentTo]
          exact ih inOrder
      | passes other part token =>
          cases parts with
          | nil => cases List.prefix_nil.mp inOrder
          | cons first parts =>
              obtain ⟨same, later⟩ := List.cons_prefix_cons.mp inOrder
              have rest := ih later
              rw [sentTo]
              cases token with
              | none =>
                  rw [if_neg (by nofun)]
                  exact rest
              | some token =>
                  have asked : (passes other part (some token)).request? =
                      some ⟨.pump, .chunk other part.1 part.2, token⟩ := rfl
                  rw [List.filterMap_cons_some asked]
                  by_cases here : other = attemptId
                  · have sent : Sent.partTo? attemptId
                        ⟨.pump, .chunk other part.1 part.2, token⟩ = some part := if_pos here
                    rw [if_pos ⟨here, rfl⟩, List.map_cons, rest, ← same,
                      List.filterMap_cons_some sent]
                  · have sent : Sent.partTo? attemptId
                        ⟨.pump, .chunk other part.1 part.2, token⟩ = none := if_neg here
                    rw [if_neg fun both => here both.1, rest, List.filterMap_cons_none sent]

theorem Books.partsTo (books : Books acts s) (attemptId : String) :
    s.partsTo attemptId = (sentTo attemptId (dated 0 s.told) acts).map Prod.snd := by
  have onlyParts : s.partsTo attemptId =
      (s.sent.filter isPart).filterMap (Sent.partTo? attemptId) := by
    rw [Session.partsTo, List.filterMap_filter]
    congr 1
    funext request
    obtain ⟨waiter, endpoint, token⟩ := request
    cases endpoint <;> rfl
  have inOrder := books.passed_prefix
  rw [← map_snd_dated 0] at inOrder
  rw [onlyParts, books.sent, map_sentTo inOrder]

/-- What holds of the recorder of a session in use. -/
theorem Records.reel {P : Reel → Prop} (records : s.Records s')
    (start : ∀ r, s.recorder = some r → P r.reel)
    (goesOn : ∀ {a b : Reel} {seen : List Observation}, P a → a.Run seen b → P b) :
    ∀ r, s'.recorder = some r → P r.reel := by
  intro r here
  cases records with
  | nobody _ after => cases after.symm.trans here
  | goesOn before after run =>
      obtain rfl := Option.some.inj (after.symm.trans here)
      exact goesOn (start _ before) run

theorem rises_told (unused : s.Unused) (stimuli : List Stimulus) :
    (dated 0 (s.run stimuli).told).Pairwise Precedes := by
  have numbered := (records_run unused.inStep stimuli).reel (P := fun a => a.InStep ∧ a.Numbered)
    (fun r here => ⟨(unused.recorder r here).inStep, (unused.recorder r here).numbered⟩)
    fun ⟨inStep, numbered⟩ run => ⟨run.inStep inStep, numbered.run inStep run⟩
  unfold told
  split
  · rename_i r here
    exact (numbered r here).2.rises
  · exact .nil

/-- The parts that are sent to an attempt are parts that were told of one after the other, be it by
    one recording after another. So their numbers rise within each recording, and throughout if they
    are parts of one. -/
theorem numbers_rise (unused : s.Unused) (stimuli : List Stimulus) (attemptId : String) :
    let t := s.run stimuli
    let parts := sentTo attemptId (dated 0 t.told) (s.pumpActsIn stimuli)
    t.partsTo attemptId = parts.map Prod.snd ∧ parts.Sublist (dated 0 t.told) ∧
      parts.Pairwise Precedes ∧
      (∀ recording, ((ofRecording recording parts).map Prod.snd).Pairwise (· < ·)) ∧
        ∀ recording, (∀ part ∈ parts, part.1 = recording) →
          ((t.partsTo attemptId).map Prod.snd).Pairwise (· < ·) := by
  intro t parts
  have same : t.partsTo attemptId = parts.map Prod.snd :=
    (unused.books_run stimuli).partsTo attemptId
  have inside : parts.Sublist (dated 0 t.told) := sentTo_sublist _ _ _
  have rises : parts.Pairwise Precedes := (rises_told unused stimuli).sublist inside
  refine ⟨same, inside, rises, rises_ofRecording rises, fun recording one => ?_⟩
  rw [same, ← ofRecording_of_forall one]
  exact rises_ofRecording rises recording

/-- Two attempts, each with a recording of its own. -/
theorem numbers_of_two_attempts :
    let s : Session :=
      { baseUrl := "", tokenFile := some "t"
        recorder := some
          { options := { chunkInterval := 2 }, capture := { encoder := { timeslice := 1 } } } }
    let sending : List Stimulus :=
      [.elapse 5, .pump, .uploaded (.status 200), .pump, .uploaded (.status 200)]
    let stimuli : List Stimulus :=
      [.call (.assign "A"), .call (.startExisting "T-a" "")] ++ sending ++
        [.call .abandon, .call (.assign "B"), .call (.startExisting "T-b" "")] ++ sending
    let t := s.run stimuli
    s.Unused ∧ (t.partsTo "T-a").map Prod.snd = [0, 1] ∧
      (t.partsTo "T-b").map Prod.snd = [0, 1] ∧
        ((t.partsTo "T-b").map Prod.snd).Pairwise (· < ·) := by
  intro s sending stimuli t
  have unused : s.Unused := unused_with ⟨rfl, rfl, rfl, rfl, rfl, rfl, rfl⟩ "" (some "t")
  obtain ⟨-, -, -, -, rise⟩ := numbers_rise unused stimuli "T-b"
  exact ⟨unused, by decide +kernel, by decide +kernel, rise 2 (by decide +kernel)⟩

/-- Two parts of the first recording are held back when it fails, and a third of the second one
    releases them. -/
theorem number_twice_after_fault :
    let s : Session :=
      { baseUrl := "", tokenFile := some "t"
        recorder := some
          { options := { autoStart := true, chunkInterval := 2 }
            capture := { encoder := { timeslice := 1, faultAfter := some 4 } } } }
    let t := s.run
      [.call (.assign "A"), .call .grantPermissions, .elapse 6, .pump, .call .grantPermissions,
        .call (.startExisting "T" ""), .elapse 3, .pump, .uploaded (.status 200),
        .uploaded (.status 200), .uploaded (.status 200)]
    s.Unused ∧ (t.partsTo "T").map Prod.snd = [0, 1, 0] ∧
      ¬ ((t.partsTo "T").map Prod.snd).Pairwise (· < ·) := by
  intro s t
  have unused : s.Unused := unused_with ⟨rfl, rfl, rfl, rfl, rfl, rfl, rfl⟩ "" (some "t")
  exact ⟨unused, by decide +kernel, by decide +kernel⟩

/-! ## The whole recording -/

/-- The recording is all its parts, and nothing is added to it any more. -/
def Archived (s : Session) (blob : Blob) : Prop :=
  ∃ r recording, s.recorder = some r ∧ r.reel.IsOver recording ∧
    bytesOf (partsOf recording r.log) = blob.data

/-- Whatever is or was uploaded as a whole is a recording that is all its parts. -/
structure Filed (s : Session) : Prop where
  recorder : ∀ r, s.recorder = some r →
    r.reel.InStep ∧ r.reel.Numbered ∧ r.reel.handsOut = true
  held : ∀ blob, s.Holds blob → s.Archived blob
  sent : ∀ request ∈ s.sent, ∀ attemptId blob, request.endpoint = .video attemptId blob →
    s.Archived blob

theorem Archived.later {blob : Blob} (archived : s.Archived blob) (records : s.Records s') :
    s'.Archived blob := by
  obtain ⟨r, recording, here, isOver, whole⟩ := archived
  cases records with
  | nobody before => cases here.symm.trans before
  | goesOn before after run =>
      obtain rfl := Option.some.inj (here.symm.trans before)
      obtain ⟨still, same⟩ := isOver.run run
      exact ⟨_, recording, after, still, (congrArg bytesOf same).trans whole⟩

/-- The recorder may go on, as long as no other recordings are uploaded. -/
theorem Filed.later (filed : s.Filed) (records : s.Records s')
    (held : ∀ blob, s'.Holds blob → s.Holds blob ∨ s'.Archived blob)
    (sent : ∀ request ∈ s'.sent, ∀ attemptId blob, request.endpoint = .video attemptId blob →
      request ∈ s.sent ∨ s.Holds blob) : s'.Filed where
  recorder := records.reel (P := fun a => a.InStep ∧ a.Numbered ∧ a.handsOut = true)
    filed.recorder fun ⟨inStep, numbered, hands⟩ run =>
      ⟨run.inStep inStep, numbered.run inStep run, run.handsOut.trans hands⟩
  held := fun blob holds => (held blob holds).elim
    (fun before => (filed.held blob before).later records) id
  sent := fun request member attemptId blob asks => by
    rcases sent request member attemptId blob asks with before | holds
    · exact (filed.sent request before attemptId blob asks).later records
    · exact (filed.held blob holds).later records

theorem Filed.of_same (filed : s.Filed) (recorder : s'.recorder = s.recorder)
    (calls : s'.calls = s.calls) (kept : s'.finalRecording = s.finalRecording)
    (sent : ∀ request ∈ s'.sent, ∀ attemptId blob, request.endpoint = .video attemptId blob →
      request ∈ s.sent ∨ s.Holds blob) : s'.Filed := by
  refine filed.later (records_of_same recorder) (fun blob holds => .inl ?_) sent
  cases holds with
  | kept here => exact .kept (kept ▸ here)
  | uploading waits => exact .uploading (calls ▸ waits)

theorem Filed.move {mute : Bool} (filed : s.Filed) (move : s.Move mute s') : s'.Filed := by
  cases move with
  | talks | signs | remembers => exact filed.of_same rfl rfl rfl fun _ member _ _ _ => .inl member
  | slot transport slot =>
      cases transport <;> exact filed.of_same rfl rfl rfl fun _ member _ _ _ => .inl member
  | turns held =>
      refine filed.later (records_of_same rfl) (fun blob holds => .inl ?_)
        fun _ member _ _ _ => .inl member
      cases holds with
      | kept here => exact .kept here
      | uploading waits => exact held _ blob waits
  | asks id endpoint token whole mutes held =>
      refine filed.of_same rfl rfl rfl fun request member attemptId blob asks => ?_
      rcases List.mem_append.mp member with before | new
      · exact .inl before
      · obtain rfl := List.mem_singleton.mp new
        exact .inr (held attemptId blob asks)
  | keeps kept held =>
      refine filed.later (records_of_same rfl) (fun blob holds => .inl ?_)
        fun _ member _ _ _ => .inl member
      cases holds with
      | kept here => exact held blob here
      | uploading waits => exact .uploading waits
  | @gives r blob here given =>
      obtain ⟨inStep, numbered, hands⟩ := filed.recorder r here
      obtain ⟨isOver, whole⟩ := Recorder.partsOf_of_stop inStep numbered hands given
      obtain ⟨events, act⟩ := Recorder.act_stop inStep
      refine filed.later (.goesOn here rfl (Reel.Step.run (.acts act))) (fun other holds => ?_)
        fun _ member _ _ _ => .inl member
      cases holds with
      | kept isThis =>
          obtain rfl := Option.some.inj isThis
          exact .inr ⟨_, _, rfl, isOver, whole⟩
      | uploading waits => exact .inl (.uploading waits)
  | records here runs =>
      obtain ⟨seen, run⟩ := runs (filed.recorder _ here).1
      refine filed.later (.goesOn here rfl run) (fun blob holds => .inl ?_)
        fun _ member _ _ _ => .inl member
      cases holds with
      | kept here => exact .kept here
      | uploading waits => exact .uploading waits

theorem Filed.moves {mute : Bool} (filed : s.Filed) (moves : s.Moves mute s') : s'.Filed := by
  induction moves with
  | refl => exact filed
  | tail _ move ih => exact ih.move move

theorem Filed.step (filed : s.Filed) (stimulus : Stimulus) : (s.step stimulus).Filed := by
  cases pumping : stimulus.isPumping with
  | false =>
      have unmarked : (s.unmarked stimulus).Filed := by
        unfold unmarked
        split
        · exact filed.of_same rfl rfl rfl fun _ member _ _ _ => .inl member
        · exact filed
      have moves : Moves false _ _ := moves_step s pumping (by nofun)
      exact unmarked.moves moves
  | true =>
      have pumped := pumps_react s pumping
      obtain ⟨parts, sent, onlyParts⟩ := pumped.sent
      have settles : Moves false _ _ := moves_settle (s.react stimulus)
      refine Filed.moves ?_ settles
      refine filed.of_same pumped.recorder pumped.calls pumped.kept
        fun request member attemptId blob asks => .inl ?_
      rw [sent] at member
      refine (List.mem_append.mp member).resolve_right fun new => ?_
      have isPart := onlyParts request new
      rw [asks] at isPart
      cases isPart

theorem Filed.run (filed : s.Filed) (stimuli : List Stimulus) : (s.run stimuli).Filed := by
  induction stimuli generalizing s with
  | nil => exact filed
  | cons stimulus rest ih => exact ih (filed.step stimulus)

theorem Unused.filed (unused : s.Unused)
    (hands : ∀ r, s.recorder = some r → r.options.handsOutChunks = true) : s.Filed := by
  refine ⟨fun r here => ?_, fun blob holds => ?_, ?_⟩
  · have fresh := unused.recorder r here
    exact ⟨fresh.inStep, fresh.numbered, hands r here⟩
  · cases holds with
    | kept here => cases unused.kept.symm.trans here
    | uploading waits =>
        rw [unused.calls] at waits
        cases waits
  · rw [unused.sent]
    nofun

/-- The parts that were passed on are the first ones that were told of, and the others are with the
    pump. -/
theorem Books.left (books : Books acts s) :
    ((dated 0 s.told).drop (PumpAct.passed acts).length).map Prod.snd =
      s.pump.held ++ partsIn s.untaken := by
  have split : partsIn s.told = PumpAct.passed acts ++ (s.pump.held ++ partsIn s.untaken) := by
    rw [← List.append_assoc, books.passed, books.taken, untaken_eq, ← partsIn_append,
      List.take_append_drop]
  rw [List.map_drop, map_snd_dated, split, List.drop_left]

/-- A recording that was uploaded as a whole is what was sent of it in parts, and what the pump
    still has of it, if the attempt was sent just those of its parts that were passed on. So the
    parts that were sent make up the recording unless the pump has kept some of it back. -/
theorem parts_of_upload (unused : s.Unused)
    (hands : ∀ r, s.recorder = some r → r.options.handsOutChunks = true)
    (stimuli : List Stimulus) :
    let acts := s.pumpActsIn stimuli
    let t := s.run stimuli
    let parts := dated 0 t.told
    let passedOn := parts.take (PumpAct.passed acts).length
    let left := parts.drop (PumpAct.passed acts).length
    left.map Prod.snd = t.pump.held ++ partsIn t.untaken ∧
      ∀ request ∈ t.sent, ∀ attemptId blob, request.endpoint = .video attemptId blob →
        ∃ recording, bytesOf (partsOf recording t.told) = blob.data ∧
          (sentTo attemptId parts acts = passedOn.filter (·.1 == recording) →
            bytesOf (t.partsTo attemptId) ++ bytesOf (ofRecording recording left) = blob.data ∧
              (bytesOf (t.partsTo attemptId) = blob.data ↔
                bytesOf (ofRecording recording left) = [])) := by
  intro acts t parts passedOn left
  have books : Books acts t := unused.books_run stimuli
  refine ⟨books.left, fun request member attemptId blob asks => ?_⟩
  obtain ⟨r, recording, here, -, whole⟩ :=
    ((unused.filed hands).run stimuli).sent request member attemptId blob asks
  have told : t.told = r.log := by
    rw [Session.told, here]
  rw [← told] at whole
  refine ⟨recording, whole, fun own => ?_⟩
  have all : bytesOf (t.partsTo attemptId) ++ bytesOf (ofRecording recording left) = blob.data := by
    rw [books.partsTo attemptId, own, ← bytesOf_append]
    change bytesOf (ofRecording recording passedOn ++ ofRecording recording left) = _
    rw [← ofRecording_append, List.take_append_drop]
    exact whole
  refine ⟨all, ?_⟩
  rw [← all]
  exact ⟨fun same => List.append_right_eq_self.mp same.symm,
    fun none => (List.append_right_eq_self.mpr none).symm⟩

/-- Two parts are held back until the attempt has begun and the end of the recording brings a
    third. -/
theorem parts_of_finished_upload :
    let s : Session :=
      { baseUrl := "", tokenFile := some "t"
        recorder := some
          { options := { autoStart := true, chunkInterval := 2 }
            capture := { encoder := { timeslice := 1 } } } }
    let stimuli : List Stimulus :=
      [.call (.assign "A"), .call .grantPermissions, .elapse 5, .pump,
        .call (.startExisting "T" ""), .call .finish, .pump, .uploaded (.status 200),
        .uploaded (.status 200), .uploaded (.status 200), .answer 3 (.status 200),
        .answer 3 (.status 200)]
    let t := s.run stimuli
    let blob := Blob.concat ([0, 1, 2, 3, 4].map Encoder.chunkPayload) Encoder.mimeType
    s.Unused ∧ ⟨.call 3, .video "T" blob, "t"⟩ ∈ t.sent ∧ (t.partsTo "T").length = 3 ∧
      bytesOf (t.partsTo "T") = blob.data := by
  intro s stimuli t blob
  have unused : s.Unused := unused_with ⟨rfl, rfl, rfl, rfl, rfl, rfl, rfl⟩ "" (some "t")
  have hands : ∀ r, s.recorder = some r → r.options.handsOutChunks = true := by
    rintro r ⟨⟩
    rfl
  have sent : ⟨.call 3, .video "T" blob, "t"⟩ ∈ t.sent := by decide +kernel
  obtain ⟨-, uploaded⟩ := parts_of_upload unused hands stimuli
  obtain ⟨recording, whole, complete⟩ := uploaded _ sent "T" blob rfl
  -- There is only one recording, so it is that one.
  obtain rfl : recording = 1 := by
    by_contra other
    have one : ∀ part ∈ dated 0 t.told, part.1 = 1 := by decide +kernel
    have none : partsOf recording t.told = [] := by
      rw [List.eq_nil_iff_forall_not_mem]
      intro part member
      exact other (one _ (mem_ofRecording.mp member))
    rw [none] at whole
    exact absurd whole (by decide +kernel)
  obtain ⟨-, iff⟩ := complete (by decide +kernel)
  exact ⟨unused, sent, by decide +kernel, iff.mpr (by decide +kernel)⟩

/-- Both chunks of the recording are in a part that is told of before the attempt has begun. No part
    follows, so it is held back for good, though every request succeeds. -/
theorem part_left_behind :
    let s : Session :=
      { baseUrl := "", tokenFile := some "t"
        recorder := some
          { options := { autoStart := true, chunkInterval := 5 }
            capture := { encoder := { timeslice := 2 } } } }
    let stimuli : List Stimulus :=
      [.call (.assign "A"), .call .grantPermissions, .elapse 5, .pump,
        .call (.startExisting "T" ""), .call .finish, .pump, .answer 3 (.status 200),
        .answer 3 (.status 200), .pump]
    let t := s.run stimuli
    let blob := Blob.concat ([0, 1].map Encoder.chunkPayload) Encoder.mimeType
    s.Unused ∧ t.calls[3]?.any CallState.hasSucceeded = true ∧
      t.untaken = [] ∧ t.pump.uploading = none ∧ t.pump.held = [(blob, 0)] ∧
        t.sent.map (·.endpoint) = [.video "T" blob, .complete "T"] ∧
          bytesOf (t.partsTo "T") ≠ blob.data := by
  intro s stimuli t blob
  have unused : s.Unused := unused_with ⟨rfl, rfl, rfl, rfl, rfl, rfl, rfl⟩ "" (some "t")
  refine ⟨unused, ?_, ?_, ?_, ?_, ?_, ?_⟩ <;> decide +kernel

end

end Session

end Viva
