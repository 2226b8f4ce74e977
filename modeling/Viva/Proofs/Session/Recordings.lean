import Viva.Proofs.Session.Tracing

/-! # Where uploads come from

What a session uploads from some moment on is what it carries at that moment, or it is made of the
recording that goes on then and of what the encoder delivers later.

Beginning anew with an assignment drops the recording that is kept, and nothing else. So whatever of
an earlier assignment the session still carries, or holds in a recorder that goes on, reaches the
attempts of the new one.
-/

namespace Viva.Session

section
variable {old : Blob → Prop} {chunks : List Chunk} {n : Nat} {s : Session}

/-- What the encoder of the recorder delivers, if there is one. -/
def delivered (s : Session) (observe : Recorder → List Observation) : List Chunk :=
  match s.recorder with
  | some r => Observation.deliveries (observe r)
  | none => []

/-- What the encoder delivers in a step: while time passes, and while the session settles. -/
def deliveries (s : Session) (stimulus : Stimulus) : List Chunk :=
  let passing :=
    match stimulus with
    | .elapse ms => s.delivered (·.observe (.elapse ms))
    | _ => []
  passing ++ (s.react stimulus).delivered Recorder.observeSettling

/-- What the encoder delivers in a run. -/
def deliveriesIn (s : Session) : List Stimulus → List Chunk
  | [] => []
  | stimulus :: rest => s.deliveries stimulus ++ (s.step stimulus).deliveriesIn rest

theorem Traced.onRecorder_run (traced : Traced old chunks n s) {change : Recorder → Recorder}
    {observe : Recorder → List Observation}
    (runs : ∀ r : Recorder, r.reel.InStep → r.reel.Run (observe r) (change r).reel) :
    Traced old (chunks ++ s.delivered observe) n (s.onRecorder change) := by
  unfold delivered
  cases here : s.recorder with
  | none =>
      rw [onRecorder_none here, List.append_nil]
      exact traced
  | some r =>
      rw [onRecorder_some here]
      exact traced.setRecorder here (runs r (traced.recorder r here).inStep)

theorem Traced.step (traced : Traced old chunks n s) (stimulus : Stimulus) :
    Traced old (chunks ++ s.deliveries stimulus) n (s.step stimulus) := by
  have settled : ∀ {passing}, Traced old (chunks ++ passing) n (s.react stimulus) →
      Traced old (chunks ++ (passing ++ (s.react stimulus).delivered Recorder.observeSettling)) n
        (s.step stimulus) := by
    intro passing reacted
    rw [← List.append_assoc]
    exact (reacted.onRecorder_run fun r inStep => Recorder.run_settle inStep).releaseCancelled
  have still : Traced old (chunks ++ []) n s := by
    rw [List.append_nil]
    exact traced
  cases stimulus with
  | call call => exact settled (still.begin call)
  | answer id answer => exact settled (still.takeAnswer id answer)
  | read id read => exact settled (still.takeReadOf id read)
  | uploaded answer => exact settled still.takePumpAnswer
  | pump => exact settled (still.takeEvents still.untaken)
  | elapse ms =>
      exact settled (traced.onRecorder_run fun r inStep => Recorder.run_observe inStep (.elapse ms))
  | dispatch action => exact settled (still.dispatch action)
  | setToken token =>
      exact settled (still.of_same rfl rfl rfl rfl rfl)
  | setOutcome outcome =>
      exact settled (still.onRecorder fun r inStep => ⟨[], .rests⟩)

theorem Traced.run (traced : Traced old chunks n s) (stimuli : List Stimulus) :
    Traced old (chunks ++ s.deliveriesIn stimuli) n (s.run stimuli) := by
  induction stimuli generalizing s chunks with
  | nil =>
      rw [deliveriesIn, List.append_nil]
      exact traced
  | cons stimulus rest ih =>
      rw [deliveriesIn, ← List.append_assoc]
      exact ih (traced.step stimulus)

end

/-! ## Uploads after a new beginning -/

/-- The chunks of a recording that goes on. -/
def unfinished (s : Session) : List Chunk :=
  match s.recorder with
  | some r => if r.state.isActive then r.capture.chunks else []
  | none => []

theorem traced_fresh {s : Session} (fresh : ∀ r, s.recorder = some r → r.Fresh) :
    Traced (fun _ => True) [] 0 s := by
  refine ⟨fun _ _ _ => .inl trivial, fun _ _ => .inl trivial, fun _ _ _ => .inl trivial,
    fun _ _ => .inl trivial, fun _ _ _ _ => .inl trivial, fun r here => ?_⟩
  have nothing : r.reel.chunks = [] := (fresh r here).chunks
  exact ⟨(fresh r here).inStep, fun _ => nothing ▸ List.nil_suffix⟩

/-- At any moment all that is carried is known, and a recording that goes on is accounted for. -/
theorem Traced.now {old : Blob → Prop} {chunks : List Chunk} {n : Nat} {s : Session}
    (traced : Traced old chunks n s) : Traced s.Carries s.unfinished s.sent.length s := by
  refine ⟨fun _ _ told => .inl (.untaken told), fun _ waits => .inl (.held waits),
    fun _ _ waits => .inl (.uploading waits), fun _ kept => .inl (.kept kept), ?_, fun r here => ?_⟩
  · rw [List.drop_length]
    nofun
  · refine ⟨(traced.recorder r here).inStep, fun active => ?_⟩
    have unfinished : s.unfinished = r.capture.chunks := by
      rw [Session.unfinished, here]
      exact if_pos active
    exact unfinished ▸ List.suffix_refl _

/-- What a session uploads after it has begun anew. A recording that was kept is gone. But what else
    the session carries stays, and so does a recording that goes on; whatever else it uploads was
    delivered since. -/
theorem uploads_after_assign {s : Session} (fresh : ∀ r, s.recorder = some r → r.Fresh)
    (before : List Stimulus) (assignmentId : String) (after : List Stimulus) :
    let t := (s.run before).step (.call (.assign assignmentId))
    t.finalRecording = none ∧
      ∀ request ∈ (t.run after).sent.drop t.sent.length, ∀ blob,
        request.endpoint.recording? = some blob →
          t.Carries blob ∨ blob.IsPartOf (t.unfinished ++ t.deliveriesIn after) := by
  intro t
  -- What went before only has to show that the recorder is in step. Sources are traced from `t` on.
  have traced := ((traced_fresh fresh).run before).step (.call (.assign assignmentId))
  exact ⟨rfl, (traced.now.run after).sent⟩

/-- The first recording was dropped and nothing is carried, so the second attempt gets what was
    recorded in it. -/
theorem new_recording_after_assign :
    let s : Session :=
      { baseUrl := "", tokenFile := some "t"
        recorder := some { options := {}, capture := { encoder := { timeslice := 1 } } } }
    let t := (s.run [.call (.assign "A"), .call (.startExisting "T-a" ""), .elapse 2,
      .call .abandon, .pump]).step (.call (.assign "B"))
    let after : List Stimulus := [.call (.startExisting "T-b" ""), .elapse 2, .call .finish]
    ∃ blob, (t.run after).sent.drop t.sent.length = [⟨.call 5, .video "T-b" blob, "t"⟩] ∧
      blob.IsPartOf (t.deliveriesIn after) := by
  intro s t after
  have fresh : ∀ r, s.recorder = some r → r.Fresh := by
    intro r same
    obtain rfl := Option.some.inj same
    exact ⟨rfl, rfl, rfl, rfl, rfl, rfl, rfl⟩
  let blob := Blob.concat [Encoder.chunkPayload 0, Encoder.chunkPayload 1] Encoder.mimeType
  have sent : (t.run after).sent.drop t.sent.length = [⟨.call 5, .video "T-b" blob, "t"⟩] := by
    decide +kernel
  obtain ⟨none, known⟩ := uploads_after_assign fresh _ "B" after
  have source := known _ (sent ▸ List.mem_singleton_self _) blob rfl
  have nothing : ¬ t.Carries blob := by
    have untaken : t.untaken = [] := by decide +kernel
    have held : t.pump.held = [] := by decide +kernel
    have returned : t.calls.all CallState.isReturned = true := by decide +kernel
    rintro (told | waits | waits | kept)
    · rw [untaken] at told
      cases told
    · rw [held] at waits
      cases waits
    · cases List.all_eq_true.mp returned _ waits
    · cases none.symm.trans kept
  have ended : t.unfinished = [] := by decide +kernel
  have isNew := source.resolve_left nothing
  rw [ended, List.nil_append] at isNew
  exact ⟨blob, sent, isNew⟩

/-- The second attempt gets what was recorded before: from a recorder that goes on, though nothing is
    delivered any more; from an upload of the first attempt that is refused after the session has
    begun anew; and from a part of three chunks that the pump held back, though only one chunk is
    delivered. -/
theorem old_recording_after_assign :
    let s : Session :=
      { baseUrl := "", tokenFile := some "t"
        recorder := some
          { options := { chunkInterval := 4 }, capture := { encoder := { timeslice := 1 } } } }
    let anew (before : List Stimulus) := (s.run (.call (.assign "A") :: before)).step
      (.call (.assign "B"))
    let old := Blob.concat ([0, 1, 2].map Encoder.chunkPayload) Encoder.mimeType
    let recording := anew [.call (.startExisting "T-a" ""), .elapse 3]
    let uploading := anew [.call (.startExisting "T-a" ""), .elapse 3, .call .finish]
    let holding := anew [.call .start, .elapse 5, .call .abandon, .pump]
    let finishing : List Stimulus := [.call (.startExisting "T-b" ""), .call .finish]
    let refusing : List Stimulus :=
      [.call (.startExisting "T-b" ""), .answer 2 (.status 500), .call .clearError, .call .finish]
    let handing : List Stimulus :=
      [.call (.startExisting "T-b" ""), .elapse 1, .call .finish, .pump]
    (recording.deliveriesIn finishing = [] ∧
      (recording.run finishing).sent.getLast? = some ⟨.call 4, .video "T-b" old, "t"⟩) ∧
    (uploading.deliveriesIn refusing = [] ∧
      (uploading.run refusing).sent.getLast? = some ⟨.call 6, .video "T-b" old, "t"⟩) ∧
    (holding.deliveriesIn handing = [Encoder.chunkPayload 0] ∧
      (holding.run handing).sent.getLast? = some ⟨.pump, .chunk "T-b" old 0, "t"⟩) := by
  intro s anew old recording uploading holding finishing refusing handing
  refine ⟨⟨?_, ?_⟩, ⟨?_, ?_⟩, ⟨?_, ?_⟩⟩ <;> decide +kernel

end Viva.Session
