import Viva.Proofs.Recorder.Handout
import Viva.Proofs.Session.Turns

/-! # What a session carries

Recorded bytes wait in four places before they are uploaded: with the pump, told by the recorder and
not taken yet, in a call whose upload is not answered, and as the recording that is kept when that
upload fails. A session `Carries` what is in these places, and its recorder adds to them what it
hands out and gives out. A session is `Traced` as long as all of this, and all that it has sent, is
known to come from certain chunks. Whatever a call or the pump does keeps it so.
-/

namespace Viva

/-- The recording, or the part of one, that a request carries. -/
def Endpoint.recording? : Endpoint → Option Blob
  | .chunk _ blob _ | .video _ blob => some blob
  | _ => none

/-- The bytes are those of chunks that follow one another. -/
def Blob.IsPartOf (blob : Blob) (chunks : List Chunk) : Prop :=
  ∃ part : List Chunk, part <:+: chunks ∧ blob.data = part.flatten

theorem Blob.IsPartOf.append {blob : Blob} {chunks : List Chunk} (isPart : blob.IsPartOf chunks)
    (more : List Chunk) : blob.IsPartOf (chunks ++ more) := by
  obtain ⟨part, inside, data⟩ := isPart
  exact ⟨part, inside.trans (List.prefix_append chunks more).isInfix, data⟩

/-! ## What a recorder hands out -/

namespace Reel

open Observation

/-- A recording that goes on is the end of these chunks. -/
structure Within (chunks : List Chunk) (a : Reel) : Prop where
  inStep : a.InStep
  suffix : a.state.isActive = true → a.chunks <:+ chunks

theorem isPartOf_of_mem_handOut {a : Reel} {chunks : List Chunk} (suffix : a.chunks <:+ chunks)
    {blob : Blob} {sequence : Nat} (told : .chunkReady blob sequence ∈ a.handOut) :
    blob.IsPartOf chunks := by
  unfold handOut at told
  split at told
  · cases told
  · obtain ⟨rfl, -⟩ := RecordingEvent.chunkReady.inj (List.mem_singleton.mp told)
    exact ⟨a.pending, ((List.drop_suffix a.flushed a.chunks).trans suffix).isInfix, rfl⟩

/-- What an act hands out is a part of the recording. -/
theorem Within.handsOut_act {chunks : List Chunk} {a b : Reel} {events : List RecordingEvent}
    (within : a.Within chunks) (act : a.Act events b) {blob : Blob} {sequence : Nat}
    (told : .chunkReady blob sequence ∈ events) : blob.IsPartOf chunks := by
  cases act with
  | hands records =>
      have active := RecordingState.isActive_of_records records
      exact isPartOf_of_mem_handOut (within.suffix active) told
  | stops active =>
      have told : .chunkReady blob sequence ∈ a.handOut := by
        unfold finishing at told
        split at told
        · simpa using told
        · simp at told
      exact isPartOf_of_mem_handOut (within.suffix active) told
  | drops dropped =>
      unfold entering at told
      split at told <;> simp at told
  | _ => simp at told

theorem Within.act {chunks : List Chunk} {a b : Reel} {events : List RecordingEvent}
    (within : a.Within chunks) (act : a.Act events b) : b.Within chunks := by
  refine ⟨act.inStep within.inStep, fun active => ?_⟩
  cases act with
  | rests | notices | hands | stalls => exact within.suffix active
  | begins waits => exact within.suffix (RecordingState.isActive_of_waits waits)
  | pauses records => exact within.suffix (RecordingState.isActive_of_records records)
  | opens isOver opened => exact List.nil_suffix
  | drops dropped => exact List.nil_suffix
  | fails | refuses | stops => cases active

/-- The recording goes on as the end of what was there and what is delivered, and what is handed out
    of it is part of that. -/
theorem Within.run {chunks : List Chunk} {a b : Reel} {seen : List Observation}
    (within : a.Within chunks) (run : a.Run seen b) :
    b.Within (chunks ++ deliveries seen) ∧
      ∀ blob sequence, .told (.chunkReady blob sequence) ∈ seen →
        blob.IsPartOf (chunks ++ deliveries seen) := by
  induction run with
  | rests =>
      refine ⟨?_, fun _ _ told => absurd told List.not_mem_nil⟩
      rw [show deliveries [] = [] from rfl, List.append_nil]
      exact within
  | @step seen more b c run step ih =>
      obtain ⟨before, handed⟩ := ih
      rw [deliveries_append, ← List.append_assoc]
      cases step with
      | @acts events _ act =>
          rw [deliveries_told, List.append_nil]
          refine ⟨before.act act, fun blob sequence told => ?_⟩
          rcases List.mem_append.mp told with old | new
          · exact handed blob sequence old
          · obtain ⟨event, member, same⟩ := List.mem_map.mp new
            obtain rfl := Observation.told.inj same
            exact before.handsOut_act act member
      | delivers running chunk =>
          refine ⟨⟨?_, fun active => ?_⟩, fun blob sequence told => ?_⟩
          · exact ⟨before.inStep.capture, before.inStep.running⟩
          · obtain ⟨front, whole⟩ := before.suffix active
            refine ⟨front, ?_⟩
            rw [← whole, List.append_assoc]
            rfl
          · rcases List.mem_append.mp told with old | new
            · exact (handed blob sequence old).append _
            · cases List.mem_singleton.mp new

end Reel

namespace Session

/-! ## What a session carries -/

/-- The session may upload this some time, though its recorder does not hold it any more. -/
inductive Carries (s : Session) (blob : Blob) : Prop where
  | untaken {sequence : Nat} (told : .chunkReady blob sequence ∈ s.untaken)
  | held {sequence : Nat} (waits : (blob, sequence) ∈ s.pump.held)
  | uploading {attemptId : String}
      (waits : CallState.waiting (.upload attemptId blob) ∈ s.calls)
  | kept (kept : s.finalRecording = some blob)

/-- Either known from before, or made of these chunks. -/
def Known (old : Blob → Prop) (chunks : List Chunk) (blob : Blob) : Prop :=
  old blob ∨ blob.IsPartOf chunks

/-- All that is carried, and all that was sent after the first `n` requests, is known, and so will
    be what the recorder hands out. -/
structure Traced (old : Blob → Prop) (chunks : List Chunk) (n : Nat) (s : Session) : Prop where
  untaken : ∀ blob sequence, .chunkReady blob sequence ∈ s.untaken → Known old chunks blob
  held : ∀ part ∈ s.pump.held, Known old chunks part.1
  uploading : ∀ attemptId blob, CallState.waiting (.upload attemptId blob) ∈ s.calls →
    Known old chunks blob
  kept : ∀ blob, s.finalRecording = some blob → Known old chunks blob
  sent : ∀ request ∈ s.sent.drop n, ∀ blob, request.endpoint.recording? = some blob →
    Known old chunks blob
  recorder : ∀ r, s.recorder = some r → r.reel.Within chunks

section
variable {old : Blob → Prop} {chunks : List Chunk} {n : Nat} {s : Session}

/-- Nothing else than these matters to where uploads come from. -/
theorem Traced.of_same (traced : Traced old chunks n s) {s' : Session}
    (recorder : s'.recorder = s.recorder) (pump : s'.pump = s.pump) (calls : s'.calls = s.calls)
    (kept : s'.finalRecording = s.finalRecording) (sent : s'.sent = s.sent) :
    Traced old chunks n s' := by
  constructor
  · rw [Session.untaken, recorder, pump]
    exact traced.untaken
  · rw [pump]
    exact traced.held
  · rw [calls]
    exact traced.uploading
  · rw [kept]
    exact traced.kept
  · rw [sent]
    exact traced.sent
  · rw [recorder]
    exact traced.recorder

theorem Traced.dispatch (traced : Traced old chunks n s) (action : Action) :
    Traced old chunks n (s.dispatch action) :=
  traced.of_same rfl rfl rfl rfl rfl

theorem Traced.report (traced : Traced old chunks n s) (failure : Failure) :
    Traced old chunks n (s.report failure) :=
  traced.of_same rfl rfl rfl rfl rfl

theorem Traced.setSlot (traced : Traced old chunks n s) (transport : Transport) (slot : Slot) :
    Traced old chunks n (s.setSlot transport slot) := by
  cases transport <;> exact traced.of_same rfl rfl rfl rfl rfl

theorem Traced.setCalls (traced : Traced old chunks n s) {calls : List CallState}
    (known : ∀ attemptId blob, CallState.waiting (.upload attemptId blob) ∈ calls →
      Known old chunks blob) : Traced old chunks n { s with calls } :=
  ⟨traced.untaken, traced.held, known, traced.kept, traced.sent, traced.recorder⟩

theorem Traced.setKept (traced : Traced old chunks n s) {kept : Option Blob}
    (known : ∀ blob, kept = some blob → Known old chunks blob) :
    Traced old chunks n { s with finalRecording := kept } :=
  ⟨traced.untaken, traced.held, traced.uploading, known, traced.sent, traced.recorder⟩

theorem Traced.setCall (traced : Traced old chunks n s) (id : Nat) {state : CallState}
    (known : ∀ attemptId blob, state = .waiting (.upload attemptId blob) →
      Known old chunks blob) :
    Traced old chunks n { s with calls := s.calls.set id state } := by
  refine traced.setCalls fun attemptId blob waits => ?_
  rcases List.mem_or_eq_of_mem_set waits with before | new
  · exact traced.uploading attemptId blob before
  · exact known attemptId blob new.symm

theorem Traced.giveBack (traced : Traced old chunks n s) (id : Nat) (result : CallResult) :
    Traced old chunks n (s.giveBack id result) :=
  traced.setCall id (by nofun)

theorem Traced.failCall (traced : Traced old chunks n s) (id : Nat) (failure : Failure) :
    Traced old chunks n (s.failCall id failure) :=
  (traced.report failure).giveBack id _

theorem Traced.await (traced : Traced old chunks n s) (id : Nat) {awaiting : Awaiting}
    (known : ∀ attemptId blob, awaiting = .upload attemptId blob → Known old chunks blob) :
    Traced old chunks n (s.await id awaiting) :=
  traced.setCall id fun attemptId blob same => known attemptId blob (CallState.waiting.inj same)

theorem Traced.send (traced : Traced old chunks n s) {s' : Session} {waiter : Waiter}
    {endpoint : Endpoint} (isSent : s.send waiter endpoint = .ok s')
    (known : ∀ blob, endpoint.recording? = some blob → Known old chunks blob) :
    Traced old chunks n s' := by
  obtain ⟨token, -, rfl⟩ := eq_of_send isSent
  refine ⟨traced.untaken, traced.held, traced.uploading, traced.kept, ?_, traced.recorder⟩
  intro request member blob carries
  rw [List.drop_append] at member
  rcases List.mem_append.mp member with before | new
  · exact traced.sent request before blob carries
  · obtain rfl := List.mem_singleton.mp (List.mem_of_mem_drop new)
    exact known blob carries

/-! ### Streams -/

theorem Traced.supersede (traced : Traced old chunks n s) (transport : Transport) :
    Traced old chunks n (s.supersede transport) := by
  unfold Session.supersede
  dsimp only
  split
  · exact (traced.setSlot transport _).dispatch _
  · exact traced

theorem Traced.failStream (traced : Traced old chunks n s) (id : Nat) (transport : Transport)
    (generation : Nat) (failure : Failure) :
    Traced old chunks n (s.failStream id transport generation failure) := by
  unfold Session.failStream
  dsimp only
  split
  · exact (traced.setSlot transport _).failCall id failure
  · exact traced.giveBack id _

theorem Traced.openStream (traced : Traced old chunks n s) (id : Nat) (transport : Transport)
    {endpoint : Endpoint} (nothing : endpoint.recording? = none) :
    Traced old chunks n (s.openStream id transport endpoint) := by
  have started := traced.setSlot transport (s.slot transport).start
  unfold Session.openStream
  dsimp only
  split
  · rename_i isSent
    refine (started.send isSent ?_).await id (by nofun)
    rw [nothing]
    nofun
  · exact started.failStream id transport _ _

theorem Traced.endStream (traced : Traced old chunks n s) (id : Nat) (transport : Transport)
    (generation : Nat) (result : Except Failure StreamOutcome) :
    Traced old chunks n (s.endStream id transport generation result) := by
  match result with
  | .ok .cancelled => exact traced.giveBack id _
  | .ok (.completed done tokens) =>
      have left := traced.setSlot transport ((s.slot transport).finish generation)
      unfold Session.endStream
      dsimp only
      split
      · split
        · exact (left.dispatch _).giveBack id _
        · exact left.giveBack id _
      · exact left.giveBack id _
  | .error failure => exact traced.failStream id transport generation failure

theorem Traced.awaitRead (traced : Traced old chunks n s) (id : Nat) (transport : Transport)
    (generation : Nat) (c : Consumption) :
    Traced old chunks n (s.awaitRead id transport generation c) := by
  unfold Session.awaitRead
  split
  · exact traced.giveBack id _
  · exact traced.await id (by nofun)

theorem Traced.takeHeaders (traced : Traced old chunks n s) (id : Nat) (transport : Transport)
    (generation : Nat) (answer : Except Failure Unit) :
    Traced old chunks n (s.takeHeaders id transport generation answer) := by
  match answer with
  | .ok () => exact traced.awaitRead id transport generation {}
  | .error failure => exact traced.failStream id transport generation failure

theorem Traced.applyEvent (traced : Traced old chunks n s) (event : Event) :
    Traced old chunks n (s.applyEvent event) := by
  cases event with
  | token content => exact (traced.dispatch _).dispatch _
  | done payload => exact (traced.dispatch _).dispatch _
  | messageDone | assessmentComplete evaluationId => exact traced.dispatch _
  | error text recoverable | unknown name => exact traced

theorem Traced.takeFrames (traced : Traced old chunks n s) (transport : Transport)
    (generation : Nat) (c : Consumption) (frames : List Frame) :
    Traced old chunks n
      (Consumption.takeFrames (observer transport generation) c s frames).2 := by
  induction frames generalizing c s with
  | nil => exact traced
  | cons frame rest ih =>
      unfold Consumption.takeFrames
      split
      · exact traced
      · split
        · exact ih traced c
        · exact ih traced c
        · exact traced
        · refine ih ?_ _
          simp only [observer]
          split
          · exact traced.applyEvent _
          · exact traced

theorem Traced.takeRead (traced : Traced old chunks n s) (id : Nat) (transport : Transport)
    (generation : Nat) (c : Consumption) (read : Read) :
    Traced old chunks n (s.takeRead id transport generation c read) := by
  cases read with
  | bytes bytes =>
      have taken := traced.takeFrames transport generation
        { c with reader := (c.reader.feed bytes).2 } (c.reader.feed bytes).1
      rw [takeRead_bytes]
      unfold takeRest
      split
      · rename_i c' s' took
        rw [took] at taken
        exact taken.awaitRead id transport generation c'
      · rename_i result s' took
        rw [took] at taken
        exact taken.endStream id transport generation result
  | failure detail => exact traced.failStream id transport generation _
  | ended => exact traced.endStream id transport generation _

/-! ### The recorder -/

theorem Known.append {blob : Blob} (known : Known old chunks blob) (more : List Chunk) :
    Known old (chunks ++ more) blob :=
  known.imp_right fun isPart => isPart.append more

/-- The recorder goes on, and what it hands out and what the encoder delivers is accounted for. -/
theorem Traced.setRecorder (traced : Traced old chunks n s) {r r' : Recorder}
    (here : s.recorder = some r) {seen : List Observation} (run : r.reel.Run seen r'.reel) :
    Traced old (chunks ++ Observation.deliveries seen) n { s with recorder := some r' } := by
  obtain ⟨within, handed⟩ := (traced.recorder r here).run run
  have log : r'.log = r.log ++ seen.filterMap Observation.event? := run.log
  constructor
  · intro blob sequence told
    have untaken : Session.untaken { s with recorder := some r' } = r'.log.drop s.pump.taken := rfl
    rw [untaken, log, List.drop_append] at told
    -- It was not taken before either, or it was told in this run.
    rcases List.mem_append.mp told with before | new
    · refine (traced.untaken blob sequence ?_).append _
      rw [Session.untaken, here]
      exact before
    · obtain ⟨observation, member, isEvent⟩ := List.mem_filterMap.mp (List.mem_of_mem_drop new)
      cases observation with
      | told event =>
          obtain rfl := Option.some.inj isEvent
          exact .inr (handed blob sequence member)
      | delivered chunk => cases isEvent
  · exact fun part waits => (traced.held part waits).append _
  · exact fun attemptId blob waits => (traced.uploading attemptId blob waits).append _
  · exact fun blob kept => (traced.kept blob kept).append _
  · exact fun request member blob carries => (traced.sent request member blob carries).append _
  · intro recorder same
    obtain rfl := Option.some.inj same
    exact within

theorem Traced.act (traced : Traced old chunks n s) {r r' : Recorder} (here : s.recorder = some r)
    (act : ∃ events, r.reel.Act events r'.reel) :
    Traced old chunks n { s with recorder := some r' } := by
  obtain ⟨events, act⟩ := act
  have going := traced.setRecorder here (Reel.Step.run (.acts act))
  rwa [Observation.deliveries_told, List.append_nil] at going

theorem onRecorder_none (here : s.recorder = none) (change : Recorder → Recorder) :
    s.onRecorder change = s := by
  rw [Session.onRecorder, here, Option.map_none, ← here]

theorem onRecorder_some {r : Recorder} (here : s.recorder = some r)
    (change : Recorder → Recorder) :
    s.onRecorder change = { s with recorder := some (change r) } := by
  rw [Session.onRecorder, here, Option.map_some]

theorem Traced.onRecorder (traced : Traced old chunks n s) {change : Recorder → Recorder}
    (acts : ∀ r : Recorder, r.reel.InStep → ∃ events, r.reel.Act events (change r).reel) :
    Traced old chunks n (s.onRecorder change) := by
  cases here : s.recorder with
  | none =>
      rw [onRecorder_none here]
      exact traced
  | some r =>
      rw [onRecorder_some here]
      exact traced.act here (acts r (traced.recorder r here).inStep)

theorem Traced.prepareRecorder (traced : Traced old chunks n s) :
    Traced old chunks n s.prepareRecorder.1 := by
  unfold Session.prepareRecorder
  split
  · exact traced
  · rename_i r here
    exact traced.act here (Recorder.act_prepare (traced.recorder r here).inStep)

theorem Traced.startRecorder (traced : Traced old chunks n s) :
    Traced old chunks n s.startRecorder.1 := by
  unfold Session.startRecorder
  split
  · exact traced
  · rename_i r here
    exact traced.act here (Recorder.act_start (traced.recorder r here).inStep)

/-- The recording that a session takes is known, whether it was kept or is given out now. -/
theorem Traced.takeRecording (traced : Traced old chunks n s) :
    Traced old chunks n s.takeRecording.1 ∧
      ∀ blob, s.takeRecording.2 = some blob → Known old chunks blob := by
  unfold Session.takeRecording
  split
  · rename_i blob kept
    refine ⟨traced.setKept (by nofun), fun other same => ?_⟩
    obtain rfl := Option.some.inj same
    exact traced.kept blob kept
  · exact ⟨traced, by nofun⟩
  · rename_i r kept here
    have within := traced.recorder r here
    have stopped := traced.act here (Recorder.act_stop within.inStep)
    dsimp only
    split
    · rename_i blob given
      obtain ⟨active, whole⟩ := Recorder.recording_of_stop within.inStep given
      have isPart : blob.IsPartOf chunks :=
        ⟨r.capture.chunks, (within.suffix active).isInfix, congrArg Blob.data whole⟩
      refine ⟨stopped, fun other same => ?_⟩
      split at same
      · cases same
      · obtain rfl := Option.some.inj same
        exact .inr isPart
    · exact ⟨stopped, by nofun⟩

/-! ### Calls -/

theorem Traced.assign (traced : Traced old chunks n s) (assignmentId : String) :
    Traced old chunks n (s.assign assignmentId) := by
  have dropped : Traced old chunks n { s with finalRecording := none } := traced.setKept (by nofun)
  exact dropped.of_same rfl rfl rfl rfl rfl

theorem Traced.acquireDevices (traced : Traced old chunks n s) (id : Nat) :
    Traced old chunks n (s.acquireDevices id) := by
  have prepared := traced.prepareRecorder
  unfold Session.acquireDevices
  split
  · rename_i isPrepared
    rw [isPrepared] at prepared
    exact prepared.failCall id _
  · rename_i isPrepared
    rw [isPrepared] at prepared
    exact (prepared.dispatch _).giveBack id _

theorem Traced.grantPermissions (traced : Traced old chunks n s) (id : Nat) :
    Traced old chunks n (s.grantPermissions id) := by
  unfold Session.grantPermissions
  dsimp only
  split
  · exact traced.acquireDevices id
  · split
    · split
      · exact traced.giveBack id _
      · exact (traced.dispatch _).acquireDevices id
    · exact traced.giveBack id _

theorem Traced.start (traced : Traced old chunks n s) (id : Nat) :
    Traced old chunks n (s.start id) := by
  unfold Session.start
  dsimp only
  split
  · exact traced.giveBack id _
  · split
    · exact traced.giveBack id _
    · have started := (traced.dispatch (.startAssessment none none s.wallClock)).startRecorder
      split
      · rename_i isStarted
        rw [isStarted] at started
        exact started.failCall id _
      · rename_i isStarted
        rw [isStarted] at started
        exact started.openStream id .response rfl

theorem Traced.startExisting (traced : Traced old chunks n s) (id : Nat)
    (attemptId objectiveTitle : String) :
    Traced old chunks n (s.startExisting id attemptId objectiveTitle) := by
  unfold Session.startExisting
  dsimp only
  split
  · exact traced.giveBack id _
  · have started := (traced.dispatch
      (.startAssessment (some attemptId) (some objectiveTitle) s.wallClock)).startRecorder
    split
    · rename_i isStarted
      rw [isStarted] at started
      exact started.failCall id _
    · rename_i isStarted
      rw [isStarted] at started
      exact started.giveBack id _

theorem Traced.streamReply (traced : Traced old chunks n s) (id : Nat) (content : String) :
    Traced old chunks n (s.streamReply id content) := by
  have begun := traced.dispatch .beginInterviewerMessage
  unfold Session.streamReply
  dsimp only
  split
  · exact begun.failCall id _
  · exact begun.openStream id .response rfl

theorem Traced.sendMessage (traced : Traced old chunks n s) (id : Nat) (content : String) :
    Traced old chunks n (s.sendMessage id content) := by
  have superseded := traced.supersede .response
  unfold Session.sendMessage
  dsimp only
  split
  · exact traced.giveBack id _
  · split
    · have said := superseded.dispatch (.sendMessage content)
      refine Traced.streamReply ?_ id content
      exact said.of_same rfl rfl rfl rfl rfl
    · exact superseded.giveBack id _

theorem Traced.retry (traced : Traced old chunks n s) (id : Nat) :
    Traced old chunks n (s.retry id) := by
  unfold Session.retry Session.retryStart
  dsimp only
  split
  · exact traced.giveBack id _
  · split
    · split
      · exact (traced.dispatch _).giveBack id _
      · split
        · exact traced.grantPermissions id
        · split
          · exact traced.giveBack id _
          · exact ((traced.dispatch _).dispatch _).start id
    · split
      · exact (traced.dispatch _).streamReply id _
      · exact (traced.dispatch _).giveBack id _

theorem Traced.followEvents (traced : Traced old chunks n s) (id : Nat) :
    Traced old chunks n (s.followEvents id) := by
  unfold Session.followEvents
  split
  · exact traced.giveBack id _
  · exact traced.openStream id .eventSource rfl

theorem Traced.failUpload (traced : Traced old chunks n s) (id : Nat) {recording : Blob}
    (known : Known old chunks recording) (failure : Failure) :
    Traced old chunks n (s.failUpload id recording failure) := by
  refine Traced.failCall (traced.setKept fun blob same => ?_) id failure
  obtain rfl := Option.some.inj same
  exact known

theorem Traced.sendCompletion (traced : Traced old chunks n s) (id : Nat) (attemptId : String) :
    Traced old chunks n (s.sendCompletion id attemptId) := by
  unfold Session.sendCompletion
  split
  · rename_i isSent
    exact (traced.send isSent (by nofun)).await id (by nofun)
  · exact traced.failCall id _

theorem Traced.finish (traced : Traced old chunks n s) (id : Nat) :
    Traced old chunks n (s.finish id) := by
  unfold Session.finish
  dsimp only
  split
  · exact traced.giveBack id _
  · split
    · exact traced.failCall id _
    · rename_i attemptId _
      obtain ⟨taken, known⟩ :=
        (((traced.supersede .response).supersede .eventSource).dispatch
          .beginCompletion).takeRecording
      split
      · rename_i took
        rw [took] at taken
        exact taken.sendCompletion id attemptId
      · rename_i recording took
        rw [took] at taken known
        have isKnown := known recording rfl
        split
        · rename_i isSent
          refine (taken.send isSent fun blob same => ?_).await id fun _ blob same => ?_
          · obtain rfl := Option.some.inj same
            exact isKnown
          · obtain ⟨-, rfl⟩ := Awaiting.upload.inj same
            exact isKnown
        · exact taken.failUpload id isKnown _

theorem Traced.abandon (traced : Traced old chunks n s) : Traced old chunks n s.abandon :=
  ((traced.supersede .response).supersede .eventSource).onRecorder fun _ => Recorder.act_abandon

theorem Traced.runCall (traced : Traced old chunks n s) (id : Nat) (call : Call) :
    Traced old chunks n (s.runCall id call) := by
  cases call with
  | assign assignmentId => exact (traced.assign assignmentId).giveBack id _
  | grantPermissions => exact traced.grantPermissions id
  | start => exact traced.start id
  | startExisting attemptId title => exact traced.startExisting id attemptId title
  | sendMessage content => exact traced.sendMessage id content
  | retry => exact traced.retry id
  | clearError | continueAfterClosure => exact (traced.dispatch _).giveBack id _
  | followEvents => exact traced.followEvents id
  | pauseRecording => exact (traced.onRecorder fun _ => Recorder.act_pause).giveBack id _
  | resumeRecording => exact (traced.onRecorder fun _ => Recorder.act_resume).giveBack id _
  | setVisibility visibility =>
      exact (traced.onRecorder fun _ inStep =>
        Recorder.act_setVisibility inStep visibility).giveBack id _
  | finish => exact traced.finish id
  | abandon => exact traced.abandon.giveBack id _

theorem Traced.begin (traced : Traced old chunks n s) (call : Call) :
    Traced old chunks n (s.begin call) := by
  have opened : Traced old chunks n s.withCall := by
    refine traced.setCalls fun attemptId blob waits => ?_
    rcases List.mem_append.mp waits with before | new
    · exact traced.uploading attemptId blob before
    · cases List.mem_singleton.mp new
  exact opened.runCall s.nextCall call

theorem Traced.takeAnswer (traced : Traced old chunks n s) (id : Nat) (answer : Answer) :
    Traced old chunks n (s.takeAnswer id answer) := by
  unfold Session.takeAnswer
  split
  · exact traced.takeHeaders id _ _ _
  · rename_i attemptId recording here
    have known := traced.uploading attemptId recording (List.mem_of_getElem? here)
    unfold Session.takeUploaded
    split
    · exact traced.sendCompletion id attemptId
    · exact traced.failUpload id known _
  · unfold Session.takeCompleted
    split
    · exact (traced.dispatch _).giveBack id _
    · exact traced.failCall id _
  · exact traced

theorem Traced.takeReadOf (traced : Traced old chunks n s) (id : Nat) (read : Read) :
    Traced old chunks n (s.takeReadOf id read) := by
  unfold Session.takeReadOf
  split
  · exact traced.takeRead id _ _ _ read
  · exact traced

/-! ### The pump -/

theorem Traced.setPump (traced : Traced old chunks n s) {pump : Pump}
    (goesOn : s.pump.taken ≤ pump.taken) (held : ∀ part ∈ pump.held, Known old chunks part.1) :
    Traced old chunks n (s.setPump pump) := by
  refine ⟨fun blob sequence told => traced.untaken blob sequence ?_, held, traced.uploading,
    traced.kept, traced.sent, traced.recorder⟩
  have fewer : (s.setPump pump).untaken <:+ s.untaken := by
    unfold Session.untaken Session.setPump
    dsimp only
    split
    · rw [← Nat.add_sub_cancel' goesOn, ← List.drop_drop]
      exact List.drop_suffix _ _
    · exact List.suffix_refl _
  exact fewer.mem told

theorem Traced.uploadNext (traced : Traced old chunks n s) (attemptId : String)
    {held : List (Blob × Nat)} (known : ∀ part ∈ held, Known old chunks part.1) :
    Traced old chunks n (s.uploadNext attemptId held) := by
  rcases s.uploadNext_cases attemptId held with
    same | ⟨blob, sequence, rest, s', among, isSent, same⟩ <;> rw [same]
  · exact traced.setPump (Nat.le_refl _) (by nofun)
  · refine (traced.send isSent fun part same => ?_).setPump (Nat.le_refl _) fun part member => ?_
    · obtain rfl := Option.some.inj same
      exact known (blob, sequence) (among.mem List.mem_cons_self)
    · exact known part (among.mem (List.mem_cons_of_mem _ member))

theorem Traced.takeEvent (traced : Traced old chunks n s) {event : RecordingEvent}
    (known : ∀ blob sequence, event = .chunkReady blob sequence → Known old chunks blob) :
    Traced old chunks n (s.takeEvent event) := by
  have taken : Traced old chunks n (s.setPump { s.pump with taken := s.pump.taken + 1 }) :=
    traced.setPump (Nat.le_succ _) traced.held
  unfold Session.takeEvent
  cases event with
  | stateChanged state => exact taken
  | maxDurationReached =>
      exact taken.of_same rfl rfl rfl rfl rfl
  | failed failure => exact taken.report failure
  | chunkReady blob sequence =>
      -- The part queues behind those that are held; which of them are sent is no matter.
      have all : ∀ part ∈ s.pump.held ++ [(blob, sequence)], Known old chunks part.1 := by
        intro part member
        rcases List.mem_append.mp member with before | new
        · exact traced.held part before
        · obtain rfl := List.mem_singleton.mp new
          exact known blob sequence rfl
      dsimp only
      split
      · exact taken.setPump (Nat.le_refl _) all
      · exact taken.uploadNext _ all

theorem Traced.takeEvents (traced : Traced old chunks n s) {events : List RecordingEvent}
    (known : ∀ blob sequence, .chunkReady blob sequence ∈ events → Known old chunks blob) :
    Traced old chunks n (s.takeEvents events) := by
  induction events generalizing s with
  | nil => exact traced
  | cons event rest ih =>
      unfold Session.takeEvents
      split
      · exact traced
      · refine ih (traced.takeEvent fun blob sequence same => ?_) fun blob sequence member => ?_
        · exact known blob sequence (same ▸ List.mem_cons_self)
        · exact known blob sequence (List.mem_cons_of_mem event member)

theorem Traced.takePumpAnswer (traced : Traced old chunks n s) :
    Traced old chunks n s.takePumpAnswer := by
  unfold Session.takePumpAnswer
  split
  · exact traced.uploadNext _ traced.held
  · exact traced

/-! ### Settling -/

theorem Traced.releaseCancelled (traced : Traced old chunks n s) :
    Traced old chunks n s.releaseCancelled := by
  refine traced.setCalls fun attemptId blob waits => ?_
  obtain ⟨state, member, same⟩ := List.mem_map.mp waits
  refine traced.uploading attemptId blob ?_
  split at same
  · split at same <;> cases same
  · rw [same] at member
    exact member

end

end Session

end Viva
