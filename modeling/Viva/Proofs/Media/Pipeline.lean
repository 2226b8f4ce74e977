import Viva.Proofs.Media.Timeslices
import Viva.Proofs.Media.Usage

/-! # Between the encoder and the buffer

A `Capture` collects a chunk in the moment its encoder delivers it. A `Pipeline` is a capture with
what lies between the two: the encoder puts its items into the channel of the run, where one may have
to wait for room, and a task collects them one by one. A stop waits for that task. Timeslices end,
items find room and are collected in any order, and operations come in between. An event is what one
of them does from one wait to the next, so none sees another's work half done.

`Pipeline.outputs` notes what the encoder has put out since the last reset, run by run.
`Pipeline.Sound` says that nothing of it gets lost on the way and nothing comes twice; every event
keeps it so (`Sound.next`).
-/

namespace Viva

/-- The capture is told to do something. Other inputs are time that passes, and what other people do
    with devices. -/
def Capture.Input.isCall : Capture.Input → Bool
  | .setOutcome _ | .share _ | .unplug _ | .elapse _ => false
  | _ => true

structure Pipeline where
  capture : Capture
  /-- What was delivered in the current run and not collected yet. -/
  queue : List (Except Failure Chunk) := []
  /-- The item that finds no room. -/
  held : Option (Except Failure Chunk) := none
  /-- The task that collects is at work. -/
  collects : Bool := false
  /-- A stop waits for the task to end. -/
  stopping : Bool := false
  /-- What the encoder has put out since the last reset, run by run. -/
  outputs : List (List (Except Failure Chunk)) := []

namespace Pipeline

inductive Event where
  | input (input : Capture.Input)
  /-- The clock comes to a time. -/
  | clock (time : Nat)
  /-- The current timeslice ends, if it is due. -/
  | tick
  /-- The item that is held finds room, if there is room. -/
  | deliver
  /-- An item is collected, if there is one. -/
  | collect
  /-- The stop that waits comes to its end, if it can. -/
  | finish

/-- What was put out and not collected, in its order. -/
def onTheWay (p : Pipeline) : List (Except Failure Chunk) :=
  p.queue ++ p.held.toList

/-- The encoder with the channel of its run. -/
def channel (p : Pipeline) : EncoderChannel :=
  { encoder := p.capture.encoder, queue := p.queue, held := p.held }

/-- The chunks among some items. -/
def chunksOf (items : List (Except Failure Chunk)) : List Chunk :=
  items.filterMap Except.toOption

/-- Notes what is put out in the current run. -/
def note (outputs : List (List (Except Failure Chunk))) :
    Option (Except Failure Chunk) → List (List (Except Failure Chunk))
  | none => outputs
  | some item => outputs.dropLast ++ [outputs.getLastD [] ++ [item]]

/-- An input to the capture. A stop only begins; time passes by itself. -/
def handle (p : Pipeline) : Capture.Input → Pipeline
  | .start stream audio =>
    match p.capture.startEncoding stream audio with
    | .ok capture => { capture, collects := true, outputs := p.outputs ++ [[]] }
    | .error _ => p
  | .stop =>
    if p.capture.state == .inactive then p
    else
      { p with
        capture := { p.capture with encoder := p.capture.encoder.stop }
        stopping := true }
  | .reset => { capture := p.capture.reset }
  | .elapse _ => p
  | input => { p with capture := p.capture.step input }

/-- Lets the current timeslice end. An encoder that holds an item stands still. -/
def tick (p : Pipeline) : Pipeline :=
  if p.held.isSome then p
  else
    let channel := p.channel.fire
    { p with
      capture := { p.capture with encoder := channel.encoder }
      queue := channel.queue
      held := channel.held
      outputs := note p.outputs p.capture.encoder.fire.2 }

/-- Gives the item that is held another try. -/
def deliver (p : Pipeline) : Pipeline :=
  match p.held with
  | some item =>
    let channel := p.channel.deliver item
    { p with queue := channel.queue, held := channel.held }
  | none => p

/-- Collects the next item. At a fault the task ends, and its end of the channel goes with it. -/
def collect (p : Pipeline) : Pipeline :=
  if p.collects then
    match p.queue with
    | .ok chunk :: rest =>
      { p with capture := { p.capture with chunks := p.capture.chunks ++ [chunk] }, queue := rest }
    | .error failure :: _ =>
      { p with
        capture := { p.capture with
          faults := p.capture.faults ++ [(p.capture.runs - 1, failure)] }
        queue := []
        held := none
        collects := false }
    | [] => p
  else p

/-- What the stop gives, once the task has nothing to wait for any more. -/
def finish (p : Pipeline) : Option (Blob × Pipeline) :=
  if p.stopping && (!p.collects || p.onTheWay.isEmpty) then
    match p.capture.stop with
    | .ok (blob, capture) => some (blob, { p with capture, collects := false, stopping := false })
    | .error _ => none
  else none

/-- The pipeline after an event. While a stop waits the capture is not told anything. -/
def next (p : Pipeline) : Event → Pipeline
  | .input input => if p.stopping && input.isCall then p else p.handle input
  | .clock time => { p with capture := p.capture.advanceTo time }
  | .tick => p.tick
  | .deliver => p.deliver
  | .collect => p.collect
  | .finish =>
    match p.finish with
    | some (_, after) => after
    | none => p

/-- The pipeline after some events. -/
def run (p : Pipeline) (events : List Event) : Pipeline :=
  events.foldl next p

/-! ## What holds all the time -/

/-- What one run may have put out: its chunks one after the other, as many as there are before the
    fault, and then the fault, if it has come to it. -/
def IsOutput (faultAfter : Option Nat) (output : List (Except Failure Chunk)) : Prop :=
  ∃ count, (∀ fault, faultAfter = some fault → count ≤ fault) ∧
    (output = EncoderChannel.chunksFrom 0 count ∨
      faultAfter = some count ∧
        output = EncoderChannel.chunksFrom 0 count ++ [.error Encoder.crash])

/-- Nothing that was put out is lost, and nothing comes twice. -/
structure Sound (faultAfter : Option Nat) (p : Pipeline) : Prop where
  fault : p.capture.encoder.faultAfter = faultAfter
  outputs : ∀ output ∈ p.outputs, IsOutput faultAfter output
  chunks : p.capture.chunks ++ chunksOf p.onTheWay = p.outputs.flatMap chunksOf
  /-- What is on the way is the end of what the current run has put out. -/
  current : p.onTheWay ≠ [] →
    p.collects = true ∧ ∃ earlier output, p.outputs = earlier ++ [output] ∧ p.onTheWay <:+ output
  /-- An encoder at work has put out the chunks before its ordinal. -/
  working : ∀ run, p.capture.encoder.run = some run →
    p.collects = true ∧ p.stopping = false ∧ p.capture.state ≠ .inactive ∧
      (∀ fault, faultAfter = some fault → run.ordinal ≤ fault) ∧
      ∃ earlier, p.outputs = earlier ++ [EncoderChannel.chunksFrom 0 run.ordinal]
  /-- Nothing is left behind by a stop. -/
  inactive : p.capture.state = .inactive → p.onTheWay = [] ∧ p.stopping = false

section
variable {p : Pipeline} {faultAfter : Option Nat}

/-! ## Outputs -/

theorem chunksOf_append (xs ys : List (Except Failure Chunk)) :
    chunksOf (xs ++ ys) = chunksOf xs ++ chunksOf ys :=
  List.filterMap_append

theorem note_concat (earlier : List (List (Except Failure Chunk)))
    (output : List (Except Failure Chunk)) (item : Except Failure Chunk) :
    note (earlier ++ [output]) (some item) = earlier ++ [output ++ [item]] := by
  simp [note]

theorem chunksFrom_succ (count : Nat) : EncoderChannel.chunksFrom 0 (count + 1) =
    EncoderChannel.chunksFrom 0 count ++ [.ok (Encoder.chunkPayload count)] := by
  simp [EncoderChannel.chunksFrom, List.range'_concat]

theorem not_error_of_chunksFrom {count : Nat} {failure : Failure} :
    .error failure ∉ EncoderChannel.chunksFrom 0 count := by
  simp [EncoderChannel.chunksFrom]

theorem isOutput_nil : IsOutput faultAfter [] :=
  ⟨0, fun _ _ => Nat.zero_le _, .inl rfl⟩

/-- Nothing comes after a fault. -/
theorem IsOutput.error_last {before after : List (Except Failure Chunk)} {failure : Failure}
    (output : IsOutput faultAfter (before ++ .error failure :: after)) : after = [] := by
  obtain ⟨count, _, same | ⟨_, same⟩⟩ := output
  · have among : Except.error failure ∈ before ++ .error failure :: after := by simp
    rw [same] at among
    exact absurd among not_error_of_chunksFrom
  · by_contra some
    have front := congrArg List.dropLast same
    rw [List.dropLast_concat, List.dropLast_append_cons, List.dropLast_cons_of_ne_nil some] at front
    have among : Except.error failure ∈ before ++ .error failure :: after.dropLast := by simp
    rw [front] at among
    exact not_error_of_chunksFrom among

end

/-! ## What the encoder and the buffer have nothing to do with -/

/-- The capture collects what it did, and its encoder is where it was. -/
structure Steady (a b : Capture) : Prop where
  chunks : b.chunks = a.chunks
  fault : b.encoder.faultAfter = a.encoder.faultAfter
  ordinal : b.encoder.run.map (·.ordinal) = a.encoder.run.map (·.ordinal)
  inactive : b.state = .inactive ↔ a.state = .inactive

theorem steady_of_eq {a b : Capture} (chunks : b.chunks = a.chunks) (encoder : b.encoder = a.encoder)
    (state : b.state = a.state) : Steady a b :=
  ⟨chunks, by rw [encoder], by rw [encoder], by rw [state]⟩

theorem ordinal_setPaused (encoder : Encoder) (paused : Bool) :
    (encoder.setPaused paused).run.map (·.ordinal) = encoder.run.map (·.ordinal) := by
  simp [Encoder.setPaused, Function.comp_def]

theorem steady_pause (a : Capture) : Steady a a.pause.2 := by
  unfold Capture.pause
  split
  · rename_i recording
    exact ⟨rfl, rfl, ordinal_setPaused _ _, by simp [eq_of_beq recording]⟩
  · exact steady_of_eq rfl rfl rfl

theorem steady_resume (a : Capture) : Steady a a.resume.2 := by
  unfold Capture.resume
  split
  · rename_i paused
    exact ⟨rfl, rfl, ordinal_setPaused _ _, by simp [eq_of_beq paused]⟩
  · exact steady_of_eq rfl rfl rfl

theorem steady_acquire (a : Capture) (constraints : Constraints) :
    Steady a (a.acquire constraints).1 := by
  unfold Capture.acquire
  split
  · exact steady_of_eq rfl rfl rfl
  · split <;> exact steady_of_eq rfl rfl rfl

theorem steady_releaseTracks (a : Capture) : Steady a a.releaseTracks := by
  unfold Capture.releaseTracks
  split <;> exact steady_of_eq rfl rfl rfl

section
variable {p : Pipeline} {faultAfter : Option Nat}

theorem Sound.of_steady (sound : p.Sound faultAfter) {capture : Capture}
    (steady : Steady p.capture capture) : { p with capture }.Sound faultAfter where
  fault := steady.fault.trans sound.fault
  outputs := sound.outputs
  chunks := by
    rw [steady.chunks]
    exact sound.chunks
  current := sound.current
  working := by
    intro run running
    have ordinal := steady.ordinal
    rw [running, Option.map_some, eq_comm, Option.map_eq_some_iff] at ordinal
    obtain ⟨before, ran, same⟩ := ordinal
    have working := sound.working before ran
    rw [same, Ne, ← steady.inactive] at working
    exact working
  inactive := fun idle => sound.inactive (steady.inactive.mp idle)

/-! ## One input -/

theorem Sound.start (sound : p.Sound faultAfter) (stream : MediaStream)
    (audio : Option MediaStream) : (p.handle (.start stream audio)).Sound faultAfter := by
  simp only [handle]
  split
  · rename_i capture started
    have idle := Capture.inactive_of_startEncoding started
    obtain ⟨encoder, recorded, begun, rfl⟩ := Capture.startEncoding_eq started
    obtain ⟨_, rfl⟩ := Encoder.start_eq begun
    have empty := (sound.inactive idle).1
    have all := sound.chunks
    rw [empty] at all
    constructor
    · exact sound.fault
    · simp only [List.forall_mem_append, List.forall_mem_singleton]
      exact ⟨sound.outputs, isOutput_nil⟩
    · simpa [onTheWay, chunksOf] using all
    · simp [onTheWay]
    · rintro run ⟨⟩
      exact ⟨rfl, rfl, nofun, fun _ _ => Nat.zero_le _, p.outputs, rfl⟩
    · nofun
  · exact sound

theorem Sound.stop (sound : p.Sound faultAfter) : (p.handle .stop).Sound faultAfter := by
  simp only [handle]
  split
  · exact sound
  · rename_i active
    refine ⟨sound.fault, sound.outputs, sound.chunks, sound.current, nofun, ?_⟩
    intro idle
    simp [show p.capture.state = .inactive from idle] at active

theorem Sound.reset (sound : p.Sound faultAfter) : (p.handle .reset).Sound faultAfter := by
  have still : p.capture.reset.encoder.run = none := by
    apply Capture.still_reset
    intro idle
    by_contra running
    obtain ⟨run, running⟩ := Option.ne_none_iff_exists'.mp running
    exact (sound.working run running).2.2.1 idle
  have fault : p.capture.reset.encoder.faultAfter = faultAfter := by
    rcases p.capture.encoder_reset with ⟨_, same⟩ | stopped
    · rw [same]
      exact sound.fault
    · rw [stopped]
      exact sound.fault
  refine ⟨fault, nofun, rfl, nofun, ?_, fun _ => ⟨rfl, rfl⟩⟩
  intro run running
  simp [handle, still] at running

/-- All other inputs are the business of the capture alone. -/
theorem handle_cases (p : Pipeline) (input : Capture.Input) :
    (∃ stream audio, input = .start stream audio) ∨ input = .stop ∨ input = .reset ∨
      ∃ capture, Steady p.capture capture ∧ p.handle input = { p with capture } := by
  cases input with
  | start stream audio => exact .inl ⟨stream, audio, rfl⟩
  | stop => exact .inr (.inl rfl)
  | reset => exact .inr (.inr (.inl rfl))
  | elapse => exact .inr (.inr (.inr ⟨_, steady_of_eq rfl rfl rfl, rfl⟩))
  | pause => exact .inr (.inr (.inr ⟨_, steady_pause _, rfl⟩))
  | resume => exact .inr (.inr (.inr ⟨_, steady_resume _, rfl⟩))
  | acquire => exact .inr (.inr (.inr ⟨_, steady_acquire _ _, rfl⟩))
  | releaseTracks => exact .inr (.inr (.inr ⟨_, steady_releaseTracks _, rfl⟩))
  | takeFaultChannel | setOutcome | share | unplug =>
      exact .inr (.inr (.inr ⟨p.capture.step _, steady_of_eq rfl rfl rfl, rfl⟩))

theorem Sound.handle (sound : p.Sound faultAfter) (input : Capture.Input) :
    (p.handle input).Sound faultAfter := by
  rcases p.handle_cases input with ⟨stream, audio, rfl⟩ | rfl | rfl | ⟨capture, steady, same⟩
  · exact sound.start stream audio
  · exact sound.stop
  · exact sound.reset
  · rw [same]
    exact sound.of_steady steady

/-! ## One item -/

/-- An item goes into the channel behind the others, or it is held. -/
theorem onTheWay_deliver (channel : EncoderChannel) (item : Except Failure Chunk) :
    (channel.deliver item).queue ++ (channel.deliver item).held.toList = channel.queue ++ [item] := by
  unfold EncoderChannel.deliver
  split <;> simp

theorem encoder_deliver (channel : EncoderChannel) (item : Except Failure Chunk) :
    (channel.deliver item).encoder = channel.encoder := by
  unfold EncoderChannel.deliver
  split <;> rfl

/-- The encoder puts an item out. -/
theorem Sound.emit (sound : p.Sound faultAfter) {item : Except Failure Chunk} {encoder : Encoder}
    {queue : List (Except Failure Chunk)} {held : Option (Except Failure Chunk)} {run : EncoderRun}
    (running : p.capture.encoder.run = some run) (fault : encoder.faultAfter = faultAfter)
    (last : queue ++ held.toList = p.onTheWay ++ [item])
    (output : IsOutput faultAfter (EncoderChannel.chunksFrom 0 run.ordinal ++ [item]))
    (goesOn : ∀ after, encoder.run = some after →
      (∀ fault, faultAfter = some fault → after.ordinal ≤ fault) ∧
        EncoderChannel.chunksFrom 0 after.ordinal =
          EncoderChannel.chunksFrom 0 run.ordinal ++ [item]) :
    { p with
      capture := { p.capture with encoder }
      queue
      held
      outputs := note p.outputs (some item) }.Sound faultAfter := by
  obtain ⟨collects, calm, active, _, earlier, outputs⟩ := sound.working run running
  -- Whatever is on the way was put out in this run, so the item comes behind it.
  have suffix : p.onTheWay <:+ EncoderChannel.chunksFrom 0 run.ordinal := by
    by_cases empty : p.onTheWay = []
    · simp [empty]
    · obtain ⟨_, earlier', output', same, suffix⟩ := sound.current empty
      rw [outputs] at same
      rwa [List.singleton_inj.mp (List.append_inj' same rfl).2]
  have before := sound.outputs
  have all := sound.chunks
  rw [outputs] at before all
  rw [List.forall_mem_append] at before
  rw [outputs, note_concat]
  constructor
  · exact fault
  · rw [List.forall_mem_append, List.forall_mem_singleton]
    exact ⟨before.1, output⟩
  · rw [onTheWay, last, chunksOf_append, ← List.append_assoc, all]
    simp [chunksOf_append]
  · intro _
    refine ⟨collects, earlier, _, rfl, ?_⟩
    obtain ⟨front, whole⟩ := suffix
    exact ⟨front, by rw [← whole, List.append_assoc]; exact congrArg (front ++ ·) last⟩
  · intro after works
    obtain ⟨below, same⟩ := goesOn after works
    exact ⟨collects, calm, active, below, earlier, by rw [same]⟩
  · intro idle
    exact absurd idle active

theorem Sound.tick (sound : p.Sound faultAfter) : p.tick.Sound faultAfter := by
  unfold Pipeline.tick
  split
  · exact sound
  rename_i room
  rw [Bool.not_eq_true, Option.isSome_eq_false_iff, Option.isNone_iff_eq_none] at room
  have last (encoder : Encoder) (item : Except Failure Chunk) :
      ({ p.channel with encoder }.deliver item).queue ++
        ({ p.channel with encoder }.deliver item).held.toList = p.onTheWay ++ [item] := by
    simp [onTheWay_deliver, onTheWay, room, channel]
  have fires := p.capture.encoder.fires
  rw [EncoderChannel.fire_eq, show p.channel.encoder = p.capture.encoder from rfl]
  generalize p.capture.encoder.fire = fired at fires ⊢
  cases fires with
  | rests => exact sound
  | skips running => exact sound.of_steady ⟨rfl, rfl, by simp [running], Iff.rfl⟩
  | @crashes run running _ _ faulty =>
      have below := (sound.working run running).2.2.2.1
      rw [sound.fault] at faulty
      simp only [encoder_deliver]
      refine sound.emit running sound.fault (last _ _) ⟨run.ordinal, below, .inr ⟨faulty, rfl⟩⟩ ?_
      nofun
  | @delivers run running _ _ healthy =>
      have below := (sound.working run running).2.2.2.1
      have below' : ∀ fault, faultAfter = some fault → run.ordinal + 1 ≤ fault := by
        intro fault planned
        have other : fault ≠ run.ordinal := by
          rintro rfl
          exact healthy (sound.fault.trans planned)
        have := below fault planned
        omega
      simp only [encoder_deliver]
      refine sound.emit running sound.fault (last _ _)
        ⟨run.ordinal + 1, below', .inl (chunksFrom_succ _).symm⟩ ?_
      rintro after ⟨⟩
      exact ⟨below', chunksFrom_succ _⟩

/-- What is on the way is the same items in the same order, wherever they are. -/
theorem Sound.of_onTheWay (sound : p.Sound faultAfter) {queue : List (Except Failure Chunk)}
    {held : Option (Except Failure Chunk)} (same : queue ++ held.toList = p.onTheWay) :
    { p with queue, held }.Sound faultAfter where
  fault := sound.fault
  outputs := sound.outputs
  chunks := by
    rw [onTheWay, same]
    exact sound.chunks
  current := by
    rw [onTheWay, same]
    exact sound.current
  working := sound.working
  inactive := by
    rw [onTheWay, same]
    exact sound.inactive

theorem Sound.deliver (sound : p.Sound faultAfter) : p.deliver.Sound faultAfter := by
  unfold Pipeline.deliver
  split
  · rename_i item held
    apply sound.of_onTheWay
    rw [onTheWay_deliver, onTheWay, held]
    rfl
  · exact sound

/-- A fault is the last thing on the way, and the encoder is not at work any more. -/
theorem Sound.fault_last (sound : p.Sound faultAfter) {failure : Failure}
    {rest : List (Except Failure Chunk)} (way : p.onTheWay = .error failure :: rest) :
    rest = [] ∧ p.capture.encoder.run = none := by
  have current := sound.current
  rw [way] at current
  obtain ⟨_, earlier, output, outputs, front, whole⟩ := current nofun
  have proper := sound.outputs output (by simp [outputs])
  rw [← whole] at proper
  refine ⟨proper.error_last, ?_⟩
  by_contra works
  obtain ⟨run, works⟩ := Option.ne_none_iff_exists'.mp works
  obtain ⟨_, _, _, _, earlier', outputs'⟩ := sound.working run works
  rw [outputs] at outputs'
  have same := List.singleton_inj.mp (List.append_inj' outputs' rfl).2
  have among : Except.error failure ∈ output := by simp [← whole]
  rw [same] at among
  exact not_error_of_chunksFrom among

theorem Sound.collect (sound : p.Sound faultAfter) : p.collect.Sound faultAfter := by
  unfold Pipeline.collect
  split
  · rename_i collects
    split
    · rename_i chunk rest queue
      have way : p.onTheWay = .ok chunk :: (rest ++ p.held.toList) := by simp [onTheWay, queue]
      have all := sound.chunks
      have current := sound.current
      rw [way] at all current
      refine ⟨sound.fault, sound.outputs, ?_, ?_, sound.working, ?_⟩
      · simpa [onTheWay, chunksOf, Except.toOption] using all
      · intro _
        obtain ⟨_, earlier, output, outputs, suffix⟩ := current nofun
        exact ⟨collects, earlier, output, outputs, (List.suffix_cons _ _).trans suffix⟩
      · intro idle
        have empty := (sound.inactive idle).1
        rw [way] at empty
        cases empty
    · rename_i failure rest queue
      have way : p.onTheWay = .error failure :: (rest ++ p.held.toList) := by simp [onTheWay, queue]
      -- The channel goes with the task, but nothing is in it behind the fault.
      obtain ⟨none, still⟩ := sound.fault_last way
      have all := sound.chunks
      rw [way, none] at all
      refine ⟨sound.fault, sound.outputs, all, nofun, ?_, ?_⟩
      · intro run works
        rw [still] at works
        cases works
      · intro idle
        exact ⟨rfl, (sound.inactive idle).2⟩
    · exact sound
  · exact sound

/-! ## The end of a stop -/

/-- A stop comes to its end when the task has ended, or has nothing left to collect. -/
theorem finish_eq {blob : Blob} {after : Pipeline} (finished : p.finish = some (blob, after)) :
    (p.collects = false ∨ p.onTheWay = []) ∧
      blob = Blob.concat p.capture.chunks Encoder.mimeType ∧
      after = { p with
        capture :=
          { p.capture with encoder := p.capture.encoder.stop, state := .inactive }.releaseTracks
        collects := false
        stopping := false } := by
  unfold finish at finished
  split at finished
  · rename_i ready
    simp only [Bool.and_eq_true, Bool.or_eq_true, Bool.not_eq_true', List.isEmpty_iff] at ready
    split at finished
    · rename_i stopped
      obtain ⟨rfl, rfl⟩ := Capture.stop_eq stopped
      cases finished
      exact ⟨ready.2, rfl, rfl⟩
    · cases finished
  · cases finished

/-- Nothing is on the way to a task that has ended. -/
theorem Sound.empty (sound : p.Sound faultAfter)
    (ready : p.collects = false ∨ p.onTheWay = []) : p.onTheWay = [] := by
  rcases ready with idle | empty
  · by_contra some
    rw [(sound.current some).1] at idle
    cases idle
  · exact empty

/-- A stop comes to its end only when nothing is left on the way, and gives what was collected. -/
theorem Sound.finish (sound : p.Sound faultAfter) {blob : Blob} {after : Pipeline}
    (finished : p.finish = some (blob, after)) :
    p.onTheWay = [] ∧ blob = Blob.concat p.capture.chunks Encoder.mimeType ∧
      after.Sound faultAfter := by
  obtain ⟨ready, rfl, rfl⟩ := finish_eq finished
  have empty := sound.empty ready
  have stands : { p with
      capture := { p.capture with encoder := p.capture.encoder.stop, state := .inactive }
      collects := false
      stopping := false }.Sound faultAfter :=
    ⟨sound.fault, sound.outputs, sound.chunks, fun some => absurd empty some, nofun,
      fun _ => ⟨empty, rfl⟩⟩
  exact ⟨empty, rfl, stands.of_steady (steady_releaseTracks _)⟩

/-! ## All events -/

theorem Sound.next (sound : p.Sound faultAfter) (event : Event) : (p.next event).Sound faultAfter := by
  cases event with
  | input input =>
      simp only [Pipeline.next]
      split
      · exact sound
      · exact sound.handle input
  | clock time => exact sound.of_steady ⟨rfl, rfl, rfl, Iff.rfl⟩
  | tick => exact sound.tick
  | deliver => exact sound.deliver
  | collect => exact sound.collect
  | finish =>
      simp only [Pipeline.next]
      split
      · rename_i finished
        exact (sound.finish finished).2.2
      · exact sound

theorem Sound.run (sound : p.Sound faultAfter) (events : List Event) :
    (p.run events).Sound faultAfter := by
  induction events generalizing p with
  | nil => exact sound
  | cons event rest ih => exact ih (sound.next event)

theorem sound_new {capture : Capture} (isNew : capture.New) :
    ({ capture } : Pipeline).Sound capture.encoder.faultAfter := by
  refine ⟨rfl, nofun, ?_, nofun, ?_, fun _ => ⟨rfl, rfl⟩⟩
  · simp [isNew.chunks, onTheWay, chunksOf]
  · intro run works
    rw [isNew.encoder] at works
    cases works

end

end Pipeline

end Viva
