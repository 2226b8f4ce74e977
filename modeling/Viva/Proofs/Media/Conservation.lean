import Viva.Proofs.Media.Pipeline

/-! # Chunks are neither lost nor repeated

Whatever happens to a `Pipeline`, the chunks that are collected are those that the runs since the
last reset put out, in their order, without those that are on the way. Nothing is put out between a
stop and the next start; a stop comes to its end as soon as what is on the way has been collected,
and gives all of it.

A `Capture` is a pipeline that is followed from one state of rest to the next
(`Pipeline.run_schedule`).
-/

namespace Viva.Pipeline

/-- Nothing is on the way, and no stop waits. -/
structure AtRest (p : Pipeline) : Prop where
  empty : p.onTheWay = []
  calm : p.stopping = false

/-! ## What happens along the inputs to a capture -/

/-- Time passes: timeslices end when they are due, and their items are collected at once. -/
def passing (time : Nat) (capture : Capture) : Nat → List Event
  | 0 => [.clock time]
  | count + 1 =>
    match capture.encoder.nextDue with
    | some due =>
      if due ≤ time then
        [.clock due, .tick, .collect] ++ passing time (capture.advanceTo due).fire.1 count
      else [.clock time]
    | none => [.clock time]

/-- What happens along an input. -/
def eventsOf (capture : Capture) : Capture.Input → List Event
  | .stop => [.input .stop, .finish]
  | .elapse ms => passing (capture.now + ms) capture ms
  | input => [.input input]

/-- What happens along some inputs. -/
def schedule (capture : Capture) : List Capture.Input → List Event
  | [] => []
  | input :: rest => eventsOf capture input ++ schedule (capture.step input) rest

section
variable {p : Pipeline} {faultAfter : Option Nat}

theorem run_append (p : Pipeline) (events more : List Event) :
    p.run (events ++ more) = (p.run events).run more :=
  List.foldl_append

/-! ## The end of a stop -/

theorem deliver_keeps (p : Pipeline) : p.deliver.onTheWay = p.onTheWay ∧
    p.deliver.collects = p.collects ∧ p.deliver.stopping = p.stopping ∧
      p.deliver.outputs = p.outputs := by
  unfold deliver
  split
  · rename_i item held
    refine ⟨?_, rfl, rfl, rfl⟩
    rw [onTheWay, onTheWay_deliver, onTheWay, held]
    rfl
  · exact ⟨rfl, rfl, rfl, rfl⟩

theorem collect_keeps (p : Pipeline) :
    p.collect.stopping = p.stopping ∧ p.collect.outputs = p.outputs := by
  unfold collect
  split
  · split <;> exact ⟨rfl, rfl⟩
  · exact ⟨rfl, rfl⟩

/-- There is room for what is held once the channel is empty. -/
theorem queue_deliver (some : p.onTheWay ≠ []) : p.deliver.queue ≠ [] := by
  unfold deliver
  split
  · by_cases empty : p.queue = []
    · simp [EncoderChannel.deliver, channel, empty, EncoderChannel.capacity]
    · unfold EncoderChannel.deliver
      split
      · simp
      · exact empty
  · rename_i held
    simpa [onTheWay, held] using some

theorem length_collect (collects : p.collects = true) (some : p.queue ≠ []) :
    p.collect.onTheWay.length < p.onTheWay.length := by
  unfold collect
  rw [if_pos collects]
  split
  · rename_i queue
    simp [onTheWay, queue]
  · rename_i queue
    simp [onTheWay, queue]
  · rename_i queue
    exact absurd queue some

theorem Sound.chunks_of_empty (sound : p.Sound faultAfter) (empty : p.onTheWay = []) :
    p.capture.chunks = p.outputs.flatMap chunksOf := by
  have all := sound.chunks
  rw [empty] at all
  simpa [chunksOf] using all

theorem Sound.finish_ready (sound : p.Sound faultAfter) (stopping : p.stopping = true)
    (ready : p.collects = false ∨ p.onTheWay = []) :
    ∃ after, p.finish = some (Blob.concat p.capture.chunks Encoder.mimeType, after) := by
  have active : p.capture.state ≠ .inactive := by
    intro idle
    rw [(sound.inactive idle).2] at stopping
    cases stopping
  simp [Pipeline.finish, stopping, ready, Capture.stop_of_active active]

/-- Once the encoder is stopped there are only so many items to collect. -/
theorem Sound.stop_ends {p : Pipeline} (sound : p.Sound faultAfter)
    (stopping : p.stopping = true) :
    ∃ later, (∀ event ∈ later, event = .deliver ∨ event = .collect) ∧
      ∃ after, (p.run later).finish =
        some (Blob.concat (p.outputs.flatMap chunksOf) Encoder.mimeType, after) := by
  by_cases ready : p.collects = false ∨ p.onTheWay = []
  · have all := sound.chunks_of_empty (sound.empty ready)
    refine ⟨[], nofun, ?_⟩
    rw [← all]
    exact sound.finish_ready stopping ready
  · rw [not_or, Bool.not_eq_false] at ready
    obtain ⟨same, collects, stops, outputs⟩ := p.deliver_keeps
    obtain ⟨stops', outputs'⟩ := p.deliver.collect_keeps
    have fewer : p.deliver.collect.onTheWay.length < p.onTheWay.length := by
      rw [← same]
      exact length_collect (collects.trans ready.1) (queue_deliver ready.2)
    obtain ⟨later, only, after, ends⟩ :=
      sound.deliver.collect.stop_ends (stops'.trans (stops.trans stopping))
    rw [outputs', outputs] at ends
    refine ⟨.deliver :: .collect :: later, ?_, after, ends⟩
    simpa using only
termination_by p.onTheWay.length

/-! ## After a stop -/

theorem still_of_steady {a b : Capture} (steady : Steady a b) (still : a.encoder.run = none) :
    b.encoder.run = none := by
  have ordinal := steady.ordinal
  rw [still] at ordinal
  exact Option.map_eq_none_iff.mp ordinal

theorem still_finish {blob : Blob} {after : Pipeline}
    (finished : p.finish = some (blob, after)) :
    after.capture.encoder.run = none ∧ after.outputs = p.outputs := by
  obtain ⟨_, _, rfl⟩ := finish_eq finished
  refine ⟨?_, rfl⟩
  dsimp only
  rw [Capture.encoder_releaseTracks]
  rfl

/-- An encoder that is not at work puts nothing out. -/
theorem still_next (still : p.capture.encoder.run = none) {event : Event}
    (noStart : ∀ stream audio, event ≠ .input (.start stream audio))
    (noReset : event ≠ .input .reset) :
    (p.next event).capture.encoder.run = none ∧ (p.next event).outputs = p.outputs := by
  cases event with
  | input input =>
      simp only [next]
      split
      · exact ⟨still, rfl⟩
      · rcases p.handle_cases input with ⟨stream, audio, rfl⟩ | rfl | rfl | ⟨capture, steady, same⟩
        · exact absurd rfl (noStart stream audio)
        · simp only [handle]
          split
          · exact ⟨still, rfl⟩
          · exact ⟨rfl, rfl⟩
        · exact absurd rfl noReset
        · rw [same]
          exact ⟨still_of_steady steady still, rfl⟩
  | clock time => exact ⟨still, rfl⟩
  | tick =>
      have nothing : p.capture.encoder.fire = (p.capture.encoder, none) := by
        simp [Encoder.fire, still]
      simp only [next, tick]
      split
      · exact ⟨still, rfl⟩
      · rw [EncoderChannel.fire_eq, show p.channel.encoder = p.capture.encoder from rfl, nothing]
        exact ⟨still, rfl⟩
  | deliver =>
      simp only [next, deliver]
      split <;> exact ⟨still, rfl⟩
  | collect =>
      simp only [next, collect]
      split
      · split <;> exact ⟨still, rfl⟩
      · exact ⟨still, rfl⟩
  | finish =>
      simp only [next]
      split
      · rename_i finished
        exact still_finish finished
      · exact ⟨still, rfl⟩

theorem still_run (still : p.capture.encoder.run = none) {later : List Event}
    (noStart : ∀ stream audio, .input (.start stream audio) ∉ later)
    (noReset : .input .reset ∉ later) : (p.run later).outputs = p.outputs := by
  induction later generalizing p with
  | nil => rfl
  | cons event rest ih =>
      simp only [List.mem_cons, not_or] at noStart noReset
      obtain ⟨still', same⟩ := still_next still (fun stream audio => Ne.symm (noStart stream audio).1)
        (Ne.symm noReset.1)
      rw [← same]
      exact ih still' (fun stream audio => (noStart stream audio).2) noReset.2

/-- An encoder whose capture is inactive, or waits for the end of a stop, is not at work. -/
theorem Sound.still (sound : p.Sound faultAfter)
    (ended : p.stopping = true ∨ p.capture.state = .inactive) : p.capture.encoder.run = none := by
  by_contra works
  obtain ⟨run, works⟩ := Option.ne_none_iff_exists'.mp works
  obtain ⟨_, calm, active, _⟩ := sound.working run works
  simp [calm, active] at ended

/-! ## From rest to rest -/

theorem AtRest.parts (rest : p.AtRest) : p.queue = [] ∧ p.held = none := by
  simpa [onTheWay] using rest.empty

/-- A timeslice may end, and then its item is collected. -/
theorem AtRest.fire (rest : p.AtRest) (sound : p.Sound faultAfter) :
    p.tick.collect.capture = p.capture.fire.1 ∧ p.tick.collect.AtRest := by
  obtain ⟨queue, held⟩ := rest.parts
  have calm := rest.calm
  have working := sound.working
  have fires := p.capture.encoder.fires
  unfold tick Capture.fire
  rw [EncoderChannel.fire_eq, show p.channel.encoder = p.capture.encoder from rfl]
  generalize p.capture.encoder.fire = fired at fires ⊢
  cases fires with
  | rests | skips =>
      simp only [held, Option.isSome_none, Bool.false_eq_true, if_false, channel, queue, collect]
      split <;> exact ⟨rfl, ⟨rfl, calm⟩⟩
  | crashes running | delivers running =>
      have collects := (working _ running).1
      simp only [held, Option.isSome_none, Bool.false_eq_true, if_false, channel, queue, collect,
        collects, if_true, EncoderChannel.deliver, List.length_nil, EncoderChannel.capacity,
        Nat.zero_lt_succ, List.nil_append]
      exact ⟨trivial, ⟨rfl, calm⟩⟩

/-- A pipeline follows a capture, and comes to rest with it. -/
structure Follows (p : Pipeline) (events : List Event) (capture : Capture) : Prop where
  capture : (p.run events).capture = capture
  rest : (p.run events).AtRest

theorem follows_passing (rest : p.AtRest) (sound : p.Sound faultAfter) (time count : Nat) :
    p.Follows (passing time p.capture count) (p.capture.advance time count) := by
  have moves : p.Follows [.clock time] (p.capture.advanceTo time) :=
    ⟨rfl, ⟨rest.empty, rest.calm⟩⟩
  induction count generalizing p with
  | zero => exact moves
  | succ count ih =>
      unfold passing Capture.advance
      cases p.capture.encoder.nextDue with
      | none => exact moves
      | some due =>
          dsimp only
          split
          · have rest' : (p.next (.clock due)).AtRest := ⟨rest.empty, rest.calm⟩
            have sound' := sound.next (.clock due)
            obtain ⟨fired, rested⟩ := rest'.fire sound'
            have onward := ih rested sound'.tick.collect ⟨rfl, ⟨rested.empty, rested.calm⟩⟩
            rw [fired] at onward
            exact ⟨onward.capture, onward.rest⟩
          · exact moves

theorem follows_input (rest : p.AtRest) {input : Capture.Input} {capture : Capture}
    (same : (p.handle input).capture = capture) (rested : (p.handle input).AtRest) :
    p.Follows [.input input] capture := by
  have here : p.run [.input input] = p.handle input := by simp [run, next, rest.calm]
  exact ⟨by rw [here, same], by rwa [here]⟩

theorem follows_stop (rest : p.AtRest) :
    p.Follows [.input .stop, .finish] (p.capture.step .stop) := by
  have calm := rest.calm
  by_cases idle : p.capture.state = .inactive
  · have here : p.run [.input .stop, .finish] = p := by simp [run, next, handle, finish, calm, idle]
    have refused : p.capture.step .stop = p.capture := by simp [Capture.step, Capture.stop, idle]
    exact ⟨by rw [here, refused], by rwa [here]⟩
  · obtain ⟨queue, held⟩ := rest.parts
    have here : p.run [.input .stop, .finish] =
        { p with capture := p.capture.step .stop, collects := false, stopping := false } := by
      simp [run, next, handle, finish, onTheWay, queue, held, calm, idle, Capture.step,
        Capture.stop, Encoder.stop]
    exact ⟨by rw [here], by rw [here]; exact ⟨rest.empty, rfl⟩⟩

theorem follows_step (rest : p.AtRest) (sound : p.Sound faultAfter) (input : Capture.Input) :
    p.Follows (eventsOf p.capture input) (p.capture.step input) := by
  cases input with
  | stop => exact follows_stop rest
  | elapse ms => exact follows_passing rest sound _ ms
  | reset => exact follows_input rest rfl ⟨rfl, rfl⟩
  | start stream audio =>
      apply follows_input rest
      · simp only [handle, Capture.step]
        split <;> simp only [*]
      · simp only [handle]
        split
        · exact ⟨rfl, rfl⟩
        · exact rest
  | _ => exact follows_input rest rfl ⟨rest.empty, rest.calm⟩

theorem follows_run (rest : p.AtRest) (sound : p.Sound faultAfter) (inputs : List Capture.Input) :
    p.Follows (schedule p.capture inputs) (p.capture.run inputs) := by
  induction inputs generalizing p with
  | nil => exact ⟨rfl, rest⟩
  | cons input inputs ih =>
      have first := follows_step rest sound input
      have onward := ih first.rest (sound.run _)
      rw [first.capture] at onward
      constructor
      · rw [schedule, run_append]
        exact onward.capture
      · rw [schedule, run_append]
        exact onward.rest

/-- However timeslices, deliveries, collecting and calls come in between one another, the chunks that
    are collected and those on the way are what the runs since the last reset have put out, run by
    run, and each run puts its chunks out from the first one on, each once, and at most one fault
    behind them. Nothing comes after a stop. A stop comes to its end and gives everything that has
    been put out, and the chunks from a number on are all but so many of the first ones. So it is
    with a capture after any inputs, where nothing is on the way. -/
theorem chunks_conserved {capture : Capture} (isNew : capture.New) :
    (∀ events, let p := ({ capture } : Pipeline).run events
      p.capture.chunks ++ chunksOf p.onTheWay = p.outputs.flatMap chunksOf ∧
      (∀ output ∈ p.outputs, IsOutput capture.encoder.faultAfter output) ∧
      (∀ later, p.stopping = true ∨ p.capture.state = .inactive →
        (∀ stream audio, .input (.start stream audio) ∉ later) → .input .reset ∉ later →
          (p.run later).outputs = p.outputs) ∧
      (∀ index, p.capture.chunks.take index ++ p.capture.chunksFrom index = p.capture.chunks ∧
        (p.capture.chunkCount ≤ index → p.capture.chunksFrom index = [])) ∧
      (∀ blob after, p.finish = some (blob, after) →
        blob = Blob.concat p.capture.chunks Encoder.mimeType ∧
          p.capture.chunks = p.outputs.flatMap chunksOf) ∧
      (p.stopping = true → ∃ later, (∀ event ∈ later, event = .deliver ∨ event = .collect) ∧
        ∃ after, (p.run later).finish =
          some (Blob.concat (p.outputs.flatMap chunksOf) Encoder.mimeType, after))) ∧
    ∀ inputs, let p := ({ capture } : Pipeline).run (schedule capture inputs)
      p.capture = capture.run inputs ∧ p.AtRest ∧
      p.capture.chunks = p.outputs.flatMap chunksOf ∧
      (p.capture.state ≠ .inactive → ∃ stopped, p.capture.stop =
        .ok (Blob.concat (p.outputs.flatMap chunksOf) Encoder.mimeType, stopped)) := by
  constructor
  · intro events p
    have sound : p.Sound _ := (sound_new isNew).run events
    refine ⟨sound.chunks, sound.outputs, ?_, ?_, ?_, sound.stop_ends⟩
    · intro later ended noStart noReset
      exact still_run (sound.still ended) noStart noReset
    · intro index
      exact ⟨List.take_append_drop _ _, List.drop_of_length_le⟩
    · intro blob after finished
      obtain ⟨empty, all, _⟩ := sound.finish finished
      exact ⟨all, sound.chunks_of_empty empty⟩
  · intro inputs p
    have sound : p.Sound _ := (sound_new isNew).run (schedule capture inputs)
    have follows : ({ capture } : Pipeline).Follows _ _ :=
      follows_run ⟨rfl, rfl⟩ (sound_new isNew) inputs
    have all := sound.chunks_of_empty follows.rest.empty
    refine ⟨follows.capture, follows.rest, all, ?_⟩
    intro active
    rw [← all]
    exact ⟨_, Capture.stop_of_active active⟩

/-- A pause in the second timeslice, and a fault at the third chunk. -/
theorem chunks_conserved_fault :
    let capture : Capture := { encoder := { timeslice := 2, faultAfter := some 2 } }
    let inputs : List Capture.Input :=
      [.share [("mic", .audio)], .start ⟨[⟨"mic", .audio, 0⟩]⟩ none, .elapse 3, .pause,
        .elapse 2, .resume, .elapse 6]
    let p := ({ capture } : Pipeline).run (schedule capture inputs)
    capture.New ∧ p.capture = capture.run inputs ∧ p.outputs.length = 1 ∧
      p.capture.chunks = p.outputs.flatMap chunksOf ∧ p.capture.chunkCount = 2 := by
  intro capture inputs
  have isNew : capture.New := Capture.isNew _ rfl
  have follows := (chunks_conserved isNew).2 inputs
  exact ⟨isNew, follows.1, by decide +kernel, follows.2.2.1, by decide +kernel⟩

end

end Viva.Pipeline
