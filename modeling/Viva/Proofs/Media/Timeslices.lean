import Mathlib.Algebra.Ring.Nat
import Viva.Media.Channel
import Viva.Proofs.Media.Encoding

/-! # Timeslices and chunks

The timeslices of an encoder lie on a grid that goes on through its pauses, and a chunk comes at the
end of each that does not end in a pause (`chunks_on_grid`). Hence how many chunks there are does not
follow from how long the encoder was not paused: the part of a timeslice before a pause is lost, and
the part before a pause is over counts as if it had been recorded (`no_chunk_of_parts`).
-/

namespace Viva

/-- A time without a pause, counted from when the encoder was started. -/
structure Span where
  begins : Nat
  length : Nat
  deriving Repr, DecidableEq

namespace Span

def ends (span : Span) : Nat := span.begins + span.length

/-- How many timeslices end in it. -/
def ticks (timeslice : Nat) (span : Span) : Nat :=
  span.ends / timeslice - span.begins / timeslice

theorem ticks_mul (timeslice : Nat) (span : Span) :
    span.ticks timeslice * timeslice + span.ends % timeslice =
      span.length + span.begins % timeslice := by
  have before := Nat.div_add_mod' span.begins timeslice
  have after := Nat.div_add_mod' span.ends timeslice
  have le : span.begins / timeslice ≤ span.ends / timeslice :=
    Nat.div_le_div_right (Nat.le_add_right _ _)
  have le_mul := Nat.mul_le_mul_right timeslice le
  have ends : span.ends = span.begins + span.length := rfl
  rw [ticks, Nat.sub_mul]
  omega

/-- What the timeslices that end in some times come to. -/
theorem sum_ticks (timeslice : Nat) (times : List Span) :
    (times.map (·.ticks timeslice)).sum * timeslice + (times.map (·.ends % timeslice)).sum =
      (times.map length).sum + (times.map (·.begins % timeslice)).sum := by
  induction times with
  | nil => exact Nat.zero_mul timeslice
  | cons span rest ih =>
      have first := span.ticks_mul timeslice
      simp only [List.map_cons, List.sum_cons, Nat.add_mul]
      omega

end Span

namespace Encoder

/-- An encoder at work, some time after it was started. -/
structure Works (encoder : Encoder) (timeslice origin since ordinal : Nat) (paused : Bool) :
    Prop where
  now : encoder.now = origin + since
  faultless : encoder.faultAfter = none
  run : encoder.run =
    some { nextTick := origin + timeslice * (since / timeslice + 1), ordinal, paused }
  timeslice : encoder.timeslice = timeslice

section
variable {encoder : Encoder} {timeslice origin since last ordinal : Nat} {paused : Bool}

theorem Works.fire_early (works : encoder.Works timeslice origin since ordinal paused)
    (positive : 0 < timeslice) : encoder.fire = (encoder, none) := by
  have early : since < timeslice * (since / timeslice + 1) := Nat.lt_mul_div_succ since positive
  refine fire_of_early ?_
  rw [nextDue_of_run works.run, works.now]
  rintro due ⟨⟩
  exact Nat.add_lt_add_left early origin

/-- The clock moves within a timeslice. -/
theorem Works.advanceTo (works : encoder.Works timeslice origin since ordinal paused)
    (same : last / timeslice = since / timeslice) :
    (encoder.advanceTo (origin + last)).Works timeslice origin last ordinal paused where
  now := rfl
  faultless := works.faultless
  run := by rw [same]; exact works.run
  timeslice := works.timeslice

theorem Works.setPaused (works : encoder.Works timeslice origin since ordinal paused)
    (next : Bool) : (encoder.setPaused next).Works timeslice origin since ordinal next where
  now := works.now
  faultless := works.faultless
  run := by rw [Encoder.setPaused, works.run]; rfl
  timeslice := works.timeslice

/-- The timeslice ends. -/
theorem Works.tick (works : encoder.Works timeslice origin since ordinal paused) {due : Nat}
    (ends : due / timeslice = since / timeslice + 1)
    (isDue : due = timeslice * (since / timeslice + 1)) :
    let fired := (encoder.advanceTo (origin + due)).fire
    fired.1.Works timeslice origin due (if paused then ordinal else ordinal + 1) paused ∧
      fired.2 = if paused then none else some (.ok (chunkPayload ordinal)) := by
  intro fired
  have running : (encoder.advanceTo (origin + due)).run = some ⟨origin + due, ordinal, paused⟩ := by
    rw [isDue]
    exact works.run
  have next : origin + due + encoder.timeslice = origin + timeslice * (due / timeslice + 1) := by
    rw [works.timeslice, ends, Nat.mul_succ timeslice (since / timeslice + 1), ← isDue,
      Nat.add_assoc]
  have fires := (encoder.advanceTo (origin + due)).fires
  subst fired
  generalize (encoder.advanceTo (origin + due)).fire = fired at fires ⊢
  cases fires with
  | rests early => exact absurd (early _ (nextDue_of_run running)) (Nat.lt_irrefl _)
  | crashes begun late active faulty => cases works.faultless.symm.trans faulty
  | skips begun late hushed =>
      obtain rfl := Option.some.inj (running.symm.trans begun)
      obtain rfl : paused = true := hushed
      exact ⟨⟨rfl, works.faultless, by rw [← next]; rfl, works.timeslice⟩, rfl⟩
  | delivers begun late active =>
      obtain rfl := Option.some.inj (running.symm.trans begun)
      obtain rfl : paused = false := active
      exact ⟨⟨rfl, works.faultless, by rw [← next]; rfl, works.timeslice⟩, rfl⟩

end

end Encoder

namespace EncoderChannel

/-- What happens to an encoder at work and to its channel. -/
inductive Move where
  | pause
  | resume
  | elapse (ms : Nat)
  /-- What was delivered is taken. -/
  | take
  deriving Repr, DecidableEq

def setPaused (channel : EncoderChannel) (paused : Bool) : EncoderChannel :=
  { channel with encoder := channel.encoder.setPaused paused }

def move (channel : EncoderChannel) : Move → EncoderChannel
  | .pause => channel.setPaused true
  | .resume => channel.setPaused false
  | .elapse ms => channel.elapse ms
  | .take => channel.take.2.settle

/-- The encoder never waits for room, since the channel is read often enough. -/
def Read (channel : EncoderChannel) : List Move → Prop
  | [] => channel.held = none
  | move :: rest => channel.held = none ∧ (channel.move move).Read rest

/-- Everything delivered up to the end of some moves, be it taken or not. -/
def emitted (channel : EncoderChannel) : List Move → List (Except Failure Chunk)
  | [] => channel.queue
  | .take :: rest => channel.queue ++ (channel.move .take).emitted rest
  | move :: rest => (channel.move move).emitted rest

/-- The times without a pause. -/
def spans (since : Nat) (paused : Bool) : List Move → List Span
  | [] => []
  | .pause :: rest => spans since true rest
  | .resume :: rest => spans since false rest
  | .take :: rest => spans since paused rest
  | .elapse ms :: rest =>
    if paused then spans (since + ms) paused rest
    else ⟨since, ms⟩ :: spans (since + ms) paused rest

/-- How long the encoder was not paused in all. -/
def unpausedTime (moves : List Move) : Nat := ((spans 0 false moves).map Span.length).sum

/-- Some chunks in a row. -/
def chunksFrom (first count : Nat) : List (Except Failure Chunk) :=
  (List.range' first count).map fun ordinal => .ok (Encoder.chunkPayload ordinal)

/-- How many chunks come from one time to a later one. -/
def dueBetween (timeslice : Nat) (paused : Bool) (since last : Nat) : Nat :=
  if paused then 0 else last / timeslice - since / timeslice

/-- What is due from one time to a later one has been delivered. -/
structure Delivers (channel next : EncoderChannel)
    (timeslice origin since last ordinal : Nat) (paused : Bool) : Prop where
  works : next.encoder.Works timeslice origin last
    (ordinal + dueBetween timeslice paused since last) paused
  queue : next.queue = channel.queue ++ chunksFrom ordinal (dueBetween timeslice paused since last)

instance instDecidableRead (channel : EncoderChannel) : ∀ moves, Decidable (channel.Read moves)
  | [] => inferInstanceAs (Decidable (channel.held = none))
  | move :: rest =>
    have := instDecidableRead (channel.move move) rest
    inferInstanceAs (Decidable (channel.held = none ∧ (channel.move move).Read rest))

section
variable {channel : EncoderChannel} {timeslice origin since last ordinal : Nat} {paused : Bool}
  {moves : List Move}

theorem chunksFrom_append (first count more : Nat) :
    chunksFrom first count ++ chunksFrom (first + count) more = chunksFrom first (count + more) := by
  rw [chunksFrom, chunksFrom, ← List.map_append, List.range'_append_1]
  rfl

theorem Read.here (read : channel.Read moves) : channel.held = none := by
  cases moves with
  | nil => exact read
  | cons move rest => exact read.1

/-! ## Time -/

theorem fire_eq (channel : EncoderChannel) :
    channel.fire =
      match channel.encoder.fire.2 with
      | some item => { channel with encoder := channel.encoder.fire.1 }.deliver item
      | none => { channel with encoder := channel.encoder.fire.1 } := rfl

theorem settle_of_works (works : channel.encoder.Works timeslice origin since ordinal paused)
    (positive : 0 < timeslice) (room : channel.held = none) : channel.settle = channel := by
  have nothing : channel.fire = channel := by
    rw [fire_eq, works.fire_early positive]
  have idle (count : Nat) : channel.catchUp count = channel := by
    induction count with
    | zero => rfl
    | succ count ih =>
        rw [catchUp, nothing, ih, ite_self]
  rw [settle, room]
  exact idle _

theorem deliver_of_room {item : Except Failure Chunk} (room : (channel.deliver item).held = none) :
    channel.deliver item = { channel with queue := channel.queue ++ [item], held := none } := by
  unfold deliver at room ⊢
  split
  · rfl
  · rename_i full
    rw [if_neg full] at room
    cases room

theorem dueBetween_of_eq (same : last / timeslice = since / timeslice) :
    dueBetween timeslice paused since last = 0 := by
  rw [dueBetween, same, Nat.sub_self, ite_self]

theorem dueBetween_add {middle : Nat} (first : since / timeslice ≤ middle / timeslice)
    (second : middle / timeslice ≤ last / timeslice) :
    dueBetween timeslice paused since middle + dueBetween timeslice paused middle last =
      dueBetween timeslice paused since last := by
  unfold dueBetween
  split <;> omega

theorem Delivers.trans {next later : EncoderChannel} {middle : Nat}
    (delivers : channel.Delivers next timeslice origin since middle ordinal paused)
    (goesOn : next.Delivers later timeslice origin middle last
      (ordinal + dueBetween timeslice paused since middle) paused)
    (first : since / timeslice ≤ middle / timeslice)
    (second : middle / timeslice ≤ last / timeslice) :
    channel.Delivers later timeslice origin since last ordinal paused where
  works := by
    have works := goesOn.works
    rwa [Nat.add_assoc, dueBetween_add first second] at works
  queue := by
    rw [goesOn.queue, delivers.queue, List.append_assoc, chunksFrom_append,
      dueBetween_add first second]

/-- The clock moves within a timeslice. -/
theorem delivers_within (works : channel.encoder.Works timeslice origin since ordinal paused)
    (same : last / timeslice = since / timeslice) :
    channel.Delivers { channel with encoder := channel.encoder.advanceTo (origin + last) }
      timeslice origin since last ordinal paused where
  works := by
    rw [dueBetween_of_eq same]
    exact works.advanceTo same
  queue := by
    rw [dueBetween_of_eq same]
    exact (List.append_nil _).symm

/-- A timeslice ends, and its chunk finds room. -/
theorem delivers_tick (works : channel.encoder.Works timeslice origin since ordinal paused)
    {due : Nat} (ends : due / timeslice = since / timeslice + 1)
    (isDue : due = timeslice * (since / timeslice + 1))
    {next : EncoderChannel} (room : next.held = none)
    (ticks : { channel with encoder := channel.encoder.advanceTo (origin + due) }.fire = next) :
    channel.Delivers next timeslice origin since due ordinal paused := by
  obtain ⟨works', item⟩ := works.tick ends isDue
  rw [fire_eq] at ticks
  cases paused with
  | true =>
      simp only [item, if_true] at ticks
      subst ticks
      exact ⟨works', (List.append_nil _).symm⟩
  | false =>
      simp only [item, Bool.false_eq_true, if_false] at ticks
      subst ticks
      have one : dueBetween timeslice false since due = 1 := by
        rw [dueBetween, ends, Nat.add_sub_cancel_left]
        rfl
      constructor
      · rw [deliver_of_room room, one]
        exact works'
      · rw [deliver_of_room room, one]
        rfl

theorem advance_of_held (time count : Nat) (waits : channel.held ≠ none) :
    (advance time channel count).held ≠ none := by
  have nothing : channel.nextDue = none := if_pos (Option.isSome_iff_ne_none.mpr waits)
  cases count with
  | zero => exact waits
  | succ count =>
      rw [advance, nothing]
      exact waits

theorem delivers_advance (works : channel.encoder.Works timeslice origin since ordinal paused)
    (positive : 0 < timeslice) (room : channel.held = none) (later : since ≤ last) {count : Nat}
    (enough : last / timeslice ≤ since / timeslice + count)
    (fits : (advance (origin + last) channel count).held = none) :
    channel.Delivers (advance (origin + last) channel count)
      timeslice origin since last ordinal paused := by
  have upward : since / timeslice ≤ last / timeslice := Nat.div_le_div_right later
  induction count generalizing channel since ordinal with
  | zero => exact delivers_within works (Nat.le_antisymm enough upward)
  | succ count ih =>
      have next : channel.nextDue = some (origin + timeslice * (since / timeslice + 1)) := by
        rw [nextDue, room, Encoder.nextDue, works.run]
        rfl
      generalize isDue : timeslice * (since / timeslice + 1) = due at next
      have ends : due / timeslice = since / timeslice + 1 := by
        rw [← isDue]
        exact Nat.mul_div_cancel_left _ positive
      simp only [advance, next, Nat.add_le_add_iff_left] at fits ⊢
      split at fits
      · rename_i passed
        rw [if_pos passed]
        have found : ({ channel with
            encoder := channel.encoder.advanceTo (origin + due) }.fire).held = none := by
          rw [← Option.not_isSome_iff_eq_none, Option.isSome_iff_ne_none]
          exact fun waits => advance_of_held _ _ waits fits
        have delivers := delivers_tick works ends isDue.symm found rfl
        have upward' := Nat.div_le_div_right passed (c := timeslice)
        refine delivers.trans (ih delivers.works found passed (by omega) fits upward') ?_ upward'
        omega
      · rename_i early
        rw [if_neg early]
        refine delivers_within works (Nat.le_antisymm ?_ upward)
        rw [← isDue, Nat.not_le] at early
        exact Nat.le_of_lt_succ (Nat.div_lt_of_lt_mul early)

/-- The clock cannot pass more timeslices than milliseconds. -/
theorem div_add_le (positive : 0 < timeslice) (since ms : Nat) :
    (since + ms) / timeslice ≤ since / timeslice + ms := by
  rw [← Nat.add_mul_div_right since ms positive]
  exact Nat.div_le_div_right (Nat.add_le_add_left (Nat.le_mul_of_pos_right ms positive) since)

theorem delivers_elapse (works : channel.encoder.Works timeslice origin since ordinal paused)
    (positive : 0 < timeslice) (room : channel.held = none) (ms : Nat)
    (fits : (channel.elapse ms).held = none) :
    channel.Delivers (channel.elapse ms) timeslice origin since (since + ms) ordinal paused := by
  unfold elapse at fits ⊢
  rw [works.now, Nat.add_assoc] at fits ⊢
  exact delivers_advance works positive room (Nat.le_add_right _ _) (div_add_le positive since ms) fits

/-! ## Chunks -/

theorem works_start {started : EncoderChannel} {hardware : Hardware} {stream : MediaStream}
    (starts : channel.start hardware stream = .ok started)
    (faultless : channel.encoder.faultAfter = none) :
    0 < channel.encoder.timeslice ∧ started.queue = [] ∧
      started.encoder.Works channel.encoder.timeslice channel.encoder.now 0 0 false := by
  unfold start Encoder.start at starts
  split at starts
  · cases starts
  · split at starts
    · cases starts
    · rename_i long
      cases starts
      refine ⟨Nat.pos_of_ne_zero long, rfl, rfl, faultless, ?_, rfl⟩
      rw [Nat.zero_div, Nat.mul_one]

theorem ticks_elapse (timeslice since ms : Nat) (paused : Bool) (rest : List Move) :
    ((spans since paused (.elapse ms :: rest)).map (·.ticks timeslice)).sum =
      dueBetween timeslice paused since (since + ms) +
        ((spans (since + ms) paused rest).map (·.ticks timeslice)).sum := by
  cases paused with
  | true => exact (Nat.zero_add _).symm
  | false => exact List.sum_cons

/-- Everything delivered in some moves. -/
theorem emitted_eq (works : channel.encoder.Works timeslice origin since ordinal paused)
    (positive : 0 < timeslice) (read : channel.Read moves) :
    channel.emitted moves = channel.queue ++
      chunksFrom ordinal ((spans since paused moves).map (·.ticks timeslice)).sum := by
  induction moves generalizing channel since ordinal paused with
  | nil => exact (List.append_nil _).symm
  | cons move rest ih =>
      obtain ⟨room, read⟩ := read
      cases move with
      | pause => exact ih (works.setPaused true) read
      | resume => exact ih (works.setPaused false) read
      | take =>
          have taken : channel.move .take = channel.take.2 := settle_of_works works positive room
          have works' : (channel.move .take).encoder.Works timeslice origin since ordinal paused := by
            rw [taken]
            exact works
          have empty : (channel.move .take).queue = [] := congrArg EncoderChannel.queue taken
          rw [emitted, ih works' read, empty]
          rfl
      | elapse ms =>
          have delivers := delivers_elapse works positive room ms read.here
          rw [emitted, move, ih delivers.works read, delivers.queue, List.append_assoc,
            chunksFrom_append, ticks_elapse]
          exact nofun

/-- The chunks of a running encoder are numbered from zero, and there are as many as timeslices end
    outside of pauses. That is one for each timeslice of unpaused time exactly if what is cut off
    where the unpaused times end is not less than what is skipped where they begin, and less than a
    timeslice more. -/
theorem chunks_on_grid {started : EncoderChannel} {hardware : Hardware} {stream : MediaStream}
    (starts : channel.start hardware stream = .ok started)
    (faultless : channel.encoder.faultAfter = none) (moves : List Move) (read : started.Read moves) :
    let timeslice := channel.encoder.timeslice
    let times := spans 0 false moves
    let skipped := (times.map (·.begins % timeslice)).sum
    let cutOff := (times.map (·.ends % timeslice)).sum
    let count := (started.emitted moves).length
    started.emitted moves = chunksFrom 0 count ∧
      count = (times.map (·.ticks timeslice)).sum ∧
      (count = unpausedTime moves / timeslice ↔
        skipped ≤ cutOff ∧ cutOff < skipped + timeslice) := by
  intro timeslice times skipped cutOff count
  obtain ⟨positive, empty, works⟩ := works_start starts faultless
  change 0 < timeslice at positive
  have emitted := emitted_eq works positive read
  rw [empty, List.nil_append] at emitted
  have counted : count = (times.map (·.ticks timeslice)).sum := by
    rw [show count = _ from congrArg List.length emitted, chunksFrom, List.length_map,
      List.length_range']
  have balance : count * timeslice + cutOff = unpausedTime moves + skipped := by
    rw [counted]
    exact Span.sum_ticks timeslice times
  refine ⟨?_, counted, ?_⟩
  · rw [counted]
    exact emitted
  · rw [eq_comm, Nat.div_eq_iff positive]
    omega

theorem chunks_after_pause :
    let channel : EncoderChannel := { encoder := { timeslice := 100 } }
    let started : EncoderChannel :=
      { encoder := { timeslice := 100, encodedTracks := ["mic"], run := some { nextTick := 100 } }
        opened := true }
    let moves : List Move := [.elapse 250, .pause, .elapse 80, .resume, .take, .elapse 180]
    channel.start ⟨[true]⟩ ⟨[⟨"mic", .audio, 0⟩]⟩ = .ok started ∧ channel.encoder.faultAfter = none ∧
      started.Read moves ∧ (started.emitted moves).length = unpausedTime moves / 100 ∧
      started.emitted moves = chunksFrom 0 4 := by
  intro channel started moves
  have starts : channel.start ⟨[true]⟩ ⟨[⟨"mic", .audio, 0⟩]⟩ = .ok started := rfl
  have read : started.Read moves := by decide +kernel
  obtain ⟨emitted, count, whole⟩ := chunks_on_grid starts rfl moves read
  have four : (started.emitted moves).length = 4 := count.trans (by decide)
  rw [four] at emitted
  exact ⟨starts, rfl, read, whole.mpr (by decide), emitted⟩

/-- Parts of timeslices that come to more than one timeslice, but to no chunk. -/
theorem no_chunk_of_parts :
    let channel : EncoderChannel := { encoder := { timeslice := 100 } }
    let moves : List Move := [.elapse 50, .pause, .elapse 70, .resume, .elapse 60]
    ∃ started, channel.start ⟨[true]⟩ ⟨[⟨"mic", .audio, 0⟩]⟩ = .ok started ∧ started.Read moves ∧
      spans 0 false moves = [⟨0, 50⟩, ⟨120, 60⟩] ∧ unpausedTime moves / 100 = 1 ∧
      started.emitted moves = [] :=
  ⟨_, rfl, by decide +kernel, by decide, by decide, by decide +kernel⟩

end

end EncoderChannel

end Viva
