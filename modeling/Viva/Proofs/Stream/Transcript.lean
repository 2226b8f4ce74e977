import Viva.Proofs.Stream.Framing
import Viva.Stream.Consumption

/-! # What a stream comes to

A consumption reads, decodes and reports at the same time. A transcript says what it comes to from
the records of the whole body: the events that mean something, up to the first error of the server.
`Consumption.follow_eq_transcript` is the agreement of the two for a stream that nobody cancels.
-/

namespace Viva

namespace Event

/-- The event of a record that can be decoded and whose name means something. -/
def ofFrame? (frame : Frame) : Option Event :=
  match decode frame with
  | .error _ | .ok (.unknown _) => none
  | .ok event => some event

/-- The failure that an error of the server is. -/
def serverFailure? : Event → Option Failure
  | error text recoverable => some (.server text recoverable)
  | _ => none

def isToken : Event → Bool
  | token _ => true
  | _ => false

def donePayload? : Event → Option DonePayload
  | done payload => some payload
  | _ => none

end Event

/-- What a stream tells, up to the first error of the server. -/
structure Transcript where
  events : List Event
  /-- The error of the server that ended it. -/
  failure : Option Failure
  deriving Repr, DecidableEq

namespace Transcript

/-- What some records tell. Records that cannot be decoded or mean nothing are dropped. -/
def ofFrames (frames : List Frame) : Transcript :=
  let known := frames.filterMap Event.ofFrame?
  ⟨known.takeWhile (·.serverFailure?.isNone), known.findSome? Event.serverFailure?⟩

/-- Some message ended. -/
def isComplete (t : Transcript) : Bool :=
  t.events.any Event.isTerminal

/-- What the last `done` event said. -/
def done? (t : Transcript) : Option DonePayload :=
  (t.events.filterMap Event.donePayload?).getLast?

def tokenCount (t : Transcript) : Nat :=
  t.events.countP Event.isToken

/-- What the stream comes to when its body ends with a read that fails, or just ends. -/
def outcome (t : Transcript) (transport : Transport) (readFailure : Option String) :
    Except Failure StreamOutcome :=
  match t.failure, readFailure with
  | some failure, _ => .error failure
  | none, some text => .error (.network text)
  | none, none =>
    match transport, t.isComplete with
    | .response, false => .error .streamIncomplete
    | _, _ => .ok (.completed t.done? t.tokenCount)

theorem ofFrames_dropped {frame : Frame} (rest : List Frame)
    (dropped : Event.ofFrame? frame = none) : ofFrames (frame :: rest) = ofFrames rest := by
  simp only [ofFrames, List.filterMap_cons_none dropped]

theorem ofFrames_failure {frame : Frame} {event failure} (rest : List Frame)
    (known : Event.ofFrame? frame = some event) (fails : event.serverFailure? = some failure) :
    ofFrames (frame :: rest) = ⟨[], some failure⟩ := by
  simp [ofFrames, List.filterMap_cons_some known, fails]

theorem ofFrames_event {frame : Frame} {event} (rest : List Frame)
    (known : Event.ofFrame? frame = some event) (fine : event.serverFailure? = none) :
    ofFrames (frame :: rest) =
      ⟨event :: (ofFrames rest).events, (ofFrames rest).failure⟩ := by
  simp [ofFrames, List.filterMap_cons_some known, fine]

/-- Nothing counts after an error of the server. -/
theorem ofFrames_append_of_failure {xs : List Frame} {failure} (ys : List Frame)
    (fails : (ofFrames xs).failure = some failure) : ofFrames (xs ++ ys) = ofFrames xs := by
  induction xs with
  | nil => simp [ofFrames] at fails
  | cons frame xs ih =>
      cases known : Event.ofFrame? frame with
      | none =>
          rw [ofFrames_dropped xs known] at fails
          rw [List.cons_append, ofFrames_dropped _ known, ofFrames_dropped _ known, ih fails]
      | some event =>
          cases error : event.serverFailure? with
          | some failure => rw [List.cons_append, ofFrames_failure _ known error,
              ofFrames_failure _ known error]
          | none =>
              rw [ofFrames_event xs known error] at fails
              rw [List.cons_append, ofFrames_event _ known error, ofFrames_event _ known error,
                ih fails]

theorem ofFrames_append_of_fine {xs : List Frame} (ys : List Frame)
    (fine : (ofFrames xs).failure = none) :
    ofFrames (xs ++ ys) = ⟨(ofFrames xs).events ++ (ofFrames ys).events, (ofFrames ys).failure⟩ := by
  induction xs with
  | nil => simp [ofFrames]
  | cons frame xs ih =>
      cases known : Event.ofFrame? frame with
      | none =>
          rw [ofFrames_dropped xs known] at fine
          rw [List.cons_append, ofFrames_dropped _ known, ofFrames_dropped _ known, ih fine]
      | some event =>
          cases error : event.serverFailure? with
          | some failure => simp [ofFrames_failure xs known error] at fine
          | none =>
              rw [ofFrames_event xs known error] at fine
              rw [List.cons_append, ofFrames_event _ known error, ofFrames_event _ known error,
                ih fine]
              rfl

end Transcript

/-- What a body delivers, one read after the other: bytes, or the text of a read that fails. -/
abbrev Body := List (Except String (List UInt8))

namespace Body

/-- The bytes before the first read that fails. -/
def bytes : Body → List UInt8
  | [] => []
  | .error _ :: _ => []
  | .ok read :: rest => read ++ bytes rest

/-- The text of the first read that fails. -/
def failure? : Body → Option String
  | [] => none
  | .error text :: _ => some text
  | .ok _ :: rest => failure? rest

theorem bytes_map_ok (reads : List (List UInt8)) : bytes (reads.map .ok) = reads.flatten := by
  induction reads with
  | nil => rfl
  | cons read rest ih => rw [List.map_cons, bytes, ih, List.flatten_cons]

theorem failure?_map_ok (reads : List (List UInt8)) : failure? (reads.map .ok) = none := by
  induction reads with
  | nil => rfl
  | cons read rest ih => rw [List.map_cons, failure?, ih]

end Body

namespace Consumption

/-- What a read is to a consumption that asks for it. -/
def Arrival.ofRead : Except String (List UInt8) → Arrival
  | .ok read => .bytes read
  | .error text => .failure text

/-- Somebody who is told of the events and never cancels the stream. -/
def Observer.steady {σ : Type} (notify : σ → Event → σ) : Observer σ :=
  ⟨notify, fun _ => false⟩

section
variable {σ : Type} (notify : σ → Event → σ)

/-! ## Counting events -/

theorem note_eq (c : Consumption) (event : Event) :
    c.note event =
      { c with
        terminal := c.terminal || event.isTerminal
        done := event.donePayload?.or c.done
        tokens := c.tokens + if event.isToken then 1 else 0 } := by
  cases event <;> rfl

theorem getLast?_donePayload_cons (event : Event) (rest : List Event) :
    ((event :: rest).filterMap Event.donePayload?).getLast? =
      (rest.filterMap Event.donePayload?).getLast?.or event.donePayload? := by
  cases here : event.donePayload? with
  | none => simp [List.filterMap_cons_none here]
  | some payload =>
      rw [List.filterMap_cons_some here, List.getLast?_cons]
      cases (rest.filterMap Event.donePayload?).getLast? <;> rfl

/-- What events leave of a consumption: they count, and the reader stays as it is. -/
theorem foldl_note (c : Consumption) (events : List Event) :
    events.foldl note c =
      { c with
        terminal := c.terminal || events.any Event.isTerminal
        done := (events.filterMap Event.donePayload?).getLast?.or c.done
        tokens := c.tokens + events.countP Event.isToken } := by
  induction events generalizing c with
  | nil => simp
  | cons event rest ih =>
      rw [List.foldl_cons, ih, note_eq, getLast?_donePayload_cons, Option.or_assoc,
        List.any_cons, Bool.or_assoc, List.countP_cons, Nat.add_assoc, Nat.add_comm (ite _ _ _)]

theorem foldl_note_new (t : Transcript) :
    t.events.foldl note {} = ⟨{}, t.isComplete, t.done?, t.tokenCount⟩ := by
  simp only [foldl_note, Bool.false_or, Option.or_none, Nat.zero_add]
  rfl

/-- The reader has no say in what events come to. -/
theorem finish_foldl_note (c : Consumption) (reader : FrameReader) (transport : Transport)
    (events : List Event) :
    (events.foldl note { c with reader }).finish transport =
      (events.foldl note c).finish transport := by
  cases transport <;> simp only [foldl_note, finish]

/-! ## The records of one read -/

section
variable {observer : Observer σ} {frame : Frame} {s : σ}

theorem takeFrames_dropped (live : observer.isCancelled s = false) (c : Consumption)
    (rest : List Frame) (dropped : Event.ofFrame? frame = none) :
    takeFrames observer c s (frame :: rest) = takeFrames observer c s rest := by
  simp only [Event.ofFrame?] at dropped
  simp only [takeFrames, live, Bool.false_eq_true, if_false]
  split at dropped <;> simp_all

theorem takeFrames_failure {event failure} (live : observer.isCancelled s = false)
    (c : Consumption) (rest : List Frame) (known : Event.ofFrame? frame = some event)
    (fails : event.serverFailure? = some failure) :
    takeFrames observer c s (frame :: rest) = (.over (.error failure), s) := by
  simp only [Event.ofFrame?] at known
  simp only [takeFrames, live, Bool.false_eq_true, if_false]
  cases event <;> simp only [Event.serverFailure?, reduceCtorEq, Option.some.injEq] at fails
  split at known <;> simp_all

theorem takeFrames_event {event} (live : observer.isCancelled s = false) (c : Consumption)
    (rest : List Frame) (known : Event.ofFrame? frame = some event)
    (fine : event.serverFailure? = none) :
    takeFrames observer c s (frame :: rest) =
      takeFrames observer (c.note event) (observer.notify s event) rest := by
  simp only [Event.ofFrame?] at known
  rw [takeFrames]
  simp only [live, Bool.false_eq_true, if_false]
  cases event <;> simp only [Event.serverFailure?, reduceCtorEq] at fine <;>
    split at known <;> simp_all

end

/-- How far some records bring a consumption. -/
theorem takeFrames_steady (c : Consumption) (s : σ) (frames : List Frame) :
    takeFrames (.steady notify) c s frames =
      (match (Transcript.ofFrames frames).failure with
        | some failure => .over (.error failure)
        | none => .open ((Transcript.ofFrames frames).events.foldl note c),
        (Transcript.ofFrames frames).events.foldl notify s) := by
  induction frames generalizing c s with
  | nil => rfl
  | cons frame rest ih =>
      cases known : Event.ofFrame? frame with
      | none =>
          rw [takeFrames_dropped rfl c rest known, Transcript.ofFrames_dropped rest known, ih]
      | some event =>
          cases error : event.serverFailure? with
          | some failure =>
              rw [takeFrames_failure rfl c rest known error,
                Transcript.ofFrames_failure rest known error]
              rfl
          | none =>
              rw [takeFrames_event rfl c rest known error,
                Transcript.ofFrames_event rest known error, ih]
              rfl

/-! ## A whole body -/

/-- What is left of a body comes to, when `c` is known of what came before. -/
def conclude (c : Consumption) (transport : Transport) (t : Transcript)
    (readFailure : Option String) : Except Failure StreamOutcome :=
  match t.failure, readFailure with
  | some failure, _ => .error failure
  | none, some text => .error (.network text)
  | none, none => (t.events.foldl note c).finish transport

/-- A read that left `events` behind and a reader of its own: the rest goes on from there. -/
theorem conclude_append (c : Consumption) (reader : FrameReader) (transport : Transport)
    (events : List Event) (t : Transcript) (readFailure : Option String) :
    (events.foldl note { c with reader }).conclude transport t readFailure =
      c.conclude transport ⟨events ++ t.events, t.failure⟩ readFailure := by
  cases t with
  | mk later failure =>
      cases failure with
      | some failure => rfl
      | none =>
          cases readFailure with
          | some text => rfl
          | none => simp only [conclude, ← List.foldl_append, finish_foldl_note]

/-- A new consumption has seen nothing, so it comes to what the transcript comes to. -/
theorem conclude_new (transport : Transport) (t : Transcript) (readFailure : Option String) :
    ({} : Consumption).conclude transport t readFailure = t.outcome transport readFailure := by
  cases failure : t.failure with
  | some failure => simp only [conclude, Transcript.outcome, failure]
  | none =>
      cases readFailure with
      | some text => simp only [conclude, Transcript.outcome, failure]
      | none =>
          simp only [conclude, Transcript.outcome, failure, foldl_note_new]
          cases transport with
          | response => cases t.isComplete <;> rfl
          | eventSource => rfl

/-- The induction behind `follow_eq_transcript`: between two reads the transcript goes on with the
    records that the rest of the body completes, and the counts go on from `c`. -/
theorem follow_steady (cancel : σ → σ) (transport : Transport) (c : Consumption)
    (settled : c.reader.Settled) (s : σ) (body : Body) :
    follow (.steady notify) transport cancel false c s (body.map Arrival.ofRead) =
      (some (c.conclude transport (.ofFrames (c.reader.feed body.bytes).1) body.failure?),
        (Transcript.ofFrames (c.reader.feed body.bytes).1).events.foldl notify s) := by
  induction body generalizing c s with
  | nil =>
      rw [Body.bytes, FrameReader.feed_nil settled]
      rfl
  | cons read rest ih =>
      cases read with
      | error text =>
          rw [Body.bytes, FrameReader.feed_nil settled]
          rfl
      | ok bytes =>
          have going : (!false && (Observer.steady notify).isCancelled s) = false := rfl
          simp only [Body.bytes, Body.failure?, FrameReader.feed_append, List.map_cons,
            Arrival.ofRead, follow, going, Bool.false_eq_true, if_false, takeBytes,
            takeFrames_steady]
          cases failure : (Transcript.ofFrames (c.reader.feed bytes).1).failure with
          | some failure =>
              simp only [Transcript.ofFrames_append_of_failure _ failure, conclude, failure]
          | none =>
              have kept : ((Transcript.ofFrames (c.reader.feed bytes).1).events.foldl note
                  { c with reader := (c.reader.feed bytes).2 }).reader =
                    (c.reader.feed bytes).2 := by rw [foldl_note]
              have settledNow := FrameReader.settled_feed c.reader bytes
              rw [← kept] at settledNow
              simp only []
              rw [ih _ settledNow, kept, conclude_append, ← List.foldl_append,
                Transcript.ofFrames_append_of_fine _ failure]

/-- A stream that nobody cancels reports the events of its transcript, in their order, and comes to
    the outcome of its transcript. Both are made of the bytes before the first read that fails, so
    where the reads are cut makes no difference. -/
theorem follow_eq_transcript (cancel : σ → σ) (transport : Transport) (s : σ) (body : Body) :
    let t := Transcript.ofFrames (({} : FrameReader).feed body.bytes).1
    follow (.steady notify) transport cancel false {} s (body.map Arrival.ofRead) =
      (some (t.outcome transport body.failure?), t.events.foldl notify s) := by
  intro t
  rw [follow_steady notify cancel transport {} FrameReader.settled_new, conclude_new]

end

end Consumption

end Viva
