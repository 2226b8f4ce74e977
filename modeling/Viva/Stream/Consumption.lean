import Viva.Stream.Event

/-! # Following a stream to its end

The bytes of a body arrive in reads. The events of their records are reported one after the other
to an observer, which may cancel the stream. Records that cannot be decoded and records of unknown
names are passed over, and an error of the server ends the stream.

`Consumption` is the state between two reads, `Consumption.takeFrames` one read, and
`Consumption.follow` a whole body.
-/

namespace Viva

/-- How the events of an attempt reach the learner. -/
inductive Transport where
  /-- The answer to one request, which has to end a message. -/
  | response
  /-- A standing connection, which the server closes when it likes. -/
  | eventSource
  deriving Repr, DecidableEq

/-- How a stream ended well. -/
inductive StreamOutcome where
  | completed (done : Option DonePayload) (tokens : Nat)
  | cancelled
  deriving Repr, DecidableEq

/-- What is known of a stream between two reads. -/
structure Consumption where
  reader : FrameReader := {}
  /-- A message has ended. -/
  terminal : Bool := false
  /-- What the last `done` event said. -/
  done : Option DonePayload := none
  /-- How many tokens there were. -/
  tokens : Nat := 0
  deriving Repr, DecidableEq

namespace Consumption

/-- Counts an event in. -/
def note (c : Consumption) (event : Event) : Consumption :=
  let c := { c with terminal := c.terminal || event.isTerminal }
  match event with
  | .token _ => { c with tokens := c.tokens + 1 }
  | .done payload => { c with done := some payload }
  | _ => c

/-- What the stream comes to when its body ends here. -/
def finish (c : Consumption) : Transport → Except Failure StreamOutcome
  | .response => if c.terminal then .ok (.completed c.done c.tokens) else .error .streamIncomplete
  | .eventSource => .ok (.completed c.done c.tokens)

/-- What some records do to a stream: it goes on, or it is over. -/
inductive Progress where
  | open (c : Consumption)
  | over (result : Except Failure StreamOutcome)

/-- Who is told of the events: its state, what an event does to it, and whether the stream is
    cancelled in it. -/
structure Observer (σ : Type) where
  notify : σ → Event → σ
  isCancelled : σ → Bool

/-- Reports the events of some records. Before each of them the stream may turn out to be
    cancelled. -/
def takeFrames {σ : Type} (observer : Observer σ) (c : Consumption) (s : σ) :
    List Frame → Progress × σ
  | [] => (.open c, s)
  | frame :: rest =>
    if observer.isCancelled s then (.over (.ok .cancelled), s)
    else
      match Event.decode frame with
      | .error _ | .ok (.unknown _) => takeFrames observer c s rest
      | .ok (.error text recoverable) => (.over (.error (.server text recoverable)), s)
      | .ok event => takeFrames observer (c.note event) (observer.notify s event) rest

/-- One read. -/
def takeBytes {σ : Type} (observer : Observer σ) (c : Consumption) (s : σ) (bytes : List UInt8) :
    Progress × σ :=
  let (frames, reader) := c.reader.feed bytes
  takeFrames observer { c with reader } s frames

/-- What the next request for a read may meet with. -/
inductive Arrival where
  /-- Some bytes. -/
  | bytes (bytes : List UInt8)
  /-- A read that fails. -/
  | failure (text : String)
  /-- The stream is cancelled by somebody else; the same request goes on. -/
  | cancel
  /-- Nothing, for ever. -/
  | silence
  deriving Repr, DecidableEq

/-- What a whole body comes to; a body that falls silent while nobody has cancelled the stream
    comes to nothing. `cancel` is what a cancellation from outside does to the observer. A
    cancellation is looked at before a read is asked for; `asking` tells that this is done, so that
    what the request brings still counts. -/
def follow {σ : Type} (observer : Observer σ) (transport : Transport) (cancel : σ → σ)
    (asking : Bool) (c : Consumption) (s : σ) :
    List Arrival → Option (Except Failure StreamOutcome) × σ
  | [] =>
    if !asking && observer.isCancelled s then (some (.ok .cancelled), s)
    else (some (c.finish transport), s)
  | arrival :: rest =>
    if !asking && observer.isCancelled s then (some (.ok .cancelled), s)
    else
      match arrival with
      | .bytes bytes =>
        match takeBytes observer c s bytes with
        | (.open c, s) => follow observer transport cancel false c s rest
        | (.over result, s) => (some result, s)
      | .failure text => (some (.error (.network text)), s)
      | .cancel => follow observer transport cancel true c (cancel s) rest
      | .silence => (if observer.isCancelled s then some (.ok .cancelled) else none, s)

end Consumption

end Viva
