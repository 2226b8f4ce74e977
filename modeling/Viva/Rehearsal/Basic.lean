import Viva.Rehearsal.Server

/-! # A session rehearsed

A session plays against a scripted server on a clock that moves only while something is waited for.
Whenever the server has something to deliver at the moment it does; when it has not, the pump gets
its turn; when the pump has nothing to do either, the session is settled, and the clock moves on to
the next point where something is due.
-/

namespace Viva

structure Rehearsal where
  session : Session
  script : Rehearsal.Script := []
  now : Nat := 0
  /-- The answers under way. -/
  exchanges : List Rehearsal.Exchange := []
  /-- How many of the requests sent have their exchange. -/
  admitted : Nat := 0

namespace Rehearsal

/-- Begins the exchanges for the requests sent since the last time. -/
def admitAll (r : Rehearsal) : List Sent → Rehearsal
  | [] => r
  | sent :: rest =>
    let (reply, script) := r.script.next sent.endpoint.route
    { r with
      script
      exchanges := r.exchanges ++ [Exchange.mk sent.waiter (.answering (r.now + reply.delay) reply)]
      admitted := r.admitted + 1 }.admitAll rest

/-- Lets something happen to the session, and begins the exchanges for what it sends. -/
def stimulate (r : Rehearsal) (stimulus : Session.Stimulus) : Rehearsal :=
  let session := r.session.step stimulus
  { r with session }.admitAll (session.sent.drop r.admitted)

/-- The call waits for a read. -/
def isReading (r : Rehearsal) (id : Nat) : Bool :=
  match r.session.calls[id]? with
  | some (.waiting (.read _ _ _)) => true
  | _ => false

/-- Adds the exchange of a call at the front, if the call still reads. -/
def keep (r : Rehearsal) (id : Nat) (due : Option Nat) (items : List BodyItem) : Rehearsal :=
  if r.isReading id then
    { r with exchanges := Exchange.mk (.call id) (.delivering due items) :: r.exchanges }
  else r

/-- Delivers to a call what its body has next. -/
def deliver (r : Rehearsal) (id : Nat) : List BodyItem → Rehearsal
  | [] => r.stimulate (.read id .ended)
  | .bytes bytes :: rest => (r.stimulate (.read id (.bytes bytes))).keep id (some r.now) rest
  | .failure detail :: _ => r.stimulate (.read id (.failure detail))
  | .wait ms :: rest => r.keep id (some (r.now + ms)) rest
  | .silence :: rest => r.keep id none rest

/-- Carries on an exchange that was taken off the list. -/
def carryOn (r : Rehearsal) (exchange : Exchange) : Rehearsal :=
  match exchange.waiter, exchange.stage with
  | .pump, .answering _ reply => r.stimulate (.uploaded reply.answer)
  | .pump, .delivering _ _ => r
  | .call id, .answering _ reply =>
    (r.stimulate (.answer id reply.answer)).keep id (some r.now) reply.body
  | .call id, .delivering _ items => if r.isReading id then r.deliver id items else r

/-- The exchange has something to deliver now. -/
def isDue (r : Rehearsal) (exchange : Exchange) : Bool :=
  match exchange.stage.due with
  | some due => due ≤ r.now
  | none => false

/-- Takes the first exchange that has something to deliver off the list. -/
def takeDue (isDue : Exchange → Bool) : List Exchange → Option (Exchange × List Exchange)
  | [] => none
  | exchange :: rest =>
    if isDue exchange then some (exchange, rest)
    else (takeDue isDue rest).map fun (found, rest) => (found, exchange :: rest)

/-- What happens next at this moment, if anything does: calls go on before the pump does. -/
def turn (r : Rehearsal) : Option Rehearsal :=
  match takeDue (fun e => r.isDue e && e.waiter != .pump) r.exchanges with
  | some (exchange, exchanges) => some ({ r with exchanges }.carryOn exchange)
  | none =>
    match takeDue r.isDue r.exchanges with
    | some (exchange, exchanges) => some ({ r with exchanges }.carryOn exchange)
    | none =>
      if r.session.pump.uploading.isNone && !r.session.untaken.isEmpty then
        some (r.stimulate .pump)
      else none

/-- Takes turns until nothing happens any more, at most `count` of them. -/
def takeTurns (r : Rehearsal) : Nat → Rehearsal
  | 0 => r
  | count + 1 =>
    match r.turn with
    | some r => r.takeTurns count
    | none => r

/-- More turns than can be taken at one moment: every turn uses up a reply, a part of a body, an
    event of the recorder, a part of the recording, or one of the few requests a call makes. -/
def turnLimit (r : Rehearsal) : Nat :=
  total (r.script.replies.map fun reply => reply.body.length + 2)
    + total (r.exchanges.map fun exchange => exchange.stage.steps)
    + 8 * r.session.calls.length + 4 * (r.session.untaken.length + r.session.pump.held.length) + 8

/-- Takes turns until nothing happens any more. -/
def settle (r : Rehearsal) : Rehearsal :=
  r.takeTurns r.turnLimit

/-- When something is due next. -/
def nextDue (r : Rehearsal) : Option Nat :=
  (r.exchanges.map (·.stage.due)).foldl Recorder.earlier
    (r.session.recorder.bind Recorder.nextDue)

/-- Moves the clock, lets the recorder do what is due then, and settles. -/
def moveTo (r : Rehearsal) (time : Nat) : Rehearsal :=
  ({ r with now := time }.stimulate (.elapse (time - r.now))).settle

/-- Moves the clock to `time`, from one point where something is due to the next, at most `count` of
    them. -/
def advance (time : Nat) (r : Rehearsal) : Nat → Rehearsal
  | 0 => r.moveTo time
  | count + 1 =>
    match r.nextDue with
    | some due => if due ≤ time then advance time (r.moveTo due) count else r.moveTo time
    | none => r.moveTo time

/-- Time passes. The points where something is due are at least a millisecond apart. -/
def elapse (r : Rehearsal) (ms : Nat) : Rehearsal :=
  advance (r.now + ms) r ms

/-- What the call has given back, if it has returned. -/
def resultOf? (r : Rehearsal) (id : Nat) : Option CallResult :=
  match r.session.calls[id]? with
  | some (.returned result) => some result
  | _ => none

/-- Lets time pass until a call has returned, at most to `count` points where something is due. -/
def awaitCall (r : Rehearsal) (id : Nat) : Nat → Rehearsal
  | 0 => r
  | count + 1 =>
    if (r.resultOf? id).isSome then r
    else
      match r.nextDue with
      | some due => (r.moveTo due).awaitCall id count
      | none => r

/-- How long all that the server has still to say can take. -/
def timeLimit (r : Rehearsal) : Nat :=
  total (r.script.replies.map Reply.duration)
    + total (r.exchanges.map fun exchange =>
        (exchange.stage.due.getD r.now - r.now) + exchange.stage.duration) + 1

/-- Begins a call and does not wait for it. -/
def spawn (r : Rehearsal) (call : Call) : Rehearsal :=
  (r.stimulate (.call call)).settle

/-- Begins a call and lets time pass until it has returned. -/
def perform (r : Rehearsal) (call : Call) : Rehearsal :=
  let id := r.session.nextCall
  let r := r.spawn call
  r.awaitCall id r.timeLimit

end Rehearsal

end Viva
