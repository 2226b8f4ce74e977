import Viva.Session.Run

/-! # A server that answers from a script

Every kind of request has a list of replies, which are used up in their order; when none is left the
reply is an empty success. A reply comes after a delay, and its body in reads with pauses between
them. The pause before a read begins when the read is asked for.
-/

namespace Viva.Rehearsal

/-- The sum of some numbers. -/
def total : List Nat → Nat
  | [] => 0
  | n :: rest => n + total rest

/-- A part of a body. -/
inductive BodyItem where
  /-- One read. -/
  | bytes (bytes : List UInt8)
  /-- A read that fails. -/
  | failure (detail : String)
  /-- A pause before the next read. -/
  | wait (ms : Nat)
  /-- The body never goes on. -/
  | silence
  deriving Repr, DecidableEq

structure Reply where
  status : Nat := 200
  /-- Time before the answer. -/
  delay : Nat := 0
  body : List BodyItem := []
  /-- The request fails instead, with this text and perhaps a status. -/
  failure : Option (String × Option Nat) := none
  deriving Repr, DecidableEq, Inhabited

namespace Reply

/-- The answer before the body. -/
def answer (reply : Reply) : Answer :=
  match reply.failure with
  | some (detail, status) => .failed detail status
  | none => .status reply.status

/-- How long the reply can take. -/
def duration (reply : Reply) : Nat :=
  reply.delay + total (reply.body.map fun
    | .wait ms => ms
    | _ => 0)

end Reply

/-- The replies to each kind of request. -/
abbrev Script := List (Route × List Reply)

namespace Script

/-- The next reply to a kind of request, and the script without it. -/
def next (script : Script) (route : Route) : Reply × Script :=
  match script with
  | [] => ({}, [])
  | (other, replies) :: rest =>
    if other = route then
      match replies with
      | [] => ({}, script)
      | reply :: replies => (reply, (other, replies) :: rest)
    else
      let (reply, rest) := next rest route
      (reply, (other, replies) :: rest)

/-- All replies that are left. -/
def replies (script : Script) : List Reply :=
  script.flatMap (·.2)

end Script

/-- How far the answer to a request has come. -/
inductive Stage where
  /-- The answer comes at a time. -/
  | answering (due : Nat) (reply : Reply)
  /-- The body goes on at a time, if at all. -/
  | delivering (due : Option Nat) (items : List BodyItem)
  deriving Repr, DecidableEq

namespace Stage

/-- When it goes on. -/
def due : Stage → Option Nat
  | answering due _ => some due
  | delivering due _ => due

/-- How long it can take from now on, without what it waits for now. -/
def duration : Stage → Nat
  | answering _ reply => reply.duration
  | delivering _ items => { body := items : Reply }.duration

/-- In how many steps it is over, at the most. -/
def steps : Stage → Nat
  | answering _ reply => reply.body.length + 2
  | delivering _ items => items.length + 1

end Stage

/-- The answer to a request of somebody. -/
structure Exchange where
  waiter : Waiter
  stage : Stage
  deriving Repr, DecidableEq

end Viva.Rehearsal
