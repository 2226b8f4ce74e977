import Viva.Json.Tree
import Viva.Decimal.Layout

/-! # The value of a written number

A number without point and exponent is an integer when 64 bits hold it, with a sign or without.
Every other number is a double. Its digits are read into a 64 bit integer while they fit. Digits
that no longer fit are dropped: before the point each counts as a power of ten, after it not at
all. The integer is then multiplied or divided by the power of ten. Both roundings show in the
answer, so a long number need not read as the double nearest to it.
-/

namespace Viva.Json.Numeral

/-- The greatest integer that digits are collected in. -/
def limit : Nat := Nat.pow 2 64 - 1

/-- Adds digits to a number while it stays within the limit; what is left starts with the first
    digit that does not fit. -/
def absorb (n : Nat) : List Nat → Nat × List Nat
  | [] => (n, [])
  | d :: rest => if n * 10 + d ≤ limit then absorb (n * 10 + d) rest else (n, d :: rest)

/-- A double divided by a power of ten. A power that is too large for a double is split off in
    steps, until nothing of the number is left. -/
def divideByPower (x : Float) (power : Nat) : Float :=
  if power ≤ 308 then x / Float.ofScientific 1 false power
  else if x == 0 then x
  else divideByPower (x / Float.ofScientific 1 false 308) (power - 308)
  termination_by power

/-- A double multiplied by a power of ten, unless that is beyond the doubles. -/
def multiplyByPower? (x : Float) (power : Nat) : Option Float :=
  if power ≤ 308 then
    let y := x * Float.ofScientific 1 false power
    if y.isInf then none else some y
  else if x == 0 then some x
  else none

/-- The value of the digits of an exponent, unless 31 bits cannot hold it. -/
def exponentValue? (digits : List Nat) : Option Nat :=
  let n := digits.foldl (fun n d => n * 10 + d) 0
  if n < Nat.pow 2 31 then some n else none

/-- The double that the digits before and after the point and the exponent give. -/
def magnitude? (n : Numeral) : Option Float :=
  let (collected, dropped) := absorb 0 n.whole
  let (collected, rest) := absorb collected n.fraction
  let shift : Int := dropped.length - (n.fraction.length - rest.length : Nat)
  let scale (power : Int) : Option Float :=
    let x := Float.ofNat collected
    if 0 ≤ power then multiplyByPower? x power.toNat
    else some (divideByPower x (-power).toNat)
  match n.exponent with
  | none => scale shift
  | some (negative, digits) =>
    match exponentValue? digits with
    | some e => scale (if negative then shift - e else shift + e)
    | none => if negative || collected == 0 then some 0 else none

/-- The number as a double, unless it is beyond the doubles. -/
def double? (n : Numeral) : Option Float :=
  n.magnitude?.map fun x => if n.negative then -x else x

/-- The magnitude of a number without point and exponent. -/
def integer? (n : Numeral) : Option Nat :=
  if n.fraction.isEmpty && n.exponent.isNone then
    some (n.whole.foldl (fun k d => k * 10 + d) 0)
  else none

/-- Doubles are written with a point or an exponent, so that they do not look like integers. -/
def layout : Decimal.Layout :=
  { positional := some (-5, 15), wholeHasPoint := true, plusSign := true }

/-- The text of the number: an integer as it is, any other number as the shortest text of its
    double. There is none for a number beyond the doubles. -/
def text? (n : Numeral) : Option String :=
  let asDouble := n.double?.map layout.writeDouble
  match n.integer? with
  | none => asDouble
  | some k =>
    if n.negative then
      if 0 < k && k ≤ Nat.pow 2 63 then some ("-" ++ toString k) else asDouble
    else if k ≤ limit then some (toString k) else asDouble

end Viva.Json.Numeral
