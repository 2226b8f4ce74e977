/-! # The shortest decimal that reads back

A binary float is the only float in an interval of reals. Among all decimals in that interval this
module finds one with the fewest digits, and among those the nearest to the float. All arithmetic
is on natural numbers.
-/

namespace Viva.Decimal

/-- The number `mantissa · 2 ^ exponent`. -/
structure Binary where
  mantissa : Nat
  exponent : Int
  deriving Repr, DecidableEq

/-- A decimal `0.d₁d₂… · 10 ^ point`: its digits, with no zero at either end, and the place of the
    point counted from the first digit. -/
structure Digits where
  digits : List Nat
  point : Int
  deriving Repr, DecidableEq

namespace Binary

/-- Magnitude of a finite double, from its bits. -/
def ofBits (bits : UInt64) : Binary :=
  let fraction : Nat := bits.toNat % Nat.pow 2 52
  let field : Nat := bits.toNat / Nat.pow 2 52 % Nat.pow 2 11
  if field = 0 then ⟨fraction, -1074⟩ else ⟨fraction + Nat.pow 2 52, (field : Int) - 1075⟩

/-- The greatest integer `n` with `n · 10 ^ grid ≤ mantissa · 2 ^ exponent`. -/
def floorAt (x : Binary) (grid : Int) : Nat :=
  (x.mantissa * Nat.pow 2 x.exponent.toNat * Nat.pow 10 (-grid).toNat)
    / (Nat.pow 10 grid.toNat * Nat.pow 2 (-x.exponent).toNat)

/-- The number is at most `n · 10 ^ grid`. -/
def leDecimal (x : Binary) (n : Nat) (grid : Int) : Bool :=
  x.mantissa * Nat.pow 2 x.exponent.toNat * Nat.pow 10 (-grid).toNat
    ≤ n * Nat.pow 10 grid.toNat * Nat.pow 2 (-x.exponent).toNat

/-- The number is at least `n · 10 ^ grid`. -/
def geDecimal (x : Binary) (n : Nat) (grid : Int) : Bool :=
  n * Nat.pow 10 grid.toNat * Nat.pow 2 (-x.exponent).toNat
    ≤ x.mantissa * Nat.pow 2 x.exponent.toNat * Nat.pow 10 (-grid).toNat

/-- The least real that reads as this double, ends of the interval counted in. -/
def low (x : Binary) : Binary :=
  if x.mantissa = Nat.pow 2 52 ∧ -1074 < x.exponent then ⟨4 * x.mantissa - 1, x.exponent - 2⟩
  else ⟨2 * x.mantissa - 1, x.exponent - 1⟩

/-- The greatest real that reads as this double, ends of the interval counted in. -/
def high (x : Binary) : Binary :=
  ⟨2 * x.mantissa + 1, x.exponent - 1⟩

/-- The decimal `n · 10 ^ grid` reads as this double: it lies between the ends, and on an end only
    when the mantissa is even. -/
def readsBack (x : Binary) (n : Nat) (grid : Int) : Bool :=
  if x.mantissa % 2 = 0 then x.low.leDecimal n grid && x.high.geDecimal n grid
  else !x.low.geDecimal n grid && !x.high.leDecimal n grid

/-- Twice the number, against twice `n · 10 ^ grid` and one grid step more: whether the number lies
    nearer to `n` than to `n + 1`, an exact half going to the even one. -/
def isNearerBelow (x : Binary) (n : Nat) (grid : Int) : Bool :=
  let twice : Binary := ⟨2 * x.mantissa, x.exponent⟩
  if twice.leDecimal (2 * n + 1) grid then
    if twice.geDecimal (2 * n + 1) grid then n % 2 == 0 else true
  else false

/-- The decimal on the grid that reads back, if there is one; of two the nearer. -/
def onGrid? (x : Binary) (grid : Int) : Option Nat :=
  let n := x.floorAt grid
  let below := x.readsBack n grid
  let above := x.readsBack (n + 1) grid
  if below && (!above || x.isNearerBelow n grid) then some n
  else if above then some (n + 1)
  else none

/-- How many digits stand before the point; not positive for a number below one. -/
def magnitude (x : Binary) : Int :=
  ((Nat.toDigits 10 (x.floorAt (-400))).length : Int) - 400

/-- The first grid that holds a decimal that reads back, from `count` digits upwards, and that
    decimal. -/
def search (x : Binary) (count : Nat) : Nat → Nat × Int
  | 0 => (x.floorAt (x.magnitude - count), x.magnitude - count)
  | tries + 1 =>
    match x.onGrid? (x.magnitude - count) with
    | some n => (n, x.magnitude - count)
    | none => search x (count + 1) tries

end Binary

/-- The decimal `n · 10 ^ grid` without zeros at its end. -/
def Digits.of (n : Nat) (grid : Int) : Digits :=
  let digits := (Nat.toDigits 10 n).map fun c => c.toNat - 0x30
  let kept := (digits.reverse.dropWhile (· == 0)).reverse
  ⟨kept, grid + digits.length⟩

/-- The shortest decimal that reads as the double; seventeen digits always do. Zero has no digits. -/
def shortest (x : Binary) : Digits :=
  if x.mantissa = 0 then ⟨[], 0⟩
  else
    let (n, grid) := x.search 1 17
    Digits.of n grid

end Viva.Decimal
