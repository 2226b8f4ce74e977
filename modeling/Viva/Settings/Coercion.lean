import Viva.Decimal.Layout
import Viva.Settings.Value

/-! # Settings of another kind

A setting may be written as another kind of value than the one that is wanted: a number as text, a
flag as a number. Where a value has no reasonable reading there is none.
-/

namespace Viva.Settings.Value

/-- Numbers in text have neither an exponent nor a point that nothing follows. -/
def layout : Decimal.Layout :=
  { positional := none, wholeHasPoint := false, plusSign := false }

/-- A double as text. -/
def numberText (x : Float) : String :=
  if x.isNaN then "NaN"
  else if x.isInf then (if x < 0 then "-inf" else "inf")
  else layout.writeDouble x

/-- The value as text. -/
def text? : Value → Option String
  | text s => some s
  | flag b => some (if b then "true" else "false")
  | integer n => some (toString n)
  | number x => some (numberText x)
  | absent | list _ | table _ => none

/-- The greatest count. -/
def greatestCount : Nat := Nat.pow 2 64 - 1

/-- The integer nearest to a double, a half going up; zero for a negative one and for NaN, and never
    more than the greatest count. -/
def rounded (x : Float) : Nat :=
  if x.isNaN || x < 0 then 0
  else if x.isInf then greatestCount
  else
    let b := Decimal.Binary.ofBits x.toBits
    let units := 2 * b.mantissa * Nat.pow 2 b.exponent.toNat
    let unit := Nat.pow 2 (-b.exponent).toNat
    min ((units + unit) / (2 * unit)) greatestCount

/-- The count that a text writes: digits, perhaps after a plus sign. -/
def countOfChars? (text : List Char) : Option Nat :=
  let digits := match text with
    | '+' :: rest => rest
    | rest => rest
  if digits.isEmpty || !digits.all Char.isDigit then none
  else
    let n := digits.foldl (fun n c => n * 10 + (c.toNat - 0x30)) 0
    if n ≤ greatestCount then some n else none

/-- Words for a flag that is set. -/
def yesWords : List String := ["true", "on", "yes"]

/-- Words for a flag that is not set. -/
def noWords : List String := ["false", "off", "no"]

/-- Text with its capital letters made small, as far as it matters for `yesWords` and `noWords`. -/
def small (s : String) : String := s.map Char.toLower

/-- The value as a count. -/
def count? : Value → Option Nat
  | integer n => if 0 ≤ n ∧ n ≤ greatestCount then some n.toNat else none
  | flag b => some (if b then 1 else 0)
  | number x => some (rounded x)
  | text s =>
    if yesWords.contains (small s) then some 1
    else if noWords.contains (small s) then some 0
    else countOfChars? s.toList
  | absent | list _ | table _ => none

/-- The value as a flag. -/
def flag? : Value → Option Bool
  | flag b => some b
  | integer n => some (n != 0)
  | number x => some !(x == 0)
  | text s =>
    if ("1" :: yesWords).contains (small s) then some true
    else if ("0" :: noWords).contains (small s) then some false
    else none
  | absent | list _ | table _ => none

end Viva.Settings.Value
