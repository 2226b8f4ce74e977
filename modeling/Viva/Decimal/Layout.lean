import Viva.Decimal.Shortest

/-! # Decimals laid out as text

Where the point goes, from where on an exponent is written, and what a whole number looks like.
-/

namespace Viva.Decimal

/-- The choices a format makes. -/
structure Layout where
  /-- Least and greatest exponent of the first digit that is written without an exponent; no
      exponent is ever written without this. -/
  positional : Option (Int × Int)
  /-- A whole number written without an exponent gets `.0`. -/
  wholeHasPoint : Bool
  /-- A positive exponent gets a plus sign. -/
  plusSign : Bool
  deriving Repr

/-- The characters of some digits. -/
def digitChars (digits : List Nat) : List Char :=
  digits.map fun d => Char.ofNat (0x30 + d)

/-- Digits around a point that stands after `point` of them. -/
def positionalText (digits : List Nat) (point : Int) (wholeHasPoint : Bool) : List Char :=
  let tail := if wholeHasPoint then ".0".toList else []
  if digits.isEmpty then '0' :: tail
  else if point ≤ 0 then
    '0' :: '.' :: (List.replicate (-point).toNat '0' ++ digitChars digits)
  else if digits.length ≤ point.toNat then
    digitChars digits ++ List.replicate (point.toNat - digits.length) '0' ++ tail
  else
    digitChars (digits.take point.toNat) ++ '.' :: digitChars (digits.drop point.toNat)

/-- Digits with an exponent: one digit before the point. -/
def scientificText (digits : List Nat) (exponent : Int) (plusSign : Bool) : List Char :=
  let mantissa :=
    match digits with
    | [] => ['0']
    | [d] => digitChars [d]
    | d :: rest => digitChars [d] ++ '.' :: digitChars rest
  let sign := if exponent < 0 then ['-'] else if plusSign then ['+'] else []
  mantissa ++ 'e' :: sign ++ (toString exponent.natAbs).toList

/-- The decimal as text. -/
def Layout.write (layout : Layout) (d : Digits) : List Char :=
  match layout.positional with
  | none => positionalText d.digits d.point layout.wholeHasPoint
  | some (least, greatest) =>
    let exponent := d.point - 1
    if d.digits.isEmpty || (least ≤ exponent && exponent ≤ greatest) then
      positionalText d.digits d.point layout.wholeHasPoint
    else scientificText d.digits exponent layout.plusSign

/-- A finite double as text, by its shortest decimal. -/
def Layout.writeDouble (layout : Layout) (x : Float) : String :=
  let sign := if x.toBits.toNat / Nat.pow 2 63 = 1 then ['-'] else []
  String.ofList (sign ++ layout.write (shortest (Binary.ofBits x.toBits)))

end Viva.Decimal
