/-! # The double nearest to a decimal -/

namespace Viva.Decimal

/-- No double but zero is below ten to minus this power, and none but the infinite one above ten to
    this power. -/
def range : Int := 400

/-- The double nearest to `mantissa · 10 ^ exponent`; infinite when that is beyond the doubles. -/
def nearest (mantissa : Nat) (exponent : Int) : Float :=
  let magnitude := exponent + (toString mantissa).length
  if mantissa = 0 ∨ magnitude < -range then 0
  else if range < magnitude then 1 / 0
  else if 0 ≤ exponent then Float.ofScientific mantissa false exponent.toNat
  else Float.ofScientific mantissa true (-exponent).toNat

end Viva.Decimal
