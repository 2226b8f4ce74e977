import Viva.Decimal.Nearest
import Viva.Json.Token
import Viva.Toml.Value

/-! # Values written without quotes and brackets

Truth values, numbers and moments. Between two digits of a number there may be one underscore. An
integer has a sign of 64 bits, and may be written to base 16, 8 or 2 after `0x`, `0o` or `0b`; to
base ten it has no zero in front. A number with a point or an exponent has to be within the range of
the doubles.
-/

namespace Viva.Toml.Scalar

/-- The value of a digit to a base of at most 16. -/
def digit? (base : Nat) (c : Char) : Option Nat :=
  (Json.Token.hexDigit? c).filter (· < base)

/-- The digits that a text starts with, and the text after them. There is none when it starts
    with no digit, or when an underscore is not between two digits. -/
def readDigits (base : Nat) (afterDigit : Bool) : List Char → Option (List Nat × List Char)
  | [] => if afterDigit then some ([], []) else none
  | c :: rest =>
    match digit? base c with
    | some d => (readDigits base true rest).map fun (digits, after) => (d :: digits, after)
    | none =>
      if !afterDigit then none
      else if c = '_' then readDigits base false rest
      else some ([], c :: rest)

/-- The number that digits write. -/
def valueOf (base : Nat) (digits : List Nat) : Nat :=
  digits.foldl (fun n d => n * base + d) 0

/-- Digits to base ten with no zero in front, and the text after them. -/
def readWhole (text : List Char) : Option (List Nat × List Char) := do
  match ← readDigits 10 false text with
  | (0 :: _ :: _, _) => none
  | found => some found

/-- An integer that 64 bits hold. -/
def integer? (negative : Bool) (magnitude : Nat) : Option Value :=
  if negative then
    if magnitude ≤ Nat.pow 2 63 then some (.integer (-magnitude)) else none
  else if magnitude < Nat.pow 2 63 then some (.integer magnitude) else none

/-- An integer to another base than ten. -/
def based? (base : Nat) (text : List Char) : Option Value := do
  match ← readDigits base false text with
  | (digits, []) => integer? false (valueOf base digits)
  | _ => none

/-- An exponent after its letter, with nothing after it. -/
def exponent? (text : List Char) : Option Int := do
  let (negative, text) := match text with
    | '-' :: rest => (true, rest)
    | '+' :: rest => (false, rest)
    | rest => (false, rest)
  match ← readDigits 10 false text with
  | (digits, []) => some (if negative then -(valueOf 10 digits : Int) else valueOf 10 digits)
  | _ => none

/-- A double with its sign. -/
def signed (negative : Bool) (x : Float) : Value :=
  .number (if negative then -x else x)

/-- The double of some digits with a point before the last `places` of them. -/
def double? (negative : Bool) (digits : List Nat) (places : Nat) (exponent : Int) : Option Value :=
  let x := Decimal.nearest (valueOf 10 digits) (exponent - places)
  if x.isFinite then some (signed negative x) else none

/-- The letter of an exponent. -/
def isExponentLetter (c : Char) : Bool := c = 'e' || c = 'E'

/-- What comes after the digits of a number with a point or an exponent. -/
def fractional? (negative : Bool) (whole : List Nat) : List Char → Option Value
  | '.' :: rest => do
    let (fraction, rest) ← readDigits 10 false rest
    let digits := whole ++ fraction
    match rest with
    | [] => double? negative digits fraction.length 0
    | c :: rest =>
      if isExponentLetter c then double? negative digits fraction.length (← exponent? rest)
      else none
  | c :: rest => do
    if isExponentLetter c then double? negative whole 0 (← exponent? rest) else none
  | [] => none

/-- A number to base ten, without its sign. -/
def decimal? (negative : Bool) (text : List Char) : Option Value := do
  match ← readWhole text with
  | (whole, []) => integer? negative (valueOf 10 whole)
  | (whole, rest) => fractional? negative whole rest

/-- A number that may have a minus sign. -/
def unsigned? : List Char → Option Value
  | '0' :: 'x' :: rest => based? 16 rest
  | '0' :: 'o' :: rest => based? 8 rest
  | '0' :: 'b' :: rest => based? 2 rest
  | text =>
    let (negative, text) := match text with
      | '-' :: rest => (true, rest)
      | rest => (false, rest)
    if text = ['i', 'n', 'f'] then some (signed negative (1 / 0))
    else if text = ['n', 'a', 'n'] then some (signed negative (0 / 0))
    else decimal? negative text

/-- A number. A plus sign changes nothing, before a minus sign too. -/
def number? : List Char → Option Value
  | '+' :: rest => unsigned? rest
  | text => unsigned? text

/-- The value that a text without quotes and brackets writes. -/
def ofChars? (text : List Char) : Option Value :=
  if text = ['t', 'r', 'u', 'e'] then some (.boolean true)
  else if text = ['f', 'a', 'l', 's', 'e'] then some (.boolean false)
  else (number? text).or ((Moment.ofChars? text).map .moment)

end Viva.Toml.Scalar
