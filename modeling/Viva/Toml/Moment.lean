/-! # Dates and times

A moment is a date, a time of day, or both, and with both there may be the offset from universal
time. It is read with many spellings and written with one: `T` between date and time, and of the
fraction of a second what is needed.
-/

namespace Viva.Toml

structure Date where
  year : Nat
  month : Nat
  day : Nat
  deriving Repr, DecidableEq

structure TimeOfDay where
  hour : Nat
  minute : Nat
  second : Nat
  nanosecond : Nat
  deriving Repr, DecidableEq

/-- How far local time is ahead of universal time. -/
inductive Offset where
  | zulu
  /-- The sign is that of the hours, so an offset within one hour has none. -/
  | ahead (hours : Int) (minutes : Nat)
  deriving Repr, DecidableEq

inductive Moment where
  | calendar (date : Date)
  | clock (time : TimeOfDay)
  | instant (date : Date) (time : TimeOfDay) (offset : Option Offset)
  deriving Repr, DecidableEq

namespace Moment

/-- The number that some digits write. -/
def number? : List Char → Option Nat :=
  List.foldlM (fun n c => if c.isDigit then some (n * 10 + (c.toNat - 0x30)) else none) 0

/-- A number of two digits, and the text after it. -/
def readPair : List Char → Option (Nat × List Char)
  | a :: b :: rest => (number? [a, b]).map (·, rest)
  | _ => none

/-- A date, and the text after it. Every month may have 31 days. -/
def readDate : List Char → Option (Date × List Char)
  | a :: b :: c :: d :: '-' :: rest => do
    let year ← number? [a, b, c, d]
    match ← readPair rest with
    | (month, '-' :: rest) =>
      let (day, rest) ← readPair rest
      if 1 ≤ month ∧ month ≤ 12 ∧ 1 ≤ day ∧ day ≤ 31 then some (⟨year, month, day⟩, rest) else none
    | _ => none
  | _ => none

/-- How many digits of a second's fraction count. -/
def fractionDigits : Nat := 9

/-- Nanoseconds, if a point comes next, and the text after them; digits beyond the ninth are
    dropped. -/
def readFraction : List Char → Option (Nat × List Char)
  | '.' :: rest => do
    let digits := rest.takeWhile Char.isDigit
    if digits.isEmpty then none
    else
      let counted := digits.take fractionDigits
      let n ← number? (counted ++ List.replicate (fractionDigits - counted.length) '0')
      some (n, rest.dropWhile Char.isDigit)
  | text => some (0, text)

/-- A time of day, and the text after it. Hour 24 is let through. -/
def readTime (text : List Char) : Option (TimeOfDay × List Char) := do
  match ← readPair text with
  | (hour, ':' :: rest) =>
    match ← readPair rest with
    | (minute, ':' :: rest) =>
      let (second, rest) ← readPair rest
      let (nanosecond, rest) ← readFraction rest
      if hour ≤ 24 ∧ minute ≤ 59 ∧ second ≤ 59 then
        some (⟨hour, minute, second, nanosecond⟩, rest)
      else none
    | _ => none
  | _ => none

/-- An offset, if one comes next, with nothing after it. -/
def readOffset : List Char → Option (Option Offset)
  | [] => some none
  | ['Z'] | ['z'] => some (some .zulu)
  | sign :: rest => do
    let factor ← if sign = '+' then some 1 else if sign = '-' then some (-1) else none
    match ← readPair rest with
    | (hours, ':' :: rest) =>
      match ← readPair rest with
      | (minutes, []) => some (some (.ahead (factor * hours) minutes))
      | _ => none
    | _ => none

/-- The moment that a text writes. -/
def ofChars? (text : List Char) : Option Moment :=
  match text with
  | _ :: _ :: ':' :: _ => do
    match ← readTime text with
    | (time, []) => some (.clock time)
    | _ => none
  | _ => do
    let (date, rest) ← readDate text
    match rest with
    | [] => some (.calendar date)
    | between :: rest =>
      if between = 'T' ∨ between = 't' ∨ between = ' ' then
        let (time, rest) ← readTime rest
        let offset ← readOffset rest
        some (.instant date time offset)
      else none

/-- A number with zeros in front of it. -/
def padded (width n : Nat) : String :=
  let digits := toString n
  String.ofList (List.replicate (width - digits.length) '0') ++ digits

/-- The fraction of a second, without zeros at its end. -/
def fractionText (nanosecond : Nat) : String :=
  if nanosecond = 0 then ""
  else
    let digits := (padded fractionDigits nanosecond).toList
    "." ++ String.ofList ((digits.reverse.dropWhile (· == '0')).reverse)

def dateText (date : Date) : String :=
  padded 4 date.year ++ "-" ++ padded 2 date.month ++ "-" ++ padded 2 date.day

def timeText (time : TimeOfDay) : String :=
  padded 2 time.hour ++ ":" ++ padded 2 time.minute ++ ":" ++ padded 2 time.second
    ++ fractionText time.nanosecond

def offsetText : Offset → String
  | .zulu => "Z"
  | .ahead hours minutes =>
    (if hours < 0 then "-" else "+") ++ padded 2 hours.natAbs ++ ":" ++ padded 2 minutes

/-- The moment as text. -/
def text : Moment → String
  | .calendar date => dateText date
  | .clock time => timeText time
  | .instant date time offset =>
    dateText date ++ "T" ++ timeText time ++ (offset.map offsetText).getD ""

end Moment

end Viva.Toml
