/-! # Tokens of JSON text

Text is first cut into tokens and the tokens are then put together to a tree (`Viva.Json.Tree`).
A token keeps what was written: a number its digits, a string its characters and `\u` escapes. So
a string with half a surrogate pair and a number beyond every range are tokens; whoever wants the
string or the number checks them then.
-/

namespace Viva.Json

/-- A number as it is written. -/
structure Numeral where
  negative : Bool
  /-- Digits before the point, at least one. -/
  whole : List Nat
  /-- Digits after the point; none when there is no point. -/
  fraction : List Nat
  /-- Whether the exponent is negative, and its digits. -/
  exponent : Option (Bool × List Nat)
  deriving Repr, DecidableEq

/-- One part of a string as it is written. -/
inductive Piece where
  /-- A character, written as itself or by a short escape. -/
  | char (c : Char)
  /-- A `\u` escape: a UTF-16 code unit. -/
  | unit (n : Nat)
  deriving Repr, DecidableEq

inductive Token where
  | openArray
  | closeArray
  | openObject
  | closeObject
  | comma
  | colon
  | null
  | bool (value : Bool)
  | number (value : Numeral)
  | string (value : List Piece)
  deriving Repr, DecidableEq

namespace Token

/-- The number that a hexadecimal digit stands for. -/
def hexDigit? (c : Char) : Option Nat :=
  let n := c.toNat
  if 0x30 ≤ n ∧ n ≤ 0x39 then some (n - 0x30)
  else if 0x41 ≤ n ∧ n ≤ 0x46 then some (n - 0x41 + 10)
  else if 0x61 ≤ n ∧ n ≤ 0x66 then some (n - 0x61 + 10)
  else none

/-- The number that four hexadecimal digits stand for. -/
def hexUnit? (a b c d : Char) : Option Nat := do
  let a ← hexDigit? a
  let b ← hexDigit? b
  let c ← hexDigit? c
  let d ← hexDigit? d
  some (((a * 16 + b) * 16 + c) * 16 + d)

/-- The character that a short escape stands for, by its letter. -/
def escaped? : Char → Option Char
  | '"' => some '"'
  | '\\' => some '\\'
  | '/' => some '/'
  | 'b' => some '\x08'
  | 'f' => some '\x0c'
  | 'n' => some '\n'
  | 'r' => some '\r'
  | 't' => some '\t'
  | _ => none

/-- A string after its opening quote: its pieces, and the text after its closing quote. -/
def scanText : List Char → Option (List Piece × List Char)
  | [] => none
  | '"' :: rest => some ([], rest)
  | '\\' :: 'u' :: a :: b :: c :: d :: rest => do
    let n ← hexUnit? a b c d
    let (pieces, after) ← scanText rest
    some (.unit n :: pieces, after)
  | '\\' :: letter :: rest => do
    let c ← escaped? letter
    let (pieces, after) ← scanText rest
    some (.char c :: pieces, after)
  | c :: rest =>
    if c = '\\' ∨ c.toNat < 0x20 then none
    else do
      let (pieces, after) ← scanText rest
      some (.char c :: pieces, after)

/-- The value of a decimal digit. -/
def digit? (c : Char) : Option Nat :=
  if c.isDigit then some (c.toNat - 0x30) else none

/-- The digits that a text starts with, and the text after them. -/
def scanDigits : List Char → List Nat × List Char
  | [] => ([], [])
  | c :: rest =>
    match digit? c with
    | some d =>
      let (digits, after) := scanDigits rest
      (d :: digits, after)
    | none => ([], c :: rest)

/-- Digits, at least one. -/
def scanDigits1 (text : List Char) : Option (List Nat × List Char) :=
  match scanDigits text with
  | ([], _) => none
  | found => some found

/-- Digits before the point: a zero stands alone. -/
def scanWhole (text : List Char) : Option (List Nat × List Char) :=
  match scanDigits text with
  | ([], _) => none
  | (0 :: _ :: _, _) => none
  | found => some found

/-- Digits after the point, if there is a point. -/
def scanFraction : List Char → Option (List Nat × List Char)
  | '.' :: rest => scanDigits1 rest
  | text => some ([], text)

/-- An exponent, if there is one. -/
def scanExponent : List Char → Option (Option (Bool × List Nat) × List Char)
  | c :: rest =>
    if c = 'e' ∨ c = 'E' then
      match rest with
      | '-' :: rest => (scanDigits1 rest).map fun (digits, after) => (some (true, digits), after)
      | '+' :: rest => (scanDigits1 rest).map fun (digits, after) => (some (false, digits), after)
      | rest => (scanDigits1 rest).map fun (digits, after) => (some (false, digits), after)
    else some (none, c :: rest)
  | [] => some (none, [])

/-- A number without its sign. -/
def scanNumber (negative : Bool) (text : List Char) : Option (Numeral × List Char) := do
  let (whole, text) ← scanWhole text
  let (fraction, text) ← scanFraction text
  let (exponent, text) ← scanExponent text
  some (⟨negative, whole, fraction, exponent⟩, text)

/-- The characters that may stand between tokens. -/
def isSpace (c : Char) : Bool :=
  c = ' ' || c = '\n' || c = '\t' || c = '\r'

/-- The token that starts with `c`, and the text after it. -/
def scan (c : Char) (rest : List Char) : Option (Token × List Char) :=
  match c, rest with
  | '[', _ => some (.openArray, rest)
  | ']', _ => some (.closeArray, rest)
  | '{', _ => some (.openObject, rest)
  | '}', _ => some (.closeObject, rest)
  | ',', _ => some (.comma, rest)
  | ':', _ => some (.colon, rest)
  | '"', _ => (scanText rest).map fun (pieces, after) => (.string pieces, after)
  | '-', _ => (scanNumber true rest).map fun (n, after) => (.number n, after)
  | 'n', 'u' :: 'l' :: 'l' :: after => some (.null, after)
  | 't', 'r' :: 'u' :: 'e' :: after => some (.bool true, after)
  | 'f', 'a' :: 'l' :: 's' :: 'e' :: after => some (.bool false, after)
  | _, _ => (scanNumber false (c :: rest)).map fun (n, after) => (.number n, after)

theorem length_scanText {text : List Char} {pieces : List Piece} {after : List Char}
    (h : scanText text = some (pieces, after)) : after.length < text.length := by
  fun_induction scanText text generalizing pieces after with
  | case1 => simp at h
  | case2 rest => simp_all
  | case3 a b c d rest ih =>
    simp only [Option.bind_eq_bind, Option.bind_eq_some_iff] at h
    obtain ⟨_, _, ⟨_, tail⟩, hrest, h⟩ := h
    have := ih hrest
    simp_all
    omega
  | case4 letter rest _ ih =>
    simp only [Option.bind_eq_bind, Option.bind_eq_some_iff] at h
    obtain ⟨_, _, ⟨_, tail⟩, hrest, h⟩ := h
    have := ih hrest
    simp_all
    omega
  | case5 => simp at h
  | case6 c rest _ _ _ _ ih =>
    simp only [Option.bind_eq_bind, Option.bind_eq_some_iff] at h
    obtain ⟨⟨_, tail⟩, hrest, h⟩ := h
    have := ih hrest
    simp_all
    omega

theorem length_scanDigits (text : List Char) :
    (scanDigits text).1.length + (scanDigits text).2.length = text.length := by
  induction text with
  | nil => rfl
  | cons c rest ih =>
    simp only [scanDigits]
    split
    · simp only [List.length_cons]
      omega
    · simp

theorem length_scanDigits1 {text : List Char} {digits : List Nat} {after : List Char}
    (h : scanDigits1 text = some (digits, after)) : after.length < text.length := by
  have hlen := length_scanDigits text
  unfold scanDigits1 at h
  split at h
  · simp at h
  · simp only [Option.some.injEq] at h
    cases digits with
    | nil => simp_all
    | cons => simp_all; omega

theorem length_scanWhole {text : List Char} {digits : List Nat} {after : List Char}
    (h : scanWhole text = some (digits, after)) : after.length < text.length := by
  have hlen := length_scanDigits text
  unfold scanWhole at h
  split at h
  · simp at h
  · simp at h
  · simp only [Option.some.injEq] at h
    cases digits with
    | nil => simp_all
    | cons => simp_all; omega

theorem length_scanFraction {text : List Char} {digits : List Nat} {after : List Char}
    (h : scanFraction text = some (digits, after)) : after.length ≤ text.length := by
  unfold scanFraction at h
  split at h
  · have := length_scanDigits1 h
    simp only [List.length_cons]
    omega
  · simp_all

theorem length_scanExponent {text : List Char} {exponent : Option (Bool × List Nat)}
    {after : List Char} (h : scanExponent text = some (exponent, after)) :
    after.length ≤ text.length := by
  unfold scanExponent at h
  split at h
  · split at h
    · split at h <;>
      · simp only [Option.map_eq_some_iff, Prod.mk.injEq] at h
        obtain ⟨⟨_, _⟩, hdigits, _, rfl⟩ := h
        have := length_scanDigits1 hdigits
        simp only [List.length_cons] at *
        omega
    · simp_all
  · simp_all

theorem length_scanNumber {negative : Bool} {text : List Char} {n : Numeral} {after : List Char}
    (h : scanNumber negative text = some (n, after)) : after.length < text.length := by
  simp only [scanNumber, Option.bind_eq_bind, Option.bind_eq_some_iff] at h
  obtain ⟨⟨_, _⟩, hwhole, ⟨_, _⟩, hfraction, ⟨_, _⟩, hexponent, h⟩ := h
  simp only [Option.some.injEq, Prod.mk.injEq] at h
  obtain ⟨_, rfl⟩ := h
  exact Nat.lt_of_le_of_lt
    (Nat.le_trans (length_scanExponent hexponent) (length_scanFraction hfraction))
    (length_scanWhole hwhole)

/-- A token takes at least its first character. -/
theorem length_scan {c : Char} {rest : List Char} {token : Token} {after : List Char}
    (h : scan c rest = some (token, after)) : after.length ≤ rest.length := by
  unfold scan at h
  split at h
  case h_7 =>
    simp only [Option.map_eq_some_iff, Prod.mk.injEq] at h
    obtain ⟨⟨_, _⟩, hscan, _, rfl⟩ := h
    exact Nat.le_of_lt (length_scanText hscan)
  case h_8 =>
    simp only [Option.map_eq_some_iff, Prod.mk.injEq] at h
    obtain ⟨⟨_, _⟩, hscan, _, rfl⟩ := h
    exact Nat.le_of_lt (length_scanNumber hscan)
  case h_12 =>
    simp only [Option.map_eq_some_iff, Prod.mk.injEq] at h
    obtain ⟨⟨_, _⟩, hscan, _, rfl⟩ := h
    exact Nat.le_of_lt_succ (length_scanNumber hscan)
  all_goals
    simp only [Option.some.injEq, Prod.mk.injEq] at h
    simp only [← h.2, List.length_cons]
    omega

/-- The tokens of a text, if it is made of tokens. -/
def ofText? : List Char → Option (List Token)
  | [] => some []
  | c :: rest =>
    if isSpace c then ofText? rest
    else
      match h : scan c rest with
      | none => none
      | some (token, after) =>
        have := length_scan h
        (ofText? after).map (token :: ·)
  termination_by text => text.length

end Token

end Viva.Json
