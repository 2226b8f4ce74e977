import Viva.Toml.Quoted

/-! # Tokens of TOML text

Text is cut into tokens without regard to what stands around them: a number with a point is a word,
a point and a word, and so is a key of two parts. Comments are no tokens. Space is one, because
some tokens have to touch each other.
-/

namespace Viva.Toml

open Quoted (isSpace isLineChar)

inductive Token where
  /-- Spaces and tabs, and whether they are just one space. -/
  | space (single : Bool)
  | newline
  | equals
  | point
  | comma
  | colon
  | plus
  | openArray
  | closeArray
  | openTable
  | closeTable
  /-- Letters, digits, underscores and hyphens. -/
  | word (chars : List Char)
  /-- What quotes hold, and whether they let it go over several lines. -/
  | quoted (chars : List Char) (isLong : Bool)
  deriving Repr, DecidableEq

namespace Token

/-- The characters of words. -/
def isWord (c : Char) : Bool := c.isAlphanum || c = '_' || c = '-'

/-- Lines that end in a carriage return and a line feed end in a line feed. -/
def foldLineEnds : List Char → List Char
  | [] => []
  | '\r' :: '\n' :: rest => '\n' :: foldLineEnds rest
  | c :: rest => c :: foldLineEnds rest

/-- The token that starts with `c`, and the text after it. -/
def scan (c : Char) (rest : List Char) : Option (Token × List Char) :=
  let ofQuotes (found : Quoted.Found) : Option (Token × List Char) :=
    found.map fun ((chars, isLong), after) => (.quoted chars isLong, after)
  match c with
  | '\n' => some (.newline, rest)
  | '=' => some (.equals, rest)
  | '.' => some (.point, rest)
  | ',' => some (.comma, rest)
  | ':' => some (.colon, rest)
  | '+' => some (.plus, rest)
  | '[' => some (.openArray, rest)
  | ']' => some (.closeArray, rest)
  | '{' => some (.openTable, rest)
  | '}' => some (.closeTable, rest)
  | '"' => ofQuotes (Quoted.scan '"' Quoted.scanBasic (Quoted.scanLongBasic false) rest)
  | '\'' => ofQuotes (Quoted.scan '\'' Quoted.scanLiteral Quoted.scanLongLiteral rest)
  | c =>
    if isSpace c then
      some (.space (c = ' ' && !(rest.head?.any isSpace)), rest.dropWhile isSpace)
    else if isWord c then some (.word (c :: rest.takeWhile isWord), rest.dropWhile isWord)
    else none

/-- A token takes at least its first character. -/
theorem length_scan {c : Char} {rest : List Char} {token : Token} {after : List Char}
    (h : scan c rest = some (token, after)) : after.length ≤ rest.length := by
  have space := (List.dropWhile_sublist isSpace (l := rest)).length_le
  have word := (List.dropWhile_sublist isWord (l := rest)).length_le
  unfold scan at h
  split at h
  case h_11 =>
    obtain ⟨⟨_, _⟩, hrest, h⟩ := Option.map_eq_some_iff.1 h
    have := Quoted.length_scan Quoted.length_scanBasic Quoted.length_scanLongBasic hrest
    simp_all
    omega
  case h_12 =>
    obtain ⟨⟨_, _⟩, hrest, h⟩ := Option.map_eq_some_iff.1 h
    have := Quoted.length_scan Quoted.length_scanLiteral Quoted.length_scanLongLiteral hrest
    simp_all
    omega
  case h_13 =>
    split at h
    · simp only [Option.some.injEq, Prod.mk.injEq] at h
      simp only [← h.2, space]
    · split at h
      · simp only [Option.some.injEq, Prod.mk.injEq] at h
        simp only [← h.2, word]
      · simp at h
  all_goals
    simp only [Option.some.injEq, Prod.mk.injEq] at h
    simp [h.2]

/-- The tokens of a text whose lines end in line feeds. -/
def ofChars? : List Char → Option (List Token)
  | [] => some []
  | '#' :: rest => ofChars? (rest.dropWhile isLineChar)
  | c :: rest =>
    match _h : scan c rest with
    | none => none
    | some (token, after) => (ofChars? after).map (token :: ·)
termination_by text => text.length
decreasing_by
  · have := (List.dropWhile_sublist isLineChar (l := rest)).length_le
    simp only [List.length_cons]
    omega
  · have := length_scan _h
    simp only [List.length_cons]
    omega

/-- A mark that a text may start with. -/
def byteOrderMark : Char := '\uFEFF'

/-- The tokens of a document. -/
def ofText? (text : String) : Option (List Token) :=
  match text.toList with
  | [] => some []
  | c :: rest => ofChars? (foldLineEnds (if c = byteOrderMark then rest else c :: rest))

end Token

end Viva.Toml
