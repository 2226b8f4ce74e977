import Viva.Json.Tree

/-! # Strings in quotes

A string is written with a short escape for every character that has one, with a `\u` escape for
every other control character, and with everything else as it is. Reading it gives the string back,
whatever it holds, and no line ends in what is written.
-/

namespace Viva.Json

/-- The letter of a character's short escape. -/
def shortEscape? : Char → Option Char
  | '"' => some '"'
  | '\\' => some '\\'
  | '\x08' => some 'b'
  | '\x0c' => some 'f'
  | '\n' => some 'n'
  | '\r' => some 'r'
  | '\t' => some 't'
  | _ => none

/-- A character inside quotes. -/
def escape (c : Char) : List Char :=
  match shortEscape? c with
  | some letter => ['\\', letter]
  | none =>
    if c.toNat < 0x20 then
      ['\\', 'u', '0', '0', Nat.digitChar (c.toNat / 16), Nat.digitChar (c.toNat % 16)]
    else [c]

/-- A string in quotes. -/
def quote (s : String) : String :=
  String.ofList ('"' :: s.toList.flatMap escape ++ ['"'])

/-- The piece that a character inside quotes is read as. -/
def pieceOf (c : Char) : Piece :=
  if shortEscape? c = none ∧ c.toNat < 0x20 then .unit c.toNat else .char c

/-! ## Pieces stand for their characters -/

theorem textOf?_pieceOf (c : Char) (rest : List Piece) :
    textOf? (pieceOf c :: rest) = (textOf? rest).map (c :: ·) := by
  unfold pieceOf
  split
  · rename_i control
    have low : ¬(0xD800 ≤ c.toNat ∧ c.toNat ≤ 0xDBFF) := by omega
    have high : ¬(0xDC00 ≤ c.toNat ∧ c.toNat ≤ 0xDFFF) := by omega
    have half : ¬(0xD800 ≤ c.toNat ∧ c.toNat ≤ 0xDFFF) := by omega
    cases rest with
    | nil => simp only [textOf?, half, if_false, Char.ofNat_toNat]
    | cons piece rest =>
        cases piece <;> simp only [textOf?, low, high, half, if_false, Char.ofNat_toNat]
  · rfl

theorem textOf?_map_pieceOf (cs : List Char) : textOf? (cs.map pieceOf) = some cs := by
  induction cs with
  | nil => rfl
  | cons c rest ih => rw [List.map_cons, textOf?_pieceOf, ih, Option.map_some]

/-! ## Escapes are read -/

theorem hexDigit?_digitChar : ∀ n < 16, Token.hexDigit? (Nat.digitChar n) = some n := by
  decide

/-- A short escape is that of the character. -/
theorem escaped?_of_shortEscape? {c letter : Char} (short : shortEscape? c = some letter) :
    Token.escaped? letter = some c := by
  unfold shortEscape? at short
  split at short <;> cases short <;> rfl

theorem scanText_escape (c : Char) (rest : List Char) :
    Token.scanText (escape c ++ rest) =
      (Token.scanText rest).map fun (pieces, after) => (pieceOf c :: pieces, after) := by
  cases short : shortEscape? c with
  | some letter =>
      have named := escaped?_of_shortEscape? short
      have notUnit : letter ≠ 'u' := by
        rintro rfl
        cases named
      simp only [escape, short, pieceOf, reduceCtorEq, false_and, if_false, List.cons_append,
        List.nil_append]
      rw [Token.scanText.eq_4 _ _ fun _ _ _ _ _ isUnit => absurd isUnit notUnit, named]
      cases Token.scanText rest <;> rfl
  | none =>
      simp only [escape, short, pieceOf, true_and]
      split
      · rename_i control
        have upper := hexDigit?_digitChar (c.toNat / 16) (by omega)
        have lower := hexDigit?_digitChar (c.toNat % 16) (by omega)
        have unit : Token.hexUnit? '0' '0' (Nat.digitChar (c.toNat / 16))
            (Nat.digitChar (c.toNat % 16)) = some c.toNat := by
          have zero : Token.hexDigit? '0' = some 0 := rfl
          rw [Token.hexUnit?, zero, upper, lower]
          exact congrArg some (by omega)
        rw [List.cons_append, List.cons_append, List.cons_append, List.cons_append,
          List.cons_append, List.cons_append, List.nil_append, Token.scanText.eq_3, unit]
        cases Token.scanText rest <;> rfl
      · rename_i plain
        have notQuote : c ≠ '"' := by
          rintro rfl
          cases short
        have notEscape : c ≠ '\\' := by
          rintro rfl
          cases short
        rw [List.singleton_append, Token.scanText.eq_5 _ _ notQuote
          (fun _ _ _ _ _ isEscape => absurd isEscape notEscape)
          (fun _ _ isEscape => absurd isEscape notEscape), if_neg (not_or.mpr ⟨notEscape, plain⟩)]
        cases Token.scanText rest <;> rfl

/-- What is in quotes is read to the closing quote. -/
theorem scanText_quoted (cs rest : List Char) :
    Token.scanText (cs.flatMap escape ++ '"' :: rest) = some (cs.map pieceOf, rest) := by
  induction cs with
  | nil => simp [Token.scanText]
  | cons c cs ih =>
      rw [List.flatMap_cons, List.append_assoc, scanText_escape, ih]
      rfl

theorem toList_quote (s : String) :
    (quote s).toList = '"' :: (s.toList.flatMap escape ++ ['"']) :=
  String.toList_ofList

/-- A text that is no space begins with the token that its first character begins. -/
theorem ofText?_scan {c : Char} {rest after : List Char} {token : Token}
    (solid : Token.isSpace c = false) (scanned : Token.scan c rest = some (token, after)) :
    Token.ofText? (c :: rest) = (Token.ofText? after).map (token :: ·) := by
  rw [Token.ofText?, solid]
  simp only [Bool.false_eq_true, if_false]
  split
  · rename_i nothing
    cases nothing.symm.trans scanned
  · rename_i found
    cases found.symm.trans scanned
    rfl

/-- A string in quotes is one token. -/
theorem ofText?_quote (s : String) (rest : List Char) :
    Token.ofText? ((quote s).toList ++ rest) =
      (Token.ofText? rest).map (.string (s.toList.map pieceOf) :: ·) := by
  have scanned : Token.scan '"' (s.toList.flatMap escape ++ '"' :: rest) =
      some (.string (s.toList.map pieceOf), rest) := by
    simp only [Token.scan, scanText_quoted, Option.map_some]
  rw [toList_quote, List.cons_append, List.append_assoc, List.singleton_append]
  exact ofText?_scan rfl scanned

example : Token.ofText? (quote "/\"\n\x01").toList =
    some [.string [.char '/', .char '"', .char '\n', .unit 1]] := by
  decide +kernel

/-! ## Nothing in quotes ends a line -/

theorem digitChar_ne_newline : ∀ n < 16, Nat.digitChar n ≠ '\n' := by
  decide

theorem newline_not_mem_escape (c : Char) : '\n' ∉ escape c := by
  unfold escape
  split
  · rename_i letter short
    have notNewline : letter ≠ '\n' := by
      rintro rfl
      cases escaped?_of_shortEscape? short
    simpa using notNewline.symm
  · rename_i short
    split
    · have upper := digitChar_ne_newline (c.toNat / 16) (by omega)
      have lower := digitChar_ne_newline (c.toNat % 16) (by omega)
      simp [upper.symm, lower.symm]
    · have notNewline : c ≠ '\n' := by
        rintro rfl
        cases short
      simpa using notNewline.symm

theorem newline_not_mem_quote (s : String) : '\n' ∉ (quote s).toList := by
  simp [toList_quote, newline_not_mem_escape]

end Viva.Json
