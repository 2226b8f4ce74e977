import Viva.Json.Token

/-! # Quoted text in TOML

Text in double quotes has escapes, text in single quotes has none. Three quotes instead of one let
text go over several lines. Each reader takes the text after the opening quotes and gives what the
quotes hold together with the text after the closing ones.
-/

namespace Viva.Toml.Quoted

/-- The characters between the words of a line. -/
def isSpace (c : Char) : Bool := c = ' ' || c = '\t'

/-- The characters that may be in a line: all but control characters, the tab excepted. -/
def isLineChar (c : Char) : Bool := c = '\t' || 0x20 ≤ c.toNat

/-- The characters that may be between quotes. -/
def isTextChar (c : Char) : Bool := isLineChar c && c.toNat != 0x7F

/-- The character that some hexadecimal digits write. -/
def charOfHex? (digits : List Char) : Option Char := do
  let n ← digits.foldlM (fun n c => (Json.Token.hexDigit? c).map (n * 16 + ·)) 0
  if h : n.isValidChar then some (Char.ofNatAux n h) else none

/-- The character that an escape writes, and how many characters after the backslash it takes. -/
def escape? : List Char → Option (Char × Nat)
  | '"' :: _ => some ('"', 1)
  | '\\' :: _ => some ('\\', 1)
  | 'b' :: _ => some ('\x08', 1)
  | 'f' :: _ => some ('\x0c', 1)
  | 'n' :: _ => some ('\n', 1)
  | 'r' :: _ => some ('\r', 1)
  | 't' :: _ => some ('\t', 1)
  | 'u' :: rest => if 4 ≤ rest.length then (charOfHex? (rest.take 4)).map (·, 5) else none
  | 'U' :: rest => if 8 ≤ rest.length then (charOfHex? (rest.take 8)).map (·, 9) else none
  | _ => none

/-- Text up to a double quote. -/
def scanBasic : List Char → Option (List Char × List Char)
  | [] => none
  | '"' :: rest => some ([], rest)
  | '\\' :: rest => do
    let (c, size) ← escape? rest
    let (text, after) ← scanBasic (rest.drop size)
    some (c :: text, after)
  | c :: rest =>
    if isTextChar c then (scanBasic rest).map fun (text, after) => (c :: text, after) else none
termination_by text => text.length
decreasing_by
  · simp only [List.length_drop, List.length_cons]
    omega
  · simp

/-- Text up to a single quote. -/
def scanLiteral : List Char → Option (List Char × List Char)
  | [] => none
  | '\'' :: rest => some ([], rest)
  | c :: rest =>
    if isTextChar c then (scanLiteral rest).map fun (text, after) => (c :: text, after) else none

/-- The line ends here, but for space. -/
def isLineEnd (text : List Char) : Bool :=
  (text.dropWhile isSpace).head? == some '\n'

/-- Text over several lines up to three double quotes; of four or five the first belong to the
    text. A backslash at the end of a line takes out all space and line ends after it, and
    `skipping` says that this is going on. -/
def scanLongBasic (skipping : Bool) : List Char → Option (List Char × List Char)
  | [] => none
  | '"' :: '"' :: '"' :: '"' :: '"' :: rest => some (['"', '"'], rest)
  | '"' :: '"' :: '"' :: '"' :: rest => some (['"'], rest)
  | '"' :: '"' :: '"' :: rest => some ([], rest)
  | '\\' :: rest =>
    if isLineEnd rest then scanLongBasic true rest
    else do
      let (c, size) ← escape? rest
      let (text, after) ← scanLongBasic false (rest.drop size)
      some (c :: text, after)
  | c :: rest =>
    if skipping && (isSpace c || c = '\n') then scanLongBasic true rest
    else if isTextChar c || c = '\n' then
      (scanLongBasic false rest).map fun (text, after) => (c :: text, after)
    else none
termination_by text => text.length
decreasing_by
  · simp
  · simp only [List.length_drop, List.length_cons]
    omega
  · simp
  · simp

/-- Text over several lines up to three single quotes; of four or five the first belong to the
    text. -/
def scanLongLiteral : List Char → Option (List Char × List Char)
  | [] => none
  | '\'' :: '\'' :: '\'' :: '\'' :: '\'' :: rest => some (['\'', '\''], rest)
  | '\'' :: '\'' :: '\'' :: '\'' :: rest => some (['\''], rest)
  | '\'' :: '\'' :: '\'' :: rest => some ([], rest)
  | c :: rest =>
    if isTextChar c || c = '\n' then
      (scanLongLiteral rest).map fun (text, after) => (c :: text, after)
    else none

/-- A line end right after three opening quotes does not count. -/
def dropLineEnd : List Char → List Char
  | '\n' :: rest => rest
  | text => text

theorem length_scanBasic {text chars after : List Char}
    (h : scanBasic text = some (chars, after)) : after.length < text.length := by
  fun_induction scanBasic text generalizing chars after with
  | case1 => simp at h
  | case2 rest => simp_all
  | case3 rest ih =>
    simp only [Option.bind_eq_bind, Option.bind_eq_some_iff] at h
    obtain ⟨⟨_, size⟩, _, ⟨_, _⟩, hrest, h⟩ := h
    have := ih size hrest
    simp only [Option.some.injEq, Prod.mk.injEq, List.length_drop, List.length_cons] at *
    obtain ⟨_, rfl⟩ := h
    omega
  | case4 c rest _ _ _ ih =>
    obtain ⟨⟨_, _⟩, hrest, h⟩ := Option.map_eq_some_iff.1 h
    have := ih hrest
    simp_all
    omega
  | case5 => simp at h

theorem length_scanLiteral {text chars after : List Char}
    (h : scanLiteral text = some (chars, after)) : after.length < text.length := by
  fun_induction scanLiteral text generalizing chars after with
  | case1 => simp at h
  | case2 rest => simp_all
  | case3 c rest _ _ ih =>
    obtain ⟨⟨_, _⟩, hrest, h⟩ := Option.map_eq_some_iff.1 h
    have := ih hrest
    simp_all
    omega
  | case4 => simp at h

theorem length_scanLongBasic {skipping : Bool} {text chars after : List Char}
    (h : scanLongBasic skipping text = some (chars, after)) : after.length < text.length := by
  fun_induction scanLongBasic skipping text generalizing chars after with
  | case1 => simp at h
  | case2 | case3 | case4 =>
    simp only [Option.some.injEq, Prod.mk.injEq] at h
    simp only [← h.2, List.length_cons]
    omega
  | case5 skipping rest _ ih =>
    have := ih h
    simp only [List.length_cons]
    omega
  | case6 skipping rest _ ih =>
    simp only [Option.bind_eq_bind, Option.bind_eq_some_iff] at h
    obtain ⟨⟨_, size⟩, _, ⟨_, _⟩, hrest, h⟩ := h
    have := ih size hrest
    simp only [Option.some.injEq, Prod.mk.injEq, List.length_drop, List.length_cons] at *
    obtain ⟨_, rfl⟩ := h
    omega
  | case7 skipping c rest _ _ _ _ _ ih =>
    have := ih h
    simp only [List.length_cons]
    omega
  | case8 skipping c rest _ _ _ _ _ _ ih =>
    obtain ⟨⟨_, _⟩, hrest, h⟩ := Option.map_eq_some_iff.1 h
    have := ih hrest
    simp_all
    omega
  | case9 => simp at h

theorem length_scanLongLiteral {text chars after : List Char}
    (h : scanLongLiteral text = some (chars, after)) : after.length < text.length := by
  fun_induction scanLongLiteral text generalizing chars after with
  | case1 => simp at h
  | case2 | case3 | case4 =>
    simp only [Option.some.injEq, Prod.mk.injEq] at h
    simp only [← h.2, List.length_cons]
    omega
  | case5 c rest _ _ _ _ ih =>
    obtain ⟨⟨_, _⟩, hrest, h⟩ := Option.map_eq_some_iff.1 h
    have := ih hrest
    simp_all
    omega
  | case6 => simp at h

theorem length_dropLineEnd (text : List Char) : (dropLineEnd text).length ≤ text.length := by
  unfold dropLineEnd
  split <;> simp

/-- What a reader found, marked as text over one line or several. -/
abbrev Found := Option ((List Char × Bool) × List Char)

/-- Text after its first quote, read by the reader for one line or, after three quotes, by the one
    for several lines. -/
def scan (quote : Char) (short long : List Char → Option (List Char × List Char))
    (text : List Char) : Found :=
  match text with
  | a :: b :: rest =>
    if a = quote && b = quote then
      (long (dropLineEnd rest)).map fun (chars, after) => ((chars, true), after)
    else (short text).map fun (chars, after) => ((chars, false), after)
  | _ => (short text).map fun (chars, after) => ((chars, false), after)

theorem length_scan {quote : Char} {short long : List Char → Option (List Char × List Char)}
    (hshort : ∀ {text chars after}, short text = some (chars, after) → after.length < text.length)
    (hlong : ∀ {text chars after}, long text = some (chars, after) → after.length < text.length)
    {text after : List Char} {found : List Char × Bool}
    (h : scan quote short long text = some (found, after)) : after.length < text.length := by
  unfold scan at h
  split at h
  · rename_i a b rest
    split at h
    · obtain ⟨⟨_, _⟩, hrest, h⟩ := Option.map_eq_some_iff.1 h
      have := hlong hrest
      have := length_dropLineEnd rest
      simp only [Prod.mk.injEq, List.length_cons] at *
      obtain ⟨_, rfl⟩ := h
      omega
    · obtain ⟨⟨_, _⟩, hrest, h⟩ := Option.map_eq_some_iff.1 h
      have := hshort hrest
      simp_all
  · obtain ⟨⟨_, _⟩, hrest, h⟩ := Option.map_eq_some_iff.1 h
    have := hshort hrest
    simp_all

end Viva.Toml.Quoted
