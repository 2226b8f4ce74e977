import Viva.Settings.Value

/-! # Paths to settings

A name like `recording.video` or `servers[0].url` leads through tables and lists to one setting.
What is in the way and is neither table nor list gives way to one.
-/

namespace Viva.Settings

/-- One step on the way to a setting. -/
inductive Step where
  | key (name : String)
  /-- An item of a list; a negative number counts from its end. -/
  | index (i : Int)
  deriving Repr, DecidableEq

namespace Step

/-- The characters of a key in a path. -/
def isNameChar (c : Char) : Bool := c.isAlphanum || c = ' ' || c = '_' || c = '-'

/-- The number between brackets. -/
def index? (text : List Char) : Option Int :=
  let isSpace (c : Char) : Bool := c = ' ' || c = '\t'
  let inner := ((text.dropWhile isSpace).reverse.dropWhile isSpace).reverse
  let (negative, digits) := match inner with
    | '-' :: rest => (true, rest)
    | rest => (false, rest)
  if digits.isEmpty || !digits.all Char.isDigit then none
  else
    let n : Nat := digits.foldl (fun n c => n * 10 + (c.toNat - 0x30)) 0
    if n < Nat.pow 2 63 then some (if negative then -(n : Int) else n) else none

/-- The steps after the first key of a path. -/
def ofChars? : List Char → Option (List Step)
  | [] => some []
  | '.' :: rest =>
    let name := rest.takeWhile isNameChar
    if name.isEmpty then none
    else (ofChars? (rest.dropWhile isNameChar)).map (key (String.ofList name) :: ·)
  | '[' :: rest => do
    let i ← index? (rest.takeWhile (· != ']'))
    let steps ← ofChars? (rest.dropWhile (· != ']')).tail
    if rest.contains ']' then some (index i :: steps) else none
  | _ => none
termination_by text => text.length
decreasing_by
  · have := (List.dropWhile_sublist isNameChar (l := rest)).length_le
    simp only [List.length_cons]
    omega
  · have := (List.dropWhile_sublist (· != ']') (l := rest)).length_le
    simp only [List.length_tail, List.length_cons]
    omega

/-- The steps of a path. A text that is no path is a key as a whole. -/
def ofText (path : String) : List Step :=
  let name := path.toList.takeWhile isNameChar
  let steps := ofChars? (path.toList.dropWhile isNameChar)
  match name, steps with
  | c :: rest, some steps => key (String.ofList (c :: rest)) :: steps
  | _, _ => [key path]

end Step

namespace Value

/-- The place in a list of this length, unless it is before the start. -/
def place? (length : Nat) (i : Int) : Option Nat :=
  let n := if 0 ≤ i then i else length + i
  if 0 ≤ n then some n.toNat else none

/-- The value with another one merged in at the end of some steps. An item of a list is replaced as
    a whole. -/
def set (v : Value) : List Step → Option Value → Value
  | [], old => merge old v
  | .key name :: steps, old =>
    let entries := (old.getD absent).entries
    table (put name (set v steps (entries.lookup name)) entries)
  | .index i :: steps, old =>
    let items := (old.getD absent).items
    match place? items.length i with
    | none => list items
    | some n =>
      let items := items ++ List.replicate (n + 1 - items.length) absent
      list (items.set n (set v steps (if steps.isEmpty then none else items[n]?)))

end Value

end Viva.Settings
