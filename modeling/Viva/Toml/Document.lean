import Viva.Toml.Line

/-! # Documents

The lines up to the first header give the outermost table its values, and the lines after a header
give theirs to the table that the header names.
-/

namespace Viva.Toml

/-- A header with the values under it. -/
structure Section where
  isOneOfMany : Bool
  path : List String
  pairs : List (List String × Value)

namespace Document

/-- The values up to the first header, and the sections from there on. -/
def sections : List Line → List (List String × Value) × List Section
  | [] => ([], [])
  | .pair path v :: rest =>
    let (pairs, later) := sections rest
    ((path, v) :: pairs, later)
  | .header isOneOfMany path :: rest =>
    let (pairs, later) := sections rest
    ([], ⟨isOneOfMany, path, pairs⟩ :: later)

/-- Adds a section to a document. -/
def addSection (document : Entries) (s : Section) : Option Entries := do
  let own ← Node.entriesOf s.pairs
  match s.path with
  | [] => none
  | key :: path => Node.edit key (Node.addSection s.isOneOfMany own path) document

/-- The table that a document writes, unless it is no document or gives a key twice. -/
def ofText? (text : String) : Option (List (String × Value)) := do
  let tokens ← Token.ofText? text
  let lines ← Line.ofTokens? tokens
  let (pairs, later) := sections lines
  let entries ← later.foldlM addSection (← Node.entriesOf pairs)
  some (Node.toTable entries)

end Document

end Viva.Toml
