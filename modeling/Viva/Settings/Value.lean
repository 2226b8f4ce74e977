import Viva.Toml.Value

/-! # Values of settings

What a setting may be before anyone asks what it should be. Tables are merged key by key; everything
else replaces what was there.
-/

namespace Viva.Settings

inductive Value where
  /-- Nothing: an item of a list that only a later item brought about. -/
  | absent
  | flag (b : Bool)
  | integer (n : Int)
  | number (x : Float)
  | text (s : String)
  | list (items : List Value)
  | table (entries : List (String × Value))
  deriving Repr, Inhabited

namespace Value

/-- The entries of a table; anything else has none. -/
def entries : Value → List (String × Value)
  | table entries => entries
  | _ => []

/-- The items of a list; anything else has none. -/
def items : Value → List Value
  | list items => items
  | _ => []

/-- Entries with a value at a key, instead of what was there. -/
def put (key : String) (v : Value) : List (String × Value) → List (String × Value)
  | [] => [(key, v)]
  | (other, old) :: rest =>
    if other = key then (key, v) :: rest else (other, old) :: put key v rest

mutual
/-- A value in place of another. Of two tables all keys are kept, and an empty table replaces
    nothing. -/
def merge (old : Option Value) : Value → Value
  | table entries => mergeEntries (old.getD (table [])) entries
  | v => v

/-- A value with further entries. -/
def mergeEntries (target : Value) : List (String × Value) → Value
  | [] => target
  | (key, v) :: rest =>
    let merged := merge (target.entries.lookup key) v
    mergeEntries (table (put key merged target.entries)) rest
end

mutual
/-- The value that a document gives. A moment is its text. -/
def ofToml : Toml.Value → Value
  | .string s => text s
  | .integer n => integer n
  | .number x => number x
  | .boolean b => flag b
  | .moment m => text m.text
  | .array items => list (ofTomlItems items)
  | .table entries => table (ofTomlEntries entries)

/-- The values that some items of a document give. -/
def ofTomlItems : List Toml.Value → List Value
  | [] => []
  | v :: rest => ofToml v :: ofTomlItems rest

/-- The values that some entries of a document give. -/
def ofTomlEntries : List (String × Toml.Value) → List (String × Value)
  | [] => []
  | (key, v) :: rest => (key, ofToml v) :: ofTomlEntries rest
end

end Value

end Viva.Settings
