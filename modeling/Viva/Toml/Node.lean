import Viva.Toml.Value

/-! # Tables while they are put together

How a table came to be decides who may add to it. A table that the dots of a key made takes further
keys with dots, one that a header named or passed through takes the tables of further headers, and
a table in braces takes nothing. So no key is ever given twice.
-/

namespace Viva.Toml

inductive Node where
  /-- A value that is written out. -/
  | value (v : Value)
  /-- A table made by the dots of a key. -/
  | dotted (entries : List (String × Node))
  /-- A table of headers, and whether a header of its own has named it. -/
  | headed (isNamed : Bool) (entries : List (String × Node))
  /-- An array of tables with a header each; the last one stands apart from those before it. -/
  | headedMany (last : List (String × Node)) (before : List (List (String × Node)))
  deriving Inhabited

/-- Keys with what they lead to. -/
abbrev Entries := List (String × Node)

namespace Node

/-- Changes what a key leads to; `change` is told whether there is anything, and may refuse. -/
def edit (key : String) (change : Option Node → Option Node) : Entries → Option Entries
  | [] => (change none).map fun node => [(key, node)]
  | (other, node) :: rest =>
    if other = key then (change (some node)).map fun node => (key, node) :: rest
    else (edit key change rest).map ((other, node) :: ·)

/-- Puts a value at the end of the keys of a path. -/
def assign (v : Value) : List String → Option Node → Option Node
  | [], none => some (.value v)
  | key :: path, none => (edit key (assign v path) []).map .dotted
  | key :: path, some (.dotted entries) => (edit key (assign v path) entries).map .dotted
  | _, some _ => none

/-- The entries that paths and their values give. -/
def entriesOf (pairs : List (List String × Value)) : Option Entries :=
  pairs.foldlM (fun entries (path, v) =>
    match path with
    | [] => none
    | key :: path => edit key (assign v path) entries) []

/-- The entries of two lists, unless they have a key in common. -/
def disjoint (a b : Entries) : Option Entries :=
  if a.all fun (key, _) => (b.lookup key).isNone then some (a ++ b) else none

/-- Puts the entries under a header at the end of the header's path. With `isOneOfMany` they are one
    more table of an array. -/
def addSection (isOneOfMany : Bool) (own : Entries) : List String → Option Node → Option Node
  | [], none => some (if isOneOfMany then .headedMany own [] else .headed true own)
  | [], some (.headed false entries) =>
    if isOneOfMany then none else (disjoint entries own).map (.headed true)
  | [], some (.headedMany last before) =>
    if isOneOfMany then some (.headedMany own (last :: before)) else none
  | key :: path, none => (edit key (addSection isOneOfMany own path) []).map (.headed false)
  | key :: path, some (.headed isNamed entries) =>
    (edit key (addSection isOneOfMany own path) entries).map (.headed isNamed)
  | key :: path, some (.headedMany last before) =>
    (edit key (addSection isOneOfMany own path) last).map (.headedMany · before)
  | _, some _ => none

mutual
/-- The value that was put together. -/
def toValue : Node → Value
  | .value v => v
  | .dotted entries => .table (toTable entries)
  | .headed _ entries => .table (toTable entries)
  | .headedMany last before => .array (toTables before [.table (toTable last)])

/-- The values of some entries. -/
def toTable : Entries → List (String × Value)
  | [] => []
  | (key, node) :: rest => (key, toValue node) :: toTable rest

/-- Tables, last first, in front of further values. -/
def toTables : List Entries → List Value → List Value
  | [], after => after
  | entries :: before, after => toTables before (.table (toTable entries) :: after)
end

end Node

end Viva.Toml
