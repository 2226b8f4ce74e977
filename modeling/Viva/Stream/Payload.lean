import Viva.Json.Numeral

/-! # Reading the data of an event

An event's data are a JSON object, or an array that holds the fields in their order. A field may
have a second name. A field given twice, under whichever names, is refused; members of other names
are passed over without a look at their values. Fields that are absent have a default, or make the
data unreadable.
-/

namespace Viva.Payload

open Json (Tree Piece Numeral)

/-- A field's names: the one it is written under, and others it is read under. -/
abbrev Names := List String

/-- The place of the field that a name belongs to. -/
def fieldIndex? (fields : List Names) (name : String) : Option Nat :=
  fields.findIdx? (·.contains name)

/-- Puts the members of an object to their fields; a field that already has a value is refused, and
    so is a name that has no text. -/
def collect? (fields : List Names) :
    List (List Piece × Tree) → List (Option Tree) → Option (List (Option Tree))
  | [], found => some found
  | (name, value) :: rest, found => do
    let name ← Json.textOf? name
    match fieldIndex? fields (String.ofList name) with
    | none => collect? fields rest found
    | some i =>
      match found[i]? with
      | some none => collect? fields rest (found.set i (some value))
      | _ => none

/-- The values of the fields, in their order. -/
def fields? (fields : List Names) : Tree → Option (List (Option Tree))
  | .object members => collect? fields members (fields.map fun _ => none)
  | .array items =>
    if items.length ≤ fields.length then
      some (items.map some ++ List.replicate (fields.length - items.length) none)
    else none
  | _ => none

/-- How deep the value of an identifier may be nested. -/
def depthLimit : Nat := 126

/-- A text that has to be there. -/
def requiredText? : Option Tree → Option String
  | some value => value.text?
  | none => none

/-- A text that may be absent or null. -/
def optionalText? : Option Tree → Option (Option String)
  | none | some .null => some none
  | some value => value.text?.map some

/-- A truth value that may be absent. -/
def optionalBool? (default : Bool) : Option Tree → Option Bool
  | none => some default
  | some (.bool value) => some value
  | some _ => none

/-- An identifier. It is written as a text or a number; any other value that is sound counts as
    absent. -/
def identifier? : Option Tree → Option (Option String)
  | none => some none
  | some (.number n) => n.text?.map some
  | some (.string pieces) => (Json.textOf? pieces).map fun cs => some (String.ofList cs)
  | some value =>
    if value.depth ≤ depthLimit && value.isSound fun n => n.text?.isSome then some none else none

end Viva.Payload
