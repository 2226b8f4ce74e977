import Viva.Json.Token

/-! # JSON values as they are written

A tree keeps the order of members, members that are written twice, and the written form of strings
and numbers. It is put together from tokens one at a time: the state between two tokens is the list
of arrays and objects still open, innermost first.
-/

namespace Viva.Json

inductive Tree where
  | null
  | bool (value : Bool)
  | number (value : Numeral)
  | string (value : List Piece)
  | array (items : List Tree)
  | object (members : List (List Piece × Tree))
  deriving Repr, Inhabited

/-- An array or object that is still open; what it holds so far stands last first. -/
inductive Opened where
  | array (items : List Tree)
  /-- An object, and the name of the member whose value is open. -/
  | object (members : List (List Piece × Tree)) (name : List Piece)
  deriving Repr

/-- What may come next. -/
inductive Expected where
  /-- A value. -/
  | value
  /-- The first item of an array, or its end. -/
  | firstItem
  /-- The first name of an object, or its end. -/
  | firstName
  /-- The name of a further member of an object with these members. -/
  | name (members : List (List Piece × Tree))
  /-- The colon after a name. -/
  | colon
  /-- A comma or the end of what is open; at the outermost level, nothing. -/
  | comma (last : Tree)
  deriving Repr

/-- The state between two tokens. -/
structure Builder where
  opened : List Opened := []
  expected : Expected := .value
  deriving Repr

namespace Builder

/-- A token that a value may start with. -/
def startValue (opened : List Opened) : Token → Option Builder
  | .null => some ⟨opened, .comma .null⟩
  | .bool value => some ⟨opened, .comma (.bool value)⟩
  | .number value => some ⟨opened, .comma (.number value)⟩
  | .string value => some ⟨opened, .comma (.string value)⟩
  | .openArray => some ⟨.array [] :: opened, .firstItem⟩
  | .openObject => some ⟨opened, .firstName⟩
  | _ => none

/-- A token after a whole value. -/
def afterValue (last : Tree) : List Opened → Token → Option Builder
  | .array items :: opened, .comma => some ⟨.array (last :: items) :: opened, .value⟩
  | .array items :: opened, .closeArray =>
    some ⟨opened, .comma (.array (last :: items).reverse)⟩
  | .object members name :: opened, .comma => some ⟨opened, .name ((name, last) :: members)⟩
  | .object members name :: opened, .closeObject =>
    some ⟨opened, .comma (.object ((name, last) :: members).reverse)⟩
  | _, _ => none

/-- The state after one more token, if that token may come next. -/
def step (builder : Builder) (token : Token) : Option Builder :=
  match builder.expected, token with
  | .value, token => startValue builder.opened token
  | .firstItem, .closeArray => some ⟨builder.opened.drop 1, .comma (.array [])⟩
  | .firstItem, token => startValue builder.opened token
  | .firstName, .closeObject => some ⟨builder.opened, .comma (.object [])⟩
  | .firstName, .string name => some ⟨.object [] name :: builder.opened, .colon⟩
  | .firstName, _ => none
  | .name members, .string name => some ⟨.object members name :: builder.opened, .colon⟩
  | .name _, _ => none
  | .colon, .colon => some ⟨builder.opened, .value⟩
  | .colon, _ => none
  | .comma last, token => afterValue last builder.opened token

/-- The state after some more tokens. -/
def run (builder : Builder) : List Token → Option Builder
  | [] => some builder
  | token :: rest => (builder.step token).bind (·.run rest)

/-- The value that is complete, when nothing is open any more. -/
def result? : Builder → Option Tree
  | ⟨[], .comma value⟩ => some value
  | _ => none

end Builder

namespace Tree

/-- The value that some tokens write. -/
def ofTokens? (tokens : List Token) : Option Tree :=
  (Builder.run {} tokens).bind Builder.result?

/-- The value that a text writes. -/
def ofText? (text : List Char) : Option Tree :=
  (Token.ofText? text).bind ofTokens?

end Tree

/-- The text that a written string stands for. A `\u` escape for half of a surrogate pair has to be
    followed by the one for the other half. -/
def textOf? : List Piece → Option (List Char)
  | [] => some []
  | .char c :: rest => (textOf? rest).map (c :: ·)
  | .unit high :: .unit low :: rest =>
    if 0xD800 ≤ high ∧ high ≤ 0xDBFF then
      if 0xDC00 ≤ low ∧ low ≤ 0xDFFF then
        (textOf? rest).map
          (Char.ofNat (0x10000 + (high - 0xD800) * 0x400 + (low - 0xDC00)) :: ·)
      else none
    else if 0xDC00 ≤ high ∧ high ≤ 0xDFFF then none
    else (textOf? (.unit low :: rest)).map (Char.ofNat high :: ·)
  | .unit n :: rest =>
    if 0xD800 ≤ n ∧ n ≤ 0xDFFF then none
    else (textOf? rest).map (Char.ofNat n :: ·)

namespace Tree

mutual
/-- How many arrays and objects enclose the innermost value, itself included. -/
def depth : Tree → Nat
  | .array items => depthOfItems items + 1
  | .object members => depthOfMembers members + 1
  | _ => 0

/-- The greatest depth of some items. -/
def depthOfItems : List Tree → Nat
  | [] => 0
  | item :: rest => max (depth item) (depthOfItems rest)

/-- The greatest depth of some members. -/
def depthOfMembers : List (List Piece × Tree) → Nat
  | [] => 0
  | (_, value) :: rest => max (depth value) (depthOfMembers rest)
end

mutual
/-- Every string in the value has a text, and every number in it passes `isNumber`. -/
def isSound (isNumber : Numeral → Bool) : Tree → Bool
  | .null | .bool _ => true
  | .number n => isNumber n
  | .string value => (textOf? value).isSome
  | .array items => areSoundItems isNumber items
  | .object members => areSoundMembers isNumber members

/-- Every item is sound. -/
def areSoundItems (isNumber : Numeral → Bool) : List Tree → Bool
  | [] => true
  | item :: rest => isSound isNumber item && areSoundItems isNumber rest

/-- Every member's name has a text, and its value is sound. -/
def areSoundMembers (isNumber : Numeral → Bool) : List (List Piece × Tree) → Bool
  | [] => true
  | (name, value) :: rest =>
    (textOf? name).isSome && isSound isNumber value && areSoundMembers isNumber rest
end

/-- The text of a string value. -/
def text? : Tree → Option String
  | .string value => (textOf? value).map String.ofList
  | _ => none

end Tree

end Viva.Json
