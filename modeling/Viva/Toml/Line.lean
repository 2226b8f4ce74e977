import Viva.Toml.Node
import Viva.Toml.Scalar
import Viva.Toml.Token

/-! # Lines of a document

A line is a header or a key with its value. Lines are put together from tokens one at a time: the
state between two tokens is the key or value that is being read, and the arrays and tables around
it, innermost first. Only an array goes over several lines.
-/

namespace Viva.Toml

inductive Line where
  /-- A header, in single brackets or, for one of many tables, in double ones. -/
  | header (isOneOfMany : Bool) (path : List String)
  | pair (path : List String) (value : Value)
  deriving Inhabited

/-- What the key that is being read is for. -/
inductive KeyUse where
  | header (isOneOfMany : Bool)
  /-- The value of a line. -/
  | line
  /-- A further value of a table in braces that holds these already, last first. -/
  | table (pairs : List (List String × Value))

/-- What the value that is being read is for. -/
inductive Around where
  /-- The value of a line with this key. -/
  | line (path : List String)
  /-- An item of an array after these, last first. -/
  | array (items : List Value)
  /-- A value of a table in braces with this key, after these, last first. -/
  | table (pairs : List (List String × Value)) (path : List String)

/-- What may come next. -/
inductive Expected where
  | lineStart
  | lineEnd
  /-- A key or a second bracket, right after the first bracket of a header. -/
  | headerStart
  /-- The second closing bracket of a header. -/
  | headerEnd (path : List String)
  /-- The next part of a key, after these, last first. -/
  | keyPart (use : KeyUse) (path : List String)
  /-- A point, or what ends the key; its parts stand last first. -/
  | keyEnd (use : KeyUse) (path : List String)
  /-- The first key of a table in braces, or its end. -/
  | tableStart
  | value
  /-- More of a value without quotes and brackets. -/
  | scalar (chars : List Char)
  /-- After one space, the time that follows a date; or the end of the value. -/
  | scalarGap (chars : List Char)
  /-- What ends or goes on after a value. -/
  | valueEnd (v : Value)

/-- The state between two tokens. -/
structure LineReader where
  /-- The lines that are complete, last first. -/
  lines : List Line := []
  around : List Around := []
  expected : Expected := .lineStart

namespace LineReader

/-- The part of a key that a token is. -/
def keyPart? : Token → Option String
  | .word chars => some (String.ofList chars)
  | .quoted chars false => some (String.ofList chars)
  | _ => none

/-- The state that expects something else. -/
def expecting (r : LineReader) (expected : Expected) : LineReader := { r with expected }

/-- A token where the next part of a key is expected. -/
def readKeyPart (r : LineReader) (use : KeyUse) (path : List String) (token : Token) :
    Option LineReader :=
  match token with
  | .space _ => some (r.expecting (.keyPart use path))
  | token => (keyPart? token).map fun part => r.expecting (.keyEnd use (part :: path))

/-- A token after a part of a key. -/
def readKeyEnd (r : LineReader) (use : KeyUse) (path : List String) (token : Token) :
    Option LineReader :=
  match use, token with
  | _, .space _ => some r
  | _, .point => some (r.expecting (.keyPart use path))
  | .header true, .closeArray => some (r.expecting (.headerEnd path.reverse))
  | .header false, .closeArray =>
    some { r with lines := .header false path.reverse :: r.lines, expected := .lineEnd }
  | .line, .equals => some { r with around := [.line path.reverse], expected := .value }
  | .table pairs, .equals =>
    some { r with around := .table pairs path.reverse :: r.around, expected := .value }
  | _, _ => none

/-- A token after a whole value. -/
def readValueEnd (r : LineReader) (v : Value) (token : Token) : Option LineReader :=
  let next (around : List Around) (expected : Expected) : Option LineReader :=
    some { r with around, expected }
  match r.around, token with
  | _, .space _ => some (r.expecting (.valueEnd v))
  | [.line path], .newline => some { lines := .pair path v :: r.lines }
  | .array _ :: _, .newline => some (r.expecting (.valueEnd v))
  | .array items :: around, .comma => next (.array (v :: items) :: around) .value
  | .array items :: around, .closeArray => next around (.valueEnd (.array (v :: items).reverse))
  | .table pairs path :: around, .comma => next around (.keyPart (.table ((path, v) :: pairs)) [])
  | .table pairs path :: around, .closeTable =>
    (Node.entriesOf ((path, v) :: pairs).reverse).bind fun entries =>
      next around (.valueEnd (.table (Node.toTable entries)))
  | _, _ => none

/-- A token where a value is expected. -/
def readValue (r : LineReader) (token : Token) : Option LineReader :=
  match token, r.around with
  | .space _, _ => some r
  | .newline, .array _ :: _ => some r
  | .closeArray, .array items :: around =>
    some { r with around, expected := .valueEnd (.array items.reverse) }
  | .openArray, around => some { r with around := .array [] :: around }
  | .openTable, _ => some (r.expecting .tableStart)
  | .quoted chars _, _ => some (r.expecting (.valueEnd (.string (String.ofList chars))))
  | .word chars, _ => some (r.expecting (.scalar chars))
  | .plus, _ => some (r.expecting (.scalar ['+']))
  | _, _ => none

/-- The characters that a token adds to a value without quotes and brackets. -/
def scalarChars? : Token → Option (List Char)
  | .word chars => some chars
  | .point => some ['.']
  | .colon => some [':']
  | .plus => some ['+']
  | _ => none

/-- A token that is no part of a value without quotes and brackets any more. -/
def endScalar (r : LineReader) (chars : List Char) (token : Token) : Option LineReader :=
  (Scalar.ofChars? chars).bind fun v => r.readValueEnd v token

/-- The state after one more token, if that token may come next. -/
def step (r : LineReader) (token : Token) : Option LineReader :=
  match r.expected, token with
  | .lineStart, .space _ | .lineStart, .newline => some r
  | .lineStart, .openArray => some (r.expecting .headerStart)
  | .lineStart, token => r.readKeyPart .line [] token
  | .lineEnd, .space _ => some r
  | .lineEnd, .newline => some (r.expecting .lineStart)
  | .lineEnd, _ => none
  | .headerStart, .openArray => some (r.expecting (.keyPart (.header true) []))
  | .headerStart, token => r.readKeyPart (.header false) [] token
  | .headerEnd path, .closeArray =>
    some { r with lines := .header true path :: r.lines, expected := .lineEnd }
  | .headerEnd _, _ => none
  | .keyPart use path, token => r.readKeyPart use path token
  | .keyEnd use path, token => r.readKeyEnd use path token
  | .tableStart, .space _ => some r
  | .tableStart, .closeTable => some (r.expecting (.valueEnd (.table [])))
  | .tableStart, token => r.readKeyPart (.table []) [] token
  | .value, token => r.readValue token
  | .scalar chars, .space true => some (r.expecting (.scalarGap chars))
  | .scalar chars, token =>
    match scalarChars? token with
    | some more => some (r.expecting (.scalar (chars ++ more)))
    | none => r.endScalar chars token
  | .scalarGap chars, .word more => some (r.expecting (.scalar (chars ++ ' ' :: more)))
  | .scalarGap chars, token => r.endScalar chars token
  | .valueEnd v, token => r.readValueEnd v token

end LineReader

namespace Line

/-- The lines that some tokens make up. The last line may end without a line end. -/
def ofTokens? (tokens : List Token) : Option (List Line) :=
  match (tokens ++ [Token.newline]).foldlM LineReader.step {} with
  | some ⟨lines, _, .lineStart⟩ => some lines.reverse
  | _ => none

end Line

end Viva.Toml
