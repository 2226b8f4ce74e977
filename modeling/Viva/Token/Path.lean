import Viva.Failure
import Viva.Text.Word

/-! # Where the token is kept

The path of the token file may refer to variables and to the learner's home folder. `$NAME` and
`${NAME}` stand for the value of a variable, `${NAME:-text}` for the value or, when there is none,
for the text; `$$` stands for one dollar sign. A path that then is `~`, or starts with `~/`, starts
in the home folder. Neither a value nor a text is looked through again, and a tilde that a value
brings to the front is a tilde.
-/

namespace Viva.Token.Path

/-- Names of variables with their values. -/
abbrev Variables := List (String × String)

/-- A part of a path as it is written. -/
inductive Piece where
  | character (c : Char)
  /-- The value of a variable, or else the other text if one is given. -/
  | reference (name : List Char) (otherwise : Option (List Char))
  deriving Repr, DecidableEq

/-- What stands before and after the first closing brace. -/
def splitAtBrace : List Char → Option (List Char × List Char)
  | [] => none
  | '}' :: rest => some ([], rest)
  | c :: rest => (splitAtBrace rest).map fun (inside, after) => (c :: inside, after)

/-- A name, and the text after the first `:-`. -/
def splitAtDefault : List Char → List Char × Option (List Char)
  | [] => ([], none)
  | ':' :: '-' :: rest => ([], some rest)
  | c :: rest =>
    let (name, otherwise) := splitAtDefault rest
    (c :: name, otherwise)

/-- What braces hold. Where no name stands before `:-`, all of it is the name. -/
def Piece.ofBraces (inside : List Char) : Piece :=
  match splitAtDefault inside with
  | ([], some _) => reference inside none
  | (name, otherwise) => reference name otherwise

theorem length_splitAtBrace {text inside after : List Char}
    (h : splitAtBrace text = some (inside, after)) : after.length < text.length := by
  fun_induction splitAtBrace text generalizing inside after with
  | case1 => simp at h
  | case2 rest => simp_all
  | case3 c rest _ ih =>
    obtain ⟨⟨_, _⟩, hrest, h⟩ := Option.map_eq_some_iff.1 h
    have := ih hrest
    simp_all
    omega

/-- The parts of a path. A brace that is never closed is a brace, and so is a dollar sign that
    stands before neither a brace nor a name. -/
def pieces : List Char → List Piece
  | [] => []
  | '$' :: '{' :: rest =>
    match _h : splitAtBrace rest with
    | some (inside, after) => .ofBraces inside :: pieces after
    | none => .character '$' :: pieces ('{' :: rest)
  | '$' :: '$' :: rest => .character '$' :: pieces rest
  | '$' :: rest =>
    let name := rest.takeWhile Text.isWordChar
    if name.isEmpty then .character '$' :: pieces rest
    else .reference name none :: pieces (rest.dropWhile Text.isWordChar)
  | c :: rest => .character c :: pieces rest
termination_by text => text.length
decreasing_by
  · have := length_splitAtBrace _h
    simp only [List.length_cons]
    omega
  · simp
  · simp only [List.length_cons]
    omega
  · simp
  · have := (List.dropWhile_sublist Text.isWordChar (l := rest)).length_le
    simp only [List.length_cons]
    omega
  · simp

/-- The text of a part; a name that has neither a value nor another text is refused. -/
def Piece.text (vars : Variables) : Piece → Except (List Char) (List Char)
  | character c => .ok [c]
  | reference name otherwise =>
    match vars.lookup (String.ofList name), otherwise with
    | some value, _ => .ok value.toList
    | none, some other => .ok other
    | none, none => .error name

/-- The variable that names the home folder. -/
def homeVariable : String := "HOME"

/-- The home folder in place of a tilde that stands alone or before a slash. -/
def fromHome (vars : Variables) (path : List Char) : List Char :=
  match path, vars.lookup homeVariable with
  | ['~'], some home => if home.isEmpty then path else home.toList
  | '~' :: '/' :: rest, some home => if home.isEmpty then path else home.toList ++ '/' :: rest
  | _, _ => path

/-- The path that a written path stands for. -/
def expand (vars : Variables) (path : String) : Except Failure String :=
  match (pieces path.toList).mapM (Piece.text vars) with
  | .error name =>
    .error (.configuration ("invalid token path " ++ path ++ ": error looking key '"
      ++ String.ofList name ++ "' up: environment variable not found"))
  | .ok texts =>
    let expanded := texts.flatten
    let isWrittenTilde := path.toList.head? == some '~'
    .ok (String.ofList (if isWrittenTilde then fromHome vars expanded else expanded))

end Viva.Token.Path
