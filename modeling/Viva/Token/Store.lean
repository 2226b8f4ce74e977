import Viva.Failure
import Viva.Files.Basic
import Viva.Text.Utf8
import Viva.Token.Basic

/-! # The token on disk

A token is kept in a file of its own. A file that is not there holds no token, and neither does a
file with nothing but blanks; forgetting a token that is not there succeeds.
-/

namespace Viva.Token.Store

/-- A problem with the token's file, as a failure. -/
def failure (problem : PathProblem) : Failure := .inputOutput problem.message

/-- The token at a path, if one is kept there. -/
def load (folder : Folder) (path : String) : Except Failure (Option String) :=
  match folder.read path with
  | .error .missing => .ok none
  | .error problem => .error (failure problem)
  | .ok bytes =>
    match Text.Utf8.strict? bytes with
    | none => .error (.inputOutput "not a text")
    | some content => .ok (Token.ofContent? content)

/-- Keeps a token at a path. The folders on the way are made first, and stay even when the file then
    cannot be written. -/
def save (folder : Folder) (path token : String) : Except Failure Unit × Folder :=
  match folder.makeParents path with
  | .error problem => (.error (failure problem), folder)
  | .ok folder =>
    match folder.write path (Text.Utf8.encode (Token.toContent token)) with
    | .error problem => (.error (failure problem), folder)
    | .ok folder => (.ok (), folder)

/-- Forgets the token at a path. -/
def clear (folder : Folder) (path : String) : Except Failure Unit × Folder :=
  match folder.remove path with
  | .error .missing => (.ok (), folder)
  | .error problem => (.error (failure problem), folder)
  | .ok folder => (.ok (), folder)

end Viva.Token.Store
