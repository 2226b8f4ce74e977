/-! # A folder and what lies in it

Files and folders below one folder, each known by the names on the way to it. A path is walked name
by name: an empty name and `.` stay where they are, `..` goes back, and every name but the last has
to be a folder's.
-/

namespace Viva

/-- What lies at a place. -/
inductive Entry where
  | file (content : List UInt8)
  | folder
  deriving Repr, DecidableEq

/-- Why a path leads nowhere. -/
inductive PathProblem where
  /-- Nothing lies there. -/
  | missing
  /-- A file lies on the way. -/
  | notAFolder
  /-- A folder lies where a file should. -/
  | isAFolder
  /-- A name that no file can have. -/
  | unusableName
  deriving Repr, DecidableEq

/-- The problem in words. -/
def PathProblem.message : PathProblem → String
  | missing => "no such file or folder"
  | notAFolder => "not a folder"
  | isAFolder => "is a folder"
  | unusableName => "not a file name"

/-- Everything below a folder, by place. -/
structure Folder where
  entries : List (List String × Entry) := []
  deriving Repr, DecidableEq

namespace Folder

/-- What lies at a place; the folder itself is at the place without names. -/
def get? (folder : Folder) (place : List String) : Option Entry :=
  if place.isEmpty then some .folder else folder.entries.lookup place

/-- The folder without what lay at a place. -/
def erase (folder : Folder) (place : List String) : Folder :=
  ⟨folder.entries.filter fun (other, _) => other != place⟩

/-- The folder with an entry at a place, instead of what lay there. -/
def put (folder : Folder) (place : List String) (entry : Entry) : Folder :=
  ⟨(place, entry) :: (folder.erase place).entries⟩

/-- The greatest number of bytes in a name. -/
def longestName : Nat := 255

/-- A file can have the name. -/
def isUsable (name : String) : Bool :=
  name.utf8ByteSize ≤ longestName

/-- The names in a path. -/
def names (path : String) : List String :=
  path.splitOn "/"

/-- One name further on the way. -/
def enter (place : List String) (name : String) : List String :=
  if name = "" ∨ name = "." then place
  else if name = ".." then place.dropLast
  else place ++ [name]

/-- The place that names lead to from another place. -/
def walk (folder : Folder) (place : List String) : List String → Except PathProblem (List String)
  | [] => .ok place
  | name :: rest =>
    match folder.get? place with
    | none => .error .missing
    | some (.file _) => .error .notAFolder
    | some .folder =>
      if isUsable name then folder.walk (enter place name) rest else .error .unusableName

/-- The place that a path leads to. No path goes on after a NUL. -/
def resolve (folder : Folder) (path : String) : Except PathProblem (List String) :=
  if path.toList.contains '\x00' then .error .unusableName else folder.walk [] (names path)

/-- The content of the file at a path. -/
def read (folder : Folder) (path : String) : Except PathProblem (List UInt8) := do
  let place ← folder.resolve path
  match folder.get? place with
  | none => .error .missing
  | some .folder => .error .isAFolder
  | some (.file content) => .ok content

/-- Writes a file, whose folder has to be there. -/
def write (folder : Folder) (path : String) (content : List UInt8) :
    Except PathProblem Folder := do
  let place ← folder.resolve path
  match folder.get? place with
  | some .folder => .error .isAFolder
  | _ => .ok (folder.put place (.file content))

/-- Removes a file. -/
def remove (folder : Folder) (path : String) : Except PathProblem Folder := do
  let place ← folder.resolve path
  match folder.get? place with
  | none => .error .missing
  | some .folder => .error .isAFolder
  | some (.file _) => .ok (folder.erase place)

/-- Makes a folder of every name on the way from a place, unless it is one already. -/
def makeFolders (folder : Folder) (place : List String) :
    List String → Except PathProblem Folder
  | [] => .ok folder
  | name :: rest =>
    let next := enter place name
    if !isUsable name then .error .unusableName
    else match folder.get? next with
      | none => (folder.put next .folder).makeFolders next rest
      | some .folder => folder.makeFolders next rest
      | some (.file _) => .error .notAFolder

/-- Makes the folder at a path, and those on the way to it. -/
def makeFolder (folder : Folder) (path : String) : Except PathProblem Folder :=
  folder.makeFolders [] (names path)

/-- Makes the folders that a file at a path lies in. -/
def makeParents (folder : Folder) (path : String) : Except PathProblem Folder :=
  folder.makeFolders [] ((names path).filter fun name => name != "" && name != ".").dropLast

end Folder

end Viva
