import TypedMustache.Text.Quoted
import TypedMustache.Text.Split
import TypedMustache.Workspace.Path

/-!
# The files and environment variables at hand

A `Workspace` is the part of a file system that matters: some directories, the
text files in them, and which directory is the working directory.  Every path is
followed name by name, from the root or from the working directory on.  That
fails for names that are too long, and behind directories that may not be
searched.

An `Environment` has the environment variables that are set.  The value of a
variable need not be a text.
-/

namespace TypedMustache

/-- Directories and text files; all are given by the names that lead to them from the root. -/
structure Workspace where
  /-- The working directory. -/
  location : List String := []
  /-- Directories beside the working directory and those around it. -/
  directories : List (List String) := []
  /-- The files, with their texts. -/
  files : List (List String × String) := []
  /-- The directories that may not be searched, and the files that may not be opened. -/
  barred : List (List String) := []
deriving Repr

namespace Workspace

/-- Why a file cannot be read or written. -/
inductive Problem where
  | notFound (path : Path)
  | isDirectory (path : Path)
  | notDirectory (path : Path)
  | denied (path : Path)
  | nameTooLong (path : Path)
  /-- The path has the character zero in it. -/
  | unnameable
deriving DecidableEq, Repr

/-- The problem in words. -/
def Problem.message : Problem → String
  | notFound path => "[Errno 2] No such file or directory: " ++ Text.quoted path.display
  | isDirectory path => "[Errno 21] Is a directory: " ++ Text.quoted path.display
  | notDirectory path => "[Errno 20] Not a directory: " ++ Text.quoted path.display
  | denied path => "[Errno 13] Permission denied: " ++ Text.quoted path.display
  | nameTooLong path => "[Errno 36] File name too long: " ++ Text.quoted path.display
  | unnameable => "embedded null byte"

/-- Whether it is the system that has the problem; some paths are not passed on to it. -/
def Problem.isOfSystem : Problem → Bool
  | unnameable => false
  | _ => true

/-- What a path leads to. -/
inductive Place where
  | directory
  | file (names : List String) (text : String)
  /-- Nothing yet, in a directory. -/
  | vacant (names : List String)
  /-- Nothing, and there is no directory to put it in. -/
  | nowhere
  /-- A file is taken for a directory on the way. -/
  | blocked
  /-- A directory on the way may not be searched. -/
  | barred
  /-- A name on the way, or the path, is too long. -/
  | overlong
  /-- The path has the character zero in it. -/
  | unnameable
deriving DecidableEq, Repr

/-- The greatest number of bytes in a name. -/
def nameLimit : Nat := 255

/-- The greatest number of bytes in a path. -/
def pathLimit : Nat := 4095

/-- Whether names lead to a directory. -/
def isDirectory (workspace : Workspace) (names : List String) : Bool :=
  names.isPrefixOf workspace.location || workspace.directories.contains names

/-- Follow names from a directory on; the root is above itself. -/
def follow (workspace : Workspace) (directory : List String) : List String → Place
  | [] => .directory
  | name :: rest =>
    if workspace.barred.contains directory then .barred
    else if name == ".." then workspace.follow directory.dropLast rest
    else if nameLimit < name.utf8ByteSize then .overlong
    else
      let names := directory ++ [name]
      if workspace.isDirectory names then workspace.follow names rest
      else
        match workspace.files.lookup names with
        | some text => if rest.isEmpty then .file names text else .blocked
        | none => if rest.isEmpty then .vacant names else .nowhere

/-- The directory that a path starts from. -/
def startOf (workspace : Workspace) (path : Path) : List String :=
  if path.root.isEmpty then workspace.location else []

/-- What a path leads to. -/
def find (workspace : Workspace) (path : Path) : Place :=
  if path.display.toList.contains '\x00' then .unnameable
  else if pathLimit < path.display.utf8ByteSize then .overlong
  else workspace.follow (workspace.startOf path) path.parts

/-- The names that lead to where a path leads if all of it is there. -/
def namesOf (workspace : Workspace) (path : Path) : List String :=
  path.parts.foldl (fun names part => if part == ".." then names.dropLast else names ++ [part])
    (workspace.startOf path)

/--
Whether a path leads to a file or a directory, or why that cannot be known.  A path that is not
passed on to the system leads nowhere.
-/
def hasPath (workspace : Workspace) (path : Path) : Except Problem Bool :=
  match workspace.find path with
  | .directory | .file _ _ => .ok true
  | .vacant _ | .nowhere | .blocked | .unnameable => .ok false
  | .barred => .error (.denied path)
  | .overlong => .error (.nameTooLong path)

/-- The problem with a path that leads to no file. -/
def problemAt (path : Path) : Place → Problem
  | .directory => .isDirectory path
  | .blocked => .notDirectory path
  | .barred => .denied path
  | .overlong => .nameTooLong path
  | .unnameable => .unnameable
  | .file _ _ | .vacant _ | .nowhere => .notFound path

/-- The text of a file; every line end counts as a line feed. -/
def read (workspace : Workspace) (path : Path) : Except Problem String :=
  match workspace.find path with
  | .file names text =>
    if workspace.barred.contains names then .error (.denied path)
    else .ok (String.ofList (Text.unifyNewlines text.toList))
  | place => .error (problemAt path place)

/-- Set the text of a file whose directory is there. -/
def put (workspace : Workspace) (names : List String) (text : String) : Workspace :=
  { workspace with
    files :=
      if workspace.files.any (·.1 == names) then
        workspace.files.map fun file => if file.1 == names then (names, text) else file
      else workspace.files ++ [(names, text)] }

/-- Write a text into a file, new or not. -/
def write (workspace : Workspace) (path : Path) (text : String) : Except Problem Workspace :=
  match workspace.find path with
  | .file names _ | .vacant names =>
    if workspace.barred.contains names then .error (.denied path)
    else .ok (workspace.put names text)
  | place => .error (problemAt path place)

/-- All directories on the way to names. -/
def ancestors (names : List String) : List (List String) :=
  (List.range names.length).map names.take

/-- Put a directory in place, with those around it. -/
def addDirectory (workspace : Workspace) (names : List String) : Workspace :=
  let missing := (ancestors names ++ [names]).filter (!workspace.isDirectory ·)
  { workspace with directories := workspace.directories ++ missing }

/-- Put a file in place, with the directories on the way to it. -/
def add (workspace : Workspace) (path : Path) (text : String) : Workspace :=
  let names := workspace.namesOf path
  (workspace.addDirectory names.dropLast).put names text

/-- Take a file away. -/
def remove (workspace : Workspace) (path : Path) : Workspace :=
  let names := workspace.namesOf path
  { workspace with files := workspace.files.filter (·.1 != names) }

/-- Put files in place. -/
def addAll (workspace : Workspace) (files : List (String × String)) : Workspace :=
  files.foldl (fun workspace file => workspace.add (.ofString file.1) file.2) workspace

/-- The files under the working directory, by the names that lead there from it. -/
def localFiles (workspace : Workspace) : List (List String × String) :=
  workspace.files.filterMap fun (names, text) =>
    if workspace.location.isPrefixOf names then
      some (names.drop workspace.location.length, text)
    else none

end Workspace

/-! ## Environment variables -/

/-- The environment variables that are set, each once. -/
structure Environment where
  assignments : List (String × String) := []
  /-- The variables whose values have surrogates among their code points. -/
  broken : List (String × List Nat) := []
deriving Repr

namespace Environment

/-- The value of a variable, with the character zero for code points that are no characters. -/
def get? (environment : Environment) (name : String) : Option String :=
  (environment.assignments.lookup name).or <|
    (environment.broken.lookup name).map fun codes => String.ofList (codes.map Char.ofNat)

/-- Set a variable, or unset it. -/
def set (environment : Environment) (name : String) (value : Option String) : Environment :=
  let others := environment.assignments.filter (·.1 != name)
  let broken := environment.broken.filter (·.1 != name)
  match value with
  | some value => { assignments := (name, value) :: others, broken }
  | none => { assignments := others, broken }

/-- The value of a variable that is set and not empty. -/
def nonempty? (environment : Environment) (name : String) : Option String :=
  (environment.get? name).filter (!·.isEmpty)

end Environment

end TypedMustache
