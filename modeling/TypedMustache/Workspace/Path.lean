import TypedMustache.Text.Split

/-!
# Paths of files

A path is a list of names under a root.  Written paths are normalised: repeated
slashes and lone dots mean nothing, but a double dot stays, since what it means
depends on the directories there are.
-/

namespace TypedMustache

/-- A normalised path. -/
structure Path where
  /-- Slashes in front of an absolute path; empty for a relative one. -/
  root : String
  parts : List String
deriving DecidableEq, Repr

namespace Path

/-- The root that a written path starts with: exactly two slashes are kept apart. -/
def rootOf : List Char → String
  | '/' :: '/' :: '/' :: _ => "/"
  | '/' :: '/' :: _ => "//"
  | '/' :: _ => "/"
  | _ => ""

/-- Normalise a written path. -/
def ofString (text : String) : Path :=
  { root := rootOf text.toList
    parts := (Text.splitString '/' text).filter fun part => !part.isEmpty && part != "." }

/-- The path as it is shown. -/
def display (path : Path) : String :=
  if path.root.isEmpty && path.parts.isEmpty then "."
  else path.root ++ Text.join "/" path.parts

/-- The name of the file without the last suffix; a dot at either end makes no suffix. -/
def stem (path : Path) : String :=
  match path.parts.getLast? with
  | none => ""
  | some name =>
    let chars := name.toList
    let suffix := chars.reverse.takeWhile (· != '.')
    let front := chars.length - suffix.length - 1
    if chars.contains '.' && 0 < front && !suffix.isEmpty then String.ofList (chars.take front)
    else name

end Path

end TypedMustache
