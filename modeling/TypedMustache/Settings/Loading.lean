import TypedMustache.Diagnostic
import TypedMustache.Settings
import TypedMustache.Workspace
import TypedMustache.Yaml

/-!
# Loading settings

Settings come from a YAML file and from the environment, which overrides the
file.  The file may be named; then it has to exist.  Otherwise the default file
is read if there is one.

What the settings are does not depend on how YAML is read but only on the data
that are read.  `loadWith` is loading with any reader, and `load` with that of
`Yaml.parse`.
-/

namespace TypedMustache.Settings

/-- Why settings cannot be loaded. -/
inductive LoadFailure where
  /-- The settings are not there, or not such that they can be used. -/
  | refused (fault : Fault)
  /-- The file is not YAML. -/
  | malformed
  /-- An entry of the file has something else than a text for its name. -/
  | unnamedEntry
  /-- The file cannot be read. -/
  | unreadable (problem : Workspace.Problem)
deriving DecidableEq, Repr

/-- The file that is read if none is named. -/
def defaultFile : Path := .ofString "stache.yaml"

/-- The environment variable for the yield marker. -/
def markerVariable : String := "STACHE_YIELD_MARKER"

/-- What a YAML text means, if it is one. -/
abbrev Reader := String → Option Datum

/-- The entries of a settings file. -/
def fileEntries (reader : Reader) (workspace : Workspace) (path : Path) :
    Except LoadFailure (List (Datum × Datum)) :=
  match workspace.read path with
  | .error problem => .error (.unreadable problem)
  | .ok text =>
    match reader text with
    | none => .error .malformed
    | some .null => .ok []
    | some (.mapping entries) => .ok entries
    | some _ => .error (.refused (.settingsNotMapping path.display))

/-- The entries if the file is absent: only the default file may be. -/
def absentEntries : Option Path → Except LoadFailure (List (Datum × Datum))
  | some path => .error (.refused (.settingsNotFound path.display))
  | none => .ok []

/-- The entries of the file that applies. -/
def applicableEntries (reader : Reader) (workspace : Workspace) (path : Option Path) :
    Except LoadFailure (List (Datum × Datum)) :=
  match workspace.hasPath (path.getD defaultFile) with
  | .error problem => .error (.unreadable problem)
  | .ok true => fileEntries reader workspace (path.getD defaultFile)
  | .ok false => absentEntries path

/-- The marker that the environment has, unless it is empty. -/
def environmentMarker? (environment : Environment) : Option Datum :=
  match environment.broken.lookup markerVariable with
  | some codes => some (.brokenText codes)
  | none => (environment.nonempty? markerVariable).map .text

/-- The entries that the environment adds. -/
def environmentEntries (environment : Environment) : List (Datum × Datum) :=
  match environmentMarker? environment with
  | some marker => [(.text "yield_marker", marker)]
  | none => []

/-- Whether the name of an entry is a text. -/
def isNamed (entry : Datum × Datum) : Bool :=
  match entry.1 with
  | .text _ | .brokenText _ => true
  | _ => false

/-- Load the settings with a reader of YAML. -/
def loadWith (reader : Reader) (workspace : Workspace) (environment : Environment)
    (path : Option Path) : Except LoadFailure Settings :=
  match applicableEntries reader workspace path with
  | .error failure => .error failure
  | .ok entries =>
    if entries.all isNamed then
      match ofEntries (entries ++ environmentEntries environment) with
      | .ok settings => .ok settings
      | .error problems => .error (.refused (.invalidSettings problems))
    else .error .unnamedEntry

/-- Load the settings. -/
def load (workspace : Workspace) (environment : Environment) (path : Option Path) :
    Except LoadFailure Settings :=
  loadWith Yaml.parse workspace environment path

end TypedMustache.Settings
