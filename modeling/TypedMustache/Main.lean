import TypedMustache.Catalog.Description
import TypedMustache.Command.Execution
import TypedMustache.Journal
import TypedMustache.Json.Reader

/-!
# The program

Gathers the files and the environment variables that a call needs, makes the
call, and then carries out what came of it.  The data classes are described by
the JSON document that the environment variable `STACHE_MODELS` names.
-/

namespace TypedMustache.Program

/-- The environment variables that matter. -/
def variableNames : List String :=
  ["STACHE_LOG_LEVEL", "STACHE_LOG_FORMAT", "STACHE_LOG_CHANNELS", Settings.markerVariable]

/-- The environment variable that names the description of the data classes. -/
def modelsVariable : String := "STACHE_MODELS"

/-- The environment variables that are set. -/
def gatherEnvironment : IO Environment := do
  let assignments ← variableNames.filterMapM fun name => do
    return (← IO.getEnv name).map fun value => (name, value)
  return { assignments }

/-- Look at what a path leads to, and put it into a workspace. -/
def gatherPath (workspace : Workspace) (path : Path) : IO Workspace := do
  let place := (← IO.currentDir) / path.display
  if ← place.isDir then
    return workspace.addDirectory (workspace.namesOf path)
  else if ← place.pathExists then
    return workspace.add path (← IO.FS.readFile place)
  else
    return workspace

/-- Look at all places on the way of a written path. -/
def gatherFile (workspace : Workspace) (name : String) : IO Workspace := do
  let path := Path.ofString name
  (List.range path.parts.length).foldlM (fun workspace count =>
    gatherPath workspace { path with parts := path.parts.take (count + 1) }) workspace

/-- The working directory with the files that a call needs. -/
def gatherWorkspace (arguments : List String) : IO Workspace := do
  let location := Path.ofString (← IO.currentDir).toString
  let names :=
    match Command.parse arguments with
    | .ok command => command.fileNames
    | .error _ => []
  names.foldlM gatherFile { location := location.parts }

/-- The catalog that a document describes. -/
def describedCatalog (document : String) : Except String Catalog :=
  match Json.parse document with
  | some (.mapping entries) =>
    let constants := (Catalog.listField entries "values").filterMap fun
      | .text name => some name
      | _ => none
    match Catalog.ofDescriptions (Catalog.listField entries "models") constants with
    | .ok catalog => .ok catalog
    | .error failure => .error failure.format
  | _ => .error "the description of the data classes is not a JSON object"

/-- The catalog of the data classes. -/
def gatherCatalog : IO Catalog := do
  match ← IO.getEnv modelsVariable with
  | none => return { models := [], constants := [] }
  | some name => IO.ofExcept (describedCatalog (← IO.FS.readFile name))

/-- A name for a request. -/
def drawRequestId : IO String := do
  let bytes ← IO.getRandomBytes 16
  return String.ofList (bytes.toList.flatMap fun byte => Text.hexDigits 2 byte.toNat)

/-- Write the files that were changed. -/
def writeChanges (before after : Workspace) : IO Unit :=
  after.files.forM fun (names, text) =>
    if before.files.lookup names == some text then pure ()
    else IO.FS.writeFile ("/" ++ Text.join "/" names) text

/-- Carry out what came of a call. -/
def settle (before : Workspace) (outcome : Command.Outcome) : IO UInt32 := do
  let trace := outcome.trace
  trace.journal.records.forM fun record => IO.eprintln record.line
  IO.print trace.output
  IO.eprint trace.errors
  writeChanges before trace.workspace
  match outcome.exit with
  | .ok code => return code.toUInt32
  | .error abort =>
    IO.eprintln abort.message
    return 1

end TypedMustache.Program

open TypedMustache in
/-- Call the program. -/
def main (arguments : List String) : IO UInt32 := do
  let workspace ← Program.gatherWorkspace arguments
  let outcome := Command.call arguments
    { workspace
      environment := ← Program.gatherEnvironment
      catalog := ← Program.gatherCatalog
      requestId := ← Program.drawRequestId }
  Program.settle workspace outcome
