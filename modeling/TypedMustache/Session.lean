import TypedMustache.CompileRequest
import TypedMustache.RenderModule
import TypedMustache.Settings.Loading

/-!
# Sessions

Within a session, the settings are loaded when they are first needed, and then
kept.  Compiling has settings of its own, which are fixed by the first template.
-/

namespace TypedMustache

/-- What was loaded so far, and where it is loaded from. -/
structure Session where
  workspace : Workspace
  environment : Environment
  /-- The settings, once they were needed. -/
  settings : Option Settings := none
  /-- The settings that templates are compiled with, once one was. -/
  compiling : Option Settings := none

namespace Session

/-- Why something cannot be done in a session. -/
inductive Refusal where
  | loading (failure : Settings.LoadFailure)
  | compiling (failure : Failure)

/-- Something done in a session. -/
abbrev SessionM := EStateM Refusal Session

/-- The settings of the session. -/
def currentSettings : SessionM Settings := do
  let session ← get
  match session.settings with
  | some settings => return settings
  | none =>
    match Settings.load session.workspace session.environment none with
    | .error failure => throw (.loading failure)
    | .ok settings =>
      set { session with settings := some settings }
      return settings

/-- The settings that templates are compiled with. -/
def compilingSettings : SessionM Settings := do
  match (← get).compiling with
  | some settings => return settings
  | none =>
    let settings ← currentSettings
    modify fun session => { session with compiling := some settings }
    return settings

/-- Compile a template. -/
def compile (catalog : Catalog) (request : CompileRequest) : SessionM CompileResult := do
  let settings ← compilingSettings
  match (request.compile catalog settings).result with
  | .ok result => return result
  | .error failure => throw (.compiling failure)

/-- Assemble a module. -/
def generate (results : List CompileResult) : SessionM String := do
  return RenderModule.generate results (← currentSettings) []

end Session

end TypedMustache
