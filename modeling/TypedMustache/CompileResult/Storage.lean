import TypedMustache.CompileResult.Document
import TypedMustache.Workspace

/-!
# Compile results in files
-/

namespace TypedMustache.CompileResult

/-- Why a saved result cannot be loaded. -/
inductive LoadFailure where
  /-- The file does not hold a compile result. -/
  | refused (fault : Fault)
  /-- The file cannot be read. -/
  | unreadable (problem : Workspace.Problem)
deriving DecidableEq, Repr

/-- The indentation of saved documents. -/
def savedIndent : Nat := 2

/-- Save a result. -/
def save (result : CompileResult) (workspace : Workspace) (path : Path) :
    Except Workspace.Problem Workspace :=
  workspace.write path (result.toJson savedIndent)

/-- Load a saved result. -/
def load (workspace : Workspace) (path : Path) : Except LoadFailure CompileResult :=
  match workspace.read path with
  | .error problem => .error (.unreadable problem)
  | .ok document =>
    match ofJson document path.display with
    | .ok result => .ok result
    | .error fault => .error (.refused fault)

/-- Load saved results in order, up to the first that cannot be loaded. -/
def loadAll (workspace : Workspace) (paths : List Path) :
    Except LoadFailure (List CompileResult) :=
  paths.mapM (load workspace)

end TypedMustache.CompileResult
