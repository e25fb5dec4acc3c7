import TypedMustache.Text.CharacterClass

/-!
# Compile results

Compiling a template gives one fragment of code per variant, and with them what
is needed to assemble a module: the names of the template and of its data type.
-/

namespace TypedMustache

/-- The generated statements of one variant. -/
structure Fragment where
  variant : String
  code : String
  foundYield : Bool := false
deriving DecidableEq, Repr

/-- Whether a fragment has no statement. -/
def Fragment.isBlank (fragment : Fragment) : Bool :=
  Text.isBlankText fragment.code

/-- What compiling one template against one data type gives. -/
structure CompileResult where
  requestId : String
  template : String
  /-- The module that declares the data type. -/
  dataModule : String
  /-- The name of the data type in its module. -/
  dataName : String
  layout : Bool := false
  fragments : List Fragment := []
deriving DecidableEq, Repr

namespace CompileResult

/-- The fragment of a variant. -/
def fragment? (result : CompileResult) (variant : String) : Option Fragment :=
  result.fragments.find? (·.variant == variant)

/-- A variant that a result has no fragment for. -/
structure MissingVariant where
  variant : String
deriving DecidableEq, Repr

/-- The reason in words. -/
def MissingVariant.message (missing : MissingVariant) : String :=
  "Variant '" ++ missing.variant ++ "' was not compiled"

/-- The code of a variant. -/
def code (result : CompileResult) (variant : String) : Except MissingVariant String :=
  match result.fragment? variant with
  | some fragment => .ok fragment.code
  | none => .error { variant }

end CompileResult

end TypedMustache
