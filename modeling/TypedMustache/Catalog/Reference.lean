import TypedMustache.Catalog
import TypedMustache.Workspace

/-!
# References to data classes

A data class is referred to as `package.module:ClassName`.  The module is
imported, with the packages around it, and then the names behind the colon are
followed one by one.

Importing a module for the first time runs it.  A module can do anything when it is
run: print, change files and environment variables, and raise an error instead of
coming to its end.
-/

namespace TypedMustache

/-! ## Running modules -/

/-- An error that a module raises. -/
structure ModuleError where
  error : LanguageError
  /-- Whether it is an error of importing, or of a value. -/
  isExpected : Bool
deriving DecidableEq, Repr

/-- What running a module does. -/
structure ModuleRun where
  /-- What it prints. -/
  output : String := ""
  /-- What it prints to the error output. -/
  errors : String := ""
  /-- How it changes files. -/
  files : Workspace → Workspace := id
  /-- How it changes environment variables. -/
  environment : Environment → Environment := id
  /-- The error that it ends with. -/
  raised : Option ModuleError := none
  /-- The error that it raises where it is asked for a name. -/
  withheld : String → Option ModuleError := fun _ => none

/-- The modules that have not been run yet, and what running them does. -/
abbrev Modules := List (String × ModuleRun)

namespace Catalog

/-- What is wrong with a reference. -/
inductive ReferenceFault where
  /-- The reference has no module or no name. -/
  | malformed (reference : String)
  /-- The name of the module is relative. -/
  | relative
  /-- A module does not exist; its parent may be no package. -/
  | missingModule (name : String) (parent : Option String)
  /-- The names behind the colon lead nowhere. -/
  | missingName (moduleName name : String)
  /-- The names behind the colon lead to something that is no class. -/
  | notAClass (reference : String)
  /-- A module raises an error. -/
  | raised (error : ModuleError)
deriving DecidableEq, Repr

/-- The fault in words. -/
def ReferenceFault.message : ReferenceFault → String
  | malformed reference =>
    "Model must look like 'package.module:ClassName', got '" ++ reference ++ "'"
  | relative => "the 'package' argument is required to perform a relative import"
  | missingModule name none => "No module named " ++ Text.quoted name
  | missingModule name (some parent) =>
    "No module named " ++ Text.quoted name ++ "; " ++ Text.quoted parent ++ " is not a package"
  | missingName moduleName name => "'" ++ moduleName ++ "' has no attribute '" ++ name ++ "'"
  | notAClass reference => "'" ++ reference ++ "' is not a class"
  | raised error => error.error.message

/-- Whether the one who refers to a class is told about the fault. -/
def ReferenceFault.isReported : ReferenceFault → Bool
  | relative => false
  | raised error => error.isExpected
  | malformed _ | missingModule _ _ | missingName _ _ | notAClass _ => true

/-! ## Modules -/

/-- The module of the names that need no import. -/
def builtinLibrary : Library :=
  { moduleName := "builtins"
    isPackage := false
    classes :=
      (builtinClasses ++ builtinExceptions).map (fun name => (name, .builtin name))
        ++ [("IOError", .builtin "OSError"), ("EnvironmentError", .builtin "OSError")]
    others := builtinFunctions ++ ["None", "True", "False", "Ellipsis", "NotImplemented",
      "__import__", "__build_class__", "__debug__", "copyright", "credits",
      "exit", "quit", "license", "help"] }

/-- The module of the helpers of generated code. -/
def helperLibrary : Library :=
  { moduleName := ClassName.renderable.moduleName
    isPackage := false
    classes := ["Renderable", "Writer", "HtmlEscapingWriter"].map fun name =>
      (name, { ClassName.renderable with qualifiedName := name })
    others := ["Char", "escape_html"] }

/-- All modules that can be imported and have no data classes. -/
def allLibraries (catalog : Catalog) : List Library :=
  catalog.libraries ++ [builtinLibrary, helperLibrary]

/-- Whether a module can be imported. -/
def hasModule (catalog : Catalog) (name : String) : Bool :=
  name == constantsModule || catalog.models.any (·.name.moduleName == name)
    || catalog.allLibraries.any (·.moduleName == name)

/-- Whether a module can have modules inside it. -/
def isPackage (catalog : Catalog) (name : String) : Bool :=
  catalog.allLibraries.any fun library => library.moduleName == name && library.isPackage

/-- What came of an import: the modules that were run, and the fault that it ended with. -/
structure Import where
  runs : List ModuleRun := []
  fault : Option ReferenceFault := none

/-- Run a module after others. -/
def Import.andRun (done : Import) (module : ModuleRun) : Import :=
  { runs := done.runs ++ [module], fault := module.raised.map .raised }

variable (modules : Modules)

/--
Import a module whose components are given from the last one to the first.  A
module that is not there yet is looked for in its parent, which is imported
before it.
-/
def importComponents (catalog : Catalog) : List String → Import
  | [] => {}
  | component :: outer =>
    let name := Text.join "." (outer.reverse ++ [component])
    let module := modules.lookup name
    if module.isNone && catalog.hasModule name then {}
    else
      let around := catalog.importComponents outer
      let parent := Text.join "." outer.reverse
      match around.fault, module with
      | some _, _ => around
      | none, some module =>
        if outer.isEmpty || catalog.isPackage parent then around.andRun module
        else { around with fault := some (.missingModule name (some parent)) }
      | none, none =>
        if outer.isEmpty || catalog.isPackage parent then
          { around with fault := some (.missingModule name none) }
        else { around with fault := some (.missingModule name (some parent)) }

/-- Import a module. -/
def importModule (catalog : Catalog) (name : String) : Import :=
  if name.toList.head? == some '.' then { fault := some .relative }
  else catalog.importComponents modules (Text.splitString '.' name).reverse

/-! ## Names -/

/-- What a name stands for. -/
inductive Meaning where
  | ofClass (name : ClassName)
  /-- A module inside a package. -/
  | ofModule (name : String)
  /-- A number. -/
  | number
  | other
deriving DecidableEq, Repr

/-- The names that everything has. -/
def commonNames : List String :=
  ["__delattr__", "__dir__", "__doc__", "__eq__", "__format__", "__ge__", "__getattribute__",
    "__getstate__", "__gt__", "__hash__", "__init__", "__init_subclass__", "__le__", "__lt__",
    "__ne__", "__new__", "__reduce__", "__reduce_ex__", "__repr__", "__setattr__", "__sizeof__",
    "__str__", "__subclasshook__"]

/-- The further names that every module has. -/
def moduleNames : List String :=
  ["__dict__", "__loader__", "__name__", "__package__", "__spec__"]

/-- The further names that every class has. -/
def classNames : List String :=
  ["__annotations__", "__bases__", "__basicsize__", "__call__", "__dict__", "__dictoffset__",
    "__flags__", "__instancecheck__", "__itemsize__", "__module__", "__mro__", "__name__",
    "__or__", "__prepare__", "__qualname__", "__ror__", "__subclasscheck__", "__subclasses__",
    "__text_signature__", "__weakrefoffset__", "mro"]

/-- The names that every number has for further numbers. -/
def numberNames : List String := ["real", "imag", "numerator", "denominator"]

/-- The names that every number has for something else. -/
def numberMethods : List String :=
  ["as_integer_ratio", "bit_count", "bit_length", "conjugate", "from_bytes", "to_bytes"]

/-- What a name of a library stands for. -/
def inLibrary? (catalog : Catalog) (moduleName name : String) : Option Meaning :=
  (catalog.allLibraries.filter (·.moduleName == moduleName)).findSome? fun library =>
    match library.classes.lookup name with
    | some found => some (.ofClass found)
    | none => if library.others.contains name then some .other else none

/-- What a name stands for that something has beside those defined for it. -/
def implicit? (part className : String) (names : List String) : Option Meaning :=
  if part == "__class__" then some (.ofClass (.builtin className))
  else if names.contains part || commonNames.contains part then some .other
  else none

/-- What a name stands for in a module. -/
def ofModule? (catalog : Catalog) (moduleName name : String) : Option Meaning :=
  let inner := moduleName ++ "." ++ name
  match catalog.model? { moduleName, qualifiedName := name } with
  | some model => some (.ofClass model.name)
  | none =>
    if moduleName == constantsModule && catalog.constants.contains name then some .number
    else if catalog.isPackage moduleName && catalog.hasModule inner then some (.ofModule inner)
    else (catalog.inLibrary? moduleName name).or (implicit? name "module" moduleNames)

/-- What a name stands for in a class or in those it descends from, within some steps. -/
def ofClassWithin? (catalog : Catalog) (part : String) : Nat → ClassName → Option Meaning
  | 0, _ => none
  | steps + 1, name =>
    let nested := name.qualifiedName ++ "." ++ part
    match catalog.model? { name with qualifiedName := nested } with
    | some inner => some (.ofClass inner.name)
    | none =>
      match catalog.model? name with
      | none => catalog.inLibrary? name.moduleName nested
      | some model =>
        match model.currentAttributes.find? (·.name == part) with
        | some found => some (if found.kind = .constant then .number else .other)
        | none =>
          model.bases.findSome? fun base =>
            match base with
            | .ofClass baseName => catalog.ofClassWithin? part steps baseName
            | .modelApplied baseName _ => catalog.ofClassWithin? part steps baseName
            | _ => none

/-- What a name stands for behind something else. -/
def behind? (catalog : Catalog) (part : String) : Meaning → Option Meaning
  | .ofClass name =>
    (catalog.ofClassWithin? part (catalog.models.length + 1) name).or
      (implicit? part "type" classNames)
  | .ofModule name => catalog.ofModule? name part
  | .number =>
    if numberNames.contains part then some .number else implicit? part "int" numberMethods
  | .other => if commonNames.contains part then some .other else none

/-- What names lead to in a module. -/
def follow? (catalog : Catalog) (moduleName : String) : List String → Option Meaning
  | [] => none
  | first :: rest =>
    rest.foldl (fun found part => found.bind (catalog.behind? part))
      (catalog.ofModule? moduleName first)

/-- What came of a reference: the modules that were run, and the data class that it leads to. -/
structure Resolution where
  runs : List ModuleRun := []
  outcome : Except ReferenceFault ClassName

/-- The class that names lead to in a module that was imported. -/
def classBehind (catalog : Catalog) (reference moduleName name : String) :
    Except ReferenceFault ClassName :=
  let parts := Text.splitString '.' name
  match (modules.lookup moduleName).bind fun module => module.withheld (parts.headD "") with
  | some error => .error (.raised error)
  | none =>
    match catalog.follow? moduleName parts with
    | some (.ofClass found) => .ok found
    | some _ => .error (.notAClass reference)
    | none => .error (.missingName moduleName name)

/-- The data class that a reference leads to. -/
def resolveReference (catalog : Catalog) (reference : String) : Resolution :=
  match Text.cut [':'] reference.toList with
  | none => { outcome := .error (.malformed reference) }
  | some (front, back) =>
    let moduleName := String.ofList front
    let name := String.ofList back
    if front.isEmpty || back.isEmpty then { outcome := .error (.malformed reference) }
    else
      let imported := catalog.importModule modules moduleName
      match imported.fault with
      | some fault => { runs := imported.runs, outcome := .error fault }
      | none =>
        { runs := imported.runs
          outcome := catalog.classBehind modules reference moduleName name }

end Catalog

end TypedMustache
