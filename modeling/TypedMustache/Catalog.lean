import TypedMustache.DataType
import TypedMustache.Diagnostic
import TypedMustache.Text.Expression

/-!
# Data classes and their members

A `Catalog` lists the data classes that templates can be compiled against.  A
class offers the members that it declares itself: its annotations, and its
properties with the types of their getters.  Inherited members, members whose
names begin with an underscore and members of the class rather than of its
values are not offered.

Annotations are given as what they evaluate to.  The one exception is a text that
is nothing but a name: it is looked up when the members are asked for, and the
class has no members at all if it is not found.
-/

namespace TypedMustache

/-- What an attribute of a class is. -/
inductive Attribute.Kind where
  /-- A property with a getter. -/
  | property
  /-- A property whose value is computed once. -/
  | cachedProperty
  /-- A property without a getter. -/
  | writeOnly
  | method
  /-- A number. -/
  | constant
deriving DecidableEq, Repr

/-- An attribute of a class, with the annotation of what it returns. -/
structure Attribute where
  name : String
  kind : Attribute.Kind
  returns : Option DataType

/-- A data class. -/
structure Model where
  name : ClassName
  annotations : List (String × DataType)
  attributes : List Attribute
  bases : List DataType

/-- The attributes that a class ends up with: the last of each name, in the place of the first. -/
def Model.currentAttributes (model : Model) : List Attribute :=
  model.attributes.foldl (fun current added =>
    if current.any (·.name == added.name) then
      current.map fun earlier => if earlier.name == added.name then added else earlier
    else current ++ [added]) []

/-- A member of a class, as its values offer it. -/
structure Member where
  name : String
  type : DataType
  owner : DataType

/-- The expression that reads a member from an enclosing expression. -/
def Member.access (member : Member) (enclosing : String) : String :=
  enclosing ++ "." ++ member.name

/-- A module that can be imported, beside those of the data classes. -/
structure Library where
  moduleName : String
  /-- Whether it can have modules inside it. -/
  isPackage : Bool
  /-- The names that stand for classes, with nested ones behind a dot. -/
  classes : List (String × ClassName)
  /-- The names that stand for something else. -/
  others : List String

/-- The data classes at hand, the names of numbers defined beside them, and other modules. -/
structure Catalog where
  models : List Model
  constants : List String
  libraries : List Library := []
  /-- What the language says of the texts inside annotations. -/
  texts : Texts := Text.typeTexts

namespace Catalog

/-- A catalog without data classes. -/
def empty : Catalog :=
  { models := [], constants := [] }

/-- The module whose names include the constants. -/
def constantsModule : String := "models"

/-- The value of every constant. -/
def constant : DataType := .value (.integer 1)

/-- The data class of a name. -/
def model? (catalog : Catalog) (name : ClassName) : Option Model :=
  catalog.models.reverse.find? (·.name == name)

/-! ## Looking up names -/

/-- The classes that need no import. -/
def builtinClasses : List String :=
  ["bool", "bytearray", "bytes", "classmethod", "complex", "dict", "enumerate", "filter", "float",
    "frozenset", "int", "list", "map", "memoryview", "object", "property", "range", "reversed",
    "set", "slice", "staticmethod", "str", "super", "tuple", "type", "zip"]

/-- The exception classes that need no import. -/
def builtinExceptions : List String :=
  ["ArithmeticError", "AssertionError", "AttributeError", "BaseException", "BaseExceptionGroup",
    "BlockingIOError", "BrokenPipeError", "BufferError", "BytesWarning", "ChildProcessError",
    "ConnectionAbortedError", "ConnectionError", "ConnectionRefusedError", "ConnectionResetError",
    "DeprecationWarning", "EOFError", "EncodingWarning", "Exception", "ExceptionGroup",
    "FileExistsError", "FileNotFoundError", "FloatingPointError", "FutureWarning",
    "GeneratorExit", "ImportError", "ImportWarning", "IndentationError", "IndexError",
    "InterruptedError", "IsADirectoryError", "KeyError", "KeyboardInterrupt", "LookupError",
    "MemoryError", "ModuleNotFoundError", "NameError", "NotADirectoryError",
    "NotImplementedError", "OSError", "OverflowError", "PendingDeprecationWarning",
    "PermissionError", "ProcessLookupError", "RecursionError", "ReferenceError",
    "ResourceWarning", "RuntimeError", "RuntimeWarning", "StopAsyncIteration", "StopIteration",
    "SyntaxError", "SyntaxWarning", "SystemError", "SystemExit", "TabError", "TimeoutError",
    "TypeError", "UnboundLocalError", "UnicodeDecodeError", "UnicodeEncodeError", "UnicodeError",
    "UnicodeTranslateError", "UnicodeWarning", "UserWarning", "ValueError", "Warning",
    "ZeroDivisionError"]

/-- The functions that need no import. -/
def builtinFunctions : List String :=
  ["abs", "aiter", "all", "anext", "any", "ascii", "bin", "breakpoint", "callable", "chr",
    "compile", "delattr", "dir", "divmod", "eval", "exec", "format", "getattr", "globals",
    "hasattr", "hash", "hex", "id", "input", "isinstance", "issubclass", "iter", "len", "locals",
    "max", "min", "next", "oct", "open", "ord", "pow", "print", "repr", "round", "setattr",
    "sorted", "sum", "vars"]

/-- What a name means everywhere. -/
def builtin? (name : String) : Option DataType :=
  if builtinClasses.contains name || builtinExceptions.contains name then
    some (.ofClass (.builtin name))
  else if name == "IOError" || name == "EnvironmentError" then
    some (.ofClass (.builtin "OSError"))
  else if builtinFunctions.contains name then
    some (.object ("<built-in function " ++ name ++ ">"))
  else
    match name with
    | "None" => some .nothing
    | "True" => some (.value (.boolean true))
    | "False" => some (.value (.boolean false))
    | "Ellipsis" => some (.object "Ellipsis")
    | "NotImplemented" => some (.object "NotImplemented")
    | _ => none

/-- What a name means in a module. -/
def inModule? (catalog : Catalog) (moduleName name : String) : Option DataType :=
  match catalog.model? { moduleName, qualifiedName := name } with
  | some model => some (.ofClass model.name)
  | none =>
    if moduleName == constantsModule && catalog.constants.contains name then some constant
    else none

/-- What a name means inside a class: the classes nested in it, and its attributes. -/
def inClass? (catalog : Catalog) (model : Model) (name : String) : Option DataType :=
  let nested : ClassName :=
    { model.name with qualifiedName := model.name.qualifiedName ++ "." ++ name }
  match catalog.model? nested with
  | some inner => some (.ofClass inner.name)
  | none =>
    (model.attributes.reverse.find? (·.name == name)).map fun found =>
      match found.kind with
      | .constant => constant
      | .method => .object "<function>"
      | .property | .writeOnly => .object "<property>"
      | .cachedProperty => .object "<cached property>"

/-- What a name means in a module, or else everywhere. -/
def global? (catalog : Catalog) (moduleName name : String) : Option DataType :=
  (catalog.inModule? moduleName name).or (builtin? name)

/--
Evaluate an annotation.  All but texts are given evaluated; a text is a name to be looked up, and
not an expression: the class that a longer text stands for is given in its place.
-/
def evaluate (model : Model) (find? : String → Option DataType) (type : DataType) :
    Except Fault DataType :=
  match type with
  | .value (.text name) =>
    match find? name with
    | some found => .ok found
    | none => .error (.undefinedName model.name.qualifiedName name)
  | other => .ok other

/-! ## Members -/

/-- Set the value of a name: an earlier value is replaced in its place. -/
def put (name : String) (type : DataType) :
    List (String × DataType) → List (String × DataType)
  | [] => [(name, type)]
  | entry :: rest =>
    if entry.1 == name then (name, type) :: rest else entry :: put name type rest

/-- The declarations of a class by annotations. -/
def annotated (catalog : Catalog) (model : Model) : Except Fault (List (String × DataType)) :=
  model.annotations.foldlM (fun declared entry => do
    let find? := fun name =>
      (catalog.inClass? model name).or (catalog.global? model.name.moduleName name)
    let type ← evaluate model find? entry.2
    return put entry.1 type declared) []

/-- All declarations of a class: its annotations, then its properties in their order. -/
def declared (catalog : Catalog) (model : Model) : Except Fault (List (String × DataType)) := do
  let annotations ← catalog.annotated model
  model.currentAttributes.foldlM (fun declared found => do
    match found.kind with
    | .property | .cachedProperty =>
      let type ←
        evaluate model (catalog.global? model.name.moduleName) (found.returns.getD .any)
      return put found.name type declared
    | .writeOnly | .method | .constant => return declared) annotations

/-- Whether a declaration is offered to templates. -/
def isOffered (declaration : String × DataType) : Bool :=
  !(declaration.1.toList.head? == some '_') &&
    match declaration.2 with
    | .mark name => name != "ClassVar"
    | .marked name _ => name != "ClassVar"
    | _ => true

/-- The members that a class of no catalog offers. -/
def standardMembers (name : ClassName) : List (String × DataType) :=
  if name == { moduleName := "fractions", qualifiedName := "Fraction" } then
    [("numerator", .any), ("denominator", .any)]
  else []

/-- The members that a type offers, with their annotations; only classes offer any. -/
def members (catalog : Catalog) : DataType → Except Fault (List (String × DataType))
  | .ofClass name =>
    match catalog.model? name with
    | some model => (catalog.declared model).map (·.filter isOffered)
    | none => .ok (standardMembers name)
  | _ => .ok []

/-- The member of a type that a name refers to. -/
def resolve (catalog : Catalog) (owner : DataType) (name : String) : Except Fault Member := do
  let members ← catalog.members owner
  match members.find? (·.1 == name) with
  | some member => return { name, type := member.2, owner }
  | none => throw (.unknownMember owner.display name)

/-! ## Descent -/

/-- Whether a class descends from another one, through at most `steps` of its ancestors. -/
def descendsWithin (catalog : Catalog) (ancestor : ClassName) : Nat → ClassName → Bool
  | 0, name => name == ancestor
  | steps + 1, name =>
    name == ancestor ||
      (ancestor == .builtin "BaseException" && name.moduleName == "builtins" &&
        builtinExceptions.contains name.qualifiedName) ||
      match catalog.model? name with
      | some model =>
        model.bases.any fun base =>
          match base with
          | .ofClass baseName => catalog.descendsWithin ancestor steps baseName
          | .modelApplied baseName _ => catalog.descendsWithin ancestor steps baseName
          | _ => false
      | none => false

/-- Whether a class is another one or descends from it. -/
def descends (catalog : Catalog) (ancestor name : ClassName) : Bool :=
  catalog.descendsWithin ancestor (catalog.models.length + 1) name

end Catalog

end TypedMustache
