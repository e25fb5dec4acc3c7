import TypedMustache.DataType.Formation
import TypedMustache.Catalog

/-!
# Describing catalogs in JSON

A catalog can be described by a JSON document.  A type is a string or an array:

* a class by its name, a class of `collections.abc` as `abc.Name`, an alias of the
  `typing` module as `typing.Name`, and a data class of the catalog as `@Name`;
* `[head, argument, ...]` for an application, with `Optional`, `Union`, `|`,
  `ClassVar`, `Final`, `Annotated`, `Literal` and `NewType` among the heads;
* `["forward", name]` for a name given as a text, and `["value", datum]` for a
  value in the place of a type.

A data class is an object with the fields `name`, `module`, `members`,
`properties` and `bases`.
-/

namespace TypedMustache

namespace DataType

/-- The classes that descriptions name without a module, but that have to be imported. -/
def importedClasses : List (String × ClassName) :=
  [("Decimal", { moduleName := "decimal", qualifiedName := "Decimal" }),
    ("Fraction", { moduleName := "fractions", qualifiedName := "Fraction" }),
    ("Renderable", .renderable),
    ("deque", { moduleName := "collections", qualifiedName := "deque" }),
    ("Any", .any)]

/-- The marks of the `typing` module that are no aliases. -/
def marks : List String :=
  ["ClassVar", "Final", "Literal", "Optional", "Union", "NoReturn", "Never", "Self",
    "LiteralString", "TypeAlias", "TypeGuard", "Concatenate", "Required", "NotRequired", "Unpack"]

/-- The classes of the `typing` module. -/
def typingClasses : List String :=
  ["Any", "Generic", "Protocol", "ForwardRef", "NewType", "TypeVar", "TypeVarTuple", "ParamSpec",
    "SupportsAbs", "SupportsBytes", "SupportsComplex", "SupportsFloat", "SupportsIndex",
    "SupportsInt", "SupportsRound", "IO", "TextIO", "BinaryIO"]

/-- The type that a word describes; `find?` gives the data classes by name. -/
def ofWord (find? : String → Option ClassName) (word : String) : DataType :=
  match word.toList with
  | '@' :: name =>
    match find? (String.ofList name) with
    | some found => .ofClass found
    | none => .object word
  | 'a' :: 'b' :: 'c' :: '.' :: name => .ofClass (.abstract (String.ofList name))
  | 't' :: 'y' :: 'p' :: 'i' :: 'n' :: 'g' :: '.' :: name =>
    match String.ofList name with
    | "Text" => .ofClass (.builtin "str")
    | name =>
      if typingClasses.contains name then .ofClass { moduleName := "typing", qualifiedName := name }
      else if marks.contains name then .mark name
      else .aliased name
  | _ =>
    match word with
    | "None" => .nothing
    | "..." => .ellipsis
    | "Char" => .newType .char
    | "ClassVar" | "Final" => .mark word
    | _ =>
      match importedClasses.lookup word with
      | some name => .ofClass name
      | none => .ofClass (.builtin word)

section Formation

variable (texts : Texts)

/-- The application of a head to arguments. -/
def apply (head : DataType) (arguments : List DataType) : Except Failure DataType :=
  match head with
  | .aliased name => (typeArguments texts arguments).map (.aliasApplied name)
  | .ofClass name =>
    if name.moduleName == "builtins" || name.moduleName == "collections.abc"
        || name.moduleName == "collections" then .ok (.applied name arguments)
    else
      match arguments.findSome? (textRefusal? texts) with
      | some failure => .error failure
      | none => .ok (.modelApplied name (arguments.map typeArgument))
  | other => .ok other

/-- Several annotations joined by bars, from the left. -/
def eitherOf : List DataType → Except Failure DataType
  | [] => .ok .nothing
  | first :: rest => rest.foldlM (either texts) first

/-- The annotation that a head stands for with arguments that are described already. -/
def headed (head : DataType) (word : String) (arguments : List DataType) :
    Except Failure DataType :=
  match word, arguments with
  | "Optional", [argument] => unionOf texts [argument, noneType]
  | "Union", arguments => unionOf texts arguments
  | "|", arguments => eitherOf texts arguments
  | "ClassVar", [argument] | "Final", [argument] => marking texts word argument
  | _, arguments => apply texts head arguments

variable (find? : String → Option ClassName)

mutual

/-- The annotation that a description stands for. -/
def ofDescription : Datum → Except Failure DataType
  | .text word => .ok (ofWord find? word)
  | .sequence [.text "forward", .text name] => .ok (.value (.text name))
  | .sequence [.text "value", datum] => .ok (ofDatum datum)
  | .sequence [.text "NewType", .text name, _] =>
    .ok (.newType { moduleName := Catalog.constantsModule, qualifiedName := name })
  | .sequence [.text "Annotated", base, metadata] => do
    annotate texts (← ofDescription base) metadata
  | .sequence (.text "Literal" :: values) => .ok (literalOf values)
  | .sequence (.text head :: rest) => do
    headed texts (ofWord find? head) head (← ofDescriptions rest)
  | other => .ok (ofDatum other)

/-- The annotations that several descriptions stand for. -/
def ofDescriptions : List Datum → Except Failure (List DataType)
  | [] => .ok []
  | description :: rest => do
    return (← ofDescription description) :: (← ofDescriptions rest)

end

end Formation

end DataType

namespace Catalog

/-- The text of a field, or a default. -/
def textField (entries : List (Datum × Datum)) (name default : String) : String :=
  match Datum.get? entries name with
  | some (.text value) => value
  | _ => default

/-- The items of a field. -/
def listField (entries : List (Datum × Datum)) (name : String) : List Datum :=
  match Datum.get? entries name with
  | some (.sequence items) => items
  | _ => []

/-- The name of the data class that a description declares. -/
def describedName? : Datum → Option ClassName
  | .mapping entries =>
    some
      { moduleName := textField entries "module" constantsModule
        qualifiedName := textField entries "name" "" }
  | _ => none

/-- The kind of attribute that a word names. -/
def attributeKind (word : String) : Attribute.Kind :=
  match word with
  | "cached" => .cachedProperty
  | "write_only" => .writeOnly
  | "method" => .method
  | "attribute" => .constant
  | _ => .property

section Members

variable (texts : Texts) (find? : String → Option ClassName)

/-- The attribute that a description declares. -/
def describedAttribute? :
    Datum → Except Failure (Option Attribute)
  | .mapping entries => do
    let returns ← (Datum.get? entries "returns").mapM (DataType.ofDescription texts find?)
    return some
      { name := textField entries "name" ""
        kind := attributeKind (textField entries "kind" "property")
        returns }
  | _ => .ok none

/-- The annotated name that a description declares. -/
def describedMember? :
    Datum → Except Failure (Option (String × DataType))
  | .sequence [.text name, description] => do
    return some (name, ← DataType.ofDescription texts find? description)
  | _ => .ok none

/-- The data class that a description declares. -/
def describedModel? (description : Datum) :
    Except Failure (Option Model) :=
  match description, describedName? description with
  | .mapping entries, some name => do
    let annotations ← (listField entries "members").mapM (describedMember? texts find?)
    let attributes ← (listField entries "properties").mapM (describedAttribute? texts find?)
    let bases ← (listField entries "bases").mapM (DataType.ofDescription texts find?)
    return some
      { name
        annotations := annotations.filterMap id
        attributes := attributes.filterMap id
        bases }
  | _, _ => .ok none

end Members

/-- The name of the data class that a list of descriptions declares under a qualified name. -/
def findDescribed? (descriptions : List Datum) (name : String) : Option ClassName :=
  (descriptions.filterMap describedName?).reverse.find? (·.qualifiedName == name)

/-- The catalog of the data classes described in a list, with the names of constants. -/
def ofDescriptions (descriptions : List Datum) (constants : List String) :
    Except Failure Catalog := do
  let models ← descriptions.mapM (describedModel? Text.typeTexts (findDescribed? descriptions))
  return { models := models.filterMap id, constants }

end Catalog

end TypedMustache
