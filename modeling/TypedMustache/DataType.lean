import TypedMustache.Datum

/-!
# Type annotations

A data class declares its members with type annotations.  A `DataType` is such
an annotation after it has been evaluated: a class, an application of a class or
of an alias of the `typing` module to arguments, a union, or one of the values
that can stand in the place of a type without being one.

Data types are displayed in diagnostics, compared, and looked up in tables.
Comparison does not see the order of the members of a union.
-/

namespace TypedMustache

/-- The name of a class: the module that declares it, and its name there, with dots for nesting. -/
structure ClassName where
  moduleName : String
  qualifiedName : String
deriving DecidableEq, Repr

namespace ClassName

/-- A class that needs no import. -/
def builtin (name : String) : ClassName :=
  { moduleName := "builtins", qualifiedName := name }

/-- A class of `collections.abc`. -/
def abstract (name : String) : ClassName :=
  { moduleName := "collections.abc", qualifiedName := name }

/-- The class of the one value that stands for no value. -/
def noneType : ClassName := builtin "NoneType"

/-- The class that stands for any type. -/
def any : ClassName := { moduleName := "typing", qualifiedName := "Any" }

/-- The class of values that render themselves. -/
def renderable : ClassName := { moduleName := "stache.runtime", qualifiedName := "Renderable" }

/-- The type of texts that hold exactly one character. -/
def char : ClassName := { moduleName := "stache.runtime", qualifiedName := "Char" }

/-- The name with its module, which is left out for classes that need no import. -/
def full (name : ClassName) : String :=
  if name.moduleName == "builtins" then name.qualifiedName
  else name.moduleName ++ "." ++ name.qualifiedName

end ClassName

/-- How a union was formed. -/
inductive UnionStyle where
  /-- With `Union` or `Optional`. -/
  | typing
  /-- With a bar between plain classes. -/
  | bar
deriving DecidableEq, Repr

/-- An evaluated type annotation. -/
inductive DataType where
  /-- The value that stands for no value, written in the place of a type. -/
  | nothing
  /-- The dots that end a tuple of any length. -/
  | ellipsis
  /-- A class. -/
  | ofClass (name : ClassName)
  /-- A distinct type made from another one, recognised by its name. -/
  | newType (name : ClassName)
  /-- An alias of the `typing` module without arguments. -/
  | aliased (name : String)
  /-- A mark of the `typing` module without an argument. -/
  | mark (name : String)
  /-- A class applied to arguments. -/
  | applied (origin : ClassName) (arguments : List DataType)
  /-- An alias of the `typing` module applied to arguments. -/
  | aliasApplied (name : String) (arguments : List DataType)
  /-- A generic class of the data model applied to arguments. -/
  | modelApplied (origin : ClassName) (arguments : List DataType)
  /-- A mark of the `typing` module applied to an argument. -/
  | marked (name : String) (argument : DataType)
  /-- A union of several types. -/
  | union (style : UnionStyle) (members : List DataType)
  /-- A type with metadata attached. -/
  | withMetadata (base : DataType) (metadata : List Datum)
  /-- The type of the listed values. -/
  | literal (values : List Datum)
  /-- A name inside another annotation that is not looked up. -/
  | forward (name : String)
  /-- A value that is no type. -/
  | value (datum : Datum)
  /-- An object known only by its display. -/
  | object (shown : String)

namespace DataType

/-! ## Frequent annotations -/

/-- The class that stands for any type. -/
def any : DataType := ofClass .any

/-- The class of the one value that stands for no value. -/
def noneType : DataType := ofClass .noneType

/-- The class of truth values. -/
def bool : DataType := ofClass (.builtin "bool")

/-- A value as an annotation. -/
def ofDatum : Datum → DataType
  | .null => nothing
  | datum => value datum

/-- Whether an annotation is the class of no value. -/
def isNoneType : DataType → Bool
  | ofClass name => name == .noneType
  | _ => false

/-! ## Display -/

mutual

/-- An annotation as it is shown inside another one. -/
def shown : DataType → String
  | nothing => "None"
  | ellipsis => "..."
  | ofClass name => name.full
  | newType name => name.full
  | aliased name => "typing." ++ name
  | mark name => "typing." ++ name
  | applied origin arguments => origin.full ++ shownArguments arguments
  | aliasApplied name arguments => "typing." ++ name ++ shownArguments arguments
  | modelApplied origin arguments => origin.full ++ shownArguments arguments
  | marked name argument => "typing." ++ name ++ "[" ++ shown argument ++ "]"
  | union .typing [first, second] =>
    if isNoneType first then "typing.Optional[" ++ shown second ++ "]"
    else if isNoneType second then "typing.Optional[" ++ shown first ++ "]"
    else "typing.Union[" ++ shown first ++ ", " ++ shown second ++ "]"
  | union .typing members => "typing.Union" ++ shownArguments members
  | union .bar members => Text.join " | " (shownMembers members)
  | withMetadata base metadata =>
    "typing.Annotated[" ++ Text.join ", " (shown base :: metadata.map Datum.display) ++ "]"
  | literal values => "typing.Literal[" ++ Text.join ", " (values.map Datum.display) ++ "]"
  | forward name => "ForwardRef(" ++ Text.quoted name ++ ")"
  | value datum => datum.display
  | object shown => shown

/-- Arguments in brackets. -/
def shownArguments : List DataType → String
  | [] => "[()]"
  | arguments => "[" ++ Text.join ", " (shownList arguments) ++ "]"

/-- Several annotations as they are shown inside another one. -/
def shownList : List DataType → List String
  | [] => []
  | type :: rest => shown type :: shownList rest

/-- The members of a union formed with bars. -/
def shownMembers : List DataType → List String
  | [] => []
  | member :: rest =>
    (if isNoneType member then "None" else shown member) :: shownMembers rest

end

/-- An annotation as it is shown on its own: classes without their module. -/
def display : DataType → String
  | ofClass name => name.qualifiedName
  | other => other.shown

/-! ## The place of declaration -/

/-- The module that an annotation belongs to. -/
def moduleName : DataType → String
  | ofClass name | newType name | applied name _ | modelApplied name _ => name.moduleName
  | aliased _ | mark _ | aliasApplied _ _ | marked _ _ | literal _ | union .typing _ | forward _ =>
    "typing"
  | union .bar _ => "types"
  | withMetadata base _ => base.moduleName
  | nothing | ellipsis | value _ | object _ => "builtins"

/-- The name that an annotation has in its module; its display if it has none. -/
def qualifiedName : DataType → String
  | ofClass name | newType name | applied name _ => name.qualifiedName
  | modelApplied name _ =>
    match (Text.splitString '.' name.qualifiedName).getLast? with
    | some last => last
    | none => name.qualifiedName
  | aliased name | mark name | aliasApplied name _ | marked name _ => name
  | union .typing [first, second] =>
    if isNoneType first || isNoneType second then "Optional" else "Union"
  | union .typing _ => "Union"
  | withMetadata _ _ => "Annotated"
  | literal _ => "Literal"
  | other => other.shown

/-! ## Comparison -/

/-- Whether two lists of values hold the same values of the same sorts, in any order. -/
def sameValues (values others : List Datum) : Bool :=
  let inside (some all : List Datum) : Bool :=
    some.all fun value => all.any fun other => value.same other && value.sameSort other
  inside values others && inside others values

mutual

/-- Whether two annotations are equal. -/
def same : DataType → DataType → Bool
  | nothing, nothing | ellipsis, ellipsis => true
  | ofClass name, ofClass other | newType name, newType other => name == other
  | aliased name, aliased other | mark name, mark other | forward name, forward other =>
    name == other
  | applied origin arguments, applied other others => origin == other && sameList arguments others
  | aliasApplied name arguments, aliasApplied other others =>
    name == other && sameList arguments others
  | modelApplied origin arguments, modelApplied other others =>
    origin == other && sameList arguments others
  | marked name argument, marked other otherArgument => name == other && same argument otherArgument
  | union _ members, union _ others =>
    allAmong members others && others.all fun other => anySame members other
  | withMetadata base metadata, withMetadata other otherMetadata =>
    same base other && Datum.sameItems metadata otherMetadata
  | literal values, literal others => sameValues values others
  | value datum, value other => datum.same other
  | object shown, object other => shown == other
  | _, _ => false

/-- Whether two lists of annotations are equal member by member. -/
def sameList : List DataType → List DataType → Bool
  | [], [] => true
  | type :: rest, other :: others => same type other && sameList rest others
  | _, _ => false

/-- Whether every annotation of a list equals one among others. -/
def allAmong : List DataType → List DataType → Bool
  | [], _ => true
  | type :: rest, others =>
    others.any (fun other => same type other) && allAmong rest others

/-- Whether one annotation of a list equals another annotation. -/
def anySame : List DataType → DataType → Bool
  | [], _ => false
  | type :: rest, other => same type other || anySame rest other

end

/-- The first value of a list that cannot be looked up in a table, by its sort. -/
def unhashableValue? (values : List Datum) : Option String :=
  values.findSome? Datum.unhashable?

mutual

/-- The sort of the first part of an annotation that cannot be looked up in a table. -/
def unhashable? : DataType → Option String
  | applied _ arguments | aliasApplied _ arguments | modelApplied _ arguments =>
    unhashableAmong? arguments
  | marked _ argument => unhashable? argument
  | union _ members => unhashableAmong? members
  | withMetadata base metadata => (unhashable? base).or (unhashableValue? metadata)
  | literal values => unhashableValue? values
  | value datum => datum.unhashable?
  | _ => none

/-- The sort of the first part of several annotations that cannot be looked up in a table. -/
def unhashableAmong? : List DataType → Option String
  | [] => none
  | type :: rest => (unhashable? type).or (unhashableAmong? rest)

end

/-- The annotations of a list without those that equal an earlier one. -/
def distinct (annotations : List DataType) : List DataType :=
  annotations.foldl (fun kept type =>
    if kept.any (same · type) then kept else kept ++ [type]) []

end DataType

end TypedMustache
