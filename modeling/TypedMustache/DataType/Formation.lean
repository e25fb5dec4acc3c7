import TypedMustache.DataType
import TypedMustache.Diagnostic

/-!
# Forming annotations

Unions are flat and without repetition, and a union of one type is that type.
Inside the constructs of the `typing` module the value for no value means its
class, and a text means a forward reference.

Not every annotation can be an argument of such a construct.  Some marks of the
`typing` module are refused, and so are the two classes that make other classes
generic, unless they are subscripted themselves; and a text has to be an
expression.  `texts` says of every text whether the language takes it for one.
-/

namespace TypedMustache

namespace ClassName

/-- The class that generic classes descend from. -/
def generic : ClassName := { moduleName := "typing", qualifiedName := "Generic" }

/-- The class that classes known by their members only descend from. -/
def structural : ClassName := { moduleName := "typing", qualifiedName := "Protocol" }

/-- Whether a class is there to be subscripted with type variables, and no type of values. -/
def isBare (name : ClassName) : Bool :=
  name == generic || name == structural

end ClassName

namespace DataType

/-- What an argument of a `typing` construct means, if it can be one. -/
def typeArgument : DataType → DataType
  | nothing => noneType
  | value (.text name) => forward name
  | other => other

/-- The members of a union, and a type that is no union as its own only member. -/
def members : DataType → List DataType
  | union _ members => members
  | other => [other]

/-- The union of types in a style; the members are flattened and repetitions dropped. -/
def joined (style : UnionStyle) (annotations : List DataType) : DataType :=
  match distinct (annotations.flatMap members) with
  | [single] => single
  | several => union style several

/-! ## Refusals -/

/-- The marks of the `typing` module that are types on their own. -/
def typeMarks : List String :=
  ["LiteralString", "NoReturn", "Never", "Self", "TypeAlias"]

/-- The marks of the `typing` module that say how an attribute is used. -/
def attributeMarks : List String :=
  ["ClassVar", "Final"]

/-- What keeps a text from being a forward reference; other annotations are not read. -/
def textRefusal? (texts : Texts) : DataType → Option Failure
  | value (.text name) => (texts name).map .raised
  | _ => none

/-- The refusal of a class that is there to be subscripted only. -/
def bareRefusal (name : ClassName) : Failure :=
  .notAType ("Plain <class '" ++ name.full ++ "'>")

/-- What keeps an annotation from being a type at all, read or not. -/
def plainRefusal? : DataType → Option Failure
  | mark name =>
    if typeMarks.contains name then none else some (.notAType ("Plain typing." ++ name))
  | ofClass name =>
    if name.isBare then some (bareRefusal name) else none
  | modelApplied name arguments =>
    if name.isBare then some (.notAType (modelApplied name arguments).shown) else none
  | value (.tuple items) =>
    some <| .raised
      { label := "TypeError"
        message := "Union[arg, ...]: each arg must be a type. Got "
          ++ String.ofList ((Datum.tuple items).display.toList.take 100) ++ "." }
  | _ => none

/-- What keeps an annotation from being an argument of a `typing` construct. -/
def refusal? (texts : Texts) (type : DataType) : Option Failure :=
  match type with
  | value (.text _) => type.textRefusal? texts
  | marked name _ | withMetadata (mark name) _ =>
    if attributeMarks.contains name then some (.notAType type.shown) else none
  | other => other.plainRefusal?

/-- What keeps an annotation from having metadata attached. -/
def annotationRefusal? (texts : Texts) (type : DataType) : Option Failure :=
  match type with
  | value (.text _) => type.textRefusal? texts
  | mark name => if attributeMarks.contains name then none else type.plainRefusal?
  | other => other.plainRefusal?

/-- What the arguments of a `typing` construct mean. -/
def typeArguments (texts : Texts) (annotations : List DataType) : Except Failure (List DataType) :=
  match annotations.findSome? (refusal? texts) with
  | some failure => .error failure
  | none => .ok (annotations.map typeArgument)

/-! ## Unions -/

/-- The refusal of a union without members. -/
def noMembers : Failure :=
  .raised { label := "TypeError", message := "Cannot take a Union of no types." }

/-- The `typing` union of annotations; there is no union of none. -/
def unionOf (texts : Texts) (annotations : List DataType) : Except Failure DataType :=
  if annotations.isEmpty then .error noMembers
  else (typeArguments texts annotations).map (joined .typing)

/-- Whether an annotation can stand beside a bar without making a `typing` union. -/
def isPlain : DataType → Bool
  | nothing | ofClass _ | applied _ _ | union .bar _ => true
  | _ => false

/-- Whether an annotation is a value, so that there must be a type beside it. -/
def isValue : DataType → Bool
  | nothing | ellipsis | value _ | object _ => true
  | _ => false

/-- The union formed by a bar between two annotations. -/
def either (texts : Texts) (left right : DataType) : Except Failure DataType :=
  if left.isValue && right.isValue then .error (.notAType left.shown)
  else if left.isPlain && right.isPlain then
    .ok (joined .bar [typeArgument left, typeArgument right])
  else if left.isPlain && right.isValue then .error (.notAType right.shown)
  else if left.isValue && right.isPlain then .error (.notAType left.shown)
  else unionOf texts [left, right]

/-! ## Other constructs -/

/-- Attach metadata to a type; metadata attached before stay in front. -/
def withAnnotated (base : DataType) (metadata : Datum) : DataType :=
  match base with
  | withMetadata inner earlier => withMetadata inner (earlier ++ [metadata])
  | other => withMetadata other [metadata]

/-- The annotation that `Annotated` forms. -/
def annotate (texts : Texts) (base : DataType) (metadata : Datum) : Except Failure DataType :=
  match base.annotationRefusal? texts with
  | some failure => .error failure
  | none => .ok (withAnnotated base.typeArgument metadata)

/-- The annotation that a mark with an argument forms. -/
def marking (texts : Texts) (name : String) (argument : DataType) : Except Failure DataType :=
  match argument.refusal? texts with
  | some failure => .error failure
  | none => .ok (marked name argument.typeArgument)

/-- The type of the listed values, each value once. -/
def literalOf (values : List Datum) : DataType :=
  literal <| values.foldl (fun kept value =>
    if kept.any fun other => other.same value && other.sameSort value then kept
    else kept ++ [value]) []

end DataType

end TypedMustache
