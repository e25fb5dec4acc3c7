import TypedMustache.DataType.Formation
import TypedMustache.Catalog

/-!
# Rendering by type

The annotation of a member decides how its value is written (`Classification`)
and what control flow a section over it becomes (`Shape`).  A union with the
class of no value is looked through: what counts is the type of the value when
there is one.
-/

namespace TypedMustache

/-- How a value is written. -/
inductive Classification where
  | numeric
  | boolean
  | character
  | string
  | renderable
  | exception
  | object
deriving DecidableEq, Repr

/-- The word that names a classification. -/
def Classification.label : Classification → String
  | numeric => "numeric"
  | boolean => "boolean"
  | character => "character"
  | string => "string"
  | renderable => "renderable"
  | exception => "exception"
  | object => "object"

/-- The control flow of a section. -/
inductive Shape where
  /-- A condition on a truth value. -/
  | guard
  /-- A condition that there is a value, which is bound. -/
  | optional
  /-- A loop that binds each element. -/
  | iteration
  /-- A condition on a value, which is bound. -/
  | object
deriving DecidableEq, Repr

/-- The word that names a shape. -/
def Shape.label : Shape → String
  | guard => "guard"
  | optional => "optional"
  | iteration => "iteration"
  | object => "object"

namespace DataType

/-! ## Optional types -/

/-- Whether an annotation is a union that the class of no value is a member of. -/
def admitsNone : DataType → Bool
  | union _ members => members.any isNoneType
  | _ => false

/-- The members of a union beside the class of no value. -/
def presentMembers : DataType → List DataType
  | union _ members => members.filter (!isNoneType ·)
  | _ => []

/--
The type of the value when there is one, if the annotation allows for no value.  Several members
are joined once more, which fails if one of them cannot be an argument of `Union`.
-/
def optionalInner? (catalog : Catalog) (type : DataType) : Except Failure (Option DataType) :=
  if type.admitsNone then
    match type.presentMembers with
    | [single] => .ok (some single)
    | several => (unionOf catalog.texts several).map some
  else .ok none

/--
The type of the value when there is one.  It is what `optionalInner?` answers with, wherever that
does not fail, and the type itself if it does not allow for no value.
-/
def present (type : DataType) : DataType :=
  if type.admitsNone then
    match type.presentMembers with
    | [single] => single
    | several => joined .typing (several.map typeArgument)
  else type

/-- Whether an annotation allows for no value. -/
def isOptional (catalog : Catalog) (type : DataType) : Except Failure Bool :=
  (type.optionalInner? catalog).map Option.isSome

theorem optionalInner?_of_present {catalog : Catalog} {type : DataType} {inner : Option DataType}
    (found : type.optionalInner? catalog = .ok inner) :
    inner = if type.admitsNone then some type.present else none := by
  unfold optionalInner? at found
  unfold present
  split at found
  · rename_i admits
    rw [if_pos admits, if_pos admits]
    split at found
    · cases found
      rfl
    · unfold unionOf typeArguments at found
      split at found
      · cases found
      · split at found
        · cases found
        · cases found
          rfl
  · rename_i without
    cases found
    rw [if_neg without]

/-! ## Iterable types -/

/-- The class behind an alias of the `typing` module. -/
def aliasOrigin (name : String) : ClassName :=
  match name with
  | "List" => .builtin "list"
  | "Tuple" => .builtin "tuple"
  | "Set" => .builtin "set"
  | "FrozenSet" => .builtin "frozenset"
  | "Dict" => .builtin "dict"
  | "Type" => .builtin "type"
  | "Deque" => { moduleName := "collections", qualifiedName := "deque" }
  | "AbstractSet" => .abstract "Set"
  | other => .abstract other

/-- The classes whose values a section repeats over. -/
def iterableClasses : List ClassName :=
  [.builtin "list", .builtin "tuple", .builtin "set", .builtin "frozenset",
    { moduleName := "collections", qualifiedName := "deque" },
    .abstract "Iterable", .abstract "Iterator", .abstract "Collection", .abstract "Sequence",
    .abstract "MutableSequence", .abstract "Set", .abstract "MutableSet"]

/-- The element type that arguments of an iterable class stand for. -/
def elementOfArguments (catalog : Catalog) (origin : ClassName) (arguments : List DataType) :
    Except Failure DataType :=
  match arguments with
  | [] => .ok any
  | first :: rest =>
    if origin = .builtin "tuple" then
      match rest with
      | [ellipsis] => .ok first
      | _ =>
        match unhashableAmong? arguments with
        | some sort => .error (.unhashable sort)
        | none =>
          match distinct arguments with
          | [single] => .ok single
          | several => unionOf catalog.texts several
    else .ok first

/-- The element type of an application; the value for no value is no element type. -/
def elementOfApplication? (catalog : Catalog) (origin : ClassName) (arguments : List DataType) :
    Except Failure (Option DataType) :=
  if iterableClasses.contains origin then
    match elementOfArguments catalog origin arguments with
    | .error failure => .error failure
    | .ok nothing => .ok none
    | .ok element => .ok (some element)
  else .ok none

/-- The element type of an iterable type, and none for a type that is not iterable. -/
def element? (catalog : Catalog) : DataType → Except Failure (Option DataType)
  | ofClass name => .ok (if iterableClasses.contains name then some any else none)
  | aliased name => .ok (if iterableClasses.contains (aliasOrigin name) then some any else none)
  | applied origin arguments => elementOfApplication? catalog origin arguments
  | aliasApplied name arguments => elementOfApplication? catalog (aliasOrigin name) arguments
  | value datum =>
    match datum.unhashable? with
    | some sort => .error (.unhashable sort)
    | none => .ok none
  | _ => .ok none

/-! ## Classification -/

/-- The classes that are classified by name. -/
def classTable : List (ClassName × Classification) :=
  [(.builtin "int", .numeric), (.builtin "float", .numeric), (.builtin "complex", .numeric),
    ({ moduleName := "decimal", qualifiedName := "Decimal" }, .numeric),
    ({ moduleName := "fractions", qualifiedName := "Fraction" }, .numeric),
    (.builtin "bool", .boolean), (.builtin "str", .string)]

/-- The classification of a class. -/
def classifyClass (catalog : Catalog) (name : ClassName) : Classification :=
  match classTable.lookup name with
  | some classification => classification
  | none =>
    if catalog.descends .renderable name then .renderable
    else if catalog.descends (.builtin "BaseException") name then .exception
    else .object

/-- How values of a type are written that is not looked through. -/
def classifyPresent (catalog : Catalog) : DataType → Classification
  | ofClass name => classifyClass catalog name
  | newType name => if name = .char then .character else .object
  | _ => .object

/-- How values of a type are written; optional types are looked through. -/
def classify (catalog : Catalog) (type : DataType) : Except Failure Classification :=
  (type.optionalInner? catalog).map fun inner => classifyPresent catalog (inner.getD type)

/-! ## Shapes of sections -/

/-- Whether an annotation is the class of truth values. -/
def isBool : DataType → Bool
  | ofClass name => name == .builtin "bool"
  | _ => false

/-- The control flow of a section over a value that is there, or that may be. -/
def shapeOf (catalog : Catalog) (optional : Bool) (present : DataType) :
    Except Failure (Shape × DataType) :=
  if present.isBool then .ok (.guard, bool)
  else
    match present.element? catalog with
    | .error failure => .error failure
    | .ok (some element) => .ok (.iteration, element)
    | .ok none => .ok (if optional then .optional else .object, present)

/-- The control flow of a section over a type, and the type bound inside it. -/
def sectionShape (catalog : Catalog) (type : DataType) : Except Failure (Shape × DataType) :=
  match type.optionalInner? catalog with
  | .error failure => .error failure
  | .ok none => shapeOf catalog false type
  | .ok (some inner) => shapeOf catalog true inner

section

variable {catalog : Catalog} {type : DataType} {found : Shape × DataType}

theorem optionalInner?_of_sectionShape (shaped : type.sectionShape catalog = .ok found) :
    type.optionalInner? catalog = .ok (if type.admitsNone then some type.present else none) := by
  unfold sectionShape at shaped
  split at shaped
  · cases shaped
  all_goals
    rename_i looked
    exact looked.trans (congrArg Except.ok (optionalInner?_of_present looked))

theorem isOptional_of_sectionShape (shaped : type.sectionShape catalog = .ok found) :
    type.isOptional catalog = .ok type.admitsNone := by
  rw [isOptional, optionalInner?_of_sectionShape shaped]
  cases type.admitsNone <;> rfl

theorem present_of_admitsNone_eq_false (without : type.admitsNone = false) :
    type.present = type := by
  simp [present, without]

theorem classify_of_sectionShape (shaped : type.sectionShape catalog = .ok found) :
    type.classify catalog = .ok (type.present.classifyPresent catalog) := by
  rw [classify, optionalInner?_of_sectionShape shaped]
  cases admits : type.admitsNone with
  | false =>
      rw [present_of_admitsNone_eq_false admits]
      rfl
  | true =>
      rfl

end

end DataType

end TypedMustache
