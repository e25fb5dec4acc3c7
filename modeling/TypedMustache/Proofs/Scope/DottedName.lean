import TypedMustache.Proofs.DataType.IterableType
import TypedMustache.Proofs.Scope.AccessPath

/-!
# Dotted names and nested sections

A member of a member can be written in two ways: by a dotted name, and by a name
inside a section over the first member.  The dotted name is followed from member to
member, and the section binds a value that depends on its shape.

`Scope.dottedName_agrees` says that both lead to the same value, and to the same
statement, if the section is over an object, and that the dotted name leads nowhere
if it is not.  What carries the proof is that only classes have members, so a type with
a member is neither optional nor an application of a container.  The classes that stand
for truth values and for containers must not have members of their own
(`Catalog.SparesStandard`).
-/

namespace TypedMustache

namespace Text

/-- A dot between two names divides their components. -/
theorem splitString_append (front rest : String) :
    splitString '.' (front ++ "." ++ rest) = splitString '.' front ++ splitString '.' rest := by
  have parts : (front ++ "." ++ rest).toList = front.toList ++ '.' :: rest.toList := by
    simp
  rw [splitString, parts, splitOn_append, List.map_append]
  rfl

theorem splitString_ne_nil (separator : Char) (text : String) :
    splitString separator text ≠ [] := by
  simpa [splitString] using splitOn_ne_nil separator text.toList

end Text

/-! ## Types with members -/

namespace Catalog

variable {catalog : Catalog} {owner type : DataType} {name : String}

/-- The classes of truth values and of what sections repeat over have no members. -/
def SparesStandard (catalog : Catalog) : Prop :=
  ∀ className ∈ .builtin "bool" :: DataType.iterableClasses, ∀ name type,
    ¬ catalog.Offers (.ofClass className) name type

theorem sparesStandard_of_model?
    (undeclared : ∀ className ∈ .builtin "bool" :: DataType.iterableClasses,
      catalog.model? className = none) :
    catalog.SparesStandard := by
  have bare : ∀ className ∈ .builtin "bool" :: DataType.iterableClasses,
      (className == { moduleName := "fractions", qualifiedName := "Fraction" }) = false := by
    decide
  intro className standard name type offered
  rcases offered.listed with ⟨members, listed, member⟩
  simp only [Catalog.members, undeclared className standard, standardMembers,
    bare className standard] at listed
  cases listed
  cases member

theorem Offers.exists_other_class
    (spared : catalog.SparesStandard) (offered : catalog.Offers owner name type) :
    ∃ className, owner = .ofClass className ∧ className ≠ .builtin "bool" ∧
      className ∉ DataType.iterableClasses := by
  rcases offered.isClass with ⟨className, rfl⟩
  have other : className ∉ .builtin "bool" :: DataType.iterableClasses := by
    intro standard
    exact spared className standard name type offered
  rw [List.mem_cons, not_or] at other
  exact ⟨className, rfl, other⟩

/-- A section over a type with a member binds the value that it is over. -/
theorem Offers.sectionShape
    (spared : catalog.SparesStandard) (offered : catalog.Offers owner name type) :
    owner.sectionShape catalog = .ok (.object, owner) := by
  rcases offered.exists_other_class spared with ⟨className, rfl, noTruth, noLoop⟩
  simp [DataType.sectionShape, DataType.optionalInner?, DataType.admitsNone, DataType.shapeOf,
    DataType.isBool, DataType.element?, noTruth, noLoop]

end Catalog

/-- The types that no member is read from: optional types, truth values and containers. -/
def DataType.Impassable (type : DataType) : Prop :=
  type.admitsNone = true ∨ type.isBool = true ∨
    ∃ origin ∈ iterableClasses, type.origin? = some origin

theorem Catalog.Offers.not_impassable
    {catalog : Catalog} {owner type : DataType} {name : String}
    (spared : catalog.SparesStandard) (offered : catalog.Offers owner name type) :
    ¬ owner.Impassable := by
  rcases offered.exists_other_class spared with ⟨className, rfl, noTruth, noLoop⟩
  rintro (optional | truth | ⟨origin, iterable, known⟩)
  · cases optional
  · exact noTruth (by simpa [DataType.isBool] using truth)
  · cases known
    exact noLoop iterable

namespace Scope

variable {catalog : Catalog} {settings : Settings} {scope inner : Scope}
  {reference subject found : Reference} {opened : Section} {name other front rest : String}

/-! ## Following a name in two parts -/

/-- What was passed before shows in the reasons for a failure only. -/
theorem follow_eq_ok_iff_of_passed
    (passed before components : List String) :
    (follow catalog passed reference components).outcome = .ok found ↔
      (follow catalog before reference components).outcome = .ok found := by
  induction components generalizing passed before reference with
  | nil =>
      rfl
  | cons component later ih =>
      rw [follow_cons_eq_ok_iff, follow_cons_eq_ok_iff]
      refine exists_congr fun member => and_congr_right fun _ => ?_
      exact ih (passed ++ [component]) (before ++ [component])

theorem follow_append_eq_ok_iff
    {passed components later : List String} :
    (follow catalog passed reference (components ++ later)).outcome = .ok found ↔
      ∃ middle,
        (follow catalog passed reference components).outcome = .ok middle ∧
          (follow catalog [] middle later).outcome = .ok found := by
  induction components generalizing passed reference with
  | nil =>
      rw [List.nil_append, follow_eq_ok_iff_of_passed passed []]
      simp [follow]
  | cons component others ih =>
      simp only [List.cons_append, follow_cons_eq_ok_iff, ih]
      constructor
      · rintro ⟨member, resolved, middle, first, second⟩
        exact ⟨middle, ⟨member, resolved, first⟩, second⟩
      · rintro ⟨middle, ⟨member, resolved, first⟩, second⟩
        exact ⟨member, resolved, middle, first, second⟩

theorem lookup_eq_follow (named : name ≠ ".") :
    scope.lookup catalog name = follow catalog [] scope.bound (Text.splitString '.' name) := by
  simp [lookup, named]

/-- A dotted name is looked up by looking up its front and following the rest. -/
theorem lookup_dotted_eq_ok_iff
    (named : front ≠ ".") (dotted : front ++ "." ++ rest ≠ ".") :
    (scope.lookup catalog (front ++ "." ++ rest)).outcome = .ok found ↔
      ∃ subject,
        (scope.lookup catalog front).outcome = .ok subject ∧
          (follow catalog [] subject (Text.splitString '.' rest)).outcome = .ok found := by
  rw [lookup_eq_follow dotted, lookup_eq_follow named, Text.splitString_append,
    follow_append_eq_ok_iff]

/-- There is a first component to follow, so there is a member to begin with. -/
theorem exists_offers_of_follow
    (followed : (follow catalog [] subject (Text.splitString '.' name)).outcome = .ok found) :
    ∃ member type, catalog.Offers subject.type member type := by
  cases components : Text.splitString '.' name with
  | nil =>
      exact absurd components (Text.splitString_ne_nil '.' name)
  | cons component later =>
      rw [components] at followed
      rcases follow_cons_eq_ok_iff.mp followed with ⟨member, resolved, -⟩
      exact ⟨_, _, Catalog.offers_of_resolve resolved⟩

/-! ## Sections over objects -/

theorem exists_enter_object_of_offers
    {member : String} {type : DataType}
    (spared : catalog.SparesStandard) (offered : catalog.Offers subject.type member type)
    (looked : (scope.lookup catalog name).outcome = .ok subject) :
    ∃ opened : Section,
      (scope.enter catalog name false).outcome =
          .ok { scope with sections := opened :: scope.sections } ∧
        opened.shape = .object := by
  have shaped := offered.sectionShape spared
  exact ⟨_, enter_eq_ok_iff.mpr ⟨subject, _, _, looked, shaped, rfl⟩, rfl⟩

theorem bound_of_enter_object
    (opens : (scope.enter catalog name false).outcome =
      .ok { scope with sections := opened :: scope.sections })
    (isObject : opened.shape = .object) :
    (scope.lookup catalog name).outcome =
      .ok (bound { scope with sections := opened :: scope.sections }) := by
  rcases enter_eq_ok_iff.mp opens with ⟨subject, shape, type, looked, shaped, same⟩
  cases same
  cases isObject
  rw [bound_opened, looked, DataType.eq_of_sectionShape_object shaped]
  rfl

/-- Inside a section over an object names are followed from the value that it is over. -/
theorem lookup_inside_eq_follow
    (opens : (scope.enter catalog front false).outcome =
      .ok { scope with sections := opened :: scope.sections })
    (isObject : opened.shape = .object)
    (looked : (scope.lookup catalog front).outcome = .ok subject) (named : rest ≠ ".") :
    lookup catalog { scope with sections := opened :: scope.sections } rest =
      follow catalog [] subject (Text.splitString '.' rest) := by
  have bound := bound_of_enter_object opens isObject
  rw [looked, Except.ok.injEq] at bound
  rw [lookup_eq_follow named, ← bound]

/-- The lookup of a dotted name and of its rest inside a section over its front. -/
theorem lookup_dotted_eq_ok_iff_inside
    (spared : catalog.SparesStandard) (named : front ≠ ".") (restNamed : rest ≠ ".")
    (dotted : front ++ "." ++ rest ≠ ".") :
    (scope.lookup catalog (front ++ "." ++ rest)).outcome = .ok found ↔
      ∃ opened : Section,
        (scope.enter catalog front false).outcome =
            .ok { scope with sections := opened :: scope.sections } ∧
          opened.shape = .object ∧
          (lookup catalog { scope with sections := opened :: scope.sections } rest).outcome =
            .ok found := by
  rw [lookup_dotted_eq_ok_iff named dotted]
  constructor
  · rintro ⟨subject, looked, followed⟩
    rcases exists_offers_of_follow followed with ⟨member, type, offered⟩
    rcases exists_enter_object_of_offers spared offered looked with ⟨opened, opens, isObject⟩
    refine ⟨opened, opens, isObject, ?_⟩
    rw [lookup_inside_eq_follow opens isObject looked restNamed]
    exact followed
  · rintro ⟨opened, opens, isObject, inside⟩
    have looked := bound_of_enter_object opens isObject
    rw [lookup_inside_eq_follow opens isObject looked restNamed] at inside
    exact ⟨_, looked, inside⟩

/-! ## Statements -/

/-- The statement of a reference is that of the value that its name refers to. -/
theorem code?_reference_eq_some_iff_lookup
    {escaped : Bool} {code : Code} :
    (SectionTree.reference escaped name .nil).code? catalog settings scope = some code ↔
      ∃ found shape type,
        (scope.lookup catalog name).outcome = .ok found ∧
          found.type.sectionShape catalog = .ok (shape, type) ∧
          .statement (found.statement catalog settings escaped) false .nil = code := by
  rw [SectionTree.code?_reference_eq_some_iff]
  constructor
  · rintro ⟨entered, after, opens, ends, written⟩
    rcases enter_eq_ok_iff.mp opens with ⟨found, shape, type, looked, shaped, rfl⟩
    cases ends
    exact ⟨found, shape, type, looked, shaped, written⟩
  · rintro ⟨found, shape, type, looked, shaped, written⟩
    exact ⟨_, .nil, enter_eq_ok_iff.mpr ⟨found, shape, type, looked, shaped, rfl⟩, rfl, written⟩

theorem code?_reference_congr
    (same : ∀ found, (scope.lookup catalog name).outcome = .ok found ↔
      (inner.lookup catalog other).outcome = .ok found) (escaped : Bool) :
    (SectionTree.reference escaped name .nil).code? catalog settings scope =
      (SectionTree.reference escaped other .nil).code? catalog settings inner := by
  apply Option.ext
  intro code
  simp only [code?_reference_eq_some_iff_lookup, same]

/-! ## Agreement -/

/-- A dotted name means what its rest means inside a section over its front. -/
structure DottedAgrees (catalog : Catalog) (scope : Scope) (front rest : String) : Prop where
  value : ∀ found,
    (scope.lookup catalog (front ++ "." ++ rest)).outcome = .ok found ↔
      ∃ opened : Section,
        (scope.enter catalog front false).outcome =
            .ok { scope with sections := opened :: scope.sections } ∧
          opened.shape = .object ∧
          (lookup catalog { scope with sections := opened :: scope.sections } rest).outcome =
            .ok found
  /-- The reference is the body of the section, or neither can be compiled. -/
  statement : ∀ (opened : Section) (settings : Settings) (escaped : Bool),
    (scope.enter catalog front false).outcome =
        .ok { scope with sections := opened :: scope.sections } →
      opened.shape = .object →
        (SectionTree.reference escaped (front ++ "." ++ rest) .nil).code? catalog settings scope =
          (SectionTree.reference escaped rest .nil).code? catalog settings
            { scope with sections := opened :: scope.sections }

/--
Dotted names agree with nested sections over objects.  The front and the rest may be
dotted themselves; a lone dot is no dotted name, and no part of one.  A dotted name has
no meaning if what its front refers to is optional, a truth value or a container.
-/
theorem dottedName_agrees
    (spared : catalog.SparesStandard) (named : front ≠ ".")
    (dotted : front ++ "." ++ rest ≠ ".") :
    (rest ≠ "." → scope.DottedAgrees catalog front rest) ∧
      ∀ subject, (scope.lookup catalog front).outcome = .ok subject → subject.type.Impassable →
        ∃ failure, (scope.lookup catalog (front ++ "." ++ rest)).outcome = .error failure := by
  constructor
  · intro restNamed
    refine
      { value := fun found => lookup_dotted_eq_ok_iff_inside spared named restNamed dotted
        statement := ?_ }
    intro opened settings escaped opens isObject
    apply code?_reference_congr
    intro found
    rw [lookup_dotted_eq_ok_iff_inside spared named restNamed dotted]
    constructor
    · rintro ⟨other, otherOpens, -, inside⟩
      rw [opens] at otherOpens
      cases otherOpens
      exact inside
    · intro inside
      exact ⟨opened, opens, isObject, inside⟩
  · intro subject looked impassable
    cases outcome : (scope.lookup catalog (front ++ "." ++ rest)).outcome with
    | error failure =>
        exact ⟨failure, rfl⟩
    | ok found =>
        rcases (lookup_dotted_eq_ok_iff named dotted).mp outcome with ⟨middle, first, followed⟩
        rw [looked] at first
        cases first
        rcases exists_offers_of_follow followed with ⟨member, type, offered⟩
        exact absurd impassable (offered.not_impassable spared)

/-- The class of a customer. -/
def customerClass : ClassName :=
  { moduleName := "models", qualifiedName := "Customer" }

/-- The class of an address. -/
def addressClass : ClassName :=
  { moduleName := "models", qualifiedName := "Address" }

/-- The class of an order. -/
def orderClass : ClassName :=
  { moduleName := "models", qualifiedName := "Order" }

/-- Orders of customers with an address, which may be sent to another address. -/
def orders : Catalog :=
  { models :=
      [{ name := orderClass
         annotations :=
          [("customer", .ofClass customerClass),
            ("sentTo", .union .typing [.ofClass addressClass, .noneType])]
         attributes := []
         bases := [] },
        { name := customerClass
          annotations := [("address", .ofClass addressClass)]
          attributes := []
          bases := [] },
        { name := addressClass
          annotations := [("city", .ofClass (.builtin "str"))]
          attributes := []
          bases := [] }]
    constants := [] }

/-- A city is read through two objects, and not through an address that may be missing. -/
theorem dottedName_agrees_orders :
    orders.SparesStandard ∧
      (lookup orders (.root (.ofClass orderClass)) "customer.address.city").outcome =
        .ok { source := .data, members := ["customer", "address", "city"]
              type := .ofClass (.builtin "str") } ∧
      DottedAgrees orders (.root (.ofClass orderClass)) "customer.address" "city" ∧
      ∃ failure,
        (lookup orders (.root (.ofClass orderClass)) ("sentTo" ++ "." ++ "city")).outcome =
          .error failure := by
  have spared : orders.SparesStandard := by
    apply Catalog.sparesStandard_of_model?
    have undeclared : ∀ className ∈ .builtin "bool" :: DataType.iterableClasses,
        (orders.model? className).isNone = true := by
      decide
    intro className standard
    exact Option.isNone_iff_eq_none.mp (undeclared className standard)
  refine ⟨spared, rfl, ?_, ?_⟩
  · exact (dottedName_agrees spared (by decide) (by decide)).1 (by decide)
  · exact (dottedName_agrees spared (by decide) (by decide)).2 _ rfl (.inl rfl)

end Scope

end TypedMustache
