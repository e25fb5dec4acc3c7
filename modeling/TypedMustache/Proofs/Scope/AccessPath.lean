import TypedMustache.Proofs.Scope.Reachable

/-!
# The paths that names stand for

A name stands for a path: a variable of the generated code, and members that are
read from it one after the other.  `AccessPath` says when a path is typed.  It begins
at a variable in reach, it reads only members that the class reached so far
offers, and it takes an optional value for the value inside only where the
optional value is known to be present.

`Scope.Grown.path_of_lookup` shows that all names of a template stand for typed
paths.  The data and the elements of the open loops are in reach, and what is
known to be present are the subjects of the open sections over optional values.
The invariant is that what an open section binds is reached by such a path too.
-/

namespace TypedMustache

/-! ## Typed paths -/

/--
A value at the end of a typed path.  `starts` are the variables in reach, and
`present` are the expressions that are known not to be absent.
-/
inductive AccessPath (catalog : Catalog) (settings : Settings)
    (starts : Reference → Prop) (present : String → Prop) : Reference → Prop where
  | start
      {reference : Reference} (inReach : starts reference) :
      AccessPath catalog settings starts present reference
  | member
      {owner : Reference} {name : String} {type : DataType}
      (path : AccessPath catalog settings starts present owner)
      (offered : catalog.Offers owner.type name type) :
      AccessPath catalog settings starts present
        { owner with members := owner.members ++ [name], type }
  | inside
      {value : Reference} {inner : DataType}
      (path : AccessPath catalog settings starts present value)
      (optional : value.type.optionalInner? catalog = .ok (some inner))
      (isPresent : present (value.expression settings)) :
      AccessPath catalog settings starts present { value with type := inner }

namespace AccessPath

variable {catalog : Catalog} {settings : Settings}
  {starts moreStarts : Reference → Prop} {present morePresent : String → Prop}
  {reference : Reference}

theorem mono
    (startsGrow : ∀ reference, starts reference → moreStarts reference)
    (presentGrow : ∀ expression, present expression → morePresent expression)
    (path : AccessPath catalog settings starts present reference) :
    AccessPath catalog settings moreStarts morePresent reference := by
  induction path with
  | start inReach =>
      exact .start (startsGrow _ inReach)
  | member path offered ih =>
      exact .member ih offered
  | inside path optional isPresent ih =>
      exact .inside ih optional (presentGrow _ isPresent)

end AccessPath

/-- The expression of a value is its variable and the members after it, joined by dots. -/
theorem Reference.expression_eq_join (settings : Settings) (reference : Reference) :
    reference.expression settings =
      Text.join "." (reference.source.name settings :: reference.members) := rfl

namespace DataType

theorem shapeOf_cases
    {catalog : Catalog} {type inner : DataType} {shape : Shape} {optional : Bool}
    (shaped : shapeOf catalog optional type = .ok (shape, inner)) :
    (shape = .guard ∧ inner = bool) ∨
      (shape = .iteration ∧ type.element? catalog = .ok (some inner)) ∨
        shape = (if optional then .optional else .object) ∧ inner = type := by
  unfold shapeOf at shaped
  split at shaped
  · cases shaped
    exact Or.inl ⟨rfl, rfl⟩
  · split at shaped
    · cases shaped
    · rename_i iterates
      cases shaped
      exact Or.inr (Or.inl ⟨rfl, iterates⟩)
    · cases shaped
      exact Or.inr (Or.inr ⟨rfl, rfl⟩)

/-- The ways in which a type gives a section its shape and what is bound inside it. -/
theorem sectionShape_cases
    {catalog : Catalog} {type inner : DataType} {shape : Shape}
    (shaped : type.sectionShape catalog = .ok (shape, inner)) :
    (shape = .guard ∧ inner = bool) ∨
      (shape = .iteration ∧ type.present.element? catalog = .ok (some inner)) ∨
        (shape = .optional ∧ type.optionalInner? catalog = .ok (some inner)) ∨
          (shape = .object ∧ type.optionalInner? catalog = .ok none ∧ inner = type) := by
  have looked := optionalInner?_of_sectionShape shaped
  unfold sectionShape at shaped
  rw [looked] at shaped ⊢
  cases admits : type.admitsNone with
  | true =>
      simp only [admits, if_true] at shaped
      rcases shapeOf_cases shaped with guard | iterates | ⟨rfl, rfl⟩
      · exact Or.inl guard
      · exact Or.inr (Or.inl iterates)
      · exact Or.inr (Or.inr (Or.inl ⟨rfl, rfl⟩))
  | false =>
      rw [present_of_admitsNone_eq_false admits]
      simp only [admits, Bool.false_eq_true, if_false] at shaped
      rcases shapeOf_cases shaped with guard | iterates | ⟨rfl, rfl⟩
      · exact Or.inl guard
      · exact Or.inr (Or.inl iterates)
      · exact Or.inr (Or.inr (Or.inr ⟨rfl, rfl, rfl⟩))

theorem optionalInner?_of_sectionShape_optional
    {catalog : Catalog} {type inner : DataType}
    (shaped : type.sectionShape catalog = .ok (.optional, inner)) :
    type.optionalInner? catalog = .ok (some inner) := by
  simpa using sectionShape_cases shaped

theorem eq_of_sectionShape_object
    {catalog : Catalog} {type inner : DataType}
    (shaped : type.sectionShape catalog = .ok (.object, inner)) :
    inner = type := by
  have shapes := sectionShape_cases shaped
  simp only [reduceCtorEq, false_and, true_and, false_or] at shapes
  exact shapes.2

end DataType

namespace Scope

/-! ## What a scope has in reach -/

/-- The variables of the generated code that are bound where a scope is open. -/
inductive InReach (catalog : Catalog) (scope : Scope) : Reference → Prop where
  /-- The data of the template. -/
  | data : InReach catalog scope (.ofVariable .data scope.dataType)
  /-- The element of an open loop. -/
  | element
      {opened : Section} {depth : Nat} {type : DataType}
      (isOpen : opened ∈ scope.sections)
      (upright : opened.inverted = false) (loops : opened.shape = .iteration)
      (shaped : opened.subject.type.sectionShape catalog = .ok (.iteration, type))
      (binds : opened.bound = .ofVariable (.element depth) type) :
      InReach catalog scope (.ofVariable (.element depth) type)

/-- An open section over an optional value makes sure that it is present. -/
def Ensures (settings : Settings) (scope : Scope) (expression : String) : Prop :=
  ∃ opened ∈ scope.sections,
    opened.inverted = false ∧ opened.shape = .optional ∧
      opened.subject.expression settings = expression

variable {catalog : Catalog} {settings : Settings} {dataType : DataType}
  {scope entered : Scope} {name : String} {inverted : Bool} {reference found : Reference}

/-- A value at the end of a typed path in a scope. -/
abbrev HasPath (catalog : Catalog) (settings : Settings) (scope : Scope) : Reference → Prop :=
  AccessPath catalog settings (scope.InReach catalog) (scope.Ensures settings)

/-- What is in reach around a section is in reach inside it. -/
theorem HasPath.of_enter
    (path : scope.HasPath catalog settings reference)
    (opened : (scope.enter catalog name inverted).outcome = .ok entered) :
    entered.HasPath catalog settings reference := by
  rcases enter_eq_ok_iff.mp opened with ⟨subject, shape, inner, -, -, rfl⟩
  refine path.mono ?_ ?_
  · intro start inReach
    cases inReach with
    | data =>
        exact .data
    | element isOpen upright loops shaped binds =>
        exact .element (List.mem_cons_of_mem _ isOpen) upright loops shaped binds
  · rintro expression ⟨outer, isOpen, ensured⟩
    exact ⟨outer, List.mem_cons_of_mem _ isOpen, ensured⟩

theorem HasPath.of_follow
    {passed components : List String}
    (path : scope.HasPath catalog settings reference)
    (followed : (follow catalog passed reference components).outcome = .ok found) :
    scope.HasPath catalog settings found := by
  induction components generalizing passed reference with
  | nil =>
      cases followed
      exact path
  | cons component rest ih =>
      rcases follow_cons_eq_ok_iff.mp followed with ⟨member, resolved, later⟩
      exact ih (.member path (Catalog.offers_of_resolve resolved)) later

theorem HasPath.of_lookup
    (path : scope.HasPath catalog settings scope.bound)
    (looked : (scope.lookup catalog name).outcome = .ok found) :
    scope.HasPath catalog settings found := by
  unfold lookup at looked
  split at looked
  · cases looked
    exact path
  · exact path.of_follow looked

/-- What names mean members of is reached by a typed path. -/
theorem Grown.path_bound
    (settings : Settings) (grown : Grown catalog dataType scope) :
    scope.HasPath catalog settings scope.bound := by
  induction grown with
  | root =>
      exact .start .data
  | @enter scope entered name inverted grown opened ih =>
      have outerPath := ih.of_enter opened
      rcases enter_eq_ok_iff.mp opened with ⟨subject, shape, inner, looked, shaped, same⟩
      have subjectPath := (ih.of_lookup looked).of_enter opened
      have bound : entered.bound = scope.boundBy subject inverted shape inner := by
        rw [same]
        exact bound_opened ..
      rw [bound]
      unfold boundBy
      cases inverted with
      | true =>
          exact outerPath
      | false =>
          have isOpen :
              { name, subject, inverted := false, shape
                bound := scope.boundBy subject false shape inner
                loopDepth := scope.loopsInside false shape } ∈ entered.sections := by
            rw [same]
            exact List.mem_cons_self
          -- A loop begins a new path; an optional value is the only one taken for what is inside.
          cases shape with
          | guard =>
              exact outerPath
          | iteration =>
              exact .start (.element isOpen rfl rfl shaped rfl)
          | optional =>
              exact .inside subjectPath (DataType.optionalInner?_of_sectionShape_optional shaped)
                ⟨_, isOpen, rfl, rfl, rfl⟩
          | object =>
              rw [DataType.eq_of_sectionShape_object shaped]
              exact subjectPath

/-- Every name that has a meaning stands for a typed path. -/
theorem Grown.path_of_lookup
    (settings : Settings) (grown : Grown catalog dataType scope)
    (looked : (scope.lookup catalog name).outcome = .ok found) :
    scope.HasPath catalog settings found :=
  (grown.path_bound settings).of_lookup looked

end Scope

end TypedMustache
