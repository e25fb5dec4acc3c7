import TypedMustache.DataType.Shape
import TypedMustache.Proofs.DataType.Formed

/-!
# Types with no value added

`Optional` and a bar before the value for no value add the class of no value to
the members of a type.  What a value of the new type is like when there is one is
what a value of the old type is like: both are written alike, and a section over
the one has the control flow of a section over the other, but for a test that
there is a value.  `SeenThrough` is what is said of the two types.

To look through a type its other members are joined once more.  That fails if there
are several and one of them is a bare class: `Union` refuses bare classes, but a
bar lets them in.  `seenThrough_of_formed` says of every type that can be formed
that it is seen through unless it is obscured in this way, and that nothing can be
told of it otherwise.

A type that is a union comes back in the style of `Union`, whatever its own
style was.  Comparison does not see the difference (`same_inStyle`).
-/

namespace TypedMustache.DataType

variable {texts : Texts} {type : DataType} {style : UnionStyle} {members : List DataType}

/-! ## Members of a type -/

/-- Whether the class of no value is the type or one of its members. -/
def holdsNone (type : DataType) : Bool :=
  type.members.any isNoneType

/-- The members of a type that are not the class of no value. -/
def others (type : DataType) : List DataType :=
  type.members.filter (!isNoneType ·)

/-- The same type, with another style if it is a union. -/
def inStyle (style : UnionStyle) : DataType → DataType
  | union _ members => union style members
  | other => other

theorem same_noneType (type : DataType) : type.same noneType = type.isNoneType := by
  cases type <;> simp [same, noneType, isNoneType]

/-- In which style a union is written does not matter for what it is the same as. -/
theorem same_inStyle (style : UnionStyle) (type other : DataType) :
    (type.inStyle style).same other = type.same other := by
  cases type with
  | union _ members =>
      cases other <;> simp only [inStyle, same]
  | _ =>
      rfl

/-- What is recognised as the class of no value is that class. -/
theorem eq_noneType_of_isNoneType (isNone : type.isNoneType = true) : type = noneType := by
  cases type with
  | ofClass name =>
      have named : name = .noneType := by
        simpa [isNoneType] using isNone
      rw [named]
      rfl
  | _ =>
      cases isNone

/-- A type admits no value if it is a union with the class of no value among its members. -/
theorem admitsNone_eq (type : DataType) :
    type.admitsNone = (type.isUnion && type.holdsNone) := by
  cases type with
  | union style members =>
      exact (Bool.true_and _).symm
  | _ =>
      rfl

/-- Types that are no unions are their own members. -/
theorem flatMap_members (single : ∀ member ∈ members, member.isUnion = false) :
    members.flatMap DataType.members = members := by
  induction members with
  | nil =>
      rfl
  | cons first rest ih =>
      rw [List.flatMap_cons, members_of_isUnion_eq_false (single first List.mem_cons_self),
        ih fun member isMember => single member (List.mem_cons_of_mem _ isMember)]
      rfl

/-- A union has no union among its members. -/
theorem isUnion_of_mem_members (wellFormed : type.WellFormed texts) :
    ∀ member ∈ type.members, member.isUnion = false := by
  cases type with
  | union style members =>
      intro member among
      exact (wellFormed.isMember member among).single
  | _ =>
      intro member among
      rw [List.mem_singleton.mp among]
      rfl

/-- The members of a type make up the type again. -/
theorem joined_of_distinct
    {annotations : List DataType}
    (wellFormed : type.WellFormed texts)
    (same : distinct (annotations.flatMap DataType.members) = type.members) :
    joined style annotations = type.inStyle style := by
  unfold joined
  rw [same]
  cases type with
  | union _ members =>
      have several := wellFormed.several
      match members, several with
      | _ :: _ :: _, _ => rfl
  | _ =>
      rfl

/-- The members of a type, joined again, are that type, up to the style. -/
theorem joined_members (wellFormed : type.WellFormed texts) :
    joined style type.members = type.inStyle style := by
  apply joined_of_distinct wellFormed
  rw [flatMap_members (isUnion_of_mem_members wellFormed)]
  exact distinct_eq_self (apart_members wellFormed)

/-! ## The class of no value as one more member -/

/-- The class of no value is added to the members only if it is not one of them. -/
theorem distinct_members_append_noneType (wellFormed : type.WellFormed texts) :
    distinct (type.members ++ [noneType]) =
      if type.holdsNone then type.members else type.members ++ [noneType] := by
  rw [distinct_append_singleton, distinct_eq_self (apart_members wellFormed)]
  simp only [same_noneType]
  rfl

/-- A type that admits no value already is not changed but for its style. -/
theorem joined_noneType_of_holdsNone
    (wellFormed : type.WellFormed texts) (admits : type.holdsNone = true) :
    joined style [type, noneType] = type.inStyle style := by
  apply joined_of_distinct wellFormed
  have both : [type, noneType].flatMap DataType.members = type.members ++ [noneType] := by
    simp [noneType, DataType.members]
  rw [both, distinct_members_append_noneType wellFormed, admits, if_pos rfl]

/-- Any other type gets one more member. -/
theorem joined_noneType
    (wellFormed : type.WellFormed texts) (other : type.holdsNone = false) :
    joined style [type, noneType] = union style (type.members ++ [noneType]) := by
  have both : [type, noneType].flatMap DataType.members = type.members ++ [noneType] := by
    simp [noneType, DataType.members]
  unfold joined
  rw [both, distinct_members_append_noneType wellFormed, other]
  rcases List.exists_cons_of_ne_nil (members_ne_nil wellFormed) with ⟨first, rest, same⟩
  rw [same]
  cases rest <;> rfl

/-- If the class of no value is not among the members, all of them are other members. -/
theorem others_of_holdsNone_eq_false (present : type.holdsNone = false) :
    type.others = type.members := by
  rw [others, List.filter_eq_self]
  simpa [holdsNone] using present

/-- Adding no value leaves the other members as they are. -/
theorem others_joined_noneType (wellFormed : type.WellFormed texts) :
    (joined style [type, noneType]).others = type.others := by
  cases holds : type.holdsNone with
  | true =>
      rw [joined_noneType_of_holdsNone wellFormed holds]
      cases type <;> rfl
  | false =>
      rw [joined_noneType wellFormed holds]
      simp [others, members, noneType, isNoneType]

/-- There are other members beside the class of no value. -/
theorem others_ne_nil (wellFormed : type.WellFormed texts) (admits : type.admitsNone = true) :
    type.others ≠ [] := by
  cases type with
  | union style members =>
      have flat : IsFlat texts members := wellFormed
      match members, flat.several with
      | first :: second :: rest, _ =>
        intro alone
        have all : ∀ member ∈ first :: second :: rest, member.isNoneType = true := by
          simpa [others, DataType.members] using alone
        have same : first.same second = false :=
          (List.pairwise_cons.mp flat.apart).1 second List.mem_cons_self
        rw [eq_noneType_of_isNoneType (all second (by simp)), same_noneType,
          all first List.mem_cons_self] at same
        cases same
  | _ =>
      cases admits

theorem mem_members_of_mem_others {member : DataType} (other : member ∈ type.others) :
    member ∈ type.members :=
  (List.mem_filter.mp other).1

/-! ## Looking through -/

/-- A type with several other members than the class of no value, one of which is a bare class. -/
structure IsObscured (type : DataType) : Prop where
  several : 2 ≤ type.others.length
  bare : ∃ name : ClassName, name.isBare = true ∧ ofClass name ∈ type.others

/-- Whether a type is obscured depends on its other members alone. -/
theorem isObscured_congr {other : DataType} (same : other.others = type.others) :
    other.IsObscured ↔ type.IsObscured := by
  constructor
  · rintro ⟨several, bare⟩
    rw [same] at several bare
    exact ⟨several, bare⟩
  · rintro ⟨several, bare⟩
    rw [← same] at several bare
    exact ⟨several, bare⟩

variable {catalog : Catalog}

/-- There is nothing behind a type that always has a value. -/
theorem optionalInner?_of_admitsNone_eq_false (present : type.admitsNone = false) :
    type.optionalInner? catalog = .ok none := by
  simp [optionalInner?, present]

/-- A type that always has a value is not optional. -/
theorem isOptional_of_admitsNone_eq_false (present : type.admitsNone = false) :
    type.isOptional catalog = .ok false := by
  rw [isOptional, optionalInner?_of_admitsNone_eq_false present]
  rfl

/-- The members that have values are the other members. -/
theorem presentMembers_eq_others (admits : type.admitsNone = true) :
    type.presentMembers = type.others := by
  cases type with
  | union =>
      rfl
  | _ =>
      cases admits

/-- What is left of a union without the class of no value can be a member of one again. -/
theorem isMember_of_mem_others
    (wellFormed : type.WellFormed texts) (admits : type.admitsNone = true)
    {member : DataType} (isOther : member ∈ type.others) : member.IsMember texts := by
  cases type with
  | union style members =>
      have flat : IsFlat texts members := wellFormed
      exact flat.isMember member (mem_members_of_mem_others isOther)
  | _ =>
      cases admits

/-- What members mean as arguments of `Union` are the members themselves. -/
theorem map_typeArgument_others
    (wellFormed : type.WellFormed texts) (admits : type.admitsNone = true) :
    type.others.map typeArgument = type.others := by
  rw [List.map_congr_left fun member isOther =>
    (isMember_of_mem_others wellFormed admits isOther).meant]
  exact List.map_id' _

/-- The only members that could be refused when the union is formed again are bare classes. -/
theorem refusal?_of_mem_others
    (wellFormed : type.WellFormed texts) (admits : type.admitsNone = true)
    {member : DataType} (isOther : member ∈ type.others) :
    member.refusal? texts =
      none ∨ ∃ name : ClassName, name.isBare = true ∧ member = ofClass name := by
  cases bare : member.isBare with
  | false =>
      exact Or.inl ((isMember_of_mem_others wellFormed admits isOther).admissible bare)
  | true =>
      exact Or.inr (exists_name_of_isBare bare)

/-- Behind a type that is not obscured are its other members. -/
theorem optionalInner?_of_clear
    (wellFormed : type.WellFormed catalog.texts) (admits : type.admitsNone = true)
    (clear : ¬ type.IsObscured) :
    type.optionalInner? catalog = .ok (some (joined .typing type.others)) := by
  have single : ∀ member ∈ type.others, member.isUnion = false := fun member isOther =>
    isUnion_of_mem_members wellFormed member (mem_members_of_mem_others isOther)
  have some := others_ne_nil wellFormed admits
  simp only [optionalInner?, admits, if_true, presentMembers_eq_others admits]
  split
  · rename_i only alone
    have isSingle := single only (by simp [alone])
    simp [alone, joined, members_of_isUnion_eq_false isSingle, distinct]
  · rename_i notSingle
    have several : 2 ≤ type.others.length := by
      by_contra few
      have one : type.others.length = 1 := by
        have positive := List.length_pos_iff.mpr some
        omega
      rcases List.length_eq_one_iff.mp one with ⟨only, alone⟩
      exact notSingle only alone
    have accepted : ∀ member ∈ type.others, member.refusal? catalog.texts = none := by
      intro member isOther
      rcases refusal?_of_mem_others wellFormed admits isOther with accepted | ⟨name, bare, rfl⟩
      · exact accepted
      · exact (clear ⟨several, name, bare, isOther⟩).elim
    have united : unionOf catalog.texts type.others = .ok (joined .typing type.others) :=
      unionOf_eq_ok_iff.mpr ⟨some, accepted, by rw [map_typeArgument_others wellFormed admits]⟩
    rw [united]
    rfl

/-- Joining the other members once more fails for the first bare class among them. -/
theorem optionalInner?_of_obscured
    (wellFormed : type.WellFormed catalog.texts) (admits : type.admitsNone = true)
    (obscured : type.IsObscured) :
    ∃ name : ClassName, name.isBare = true ∧ ofClass name ∈ type.others ∧
      type.optionalInner? catalog = .error (bareRefusal name) := by
  rcases obscured with ⟨several, known, bare, isOther⟩
  have refused : (type.others.findSome? (refusal? catalog.texts)).isSome = true := by
    rw [List.findSome?_isSome_iff]
    exact ⟨_, isOther, by rw [refusal?_of_isBare bare]; rfl⟩
  rcases Option.isSome_iff_exists.mp refused with ⟨failure, found⟩
  rcases List.exists_of_findSome?_eq_some found with ⟨member, first, refusal⟩
  -- The first member that is refused need not be the one that is known to be bare.
  rcases refusal?_of_mem_others wellFormed admits first with accepted | ⟨name, isBare, rfl⟩
  · rw [accepted] at refusal
    cases refusal
  · rw [refusal?_of_isBare isBare] at refusal
    cases refusal
    refine ⟨name, isBare, first, ?_⟩
    have solid : type.others ≠ [] := List.ne_nil_of_mem isOther
    simp only [optionalInner?, admits, if_true, presentMembers_eq_others admits]
    split
    · rename_i only alone
      rw [alone] at several
      exact absurd several (by simp)
    · simp [unionOf, typeArguments, found, solid, Except.map]

/-- What is left of a type without the class of no value is not optional. -/
theorem admitsNone_joined_others
    (wellFormed : type.WellFormed texts) :
    (joined style type.others).admitsNone = false := by
  have single : ∀ member ∈ type.others, member.isUnion = false := fun member isOther =>
    isUnion_of_mem_members wellFormed member (mem_members_of_mem_others isOther)
  have kept : ∀ member ∈ distinct (type.others.flatMap members), member ∈ type.others := by
    intro member isKept
    rw [flatMap_members single] at isKept
    exact mem_of_mem_distinct isKept
  unfold joined
  split
  · rename_i only same
    rw [same] at kept
    rw [admitsNone_eq, single only (kept only List.mem_cons_self)]
    rfl
  · apply List.any_eq_false.mpr
    intro member isKept
    simpa using (List.mem_filter.mp (kept member isKept)).2

/-- Behind an optional type is one that is not optional. -/
theorem isOptional_of_optionalInner?
    {inner : DataType}
    (wellFormed : type.WellFormed catalog.texts)
    (held : type.optionalInner? catalog = .ok (some inner)) :
    inner.isOptional catalog = .ok false := by
  cases admits : type.admitsNone with
  | false =>
      rw [optionalInner?_of_admitsNone_eq_false admits] at held
      cases held
  | true =>
      by_cases obscured : type.IsObscured
      · rcases optionalInner?_of_obscured wellFormed admits obscured with ⟨name, -, -, failed⟩
        rw [failed] at held
        cases held
      · rw [optionalInner?_of_clear wellFormed admits obscured] at held
        cases held
        exact isOptional_of_admitsNone_eq_false (admitsNone_joined_others wellFormed)

/-- With no value added to it a type is optional, unless it is the class of no value. -/
theorem admitsNone_joined_noneType
    (wellFormed : type.WellFormed texts) (other : type.holdsNone = false) :
    (joined style [type, noneType]).admitsNone = true := by
  rw [joined_noneType wellFormed other]
  simp [admitsNone, noneType, isNoneType]

/-- Behind a type with no value added is the type itself. -/
theorem optionalInner?_joined_noneType
    (wellFormed : type.WellFormed catalog.texts)
    (flat : (joined style [type, noneType]).WellFormed catalog.texts)
    (other : type.holdsNone = false) (clear : ¬ type.IsObscured) :
    (joined style [type, noneType]).optionalInner? catalog = .ok (some (type.inStyle .typing)) := by
  have same : (joined style [type, noneType]).others = type.others :=
    others_joined_noneType wellFormed
  rw [optionalInner?_of_clear flat (admitsNone_joined_noneType wellFormed other)
    (by rwa [isObscured_congr same]), same, others_of_holdsNone_eq_false other,
    joined_members wellFormed]

/-! ## Shapes and classifications -/

/-- A type that always has a value is shaped as it stands. -/
theorem sectionShape_of_admitsNone_eq_false (present : type.admitsNone = false) :
    type.sectionShape catalog = shapeOf catalog false type := by
  rw [sectionShape, optionalInner?_of_admitsNone_eq_false present]

/-- An optional type has the shape of what it holds, marked as optional. -/
theorem sectionShape_of_optionalInner?
    {inner : DataType} (held : type.optionalInner? catalog = .ok (some inner)) :
    type.sectionShape catalog = shapeOf catalog true inner := by
  rw [sectionShape, held]

/-- Nothing but the truth values are guarded by their own value. -/
theorem eq_bool_of_shapeOf {optional : Bool} {inner : DataType}
    (shaped : shapeOf catalog optional type = .ok (.guard, inner)) : inner = bool := by
  unfold shapeOf at shaped
  split at shaped
  · cases shaped
    rfl
  · split at shaped
    · cases shaped
    · cases shaped
    · cases optional <;> cases shaped

/-- Only a condition on a value turns into a test that there is one. -/
theorem shapeOf_inStyle (style : UnionStyle) (type : DataType) :
    shapeOf catalog true (type.inStyle style) =
      (shapeOf catalog false type).map fun found =>
        if found.1 = .object then (.optional, type.inStyle style) else found := by
  have truth : (type.inStyle style).isBool = type.isBool := by
    cases type <;> rfl
  have elements : (type.inStyle style).element? catalog = type.element? catalog := by
    cases type <;> rfl
  unfold shapeOf
  rw [truth, elements]
  cases type.isBool with
  | true =>
      rfl
  | false =>
      rcases type.element? catalog with failure | (_ | element) <;> rfl

/-- The style of a union makes no difference to what is behind it. -/
theorem optionalInner?_inStyle (style : UnionStyle) (type : DataType) :
    (type.inStyle style).optionalInner? catalog = type.optionalInner? catalog := by
  cases type <;> rfl

/-- The style of a union does not matter for its sections. -/
theorem sectionShape_inStyle (admits : type.admitsNone = true) :
    (type.inStyle style).sectionShape catalog = type.sectionShape catalog := by
  rw [sectionShape, sectionShape, optionalInner?_inStyle]
  cases held : type.optionalInner? catalog with
  | error failure =>
      rfl
  | ok inner =>
      have same := optionalInner?_of_present held
      rw [if_pos admits] at same
      rw [same]

/-- Nor does it matter for the sort of the values that are present. -/
theorem classifyPresent_inStyle (style : UnionStyle) (type : DataType) :
    (type.inStyle style).classifyPresent catalog = type.classifyPresent catalog := by
  cases type <;> rfl

/-- Nor for the sort of the type. -/
theorem classify_inStyle (style : UnionStyle) (type : DataType) :
    (type.inStyle style).classify catalog = type.classify catalog := by
  rw [classify, classify, optionalInner?_inStyle]
  cases type.optionalInner? catalog with
  | error failure =>
      rfl
  | ok inner =>
      cases inner with
      | none =>
          simp [Except.map, classifyPresent_inStyle]
      | some inner =>
          rfl

/-- A type that always has a value is sorted as it stands. -/
theorem classify_of_admitsNone_eq_false (present : type.admitsNone = false) :
    type.classify catalog = .ok (type.classifyPresent catalog) := by
  rw [classify, optionalInner?_of_admitsNone_eq_false present]
  rfl

theorem admitsNone_of_holdsNone_eq_false (other : type.holdsNone = false) :
    type.admitsNone = false := by
  rw [admitsNone_eq, other, Bool.and_false]

/-- A value is written alike whether or not it may be absent. -/
theorem classify_joined_noneType
    (wellFormed : type.WellFormed catalog.texts)
    (flat : (joined style [type, noneType]).WellFormed catalog.texts)
    (other : type.holdsNone = false) (clear : ¬ type.IsObscured) :
    (joined style [type, noneType]).classify catalog = type.classify catalog := by
  rw [classify_of_admitsNone_eq_false (admitsNone_of_holdsNone_eq_false other), classify,
    optionalInner?_joined_noneType wellFormed flat other clear]
  simp [Except.map, classifyPresent_inStyle]

/-- The class of no value is written like the value that stands for it. -/
theorem classify_noneType (undeclared : catalog.model? .noneType = none) :
    noneType.classify catalog = .ok .object := by
  have unlisted : classTable.lookup .noneType = none := by
    decide
  have noException : ClassName.noneType.qualifiedName ∉ Catalog.builtinExceptions := by
    decide
  have alone (ancestor : ClassName) (different : (ClassName.noneType == ancestor) = false) :
      catalog.descends ancestor .noneType = false := by
    simp [Catalog.descends, Catalog.descendsWithin, undeclared, different, noException]
  rw [classify_of_admitsNone_eq_false rfl, noneType, classifyPresent, classifyClass]
  simp only [unlisted]
  rw [alone .renderable (by decide), alone (.builtin "BaseException") (by decide)]
  rfl

/-- A type is sorted like what it means as an argument. -/
theorem classify_typeArgument
    (undeclared : catalog.model? .noneType = none) (type : DataType) :
    type.typeArgument.classify catalog = type.classify catalog := by
  unfold typeArgument
  split
  · exact classify_noneType undeclared
  · rfl
  · rfl

/-! ## Types with no value added -/

/-- The type of values that are of another type or absent. -/
structure IsOptionalOf (catalog : Catalog) (type optional : DataType) : Prop where
  isOptional : optional.isOptional catalog = .ok true
  guard : ∀ inner, type.sectionShape catalog = .ok (.guard, inner) →
    optional.sectionShape catalog = .ok (.guard, bool)
  iteration : ∀ element, type.sectionShape catalog = .ok (.iteration, element) →
    optional.sectionShape catalog = .ok (.iteration, element)
  /-- What is bound equals the type; comparison cannot tell them apart. -/
  object : ∀ inner, type.sectionShape catalog = .ok (.object, inner) →
    ∃ present, optional.sectionShape catalog = .ok (.optional, present) ∧
      present = type.inStyle .typing ∧ ∀ other, present.same other = type.same other
  failure : ∀ failure, type.sectionShape catalog = .error failure →
    optional.sectionShape catalog = .error failure

/-- A clear type joined with the class of no value is the optional type of it. -/
theorem isOptionalOf_joined
    (wellFormed : type.WellFormed catalog.texts)
    (flat : (joined style [type, noneType]).WellFormed catalog.texts)
    (other : type.holdsNone = false) (clear : ¬ type.IsObscured) :
    IsOptionalOf catalog type (joined style [type, noneType]) := by
  have held := optionalInner?_joined_noneType wellFormed flat other clear
  have before : type.sectionShape catalog = shapeOf catalog false type :=
    sectionShape_of_admitsNone_eq_false (admitsNone_of_holdsNone_eq_false other)
  have after : (joined style [type, noneType]).sectionShape catalog = _ :=
    (sectionShape_of_optionalInner? held).trans (shapeOf_inStyle .typing type)
  constructor
  · rw [isOptional, held]
    rfl
  · intro inner shaped
    rw [before] at shaped
    rw [after, shaped, eq_bool_of_shapeOf shaped]
    rfl
  · intro element shaped
    rw [after, ← before, shaped]
    rfl
  · intro inner shaped
    rw [after, ← before, shaped]
    exact ⟨_, rfl, rfl, same_inStyle .typing type⟩
  · intro failure shaped
    rw [after, ← before, shaped]
    rfl

/--
How a type with no value added to it is seen.  The type is read as an argument of
`Optional` is: a text is a name that is not looked up.
-/
structure SeenThrough (catalog : Catalog) (type optional : DataType) : Prop where
  classification : optional.classify catalog = type.classify catalog
  /-- What is behind it is not optional once more. -/
  inner : ∀ inner, optional.optionalInner? catalog = .ok (some inner) →
    inner.isOptional catalog = .ok false
  added : type ≠ nothing → type ≠ noneType → type.isOptional catalog = .ok false →
    IsOptionalOf catalog type.typeArgument optional
  kept : type.isOptional catalog = .ok true →
    optional.sectionShape catalog = type.sectionShape catalog

/-- Nothing can be told of a type, because of a bare class among its members. -/
structure Opaque (catalog : Catalog) (type : DataType) (name : ClassName) : Prop where
  inner : type.optionalInner? catalog = .error (bareRefusal name)
  isOptional : type.isOptional catalog = .error (bareRefusal name)
  classification : type.classify catalog = .error (bareRefusal name)
  shape : type.sectionShape catalog = .error (bareRefusal name)

/-- Where looking through a type fails, whatever depends on it fails in the same way. -/
theorem opaque_of_optionalInner?
    {name : ClassName} (failed : type.optionalInner? catalog = .error (bareRefusal name)) :
    Opaque catalog type name := by
  constructor
  · exact failed
  · rw [isOptional, failed]
    rfl
  · rw [classify, failed]
    rfl
  · rw [sectionShape, failed]

/-- Where the question has an answer, it tells whether no value is allowed for. -/
theorem admitsNone_of_isOptional
    {answer : Bool} (answered : type.isOptional catalog = .ok answer) :
    type.admitsNone = answer := by
  rcases Attempt.map_eq_ok_iff.mp answered with ⟨inner, found, rfl⟩
  rw [optionalInner?_of_present found]
  cases type.admitsNone <;> rfl

theorem admitsNone_inStyle (style : UnionStyle) (type : DataType) :
    (type.inStyle style).admitsNone = type.admitsNone := by
  cases type <;> rfl

/-- A type that admits no value has the class of no value among its members. -/
theorem holdsNone_of_admitsNone (admits : type.admitsNone = true) : type.holdsNone = true := by
  rw [admitsNone_eq, Bool.and_eq_true] at admits
  exact admits.2

/-- Being an argument makes nothing but the value for no value a class of no value. -/
theorem holdsNone_typeArgument_eq_false
    (isType : type ≠ nothing) (other : type ≠ noneType) (present : type.admitsNone = false) :
    type.typeArgument.holdsNone = false := by
  rw [admitsNone_eq, Bool.and_eq_false_iff] at present
  rcases present with single | without
  · have alone : type.typeArgument.members = [type.typeArgument] := by
      apply members_of_isUnion_eq_false
      rw [isUnion_typeArgument, single]
    rw [holdsNone, alone]
    unfold typeArgument
    split
    · exact (isType rfl).elim
    · rfl
    · cases isNone : type.isNoneType with
      | false =>
          simp [isNone]
      | true =>
          exact (other (eq_noneType_of_isNoneType isNone)).elim
  · unfold typeArgument
    split
    · exact (isType rfl).elim
    · rfl
    · exact without

/-- A type that is no union has no two members, and so none that could obscure another. -/
theorem isUnion_of_isObscured (obscured : type.IsObscured) : type.isUnion = true := by
  by_contra notUnion
  have alone := members_of_isUnion_eq_false (Bool.not_eq_true _ ▸ notUnion)
  have few : type.others.length ≤ type.members.length := List.length_filter_le _ _
  rw [alone, List.length_singleton] at few
  exact absurd obscured.several (by omega)

theorem typeArgument_of_isUnion (united : type.isUnion = true) : type.typeArgument = type := by
  cases type with
  | union =>
      rfl
  | _ =>
      cases united

/-- A type that is obscured as an argument is obscured itself. -/
theorem isObscured_of_typeArgument (obscured : type.typeArgument.IsObscured) :
    type.IsObscured := by
  have united := isUnion_of_isObscured obscured
  rw [isUnion_typeArgument] at united
  rwa [typeArgument_of_isUnion united] at obscured

theorem isPart_noneType : noneType.IsPart texts :=
  ⟨trivial, rfl, fun _ => rfl⟩

/-- What can be part of a union can be joined with the class of no value. -/
theorem wellFormed_joined_noneType (isPart : type.IsPart texts) :
    (joined style [type, noneType]).WellFormed texts := by
  refine (wellFormed_joined (List.cons_ne_nil _ _) ?_).1
  rw [List.forall_mem_cons, List.forall_mem_singleton]
  exact ⟨isPart, isPart_noneType⟩

/-- A type that is not obscured is seen through with no value added to it. -/
theorem seenThrough_joined
    (undeclared : catalog.model? .noneType = none)
    (wellFormed : type.WellFormed catalog.texts)
    (isPart : type.typeArgument.IsPart catalog.texts) (clear : ¬ type.IsObscured) :
    SeenThrough catalog type (joined style [type.typeArgument, noneType]) := by
  have flat : (joined style [type.typeArgument, noneType]).WellFormed catalog.texts :=
    wellFormed_joined_noneType isPart
  have clearArgument : ¬ type.typeArgument.IsObscured := fun obscured =>
    clear (isObscured_of_typeArgument obscured)
  constructor
  · rw [← classify_typeArgument undeclared type]
    cases holds : type.typeArgument.holdsNone with
    | false =>
        exact classify_joined_noneType isPart.wellFormed flat holds clearArgument
    | true =>
        rw [joined_noneType_of_holdsNone isPart.wellFormed holds]
        exact classify_inStyle style _
  · intro inner held
    exact isOptional_of_optionalInner? flat held
  · intro isType other present
    have without : type.typeArgument.holdsNone = false :=
      holdsNone_typeArgument_eq_false isType other (admitsNone_of_isOptional present)
    exact isOptionalOf_joined isPart.wellFormed flat without clearArgument
  · intro optional
    have admits := admitsNone_of_isOptional optional
    -- Only a union can be without a value, and being an argument does not change a union.
    cases type with
    | union other members =>
        have unchanged : (union other members).typeArgument = union other members := rfl
        rw [unchanged, joined_noneType_of_holdsNone wellFormed (holdsNone_of_admitsNone admits)]
        exact sectionShape_inStyle admits
    | _ =>
        cases admits

/-- An obscured type is opaque with no value added to it. -/
theorem opaque_joined
    (isPart : type.typeArgument.IsPart catalog.texts) (obscured : type.IsObscured) :
    ∃ name : ClassName, name.isBare = true ∧ ofClass name ∈ type.others ∧
      Opaque catalog (joined style [type.typeArgument, noneType]) name := by
  have united := isUnion_of_isObscured obscured
  rw [typeArgument_of_isUnion united] at isPart ⊢
  have same : (joined style [type, noneType]).others = type.others :=
    others_joined_noneType isPart.wellFormed
  have admits : (joined style [type, noneType]).admitsNone = true := by
    cases holds : type.holdsNone with
    | false =>
        exact admitsNone_joined_noneType isPart.wellFormed holds
    | true =>
        rw [joined_noneType_of_holdsNone isPart.wellFormed holds, admitsNone_inStyle,
          admitsNone_eq, united, holds]
        rfl
  rcases optionalInner?_of_obscured (wellFormed_joined_noneType isPart) admits
      ((isObscured_congr same).mpr obscured) with ⟨name, bare, isOther, failed⟩
  rw [same] at isOther
  exact ⟨name, bare, isOther, opaque_of_optionalInner? failed⟩

/-- What a type is like with no value added to it, if it may be obscured. -/
structure Reveals (catalog : Catalog) (type optional : DataType) : Prop where
  seenThrough : ¬ type.IsObscured → SeenThrough catalog type optional
  obscured : type.IsObscured → ∃ name : ClassName, name.isBare = true ∧
    ofClass name ∈ type.others ∧ Opaque catalog optional name

/-- The class of whole numbers and the class of texts. -/
def numberAndText : List DataType :=
  [ofClass (.builtin "int"), ofClass (.builtin "str")]

theorem distinct_numberAndText : distinct numberAndText = numberAndText := by
  simp [numberAndText, distinct, same, ClassName.builtin]

/-- A number or a text, with a bar between the two classes. -/
def numberOrText : DataType :=
  union .bar numberAndText

theorem formed_numberOrText : Formed texts numberOrText := by
  have united : either texts (ofClass (.builtin "int")) (ofClass (.builtin "str")) =
      .ok (joined .bar numberAndText) :=
    rfl
  have several : joined .bar numberAndText = numberOrText := by
    unfold joined
    rw [show numberAndText.flatMap DataType.members = numberAndText from rfl,
      distinct_numberAndText]
    rfl
  rw [several] at united
  exact .either (.ofClass _) (.ofClass _) united

/-- Two classes with values of their own obscure nothing. -/
theorem not_isObscured_numberOrText : ¬ numberOrText.IsObscured := by
  rintro ⟨-, name, bare, isOther⟩
  have either :
      ofClass name = ofClass (.builtin "int") ∨ ofClass name = ofClass (.builtin "str") := by
    simpa [numberOrText, numberAndText, members] using mem_members_of_mem_others isOther
  rcases either with same | same <;> cases same <;> cases bare

/-- A number or a value of the class that generic classes descend from. -/
def numberOrGeneric : DataType :=
  union .bar [ofClass (.builtin "int"), ofClass .generic]

end TypedMustache.DataType
