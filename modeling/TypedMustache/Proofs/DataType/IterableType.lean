import TypedMustache.Proofs.DataType.OptionalType

/-!
# Types that sections repeat over

A section over a container with a type of elements repeats over its elements.
The type of the elements is the argument that the container was subscripted with,
as it was stored: the aliases of the `typing` module store what the argument
means, and classes store the argument itself.  A tuple of fixed length has the
union of its different arguments as type of its elements.

`repeatsOver_of_apply` says what a section becomes for every such type.  Two
things keep it from being a loop.  The value for no value, stored as it is by a
class, is also the answer for types that are not iterable, so a list of it is
taken for a single value.  And the arguments of a tuple of fixed length are
looked up in a table and joined to a union, which fails for arguments that cannot
be looked up or cannot be members of a union.
-/

namespace TypedMustache.DataType

variable {catalog : Catalog} {texts : Texts} {type head element : DataType} {origin : ClassName}
  {given : List DataType}

/-! ## Applications of containers -/

/-- The containers with one type of elements, as classes and as aliases. -/
def containers : List DataType :=
  [.builtin "list", .builtin "set", .builtin "frozenset",
      { moduleName := "collections", qualifiedName := "deque" },
      .abstract "Iterable", .abstract "Iterator", .abstract "Collection", .abstract "Sequence",
      .abstract "MutableSequence", .abstract "Set", .abstract "MutableSet"].map ofClass ++
    ["List", "Set", "FrozenSet", "Deque", "Iterable", "Iterator", "Collection", "Sequence",
      "MutableSequence", "AbstractSet", "MutableSet"].map aliased

/-- The tuples, as a class and as an alias. -/
def tuples : List DataType :=
  [ofClass (.builtin "tuple"), aliased "Tuple"]

/-- What a head stores of an argument. -/
def stored : DataType → DataType → DataType
  | aliased _, argument => argument.typeArgument
  | _, argument => argument

/-- The arguments that an application has stored; none for what is no application. -/
def arguments : DataType → List DataType
  | applied _ arguments | aliasApplied _ arguments => arguments
  | _ => []

/-- The class that a type is, stands for or is an application of. -/
def origin? : DataType → Option ClassName
  | ofClass name | applied name _ => some name
  | aliased name | aliasApplied name _ => some (aliasOrigin name)
  | _ => none

/-- Whether a head is subscripted to an application of its class. -/
def isHead : DataType → Bool
  | ofClass name => ["builtins", "collections.abc", "collections"].contains name.moduleName
  | aliased _ => true
  | _ => false

/--
A head that is subscripted gives a type with its origin and with the arguments as it stores them.
-/
theorem origin?_of_apply
    (isHead : head.isHead = true) (applied : apply texts head given = .ok type) :
    type.origin? = head.origin? ∧ type.arguments = given.map head.stored := by
  cases head with
  | aliased name =>
      rcases Attempt.map_eq_ok_iff.mp applied with ⟨means, meant, rfl⟩
      unfold typeArguments at meant
      split at meant
      · cases meant
      · cases meant
        exact ⟨rfl, rfl⟩
  | ofClass name =>
      have importable : (name.moduleName == "builtins" || name.moduleName == "collections.abc"
          || name.moduleName == "collections") = true := by
        simpa [DataType.isHead, or_assoc] using isHead
      simp only [apply, importable, if_true, Except.ok.injEq] at applied
      rw [← applied]
      exact ⟨rfl, (List.map_id _).symm⟩
  | _ =>
      cases isHead

/-- The containers other than tuples are heads whose origin can be iterated over. -/
theorem origin?_of_mem_containers (isContainer : head ∈ containers) :
    head.isHead = true ∧ ∃ origin ∈ iterableClasses,
      origin ≠ .builtin "tuple" ∧ head.origin? = some origin := by
  have listed : ∀ head ∈ containers, head.isHead = true ∧
      head.origin?.any (fun origin =>
        iterableClasses.contains origin && origin != .builtin "tuple") = true := by
    decide
  rcases listed head isContainer with ⟨isHead, known⟩
  refine ⟨isHead, ?_⟩
  cases source : head.origin? with
  | none =>
      rw [source] at known
      cases known
  | some origin =>
      rw [source, Option.any_some, Bool.and_eq_true, List.contains_iff_mem, bne_iff_ne] at known
      exact ⟨origin, known.1, known.2, rfl⟩

/-- The two spellings of a tuple are heads with the class of tuples as origin. -/
theorem origin?_of_mem_tuples (isTuple : head ∈ tuples) :
    head.isHead = true ∧ head.origin? = some (.builtin "tuple") := by
  have listed : ∀ head ∈ tuples, head.isHead = true ∧
      head.origin? = some (.builtin "tuple") := by
    decide
  exact listed head isTuple

/-! ## What a section repeats over -/

/-- The elements of a type are read off its origin and its arguments. -/
theorem element?_of_origin? (known : type.origin? = some origin) :
    type.element? catalog = elementOfApplication? catalog origin type.arguments := by
  cases type with
  | ofClass name | aliased name =>
      cases known
      simp only [element?, elementOfApplication?, arguments, elementOfArguments]
      split <;> rfl
  | applied name given | aliasApplied name given =>
      cases known
      rfl
  | _ =>
      cases known

/-- A type with an origin is no union. -/
theorem isUnion_of_origin? (known : type.origin? = some origin) : type.isUnion = false := by
  cases type with
  | union =>
      cases known
  | _ =>
      rfl

/-- A type that can be iterated over is not that of the truth values. -/
theorem isBool_of_origin?
    (known : type.origin? = some origin) (iterable : origin ∈ iterableClasses) :
    type.isBool = false := by
  cases type with
  | ofClass name =>
      have others : ∀ name ∈ iterableClasses, (name == .builtin "bool") = false := by
        decide
      rw [Option.some.inj known]
      exact others origin iterable
  | _ =>
      rfl

/-- The type of the elements decides about the shape. -/
theorem sectionShape_of_origin?
    (known : type.origin? = some origin) (iterable : origin ∈ iterableClasses) :
    type.sectionShape catalog =
      match elementOfArguments catalog origin type.arguments with
      | .error failure => .error failure
      | .ok nothing => .ok (.object, type)
      | .ok element => .ok (.iteration, element) := by
  have present : type.admitsNone = false := by
    rw [admitsNone_eq, isUnion_of_origin? known, Bool.false_and]
  rw [sectionShape_of_admitsNone_eq_false present, shapeOf, isBool_of_origin? known iterable,
    element?_of_origin? known, elementOfApplication?, List.contains_iff_mem.mpr iterable]
  simp only [Bool.false_eq_true, if_false, if_true]
  cases elementOfArguments catalog origin type.arguments with
  | error failure =>
      rfl
  | ok element =>
      cases element <;> rfl

/-- A section over the type repeats over elements of a type, also if no value is added to it. -/
structure IteratesOver (catalog : Catalog) (type element : DataType) : Prop where
  shape : type.sectionShape catalog = .ok (.iteration, element)
  optional : ∃ optional, unionOf catalog.texts [type, noneType] = .ok optional ∧
    optional.sectionShape catalog = .ok (.iteration, element)
  barred : ∃ optional, either catalog.texts type nothing = .ok optional ∧
    optional.sectionShape catalog = .ok (.iteration, element)

theorem typeArgument_of_origin? (known : type.origin? = some origin) :
    type.typeArgument = type := by
  cases type with
  | ofClass | applied | aliased | aliasApplied =>
      rfl
  | _ =>
      cases known

/-- Iterable types are arguments of `Union`; the bare classes are not iterable. -/
theorem refusal?_of_origin?
    (known : type.origin? = some origin) (iterable : origin ∈ iterableClasses) :
    type.refusal? texts = none := by
  cases type with
  | ofClass name =>
      have clothed : ∀ name ∈ iterableClasses, name.isBare = false := by
        decide
      rw [Option.some.inj known]
      simp [refusal?, plainRefusal?, clothed origin iterable]
  | applied | aliased | aliasApplied =>
      rfl
  | _ =>
      cases known

/-- A type that can be iterated over is never refused beside the class of no value. -/
theorem unionOf_of_origin?
    (known : type.origin? = some origin) (iterable : origin ∈ iterableClasses) :
    unionOf texts [type, noneType] = .ok (joined .typing [type, noneType]) := by
  refine unionOf_eq_ok_iff.mpr ⟨List.cons_ne_nil _ _, ?_, ?_⟩
  · rw [List.forall_mem_cons, List.forall_mem_singleton]
    exact ⟨refusal?_of_origin? known iterable, rfl⟩
  · rw [List.map_cons, typeArgument_of_origin? known]
    rfl

/-- The same for the union that is written with a bar. -/
theorem either_of_origin? (known : type.origin? = some origin) :
    ∃ style, either texts type nothing = .ok (joined style [type, noneType]) := by
  cases type with
  | ofClass | applied =>
      exact ⟨.bar, rfl⟩
  | aliased | aliasApplied =>
      exact ⟨.typing, rfl⟩
  | _ =>
      cases known

theorem holdsNone_of_origin?
    (known : type.origin? = some origin) (iterable : origin ∈ iterableClasses) :
    type.holdsNone = false := by
  cases type with
  | ofClass name =>
      have others : ∀ name ∈ iterableClasses, (ofClass name).holdsNone = false := by
        decide
      rw [Option.some.inj known]
      exact others origin iterable
  | union =>
      cases known
  | _ =>
      rfl

/-- Adding no value makes an iterable type optional. -/
theorem isOptionalOf_of_origin?
    (known : type.origin? = some origin) (iterable : origin ∈ iterableClasses)
    (style : UnionStyle) : IsOptionalOf catalog type (joined style [type, noneType]) := by
  have single := isUnion_of_origin? known
  have isPart : type.IsPart catalog.texts :=
    { wellFormed := wellFormed_of_isUnion_eq_false single
      meant := typeArgument_of_origin? known
      admissible := fun _ => refusal?_of_origin? known iterable }
  have clear : ¬ type.IsObscured := by
    intro obscured
    rw [isUnion_of_isObscured obscured] at single
    cases single
  exact isOptionalOf_joined isPart.wellFormed (wellFormed_joined_noneType isPart)
    (holdsNone_of_origin? known iterable) clear

/-- If a section over such a type iterates, so do those over its unions with no value. -/
theorem iteratesOver_of_sectionShape
    (known : type.origin? = some origin) (iterable : origin ∈ iterableClasses)
    (shaped : type.sectionShape catalog = .ok (.iteration, element)) :
    IteratesOver catalog type element := by
  rcases either_of_origin? known with ⟨style, barred⟩
  exact
    { shape := shaped
      optional := ⟨_, unionOf_of_origin? known iterable,
        (isOptionalOf_of_origin? known iterable _).iteration element shaped⟩
      barred := ⟨_, barred,
        (isOptionalOf_of_origin? known iterable style).iteration element shaped⟩ }

/--
A section over the type repeats over elements of a stored type, unless that is the
value for no value: then it is a section over a single value.
-/
structure RepeatsOver (catalog : Catalog) (type stored : DataType) : Prop where
  iterates : stored ≠ nothing → IteratesOver catalog type stored
  single : stored = nothing → type.sectionShape catalog = .ok (.object, type)

/-- The shape of a section over a container follows from what its arguments say of the elements. -/
theorem repeatsOver_of_elementOfArguments
    {stored : DataType}
    (known : type.origin? = some origin) (iterable : origin ∈ iterableClasses)
    (elements : elementOfArguments catalog origin type.arguments = .ok stored) :
    RepeatsOver catalog type stored := by
  have shaped : type.sectionShape catalog = _ := sectionShape_of_origin? known iterable
  rw [elements] at shaped
  constructor
  · intro isType
    apply iteratesOver_of_sectionShape known iterable
    rw [shaped]
    split
    · rename_i wrong
      cases wrong
    · rename_i same
      exact (isType (Except.ok.inj same)).elim
    · rename_i same
      rw [Except.ok.inj same]
  · rintro rfl
    exact shaped

/-! ## Tuples of fixed length -/

/-- What a section over a tuple of fixed length with the given arguments becomes. -/
structure RepeatsOverMembers (catalog : Catalog) (type first : DataType) (rest : List DataType) :
    Prop where
  unhashable : ∀ sort, unhashableAmong? (first :: rest) = some sort →
    type.sectionShape catalog = .error (.unhashable sort)
  /-- All arguments are equal. -/
  same : unhashableAmong? (first :: rest) = none →
    (∀ other ∈ rest, first.same other = true) → RepeatsOver catalog type first
  /-- The arguments can be joined to a union, or one of them is the first to be refused. -/
  different : unhashableAmong? (first :: rest) = none →
    (¬ ∀ other ∈ rest, first.same other = true) →
      (∀ element, unionOf catalog.texts (distinct (first :: rest)) = .ok element →
          IteratesOver catalog type element) ∧
        ∀ failure, unionOf catalog.texts (distinct (first :: rest)) = .error failure →
          type.sectionShape catalog = .error failure ∧
            ∃ argument ∈ first :: rest, argument.refusal? catalog.texts = some failure

/--
What the arguments of a tuple of fixed length say of its elements: their one type, or their union.
-/
theorem elementOfArguments_tuple
    {first : DataType} {rest : List DataType}
    (fixed : rest ≠ [ellipsis]) :
    elementOfArguments catalog (.builtin "tuple") (first :: rest) =
      match unhashableAmong? (first :: rest) with
      | some sort => .error (.unhashable sort)
      | none =>
        match distinct (first :: rest) with
        | [single] => .ok single
        | several => unionOf catalog.texts several := by
  rcases rest with _ | ⟨second, _ | ⟨third, more⟩⟩
  · rfl
  · cases second with
    | ellipsis =>
        exact (fixed rfl).elim
    | _ =>
        rfl
  · cases second <;> rfl

/-- If all arguments are the same, the elements have the type of the first. -/
theorem elementOfArguments_of_same
    {first : DataType} {rest : List DataType}
    (fixed : rest ≠ [ellipsis]) (hashable : unhashableAmong? (first :: rest) = none)
    (same : ∀ other ∈ rest, first.same other = true) :
    elementOfArguments catalog (.builtin "tuple") (first :: rest) = .ok first := by
  rw [elementOfArguments_tuple fixed, hashable, distinct_cons_eq_singleton_iff.mpr same]

/-- If there are different ones, the elements have the union of them all, if there is one. -/
theorem elementOfArguments_of_different
    {first : DataType} {rest : List DataType}
    (fixed : rest ≠ [ellipsis]) (hashable : unhashableAmong? (first :: rest) = none)
    (different : ¬ ∀ other ∈ rest, first.same other = true) :
    elementOfArguments catalog (.builtin "tuple") (first :: rest) =
      unionOf catalog.texts (distinct (first :: rest)) := by
  rw [elementOfArguments_tuple fixed, hashable]
  simp only
  split
  · rename_i single only
    have head := head?_distinct first rest
    rw [only, List.head?_singleton, Option.some.injEq] at head
    rw [head] at only
    exact (different (distinct_cons_eq_singleton_iff.mp only)).elim
  · rfl

/-- A union is not the value for no value. -/
theorem unionOf_ne_nothing
    {annotations : List DataType} {union : DataType}
    (formed : ∀ part ∈ annotations, part.WellFormed texts)
    (united : unionOf texts annotations = .ok union) :
    union ≠ nothing := by
  rcases unionOf_eq_ok_iff.mp united with ⟨nonempty, accepted, rfl⟩
  have parts : ∀ part ∈ annotations.map typeArgument, part.IsPart texts := by
    intro part isPart
    rcases List.mem_map.mp isPart with ⟨given, isGiven, rfl⟩
    exact isPart_of_accepted (formed given isGiven) (accepted given isGiven)
  exact (wellFormed_joined (by simpa using nonempty) parts).2

/-- A union of some annotations fails for one that is refused. -/
theorem exists_refusal?_of_unionOf
    {annotations : List DataType} {failure : Failure}
    (some : annotations ≠ []) (failed : unionOf texts annotations = .error failure) :
    ∃ part ∈ annotations, part.refusal? texts = .some failure := by
  have solid : annotations.isEmpty = false := by
    rwa [List.isEmpty_eq_false_iff]
  rw [unionOf, solid, if_neg Bool.false_ne_true, typeArguments] at failed
  cases found : annotations.findSome? (refusal? texts) with
  | none =>
      rw [found] at failed
      cases failed
  | some refusal =>
      rw [found] at failed
      cases failed
      exact List.exists_of_findSome?_eq_some found

/-- What a section over a tuple of fixed length repeats over, by its arguments. -/
theorem repeatsOverMembers_of_origin?
    {first : DataType} {rest : List DataType}
    (known : type.origin? = some (.builtin "tuple")) (kept : type.arguments = first :: rest)
    (fixed : rest ≠ [ellipsis])
    (formed : ∀ argument ∈ first :: rest, argument.WellFormed catalog.texts) :
    RepeatsOverMembers catalog type first rest := by
  have iterable : ClassName.builtin "tuple" ∈ iterableClasses := by
    decide
  have shaped : type.sectionShape catalog = _ := sectionShape_of_origin? known iterable
  rw [kept] at shaped
  constructor
  · intro sort unhashable
    rw [shaped, elementOfArguments_tuple fixed, unhashable]
  · intro hashable same
    apply repeatsOver_of_elementOfArguments known iterable
    rw [kept]
    exact elementOfArguments_of_same fixed hashable same
  · intro hashable different
    have elements : elementOfArguments catalog (.builtin "tuple") (first :: rest) = _ :=
      elementOfArguments_of_different fixed hashable different
    constructor
    · intro element united
      have repeats : RepeatsOver catalog type element := by
        apply repeatsOver_of_elementOfArguments known iterable
        rw [kept, elements, united]
      -- The stored value for no value is never the union of the arguments.
      apply repeats.iterates
      refine unionOf_ne_nothing ?_ united
      intro part isPart
      exact formed part (mem_of_mem_distinct isPart)
    · intro failure failed
      rcases exists_refusal?_of_unionOf (distinct_ne_nil (List.cons_ne_nil _ _)) failed with
        ⟨argument, kept, refused⟩
      refine ⟨?_, argument, mem_of_mem_distinct kept, refused⟩
      rw [shaped, elements, failed]

/-! ## Containers and tuples -/

/-- Storing an argument keeps it well formed. -/
theorem wellFormed_stored {argument : DataType}
    (wellFormed : argument.WellFormed texts) : (head.stored argument).WellFormed texts := by
  cases head with
  | aliased =>
      exact wellFormed_typeArgument wellFormed
  | _ =>
      exact wellFormed

/-- Only the ellipsis is stored as the ellipsis. -/
theorem eq_ellipsis_of_stored {argument : DataType}
    (same : head.stored argument = ellipsis) : argument = ellipsis := by
  cases head with
  | aliased =>
      simp only [stored, typeArgument] at same
      split at same
      · cases same
      · cases same
      · exact same
  | _ =>
      exact same

/--
What a section becomes over a container that was subscripted with a type, over a
tuple of any length, and over a tuple of fixed length.
-/
theorem repeatsOver_of_apply (applied : apply catalog.texts head given = .ok type) :
    (∀ argument, head ∈ containers → given = [argument] →
        type.arguments = [head.stored argument] ∧ RepeatsOver catalog type (head.stored argument)) ∧
      (∀ argument, head ∈ tuples → given = [argument, ellipsis] →
        type.arguments = [head.stored argument, ellipsis] ∧
          RepeatsOver catalog type (head.stored argument)) ∧
      ∀ first rest, head ∈ tuples → given = first :: rest → rest ≠ [ellipsis] →
        (∀ argument ∈ first :: rest, Formed catalog.texts argument) →
          type.arguments = head.stored first :: rest.map head.stored ∧
            RepeatsOverMembers catalog type (head.stored first) (rest.map head.stored) := by
  refine ⟨?_, ?_, ?_⟩
  · rintro argument isContainer rfl
    rcases origin?_of_mem_containers isContainer with ⟨isHead, origin, iterable, other, known⟩
    rcases origin?_of_apply isHead applied with ⟨same, kept⟩
    refine ⟨kept, repeatsOver_of_elementOfArguments (same.trans known) iterable ?_⟩
    rw [kept]
    simp [elementOfArguments, other]
  · rintro argument isTuple rfl
    rcases origin?_of_mem_tuples isTuple with ⟨isHead, known⟩
    rcases origin?_of_apply isHead applied with ⟨same, kept⟩
    have last : head.stored ellipsis = ellipsis := by
      cases head <;> rfl
    rw [List.map_cons, List.map_singleton, last] at kept
    refine ⟨kept, repeatsOver_of_elementOfArguments (same.trans known) (by decide) ?_⟩
    rw [kept]
    rfl
  · rintro first rest isTuple rfl fixed formed
    rcases origin?_of_mem_tuples isTuple with ⟨isHead, known⟩
    rcases origin?_of_apply isHead applied with ⟨same, kept⟩
    refine ⟨kept, repeatsOverMembers_of_origin? (same.trans known) kept ?_ ?_⟩
    · intro variadic
      apply fixed
      rcases List.map_eq_singleton_iff.mp variadic with ⟨last, rfl, same⟩
      rw [eq_ellipsis_of_stored same]
    · intro argument isArgument
      rw [← List.map_cons] at isArgument
      rcases List.mem_map.mp isArgument with ⟨given, isGiven, rfl⟩
      exact wellFormed_stored (formed given isGiven).wellFormed

/-- Lists of no value by alias, tuples of texts, and pairs of a number and a text. -/
theorem repeatsOver_of_apply_pair :
    (∃ type, apply Text.typeTexts (aliased "List") [nothing] = .ok type ∧
        IteratesOver .empty type noneType) ∧
      (∃ type,
        apply Text.typeTexts (ofClass (.builtin "tuple")) [ofClass (.builtin "str"), ellipsis] =
          .ok type ∧
        IteratesOver .empty type (ofClass (.builtin "str"))) ∧
      ∃ type, apply Text.typeTexts (ofClass (.builtin "tuple")) numberAndText = .ok type ∧
        IteratesOver .empty type (union .typing numberAndText) := by
  refine ⟨?_, ?_, ?_⟩
  · have applied :
        apply Catalog.empty.texts (aliased "List") [nothing] =
          .ok (aliasApplied "List" [noneType]) :=
      rfl
    refine ⟨_, applied, ?_⟩
    apply ((repeatsOver_of_apply applied).1 _ (by simp [containers]) rfl).2.iterates
    exact typeArgument_ne_nothing nothing
  · have applied :
        apply Catalog.empty.texts (ofClass (.builtin "tuple"))
            [ofClass (.builtin "str"), ellipsis] =
          .ok (.applied (.builtin "tuple") [ofClass (.builtin "str"), ellipsis]) :=
      rfl
    refine ⟨_, applied, ?_⟩
    apply ((repeatsOver_of_apply applied).2.1 _ (by simp [tuples]) rfl).2.iterates
    simp [stored]
  · have applied :
        apply Catalog.empty.texts (ofClass (.builtin "tuple")) numberAndText =
          .ok (.applied (.builtin "tuple") numberAndText) :=
      rfl
    refine ⟨_, applied, ?_⟩
    have formed : ∀ argument ∈ numberAndText, Formed Text.typeTexts argument := by
      simp [numberAndText, Formed.ofClass]
    have members :=
      ((repeatsOver_of_apply applied).2.2 _ _ (by simp [tuples]) rfl (by simp)
        formed).2
    have united : unionOf Catalog.empty.texts (distinct numberAndText) =
        .ok (union .typing numberAndText) := by
      have wellFormed : numberOrText.WellFormed Catalog.empty.texts :=
        formed_numberOrText.wellFormed
      rw [distinct_numberAndText]
      refine unionOf_eq_ok_iff.mpr ⟨List.cons_ne_nil _ _, ?_, (joined_members wellFormed).symm⟩
      simp [numberAndText, refusal?, plainRefusal?, ClassName.isBare, ClassName.builtin,
        ClassName.generic, ClassName.structural]
    exact (members.different rfl (by simp [stored, same, ClassName.builtin])).1 _ united

/-- There is no section over a pair if there is no union of its members. -/
theorem sectionShape_pair_of_refused
    {first second : DataType} {failure : Failure}
    (fixed : second ≠ ellipsis) (hashable : unhashableAmong? [first, second] = none)
    (different : first.same second = false)
    (refused : unionOf catalog.texts [first, second] = .error failure) :
    (applied (.builtin "tuple") [first, second]).sectionShape catalog = .error failure := by
  have elements : elementOfArguments catalog (.builtin "tuple") [first, second] =
      unionOf catalog.texts (distinct [first, second]) :=
    elementOfArguments_of_different (by simpa using fixed) hashable (by simp [different])
  rw [distinct_eq_self (List.pairwise_pair.mpr different), refused] at elements
  rw [sectionShape_of_origin? rfl (by decide), arguments, elements]

/--
A list of the value for no value is not repeated over.  There is no section over a tuple with a
member that cannot be looked up, nor over one whose different members make no union.
-/
theorem unrepeated_of_apply :
    (∃ type, apply Text.typeTexts (ofClass (.builtin "list")) [nothing] = .ok type ∧
        type.sectionShape .empty = .ok (.object, type) ∧ ¬ IteratesOver .empty type nothing) ∧
      (∃ type, apply Text.typeTexts (ofClass (.builtin "tuple"))
          [withMetadata (ofClass (.builtin "int")) [.sequence [.integer 1]]] = .ok type ∧
        type.sectionShape .empty = .error (.unhashable "list")) ∧
      (∃ type, apply Text.typeTexts (ofClass (.builtin "tuple"))
          [value (.text "a b"), ofClass (.builtin "int")] = .ok type ∧
        type.sectionShape .empty = .error (.raised
          { label := "SyntaxError"
            message := "Forward reference must be an expression -- got 'a b'" })) ∧
      ∃ type, apply Text.typeTexts (ofClass (.builtin "tuple"))
          [ofClass .generic, ofClass (.builtin "int")] = .ok type ∧
        type.sectionShape .empty = .error (.notAType "Plain <class 'typing.Generic'>") := by
  refine ⟨⟨_, rfl, rfl, ?_⟩, ⟨_, rfl, rfl⟩, ⟨_, rfl, ?_⟩, ⟨_, rfl, ?_⟩⟩
  · intro iterates
    cases iterates.shape
  · have known : Text.typeTexts "a b" = some
        { label := "SyntaxError"
          message := "Forward reference must be an expression -- got 'a b'" } := by
      decide +kernel
    apply sectionShape_pair_of_refused (by simp) rfl (by simp [same])
    simp [unionOf, typeArguments, refusal?, textRefusal?, Catalog.empty, known, Except.map]
  · exact sectionShape_pair_of_refused (by simp) rfl
      (by simp [same, ClassName.builtin, ClassName.generic]) rfl

end TypedMustache.DataType
