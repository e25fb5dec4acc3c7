import TypedMustache.Proofs.Scope.Phrase

/-!
# Scopes in reach of the root

Opening a section puts it in front of the open ones, and leaving it takes it
away again.  So every scope that can be reached from the root is reached by
opening sections alone (`Scope.Reachable.grown`).

The types that a template can meet are those in reach of the type of its data:
the members that classes offer, and what sections over a type bind.  Every name
that has a meaning in a reachable scope refers to a value of such a type.
-/

namespace TypedMustache

/-! ## Members of classes -/

/--
A class offers a member: it declares the member itself, under a name that is not
hidden and for its values rather than for the class.
-/
structure Catalog.Offers (catalog : Catalog) (owner : DataType) (name : String)
    (type : DataType) : Prop where
  listed : ∃ members, catalog.members owner = .ok members ∧ (name, type) ∈ members
  isClass : ∃ className, owner = .ofClass className
  own : ∀ className model, owner = .ofClass className → catalog.model? className = some model →
    (∃ declared, (name, declared) ∈ model.annotations) ∨
      ∃ getter ∈ model.attributes, getter.name = name ∧
        (getter.kind = .property ∨ getter.kind = .cachedProperty)
  shown : name.toList.head? ≠ some '_'
  ofValues : type ≠ .mark "ClassVar" ∧ ∀ argument, type ≠ .marked "ClassVar" argument

namespace Catalog

theorem name_of_mem_put
    {name other : String} {type otherType : DataType} {entries : List (String × DataType)}
    (member : (other, otherType) ∈ put name type entries) :
    other = name ∨ ∃ earlier, (other, earlier) ∈ entries := by
  induction entries with
  | nil =>
      left
      simpa [put] using congrArg Prod.fst (List.mem_singleton.mp member)
  | cons entry rest ih =>
      unfold put at member
      split at member
      · rcases List.mem_cons.mp member with same | later
        · left
          exact congrArg Prod.fst same
        · right
          exact ⟨otherType, List.mem_cons_of_mem _ later⟩
      · rcases List.mem_cons.mp member with same | later
        · right
          exact ⟨otherType, by simp [same]⟩
        · rcases ih later with same | ⟨earlier, known⟩
          · exact Or.inl same
          · exact Or.inr ⟨earlier, List.mem_cons_of_mem _ known⟩

theorem mem_of_mem_currentAttributes
    {model : Model} {added : Attribute}
    (member : added ∈ model.currentAttributes) : added ∈ model.attributes := by
  have collected (later current : List Attribute)
      (inside : ∀ found ∈ current, found ∈ model.attributes)
      (within : ∀ found ∈ later, found ∈ model.attributes) :
      ∀ found ∈ later.foldl (fun current added =>
        if current.any (·.name == added.name) then
          current.map fun earlier => if earlier.name == added.name then added else earlier
        else current ++ [added]) current, found ∈ model.attributes := by
    induction later generalizing current with
    | nil =>
        exact inside
    | cons first rest ih =>
        have firstWithin : first ∈ model.attributes := within first List.mem_cons_self
        rw [List.foldl_cons]
        apply ih
        · intro found foundIn
          split at foundIn
          · rcases List.mem_map.mp foundIn with ⟨earlier, known, rfl⟩
            split
            · exact firstWithin
            · exact inside earlier known
          · rcases List.mem_append.mp foundIn with known | new
            · exact inside found known
            · rw [List.mem_singleton.mp new]
              exact firstWithin
        · intro found member
          exact within found (List.mem_cons_of_mem _ member)
  exact collected model.attributes [] (by simp) (fun _ => id) added member

/-- A class declares its annotations and the properties that have a getter. -/
theorem own_of_declared
    {catalog : Catalog} {model : Model} {entries : List (String × DataType)}
    (done : catalog.declared model = .ok entries)
    {name : String} {type : DataType} (member : (name, type) ∈ entries) :
    (∃ declared, (name, declared) ∈ model.annotations) ∨
      ∃ getter ∈ model.attributes, getter.name = name ∧
        (getter.kind = .property ∨ getter.kind = .cachedProperty) := by
  rcases Attempt.bind_eq_ok_iff.mp done with ⟨annotations, annotated, folded⟩
  have fromAnnotations :
      ∀ entry ∈ annotations, ∃ declared, (entry.1, declared) ∈ model.annotations := by
    refine Attempt.holds_of_foldlM
      (fun entries => ∀ entry ∈ entries, ∃ declared, (entry.1, declared) ∈ model.annotations)
      (by simp) ?_ annotated
    intro item itemIn before after known stepped entry entryIn
    rcases Attempt.bind_eq_ok_iff.mp stepped with ⟨evaluated, -, putIn⟩
    cases putIn
    rcases name_of_mem_put entryIn with same | ⟨earlier, earlierIn⟩
    · exact ⟨item.2, by rw [same]; exact itemIn⟩
    · exact known (entry.1, earlier) earlierIn
  refine Attempt.holds_of_foldlM
    (fun entries => ∀ entry ∈ entries,
      (∃ declared, (entry.1, declared) ∈ model.annotations) ∨
        ∃ getter ∈ model.attributes, getter.name = entry.1 ∧
          (getter.kind = .property ∨ getter.kind = .cachedProperty))
    (fun entry entryIn => Or.inl (fromAnnotations entry entryIn)) ?_ folded (name, type) member
  intro getter getterIn before after known stepped entry entryIn
  have declaredHere : getter ∈ model.attributes := mem_of_mem_currentAttributes getterIn
  -- Only a property with a getter adds an entry, which is named after it.
  have kept (isGetter : getter.kind = .property ∨ getter.kind = .cachedProperty)
      {evaluated : DataType} (putIn : after = put getter.name evaluated before) :
      (∃ declared, (entry.1, declared) ∈ model.annotations) ∨
        ∃ getter ∈ model.attributes, getter.name = entry.1 ∧
          (getter.kind = .property ∨ getter.kind = .cachedProperty) := by
    rw [putIn] at entryIn
    rcases name_of_mem_put entryIn with same | ⟨earlier, earlierIn⟩
    · exact Or.inr ⟨getter, declaredHere, same.symm, isGetter⟩
    · exact known (entry.1, earlier) earlierIn
  cases kind : getter.kind with
  | property =>
      simp only [kind] at stepped
      rcases Attempt.bind_eq_ok_iff.mp stepped with ⟨evaluated, -, putIn⟩
      cases putIn
      exact kept (Or.inl kind) rfl
  | cachedProperty =>
      simp only [kind] at stepped
      rcases Attempt.bind_eq_ok_iff.mp stepped with ⟨evaluated, -, putIn⟩
      cases putIn
      exact kept (Or.inr kind) rfl
  | writeOnly | method | constant =>
      simp only [kind] at stepped
      cases stepped
      exact known entry entryIn

theorem shown_of_isOffered
    {name : String} {type : DataType} (offered : isOffered (name, type) = true) :
    name.toList.head? ≠ some '_' ∧
      type ≠ .mark "ClassVar" ∧ ∀ argument, type ≠ .marked "ClassVar" argument := by
  simp only [isOffered, Bool.and_eq_true, Bool.not_eq_true', beq_eq_false_iff_ne] at offered
  refine ⟨offered.1, ?_, ?_⟩
  · rintro rfl
    simp at offered
  · rintro argument rfl
    simp at offered

/-- Every member that a type lists is one that its class offers. -/
theorem offers_of_mem_members
    {catalog : Catalog} {owner type : DataType} {name : String}
    {members : List (String × DataType)}
    (listed : catalog.members owner = .ok members) (member : (name, type) ∈ members) :
    catalog.Offers owner name type := by
  have isClass : ∃ className, owner = .ofClass className := by
    cases owner with
    | ofClass className =>
        exact ⟨className, rfl⟩
    | _ =>
        cases listed
        cases member
  rcases isClass with ⟨className, rfl⟩
  cases found : catalog.model? className with
  | none =>
      simp only [Catalog.members, found, Except.ok.injEq, standardMembers] at listed
      subst listed
      have standard : (name = "numerator" ∨ name = "denominator") ∧ type = .any := by
        split at member
        · simp only [List.mem_cons, Prod.mk.injEq, List.not_mem_nil, or_false] at member
          rcases member with ⟨named, any⟩ | ⟨named, any⟩
          · exact ⟨Or.inl named, any⟩
          · exact ⟨Or.inr named, any⟩
        · cases member
      rcases standard with ⟨named, rfl⟩
      refine ⟨⟨_, by simp [Catalog.members, found, standardMembers], member⟩, ⟨className, rfl⟩,
        ?_, ?_, by simp [DataType.any]⟩
      · rintro other model same known
        cases same
        rw [found] at known
        cases known
      · rcases named with rfl | rfl <;> decide
  | some model =>
      have listedHere := listed
      simp only [Catalog.members, found] at listed
      rcases Attempt.map_eq_ok_iff.mp listed with ⟨entries, declared, rfl⟩
      rcases List.mem_filter.mp member with ⟨declaredIn, offered⟩
      rcases shown_of_isOffered offered with ⟨shown, ofValues⟩
      refine ⟨⟨_, listedHere, member⟩, ⟨className, rfl⟩, ?_, shown, ofValues⟩
      rintro other otherModel same known
      cases same
      rw [found] at known
      cases known
      exact own_of_declared declared declaredIn

theorem offers_of_resolve
    {catalog : Catalog} {owner : DataType} {name : String} {member : Member}
    (resolved : catalog.resolve owner name = .ok member) :
    catalog.Offers owner member.name member.type := by
  simp only [resolve] at resolved
  rcases Attempt.bind_eq_ok_iff.mp resolved with ⟨members, listed, found⟩
  split at found
  · rename_i entry first
    cases found
    have named : entry.1 = name := by
      simpa using List.find?_some first
    apply offers_of_mem_members listed
    rw [← named]
    exact List.mem_of_find?_eq_some first
  · cases found

/-- Only a class offers members, and no class is an optional type. -/
theorem Offers.isOptional_eq_false
    {catalog : Catalog} {owner type : DataType} {name : String}
    (offered : catalog.Offers owner name type) : owner.isOptional catalog = .ok false := by
  rcases offered.isClass with ⟨className, rfl⟩
  rfl

/-! ## Types in reach -/

/--
The types in reach of a type: itself, the members that classes offer, and what
sections over a type bind.
-/
inductive Reaches (catalog : Catalog) (start : DataType) : DataType → Prop where
  | start : Reaches catalog start start
  | member
      {owner type : DataType} {name : String}
      (reached : Reaches catalog start owner) (offered : catalog.Offers owner name type) :
      Reaches catalog start type
  | inside
      {type inner : DataType} {shape : Shape}
      (reached : Reaches catalog start type)
      (shaped : type.sectionShape catalog = .ok (shape, inner)) :
      Reaches catalog start inner

end Catalog

namespace Scope

/-! ## Scopes in reach -/

/-- The scopes that opening and leaving sections can lead to from the root. -/
inductive Reachable (catalog : Catalog) (dataType : DataType) : Scope → Prop where
  | root : Reachable catalog dataType (.root dataType)
  | enter
      {scope entered : Scope} {name : String} {inverted : Bool}
      (reachable : Reachable catalog dataType scope)
      (opened : (scope.enter catalog name inverted).outcome = .ok entered) :
      Reachable catalog dataType entered
  | leave
      {scope outer : Scope}
      (reachable : Reachable catalog dataType scope) (left : scope.leave = .ok outer) :
      Reachable catalog dataType outer

variable {catalog : Catalog} {dataType : DataType} {scope entered outer : Scope}
  {name : String} {inverted : Bool} {reference found : Reference}

/-- Leaving a section leads back to where it was opened. -/
theorem leave_of_enter
    (opened : (scope.enter catalog name inverted).outcome = .ok entered) :
    entered.leave = .ok scope := by
  rcases enter_eq_ok_iff.mp opened with ⟨subject, shape, inner, -, -, rfl⟩
  rfl

/-- The scopes that opening sections alone leads to from the root. -/
inductive Grown (catalog : Catalog) (dataType : DataType) : Scope → Prop where
  | root : Grown catalog dataType (.root dataType)
  | enter
      {scope entered : Scope} {name : String} {inverted : Bool}
      (grown : Grown catalog dataType scope)
      (opened : (scope.enter catalog name inverted).outcome = .ok entered) :
      Grown catalog dataType entered

theorem Reachable.grown
    (reachable : Reachable catalog dataType scope) : Grown catalog dataType scope := by
  induction reachable with
  | root =>
      exact .root
  | enter reachable opened ih =>
      exact .enter ih opened
  | leave reachable left ih =>
      cases ih with
      | root =>
          cases left
      | enter grown opened =>
          rw [leave_of_enter opened] at left
          cases left
          exact grown

theorem Grown.reachable
    (grown : Grown catalog dataType scope) : Reachable catalog dataType scope := by
  induction grown with
  | root =>
      exact .root
  | enter grown opened ih =>
      exact .enter ih opened

theorem Grown.dataType_eq
    (grown : Grown catalog dataType scope) : scope.dataType = dataType := by
  induction grown with
  | root =>
      rfl
  | enter grown opened ih =>
      rcases enter_eq_ok_iff.mp opened with ⟨subject, shape, inner, -, -, rfl⟩
      exact ih

/-! ## The types of values -/

/-- Following components goes from member to member of classes. -/
theorem follow_cons_eq_ok_iff
    {passed rest : List String} {component : String} :
    (follow catalog passed reference (component :: rest)).outcome = .ok found ↔
      ∃ member,
        catalog.resolve reference.type component = .ok member ∧
          (follow catalog (passed ++ [component]) (reference.member member) rest).outcome =
            .ok found := by
  rw [follow]
  constructor
  · intro followed
    split at followed
    · cases followed
    · rename_i member stepped
      exact ⟨member, (step_eq_ok_iff.mp stepped).2, followed⟩
  · rintro ⟨member, resolved, later⟩
    have present : reference.type.isOptional catalog = .ok false :=
      (Catalog.offers_of_resolve resolved).isOptional_eq_false
    have stepped : step catalog passed reference component = .ok member :=
      step_eq_ok_iff.mpr ⟨Or.inr present, resolved⟩
    rw [stepped]
    exact later

theorem reaches_of_follow
    {passed components : List String}
    (reached : catalog.Reaches dataType reference.type)
    (followed : (follow catalog passed reference components).outcome = .ok found) :
    catalog.Reaches dataType found.type := by
  induction components generalizing passed reference with
  | nil =>
      cases followed
      exact reached
  | cons component rest ih =>
      rcases follow_cons_eq_ok_iff.mp followed with ⟨member, resolved, later⟩
      have offered := Catalog.offers_of_resolve resolved
      exact ih (.member reached offered) later

theorem reaches_of_lookup_of_bound
    (reached : catalog.Reaches dataType scope.bound.type)
    (looked : (scope.lookup catalog name).outcome = .ok found) :
    catalog.Reaches dataType found.type := by
  unfold lookup at looked
  split at looked
  · cases looked
    exact reached
  · exact reaches_of_follow reached looked

/-- What names mean members of has a type in reach. -/
theorem Grown.reaches_bound
    (grown : Grown catalog dataType scope) : catalog.Reaches dataType scope.bound.type := by
  induction grown with
  | root =>
      exact .start
  | enter grown opened ih =>
      rcases enter_eq_ok_iff.mp opened with ⟨subject, shape, inner, looked, shaped, rfl⟩
      have inside : catalog.Reaches dataType inner :=
        .inside (reaches_of_lookup_of_bound ih looked) shaped
      rw [bound_opened]
      unfold boundBy
      split
      · exact ih
      · cases shape with
        | guard =>
            exact ih
        | iteration | optional | object =>
            exact inside

theorem Reachable.reaches_of_lookup
    (reachable : Reachable catalog dataType scope)
    (looked : (scope.lookup catalog name).outcome = .ok found) :
    catalog.Reaches dataType found.type :=
  reaches_of_lookup_of_bound reachable.grown.reaches_bound looked

end Scope

end TypedMustache
