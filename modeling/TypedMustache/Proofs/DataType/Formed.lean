import Mathlib.Data.List.Induction
import TypedMustache.Catalog.Description
import TypedMustache.Proofs.Attempt

/-!
# Annotations that can be formed

`DataType` has values that no annotation evaluates to: a union inside a union, a
union of one type, a union with the same type twice.  The annotations that do
arise are put together from classes and values by subscription, by the
constructs of the `typing` module and by bars, which is what `Formed` says.

What the other modules need to know of them is how their unions look
(`Formed.wellFormed`): several members, all different, none of them a union and
none of them the value for no value.  Each member but for the bare classes could
be an argument of `Union` once more; a bar lets bare classes into a union that
`Union` would refuse.  Every annotation that a description stands for is formed
(`formed_of_ofDescription`).
-/

namespace TypedMustache.DataType

variable {texts : Texts} {type left right : DataType} {annotations : List DataType}
  {style : UnionStyle}

/-! ## Dropping repetitions -/

/-- No annotation of a list equals a later one. -/
abbrev Apart (annotations : List DataType) : Prop :=
  annotations.Pairwise fun earlier later => earlier.same later = false

/-- One more annotation is kept unless it equals one that is kept already. -/
theorem distinct_append_singleton (annotations : List DataType) (type : DataType) :
    distinct (annotations ++ [type]) =
      if (distinct annotations).any (same · type) then distinct annotations
      else distinct annotations ++ [type] := by
  simp [distinct, List.foldl_append]

/-- Dropping repetitions adds nothing. -/
theorem mem_of_mem_distinct (member : type ∈ distinct annotations) : type ∈ annotations := by
  induction annotations using List.reverseRecOn with
  | nil =>
      cases member
  | append_singleton earlier last ih =>
      rw [distinct_append_singleton] at member
      split at member
      · exact List.mem_append_left _ (ih member)
      · rcases List.mem_append.mp member with before | new
        · exact List.mem_append_left _ (ih before)
        · exact List.mem_append_right _ new

/-- What is left of a list without its repetitions has none. -/
theorem apart_distinct (annotations : List DataType) : Apart (distinct annotations) := by
  induction annotations using List.reverseRecOn with
  | nil =>
      exact .nil
  | append_singleton earlier last ih =>
      rw [distinct_append_singleton]
      split
      · exact ih
      · rename_i new
        refine List.pairwise_append.mpr ⟨ih, List.pairwise_singleton _ _, ?_⟩
        intro kept isKept other isLast
        rw [List.mem_singleton.mp isLast]
        simpa using fun same => new (List.any_eq_true.mpr ⟨kept, isKept, same⟩)

/-- A list without repetitions stays as it is. -/
theorem distinct_eq_self (apart : Apart annotations) : distinct annotations = annotations := by
  induction annotations using List.reverseRecOn with
  | nil =>
      rfl
  | append_singleton earlier last ih =>
      rcases List.pairwise_append.mp apart with ⟨before, -, across⟩
      rw [distinct_append_singleton, ih before, if_neg]
      intro repeated
      rcases List.any_eq_true.mp repeated with ⟨kept, isKept, same⟩
      rw [across kept isKept last (List.mem_singleton_self last)] at same
      cases same

/-- The first annotation of a list is never dropped. -/
theorem head?_distinct (first : DataType) (rest : List DataType) :
    (distinct (first :: rest)).head? = some first := by
  induction rest using List.reverseRecOn with
  | nil =>
      rfl
  | append_singleton earlier last ih =>
      rw [← List.cons_append, distinct_append_singleton]
      split
      · exact ih
      · rw [List.head?_append, ih]
        rfl

/-- Something is left of a list that is not empty. -/
theorem distinct_ne_nil (nonempty : annotations ≠ []) : distinct annotations ≠ [] := by
  rcases List.exists_cons_of_ne_nil nonempty with ⟨first, rest, rfl⟩
  intro empty
  have head := head?_distinct first rest
  rw [empty] at head
  cases head

/-- One annotation is left exactly if all the others equal the first one. -/
theorem distinct_cons_eq_singleton_iff {first : DataType} {rest : List DataType} :
    distinct (first :: rest) = [first] ↔ ∀ other ∈ rest, first.same other = true := by
  induction rest using List.reverseRecOn with
  | nil =>
      simp [distinct]
  | append_singleton earlier last ih =>
      rw [← List.cons_append, distinct_append_singleton]
      by_cases one : distinct (first :: earlier) = [first]
      · rw [one, List.forall_mem_append, List.forall_mem_singleton, ← ih]
        by_cases repeated : first.same last = true
        · simp [repeated, one]
        · simp [repeated]
      · have different : ¬ ∀ other ∈ earlier ++ [last], first.same other = true := by
          intro all
          exact one (ih.mpr fun other member => all other (List.mem_append_left _ member))
        refine iff_of_false ?_ different
        split
        · exact one
        · intro single
          have lengths := congrArg List.length single
          have some := List.length_pos_iff.mpr (distinct_ne_nil (List.cons_ne_nil first earlier))
          simp only [List.length_append, List.length_singleton] at lengths
          omega

/-! ## Flat unions -/

/-- Whether an annotation is a union. -/
def isUnion : DataType → Bool
  | union _ _ => true
  | _ => false

/-- Whether an annotation is a class that is there to be subscripted only. -/
def isBare : DataType → Bool
  | ofClass name => name.isBare
  | _ => false

/-- Only classes are bare. -/
theorem exists_name_of_isBare (bare : type.isBare = true) :
    ∃ name : ClassName, name.isBare = true ∧ type = ofClass name := by
  cases type with
  | ofClass name =>
      exact ⟨name, bare, rfl⟩
  | _ =>
      cases bare

/-- A bare class is refused as an argument of `Union`. -/
theorem refusal?_of_isBare {name : ClassName} (bare : name.isBare = true) :
    (ofClass name).refusal? texts = some (bareRefusal name) := by
  simp [refusal?, plainRefusal?, bare]

/-- An annotation that can be an argument of `Union`, or is a bare class. -/
def Admissible (texts : Texts) (type : DataType) : Prop :=
  type.isBare = false → type.refusal? texts = none

/-- An annotation that can be a member of a union. -/
structure IsMember (texts : Texts) (type : DataType) : Prop where
  single : type.isUnion = false
  /-- As an argument it means itself: it is neither the value for no value nor a text. -/
  meant : type.typeArgument = type
  admissible : type.Admissible texts

/-- The members of a union as they are once it has been formed. -/
structure IsFlat (texts : Texts) (members : List DataType) : Prop where
  several : 2 ≤ members.length
  isMember : ∀ member ∈ members, member.IsMember texts
  apart : Apart members

/-- A union is flat; nothing is asked of other annotations. -/
def WellFormed (texts : Texts) : DataType → Prop
  | union _ members => IsFlat texts members
  | _ => True

/-- An annotation that a union can be formed of, flat itself if it is a union. -/
structure IsPart (texts : Texts) (type : DataType) : Prop where
  wellFormed : type.WellFormed texts
  meant : type.typeArgument = type
  admissible : type.Admissible texts

/-- An argument means something else than the value for no value. -/
theorem typeArgument_ne_nothing (type : DataType) : type.typeArgument ≠ nothing := by
  unfold typeArgument
  split
  · simp [noneType]
  · simp
  · assumption

/-- What means itself as an argument is not the value for no value. -/
theorem ne_nothing_of_meant (meant : type.typeArgument = type) : type ≠ nothing := by
  rw [← meant]
  exact typeArgument_ne_nothing type

/-- What an argument means is read no further. -/
theorem typeArgument_typeArgument (type : DataType) :
    type.typeArgument.typeArgument = type.typeArgument := by
  cases type with
  | value datum =>
      cases datum <;> rfl
  | _ =>
      rfl

/-- There is no condition on types that are no unions. -/
theorem wellFormed_of_isUnion_eq_false (single : type.isUnion = false) :
    type.WellFormed texts := by
  cases type with
  | union =>
      cases single
  | _ =>
      trivial

/-- An annotation that is no union is its own only member. -/
theorem members_of_isUnion_eq_false (single : type.isUnion = false) : type.members = [type] := by
  cases type with
  | union =>
      cases single
  | _ =>
      rfl

/-- Every well-formed type has members. -/
theorem members_ne_nil (wellFormed : type.WellFormed texts) : type.members ≠ [] := by
  cases type with
  | union style members =>
      have several := wellFormed.several
      rintro rfl
      simp at several
  | _ =>
      exact List.cons_ne_nil _ _

/-- What a part adds to a union can be a member of it. -/
theorem IsPart.isMember (isPart : type.IsPart texts) :
    ∀ member ∈ type.members, member.IsMember texts := by
  cases type with
  | union style members =>
      exact isPart.wellFormed.isMember
  | _ =>
      intro member among
      rw [List.mem_singleton.mp among]
      exact ⟨rfl, isPart.meant, isPart.admissible⟩

/-- The members of a well-formed type are all different. -/
theorem apart_members (wellFormed : type.WellFormed texts) : Apart type.members := by
  cases type with
  | union style members =>
      exact wellFormed.apart
  | _ =>
      exact List.pairwise_singleton _ _

/-- A union is formed flat out of annotations whose own unions are flat. -/
theorem wellFormed_joined
    (nonempty : annotations ≠ [])
    (parts : ∀ part ∈ annotations, part.IsPart texts) :
    (joined style annotations).WellFormed texts ∧ joined style annotations ≠ nothing := by
  have areMembers : ∀ member ∈ distinct (annotations.flatMap members), member.IsMember texts := by
    intro member kept
    rcases List.mem_flatMap.mp (mem_of_mem_distinct kept) with ⟨part, isPart, among⟩
    exact (parts part isPart).isMember member among
  have some : distinct (annotations.flatMap members) ≠ [] := by
    apply distinct_ne_nil
    rcases List.exists_cons_of_ne_nil nonempty with ⟨first, rest, rfl⟩
    rw [List.flatMap_cons]
    exact List.append_ne_nil_of_left_ne_nil
      (members_ne_nil (parts first List.mem_cons_self).wellFormed) _
  unfold joined
  split
  · rename_i single only
    rw [only] at areMembers
    have isMember := areMembers single List.mem_cons_self
    exact ⟨wellFormed_of_isUnion_eq_false isMember.single, ne_nothing_of_meant isMember.meant⟩
  · rename_i notSingle
    refine ⟨⟨?_, areMembers, apart_distinct _⟩, by simp⟩
    by_contra few
    have one : (distinct (annotations.flatMap members)).length = 1 := by
      have positive := List.length_pos_iff.mpr some
      omega
    rcases List.length_eq_one_iff.mp one with ⟨single, only⟩
    exact notSingle single only

/-! ## Arguments of constructs -/

theorem isUnion_typeArgument (type : DataType) : type.typeArgument.isUnion = type.isUnion := by
  unfold typeArgument
  split <;> rfl

/-- What a type means as an argument is well formed like the type itself. -/
theorem wellFormed_typeArgument (wellFormed : type.WellFormed texts) :
    type.typeArgument.WellFormed texts := by
  unfold typeArgument
  split
  · trivial
  · trivial
  · exact wellFormed

/-- What an argument means is not refused once more. -/
theorem refusal?_typeArgument (accepted : type.refusal? texts = none) :
    type.typeArgument.refusal? texts = none := by
  unfold typeArgument
  split
  · rfl
  · rfl
  · exact accepted

/-- An argument of `Union` is a part of the union that is formed. -/
theorem isPart_of_accepted
    (wellFormed : type.WellFormed texts) (accepted : type.refusal? texts = none) :
    type.typeArgument.IsPart texts :=
  ⟨wellFormed_typeArgument wellFormed, typeArgument_typeArgument type,
    fun _ => refusal?_typeArgument accepted⟩

/-- Beside a bar, only bare classes would be refused by `Union`. -/
theorem refusal?_of_isPlain (plain : type.isPlain = true) (clothed : type.isBare = false) :
    type.refusal? texts = none := by
  cases type with
  | nothing | applied =>
      rfl
  | ofClass name =>
      have ordinary : name.isBare = false := clothed
      simp [refusal?, plainRefusal?, ordinary]
  | union =>
      rfl
  | _ =>
      cases plain

/-- An annotation beside a bar is a part of the union that is formed. -/
theorem isPart_of_isPlain
    (wellFormed : type.WellFormed texts) (plain : type.isPlain = true) :
    type.typeArgument.IsPart texts := by
  refine ⟨wellFormed_typeArgument wellFormed, typeArgument_typeArgument type, ?_⟩
  intro clothed
  cases type with
  | nothing =>
      rfl
  | value =>
      cases plain
  | _ =>
      exact refusal?_of_isPlain plain clothed

/-- A union can be formed of some annotations if there are any and none of them is refused. -/
theorem unionOf_eq_ok_iff :
    unionOf texts annotations = .ok type ↔
      annotations ≠ [] ∧ (∀ part ∈ annotations, part.refusal? texts = none) ∧
        type = joined .typing (annotations.map typeArgument) := by
  cases annotations with
  | nil =>
      simp [unionOf]
  | cons first rest =>
      rw [← List.findSome?_eq_none_iff]
      cases refused : (first :: rest).findSome? (refusal? texts) with
      | none =>
          simp [unionOf, typeArguments, refused, Except.map, eq_comm]
      | some failure =>
          simp [unionOf, typeArguments, refused, Except.map]

/-- A bar forms a union of two parts, in one style or the other. -/
theorem exists_style_of_either
    (wellFormedLeft : left.WellFormed texts) (wellFormedRight : right.WellFormed texts)
    (formed : either texts left right = .ok type) :
    left.typeArgument.IsPart texts ∧ right.typeArgument.IsPart texts ∧
      ∃ style, type = joined style [left.typeArgument, right.typeArgument] := by
  unfold either at formed
  split at formed
  · cases formed
  · split at formed
    · rename_i plain
      rw [Bool.and_eq_true] at plain
      cases formed
      exact ⟨isPart_of_isPlain wellFormedLeft plain.1, isPart_of_isPlain wellFormedRight plain.2,
        .bar, rfl⟩
    · split at formed
      · cases formed
      · split at formed
        · cases formed
        · rcases unionOf_eq_ok_iff.mp formed with ⟨-, accepted, same⟩
          exact ⟨isPart_of_accepted wellFormedLeft (accepted left (by simp)),
            isPart_of_accepted wellFormedRight (accepted right (by simp)), .typing, same⟩

/-! ## Ways to form annotations -/

/-- The annotations that can be formed. -/
inductive Formed (texts : Texts) : DataType → Prop where
  | nothing : Formed texts nothing
  | ellipsis : Formed texts ellipsis
  | ofClass (name : ClassName) : Formed texts (ofClass name)
  | newType (name : ClassName) : Formed texts (newType name)
  | aliased (name : String) : Formed texts (aliased name)
  | mark (name : String) : Formed texts (mark name)
  | literal (values : List Datum) : Formed texts (literal values)
  | value (datum : Datum) : Formed texts (value datum)
  | forward (name : String) : Formed texts (forward name)
  | object (shown : String) : Formed texts (object shown)
  /-- A subscription. -/
  | apply
      {head type : DataType} {arguments : List DataType}
      (formedHead : Formed texts head)
      (formedArguments : ∀ argument ∈ arguments, Formed texts argument)
      (applied : apply texts head arguments = .ok type) : Formed texts type
  | marked (name : String)
      {argument type : DataType} (formed : Formed texts argument)
      (marks : marking texts name argument = .ok type) : Formed texts type
  /-- `Union` and `Optional`. -/
  | unionOf
      {type : DataType} {annotations : List DataType}
      (formed : ∀ part ∈ annotations, Formed texts part)
      (united : unionOf texts annotations = .ok type) : Formed texts type
  /-- A bar between two annotations. -/
  | either
      {left right type : DataType}
      (formedLeft : Formed texts left) (formedRight : Formed texts right)
      (united : either texts left right = .ok type) : Formed texts type
  | annotate (metadata : Datum)
      {base type : DataType} (formed : Formed texts base)
      (annotated : annotate texts base metadata = .ok type) : Formed texts type

/-- What a subscription gives is well formed. -/
theorem wellFormed_apply
    {head : DataType} {arguments : List DataType}
    (wellFormed : head.WellFormed texts) (applied : apply texts head arguments = .ok type) :
    type.WellFormed texts := by
  unfold apply at applied
  split at applied
  · rcases Attempt.map_eq_ok_iff.mp applied with ⟨stored, -, rfl⟩
    trivial
  · split at applied
    · cases applied
      trivial
    · split at applied
      · cases applied
      · cases applied
        trivial
  · cases applied
    exact wellFormed

/-- What a marker around an annotation gives is well formed. -/
theorem wellFormed_marking
    {name : String} {argument : DataType} (marks : marking texts name argument = .ok type) :
    type.WellFormed texts := by
  unfold marking at marks
  split at marks
  · cases marks
  · cases marks
    trivial

/-- Metadata around a type leaves it well formed. -/
theorem wellFormed_annotate
    {base : DataType} {metadata : Datum} (annotated : annotate texts base metadata = .ok type) :
    type.WellFormed texts := by
  unfold annotate at annotated
  split at annotated
  · cases annotated
  · cases annotated
    unfold withAnnotated
    split <;> trivial

/-- Whatever unions are formed of, they come out flat. -/
theorem Formed.wellFormed (formed : Formed texts type) : type.WellFormed texts := by
  induction formed with
  | apply formedHead formedArguments applied ihHead ihArguments =>
      exact wellFormed_apply ihHead applied
  | unionOf formed united ih =>
      rcases unionOf_eq_ok_iff.mp united with ⟨nonempty, accepted, rfl⟩
      refine (wellFormed_joined (by simpa using nonempty) ?_).1
      intro part isPart
      rcases List.mem_map.mp isPart with ⟨given, isGiven, rfl⟩
      exact isPart_of_accepted (ih given isGiven) (accepted given isGiven)
  | @either left right type formedLeft formedRight united ihLeft ihRight =>
      rcases exists_style_of_either ihLeft ihRight united with ⟨isLeft, isRight, style, rfl⟩
      refine (wellFormed_joined (List.cons_ne_nil _ _) ?_).1
      rw [List.forall_mem_cons, List.forall_mem_singleton]
      exact ⟨isLeft, isRight⟩
  | marked name formed marks ih =>
      exact wellFormed_marking marks
  | annotate metadata formed annotated ih =>
      exact wellFormed_annotate annotated
  | nothing | ellipsis | ofClass | newType | aliased | mark | literal | value | forward | object =>
      trivial

/-! ## Described annotations -/

variable {find? : String → Option ClassName}

theorem formed_ofDatum (datum : Datum) : Formed texts (ofDatum datum) := by
  unfold ofDatum
  split
  · exact .nothing
  · exact .value _

theorem formed_ofWord (word : String) : Formed texts (ofWord find? word) := by
  unfold ofWord
  split
  · split
    · exact .ofClass _
    · exact .object _
  · exact .ofClass _
  · split
    · exact .ofClass _
    · split
      · exact .ofClass _
      · split
        · exact .mark _
        · exact .aliased _
  · split
    · exact .nothing
    · exact .ellipsis
    · exact .newType _
    · exact .mark _
    · exact .mark _
    · split
      · exact .ofClass _
      · exact .ofClass _

/-- Bars between annotations form one after the other. -/
theorem formed_eitherOf
    (formed : ∀ part ∈ annotations, Formed texts part)
    (united : eitherOf texts annotations = .ok type) : Formed texts type := by
  cases annotations with
  | nil =>
      cases united
      exact .nothing
  | cons first rest =>
      refine Attempt.holds_of_foldlM (Formed texts) (formed first List.mem_cons_self) ?_ united
      intro part isPart before after formedBefore united
      exact .either formedBefore (formed part (List.mem_cons_of_mem _ isPart)) united

/-- What a head stands for is formed of what its arguments stand for. -/
theorem formed_headed
    {head : DataType} {word : String}
    (formedHead : Formed texts head) (formed : ∀ part ∈ annotations, Formed texts part)
    (described : headed texts head word annotations = .ok type) : Formed texts type := by
  unfold headed at described
  split at described
  · refine .unionOf ?_ described
    rw [List.forall_mem_cons, List.forall_mem_singleton]
    exact ⟨formed _ List.mem_cons_self, .ofClass _⟩
  · exact .unionOf formed described
  · exact formed_eitherOf formed described
  · exact .marked _ (formed _ List.mem_cons_self) described
  · exact .marked _ (formed _ List.mem_cons_self) described
  · exact .apply formedHead formed described

/-- Every annotation that a description stands for can be formed. -/
theorem formed_of_ofDescription (description : Datum) :
    ∀ type, ofDescription texts find? description = .ok type → Formed texts type := by
  -- The second statement is about the arguments of a head, which are described one by one.
  refine ofDescription.induct
    (fun description => ∀ type, ofDescription texts find? description = .ok type →
      Formed texts type)
    (fun descriptions => ∀ types, ofDescriptions texts find? descriptions = .ok types →
      ∀ type ∈ types, Formed texts type)
    ?word ?forward ?value ?newType ?annotated ?literal ?headed ?other ?none ?more description
  case word =>
    intro word type described
    simp only [ofDescription] at described
    cases described
    exact formed_ofWord word
  case forward =>
    intro name type described
    simp only [ofDescription] at described
    cases described
    exact .value _
  case value =>
    intro datum type described
    simp only [ofDescription] at described
    cases described
    exact formed_ofDatum datum
  case newType =>
    intro name base type described
    simp only [ofDescription] at described
    cases described
    exact .newType _
  case annotated =>
    intro base metadata ih type described
    simp only [ofDescription] at described
    rcases Attempt.bind_eq_ok_iff.mp described with ⟨inner, isInner, annotated⟩
    exact .annotate metadata (ih inner isInner) annotated
  case literal =>
    intro values type described
    simp only [ofDescription] at described
    cases described
    exact .literal _
  case headed =>
    intro head rest notForward notValue notNew notAnnotated notLiteral ih type described
    simp only [ofDescription] at described
    rcases Attempt.bind_eq_ok_iff.mp described with ⟨arguments, areArguments, headed⟩
    exact formed_headed (formed_ofWord head) (ih arguments areArguments) headed
  case other =>
    intro other notWord notForward notValue notNew notAnnotated notLiteral notHeaded type described
    rw [ofDescription] at described
    · cases described
      exact formed_ofDatum other
    all_goals assumption
  case none =>
    intro types described
    simp only [ofDescriptions] at described
    cases described
    simp
  case more =>
    intro description rest ihFirst ihRest types described
    simp only [ofDescriptions] at described
    rcases Attempt.bind_eq_ok_iff.mp described with ⟨first, isFirst, others⟩
    rcases Attempt.bind_eq_ok_iff.mp others with ⟨later, areLater, all⟩
    cases all
    intro type member
    rcases List.mem_cons.mp member with rfl | isLater
    · exact ihFirst _ isFirst
    · exact ihRest later areLater type isLater

end TypedMustache.DataType
