import TypedMustache.Proofs.Scope.Stack
import TypedMustache.Scope.Statement

/-!
# Sections and inverted sections

A section and an inverted section over the same name are meant to share the work:
one of them writes its body where the other does not.  Whether a body is written is
decided by the header of its block when the generated code runs, so the headers
are read here and evaluated.  A `Header` is one of the six forms that they have,
`Header.read?` finds the form of a header from its text, and `Header.runs` says how
often the body runs for a value.

`Scope.complementary_of_lookup` is the result.  The values are those that the
declared type lets in: no value only where the type is optional, and under a loop
only values that are false exactly if they have no elements.
-/

namespace TypedMustache

/-! ## Forms of headers -/

/-- The form of the header of a block. -/
inductive Header where
  | ifTrue
  | ifFalse
  | ifAbsent
  | ifPresent
  | forEach
  /-- A loop over the elements of a value, or over none if the value is false. -/
  | forEachOrNone
deriving DecidableEq, Repr

namespace Header

/-- The header of a form, over an expression and with a variable for elements. -/
def print (expression element : String) : Header → String
  | ifTrue => "if " ++ expression ++ ":"
  | ifFalse => "if not " ++ expression ++ ":"
  | ifAbsent => "if " ++ expression ++ " is None:"
  | ifPresent => "if " ++ expression ++ " is not None:"
  | forEach => "for " ++ element ++ " in " ++ expression ++ ":"
  | forEachOrNone => "for " ++ element ++ " in " ++ expression ++ " or ():"

/-- All forms. -/
def forms : List Header :=
  [ifTrue, ifFalse, ifAbsent, ifPresent, forEach, forEachOrNone]

/-- The form of a header that is written over an expression. -/
def read? (expression element text : String) : Option Header :=
  forms.find? fun form => form.print expression element == text

/-- Whether a header begins a loop. -/
def isLoop : Header → Bool
  | forEach | forEachOrNone => true
  | _ => false

/-- The number of characters of a header beside the expression and the variable. -/
def fixedLength : Header → Nat
  | ifTrue => 4
  | ifFalse => 8
  | ifAbsent => 12
  | ifPresent => 16
  | forEach => 9
  | forEachOrNone => 15

theorem head?_print (expression element : String) (form : Header) :
    (form.print expression element).toList.head? = some (if form.isLoop then 'f' else 'i') := by
  cases form <;> simp [print, isLoop]

theorem length_print (expression element : String) (form : Header) :
    (form.print expression element).toList.length =
      form.fixedLength + expression.toList.length +
        (if form.isLoop then element.toList.length else 0) := by
  cases form <;> simp [print, isLoop, fixedLength] <;> omega

/-- The text of a header tells its form, by its first letter and its length. -/
theorem print_injective (expression element : String) :
    Function.Injective (print expression element) := by
  intro left right same
  have loops : left.isLoop = right.isLoop := by
    have heads := congrArg (fun text => text.toList.head?) same
    simp only [head?_print, Option.some.injEq] at heads
    revert heads
    cases left.isLoop <;> cases right.isLoop <;> simp
  have lengths : left.fixedLength = right.fixedLength := by
    have whole := congrArg (fun text => text.toList.length) same
    simp only [length_print, loops] at whole
    omega
  revert loops lengths
  cases left <;> cases right <;> decide

theorem read?_print (expression element : String) (form : Header) :
    read? expression element (form.print expression element) = some form := by
  have told (other : Header) :
      (other.print expression element == form.print expression element) = (other == form) := by
    rw [Bool.eq_iff_iff, beq_iff_eq, beq_iff_eq]
    exact (print_injective expression element).eq_iff
  simp only [read?, told]
  cases form <;> rfl

end Header

/-! ## Running a block -/

/-- What a header can find out about a value. -/
inductive Probe where
  /-- There is no value. -/
  | absent
  /-- There is a value: whether it counts as true, and how many elements a loop over it meets. -/
  | present (truth : Bool) (count : Nat)
deriving DecidableEq, Repr

/-- The values that a declared type lets in, as far as a section of a shape looks at them. -/
def Probe.Fits (type : DataType) (shape : Shape) : Probe → Prop
  | absent => type.admitsNone = true
  | present truth count => shape = .iteration → (count = 0 ↔ truth = false)

/-- How often the body of a block runs; there are no elements of no value to loop over. -/
def Header.runs : Header → Probe → Option Nat
  | ifTrue, .absent => some 0
  | ifTrue, .present truth _ => some (if truth then 1 else 0)
  | ifFalse, .absent => some 1
  | ifFalse, .present truth _ => some (if truth then 0 else 1)
  | ifAbsent, .absent => some 1
  | ifAbsent, .present _ _ => some 0
  | ifPresent, .absent => some 0
  | ifPresent, .present _ _ => some 1
  | forEach, .absent => none
  | forEach, .present _ count => some count
  | forEachOrNone, .absent => some 0
  | forEachOrNone, .present truth count => some (if truth then count else 0)

namespace Section

variable {settings : Settings} {upright inverse : Section} {probe : Probe}

/-- How often the body of a section runs, as the text of its header has it. -/
def bodyRuns (settings : Settings) (opened : Section) (probe : Probe) : Option Nat :=
  (Header.read? (opened.subject.expression settings) (opened.bound.expression settings)
    (opened.header settings)).bind (·.runs probe)

/-- The form of the header of a section. -/
def form (opened : Section) : Header :=
  match opened.inverted, opened.shape with
  | true, .optional => .ifAbsent
  | true, _ => .ifFalse
  | false, .iteration => if opened.subject.type.admitsNone then .forEachOrNone else .forEach
  | false, .optional => .ifPresent
  | false, _ => .ifTrue

theorem header_eq_print (settings : Settings) (opened : Section) :
    opened.header settings =
      opened.form.print (opened.subject.expression settings)
        (opened.bound.expression settings) := by
  simp only [header, form]
  cases opened.inverted with
  | true =>
      cases opened.shape <;> rfl
  | false =>
      cases opened.shape with
      | iteration =>
          cases opened.subject.type.admitsNone with
          | true =>
              simp [Header.print, String.append_assoc]
          | false =>
              rfl
      | guard | optional | object =>
          rfl

theorem bodyRuns_eq (settings : Settings) (opened : Section) (probe : Probe) :
    opened.bodyRuns settings probe = opened.form.runs probe := by
  rw [bodyRuns, header_eq_print, Header.read?_print]
  rfl

/-- A section over a value and an inverted one, of which exactly one runs its body. -/
structure Complementary (settings : Settings) (subject : Reference)
    (upright inverse : Section) : Prop where
  isUpright : upright.inverted = false
  isInverse : inverse.inverted = true
  /-- Both are over the same value, so its declared type and its expression are the same. -/
  sameSubject : upright.subject = subject ∧ inverse.subject = subject
  shape : inverse.shape = upright.shape
  bindsNothing : inverse.binds = false
  /-- Both headers can be evaluated, so none of them is a loop over no value. -/
  bodies : ∀ probe : Probe, probe.Fits subject.type upright.shape →
    ∃ times inverseTimes,
      upright.bodyRuns settings probe = some times ∧
        inverse.bodyRuns settings probe = some inverseTimes ∧
        (0 < times ↔ inverseTimes = 0)

/-- A loop meets an element exactly if the value does not count as false. -/
theorem exists_runs_loop
    {type : DataType} (fits : probe.Fits type .iteration) :
    ∃ times inverseTimes,
      (if type.admitsNone then Header.forEachOrNone else .forEach).runs probe = some times ∧
        Header.ifFalse.runs probe = some inverseTimes ∧ (0 < times ↔ inverseTimes = 0) := by
  cases probe with
  | absent =>
      have optional : type.admitsNone = true := fits
      rw [optional]
      exact ⟨0, 1, rfl, rfl, by decide⟩
  | present truth count =>
      have empty : count = 0 ↔ truth = false := fits rfl
      cases truth with
      | false =>
          rw [empty.mpr rfl]
          cases type.admitsNone <;> exact ⟨0, 1, rfl, rfl, by decide⟩
      | true =>
          have some : 0 < count := by
            apply Nat.pos_of_ne_zero
            intro none
            cases empty.mp none
          cases type.admitsNone <;> exact ⟨count, 0, rfl, rfl, by simp [some]⟩

/-- The headers of two sections of one shape, one of them inverted, exclude each other. -/
theorem exists_runs_form
    (shape : inverse.shape = upright.shape)
    (isUpright : upright.inverted = false) (isInverse : inverse.inverted = true)
    (fits : probe.Fits upright.subject.type upright.shape) :
    ∃ times inverseTimes,
      upright.form.runs probe = some times ∧ inverse.form.runs probe = some inverseTimes ∧
        (0 < times ↔ inverseTimes = 0) := by
  simp only [form, isUpright, isInverse, shape]
  cases shaped : upright.shape with
  | guard | object =>
      rcases probe with _ | ⟨_ | _, count⟩ <;> exact ⟨_, _, rfl, rfl, by decide⟩
  | optional =>
      cases probe <;> exact ⟨_, _, rfl, rfl, by decide⟩
  | iteration =>
      rw [shaped] at fits
      exact exists_runs_loop fits

end Section

namespace Scope

variable {catalog : Catalog} {scope : Scope} {name : String} {subject : Reference}

/--
A section and an inverted section over a name are complementary.  A name can be
looked up and have no section if its type has no shape: then it has none of either
sort, for the same reason.
-/
theorem complementary_of_lookup
    (settings : Settings) (found : (scope.lookup catalog name).outcome = .ok subject) :
    (∃ failure, subject.type.sectionShape catalog = .error failure ∧
        ∀ inverted, (scope.enter catalog name inverted).outcome = .error failure) ∨
      ∃ upright inverse : Section,
        (scope.enter catalog name false).outcome =
            .ok { scope with sections := upright :: scope.sections } ∧
          (scope.enter catalog name true).outcome =
            .ok { scope with sections := inverse :: scope.sections } ∧
          upright.Complementary settings subject inverse ∧
          ∀ other, lookup catalog { scope with sections := inverse :: scope.sections } other =
            scope.lookup catalog other := by
  cases shaped : subject.type.sectionShape catalog with
  | error failure =>
      refine .inl ⟨failure, rfl, ?_⟩
      intro inverted
      simp [enter, openOver, found, shaped]
  | ok pair =>
      right
      refine ⟨_, _, enter_eq_ok_iff.mpr ⟨subject, pair.1, pair.2, found, shaped, rfl⟩,
        enter_eq_ok_iff.mpr ⟨subject, pair.1, pair.2, found, shaped, rfl⟩, ?_, ?_⟩
      · refine
          { isUpright := rfl
            isInverse := rfl
            sameSubject := ⟨rfl, rfl⟩
            shape := rfl
            bindsNothing := rfl
            bodies := ?_ }
        intro probe fits
        simp only [Section.bodyRuns_eq]
        exact Section.exists_runs_form rfl rfl rfl fits
      · intro other
        apply lookup_eq_of_bound_eq
        rw [bound_opened]
        rfl

/-- The type of texts in a list that may be missing. -/
def tagsType : DataType :=
  .union .typing [.applied (.builtin "list") [.ofClass (.builtin "str")], .noneType]

/-- Posts that may have a list of tags. -/
def posts : Catalog :=
  { models :=
      [{ name := { moduleName := "models", qualifiedName := "Post" }
         annotations := [("tags", tagsType)]
         attributes := []
         bases := [] }]
    constants := [] }

/-- The scope of a template over a post. -/
def postScope : Scope :=
  .root (.ofClass { moduleName := "models", qualifiedName := "Post" })

/-- Where there are no tags, the loop meets none and the other section runs. -/
theorem complementary_of_lookup_tags :
    (postScope.enter posts "tags" false).outcome.toOption.map (·.header {}) =
        some "for item1 in data.tags or ():" ∧
      (postScope.enter posts "tags" true).outcome.toOption.map (·.header {}) =
        some "if not data.tags:" ∧
      (postScope.lookup posts "tags").outcome =
        .ok { source := .data, members := ["tags"], type := tagsType } ∧
      Probe.absent.Fits tagsType .iteration ∧
      ∃ upright inverse : Section,
        (postScope.enter posts "tags" false).outcome =
          .ok { postScope with sections := [upright] } ∧
        (postScope.enter posts "tags" true).outcome = .ok { postScope with sections := [inverse] } ∧
        upright.Complementary {} { source := .data, members := ["tags"], type := tagsType }
          inverse := by
  refine ⟨by decide +kernel, by decide +kernel, rfl, rfl, ?_⟩
  have found : (postScope.lookup posts "tags").outcome =
      .ok { source := .data, members := ["tags"], type := tagsType } :=
    rfl
  have shaped : tagsType.sectionShape posts = .ok (.iteration, .ofClass (.builtin "str")) :=
    rfl
  rcases complementary_of_lookup {} found with
    ⟨failure, shapeless, -⟩ | ⟨upright, inverse, opens, opensInverse, complementary, -⟩
  · rw [shaped] at shapeless
    cases shapeless
  · exact ⟨upright, inverse, opens, opensInverse, complementary⟩

end Scope

end TypedMustache
