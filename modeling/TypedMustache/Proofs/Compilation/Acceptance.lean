import TypedMustache.Proofs.Compilation.CodeText
import TypedMustache.Proofs.Compilation.RunFailure

/-!
# The templates that full runs accept

A full run accepts exactly the templates whose sections nest, and whose names
have a meaning inside the sections around them.  It refuses every other template
at the first token that breaks one of these rules.

Both sides are told without a run.  `SectionTree.Resolves` looks at the tree of
a template.  `Token.Breaks` looks at one token and at the sections that are open
before it, which are the opening tokens that no closing token has taken away
yet (`Token.unclosed`).  The invariant that connects them with a run is that the
open sections of its scope are the unclosed tokens read so far.
-/

namespace TypedMustache

/-! ## Types with a shape -/

/-- Sections can be opened over values of every type in reach of a type. -/
def Catalog.Shaped (catalog : Catalog) (dataType : DataType) : Prop :=
  ∀ type, catalog.Reaches dataType type → ∃ shape inner,
    type.sectionShape catalog = .ok (shape, inner)

namespace Scope

variable {catalog : Catalog} {dataType : DataType} {scope : Scope} {name : String}
  {inverted : Bool} {failure : Failure}

/-- Where all types have a shape, a name without a meaning is a fault of the template. -/
theorem exists_fault_of_shaped
    (shaped : catalog.Shaped dataType) (grown : scope.Grown catalog dataType)
    (failed : (scope.lookup catalog name).outcome = .error failure) :
    ∃ fault : Fault, failure = .ofFault fault := by
  rcases lookup_eq_error_cases failed with ⟨fault, -, same⟩ | ⟨value, meets, shapeless⟩
  · exact ⟨fault, same⟩
  · rcases shaped value.type (meets.reaches grown.reachable) with ⟨shape, inner, hasShape⟩
    rw [hasShape] at shapeless
    cases shapeless

/-- Where all types have a shape, nothing but its name can keep a section from opening. -/
theorem enter_eq_error_iff_of_shaped
    (shaped : catalog.Shaped dataType) (grown : scope.Grown catalog dataType) :
    (scope.enter catalog name inverted).outcome = .error failure ↔
      (scope.lookup catalog name).outcome = .error failure := by
  rw [enter_eq_error_iff]
  constructor
  · rintro (unknown | ⟨value, looked, shapeless⟩)
    · exact unknown
    · rcases shaped value.type (grown.reachable.reaches_of_lookup looked) with
        ⟨shape, inner, hasShape⟩
      rw [hasShape] at shapeless
      cases shapeless
  · exact Or.inl

/-- Where all types have shapes, a name can be entered if it can be looked up. -/
theorem exists_enter_iff_of_shaped
    (shaped : catalog.Shaped dataType) (grown : scope.Grown catalog dataType) (inverted : Bool) :
    (∃ entered, (scope.enter catalog name inverted).outcome = .ok entered) ↔
      ∃ value, (scope.lookup catalog name).outcome = .ok value := by
  constructor
  · rintro ⟨entered, opened⟩
    rcases enter_eq_ok_iff.mp opened with ⟨value, shape, inner, looked, -, -⟩
    exact ⟨value, looked⟩
  · rintro ⟨value, looked⟩
    rcases shaped value.type (grown.reachable.reaches_of_lookup looked) with
      ⟨shape, inner, hasShape⟩
    exact ⟨_, enter_eq_ok_iff.mpr ⟨value, shape, inner, looked, hasShape, rfl⟩⟩

end Scope

/-! ## Trees whose names resolve -/

namespace SectionTree

/--
The names of a tree have a meaning: those of references in the scope of the tree,
those of blocks as well, and those inside of a block in the scope that it opens.
-/
def Resolves (catalog : Catalog) (scope : Scope) : SectionTree → Prop
  | nil => True
  | literal _ _ rest => rest.Resolves catalog scope
  | reference _ name rest =>
      (∃ value, (scope.lookup catalog name).outcome = .ok value) ∧ rest.Resolves catalog scope
  | block inverted name body rest =>
      (∃ entered,
        (scope.enter catalog name inverted).outcome = .ok entered ∧
          body.Resolves catalog entered) ∧
        rest.Resolves catalog scope

/-- Where all types have a shape, trees whose names resolve are those that have code. -/
theorem exists_code?_iff_resolves
    {catalog : Catalog} {dataType : DataType} {scope : Scope}
    (settings : Settings) (shaped : catalog.Shaped dataType) (tree : SectionTree)
    (grown : scope.Grown catalog dataType) :
    (∃ code, tree.code? catalog settings scope = some code) ↔ tree.Resolves catalog scope := by
  induction tree generalizing scope with
  | nil =>
      exact iff_of_true ⟨.nil, rfl⟩ trivial
  | literal special text rest ih =>
      simp only [code?_literal_eq_some_iff, Resolves, ← ih grown]
      constructor
      · rintro ⟨code, after, resolved, -⟩
        exact ⟨after, resolved⟩
      · rintro ⟨after, resolved⟩
        exact ⟨_, after, resolved, rfl⟩
  | reference escaped name rest ih =>
      simp only [code?_reference_eq_some_iff, Resolves, ← ih grown,
        ← Scope.exists_enter_iff_of_shaped shaped grown false]
      constructor
      · rintro ⟨code, entered, after, opened, resolved, -⟩
        exact ⟨⟨entered, opened⟩, after, resolved⟩
      · rintro ⟨⟨entered, opened⟩, after, resolved⟩
        exact ⟨_, entered, after, opened, resolved, rfl⟩
  | block inverted name body rest bodyIH restIH =>
      simp only [code?_block_eq_some_iff, Resolves, ← restIH grown]
      constructor
      · rintro ⟨code, entered, inside, after, opened, resolvedBody, resolved, -⟩
        exact ⟨⟨entered, opened, (bodyIH (.enter grown opened)).mp ⟨inside, resolvedBody⟩⟩,
          after, resolved⟩
      · rintro ⟨⟨entered, opened, resolves⟩, after, resolved⟩
        rcases (bodyIH (.enter grown opened)).mpr resolves with ⟨inside, resolvedBody⟩
        exact ⟨_, entered, inside, after, opened, resolvedBody, resolved, rfl⟩

end SectionTree

/-! ## Unclosed tokens -/

namespace Token

/-- Whether a token opens a section. -/
def opens (token : Token) : Bool :=
  token.kind == .sectionOpen || token.kind == .invertedOpen

/-- The unclosed opening tokens after a token, the innermost one first. -/
def nest (opened : List Token) (token : Token) : List Token :=
  if token.opens then token :: opened
  else if token.kind = .sectionClose then opened.tail
  else opened

theorem nest_eq_self {opened : List Token} {token : Token}
    (neither : token.kind ≠ .sectionOpen ∧ token.kind ≠ .invertedOpen ∧
      token.kind ≠ .sectionClose) :
    token.nest opened = opened := by
  simp [nest, opens, neither]

/-- The opening tokens that no closing token has taken away, the innermost one first. -/
def unclosed (tokens : List Token) : List Token :=
  tokens.foldl nest []

/--
The tokens up to the first end token.  Where there is none, one is made up at the
last place.
-/
def completed (source : String) (tokens : List Token) : List Token :=
  tokens.takeWhile (·.kind ≠ .endOfFile) ++
    [(tokens.find? (·.kind = .endOfFile)).getD
      (.atEnd ((tokens.getLast?.map (·.position)).getD (.start source)))]

/-- No token before the last one is the end. -/
theorem kind_of_mem_before
    {source : String} {tokens before rest : List Token} {token : Token}
    (split : completed source tokens = before ++ token :: rest) :
    ∀ other ∈ before, other.kind ≠ .endOfFile := by
  intro other member
  have within : other ∈ tokens.takeWhile (·.kind ≠ .endOfFile) := by
    rcases List.append_eq_append_iff.mp split with ⟨more, known, ended⟩ | ⟨more, known, -⟩
    · have nothing : more = [] := by
        cases more with
        | nil =>
            rfl
        | cons first others =>
            simp at ended
      rwa [known, nothing, List.append_nil] at member
    · rw [known]
      exact List.mem_append_left _ member
  rw [← TokenStream.template_ofList_eq_takeWhile (ε := Failure)] at within
  exact TokenStream.kind_of_mem_template within

end Token

/-- The scope inside of the sections that tokens open, the innermost one first. -/
def Scope.within? (catalog : Catalog) (dataType : DataType) : List Token → Option Scope
  | [] => some (.root dataType)
  | innermost :: outer =>
      (within? catalog dataType outer).bind fun scope =>
        (scope.enter catalog innermost.value (innermost.kind == .invertedOpen)).outcome.toOption

namespace Token

/-! ## Broken rules -/

/-- A token breaks a rule, given the tokens whose sections are open before it. -/
inductive Breaks (catalog : Catalog) (dataType : DataType) (opened : List Token)
    (token : Token) : Fault → Prop where
  | unopened
      (closes : token.kind = .sectionClose) (nothing : opened = []) :
      Breaks catalog dataType opened token (.unopenedSection token.value)
  | mismatched
      {innermost : Token} {outer : List Token}
      (closes : token.kind = .sectionClose) (around : opened = innermost :: outer)
      (differs : token.value ≠ innermost.value) :
      Breaks catalog dataType opened token (.mismatchedSection token.value innermost.value)
  | unclosed
      {innermost : Token} {outer : List Token}
      (ends : token.kind = .endOfFile) (around : opened = innermost :: outer) :
      Breaks catalog dataType opened token (.unclosedSection innermost.value)
  | unresolved
      {scope : Scope} {fault : Fault}
      (names : token.isReference = true ∨ token.opens = true)
      (around : Scope.within? catalog dataType opened = some scope)
      (unknown : (scope.lookup catalog token.value).outcome = .error (.ofFault fault)) :
      Breaks catalog dataType opened token fault

/-- A token breaks a rule, and none of the tokens before it does. -/
structure BreaksFirst (catalog : Catalog) (dataType : DataType) (before : List Token)
    (token : Token) (fault : Fault) : Prop where
  breaks : Breaks catalog dataType (unclosed before) token fault
  unbroken : ∀ front other rest, before = front ++ other :: rest →
    ∀ earlier, ¬Breaks catalog dataType (unclosed front) other earlier

end Token

namespace Scope

variable {catalog : Catalog} {dataType : DataType} {scope : Scope} {opened : List Token}

/-- The scope within open sections is entered from outside to inside. -/
theorem within?_cons_eq_some_iff {innermost : Token} {outer : List Token} :
    within? catalog dataType (innermost :: outer) = some scope ↔
      ∃ outside,
        within? catalog dataType outer = some outside ∧
          (outside.enter catalog innermost.value (innermost.kind == .invertedOpen)).outcome =
            .ok scope := by
  have toOption_eq_some_iff (attempt : Except Failure Scope) :
      attempt.toOption = some scope ↔ attempt = .ok scope := by
    cases attempt <;> simp [Except.toOption]
  simp only [within?, Option.bind_eq_some_iff, toOption_eq_some_iff]

theorem grown_of_within?
    (around : within? catalog dataType opened = some scope) : scope.Grown catalog dataType := by
  induction opened generalizing scope with
  | nil =>
      cases around
      exact .root
  | cons innermost outer ih =>
      rcases within?_cons_eq_some_iff.mp around with ⟨outside, aroundOuter, entered⟩
      exact .enter (ih aroundOuter) entered

/-- Without open sections there is the scope of the class alone. -/
theorem sections_of_within?_nil
    (around : within? catalog dataType [] = some scope) : scope.sections = [] := by
  cases around
  rfl

end Scope

namespace Token

variable {catalog : Catalog} {dataType : DataType} {opened : List Token} {token : Token}
  {fault : Fault}

/-- Text breaks nothing. -/
theorem not_breaks_of_literal (literal : token.kind = .text ∨ token.kind = .special) :
    ¬Breaks catalog dataType opened token fault := by
  intro breaks
  cases breaks with
  | unopened closes =>
      simp [closes] at literal
  | mismatched closes =>
      simp [closes] at literal
  | unclosed ends =>
      simp [ends] at literal
  | unresolved names =>
      rcases literal with kind | kind
      · simp [isReference, opens, kind] at names
      · simp [isReference, opens, kind] at names

/-- A token with a name breaks a rule where the name has no meaning. -/
theorem breaks_iff_of_names {scope : Scope}
    (names : token.isReference = true ∨ token.opens = true)
    (around : Scope.within? catalog dataType opened = some scope) :
    Breaks catalog dataType opened token fault ↔
      (scope.lookup catalog token.value).outcome = .error (.ofFault fault) := by
  constructor
  · intro breaks
    cases breaks with
    | unopened closes =>
        simp [isReference, opens, closes] at names
    | mismatched closes =>
        simp [isReference, opens, closes] at names
    | unclosed ends =>
        simp [isReference, opens, ends] at names
    | unresolved _ aroundToo unknown =>
        rw [around] at aroundToo
        cases aroundToo
        exact unknown
  · exact .unresolved names around

/-- A closing tag breaks off where no section is open, or another one. -/
theorem breaks_iff_of_closes (closes : token.kind = .sectionClose) :
    Breaks catalog dataType opened token fault ↔
      (opened = [] ∧ fault = .unopenedSection token.value) ∨
        ∃ innermost outer,
          opened = innermost :: outer ∧ token.value ≠ innermost.value ∧
            fault = .mismatchedSection token.value innermost.value := by
  constructor
  · intro breaks
    cases breaks with
    | unopened _ nothing =>
        exact Or.inl ⟨nothing, rfl⟩
    | mismatched _ around differs =>
        exact Or.inr ⟨_, _, around, differs, rfl⟩
    | unclosed ends =>
        simp [closes] at ends
    | unresolved names =>
        simp [isReference, opens, closes] at names
  · rintro (⟨nothing, rfl⟩ | ⟨innermost, outer, around, differs, rfl⟩)
    · exact .unopened closes nothing
    · exact .mismatched closes around differs

/-- The end breaks off where a section is open. -/
theorem breaks_iff_of_ends (ends : token.kind = .endOfFile) :
    Breaks catalog dataType opened token fault ↔
      ∃ innermost outer,
        opened = innermost :: outer ∧ fault = .unclosedSection innermost.value := by
  constructor
  · intro breaks
    cases breaks with
    | unopened closes =>
        simp [ends] at closes
    | mismatched closes =>
        simp [ends] at closes
    | unclosed _ around =>
        exact ⟨_, _, around, rfl⟩
    | unresolved names =>
        simp [isReference, opens, ends] at names
  · rintro ⟨innermost, outer, around, rfl⟩
    exact .unclosed ends around

end Token

namespace Compiler

variable {compiler : Compiler} {dataType : DataType} {course : Course} {token : Token}
  {opened : List Token}

/-! ## Tokens and the sections around them -/

/--
What a full run makes of a token: a plan that opens and closes the sections that
the token says, or a failure because of the rule that it breaks.
-/
inductive Judged (compiler : Compiler) (dataType : DataType) (opened : List Token)
    (course : Course) (token : Token) : Prop where
  | planned
      {made : List Instruction} {next : Course}
      (hasPlan : compiler.plan course token = .ok (made, next))
      (around : Scope.within? compiler.catalog dataType (token.nest opened) = some next.scope)
      (sound : ∀ fault, ¬token.Breaks compiler.catalog dataType opened fault)
  | refused
      {fault : Fault}
      (noPlan : compiler.plan course token = .error (.ofFault fault))
      (broken : ∀ other, token.Breaks compiler.catalog dataType opened other ↔ other = fault)

section Judged

variable (around : Scope.within? compiler.catalog dataType opened = some course.scope)

include around

theorem judged_of_literal (literal : token.kind = .text ∨ token.kind = .special) :
    compiler.Judged dataType opened course token := by
  have written : ∃ made, compiler.plan course token = .ok (made, course) := by
    rcases literal with kind | kind
    · simp [plan, kind]
    · simp [plan, kind]
  rcases written with ⟨made, hasPlan⟩
  refine .planned hasPlan ?_ fun _ => Token.not_breaks_of_literal literal
  rcases literal with kind | kind
  · rw [Token.nest_eq_self (by simp [kind]), around]
  · rw [Token.nest_eq_self (by simp [kind]), around]

/-- References and opening tokens alike open a section over what their name means. -/
theorem judged_of_names
    (shaped : compiler.catalog.Shaped dataType)
    (names : token.isReference = true ∨ token.opens = true)
    {inverted : Bool} (inside : Scope → List Instruction × Course)
    (entering : compiler.plan course token =
      (course.scope.enter compiler.catalog token.value inverted).outcome.map inside)
    (nested : ∀ entered,
      (course.scope.enter compiler.catalog token.value inverted).outcome = .ok entered →
        Scope.within? compiler.catalog dataType (token.nest opened) =
          some (inside entered).2.scope) :
    compiler.Judged dataType opened course token := by
  have grown : course.scope.Grown compiler.catalog dataType := Scope.grown_of_within? around
  have broken (fault : Fault) :
      token.Breaks compiler.catalog dataType opened fault ↔
        (course.scope.lookup compiler.catalog token.value).outcome = .error (.ofFault fault) :=
    Token.breaks_iff_of_names names around
  cases looked : (course.scope.lookup compiler.catalog token.value).outcome with
  | error failure =>
      rcases Scope.exists_fault_of_shaped shaped grown looked with ⟨fault, rfl⟩
      have unopened :
          (course.scope.enter compiler.catalog token.value inverted).outcome =
            .error (.ofFault fault) :=
        (Scope.enter_eq_error_iff_of_shaped shaped grown).mpr looked
      refine .refused (by rw [entering, unopened]; rfl) ?_
      intro other
      rw [broken, looked]
      simp [Failure.ofFault, eq_comm]
  | ok value =>
      rcases (Scope.exists_enter_iff_of_shaped shaped grown inverted).mpr ⟨value, looked⟩ with
        ⟨entered, opens⟩
      refine .planned (by rw [entering, opens]; rfl) (nested entered opens) ?_
      intro fault breaks
      rw [broken, looked] at breaks
      cases breaks

theorem judged_of_isReference
    (full : compiler.variant = .full) (shaped : compiler.catalog.Shaped dataType)
    (isReference : token.isReference = true) :
    compiler.Judged dataType opened course token := by
  have kinds : token.kind = .reference ∨ token.kind = .rawReference := by
    simpa [Token.isReference] using isReference
  have ordinary : compiler.isYield token.value = false := by
    simp [isYield, full, Variant.full]
  have planned : ∃ escaped,
      compiler.plan course token = compiler.planReference course token.value escaped := by
    rcases kinds with kind | kind
    · exact ⟨true, by simp [plan, kind, ordinary]⟩
    · exact ⟨false, by simp [plan, kind, ordinary]⟩
  rcases planned with ⟨escaped, planned⟩
  refine judged_of_names around shaped (Or.inl isReference) _
    (planned.trans (compiler.planReference_eq_map course token.value escaped)) ?_
  intro entered _
  rcases kinds with kind | kind
  · rw [Token.nest_eq_self (by simp [kind]), around]
  · rw [Token.nest_eq_self (by simp [kind]), around]

theorem judged_of_opens
    (shaped : compiler.catalog.Shaped dataType) (opens : token.opens = true) :
    compiler.Judged dataType opened course token := by
  have planned :
      compiler.plan course token =
        compiler.planSection course token.value (token.kind == .invertedOpen) := by
    simp only [Token.opens, Bool.or_eq_true, beq_iff_eq] at opens
    rcases opens with kind | kind
    · simp only [plan, kind]
      rfl
    · simp only [plan, kind]
      rfl
  refine judged_of_names around shaped (Or.inr opens) _
    (planned.trans (compiler.planSection_eq_map course token.value _)) ?_
  intro entered enters
  rw [Token.nest, if_pos opens]
  exact Scope.within?_cons_eq_some_iff.mpr ⟨course.scope, around, enters⟩

/-- A closing token closes the section of the innermost unclosed token. -/
theorem judged_of_closes (closes : token.kind = .sectionClose) :
    compiler.Judged dataType opened course token := by
  have planned : compiler.plan course token = planClose course token.value := by
    simp only [plan, closes]
  cases opened with
  | nil =>
      have empty : course.scope.sections = [] := Scope.sections_of_within?_nil around
      refine .refused (by rw [planned, planClose, empty]) ?_
      intro other
      simp [Token.breaks_iff_of_closes closes]
  | cons innermost outer =>
      rcases Scope.within?_cons_eq_some_iff.mp around with ⟨outside, aroundOuter, enters⟩
      by_cases same : innermost.value = token.value
      · rw [same] at enters
        have nested : token.nest (innermost :: outer) = outer := by
          simp [Token.nest, Token.opens, closes]
        refine .planned (plan_close (by simp [Token.mark, closes]) enters) ?_ ?_
        · rw [nested, aroundOuter]
        · intro fault
          simp [Token.breaks_iff_of_closes closes, same]
      · rcases Scope.enter_eq_ok_iff.mp enters with ⟨subject, shape, inner, -, -, entered⟩
        have noPlan : compiler.plan course token =
            .error (.ofFault (.mismatchedSection token.value innermost.value)) := by
          rw [planned, planClose, entered]
          simp only [same, if_false]
        refine .refused noPlan ?_
        intro other
        simp [Token.breaks_iff_of_closes closes, Ne.symm same]

theorem judged_of_ends (ends : token.kind = .endOfFile) :
    compiler.Judged dataType opened course token := by
  cases opened with
  | nil =>
      have empty : course.scope.sections = [] := Scope.sections_of_within?_nil around
      have hasPlan : compiler.plan course token = .ok ([], course) := by
        simp only [plan, ends, empty]
      refine .planned hasPlan ?_ ?_
      · rw [Token.nest_eq_self (by simp [ends]), around]
      · intro fault
        simp [Token.breaks_iff_of_ends ends]
  | cons innermost outer =>
      rcases Scope.within?_cons_eq_some_iff.mp around with ⟨outside, -, enters⟩
      rcases Scope.enter_eq_ok_iff.mp enters with ⟨subject, shape, inner, -, -, entered⟩
      have noPlan : compiler.plan course token =
          .error (.ofFault (.unclosedSection innermost.value)) := by
        simp only [plan, ends, entered]
      refine .refused noPlan ?_
      intro other
      simp [Token.breaks_iff_of_ends ends]

end Judged

section Full

variable (full : compiler.variant = .full) (shaped : compiler.catalog.Shaped dataType)

include full shaped

/-- Every token has a plan exactly if it breaks nothing. -/
theorem judged
    (around : Scope.within? compiler.catalog dataType opened = some course.scope)
    (token : Token) : compiler.Judged dataType opened course token := by
  cases kind : token.kind with
  | text =>
      exact judged_of_literal around (Or.inl kind)
  | special =>
      exact judged_of_literal around (Or.inr kind)
  | reference | rawReference =>
      exact judged_of_isReference around full shaped (by simp [Token.isReference, kind])
  | sectionOpen | invertedOpen =>
      exact judged_of_opens around shaped (by simp [Token.opens, kind])
  | sectionClose =>
      exact judged_of_closes around kind
  | endOfFile =>
      exact judged_of_ends around kind

/-! ## Tokens in a row -/

variable {tokens before : List Token} {made : List Instruction} {last : Course} {fault : Fault}
  {failure : Failure}

/-- After a plan the scope is the one within the sections that are still open. -/
theorem within?_of_planAll
    (around : Scope.within? compiler.catalog dataType opened = some course.scope)
    (planned : compiler.planAll course tokens = .ok (made, last)) :
    Scope.within? compiler.catalog dataType (tokens.foldl Token.nest opened) =
      some last.scope := by
  -- The invariant is that the unclosed tokens so far open the sections of the scope.
  induction tokens generalizing opened course made with
  | nil =>
      cases planned
      exact around
  | cons token rest ih =>
      rcases planAll_cons_eq_ok_iff.mp planned with
        ⟨first, middle, later, plannedFirst, plannedRest, -⟩
      cases judged full shaped around token with
      | planned hasPlan aroundNext =>
          rw [plannedFirst] at hasPlan
          cases hasPlan
          exact ih aroundNext plannedRest
      | refused noPlan =>
          rw [plannedFirst] at noPlan
          cases noPlan

/-- What a run makes of a token after others depends on the unclosed ones among them. -/
theorem judged_of_planAll
    (planned : compiler.planAll (.start dataType) before = .ok (made, last)) (token : Token) :
    compiler.Judged dataType (Token.unclosed before) last token :=
  judged full shaped (within?_of_planAll full shaped rfl planned) token

/-- No token of a list with a plan breaks anything. -/
theorem not_breaks_of_planAll
    (planned : compiler.planAll (.start dataType) before = .ok (made, last))
    {front rest : List Token} (split : before = front ++ token :: rest) :
    ¬token.Breaks compiler.catalog dataType (Token.unclosed front) fault := by
  subst split
  rcases planAll_append_eq_ok_iff.mp planned with
    ⟨first, middle, later, plannedFront, plannedBack, -⟩
  rcases planAll_cons_eq_ok_iff.mp plannedBack with ⟨instructions, next, -, plannedToken, -, -⟩
  cases judged_of_planAll full shaped plannedFront token with
  | planned hasPlan aroundNext sound =>
      exact sound fault
  | refused noPlan =>
      rw [plannedToken] at noPlan
      cases noPlan

/-- Tokens that break no rule have a plan. -/
theorem exists_planAll_of_unbroken
    (unbroken : ∀ front other rest, before = front ++ other :: rest →
      ∀ earlier, ¬other.Breaks compiler.catalog dataType (Token.unclosed front) earlier) :
    ∃ instructions course,
      compiler.planAll (.start dataType) before = .ok (instructions, course) := by
  cases planned : compiler.planAll (.start dataType) before with
  | ok result =>
      exact ⟨result.1, result.2, rfl⟩
  | error failure =>
      rcases planAll_eq_error_iff.mp planned with
        ⟨front, other, rest, instructions, middle, reason, split, reached, refused, -⟩
      cases judged_of_planAll full shaped reached other with
      | planned hasPlan =>
          rw [refused] at hasPlan
          cases hasPlan
      | refused noPlan broken =>
          exact absurd ((broken _).mpr rfl) (unbroken front other rest split _)

/-- The first token that breaks a rule ends planning, whatever comes after it. -/
theorem planAll_of_breaksFirst
    (breaks : token.BreaksFirst compiler.catalog dataType before fault) (after : List Token) :
    compiler.planAll (.start dataType) (before ++ token :: after) =
      .error (.diagnosed { fault, position := some token.position }) := by
  rcases exists_planAll_of_unbroken full shaped breaks.unbroken with
    ⟨instructions, course, reached⟩
  cases judged_of_planAll full shaped reached token with
  | planned hasPlan aroundNext sound =>
      exact absurd breaks.breaks (sound fault)
  | refused noPlan broken =>
      rw [(broken fault).mp breaks.breaks]
      exact planAll_of_refused after reached noPlan

/-- A list of tokens has no plan exactly if one of them is the first to break it. -/
theorem planAll_eq_error_iff_breaksFirst :
    compiler.planAll (.start dataType) tokens = .error failure ↔
      ∃ before token after fault,
        tokens = before ++ token :: after ∧
          token.BreaksFirst compiler.catalog dataType before fault ∧
            failure = .diagnosed { fault, position := some token.position } := by
  constructor
  · intro failed
    rcases planAll_eq_error_iff.mp failed with
      ⟨before, token, after, instructions, middle, reason, split, reached, refused, located⟩
    cases judged_of_planAll full shaped reached token with
    | planned hasPlan =>
        rw [refused] at hasPlan
        cases hasPlan
    | @refused fault noPlan broken =>
        rw [refused] at noPlan
        cases noPlan
        refine ⟨before, token, after, fault, split, ⟨(broken fault).mpr rfl, ?_⟩, located.symm⟩
        intro front other rest splitBefore earlier
        exact not_breaks_of_planAll full shaped reached splitBefore
  · rintro ⟨before, token, after, fault, rfl, breaks, rfl⟩
    exact planAll_of_breaksFirst full shaped breaks after

/-! ## Full runs -/

variable {atEnd : List Journal.Notice} {source : String} {sink : Sink}
  {stream : TokenStream Failure}

/-- A full run accepts the trees whose names resolve. -/
theorem exists_run_iff_resolves {ending : Token}
    (ended : stream.ending source none = .ok ending) :
    (∃ position after,
      compiler.run atEnd source stream (.start dataType sink) = .ok position after) ↔
      ∃ tree : SectionTree,
        tree.marks = stream.template.map Token.mark ∧
          tree.Resolves compiler.catalog (.root dataType) := by
  have resolves (tree : SectionTree) :=
    SectionTree.exists_code?_iff_resolves compiler.settings shaped tree .root
  constructor
  · rintro ⟨position, after, done⟩
    rcases accepts_of_run done with ⟨token, instructions, written, -, -, accepted, -⟩
    rcases accepted.exists_code (fun _ => TokenStream.kind_of_mem_template)
      (ignores_of_full full _) with ⟨tree, code, marked, resolved, -, -⟩
    exact ⟨tree, marked.symm, (resolves tree).mp ⟨code, resolved⟩⟩
  · rintro ⟨tree, marked, resolved⟩
    rcases (resolves tree).mpr resolved with ⟨code, hasCode⟩
    have planned : compiler.planAll (.start dataType) stream.template =
        .ok (code.instructions, .start dataType) :=
      planAll_of_code? false marked.symm hasCode (ignores_of_full full _)
    rcases exists_obeyAll_of_planAll planned
      (Sink.holds_zero (sink.suppress compiler.variant.initiallySuppressed)) with
      ⟨written, obeyed, -⟩
    have accepted : compiler.Accepts (.start dataType sink) stream.template code.instructions
        (.start dataType) written :=
      ⟨planned, rfl, obeyed⟩
    rcases accepted.exists_run ended atEnd with ⟨after, done, -, -⟩
    exact ⟨_, after, done⟩

/-- The first token that breaks a rule ends a full run, whatever its source gives next. -/
theorem exists_failed_run_of_breaksFirst
    (endless : ∀ other ∈ before, other.kind ≠ .endOfFile)
    (breaks : token.BreaksFirst compiler.catalog dataType before fault)
    (rest : TokenStream Failure) :
    ∃ after,
      compiler.run atEnd source (Scan.before (.next token rest) before) (.start dataType sink) =
        .error (.diagnosed { fault, position := some token.position }) after := by
  apply Run.report_eq_error_iff.mp
  by_cases isEnd : token.kind = .endOfFile
  · rcases TokenStream.ending_before (.next token rest) source none endless with ⟨last, ended⟩
    have endsHere :
        (Scan.before (.next token rest) before).ending source none = .ok token := by
      rw [ended, TokenStream.ending, if_pos isEnd]
    rw [report_run_eq_error_iff endsHere, TokenStream.template_before endless,
      TokenStream.template, if_pos isEnd, List.append_nil]
    exact planAll_of_breaksFirst full shaped breaks []
  · apply report_run_of_refused
    rw [TokenStream.template_before endless, TokenStream.template, if_neg isEnd]
    exact planAll_of_breaksFirst full shaped breaks rest.template

end Full

/--
A full run succeeds exactly if the template, up to its first end token, is a tree
whose names resolve.  Otherwise it fails at the first token that breaks a rule,
because of that rule and whatever follows the token.
-/
theorem outcome_of_full_run
    (full : compiler.variant = .full) (shaped : compiler.catalog.Shaped dataType)
    (atEnd : List Journal.Notice) (source : String) (sink : Sink) (tokens : List Token) :
    ((∃ position after,
        compiler.run atEnd source (.ofList tokens) (.start dataType sink) =
          .ok position after) ↔
      ∃ tree : SectionTree,
        tree.marks = (tokens.takeWhile (·.kind ≠ .endOfFile)).map Token.mark ∧
          tree.Resolves compiler.catalog (.root dataType)) ∧
    (∀ failure,
      (∃ after,
        compiler.run atEnd source (.ofList tokens) (.start dataType sink) =
          .error failure after) ↔
        ∃ before token rest fault,
          Token.completed source tokens = before ++ token :: rest ∧
            token.BreaksFirst compiler.catalog dataType before fault ∧
              failure = .diagnosed { fault, position := some token.position }) ∧
    (∀ before token rest fault,
      Token.completed source tokens = before ++ token :: rest →
        token.BreaksFirst compiler.catalog dataType before fault →
          ∀ other : TokenStream Failure,
            ∃ after,
              compiler.run atEnd source (Scan.before (.next token other) before)
                  (.start dataType sink) =
                .error (.diagnosed { fault, position := some token.position }) after) ∧
    (∀ name, (Fault.unopenedSection name).message =
      "Closing " ++ name ++ " block when no block is currently open") ∧
    (∀ name expected, (Fault.mismatchedSection name expected).message =
      "Closing " ++ name ++ " block instead of " ++ expected) ∧
    (∀ name, (Fault.unclosedSection name).message =
      "Unclosed " ++ name ++ " block at end of file") ∧
    (∀ (scope : Scope) (name : String) (fault : Fault),
      (scope.lookup compiler.catalog name).outcome = .error (.ofFault fault) →
        fault.kind = .resolution) ∧
    ∀ (scope : Scope), scope.Reachable compiler.catalog dataType → ∀ name failure,
      (scope.lookup compiler.catalog name).outcome = .error failure →
        ∃ fault : Fault, failure = .ofFault fault := by
  have ended := TokenStream.ending_ofList_eq (ε := Failure) tokens source none
  have template := TokenStream.template_ofList_eq_takeWhile (ε := Failure) tokens
  have completed :
      (TokenStream.ofList tokens : TokenStream Failure).template ++
          [(tokens.find? (·.kind = .endOfFile)).getD
            (.atEnd (((tokens.getLast?.map (·.position)).or none).getD (.start source)))] =
        Token.completed source tokens := by
    rw [template, Option.or_none, Token.completed]
  refine ⟨?_, ?_, ?_, fun _ => rfl, fun _ _ => rfl, fun _ => rfl, fun _ _ _ => Scope.kind_of_lookup,
    fun _ reachable _ _ => Scope.exists_fault_of_shaped shaped reachable.grown⟩
  · rw [exists_run_iff_resolves full shaped ended, template]
  · intro failure
    rw [← Run.report_eq_error_iff, report_run_eq_error_iff ended, completed,
      planAll_eq_error_iff_breaksFirst full shaped]
  · intro before token rest fault split breaks other
    exact exists_failed_run_of_breaksFirst full shaped (Token.kind_of_mem_before split) breaks other

/-- Sections can be opened over pages, their titles and their flags. -/
theorem shaped_page : pages.catalog.Shaped page := by
  have reached {type : DataType} (reaches : pages.catalog.Reaches page type) :
      type = page ∨ type = .ofClass (.builtin "str") ∨ type = .bool := by
    induction reaches with
    | start =>
        exact Or.inl rfl
    | member _ offered ih =>
        rcases offered.listed with ⟨members, listed, member⟩
        rcases ih with rfl | rfl | rfl
        · have offers : pages.catalog.members page =
              .ok [("title", .ofClass (.builtin "str")), ("flag", .bool)] := rfl
          rw [offers] at listed
          cases listed
          simp only [List.mem_cons, Prod.mk.injEq, List.not_mem_nil, or_false] at member
          exact Or.inr (member.imp And.right And.right)
        · cases listed
          cases member
        · cases listed
          cases member
    | inside _ shaped ih =>
        rcases ih with rfl | rfl | rfl
        · cases shaped
          exact Or.inl rfl
        · cases shaped
          exact Or.inr (Or.inl rfl)
        · cases shaped
          exact Or.inr (Or.inr rfl)
  intro type reaches
  rcases reached reaches with rfl | rfl | rfl
  · exact ⟨_, _, rfl⟩
  · exact ⟨_, _, rfl⟩
  · exact ⟨_, _, rfl⟩

/-- The tokens of a page, and the same tokens with one of them left out. -/
theorem outcome_of_full_run_page :
    (∃ position after,
      pages.run [] "page" (.ofList pageTokens) (.start page (.fresh "  " 1)) =
        .ok position after) ∧
      ∃ after,
        pages.run [] "page" (.ofList (pageTokens.eraseIdx 4)) (.start page (.fresh "  " 1)) =
          .error (.diagnosed
            { fault := .mismatchedSection "flag" "title"
              position := some (.start "page") }) after := by
  constructor
  · apply (outcome_of_full_run rfl shaped_page [] "page" _ pageTokens).1.mpr
    refine ⟨.literal true "\n" (.block false "flag"
      (.reference true "title" (.block true "title" .nil .nil)) .nil), rfl, ?_, trivial⟩
    exact ⟨_, rfl, ⟨_, rfl⟩, ⟨_, rfl, trivial⟩, trivial⟩
  · apply ((outcome_of_full_run rfl shaped_page [] "page" _ _).2.1 _).mpr
    refine ⟨pageTokens.take 4, _, _, _, rfl, ⟨.mismatched rfl rfl (by decide), ?_⟩, rfl⟩
    intro front other rest split earlier
    have planned : ∃ made last,
        pages.planAll (.start page) (pageTokens.take 4) = .ok (made, last) :=
      ⟨_, _, rfl⟩
    rcases planned with ⟨made, last, planned⟩
    exact not_breaks_of_planAll rfl shaped_page planned split

end Compiler

end TypedMustache
