import TypedMustache.Proofs.Compilation.Instruction

/-!
# Section trees

The opening and closing tokens of a template nest its sections.  A
`SectionTree` is what they make of it: literals, references, and blocks with a
tree inside them.  The marks of a tree are the kinds and values of the tokens it
stands for, and no two trees have the same marks.

The names of a tree have a meaning in the scope of the sections around them.
Resolving them turns a section tree into a `Code` tree of statements and block
headers.  The main results say that a template can be planned without leaving a
section open exactly when it is the token sequence of a tree whose names
resolve, and that the plan is then read off the code tree.
-/

namespace TypedMustache

/-! ## Trees and their marks -/

/-- What stands between the start and the end of a template or of a section. -/
inductive SectionTree where
  | nil
  | literal (special : Bool) (text : String) (rest : SectionTree)
  | reference (escaped : Bool) (name : String) (rest : SectionTree)
  | block (inverted : Bool) (name : String) (body rest : SectionTree)
deriving DecidableEq, Repr

namespace SectionTree

/-- The kinds and values of the tokens that a tree stands for. -/
def marks : SectionTree → List Token.Mark
  | nil => []
  | literal special text rest => (if special then .special else .text, text) :: rest.marks
  | reference escaped name rest =>
      (if escaped then .reference else .rawReference, name) :: rest.marks
  | block inverted name body rest =>
      (if inverted then .invertedOpen else .sectionOpen, name) ::
        (body.marks ++ (.sectionClose, name) :: rest.marks)

/-- A sequence of marks that cannot go on with another node of the same tree. -/
def Ends (marks : List Token.Mark) : Prop :=
  ∀ mark ∈ marks.head?, mark.1 = .sectionClose

theorem ends_nil : Ends [] := by
  simp [Ends]

theorem ends_close (name : String) (rest : List Token.Mark) :
    Ends ((.sectionClose, name) :: rest) := by
  simp [Ends]

/-- Where a section ends no tree begins. -/
theorem eq_nil_of_ends
    {tree : SectionTree} {after whole : List Token.Mark}
    (same : tree.marks ++ after = whole) (ends : Ends whole) :
    tree = nil := by
  subst same
  cases tree with
  | nil => rfl
  | literal special text rest => cases special <;> simp [marks, Ends] at ends
  | reference escaped name rest => cases escaped <;> simp [marks, Ends] at ends
  | block inverted name body rest => cases inverted <;> simp [marks, Ends] at ends

/-- The marks of a tree determine it, and where they end. -/
theorem marks_append_inj
    {left right : SectionTree} {afterLeft afterRight : List Token.Mark}
    (endsLeft : Ends afterLeft) (endsRight : Ends afterRight)
    (same : left.marks ++ afterLeft = right.marks ++ afterRight) :
    left = right ∧ afterLeft = afterRight := by
  induction left generalizing right afterLeft afterRight with
  | nil =>
      have empty : right = nil := eq_nil_of_ends same.symm endsLeft
      subst empty
      exact ⟨rfl, same⟩
  | literal special text rest ih =>
      cases right with
      | nil => cases eq_nil_of_ends same endsRight
      | literal otherSpecial otherText otherRest =>
          simp only [marks, List.cons_append, List.cons.injEq, Prod.mk.injEq] at same
          rcases same with ⟨⟨sameKind, rfl⟩, sameRest⟩
          rcases ih endsLeft endsRight sameRest with ⟨rfl, rfl⟩
          cases special <;> cases otherSpecial <;> simp_all
      | reference escaped name otherRest =>
          cases special <;> cases escaped <;> simp [marks] at same
      | block inverted name body otherRest =>
          cases special <;> cases inverted <;> simp [marks] at same
  | reference escaped name rest ih =>
      cases right with
      | nil => cases eq_nil_of_ends same endsRight
      | literal special text otherRest =>
          cases special <;> cases escaped <;> simp [marks] at same
      | reference otherEscaped otherName otherRest =>
          simp only [marks, List.cons_append, List.cons.injEq, Prod.mk.injEq] at same
          rcases same with ⟨⟨sameKind, rfl⟩, sameRest⟩
          rcases ih endsLeft endsRight sameRest with ⟨rfl, rfl⟩
          cases escaped <;> cases otherEscaped <;> simp_all
      | block inverted otherName body otherRest =>
          cases escaped <;> cases inverted <;> simp [marks] at same
  | block inverted name body rest bodyIH restIH =>
      cases right with
      | nil => cases eq_nil_of_ends same endsRight
      | literal special text otherRest =>
          cases special <;> cases inverted <;> simp [marks] at same
      | reference escaped otherName otherRest =>
          cases escaped <;> cases inverted <;> simp [marks] at same
      | block otherInverted otherName otherBody otherRest =>
          simp only [marks, List.cons_append, List.append_assoc, List.cons.injEq,
            Prod.mk.injEq] at same
          rcases same with ⟨⟨sameKind, rfl⟩, sameBody⟩
          -- The closing tag ends both bodies, so it is there that they are equal.
          rcases bodyIH (ends_close _ _) (ends_close _ _) sameBody with ⟨rfl, sameRest⟩
          simp only [List.cons.injEq, true_and] at sameRest
          rcases restIH endsLeft endsRight sameRest with ⟨rfl, rfl⟩
          cases inverted <;> cases otherInverted <;> simp_all

/-- No two trees have the same marks. -/
theorem marks_injective : Function.Injective marks := by
  intro left right same
  exact (marks_append_inj ends_nil ends_nil (by simpa using same)).1

end SectionTree

/-! ## Code trees -/

/-- Statements and blocks of the generated code. -/
inductive Code where
  | nil
  | statement (text : String) (endsLine : Bool) (rest : Code)
  | block (header name : String) (body rest : Code)
deriving DecidableEq, Repr

namespace Code

/-- Whether there is no statement and no block. -/
def isNil : Code → Bool
  | nil => true
  | statement _ _ _ => false
  | block _ _ _ _ => false

/-- The line that follows the block of a section of a name. -/
def trailer (name : String) : String :=
  "# /" ++ name

/-- What code asks a sink for. -/
def instructions : Code → List Instruction
  | nil => []
  | statement text endsLine rest =>
      .write text :: ((if endsLine then [.endLine] else []) ++ rest.instructions)
  | block header name body rest =>
      .openBlock header :: (body.instructions ++ .closeBlock (trailer name) :: rest.instructions)

/-- Properties of all statements, of all headers and of all names of code. -/
def Every (onStatement onHeader onName : String → Prop) : Code → Prop
  | nil => True
  | statement text _ rest => onStatement text ∧ rest.Every onStatement onHeader onName
  | block header name body rest =>
      onHeader header ∧ onName name ∧ body.Every onStatement onHeader onName ∧
        rest.Every onStatement onHeader onName

end Code

namespace SectionTree

/--
The code of a tree in a scope, if all its names resolve.  A name inside a block
is looked up in the scope that the block opens, and a name after it in the scope
around it.
-/
def code? (catalog : Catalog) (settings : Settings) (scope : Scope) : SectionTree → Option Code
  | nil => some .nil
  | literal special text rest =>
      (rest.code? catalog settings scope).map
        (.statement (settings.literalStatement text) (special && text == "\n"))
  | reference escaped name rest =>
      match (scope.enter catalog name false).outcome with
      | .error _ => none
      | .ok entered =>
          (rest.code? catalog settings scope).map
            (.statement (entered.statement catalog settings escaped) false)
  | block inverted name body rest =>
      match (scope.enter catalog name inverted).outcome with
      | .error _ => none
      | .ok entered =>
          (body.code? catalog settings entered).bind fun inside =>
            (rest.code? catalog settings scope).map
              (.block (entered.header settings) name inside)

section

variable {catalog : Catalog} {settings : Settings} {scope : Scope} {rest : SectionTree}
  {code : Code} {name : String}

/-- Text becomes a statement in front of the code for the rest. -/
theorem code?_literal_eq_some_iff {special : Bool} {text : String} :
    (literal special text rest).code? catalog settings scope = some code ↔
      ∃ after,
        rest.code? catalog settings scope = some after ∧
          .statement (settings.literalStatement text) (special && text == "\n") after = code := by
  simp only [code?, Option.map_eq_some_iff]

/-- A reference becomes a statement if its name can be looked up. -/
theorem code?_reference_eq_some_iff {escaped : Bool} :
    (reference escaped name rest).code? catalog settings scope = some code ↔
      ∃ entered after,
        (scope.enter catalog name false).outcome = .ok entered ∧
          rest.code? catalog settings scope = some after ∧
            .statement (entered.statement catalog settings escaped) false after = code := by
  cases looked : (scope.enter catalog name false).outcome with
  | error failure => simp [code?, looked]
  | ok entered => simp [code?, looked]

/-- A section becomes a block around the code for its body, in the scope that it opens. -/
theorem code?_block_eq_some_iff {inverted : Bool} {body : SectionTree} :
    (block inverted name body rest).code? catalog settings scope = some code ↔
      ∃ entered inside after,
        (scope.enter catalog name inverted).outcome = .ok entered ∧
          body.code? catalog settings entered = some inside ∧
            rest.code? catalog settings scope = some after ∧
              .block (entered.header settings) name inside after = code := by
  cases looked : (scope.enter catalog name inverted).outcome with
  | error failure => simp [code?, looked]
  | ok entered => simp [code?, looked, Option.bind_eq_some_iff]

end

/-- A property of all names of references and blocks. -/
def Names (onName : String → Prop) : SectionTree → Prop
  | nil => True
  | literal _ _ rest => rest.Names onName
  | reference _ name rest => onName name ∧ rest.Names onName
  | block _ name body rest => onName name ∧ body.Names onName ∧ rest.Names onName

theorem names_true (tree : SectionTree) : tree.Names fun _ => True := by
  induction tree <;> simp_all [Names]

/--
What holds of the statements, headers and names that single names give rise to
holds throughout the code of a tree.  `good` is what is known of the scopes.
-/
theorem every_of_code?
    {catalog : Catalog} {settings : Settings} (good : Scope → Prop)
    {onTreeName onStatement onHeader onName : String → Prop}
    (ofLiteral : ∀ text, onStatement (settings.literalStatement text))
    (ofReference : ∀ {scope entered name} (escaped : Bool),
      good scope → onTreeName name → (scope.enter catalog name false).outcome = .ok entered →
        onStatement (entered.statement catalog settings escaped))
    (ofBlock : ∀ {scope entered name inverted},
      good scope → onTreeName name → (scope.enter catalog name inverted).outcome = .ok entered →
        onHeader (entered.header settings) ∧ onName name ∧ good entered)
    {tree : SectionTree} {scope : Scope} {code : Code}
    (goodScope : good scope) (named : tree.Names onTreeName)
    (resolved : tree.code? catalog settings scope = some code) :
    code.Every onStatement onHeader onName := by
  induction tree generalizing scope code with
  | nil =>
      cases resolved
      trivial
  | literal special text rest ih =>
      rcases code?_literal_eq_some_iff.mp resolved with ⟨after, resolvedRest, rfl⟩
      exact ⟨ofLiteral text, ih goodScope named resolvedRest⟩
  | reference escaped name rest ih =>
      rcases code?_reference_eq_some_iff.mp resolved with
        ⟨entered, after, looked, resolvedRest, rfl⟩
      exact ⟨ofReference escaped goodScope named.1 looked, ih goodScope named.2 resolvedRest⟩
  | block inverted name body rest bodyIH restIH =>
      rcases code?_block_eq_some_iff.mp resolved with
        ⟨entered, inside, after, looked, resolvedBody, resolvedRest, rfl⟩
      rcases ofBlock goodScope named.1 looked with ⟨headed, nameHolds, goodEntered⟩
      exact ⟨headed, nameHolds, bodyIH goodEntered named.2.1 resolvedBody,
        restIH goodScope named.2.2 resolvedRest⟩

end SectionTree

/-! ## Plans of trees -/

/-- Entering a section puts it in front of the open ones. -/
theorem Scope.enter_eq_ok_iff
    {catalog : Catalog} {scope entered : Scope} {name : String} {inverted : Bool} :
    (scope.enter catalog name inverted).outcome = .ok entered ↔
      ∃ subject shape inner,
        (scope.lookup catalog name).outcome = .ok subject ∧
          subject.type.sectionShape catalog = .ok (shape, inner) ∧
            entered =
              { scope with
                sections :=
                  { name, subject, inverted, shape
                    bound := scope.boundBy subject inverted shape inner
                    loopDepth := scope.loopsInside inverted shape } ::
                    scope.sections } := by
  cases found : (scope.lookup catalog name).outcome with
  | error fault => simp [enter, found]
  | ok subject =>
      cases shaped : subject.type.sectionShape catalog with
      | error failure => simp [enter, openOver, found, shaped]
      | ok pair =>
          simp only [enter, openOver, found, shaped, Except.ok.injEq]
          constructor
          · intro same
            exact ⟨subject, pair.1, pair.2, rfl, shaped, same.symm⟩
          · rintro ⟨same, shape, inner, rfl, shapedSame, rfl⟩
            rw [shaped] at shapedSame
            cases shapedSame
            rfl

/-- Every section is one deeper than its surroundings. -/
theorem Scope.depth_of_enter
    {catalog : Catalog} {scope entered : Scope} {name : String} {inverted : Bool}
    (done : (scope.enter catalog name inverted).outcome = .ok entered) :
    entered.depth = scope.depth + 1 := by
  rcases Scope.enter_eq_ok_iff.mp done with ⟨subject, shape, inner, -, -, rfl⟩
  rfl

/-- Whether a token refers to a name. -/
def Token.isReference (token : Token) : Bool :=
  token.kind == .reference || token.kind == .rawReference

namespace Compiler

/-- No token is a yield marker to the compiler. -/
def Ignores (compiler : Compiler) (tokens : List Token) : Prop :=
  ∀ token ∈ tokens, token.isReference = true → compiler.isYield token.value = false

/-- The full variant takes no name for a yield marker. -/
theorem ignores_of_full
    {compiler : Compiler} (full : compiler.variant = .full) (tokens : List Token) :
    compiler.Ignores tokens := by
  intro token _ _
  simp [isYield, full, Variant.full]

variable {compiler : Compiler} {scope entered : Scope} {foundYield : Bool} {token : Token}

/-- Text is planned without a look at the scope. -/
theorem plan_literal {special : Bool} {text : String}
    (mark : token.mark = (if special then .special else .text, text)) :
    compiler.plan { scope, foundYield } token =
      .ok (.write (compiler.settings.literalStatement text) ::
        (if special && text == "\n" then [.endLine] else []), { scope, foundYield }) := by
  simp only [Token.mark, Prod.mk.injEq] at mark
  cases special <;> simp_all [plan]

/-- A reference that is no marker is planned as a reference. -/
theorem plan_reference {escaped : Bool} {name : String}
    (mark : token.mark = (if escaped then .reference else .rawReference, name))
    (ignored : compiler.isYield name = false) :
    compiler.plan { scope, foundYield } token =
      compiler.planReference { scope, foundYield } name escaped := by
  simp only [Token.mark, Prod.mk.injEq] at mark
  cases escaped <;> simp_all [plan]

/-- The opening of a section is planned as such. -/
theorem plan_open {inverted : Bool} {name : String}
    (mark : token.mark = (if inverted then .invertedOpen else .sectionOpen, name)) :
    compiler.plan { scope, foundYield } token =
      compiler.planSection { scope, foundYield } name inverted := by
  simp only [Token.mark, Prod.mk.injEq] at mark
  cases inverted <;> simp_all [plan]

/-- The end token of a section leads back to the scope around it. -/
theorem plan_close {inverted : Bool} {name : String}
    (mark : token.mark = (.sectionClose, name))
    (opened : (scope.enter compiler.catalog name inverted).outcome = .ok entered) :
    compiler.plan { scope := entered, foundYield } token =
      .ok ([.closeBlock (Code.trailer name)], { scope, foundYield }) := by
  rcases Scope.enter_eq_ok_iff.mp opened with ⟨subject, shape, inner, -, -, rfl⟩
  simp only [Token.mark, Prod.mk.injEq] at mark
  simp [plan, mark, planClose, Section.trailer, Code.trailer]

/-- Only the end token of its own name closes a section. -/
theorem mark_of_plan_close
    {inverted : Bool} {name : String} {made : List Instruction × Course}
    (closes : token.kind = .sectionClose)
    (opened : (scope.enter compiler.catalog name inverted).outcome = .ok entered)
    (planned : compiler.plan { scope := entered, foundYield } token = .ok made) :
    token.mark = (.sectionClose, name) := by
  rcases Scope.enter_eq_ok_iff.mp opened with ⟨subject, shape, inner, -, -, rfl⟩
  simp only [plan, closes, planClose] at planned
  split at planned
  · rename_i same
    simp [Token.mark, closes, same]
  · cases planned

theorem Ignores.of_append_left {front back : List Token}
    (ignored : compiler.Ignores (front ++ back)) : compiler.Ignores front :=
  fun token member => ignored token (List.mem_append_left _ member)

theorem Ignores.of_append_right {front back : List Token}
    (ignored : compiler.Ignores (front ++ back)) : compiler.Ignores back :=
  fun token member => ignored token (List.mem_append_right _ member)

theorem Ignores.of_cons {rest : List Token}
    (ignored : compiler.Ignores (token :: rest)) : compiler.Ignores rest :=
  fun other member => ignored other (List.mem_cons_of_mem _ member)

theorem Ignores.isYield_eq_false {tokens : List Token} {escaped : Bool} {name : String}
    (ignored : compiler.Ignores tokens) (member : token ∈ tokens)
    (mark : token.mark = (if escaped then .reference else .rawReference, name)) :
    compiler.isYield name = false := by
  have notYield := ignored token member
  simp only [Token.mark, Prod.mk.injEq] at mark
  cases escaped <;> simp_all [Token.isReference]

/-- The plan of the tokens of a tree is the instructions of its code. -/
theorem planAll_of_code? (foundYield : Bool)
    {tree : SectionTree} {code : Code} {tokens : List Token}
    (marked : tokens.map Token.mark = tree.marks)
    (resolved : tree.code? compiler.catalog compiler.settings scope = some code)
    (ignored : compiler.Ignores tokens) :
    compiler.planAll { scope, foundYield } tokens =
      .ok (code.instructions, { scope, foundYield }) := by
  induction tree generalizing scope code tokens with
  | nil =>
      simp only [SectionTree.marks, List.map_eq_nil_iff] at marked
      simp only [SectionTree.code?, Option.some.injEq] at resolved
      subst marked
      subst resolved
      rfl
  | literal special text rest ih =>
      simp only [SectionTree.marks, List.map_eq_cons_iff] at marked
      rcases marked with ⟨token, later, rfl, mark, markedLater⟩
      rcases SectionTree.code?_literal_eq_some_iff.mp resolved with ⟨after, resolvedRest, rfl⟩
      have planned := ih markedLater resolvedRest ignored.of_cons
      exact planAll_cons_eq_ok_iff.mpr ⟨_, _, _, plan_literal mark, planned, rfl⟩
  | reference escaped name rest ih =>
      simp only [SectionTree.marks, List.map_eq_cons_iff] at marked
      rcases marked with ⟨token, later, rfl, mark, markedLater⟩
      rcases SectionTree.code?_reference_eq_some_iff.mp resolved with
        ⟨entered, after, looked, resolvedRest, rfl⟩
      have planned := ih markedLater resolvedRest ignored.of_cons
      have unyielding : compiler.isYield name = false :=
        ignored.isYield_eq_false (List.mem_cons_self ..) mark
      have first : compiler.plan { scope, foundYield } token =
          .ok ([.write (entered.statement compiler.catalog compiler.settings escaped)],
            { scope, foundYield }) := by
        rw [plan_reference mark unyielding, planReference, looked]
      exact planAll_cons_eq_ok_iff.mpr ⟨_, _, _, first, planned, rfl⟩
  | block inverted name body rest bodyIH restIH =>
      simp only [SectionTree.marks, List.map_eq_cons_iff, List.map_eq_append_iff] at marked
      obtain ⟨token, later, rfl, mark, front, tail, rfl, markedBody,
        close, back, rfl, closeMark, markedRest⟩ := marked
      rcases SectionTree.code?_block_eq_some_iff.mp resolved with
        ⟨entered, inside, after, looked, resolvedBody, resolvedRest, rfl⟩
      -- The body is planned in the scope of the section, the rest in the scope around it.
      have plannedBody := bodyIH markedBody resolvedBody ignored.of_cons.of_append_left
      have plannedRest :=
        restIH markedRest resolvedRest ignored.of_cons.of_append_right.of_cons
      have first : compiler.plan { scope, foundYield } token =
          .ok ([.openBlock (entered.header compiler.settings)],
            { scope := entered, foundYield }) := by
        rw [plan_open mark, planSection, looked]
      have plannedTail := planAll_cons_eq_ok_iff.mpr
        ⟨_, _, _, plan_close closeMark looked, plannedRest, rfl⟩
      have plannedInside := planAll_append_eq_ok_iff.mpr
        ⟨_, _, _, plannedBody, plannedTail, rfl⟩
      exact planAll_cons_eq_ok_iff.mpr ⟨_, _, _, first, plannedInside, rfl⟩

/--
Planned tokens start with the tokens of a tree whose names resolve, up to their
end or up to the close of a section that was opened before them.
-/
def StartsWithTree (compiler : Compiler) (scope : Scope) (foundYield : Bool)
    (tokens : List Token) (instructions : List Instruction) (last : Course) : Prop :=
  ∃ (tree : SectionTree) (code : Code) (front back : List Token) (later : List Instruction),
    tokens = front ++ back ∧ front.map Token.mark = tree.marks ∧
      tree.code? compiler.catalog compiler.settings scope = some code ∧
        compiler.planAll { scope, foundYield } back = .ok (later, last) ∧
          instructions = code.instructions ++ later ∧
            SectionTree.Ends (back.map Token.mark)

namespace StartsWithTree

variable {rest : List Token} {others : List Instruction} {last : Course}

/-- A plan that starts where a section ends starts with the empty tree. -/
theorem of_ends {tokens : List Token} {instructions : List Instruction}
    (planned : compiler.planAll { scope, foundYield } tokens = .ok (instructions, last))
    (ends : SectionTree.Ends (tokens.map Token.mark)) :
    compiler.StartsWithTree scope foundYield tokens instructions last :=
  ⟨.nil, .nil, [], tokens, instructions, rfl, rfl, rfl, planned, rfl, ends⟩

/-- Text in front of a tree gives a tree. -/
theorem literal {special : Bool} {text : String}
    (mark : token.mark = (if special then .special else .text, text))
    (starts : compiler.StartsWithTree scope foundYield rest others last) :
    compiler.StartsWithTree scope foundYield (token :: rest)
      (.write (compiler.settings.literalStatement text) ::
        (if special && text == "\n" then [.endLine] else []) ++ others) last := by
  rcases starts with ⟨tree, code, front, back, later, rfl, marked, resolved, planned, rfl, ends⟩
  refine ⟨.literal special text tree,
    .statement (compiler.settings.literalStatement text) (special && text == "\n") code,
    token :: front, back, later, rfl, ?_, ?_, planned, ?_, ends⟩
  · simp [SectionTree.marks, mark, marked]
  · rw [SectionTree.code?, resolved]
    rfl
  · simp [Code.instructions]

/-- A reference in front of a tree gives a tree. -/
theorem reference {escaped : Bool} {name : String}
    (mark : token.mark = (if escaped then .reference else .rawReference, name))
    (looked : (scope.enter compiler.catalog name false).outcome = .ok entered)
    (starts : compiler.StartsWithTree scope foundYield rest others last) :
    compiler.StartsWithTree scope foundYield (token :: rest)
      (.write (entered.statement compiler.catalog compiler.settings escaped) :: others)
      last := by
  rcases starts with ⟨tree, code, front, back, later, rfl, marked, resolved, planned, rfl, ends⟩
  refine ⟨.reference escaped name tree,
    .statement (entered.statement compiler.catalog compiler.settings escaped) false code,
    token :: front, back, later, rfl, ?_, ?_, planned, ?_, ends⟩
  · simp [SectionTree.marks, mark, marked]
  · rw [SectionTree.code?, looked, resolved]
    rfl
  · simp [Code.instructions]

/-- A section around a tree and in front of another one gives a tree. -/
theorem block {inverted : Bool} {name : String} {close : Token} {front back : List Token}
    {body : SectionTree} {inside : Code}
    (mark : token.mark = (if inverted then .invertedOpen else .sectionOpen, name))
    (looked : (scope.enter compiler.catalog name inverted).outcome = .ok entered)
    (marked : front.map Token.mark = body.marks)
    (resolved : body.code? compiler.catalog compiler.settings entered = some inside)
    (closeMark : close.mark = (.sectionClose, name))
    (starts : compiler.StartsWithTree scope foundYield back others last) :
    compiler.StartsWithTree scope foundYield (token :: (front ++ close :: back))
      (.openBlock (entered.header compiler.settings) ::
        (inside.instructions ++ .closeBlock (Code.trailer name) :: others)) last := by
  rcases starts with
    ⟨tree, code, middle, tail, later, rfl, markedRest, resolvedRest, planned, rfl, ends⟩
  refine ⟨.block inverted name body tree,
    .block (entered.header compiler.settings) name inside code,
    token :: (front ++ close :: middle), tail, later, by simp, ?_, ?_, planned, ?_, ends⟩
  · simp [SectionTree.marks, mark, marked, closeMark, markedRest]
  · simp only [SectionTree.code?, looked, resolved, resolvedRest]
    rfl
  · simp [Code.instructions]

end StartsWithTree

/-- A token that is not the end is text, a reference, or opens or closes a section. -/
theorem mark_cases (endless : token.kind ≠ .endOfFile) :
    (∃ special : Bool, token.mark = (if special then .special else .text, token.value)) ∨
      (∃ escaped : Bool,
        token.mark = (if escaped then .reference else .rawReference, token.value)) ∨
        (∃ inverted : Bool,
          token.mark = (if inverted then .invertedOpen else .sectionOpen, token.value)) ∨
          token.mark = (.sectionClose, token.value) := by
  cases kind : token.kind <;> simp_all [Token.mark]

/-- Tokens whose plan closes what it opens start with the tokens of a tree. -/
theorem startsWithTree_of_planAll
    {tokens : List Token} {instructions : List Instruction} {last : Course}
    (planned : compiler.planAll { scope, foundYield } tokens = .ok (instructions, last))
    (closes : last.scope.depth ≤ scope.depth)
    (endless : ∀ token ∈ tokens, token.kind ≠ .endOfFile)
    (ignored : compiler.Ignores tokens) :
    compiler.StartsWithTree scope foundYield tokens instructions last := by
  -- What follows a block is shorter by more than one token: the length is what decreases.
  induction length : tokens.length using Nat.strongRecOn
    generalizing scope tokens instructions with
  | ind bound ih =>
      subst length
      cases tokens with
      | nil => exact .of_ends planned SectionTree.ends_nil
      | cons token rest =>
          have endlessRest : ∀ other ∈ rest, other.kind ≠ .endOfFile :=
            fun other member => endless other (List.mem_cons_of_mem _ member)
          rcases planAll_cons_eq_ok_iff.mp planned with
            ⟨first, next, others, plannedFirst, plannedRest, rfl⟩
          rcases mark_cases (endless token (List.mem_cons_self ..)) with
            ⟨special, mark⟩ | ⟨escaped, mark⟩ | ⟨inverted, mark⟩ | mark
          · rw [plan_literal mark] at plannedFirst
            cases plannedFirst
            exact .literal mark
              (ih rest.length (by simp) plannedRest closes endlessRest ignored.of_cons rfl)
          · have unyielding : compiler.isYield token.value = false :=
              ignored.isYield_eq_false (List.mem_cons_self ..) mark
            rw [plan_reference mark unyielding, planReference] at plannedFirst
            split at plannedFirst
            · cases plannedFirst
            · rename_i entered looked
              cases plannedFirst
              exact .reference mark looked
                (ih rest.length (by simp) plannedRest closes endlessRest ignored.of_cons rfl)
          · rw [plan_open mark, planSection] at plannedFirst
            split at plannedFirst
            · cases plannedFirst
            · rename_i entered looked
              cases plannedFirst
              have deeper : entered.depth = scope.depth + 1 := Scope.depth_of_enter looked
              obtain ⟨body, inside, front, tail, later, rfl, marked, resolved, plannedTail, rfl,
                ends⟩ := ih rest.length (by simp) plannedRest (by omega) endlessRest
                  ignored.of_cons rfl
              cases tail with
              | nil =>
                  cases plannedTail
                  simp only [deeper] at closes
                  omega
              | cons close back =>
                  rcases planAll_cons_eq_ok_iff.mp plannedTail with
                    ⟨closing, after, beyond, plannedClose, plannedBack, rfl⟩
                  have closeMark : close.mark = (.sectionClose, token.value) :=
                    mark_of_plan_close (by simpa [SectionTree.Ends, Token.mark] using ends)
                      looked plannedClose
                  rw [plan_close closeMark looked] at plannedClose
                  cases plannedClose
                  exact .block mark looked marked resolved closeMark
                    (ih back.length (by simp; omega) plannedBack closes
                      (fun other member => endlessRest other (by simp [member]))
                      ignored.of_cons.of_append_right.of_cons rfl)
          · exact .of_ends planned (by simp [mark, SectionTree.ends_close])

/--
Tokens have a plan that leaves no section open exactly when they are those of a
tree whose names resolve.  The plan is then read off the code of the tree.
-/
theorem planAll_root_eq_ok_iff
    {dataType : DataType} {tokens : List Token} {instructions : List Instruction}
    {last : Course}
    (endless : ∀ token ∈ tokens, token.kind ≠ .endOfFile)
    (ignored : compiler.Ignores tokens) :
    (compiler.planAll { scope := .root dataType, foundYield } tokens =
        .ok (instructions, last) ∧ last.scope.sections = []) ↔
      ∃ (tree : SectionTree) (code : Code),
        tokens.map Token.mark = tree.marks ∧
          tree.code? compiler.catalog compiler.settings (.root dataType) = some code ∧
            instructions = code.instructions ∧
              last = { scope := .root dataType, foundYield } := by
  constructor
  · rintro ⟨planned, closed⟩
    rcases startsWithTree_of_planAll planned (by simp [Scope.depth, closed]) endless ignored with
      ⟨tree, code, front, back, later, rfl, marked, resolved, plannedBack, rfl, ends⟩
    cases back with
    | nil =>
        cases plannedBack
        exact ⟨tree, code, by simpa using marked, resolved, by simp, rfl⟩
    | cons close rest =>
        have closes : close.kind = .sectionClose := by
          simpa [SectionTree.Ends, Token.mark] using ends
        rcases planAll_cons_eq_ok_iff.mp plannedBack with ⟨_, _, _, plannedClose, -, -⟩
        simp [plan, closes, planClose, Scope.root] at plannedClose
  · rintro ⟨tree, code, marked, resolved, rfl, rfl⟩
    exact ⟨planAll_of_code? foundYield marked resolved ignored, rfl⟩

end Compiler

end TypedMustache
