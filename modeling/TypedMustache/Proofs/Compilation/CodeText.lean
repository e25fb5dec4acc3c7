import Mathlib.Logic.ExistsUnique
import TypedMustache.Proofs.Compilation.SectionTree

/-!
# The text of a code tree

`Code.text` writes down a code tree by recursion on it.  Statements that follow
each other share a line, a block stands on lines of its own and one level
deeper, and a block with nothing in it is filled with a `pass`.

A sink reaches the same text from one instruction at a time, with a pending
line, a level and a stack of statement counts.  `Sink.obeyAll_instructions`
relates the two, from any sink whose output is not suppressed.  A suppressed
sink comes back from the code of a tree as it was.
-/

namespace TypedMustache

namespace Code

/-! ## Lines of a code tree -/

/-- A line of the generated code. -/
inductive Line where
  | statements (level : Int) (texts : List String)
  | header (level : Int) (text : String)
  /-- The body of a block with nothing in it. -/
  | filler (level : Int)
  /-- The comment after a block. -/
  | trailer (level : Int) (name : String)
  | blank
deriving DecidableEq, Repr

/-- The indentation of a level. -/
def margin (indent : String) (level : Int) : String :=
  Text.repeated indent level.toNat

/-- The text of a line. -/
def Line.print (indent : String) : Line → String
  | statements level texts => margin indent level ++ Text.join "; " texts
  | header level text => margin indent level ++ text
  | filler level => margin indent level ++ "pass"
  | trailer level name => margin indent level ++ Code.trailer name
  | blank => ""

namespace Line

@[simp]
theorem print_statements (indent : String) (level : Int) (texts : List String) :
    (statements level texts).print indent = margin indent level ++ Text.join "; " texts := rfl

@[simp]
theorem print_header (indent : String) (level : Int) (text : String) :
    (header level text).print indent = margin indent level ++ text := rfl

@[simp]
theorem print_filler (indent : String) (level : Int) :
    (filler level).print indent = margin indent level ++ "pass" := rfl

@[simp]
theorem print_trailer (indent : String) (level : Int) (name : String) :
    (trailer level name).print indent = margin indent level ++ Code.trailer name := rfl

@[simp]
theorem print_blank (indent : String) : blank.print indent = "" := rfl

end Line

/-- The line of pending statements; there is none if nothing is pending. -/
def endedLine (level : Int) (pending : List String) : List Line :=
  if pending.isEmpty then [] else [.statements level pending]

/--
The finished lines of code that starts behind pending statements, and the
statements that are pending at its end.
-/
def layout (level : Int) : List String → Code → List Line × List String
  | pending, nil => ([], pending)
  | pending, statement text endsLine rest =>
      if endsLine then
        let after := layout level [] rest
        (.statements level (pending ++ [text]) :: after.1, after.2)
      else layout level (pending ++ [text]) rest
  | pending, block header name body rest =>
      let inside := layout (level + 1) [] body
      let after := layout level [] rest
      (endedLine level pending ++ [.header level header] ++
        (inside.1 ++ endedLine (level + 1) inside.2 ++
          (if body.isNil then [.filler (level + 1)] else [])) ++
        [.trailer level name] ++ after.1, after.2)

/-- The line that ends code; it is blank if nothing is pending. -/
def lastLine (level : Int) (pending : List String) : Line :=
  if pending.isEmpty then .blank else .statements level pending

/-- All lines of code. -/
def lines (level : Int) (code : Code) : List Line :=
  (code.layout level []).1 ++ [lastLine level (code.layout level []).2]

/-- The text of code. -/
def text (indent : String) (level : Int) (code : Code) : String :=
  String.join ((code.lines level).map fun line => line.print indent ++ "\n")

/-- Properties of the statements, of the header or of the name of a line. -/
def Line.Every (onStatement onHeader onName : String → Prop) : Line → Prop
  | statements _ texts => texts ≠ [] ∧ ∀ text ∈ texts, onStatement text
  | header _ text => onHeader text
  | filler _ => True
  | trailer _ name => onName name
  | blank => True

section Every

variable {onStatement onHeader onName : String → Prop} {code : Code}

/-- A line that ends what is pending holds what the pending statements hold. -/
theorem every_of_mem_endedLine {line : Line} {pending : List String} (level : Int)
    (everyPending : ∀ text ∈ pending, onStatement text)
    (member : line ∈ endedLine level pending) : line.Every onStatement onHeader onName := by
  unfold endedLine at member
  split at member
  · cases member
  · rename_i some
    rw [List.mem_singleton.mp member]
    exact ⟨by simpa using some, everyPending⟩

/-- What holds throughout code holds of its lines, and of what is pending at its end. -/
theorem every_of_layout (level : Int) (pending : List String)
    (everyPending : ∀ text ∈ pending, onStatement text)
    (every : code.Every onStatement onHeader onName) :
    (∀ line ∈ (code.layout level pending).1, line.Every onStatement onHeader onName) ∧
      ∀ text ∈ (code.layout level pending).2, onStatement text := by
  induction code generalizing level pending with
  | nil => exact ⟨by simp [layout], everyPending⟩
  | statement text endsLine rest ih =>
      have everyMore : ∀ other ∈ pending ++ [text], onStatement other := by
        intro other member
        rcases List.mem_append.mp member with old | new
        · exact everyPending other old
        · rw [List.mem_singleton.mp new]
          exact every.1
      cases endsLine with
      | true =>
          rcases ih level [] (by simp) every.2 with ⟨lines, last⟩
          refine ⟨?_, last⟩
          intro line member
          rcases List.mem_cons.mp member with rfl | later
          · exact ⟨by simp, everyMore⟩
          · exact lines line later
      | false => exact ih level (pending ++ [text]) everyMore every.2
  | block header name body rest bodyIH restIH =>
      rcases every with ⟨onThisHeader, onThisName, everyBody, everyRest⟩
      rcases bodyIH (level + 1) [] (by simp) everyBody with ⟨inside, insideLast⟩
      rcases restIH level [] (by simp) everyRest with ⟨after, last⟩
      refine ⟨?_, last⟩
      intro line member
      simp only [layout, List.mem_append, List.mem_singleton] at member
      rcases member with
        (((ended | rfl) | (within | insideEnded) | filled) | rfl) | later
      · exact every_of_mem_endedLine level everyPending ended
      · exact onThisHeader
      · exact inside line within
      · exact every_of_mem_endedLine (level + 1) insideLast insideEnded
      · split at filled
        · rw [List.mem_singleton.mp filled]
          trivial
        · cases filled
      · exact onThisName
      · exact after line later

/-- What holds of all statements, headers and names of code holds of its lines. -/
theorem every_of_mem_lines {line : Line} {level : Int}
    (every : code.Every onStatement onHeader onName) (member : line ∈ code.lines level) :
    line.Every onStatement onHeader onName := by
  rcases every_of_layout level [] (by simp) every with ⟨lines, last⟩
  rcases List.mem_append.mp member with earlier | ending
  · exact lines line earlier
  · rw [List.mem_singleton.mp ending]
    unfold lastLine
    split
    · trivial
    · rename_i some
      exact ⟨by simpa using some, last⟩

end Every

/-- The number of statements and blocks side by side. -/
def count : Code → Nat
  | nil => 0
  | statement _ _ rest => rest.count + 1
  | block _ _ _ rest => rest.count + 1

/-- Code without statements is empty. -/
theorem count_eq_zero_iff (code : Code) : code.count = 0 ↔ code.isNil = true := by
  cases code <;> simp [count, isNil]

end Code

namespace Sink

/-! ## Sinks that carry out code -/

/-- Count more statements in the innermost block. -/
def countStatements (more : Nat) : List Nat → List Nat
  | [] => []
  | count :: outer => (count + more) :: outer

theorem countStatements_zero (blocks : List Nat) : countStatements 0 blocks = blocks := by
  cases blocks <;> rfl

theorem countStatements_countStatement (more : Nat) (blocks : List Nat) :
    countStatements more (countStatement blocks) = countStatements (more + 1) blocks := by
  cases blocks with
  | nil => rfl
  | cons count outer => simp [countStatements, countStatement, Nat.add_comm, Nat.add_left_comm]

/-- No statement of a line is empty. -/
def Solid (statements : List String) : Prop :=
  ∀ statement ∈ statements, statement ≠ ""

theorem solid_nil : Solid [] := by
  simp [Solid]

theorem solid_append_singleton {statements : List String} {last : String}
    (solid : Solid statements) (lastSolid : last ≠ "") : Solid (statements ++ [last]) := by
  intro statement member
  rcases List.mem_append.mp member with old | new
  · exact solid statement old
  · rw [List.mem_singleton.mp new]
    exact lastSolid

theorem join_ne_empty {statements : List String}
    (solid : Solid statements) (some : statements ≠ []) : Text.join "; " statements ≠ "" := by
  cases statements with
  | nil => exact absurd rfl some
  | cons first rest =>
      have firstSolid := solid first (by simp)
      cases rest with
      | nil => simpa using firstSolid
      | cons second others => simp [firstSolid]

/-- The sink writes statements in the way in which lines are printed. -/
theorem lineOf_eq {statements : List String} (sink : Sink)
    (solid : Solid statements) (some : statements ≠ []) :
    sink.lineOf statements =
      (Code.Line.statements sink.level statements).print sink.indent := by
  have joined := join_ne_empty solid some
  simp [lineOf, Code.margin, margin, joined]

/-- Ending the pending line writes it as the layout has it. -/
theorem endPending_eq (sink : Sink) (solid : Solid sink.pending) :
    sink.endPending =
      { sink with
        lines := sink.lines ++
          List.map (Code.Line.print sink.indent) (Code.endedLine sink.level sink.pending)
        pending := [] } := by
  cases held : sink.pending with
  | nil =>
      rcases sink with ⟨⟩
      simp_all [endPending, Code.endedLine]
  | cons first rest =>
      have shown := sink.lineOf_eq (held ▸ solid) (List.cons_ne_nil first rest)
      simp [endPending, finish, Code.endedLine, held, shown]

/-- A sink after the statements and blocks of code. -/
def laidOut (sink : Sink) (code : Code) : Sink :=
  { sink with
    lines := sink.lines ++
      List.map (Code.Line.print sink.indent) (code.layout sink.level sink.pending).1
    pending := (code.layout sink.level sink.pending).2
    blocks := countStatements code.count sink.blocks }

/-- The sink inside a block that was opened in a sink which shows its output. -/
theorem openBlock_eq (sink : Sink) (header : String)
    (shown : sink.suppressed = false) (solid : Solid sink.pending) :
    sink.openBlock header =
      { sink with
        lines := sink.lines ++
          List.map (Code.Line.print sink.indent)
            (Code.endedLine sink.level sink.pending ++ [.header sink.level header])
        pending := []
        level := sink.level + 1
        blocks := 0 :: countStatement sink.blocks } := by
  simp [openBlock, shown, sink.endPending_eq solid, putLine, margin, Code.margin]

/-- The sink after a block was closed in a sink which shows its output. -/
theorem obey_closeBlock_eq (sink : Sink) (name : String) (statements : Nat) (outer : List Nat)
    (shown : sink.suppressed = false) (solid : Solid sink.pending)
    (counted : sink.blocks = statements :: outer) :
    sink.obey (.closeBlock (Code.trailer name)) =
      .ok
        { sink with
          lines := sink.lines ++
            List.map (Code.Line.print sink.indent)
              (Code.endedLine sink.level sink.pending ++
                (if statements = 0 then [.filler sink.level] else []) ++
                [.trailer (sink.level - 1) name])
          pending := []
          level := sink.level - 1
          blocks := outer } := by
  have named : (Code.trailer name).isEmpty = false := by
    simp [Code.trailer]
  by_cases empty : statements = 0 <;>
    simp [obey, closeBlock, shown, sink.endPending_eq solid, counted, closed, putLine, margin,
      Code.margin, empty, named]

/-- A layout leaves solid statements pending. -/
theorem layout_solid {code : Code} {pending : List String} (level : Int)
    (solidPending : Solid pending)
    (solid : code.Every (· ≠ "") (fun _ => True) (fun _ => True)) :
    Solid (code.layout level pending).2 :=
  (Code.every_of_layout level pending solidPending solid).2

/--
A sink that shows its output carries out the instructions of code by laying the
code out behind what it holds.
-/
theorem obeyAll_instructions (code : Code) (sink : Sink)
    (shown : sink.suppressed = false) (solidPending : Solid sink.pending)
    (solid : code.Every (· ≠ "") (fun _ => True) (fun _ => True)) :
    sink.obeyAll code.instructions = .ok (sink.laidOut code) := by
  -- Solid statements are kept pending: an empty one would look as if there were none.
  induction code generalizing sink with
  | nil =>
      simp [Code.instructions, laidOut, Code.layout, Code.count, countStatements_zero]
  | statement text endsLine rest ih =>
      have moreSolid := solid_append_singleton solidPending solid.1
      have written : sink.write text =
          { sink with
            pending := sink.pending ++ [text], blocks := countStatement sink.blocks } := by
        simp [write, shown]
      cases endsLine with
      | true =>
          have ended : (sink.write text).endLine =
              { sink with
                lines := sink.lines ++
                  [(Code.Line.statements sink.level (sink.pending ++ [text])).print sink.indent]
                pending := [], blocks := countStatement sink.blocks } := by
            have line := (sink.write text).lineOf_eq moreSolid (by simp)
            simp [written, endLine, finish, shown] at line ⊢
            exact line
          calc
            sink.obeyAll (Code.statement text true rest).instructions =
                (sink.write text).endLine.obeyAll rest.instructions := rfl
            _ = .ok ((sink.write text).endLine.laidOut rest) :=
                ih _ (by simp [ended, shown]) (by simp [ended, solid_nil]) solid.2
            _ = .ok (sink.laidOut (.statement text true rest)) := by
                simp [ended, laidOut, Code.layout, Code.count, countStatements_countStatement]
      | false =>
          calc
            sink.obeyAll (Code.statement text false rest).instructions =
                (sink.write text).obeyAll rest.instructions := rfl
            _ = .ok ((sink.write text).laidOut rest) :=
                ih _ (by simp [written, shown]) (by simpa [written] using moreSolid) solid.2
            _ = .ok (sink.laidOut (.statement text false rest)) := by
                simp [written, laidOut, Code.layout, Code.count, countStatements_countStatement]
  | block header name body rest bodyIH restIH =>
      rcases solid with ⟨-, -, bodySolid, restSolid⟩
      have opened := sink.openBlock_eq header shown solidPending
      have inside := bodyIH (sink.openBlock header) (by simp [opened, shown])
        (by simp [opened, solid_nil]) bodySolid
      have closed := ((sink.openBlock header).laidOut body).obey_closeBlock_eq name body.count
        (countStatement sink.blocks) (by simp [opened, laidOut, shown])
        (by simpa [laidOut] using layout_solid _ (by simp [opened, solid_nil]) bodySolid)
        (by simp [opened, laidOut, countStatements])
      rw [Code.instructions, obeyAll_cons, obey, Except.bind, obeyAll_append, inside,
        Except.bind, obeyAll_cons, closed, Except.bind,
        restIH _ (by simp [opened, laidOut, shown]) (by simp [solid_nil]) restSolid]
      simp [opened, laidOut, Code.layout, Code.count, countStatements_countStatement,
        Code.count_eq_zero_iff]

/-- A suppressed sink comes back from the instructions of code as it was. -/
theorem obeyAll_instructions_suppressed (code : Code) (sink : Sink)
    (hidden : sink.suppressed = true) :
    sink.obeyAll code.instructions = .ok sink := by
  induction code generalizing sink with
  | nil => rfl
  | statement text endsLine rest ih =>
      cases endsLine <;>
        simp [Code.instructions, obeyAll_cons, obey, write, endLine, hidden, Except.bind,
          ih sink hidden]
  | block header name body rest bodyIH restIH =>
      have opened : sink.openBlock header = { sink with level := sink.level + 1 } := by
        simp [openBlock, hidden]
      have closed :
          (sink.openBlock header).obey (.closeBlock (Code.trailer name)) = .ok sink := by
        simp only [obey, closeBlock, opened, hidden, if_true, Int.add_sub_cancel]
        rw [← hidden]
      rw [Code.instructions, obeyAll_cons, obey, Except.bind, obeyAll_append,
        bodyIH _ (by simp [opened, hidden]), Except.bind, obeyAll_cons, closed, Except.bind,
        restIH sink hidden]

/-- The lines of a sink that started empty and carried out code. -/
theorem allLines_finish_laidOut (code : Code) (indent : String) (level : Int)
    (solid : code.Every (· ≠ "") (fun _ => True) (fun _ => True)) :
    ((fresh indent level).laidOut code).finish.allLines =
      (code.lines level).map (·.print indent) := by
  have solidLast := layout_solid level solid_nil solid
  have last :
      ((fresh indent level).laidOut code).lineOf (code.layout level []).2 =
        (Code.lastLine level (code.layout level []).2).print indent := by
    cases held : (code.layout level []).2 with
    | nil => simp [lineOf, Code.lastLine]
    | cons first rest =>
        exact lineOf_eq ((fresh indent level).laidOut code) (held ▸ solidLast)
          (List.cons_ne_nil first rest)
  simp [Code.lines, ← last, allLines, finish, laidOut, fresh]

/-- The text of a sink that started empty and carried out code. -/
theorem value_finish_laidOut (code : Code) (indent : String) (level : Int)
    (solid : code.Every (· ≠ "") (fun _ => True) (fun _ => True)) :
    ((fresh indent level).laidOut code).finish.value = code.text indent level := by
  rw [value, allLines_finish_laidOut code indent level solid, List.map_map]
  rfl

end Sink

/-! ## Full runs -/

/-- The statement for a text is not empty. -/
theorem Settings.literalStatement_ne_empty (settings : Settings) (text : String) :
    settings.literalStatement text ≠ "" := by
  simp [literalStatement]

/-- Nor is the statement for a reference. -/
theorem Scope.statement_ne_empty (catalog : Catalog) (settings : Settings)
    (escaped : Bool) (scope : Scope) : scope.statement catalog settings escaped ≠ "" := by
  unfold statement Reference.statement Reference.statementFor
  dsimp only
  split
  · split <;> simp
  · simp

/-- No statement of the code of a tree is empty. -/
theorem SectionTree.solid_of_code?
    {catalog : Catalog} {settings : Settings} {scope : Scope} {tree : SectionTree} {code : Code}
    (resolved : tree.code? catalog settings scope = some code) :
    code.Every (· ≠ "") (fun _ => True) (fun _ => True) :=
  every_of_code? (fun _ => True)
    (fun text => settings.literalStatement_ne_empty text)
    (fun escaped _ _ _ => Scope.statement_ne_empty catalog settings escaped _)
    (fun _ _ _ => ⟨trivial, trivial, trivial⟩)
    trivial tree.names_true resolved

/-- The text of a tree in a scope, if all its names resolve. -/
def SectionTree.text? (catalog : Catalog) (settings : Settings) (scope : Scope)
    (indent : String) (level : Int) (tree : SectionTree) : Option String :=
  (tree.code? catalog settings scope).map (·.text indent level)

namespace Compiler

variable {compiler : Compiler} {dataType : DataType} {atEnd : List Journal.Notice}
  {source indent : String} {stream : TokenStream Failure} {position : Position} {after : Run}

/-- An accepted run that meets no yield marker carries out the code of a tree. -/
theorem Accepts.exists_code
    {sink written : Sink} {tokens : List Token} {instructions : List Instruction}
    {course : Course}
    (accepted : compiler.Accepts (.start dataType sink) tokens instructions course written)
    (endless : ∀ token ∈ tokens, token.kind ≠ .endOfFile)
    (ignored : compiler.Ignores tokens) :
    ∃ (tree : SectionTree) (code : Code),
      tokens.map Token.mark = tree.marks ∧
        tree.code? compiler.catalog compiler.settings (.root dataType) = some code ∧
          instructions = code.instructions ∧ course = .start dataType :=
  (planAll_root_eq_ok_iff endless ignored).mp ⟨accepted.planned, accepted.closed⟩

/-- The sink after a run that shows all its output holds the code of a tree. -/
theorem exists_code_of_run {level : Int}
    (shown : compiler.variant.initiallySuppressed = false)
    (ignored : compiler.Ignores stream.template)
    (done : compiler.run atEnd source stream (.start dataType (.fresh indent level)) =
      .ok position after) :
    ∃ (tree : SectionTree) (code : Code),
      stream.template.map Token.mark = tree.marks ∧
        tree.code? compiler.catalog compiler.settings (.root dataType) = some code ∧
          after.sink = ((Sink.fresh indent level).laidOut code).finish := by
  rcases accepts_of_run done with ⟨token, instructions, written, -, -, accepted, sink⟩
  rcases accepted.exists_code (fun _ => TokenStream.kind_of_mem_template) ignored with
    ⟨tree, code, marked, resolved, rfl, -⟩
  have obeyed := accepted.obeyed
  rw [shown, Sink.obeyAll_instructions code _ rfl Sink.solid_nil
    (SectionTree.solid_of_code? resolved)] at obeyed
  cases obeyed
  exact ⟨tree, code, marked, resolved, sink⟩

/-- A full run over the tokens of a tree whose names resolve succeeds. -/
theorem exists_run_of_code? {tree : SectionTree} {code : Code} {token : Token}
    (shown : compiler.variant.initiallySuppressed = false)
    (ignored : compiler.Ignores stream.template)
    (marked : stream.template.map Token.mark = tree.marks)
    (resolved : tree.code? compiler.catalog compiler.settings (.root dataType) = some code)
    (ended : stream.ending source none = .ok token) :
    ∃ after,
      compiler.run atEnd source stream (.start dataType (.fresh indent 1)) =
          .ok token.position after ∧
        after.sink = ((Sink.fresh indent 1).laidOut code).finish := by
  have accepted :
      compiler.Accepts (.start dataType (.fresh indent 1)) stream.template code.instructions
        (.start dataType) ((Sink.fresh indent 1).laidOut code) := by
    refine ⟨planAll_of_code? false marked resolved ignored, rfl, ?_⟩
    rw [shown]
    exact Sink.obeyAll_instructions code _ rfl Sink.solid_nil
      (SectionTree.solid_of_code? resolved)
  rcases accepted.exists_run ended atEnd with ⟨after, done, sink, -⟩
  exact ⟨after, done, sink⟩

/--
A full run that succeeds writes the text of the section tree of its tokens, and
they have no other section tree.
-/
theorem value_of_full_run
    (full : compiler.variant = .full)
    (done : compiler.run atEnd source stream (.start dataType (.fresh indent 1)) =
      .ok position after) :
    ∃! tree : SectionTree,
      tree.marks = stream.template.map Token.mark ∧
        tree.text? compiler.catalog compiler.settings (.root dataType) indent 1 =
          some after.sink.value := by
  rcases exists_code_of_run (by rw [full]; rfl) (ignores_of_full full _) done with
    ⟨tree, code, marked, resolved, sink⟩
  refine ⟨tree, ⟨marked.symm, ?_⟩, ?_⟩
  · rw [SectionTree.text?, resolved, sink, Option.map_some,
      Sink.value_finish_laidOut code indent 1 (SectionTree.solid_of_code? resolved)]
  · rintro other ⟨otherMarked, -⟩
    exact SectionTree.marks_injective (otherMarked.trans marked)

/-- The full compiler for pages with a title and a flag, with default settings. -/
def pages : Compiler :=
  { catalog :=
      { models :=
          [{ name := { moduleName := "models", qualifiedName := "Page" }
             annotations :=
              [("title", .ofClass (.builtin "str")), ("flag", .ofClass (.builtin "bool"))]
             attributes := []
             bases := [] }]
        constants := [] }
    settings := {}
    variant := .full }

/-- The data type of pages. -/
def page : DataType :=
  .ofClass { moduleName := "models", qualifiedName := "Page" }

/-- A line break, and a block with a reference and an empty block in it. -/
def pageTokens : List Token :=
  [(.special, "\n"), (.sectionOpen, "flag"), (.reference, "title"), (.invertedOpen, "title"),
    (.sectionClose, "title"), (.sectionClose, "flag")].map fun (kind, value) =>
      { kind, value, position := .start "page" }

/-- A run over a page writes the code of the one tree that its tokens spell. -/
theorem value_of_full_run_pageTokens :
    ∃ position after,
      pages.run [] "page" (.ofList pageTokens) (.start page (.fresh "  " 1)) =
          .ok position after ∧
        ∃! tree : SectionTree,
          tree.marks =
              (TokenStream.ofList pageTokens : TokenStream Failure).template.map Token.mark ∧
            tree.text? pages.catalog pages.settings (.root page) "  " 1 =
              some after.sink.value := by
  obtain ⟨position, after, done⟩ := Run.exists_of_report
    (show (Run.report (pages.run [] "page" (.ofList pageTokens)
      (.start page (.fresh "  " 1)))).isOk = true by decide +kernel)
  exact ⟨position, after, done, value_of_full_run rfl done⟩

end Compiler

end TypedMustache
