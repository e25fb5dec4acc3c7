import Mathlib.Data.List.Forall2
import TypedMustache.Proofs.Compilation.CodeLines

/-!
# Literal text in the generated code

Whatever a template says literally can be read back from the code that is
generated for it.  The lines of statements of the code are cut into statements
in one way only, and the literals that are written by these statements are the
literal tokens of the template, in their order.

The statements of a code tree are related to its lines on one side, and to the
literals of the section tree that it came from on the other side.
-/

namespace TypedMustache

open Text (Plain)

/-! ## Literals and statements in order -/

/-- The literal texts of a tree in their order. -/
def SectionTree.literals : SectionTree → List String
  | nil => []
  | literal _ text rest => text :: rest.literals
  | reference _ _ rest => rest.literals
  | block _ _ body rest => body.literals ++ rest.literals

/-- The statements of code in their order. -/
def Code.statements : Code → List String
  | nil => []
  | statement text _ rest => text :: rest.statements
  | block _ _ body rest => body.statements ++ rest.statements

namespace SectionTree

/-- Whether a mark stands for literal text. -/
def isLiteralMark (mark : Token.Mark) : Bool :=
  mark.1 == .text || mark.1 == .special

theorem literals_eq (tree : SectionTree) :
    tree.literals = (tree.marks.filter isLiteralMark).map (·.2) := by
  induction tree with
  | nil => rfl
  | literal special text rest ih => cases special <;> simp [literals, marks, isLiteralMark, ih]
  | reference escaped name rest ih => cases escaped <;> simp [literals, marks, isLiteralMark, ih]
  | block inverted name body rest bodyIH restIH =>
      cases inverted <;> simp [literals, marks, isLiteralMark, bodyIH, restIH]

/-- The literals of the tree of tokens are the values of the literal tokens. -/
theorem literals_of_marked {tree : SectionTree} {tokens : List Token}
    (marked : tokens.map Token.mark = tree.marks) :
    tree.literals = (tokens.filter Token.isLiteral).map (·.value) := by
  rw [literals_eq, ← marked, List.filter_map, List.map_map]
  rfl

/-- The statements of the code of a tree write its literals, and otherwise only values. -/
theorem literalValue?_statements
    {catalog : Catalog} {settings : Settings} {scope : Scope}
    {tree : SectionTree} {code : Code}
    (accepted : settings.Accepted)
    (plain : Plain (scope.bound.expression settings))
    (named : tree.Names fun name => Lexer.isName name.toList = true)
    (resolved : tree.code? catalog settings scope = some code) :
    code.statements.filterMap (Text.literalValue? settings.writerName ·.toList) =
      tree.literals.map String.toList := by
  induction tree generalizing scope code with
  | nil =>
      cases resolved
      rfl
  | literal special text rest ih =>
      rcases code?_literal_eq_some_iff.mp resolved with ⟨after, resolvedRest, rfl⟩
      have written := settings.literalValue?_literalStatement text
      simp only [Code.statements, List.filterMap_cons, written, ih plain named resolvedRest,
        literals, List.map_cons]
  | reference escaped name rest ih =>
      rcases code?_reference_eq_some_iff.mp resolved with
        ⟨entered, after, looked, resolvedRest, rfl⟩
      have plainSubject := (Scope.plain_of_enter accepted plain named.1 looked).1
      have unwritten :
          Text.literalValue? settings.writerName
            (entered.statement catalog settings escaped).toList = none :=
        Reference.literalValue?_statement accepted catalog plainSubject
      simp only [Code.statements, List.filterMap_cons, unwritten, ih plain named.2 resolvedRest,
        literals]
  | block inverted name body rest bodyIH restIH =>
      rcases code?_block_eq_some_iff.mp resolved with
        ⟨entered, inside, after, looked, resolvedBody, resolvedRest, rfl⟩
      have plainBound := (Scope.plain_of_enter accepted plain named.1 looked).2
      rw [Code.statements, List.filterMap_append, bodyIH plainBound named.2.1 resolvedBody,
        restIH plain named.2.2 resolvedRest, literals, List.map_append]

end SectionTree

namespace Code

/-! ## Lines of statements -/

/-- The statements on a line of statements. -/
def Line.texts? : Line → Option (List String)
  | statements _ texts => some texts
  | header _ _ | filler _ | trailer _ _ | blank => none

/-- The statements on lines. -/
def lineTexts (lines : List Line) : List (List String) :=
  lines.filterMap Line.texts?

theorem lineTexts_append (front back : List Line) :
    lineTexts (front ++ back) = lineTexts front ++ lineTexts back :=
  List.filterMap_append

theorem flatten_endedLine (level : Int) (pending : List String) :
    (lineTexts (endedLine level pending)).flatten = pending := by
  cases pending with
  | nil => rfl
  | cons text rest => simp [lineTexts, endedLine, Line.texts?]

/-- The statements on the finished lines and those still pending are all there are. -/
theorem flatten_layout (code : Code) (level : Int) (pending : List String) :
    (lineTexts (code.layout level pending).1).flatten ++ (code.layout level pending).2 =
      pending ++ code.statements := by
  -- A block ends the pending line first, and nothing is pending where it begins or ends.
  induction code generalizing level pending with
  | nil => simp [layout, lineTexts, statements]
  | statement text endsLine rest ih =>
      cases endsLine with
      | true =>
          have later := ih level []
          have shown :
              lineTexts (layout level pending (.statement text true rest)).1 =
                (pending ++ [text]) :: lineTexts (rest.layout level []).1 := rfl
          have left :
              (layout level pending (.statement text true rest)).2 =
                (rest.layout level []).2 := rfl
          rw [shown, left, List.flatten_cons, List.append_assoc, later]
          simp [statements]
      | false =>
          have later := ih level (pending ++ [text])
          rw [List.append_assoc] at later
          exact later
  | block header name body rest bodyIH restIH =>
      have inside := bodyIH (level + 1) []
      have later := restIH level []
      have filler :
          lineTexts (if body.isNil then [.filler (level + 1)] else []) = [] := by
        cases body.isNil <;> rfl
      have shown :
          lineTexts (layout level pending (.block header name body rest)).1 =
            lineTexts (endedLine level pending) ++
              (lineTexts (body.layout (level + 1) []).1 ++
                lineTexts (endedLine (level + 1) (body.layout (level + 1) []).2)) ++
              lineTexts (rest.layout level []).1 := by
        simp only [layout, lineTexts_append, filler, List.append_assoc]
        rfl
      have left :
          (layout level pending (.block header name body rest)).2 =
            (rest.layout level []).2 := rfl
      rw [shown, left, List.flatten_append, List.flatten_append, List.flatten_append,
        flatten_endedLine, flatten_endedLine, inside, List.append_assoc, later]
      simp [statements]

theorem flatten_lines (code : Code) (level : Int) :
    (lineTexts (code.lines level)).flatten = code.statements := by
  have last : (lineTexts [lastLine level (code.layout level []).2]).flatten =
      (code.layout level []).2 := by
    cases (code.layout level []).2 with
    | nil => rfl
    | cons text rest => simp [lineTexts, lastLine, Line.texts?]
  rw [lines, lineTexts_append, List.flatten_append, last, flatten_layout]
  rfl

end Code

/-! ## Lines of statements in a text -/

namespace Text

/-- Whether the code on a line is neither a header nor `pass` nor a comment. -/
def isStatements (code : List Char) : Bool :=
  !code.isEmpty && code.head? != some '#' && code.getLast? != some ':' && code != "pass".toList

/-- The lines of statements of a text, without their indentation. -/
def statementLines (text : String) : List (List Char) :=
  ((splitOn '\n' text.toList).map (List.dropWhile isBlank)).filter isStatements

/-- A line consists of statements. -/
structure Reads (line : List Char) (statements : List (List Char)) : Prop where
  some : statements ≠ []
  single : ∀ statement ∈ statements, Single statement
  joins : joined statements = line

theorem statements?_of_reads {line : List Char} {statements : List (List Char)}
    (reads : Reads line statements) : statements? line = .some statements := by
  rw [← reads.joins]
  exact statements?_joined reads.some reads.single

end Text

namespace Code

variable {settings : Settings} {indent : String} {line : Line}

theorem isStatements_of_phrase {text : String} (begins : Text.Begins text)
    (ends : text.toList.getLast? = some ')') : Text.isStatements text.toList = true := by
  rcases begins with ⟨first, rest, spelled, plain⟩
  have uncommented : first ≠ '#' := Text.ne_of_isPlain plain (by decide)
  have unfilled : text.toList ≠ "pass".toList := by
    intro same
    rw [same] at ends
    cases ends
  simp only [Text.isStatements, ends, unfilled, bne_iff_ne, ne_eq, not_false_eq_true,
    Bool.and_eq_true]
  simp [spelled, uncommented]

/-- The printed line shows the statements on it, if there are any. -/
theorem Line.guard_unindented (indented : IsIndent indent) (phrased : line.Phrased settings) :
    Option.guard Text.isStatements ((line.print indent).toList.dropWhile Text.isBlank) =
      line.texts?.map fun texts => Text.joined (texts.map String.toList) := by
  have hidden {code : List Char} (refused : Text.isStatements code = false) :
      Option.guard Text.isStatements code = none := by
    simp [Option.guard, refused]
  cases line with
  | statements level texts =>
      rcases phrase_join phrased.1 phrased.2 with ⟨begins, ends, -⟩
      rw [print_statements, String.toList_append, dropWhile_margin indented,
        dropWhile_of_begins begins, Option.guard, isStatements_of_phrase begins ends,
        Text.toList_join]
      rfl
  | header level text =>
      rw [print_header, String.toList_append, dropWhile_margin indented,
        dropWhile_of_begins phrased.1.begins]
      exact hidden (by simp [Text.isStatements, phrased.1.ends])
  | filler level =>
      rw [print_filler, String.toList_append, dropWhile_margin indented]
      exact hidden (by decide)
  | trailer level name =>
      have solid : Text.isBlank '#' = false := by
        decide
      rw [print_trailer, String.toList_append, dropWhile_margin indented]
      exact hidden (by simp [Text.isStatements, Code.trailer, solid])
  | blank => rfl

/-- The lines of statements in the text of code are its lines with statements on them. -/
theorem statementLines_text {code : Code} (level : Int) (indented : IsIndent indent)
    (phrased : code.Phrased settings) :
    Text.statementLines (code.text indent level) =
      (lineTexts (code.lines level)).map fun texts => Text.joined (texts.map String.toList) := by
  rw [Text.statementLines, splitOn_text level indented phrased, ← List.filterMap_eq_filter,
    List.filterMap_map, List.filterMap_append, List.filterMap_map, lineTexts, List.map_filterMap]
  have printed : ∀ line ∈ code.lines level,
      Option.guard Text.isStatements ((line.print indent).toList.dropWhile Text.isBlank) =
        line.texts?.map fun texts => Text.joined (texts.map String.toList) :=
    fun line member => line.guard_unindented indented (every_of_mem_lines phrased member)
  rw [← List.filterMap_congr printed]
  exact List.append_nil _

theorem phrases_of_mem_lineTexts {code : Code} {level : Int} {texts : List String}
    (phrased : code.Phrased settings) (member : texts ∈ lineTexts (code.lines level)) :
    texts ≠ [] ∧ ∀ text ∈ texts, Phrase ')' text := by
  rcases List.mem_filterMap.mp member with ⟨line, inLines, shown⟩
  have every : line.Phrased settings := every_of_mem_lines phrased inLines
  cases line with
  | statements level others =>
      cases shown
      exact every
  | header level text => cases shown
  | filler level => cases shown
  | trailer level name => cases shown
  | blank => cases shown

theorem reads_of_phrases {texts : List String}
    (some : texts ≠ []) (phrases : ∀ text ∈ texts, Phrase ')' text) :
    Text.Reads (Text.joined (texts.map String.toList)) (texts.map String.toList) where
  some := by
    simpa using some
  single := by
    intro statement member
    rcases List.mem_map.mp member with ⟨text, inTexts, rfl⟩
    exact (phrases text inTexts).unbroken.single
  joins := rfl

end Code

/-! ## Full runs -/

namespace Compiler

variable {compiler : Compiler} {dataType : DataType} {source text indent : String}
  {level : Int} {position : Position} {after : Run}

/-- A full run over a text writes the code of the section tree of its tokens. -/
theorem exists_tree_of_full_runText
    (full : compiler.variant = .full)
    (done : compiler.runText source text (.start dataType (.fresh indent level)) =
      .ok position after) :
    ∃ (tree : SectionTree) (code : Code),
      (scan source text).tokens.map Token.mark = tree.marks ∧
        tree.Names (fun name => Lexer.isName name.toList = true) ∧
          tree.code? compiler.catalog compiler.settings (.root dataType) = some code ∧
            after.sink.value = code.text indent level := by
  rcases exists_code_of_run (by rw [full]; rfl) (ignores_of_full full _) done with
    ⟨tree, code, marked, resolved, laidOut⟩
  rw [template_of_runText done] at marked
  refine ⟨tree, code, marked, SectionTree.isName_of_scan (fun _ => id) marked, resolved, ?_⟩
  rw [laidOut,
    Sink.value_finish_laidOut code indent level (SectionTree.solid_of_code? resolved)]

/--
The literals in the code of a full run are the literal tokens of the template.
Every line of statements is read as statements in one way, so that no literal is
left open at its end, and no control character stands in a statement.  The
literals that the statements write are the values of the literal tokens in their
order, and in a template without tags they make up the template.
-/
theorem literals_of_full_runText
    (accepted : compiler.settings.Accepted) (full : compiler.variant = .full)
    (indented : Code.IsIndent indent)
    (done : compiler.runText source text (.start dataType (.fresh indent level)) =
      .ok position after) :
    ∃ lexed : List (List (List Char)),
      List.Forall₂
          (fun line statements =>
            Text.statements? line = some statements ∧
              ∀ others, Text.Reads line others ↔ others = statements)
          (Text.statementLines after.sink.value) lexed ∧
        (∀ statement ∈ lexed.flatten, ∀ char ∈ statement, Text.isControl char = false) ∧
          lexed.flatten.filterMap (Text.literalValue? compiler.settings.writerName) =
              ((scan source text).tokens.filter Token.isLiteral).map (·.value.toList) ∧
            (¬ ['\x7b', '\x7b'] <:+: text.toList →
              (lexed.flatten.filterMap
                (Text.literalValue? compiler.settings.writerName)).flatten = text.toList) := by
  rcases exists_tree_of_full_runText full done with
    ⟨tree, code, marked, named, resolved, written⟩
  have phrased := SectionTree.phrased_of_code? accepted named resolved
  have root : Plain ((Scope.root dataType).bound.expression compiler.settings) :=
    Reference.plain_ofVariable accepted .data dataType
  have values :
      ((Code.lineTexts (code.lines level)).map (·.map String.toList)).flatten.filterMap
          (Text.literalValue? compiler.settings.writerName) =
        ((scan source text).tokens.filter Token.isLiteral).map (·.value.toList) := by
    rw [← List.map_flatten, Code.flatten_lines, List.filterMap_map]
    rw [show (Text.literalValue? compiler.settings.writerName ∘ String.toList) =
      (Text.literalValue? compiler.settings.writerName ·.toList) from rfl]
    rw [SectionTree.literalValue?_statements accepted root named resolved,
      SectionTree.literals_of_marked marked, List.map_map]
    rfl
  refine ⟨(Code.lineTexts (code.lines level)).map (·.map String.toList), ?_, ?_, values, ?_⟩
  · rw [written, Code.statementLines_text level indented phrased,
      List.forall₂_map_left_iff, List.forall₂_map_right_iff, List.forall₂_same]
    intro texts member
    rcases Code.phrases_of_mem_lineTexts phrased member with ⟨some, phrases⟩
    have reads := Code.reads_of_phrases some phrases
    refine ⟨Text.statements?_of_reads reads, fun others => ⟨fun otherReads => ?_, ?_⟩⟩
    · exact Text.joined_injective reads.some reads.single otherReads.some otherReads.single
        otherReads.joins
    · rintro rfl
      exact reads
  · intro statement member char inStatement
    rw [← List.map_flatten] at member
    rcases List.mem_map.mp member with ⟨text, inTexts, rfl⟩
    rcases List.mem_flatten.mp inTexts with ⟨texts, inLines, inLine⟩
    have phrase := (Code.phrases_of_mem_lineTexts phrased inLines).2 text inLine
    exact phrase.unbroken.isControl_of_mem inStatement
  · intro tagless
    rw [values, ← List.flatMap_def, flatten_literals_of_not_infix tagless]

/-- A template whose literal text looks like code. -/
def trickyText : String :=
  "\"); x(\"\\\\n\x7b\x7btitle\x7d\x7d; \t\x7f\n\\"

theorem literals_of_full_runText_trickyText :
    ∃ position after,
      pages.settings.Accepted ∧ pages.variant = .full ∧ Code.IsIndent " \t" ∧
        pages.runText "page" trickyText (.start page (.fresh " \t" 2)) = .ok position after ∧
          ∃ lexed : List (List (List Char)),
            List.Forall₂
                (fun line statements =>
                  Text.statements? line = some statements ∧
                    ∀ others, Text.Reads line others ↔ others = statements)
                (Text.statementLines after.sink.value) lexed ∧
              (∀ statement ∈ lexed.flatten, ∀ char ∈ statement, Text.isControl char = false) ∧
                lexed.flatten.filterMap (Text.literalValue? pages.settings.writerName) =
                    ((scan "page" trickyText).tokens.filter Token.isLiteral).map
                      (·.value.toList) ∧
                  (¬ ['\x7b', '\x7b'] <:+: trickyText.toList →
                    (lexed.flatten.filterMap
                      (Text.literalValue? pages.settings.writerName)).flatten =
                        trickyText.toList) := by
  rcases Run.exists_of_report
      (show (Run.report (pages.runText "page" trickyText
        (.start page (.fresh " \t" 2)))).isOk = true by decide +kernel) with
    ⟨position, after, done⟩
  have accepted : pages.settings.Accepted := ⟨[], rfl⟩
  have indented : Code.IsIndent " \t" := by
    simp [Code.IsIndent]
  exact ⟨position, after, accepted, rfl, indented, done,
    literals_of_full_runText accepted rfl indented done⟩

end Compiler

end TypedMustache
