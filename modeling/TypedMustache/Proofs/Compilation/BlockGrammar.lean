import Mathlib.Data.List.Chain
import TypedMustache.Proofs.Compilation.CodeLines
import TypedMustache.Proofs.Compilation.YieldSplit

/-!
# The blocks of the generated code

The generated code follows the block grammar of its language.  Apart from blank
lines and comments, a line that opens a block is followed by a line one level
deeper, and any other line by one that is not deeper.  So no block is empty.

A `Suite` is a sequence of lines with this property that starts at a level and
does not fall below it.  Suites at one level can be put behind each other, and a
header in front of a suite one level deeper makes a suite.  The lines of a code
tree are built up in this way.
-/

namespace TypedMustache

/-! ## Suites -/

/-- A line of code: how deep it is indented, and what stands behind the indentation. -/
structure CodeLine where
  level : Nat
  code : List Char
deriving DecidableEq, Repr

namespace CodeLine

/-- The characters of a line. -/
def print (indent : String) (line : CodeLine) : List Char :=
  (Text.repeated indent line.level).toList ++ line.code

/-- Whether a line is the header of a block. -/
def opensBlock (line : CodeLine) : Bool :=
  line.code.getLast? == some ':'

/-- A header goes before a line one level deeper, and any other line before one not deeper. -/
def Precedes (line next : CodeLine) : Prop :=
  if line.opensBlock then next.level = line.level + 1 else next.level ≤ line.level

end CodeLine

/-- Lines of which the first one is at a level, none is above it, and every block has a body. -/
structure Suite (level : Nat) (lines : List CodeLine) : Prop where
  first : ∀ line ∈ lines.head?, line.level = level
  deep : ∀ line ∈ lines, level ≤ line.level
  chained : lines.IsChain CodeLine.Precedes
  last : ∀ line ∈ lines.getLast?, line.opensBlock = false

namespace Suite

theorem nil (level : Nat) : Suite level [] where
  first := by simp
  deep := by simp
  chained := List.IsChain.nil
  last := by simp

theorem single {line : CodeLine} (flat : line.opensBlock = false) :
    Suite line.level [line] where
  first := by simp
  deep := by simp
  chained := List.IsChain.singleton line
  last := by simpa using flat

theorem append {level : Nat} {front back : List CodeLine}
    (suiteFront : Suite level front) (suiteBack : Suite level back) :
    Suite level (front ++ back) where
  first := by
    intro line member
    cases front with
    | nil => exact suiteBack.first line member
    | cons next others => exact suiteFront.first line member
  deep := by
    intro line member
    rcases List.mem_append.mp member with inFront | inBack
    · exact suiteFront.deep line inFront
    · exact suiteBack.deep line inBack
  chained := by
    apply suiteFront.chained.append suiteBack.chained
    intro line isLast next isFirst
    have flat := suiteFront.last line isLast
    have deep := suiteFront.deep line (List.mem_of_mem_getLast? isLast)
    rw [CodeLine.Precedes, flat, suiteBack.first next isFirst]
    exact deep
  last := by
    intro line isLast
    cases back with
    | nil =>
        rw [List.append_nil] at isLast
        exact suiteFront.last line isLast
    | cons next others =>
        rw [List.getLast?_append_of_ne_nil _ (List.cons_ne_nil next others)] at isLast
        exact suiteBack.last line isLast

/-- A header with the suite below it. -/
theorem block {header : CodeLine} {body : List CodeLine}
    (opens : header.opensBlock = true) (suiteBody : Suite (header.level + 1) body)
    (some : body ≠ []) : Suite header.level (header :: body) where
  first := by simp
  deep := by
    intro line member
    rcases List.mem_cons.mp member with rfl | inBody
    · exact Nat.le_refl line.level
    · have deep := suiteBody.deep line inBody
      omega
  chained := by
    apply suiteBody.chained.cons
    intro next isFirst
    rw [CodeLine.Precedes, opens]
    exact suiteBody.first next isFirst
  last := by
    intro line isLast
    rw [List.getLast?_cons_of_ne_nil some] at isLast
    exact suiteBody.last line isLast

end Suite

namespace CodeLine

theorem length_repeated (text : String) (count : Nat) :
    (Text.repeated text count).toList.length = count * text.toList.length := by
  induction count with
  | zero => simp [Text.repeated]
  | succ count ih =>
      rw [Text.repeated, String.toList_append, List.length_append, ih, Nat.succ_mul, Nat.add_comm]

/-- The characters of a line determine its level and its code. -/
theorem print_inj {indent : String} {line other : CodeLine}
    (solid : indent ≠ "") (indented : Code.IsIndent indent)
    (begins : ∃ first ∈ line.code.head?, Text.isBlank first = false)
    (otherBegins : ∃ first ∈ other.code.head?, Text.isBlank first = false)
    (same : line.print indent = other.print indent) : line = other := by
  have blanks (count : Nat) : ∀ char ∈ (Text.repeated indent count).toList,
      Text.isBlank char = true :=
    fun _ => Code.isBlank_of_mem_repeated indented
  have whole (code : List Char) (begins : ∃ first ∈ code.head?, Text.isBlank first = false) :
      code.dropWhile Text.isBlank = code := by
    rcases begins with ⟨first, isHead, solid⟩
    cases code with
    | nil => cases isHead
    | cons head rest =>
        cases isHead
        rw [List.dropWhile_cons_of_neg (by simp [solid])]
  have sameCode : line.code = other.code := by
    have dropped := congrArg (List.dropWhile Text.isBlank) same
    simp only [print] at dropped
    rw [List.dropWhile_append_of_pos (blanks _), List.dropWhile_append_of_pos (blanks _),
      whole _ begins, whole _ otherBegins] at dropped
    exact dropped
  have sameLevel : line.level = other.level := by
    have sized := congrArg List.length same
    simp only [print, List.length_append, length_repeated, sameCode,
      Nat.add_right_cancel_iff] at sized
    have wide : 0 < indent.toList.length := by
      rw [List.length_pos_iff]
      intro empty
      exact solid (String.toList_eq_nil_iff.mp empty)
    exact Nat.eq_of_mul_eq_mul_right wide sized
  cases line
  cases other
  simp_all

theorem map_print_inj {indent : String} {lines others : List CodeLine}
    (solid : indent ≠ "") (indented : Code.IsIndent indent)
    (begins : ∀ line ∈ lines, ∃ first ∈ line.code.head?, Text.isBlank first = false)
    (otherBegins : ∀ line ∈ others, ∃ first ∈ line.code.head?, Text.isBlank first = false)
    (same : lines.map (print indent) = others.map (print indent)) : lines = others := by
  induction lines generalizing others with
  | nil => exact (List.map_eq_nil_iff.mp same.symm).symm
  | cons line rest ih =>
      rcases List.map_eq_cons_iff.mp same.symm with ⟨other, otherRest, rfl, sameFirst, sameRest⟩
      rw [print_inj solid indented (begins line (by simp)) (otherBegins other (by simp))
        sameFirst.symm]
      rw [ih (fun next member => begins next (by simp [member]))
        (fun next member => otherBegins next (by simp [member])) sameRest.symm]

end CodeLine

/-! ## Lines of code trees -/

namespace Code

/-- The code on a line, unless the line is blank or a comment. -/
def Line.codeLine? : Line → Option CodeLine
  | statements level texts =>
      some { level := level.toNat, code := (Text.join "; " texts).toList }
  | header level text => some { level := level.toNat, code := text.toList }
  | filler level => some { level := level.toNat, code := "pass".toList }
  | trailer _ _ => none
  | blank => none

/-- The code on lines. -/
def codeLines (lines : List Line) : List CodeLine :=
  lines.filterMap Line.codeLine?

theorem codeLines_append (front back : List Line) :
    codeLines (front ++ back) = codeLines front ++ codeLines back :=
  List.filterMap_append

/-- The lines below the header of a block. -/
def bodyLines (level : Int) (body : Code) : List Line :=
  (body.layout level []).1 ++ endedLine level (body.layout level []).2 ++
    (if body.isNil then [.filler level] else [])

theorem layout_block (level : Int) (pending : List String) (header name : String)
    (body rest : Code) :
    (layout level pending (.block header name body rest)).1 =
      endedLine level pending ++ [.header level header] ++ bodyLines (level + 1) body ++
        [.trailer level name] ++ (layout level [] rest).1 := rfl

variable {settings : Settings} {code : Code} {level : Int} {pending texts : List String}

theorem suite_statements (some : texts ≠ []) (phrases : ∀ text ∈ texts, Phrase ')' text) :
    Suite level.toNat (codeLines [.statements level texts]) := by
  rcases phrase_join some phrases with ⟨-, ends, -⟩
  have flat :
      CodeLine.opensBlock
        { level := level.toNat, code := (Text.join "; " texts).toList } = false := by
    simp [CodeLine.opensBlock, ends]
  exact Suite.single flat

theorem suite_endedLine (phrases : ∀ text ∈ pending, Phrase ')' text) :
    Suite level.toNat (codeLines (endedLine level pending)) := by
  unfold endedLine
  split
  · exact Suite.nil level.toNat
  · rename_i some
    exact suite_statements (by simpa using some) phrases

/-- Statements that are pending end up on some line. -/
theorem exists_line_of_pending (code : Code) (level : Int) {pending : List String}
    (some : pending ≠ []) :
    ∃ texts, .statements level texts ∈
      (code.layout level pending).1 ++ endedLine level (code.layout level pending).2 := by
  induction code generalizing pending with
  | nil => exact ⟨pending, by simp [layout, endedLine, some]⟩
  | statement text endsLine rest ih =>
      cases endsLine with
      | true => exact ⟨pending ++ [text], by simp [layout]⟩
      | false => exact ih (by simp)
  | block header name body rest bodyIH restIH =>
      exact ⟨pending, by simp [layout, endedLine, some]⟩

/-- A block has a line of code below its header. -/
theorem codeLines_bodyLines_ne_nil (level : Int) (body : Code) :
    codeLines (bodyLines level body) ≠ [] := by
  have visible (line : Line) (shown : line.codeLine?.isSome = true)
      (member : line ∈ bodyLines level body) : codeLines (bodyLines level body) ≠ [] := by
    rcases Option.isSome_iff_exists.mp shown with ⟨codeLine, printed⟩
    exact List.ne_nil_of_mem (List.mem_filterMap.mpr ⟨line, member, printed⟩)
  cases body with
  | nil => exact visible (.filler level) rfl (by simp [bodyLines, isNil])
  | statement text endsLine rest =>
      cases endsLine with
      | true => exact visible (.statements level [text]) rfl (by simp [bodyLines, layout])
      | false =>
          rcases exists_line_of_pending rest level (List.cons_ne_nil text []) with ⟨texts, member⟩
          exact visible (.statements level texts) rfl (List.mem_append_left _ member)
  | block header name body rest =>
      exact visible (.header level header) rfl (by simp [bodyLines, layout])

theorem suite_bodyLines {body : Code}
    (finished : Suite level.toNat (codeLines (body.layout level []).1))
    (phrased : body.Phrased settings) : Suite level.toNat (codeLines (bodyLines level body)) := by
  rw [bodyLines, codeLines_append, codeLines_append]
  apply (finished.append (suite_endedLine (every_of_layout level [] (by simp) phrased).2)).append
  split
  · have flat :
        CodeLine.opensBlock { level := level.toNat, code := "pass".toList } = false := by
      simp [CodeLine.opensBlock]
    exact Suite.single flat
  · exact Suite.nil level.toNat

/-- The finished lines of code make a suite. -/
theorem suite_layout (nonneg : 0 ≤ level)
    (phrases : ∀ text ∈ pending, Phrase ')' text) (phrased : code.Phrased settings) :
    Suite level.toNat (codeLines (code.layout level pending).1) := by
  -- Pending statements are no lines yet, so all that is known of them is how they are phrased.
  induction code generalizing level pending with
  | nil => exact Suite.nil level.toNat
  | statement text endsLine rest ih =>
      have more : ∀ other ∈ pending ++ [text], Phrase ')' other := by
        intro other member
        rcases List.mem_append.mp member with old | new
        · exact phrases other old
        · rw [List.mem_singleton.mp new]
          exact phrased.1
      cases endsLine with
      | true =>
          have line : Suite level.toNat (codeLines [.statements level (pending ++ [text])]) :=
            suite_statements (by simp) more
          exact line.append (ih nonneg (by simp) phrased.2)
      | false => exact ih nonneg more phrased.2
  | block header name body rest bodyIH restIH =>
      rcases phrased with ⟨⟨heading, -⟩, -, phrasedBody, phrasedRest⟩
      have deeper : (level + 1).toNat = level.toNat + 1 := by
        omega
      have inside : Suite (level.toNat + 1) (codeLines (bodyLines (level + 1) body)) := by
        rw [← deeper]
        exact suite_bodyLines (bodyIH (by omega) (by simp) phrasedBody) phrasedBody
      have opens :
          CodeLine.opensBlock { level := level.toNat, code := header.toList } = true := by
        simp [CodeLine.opensBlock, heading.ends]
      have headed :
          Suite level.toNat
            (codeLines ([.header level header] ++ bodyLines (level + 1) body)) :=
        Suite.block opens inside (codeLines_bodyLines_ne_nil (level + 1) body)
      have after : Suite level.toNat (codeLines (rest.layout level []).1) :=
        restIH nonneg (by simp) phrasedRest
      have shown :
          codeLines (layout level pending (.block header name body rest)).1 =
            codeLines (endedLine level pending) ++
              codeLines ([.header level header] ++ bodyLines (level + 1) body) ++
                codeLines (rest.layout level []).1 := by
        simp only [layout_block, codeLines_append, List.append_assoc]
        rfl
      rw [shown]
      exact ((suite_endedLine phrases).append headed).append after

/-- All lines of code make a suite. -/
theorem suite_lines (nonneg : 0 ≤ level) (phrased : code.Phrased settings) :
    Suite level.toNat (codeLines (code.lines level)) := by
  have last : ∀ text ∈ (code.layout level []).2, Phrase ')' text :=
    (every_of_layout level [] (by simp) phrased).2
  have finished : Suite level.toNat (codeLines (code.layout level []).1) :=
    suite_layout nonneg (by simp) phrased
  rw [lines, codeLines_append]
  apply finished.append
  unfold lastLine
  split
  · exact Suite.nil level.toNat
  · rename_i some
    exact suite_statements (by simpa using some) last

end Code

/-! ## Lines of a text -/

namespace Text

/-- Whether a line is neither blank nor the comment after a block. -/
def isSignificant (line : List Char) : Bool :=
  let code := line.dropWhile isBlank
  !code.isEmpty && !"# /".toList.isPrefixOf code

/-- The lines of a text that are neither blank nor comments. -/
def significantLines (text : String) : List (List Char) :=
  (splitOn '\n' text.toList).filter isSignificant

end Text

namespace Code

variable {settings : Settings} {indent : String} {line : Line}

theorem isSignificant_margin (indented : IsIndent indent) (level : Int) (code : List Char) :
    Text.isSignificant ((margin indent level).toList ++ code) = Text.isSignificant code := by
  simp only [Text.isSignificant, dropWhile_margin indented]

theorem isSignificant_of_begins {text : String} (begins : Text.Begins text) :
    Text.isSignificant text.toList = true := by
  rcases begins with ⟨first, rest, spelled, plain⟩
  have different : ('#' == first) = false := by
    simpa using (Text.ne_of_isPlain plain (by decide)).symm
  simp [Text.isSignificant, spelled, Text.isBlank_of_isPlain plain, List.isPrefixOf, different]

theorem guard_margin {text : String} (indented : IsIndent indent) (level : Int)
    (shown : Text.isSignificant text.toList = true) :
    Option.guard Text.isSignificant (margin indent level ++ text).toList =
      some (CodeLine.print indent { level := level.toNat, code := text.toList }) := by
  rw [String.toList_append, Option.guard, isSignificant_margin indented, shown]
  rfl

/-- The printed line shows the code on it, if there is any. -/
theorem Line.guard_print (indented : IsIndent indent) (phrased : line.Phrased settings) :
    Option.guard Text.isSignificant (line.print indent).toList =
      line.codeLine?.map (CodeLine.print indent) := by
  cases line with
  | statements level texts =>
      exact guard_margin indented level
        (isSignificant_of_begins (phrase_join phrased.1 phrased.2).1)
  | header level text =>
      exact guard_margin indented level (isSignificant_of_begins phrased.1.begins)
  | filler level => exact guard_margin indented level (by decide)
  | trailer level name =>
      have solid : Text.isBlank '#' = false := by
        decide
      have hidden : Text.isSignificant (Code.trailer name).toList = false := by
        simp [Text.isSignificant, Code.trailer, solid]
      rw [print_trailer, String.toList_append, Option.guard, isSignificant_margin indented, hidden]
      rfl
  | blank => rfl

theorem exists_head_of_begins {text : String} (begins : Text.Begins text) :
    ∃ first ∈ text.toList.head?, Text.isBlank first = false := by
  rcases begins with ⟨first, rest, spelled, plain⟩
  exact ⟨first, by simp [spelled], Text.isBlank_of_isPlain plain⟩

/-- The code on a line does not begin with white space, and only headers open blocks. -/
theorem Line.form_of_codeLine? {shown : CodeLine} (phrased : line.Phrased settings)
    (isCode : line.codeLine? = some shown) :
    (∃ first ∈ shown.code.head?, Text.isBlank first = false) ∧
      (shown.opensBlock = true →
        ∃ opened : Section, shown.code = (opened.header settings).toList) := by
  cases line with
  | statements level texts =>
      rcases phrase_join phrased.1 phrased.2 with ⟨begins, ends, -⟩
      cases isCode
      exact ⟨exists_head_of_begins begins, by simp [CodeLine.opensBlock, ends]⟩
  | header level text =>
      rcases phrased with ⟨phrase, opened, rfl⟩
      cases isCode
      exact ⟨exists_head_of_begins phrase.begins, fun _ => ⟨opened, rfl⟩⟩
  | filler level =>
      cases isCode
      exact ⟨⟨'p', by simp, by decide⟩, by simp [CodeLine.opensBlock]⟩
  | trailer level name => cases isCode
  | blank => cases isCode

/-- The significant lines of the text of code are the lines with code on them. -/
theorem significantLines_text {code : Code} (level : Int) (indented : IsIndent indent)
    (phrased : code.Phrased settings) :
    Text.significantLines (code.text indent level) =
      (codeLines (code.lines level)).map (CodeLine.print indent) := by
  rw [Text.significantLines, splitOn_text level indented phrased, ← List.filterMap_eq_filter,
    List.filterMap_append, List.filterMap_map, codeLines, List.map_filterMap]
  have printed : ∀ line ∈ code.lines level,
      (Option.guard Text.isSignificant ∘ fun line => (line.print indent).toList) line =
        line.codeLine?.map (CodeLine.print indent) :=
    fun line member => line.guard_print indented (every_of_mem_lines phrased member)
  rw [List.filterMap_congr printed]
  exact List.append_nil _

end Code

/-! ## Runs -/

namespace Compiler

variable {compiler : Compiler} {dataType : DataType} {source text indent : String}
  {position : Position} {after : Run}

/-- A run of any variant over a text writes code that is made of phrases. -/
theorem exists_phrased_of_runText
    (accepted : compiler.settings.Accepted) (isVariant : compiler.variant ∈ Variant.all)
    (done : compiler.runText source text (.start dataType (.fresh indent 1)) =
      .ok position after) :
    ∃ code : Code,
      code.Phrased compiler.settings ∧ after.sink.value = code.text indent 1 := by
  rcases exists_part_of_run isVariant done with
    ⟨tokens, tree, code, part, marked, resolved, laidOut⟩
  rw [template_of_runText done] at part
  have named := SectionTree.isName_of_scan (fun _ member => part member) marked
  refine ⟨code, SectionTree.phrased_of_code? accepted named resolved, ?_⟩
  rw [laidOut, Sink.value_finish_laidOut code indent 1 (SectionTree.solid_of_code? resolved)]

/--
The code that a run of any variant writes follows the block grammar.  There is
exactly one way to read its significant lines as copies of the indentation with
code behind them.  Read so, they make a suite at the first level, and those that
open a block are the headers of sections.
-/
theorem suite_of_runText
    (accepted : compiler.settings.Accepted) (isVariant : compiler.variant ∈ Variant.all)
    (solid : indent ≠ "") (indented : Code.IsIndent indent)
    (done : compiler.runText source text (.start dataType (.fresh indent 1)) =
      .ok position after) :
    ∃! lines : List CodeLine,
      Text.significantLines after.sink.value = lines.map (CodeLine.print indent) ∧
        Suite 1 lines ∧
          ∀ line ∈ lines,
            (∃ first ∈ line.code.head?, Text.isBlank first = false) ∧
              (line.opensBlock = true ↔
                ∃ opened : Section, line.code = (opened.header compiler.settings).toList) := by
  rcases exists_phrased_of_runText accepted isVariant done with ⟨code, phrased, written⟩
  have suite : Suite 1 (Code.codeLines (code.lines 1)) :=
    Code.suite_lines (by decide : (0 : Int) ≤ 1) phrased
  have shown := Code.significantLines_text 1 indented phrased
  have formed : ∀ line ∈ Code.codeLines (code.lines 1),
      (∃ first ∈ line.code.head?, Text.isBlank first = false) ∧
        (line.opensBlock = true ↔
          ∃ opened : Section, line.code = (opened.header compiler.settings).toList) := by
    intro line member
    rcases List.mem_filterMap.mp member with ⟨origin, inLines, isCode⟩
    rcases Code.Line.form_of_codeLine? (Code.every_of_mem_lines phrased inLines) isCode with
      ⟨begins, opens⟩
    refine ⟨begins, opens, ?_⟩
    rintro ⟨opened, spelled⟩
    rw [CodeLine.opensBlock, spelled, opened.ends_header compiler.settings]
    rfl
  rw [written]
  refine ⟨Code.codeLines (code.lines 1), ⟨shown, suite, formed⟩, ?_⟩
  rintro others ⟨otherShown, -, otherFormed⟩
  exact CodeLine.map_print_inj solid indented (fun line member => (otherFormed line member).1)
    (fun line member => (formed line member).1) (otherShown.symm.trans shown)

/-- The footer compiler for pages. -/
def pageFooters : Compiler :=
  { pages with variant := .footer }

/-- A layout with a section and an empty section in it after its yield marker. -/
def nestedLayout : String :=
  "a\x7b\x7b\x7byield\x7d\x7d\x7d\x7b\x7b#flag\x7d\x7d\x7b\x7b^title\x7d\x7d" ++
    "\x7b\x7b/title\x7d\x7d\x7b\x7b/flag\x7d\x7db"

theorem suite_of_runText_nestedLayout :
    ∃ position after,
      pageFooters.settings.Accepted ∧ pageFooters.variant ∈ Variant.all ∧
        Code.IsIndent "\t" ∧
          pageFooters.runText "page" nestedLayout (.start page (.fresh "\t" 1)) =
              .ok position after ∧
            ∃! lines : List CodeLine,
              Text.significantLines after.sink.value = lines.map (CodeLine.print "\t") ∧
                Suite 1 lines ∧
                  ∀ line ∈ lines,
                    (∃ first ∈ line.code.head?, Text.isBlank first = false) ∧
                      (line.opensBlock = true ↔
                        ∃ opened : Section,
                          line.code = (opened.header pageFooters.settings).toList) := by
  rcases Run.exists_of_report
      (show (Run.report (pageFooters.runText "page" nestedLayout
        (.start page (.fresh "\t" 1)))).isOk = true by decide +kernel) with
    ⟨position, after, done⟩
  have accepted : pageFooters.settings.Accepted := ⟨[], rfl⟩
  have isVariant : pageFooters.variant ∈ Variant.all := by
    decide
  have indented : Code.IsIndent "\t" := by
    simp [Code.IsIndent]
  exact ⟨position, after, accepted, isVariant, indented, done,
    suite_of_runText accepted isVariant (by decide) indented done⟩

end Compiler

end TypedMustache
