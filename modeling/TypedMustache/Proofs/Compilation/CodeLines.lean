import TypedMustache.Proofs.Compilation.CodeText
import TypedMustache.Proofs.Scope.Phrase
import TypedMustache.Proofs.Token.Pieces

/-!
# The lines of the generated code

The text of code is cut at its line breaks into the lines it was made of: no
statement, header or name has a line break in it.  So properties of the text can
be read off the lines of a code tree.
-/

namespace TypedMustache

open Text (Begins Plain)

/-! ## Cutting a text at its line breaks -/

namespace Text

theorem splitOn_append_separator {separator : Char} {front : List Char} (rest : List Char)
    (whole : separator ∉ front) :
    splitOn separator (front ++ separator :: rest) = front :: splitOn separator rest := by
  rw [splitOn_append, splitOn_of_not_mem whole]
  rfl

/-- Lines that were each ended by a line break, and the empty rest behind the last one. -/
theorem splitOn_join_lines {lines : List String}
    (whole : ∀ line ∈ lines, '\n' ∉ line.toList) :
    splitOn '\n' (String.join (lines.map (· ++ "\n"))).toList =
      lines.map String.toList ++ [[]] := by
  rw [String.toList_join]
  induction lines with
  | nil => rfl
  | cons line others ih =>
      have later := ih fun other member => whole other (List.mem_cons_of_mem line member)
      have first := whole line List.mem_cons_self
      have ended : "\n".toList = ['\n'] := by
        decide
      simp only [List.map_cons, List.flatMap_cons, String.toList_append, List.append_assoc, ended,
        List.singleton_append]
      rw [splitOn_append_separator _ first, later]
      rfl

theorem mem_of_mem_repeated {text : String} {count : Nat} {char : Char}
    (member : char ∈ (repeated text count).toList) : char ∈ text.toList := by
  induction count with
  | zero => cases member
  | succ count ih =>
      rw [repeated, String.toList_append, List.mem_append] at member
      rcases member with first | later
      · exact first
      · exact ih later

end Text

/-- A run over a text that succeeds has met all tokens of the text. -/
theorem Compiler.template_of_runText
    {compiler : Compiler} {source text : String} {start after : Run} {position : Position}
    (done : compiler.runText source text start = .ok position after) :
    (scan source text).stream.template = (scan source text).tokens := by
  rcases accepts_of_run done with ⟨token, instructions, written, ended, -, -, -⟩
  have complete : (scan source text).fault = none :=
    Scan.fault_of_ending (fun _ => kind_of_mem_scan) ended
  exact Scan.template_stream complete fun _ => kind_of_mem_scan

/-! ## Lines made of phrases -/

/-- Phrases on one line begin and end as one phrase does. -/
theorem phrase_join {final : Char} {texts : List String} (some : texts ≠ [])
    (phrases : ∀ text ∈ texts, Phrase final text) :
    Begins (Text.join "; " texts) ∧ (Text.join "; " texts).toList.getLast? = .some final ∧
      ∀ char ∈ (Text.join "; " texts).toList, Text.isControl char = false := by
  induction texts with
  | nil => exact absurd rfl some
  | cons text rest ih =>
      have first := phrases text List.mem_cons_self
      cases rest with
      | nil => exact ⟨first.begins, first.ends, fun char => first.unbroken.isControl_of_mem⟩
      | cons next others =>
          rcases ih (List.cons_ne_nil next others)
              (fun other member => phrases other (List.mem_cons_of_mem text member)) with
            ⟨-, ends, uncontrolled⟩
          rw [Text.join_cons_cons]
          refine ⟨(first.begins.append _).append _, ends_append _ ends, ?_⟩
          intro char member
          rw [String.toList_append, String.toList_append, List.mem_append, List.mem_append]
            at member
          rcases member with (inFirst | inSeparator) | later
          · exact first.unbroken.isControl_of_mem inFirst
          · have separator : char = ';' ∨ char = ' ' := by
              simpa using inSeparator
            rcases separator with rfl | rfl <;> decide
          · exact uncontrolled char later

namespace Code

/-- A header that is the phrase of a section. -/
def IsSectionHeader (settings : Settings) (header : String) : Prop :=
  Phrase ':' header ∧ ∃ opened : Section, header = opened.header settings

/-- Code that is made of calls and of the headers of sections. -/
def Phrased (settings : Settings) (code : Code) : Prop :=
  code.Every (Phrase ')') (IsSectionHeader settings) Plain

/-- A line that is made of calls, or is the header of a section. -/
def Line.Phrased (settings : Settings) (line : Line) : Prop :=
  line.Every (Phrase ')') (IsSectionHeader settings) Plain

end Code

namespace SectionTree

theorem names_of_marks {onName : String → Prop} {tree : SectionTree}
    (named : ∀ mark ∈ tree.marks, Lexer.isTagKind mark.1 = true → onName mark.2) :
    tree.Names onName := by
  induction tree with
  | nil => trivial
  | literal special text rest ih =>
      exact ih fun mark member => named mark (List.mem_cons_of_mem _ member)
  | reference escaped name rest ih =>
      constructor
      · exact named _ List.mem_cons_self (by cases escaped <;> rfl)
      · exact ih fun mark member => named mark (List.mem_cons_of_mem _ member)
  | block inverted name body rest bodyIH restIH =>
      refine ⟨?_, bodyIH fun mark member => ?_, restIH fun mark member => ?_⟩
      · exact named _ List.mem_cons_self (by cases inverted <;> rfl)
      · exact named mark (by simp [marks, member])
      · exact named mark (by simp [marks, member])

/-- The names in the tree of a text are names. -/
theorem isName_of_scan {tree : SectionTree} {source text : String} {tokens : List Token}
    (scanned : ∀ token ∈ tokens, token ∈ (scan source text).tokens)
    (marked : tokens.map Token.mark = tree.marks) :
    tree.Names fun name => Lexer.isName name.toList = true := by
  apply names_of_marks
  intro mark member isTag
  rw [← marked] at member
  rcases List.mem_map.mp member with ⟨token, inTokens, rfl⟩
  rcases form_of_mem_scan (scanned token inTokens) with kind | kind | ⟨-, named⟩
  · simp [Token.mark, kind, Lexer.isTagKind] at isTag
  · simp [Token.mark, kind, Lexer.isTagKind] at isTag
  · exact named

/-- The code of a tree consists of phrases. -/
theorem phrased_of_code?
    {catalog : Catalog} {settings : Settings} {dataType : DataType}
    {tree : SectionTree} {code : Code}
    (accepted : settings.Accepted)
    (named : tree.Names fun name => Lexer.isName name.toList = true)
    (resolved : tree.code? catalog settings (.root dataType) = some code) :
    code.Phrased settings := by
  have root : Plain ((Scope.root dataType).bound.expression settings) :=
    Reference.plain_ofVariable accepted .data dataType
  apply every_of_code? (fun scope => Plain (scope.bound.expression settings))
    (Settings.phrase_literalStatement accepted) _ _ root named resolved
  · intro scope entered name escaped plain isName done
    exact Reference.phrase_statement accepted catalog
      (Scope.plain_of_enter accepted plain isName done).1
  · intro scope entered name inverted plain isName done
    rcases Scope.plain_of_enter accepted plain isName done with ⟨plainSubject, plainBound⟩
    refine ⟨?_, Lexer.plain_of_isName isName, plainBound⟩
    rcases Scope.enter_eq_ok_iff.mp done with ⟨subject, shape, inner, -, -, rfl⟩
    rw [Scope.bound_opened] at plainBound
    exact ⟨Section.phrase_header plainSubject plainBound, _, rfl⟩

end SectionTree

namespace Code

/-- An indentation of spaces and tabs. -/
def IsIndent (indent : String) : Prop :=
  ∀ char ∈ indent.toList, char = ' ' ∨ char = '\t'

theorem newline_not_mem_of_isIndent {indent : String} (indented : IsIndent indent) :
    '\n' ∉ indent.toList := by
  intro member
  have isSpace := indented '\n' member
  revert isSpace
  decide

theorem isBlank_of_mem_repeated {indent : String} {count : Nat} {char : Char}
    (indented : IsIndent indent) (member : char ∈ (Text.repeated indent count).toList) :
    Text.isBlank char = true := by
  rcases indented char (Text.mem_of_mem_repeated member) with rfl | rfl <;> decide

theorem dropWhile_margin {indent : String} (indented : IsIndent indent) (level : Int)
    (code : List Char) :
    ((margin indent level).toList ++ code).dropWhile Text.isBlank =
      code.dropWhile Text.isBlank :=
  List.dropWhile_append_of_pos fun _ => isBlank_of_mem_repeated indented

theorem dropWhile_of_begins {text : String} (begins : Text.Begins text) :
    text.toList.dropWhile Text.isBlank = text.toList := by
  rcases begins with ⟨first, rest, spelled, plain⟩
  rw [spelled, List.dropWhile_cons_of_neg (by simp [Text.isBlank_of_isPlain plain])]

theorem newline_not_mem_of_uncontrolled {text : List Char}
    (uncontrolled : ∀ char ∈ text, Text.isControl char = false) : '\n' ∉ text := by
  intro member
  cases uncontrolled '\n' member

/-- A line has a line break in it only if its indentation has. -/
theorem Line.newline_not_mem_print {settings : Settings} {indent : String} {line : Line}
    (whole : '\n' ∉ indent.toList) (phrased : line.Phrased settings) :
    '\n' ∉ (line.print indent).toList := by
  have outside (level : Int) : '\n' ∉ (margin indent level).toList :=
    fun member => whole (Text.mem_of_mem_repeated member)
  cases line with
  | statements level texts =>
      rcases phrase_join phrased.1 phrased.2 with ⟨-, -, uncontrolled⟩
      have inside := newline_not_mem_of_uncontrolled uncontrolled
      simp [outside, inside]
  | header level text =>
      have inside := newline_not_mem_of_uncontrolled
        fun _ => phrased.1.unbroken.isControl_of_mem
      simp [outside, inside]
  | filler level => simp [outside]
  | trailer level name =>
      have inside := newline_not_mem_of_uncontrolled fun char member =>
        Text.isControl_of_isPlain (List.all_eq_true.mp phrased.chars char member)
      simp [outside, inside, Code.trailer]
  | blank => simp

/-- The text of code is cut at its line breaks into its lines. -/
theorem splitOn_text {settings : Settings} {indent : String} {code : Code} (level : Int)
    (indented : IsIndent indent) (phrased : code.Phrased settings) :
    Text.splitOn '\n' (code.text indent level).toList =
      (code.lines level).map (fun line => (line.print indent).toList) ++ [[]] := by
  have whole : ∀ line ∈ (code.lines level).map (Line.print indent), '\n' ∉ line.toList := by
    intro printed member
    rcases List.mem_map.mp member with ⟨line, inLines, rfl⟩
    exact Line.newline_not_mem_print (newline_not_mem_of_isIndent indented)
      (every_of_mem_lines phrased inLines)
  have cut := Text.splitOn_join_lines whole
  rw [List.map_map, List.map_map] at cut
  exact cut

end Code

end TypedMustache
