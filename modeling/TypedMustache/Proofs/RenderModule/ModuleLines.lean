import Mathlib.Data.List.DropRight
import TypedMustache.Proofs.RenderModule.DefinedNames

/-!
# The lines of a module

A module is put together from comments, imports and functions, and the code of the
fragments is spliced into it as text.  It can be taken apart again by its lines.

The lines that are not indented are the comments, the imports and one line for
each function.  What stands below the line of a function, up to the next one, is the
documentation of the function and the code of its fragment.  This rests on the
layout of generated code, of which every line is blank or indented.

Names of templates and data types are written as they are, so they must not break
lines.  `RenderModule.stray_line_of_brokenName` shows what a data type does whose
name does.
-/

namespace TypedMustache

open Text (OneLine)

/-! ## The lines of a text -/

namespace Text

/-- The lines of a text. -/
def linesOf (text : String) : List String :=
  splitString '\n' text

/-- A line feed separates the lines before it from those behind it. -/
theorem linesOf_append_lineBreak (front rest : String) :
    linesOf (front ++ "\n" ++ rest) = linesOf front ++ linesOf rest := by
  have broken : (front ++ "\n" ++ rest).toList = front.toList ++ '\n' :: rest.toList := by
    simp
  rw [linesOf, splitString, broken, splitOn_append, List.map_append]
  rfl

/-- A text on one line is its only line. -/
theorem linesOf_of_oneLine {text : String} (oneLine : OneLine text) : linesOf text = [text] := by
  rw [linesOf, splitString, splitOn_of_not_mem oneLine, List.map_singleton, String.ofList_toList]

theorem flatMap_linesOf_of_oneLine {texts : List String} (each : ∀ text ∈ texts, OneLine text) :
    texts.flatMap linesOf = texts := by
  calc
    texts.flatMap linesOf = texts.flatMap fun text => [text] :=
      List.flatMap_congr fun text member => linesOf_of_oneLine (each text member)
    _ = texts := List.flatMap_singleton' texts

/-- The lines of joined texts are those of each text, in turn. -/
theorem linesOf_join {texts : List String} (some : texts ≠ []) :
    linesOf (join "\n" texts) = texts.flatMap linesOf := by
  induction texts with
  | nil =>
      exact absurd rfl some
  | cons text rest ih =>
      cases rest with
      | nil =>
          simp
      | cons next others =>
          rw [join_cons_cons, linesOf_append_lineBreak, ih (List.cons_ne_nil next others)]
          rfl

/-- Without the line breaks at its end a text has fewer lines, and the same ones. -/
theorem linesOf_dropFinalNewlines_prefix (text : String) :
    linesOf (dropFinalNewlines text) <+: linesOf text := by
  rcases exists_breaks_of_dropFinalNewlines text with ⟨count, whole⟩
  rw [linesOf, linesOf, splitString, splitString, whole]
  cases count with
  | zero =>
      simp
  | succ count =>
      rw [List.replicate_succ, splitOn_append, List.map_append]
      exact List.prefix_append _ _

/-- A character other than the separator is added to the last part. -/
theorem exists_last_of_splitOn_concat {separator char : Char} (text : List Char)
    (other : char ≠ separator) :
    ∃ front last, splitOn separator text = front ++ [last] ∧
      splitOn separator (text ++ [char]) = front ++ [last ++ [char]] := by
  induction text with
  | nil =>
      exact ⟨[], [], rfl, by simp [splitOn, other]⟩
  | cons first rest ih =>
      rcases ih with ⟨front, last, before, after⟩
      rw [List.cons_append, splitOn, splitOn, before, after]
      split
      · exact ⟨[] :: front, last, rfl, rfl⟩
      · cases front with
        | nil =>
            exact ⟨[], first :: last, rfl, rfl⟩
        | cons part parts =>
            exact ⟨(first :: part) :: parts, last, rfl, rfl⟩

/-- The last line is not empty when line breaks at the end are dropped. -/
theorem exists_last_of_dropFinalNewlines {text : String} (solid : isBlankText text = false) :
    ∃ line, (linesOf (dropFinalNewlines text)).getLast? = some line ∧ line ≠ "" := by
  cases kept : text.toList.reverse.dropWhile (· == '\n') with
  | nil =>
      have breaks : ∀ char ∈ text.toList, isBlank char = true := by
        intro char member
        have isBreak := List.dropWhile_eq_nil_iff.mp kept char (List.mem_reverse.mpr member)
        rw [beq_iff_eq.mp isBreak]
        rfl
      rw [isBlankText, List.all_eq_true.mpr breaks] at solid
      cases solid
  | cons final rest =>
      have other : final ≠ '\n' := by
        have stops := List.head?_dropWhile_not (· == '\n') text.toList.reverse
        rw [kept] at stops
        exact beq_eq_false_iff_ne.mp (by simpa using stops)
      have spelled : (dropFinalNewlines text).toList = rest.reverse ++ [final] := by
        rw [dropFinalNewlines, String.toList_ofList, kept, List.reverse_cons]
      rcases exists_last_of_splitOn_concat rest.reverse other with ⟨front, last, -, split⟩
      refine ⟨String.ofList (last ++ [final]), ?_, ?_⟩
      · rw [linesOf, splitString, spelled, split, List.map_append, List.map_singleton,
          List.getLast?_append_of_ne_nil _ (List.cons_ne_nil _ _)]
        rfl
      · intro empty
        have characters := congrArg String.toList empty
        simp at characters

end Text

/-! ## Taking lines apart -/

namespace RenderModule

/-- Whether a line is neither empty nor indented. -/
def isTopLevel (line : String) : Bool :=
  match line.toList.head? with
  | none => false
  | some first => first != ' ' && first != '\t'

/-- Whether a line starts the definition of a function. -/
def isDefinition (line : String) : Bool :=
  "def ".toList.isPrefixOf line.toList

/--
The lines that start definitions, each with the lines below it up to the next one.
Blank lines at the end are left out.
-/
def definitions : List String → List (String × List String)
  | [] => []
  | line :: rest =>
    if isDefinition line then
      (line, (rest.takeWhile (!isDefinition ·)).rdropWhile Text.isBlankText) :: definitions rest
    else definitions rest

/-- Functions with a blank line before and behind each of them. -/
def spaced (functions : List (String × List String)) : List String :=
  functions.flatMap fun function => "" :: function.1 :: (function.2 ++ [""])

/-- The start of a definition, and indented lines of which the last one is not blank. -/
structure IsFunction (function : String × List String) : Prop where
  defines : isDefinition function.1 = true
  indented : ∀ line ∈ function.2, isTopLevel line = false
  ends : ∃ line, function.2.getLast? = some line ∧ Text.isBlankText line = false

/-- Definitions are at top level. -/
theorem isTopLevel_of_isDefinition {line : String} (defines : isDefinition line = true) :
    isTopLevel line = true := by
  rcases List.isPrefixOf_iff_prefix.mp defines with ⟨rest, spelled⟩
  rw [isTopLevel, ← spelled]
  rfl

/-- A line that does not begin with a blank is at top level. -/
theorem isTopLevel_of_head {first : Char} {line : String}
    (head : line.toList.head? = some first) (space : first ≠ ' ') (tab : first ≠ '\t') :
    isTopLevel line = true := by
  rw [isTopLevel, head]
  simp [space, tab]

/-- A line that does not begin like `def` is no definition. -/
theorem isDefinition_eq_false_of_head {first : Char} {line : String}
    (head : line.toList.head? = some first) (other : first ≠ 'd') : isDefinition line = false := by
  rw [Bool.eq_false_iff]
  intro defines
  rcases List.isPrefixOf_iff_prefix.mp defines with ⟨rest, spelled⟩
  rw [← spelled] at head
  exact other (Option.some.inj head).symm

theorem isDefinition_eq_false_of_isTopLevel {line : String} (inside : isTopLevel line = false) :
    isDefinition line = false := by
  rw [Bool.eq_false_iff]
  intro defines
  rw [isTopLevel_of_isDefinition defines] at inside
  cases inside

/-- Lines in front that define nothing do not change the definitions. -/
theorem definitions_append {front : List String} (rest : List String)
    (none : ∀ line ∈ front, isDefinition line = false) :
    definitions (front ++ rest) = definitions rest := by
  induction front with
  | nil =>
      rfl
  | cons line others ih =>
      rw [List.cons_append, definitions, none line List.mem_cons_self]
      exact ih fun other member => none other (List.mem_cons_of_mem line member)

/-- Between two functions there are blank lines only. -/
theorem isBlankText_of_mem_takeWhile_spaced {functions : List (String × List String)}
    {line : String} (sound : ∀ function ∈ functions, IsFunction function)
    (member : line ∈ (spaced functions).takeWhile (!isDefinition ·)) :
    Text.isBlankText line = true := by
  cases functions with
  | nil =>
      cases member
  | cons function rest =>
      have defines := (sound function List.mem_cons_self).defines
      have gap : (spaced (function :: rest)).takeWhile (!isDefinition ·) = [""] := by
        have blank : isDefinition "" = false := rfl
        simp [spaced, blank, defines]
      rw [gap, List.mem_singleton] at member
      rw [member]
      rfl

/-- Blank lines behind the last solid one are dropped, and no others. -/
theorem rdropWhile_append_of_blank {lines blanks : List String}
    (ends : ∃ line, lines.getLast? = some line ∧ Text.isBlankText line = false)
    (blank : ∀ line ∈ blanks, Text.isBlankText line = true) :
    (lines ++ blanks).rdropWhile Text.isBlankText = lines := by
  rcases ends with ⟨line, isLast, solid⟩
  rw [List.rdropWhile, List.reverse_append, List.dropWhile_append_of_pos]
  · rw [← List.head?_reverse] at isLast
    cases reversed : lines.reverse with
    | nil =>
        rw [reversed] at isLast
        cases isLast
    | cons final others =>
        rw [reversed, List.head?_cons, Option.some.injEq] at isLast
        rw [List.dropWhile_cons_of_neg (by simp [isLast, solid]), ← reversed,
          List.reverse_reverse]
  · intro other member
    exact blank other (List.mem_reverse.mp member)

/-- Functions can be read off the lines that they were written on. -/
theorem definitions_spaced {functions : List (String × List String)}
    (sound : ∀ function ∈ functions, IsFunction function) :
    definitions (spaced functions) = functions := by
  induction functions with
  | nil =>
      rfl
  | cons function rest ih =>
      have later : ∀ other ∈ rest, IsFunction other :=
        fun other member => sound other (List.mem_cons_of_mem function member)
      rcases sound function List.mem_cons_self with ⟨defines, indented, ends⟩
      have below : ∀ line ∈ function.2 ++ [""], isDefinition line = false := by
        intro line member
        rcases List.mem_append.mp member with inside | blank
        · exact isDefinition_eq_false_of_isTopLevel (indented line inside)
        · rw [List.mem_singleton.mp blank]
          rfl
      have written : spaced (function :: rest) =
          "" :: function.1 :: ((function.2 ++ [""]) ++ spaced rest) := rfl
      have blank : isDefinition "" = false := rfl
      rw [written, definitions, blank, if_neg Bool.false_ne_true, definitions, if_pos defines,
        definitions_append _ below, ih later, List.takeWhile_append_of_pos (by simpa using below),
        List.append_assoc, rdropWhile_append_of_blank ends]
      intro line member
      rcases List.mem_append.mp member with isBlank | between
      · rw [List.mem_singleton.mp isBlank]
        rfl
      · exact isBlankText_of_mem_takeWhile_spaced later between

/-- The only lines at top level are the signatures. -/
theorem filter_isTopLevel_spaced {functions : List (String × List String)}
    (sound : ∀ function ∈ functions, IsFunction function) :
    (spaced functions).filter isTopLevel = functions.map (·.1) := by
  induction functions with
  | nil =>
      rfl
  | cons function rest ih =>
      have later : ∀ other ∈ rest, IsFunction other :=
        fun other member => sound other (List.mem_cons_of_mem function member)
      rcases sound function List.mem_cons_self with ⟨defines, indented, -⟩
      have below : (function.2 ++ [""]).filter isTopLevel = [] := by
        rw [List.filter_eq_nil_iff]
        intro line member
        rcases List.mem_append.mp member with inside | blank
        · rw [indented line inside]
          exact Bool.false_ne_true
        · rw [List.mem_singleton.mp blank]
          exact Bool.false_ne_true
      have written : spaced (function :: rest) =
          "" :: function.1 :: ((function.2 ++ [""]) ++ spaced rest) := rfl
      have blank : isTopLevel "" = false := rfl
      rw [written, List.filter_cons_of_neg (by simp [blank]),
        List.filter_cons_of_pos (isTopLevel_of_isDefinition defines), List.filter_append, below,
        List.nil_append, ih later, List.map_cons]

end RenderModule

/-! ## Lines of generated code -/

namespace Code

/-- The level that a line is indented to. -/
def Line.level? : Line → Option Int
  | statements level _ | header level _ | filler level | trailer level _ => some level
  | blank => none

/-- The statements of a line are written at its level. -/
theorem level_of_mem_endedLine {line : Line} {level : Int} {pending : List String}
    (member : line ∈ endedLine level pending) : line.level? = some level := by
  unfold endedLine at member
  split at member
  · cases member
  · rw [List.mem_singleton.mp member]
    rfl

/-- Code that is laid out at a level has no line above it. -/
theorem level_le_of_mem_layout {code : Code} {level deep : Int} {pending : List String}
    {line : Line} (member : line ∈ (code.layout level pending).1)
    (placed : line.level? = some deep) : level ≤ deep := by
  induction code generalizing level pending with
  | nil =>
      cases member
  | statement text endsLine rest ih =>
      cases endsLine with
      | true =>
          rcases List.mem_cons.mp member with rfl | later
          · exact Int.le_of_eq (Option.some.inj placed)
          · exact ih later
      | false =>
          exact ih member
  | block header name body rest bodyIH restIH =>
      have here (same : line.level? = some level) : level ≤ deep := by
        rw [same, Option.some.injEq] at placed
        exact Int.le_of_eq placed
      have inside (same : line.level? = some (level + 1)) : level ≤ deep := by
        rw [same, Option.some.injEq] at placed
        omega
      simp only [layout, List.mem_append, List.mem_singleton] at member
      rcases member with (((ended | rfl) | (within | insideEnded) | filled) | rfl) | later
      · exact here (level_of_mem_endedLine ended)
      · exact here rfl
      · have deeper := bodyIH within
        omega
      · exact inside (level_of_mem_endedLine insideEnded)
      · split at filled
        · rw [List.mem_singleton.mp filled] at inside
          exact inside rfl
        · cases filled
      · exact here rfl
      · exact restIH later

/-- Code has no line above its own level. -/
theorem level_le_of_mem_lines {code : Code} {level deep : Int} {line : Line}
    (member : line ∈ code.lines level) (placed : line.level? = some deep) : level ≤ deep := by
  rcases List.mem_append.mp member with earlier | ending
  · exact level_le_of_mem_layout earlier placed
  · rw [List.mem_singleton.mp ending] at placed
    unfold lastLine at placed
    split at placed
    · cases placed
    · exact Int.le_of_eq (Option.some.inj placed)

/-- The margin of a line inside a function begins with the indentation. -/
theorem margin_eq_append {indent : String} {level : Int} (deep : 1 ≤ level) :
    margin indent level = indent ++ Text.repeated indent (level.toNat - 1) := by
  rw [margin, ← Text.repeated, Nat.succ_eq_add_one, Nat.sub_add_cancel (by omega)]

/-- A line is blank, or a text that begins with something solid stands behind its margin. -/
theorem Line.print_cases {settings : Settings} {line : Line} (indent : String)
    (phrased : line.Phrased settings) :
    line.print indent = "" ∨
      ∃ level text first rest, line.level? = some level ∧
        line.print indent = margin indent level ++ text ∧
          text.toList = first :: rest ∧ Text.isBlank first = false := by
  have solid {text : String} (begins : Text.Begins text) :
      ∃ first rest, text.toList = first :: rest ∧ Text.isBlank first = false := by
    rcases begins with ⟨first, rest, spelled, plain⟩
    exact ⟨first, rest, spelled, Text.isBlank_of_isPlain plain⟩
  cases line with
  | statements level texts =>
      rcases solid (phrase_join phrased.1 phrased.2).1 with ⟨first, rest, spelled, visible⟩
      exact Or.inr ⟨level, _, first, rest, rfl, rfl, spelled, visible⟩
  | header level text =>
      rcases solid phrased.1.begins with ⟨first, rest, spelled, visible⟩
      exact Or.inr ⟨level, _, first, rest, rfl, rfl, spelled, visible⟩
  | filler level =>
      exact Or.inr ⟨level, "pass", 'p', ['a', 's', 's'], rfl, rfl, rfl, by decide⟩
  | trailer level name =>
      have spelled : (Code.trailer name).toList = '#' :: ' ' :: '/' :: name.toList := by
        simp [Code.trailer]
      exact Or.inr ⟨level, _, '#', _, rfl, rfl, spelled, by decide⟩
  | blank =>
      exact Or.inl rfl

end Code

namespace RenderModule

variable {settings : Settings} {fragment : Fragment} {result : CompileResult}
  {results : List CompileResult} {indent : String} {code : Code}

/-- What is indented is not at top level. -/
theorem isTopLevel_indented {text : String} (indented : Code.IsIndent indent)
    (solid : indent ≠ "") : isTopLevel (indent ++ text) = false := by
  cases spelled : indent.toList with
  | nil =>
      exact absurd (String.toList_eq_nil_iff.mp spelled) solid
  | cons first rest =>
      rw [isTopLevel, String.toList_append, spelled, List.cons_append, List.head?_cons]
      rcases indented first (by simp [spelled]) with rfl | rfl <;> rfl

/-- Every line of generated code is empty, or indented and not blank. -/
theorem line_of_mem_code {line : String} (indented : Code.IsIndent indent) (solid : indent ≠ "")
    (phrased : code.Phrased settings) (member : line ∈ Text.linesOf (code.text indent 1)) :
    isTopLevel line = false ∧ (line ≠ "" → Text.isBlankText line = false) := by
  have empty : isTopLevel "" = false := rfl
  rw [Text.linesOf, Text.splitString, Code.splitOn_text 1 indented phrased, List.map_append,
    List.mem_append, List.map_map] at member
  rcases member with written | last
  · rcases List.mem_map.mp written with ⟨printed, inLines, rfl⟩
    simp only [Function.comp_apply, String.ofList_toList]
    rcases Code.Line.print_cases indent (Code.every_of_mem_lines phrased inLines) with
      blank | ⟨level, text, first, rest, placed, spelled, begins, visible⟩
    · rw [blank]
      exact ⟨empty, fun some => absurd rfl some⟩
    · rw [spelled]
      constructor
      · rw [Code.margin_eq_append (Code.level_le_of_mem_lines inLines placed),
          String.append_assoc]
        exact isTopLevel_indented indented solid
      · intro _
        rw [Text.isBlankText, List.all_eq_false]
        refine ⟨first, ?_, by simp [visible]⟩
        rw [String.toList_append, begins]
        exact List.mem_append_right _ List.mem_cons_self
  · rw [List.map_singleton, List.mem_singleton] at last
    rw [last]
    exact ⟨empty, fun some => absurd rfl some⟩

/-! ## Functions -/

/-- The lines of the code of a function. -/
def bodyLines (fragment : Fragment) (settings : Settings) : List String :=
  if fragment.isBlank then [settings.indent ++ "pass"]
  else Text.linesOf (Text.dropFinalNewlines fragment.code)

/-- The first line of the function for a fragment, and the lines below it. -/
def functionLines (settings : Settings) (labels : List (String × String))
    (result : CompileResult) (fragment : Fragment) : String × List String :=
  (signature fragment.variant result settings (labels.lookup result.template),
    documentation fragment.variant result settings :: bodyLines fragment settings)

/-- The functions for the fragments of results. -/
def functions (settings : Settings) (labels : List (String × String))
    (results : List CompileResult) : List (String × List String) :=
  results.flatMap fun result => result.fragments.map (functionLines settings labels result)

/-- The body of a function is made of the lines that its fragment has. -/
theorem linesOf_body (indented : Code.IsIndent settings.indent) :
    Text.linesOf (body fragment settings) = bodyLines fragment settings := by
  unfold body bodyLines
  split
  · apply Text.linesOf_of_oneLine
    exact Text.oneLine_append_iff.mpr ⟨oneLine_of_isIndent indented, by decide⟩
  · rfl

/-- A function is made of its signature, its documentation and its body. -/
theorem linesOf_renderFunction (labels : List (String × String))
    (accepted : settings.Accepted) (indented : Code.IsIndent settings.indent)
    (lined : result.OnOneLine) (isVariant : fragment.variant ∈ variantNames) :
    Text.linesOf (renderFunction fragment result settings (labels.lookup result.template)) =
      (functionLines settings labels result fragment).1 ::
        ((functionLines settings labels result fragment).2 ++ [""]) := by
  have ended (text : String) : Text.linesOf (text ++ "\n") = Text.linesOf text ++ [""] := by
    have broken := Text.linesOf_append_lineBreak text ""
    rwa [String.append_empty] at broken
  rw [renderFunction, ended, Text.linesOf_join (List.cons_ne_nil _ _), List.flatMap_cons,
    List.flatMap_cons, List.flatMap_cons, List.flatMap_nil, List.append_nil,
    Text.linesOf_of_oneLine (oneLine_signature _ accepted lined isVariant),
    Text.linesOf_of_oneLine (oneLine_documentation indented lined isVariant),
    linesOf_body indented]
  rfl

/-- The body of a compiled function is indented throughout and has a solid line in it. -/
theorem bodyLines_of_compiled (accepted : settings.Accepted)
    (indented : Code.IsIndent settings.indent) (compiled : result.IsCompiled)
    (member : fragment ∈ result.fragments) :
    (∀ line ∈ bodyLines fragment settings, isTopLevel line = false) ∧
      ∃ line, (bodyLines fragment settings).getLast? = some line ∧
        Text.isBlankText line = false := by
  unfold bodyLines
  split
  · constructor
    · intro line isPass
      rw [List.mem_singleton.mp isPass]
      exact isTopLevel_indented indented accepted.indent_ne_empty
    · refine ⟨_, rfl, ?_⟩
      rw [Text.isBlankText, List.all_eq_false]
      exact ⟨'p', by simp, by decide⟩
  · rename_i solid
    rcases compiled.codes.2 fragment member with
      ⟨compiling, code, someIndent, spaces, phrased, written⟩
    have lines : ∀ line ∈ Text.linesOf (Text.dropFinalNewlines fragment.code),
        isTopLevel line = false ∧ (line ≠ "" → Text.isBlankText line = false) := by
      intro line inBody
      have inCode := (Text.linesOf_dropFinalNewlines_prefix fragment.code).subset inBody
      rw [written] at inCode
      exact line_of_mem_code spaces someIndent phrased inCode
    rcases Text.exists_last_of_dropFinalNewlines (Bool.eq_false_iff.mpr solid) with
      ⟨last, isLast, some⟩
    exact ⟨fun line inBody => (lines line inBody).1, last, isLast,
      (lines last (List.mem_of_mem_getLast? isLast)).2 some⟩

/-- The lines that are written for a fragment are those of a function. -/
theorem isFunction_functionLines (labels : List (String × String))
    (accepted : settings.Accepted) (indented : Code.IsIndent settings.indent)
    (compiled : result.IsCompiled) (member : fragment ∈ result.fragments) :
    IsFunction (functionLines settings labels result fragment) := by
  rcases bodyLines_of_compiled accepted indented compiled member with ⟨inside, last, isLast, solid⟩
  refine ⟨?_, ?_, last, ?_, solid⟩
  · apply List.isPrefixOf_iff_prefix.mpr
    simp only [functionLines, signature, String.append_assoc, String.toList_append]
    exact List.prefix_append _ _
  · intro line isBelow
    rcases List.mem_cons.mp isBelow with rfl | inBody
    · simp only [documentation, String.append_assoc]
      exact isTopLevel_indented indented accepted.indent_ne_empty
    · exact inside line inBody
  · have some : bodyLines fragment settings ≠ [] := by
      intro none
      rw [none] at isLast
      cases isLast
    exact (List.getLast?_cons_of_ne_nil some).trans isLast

theorem isFunction_of_mem_functions {function : String × List String}
    (labels : List (String × String))
    (accepted : settings.Accepted) (indented : Code.IsIndent settings.indent)
    (compiled : ∀ result ∈ results, result.IsCompiled)
    (member : function ∈ functions settings labels results) : IsFunction function := by
  rcases List.mem_flatMap.mp member with ⟨result, inResults, inResult⟩
  rcases List.mem_map.mp inResult with ⟨fragment, inFragments, rfl⟩
  exact isFunction_functionLines labels accepted indented (compiled result inResults) inFragments

/-- The lines of all functions of a result. -/
theorem flatMap_linesOf_renderFunctions (labels : List (String × String))
    (accepted : settings.Accepted) (indented : Code.IsIndent settings.indent)
    (compiled : result.IsCompiled) (lined : result.OnOneLine) :
    (renderFunctions settings labels result).flatMap (fun function => "" :: Text.linesOf function) =
      spaced (result.fragments.map (functionLines settings labels result)) := by
  rw [renderFunctions, spaced, List.flatMap_map, List.flatMap_map]
  apply List.flatMap_congr
  intro fragment member
  rw [linesOf_renderFunction labels accepted indented lined (compiled.isVariant member)]

/-- All lines of a module. -/
theorem linesOf_generate (labels : List (String × String))
    (accepted : settings.Accepted) (indented : Code.IsIndent settings.indent)
    (compiled : ∀ result ∈ results, result.IsCompiled)
    (lined : ∀ result ∈ results, result.OnOneLine) :
    Text.linesOf (generate results settings labels) =
      heading results ++ "" :: importLines results settings ++ "" ::
        spaced (functions settings labels results) := by
  have comments : (heading results).flatMap Text.linesOf = heading results :=
    Text.flatMap_linesOf_of_oneLine fun line member => oneLine_of_mem_heading lined member
  have imports : (importLines results settings).flatMap Text.linesOf =
      importLines results settings :=
    Text.flatMap_linesOf_of_oneLine fun line member =>
      oneLine_of_mem_importLines accepted
        (fun result isResult => (lined result isResult).dataModule)
        (fun result isResult => (lined result isResult).dataName) member
  have written : (results.flatMap (renderFunctions settings labels)).flatMap
      (fun function => "" :: Text.linesOf function) =
        spaced (functions settings labels results) := by
    rw [List.flatMap_assoc, functions, spaced, List.flatMap_assoc]
    apply List.flatMap_congr
    intro result member
    exact flatMap_linesOf_renderFunctions labels accepted indented (compiled result member)
      (lined result member)
  have blank : Text.linesOf "" = [""] := rfl
  have some : heading results ≠ [] := List.cons_ne_nil _ _
  rw [generate, Text.linesOf_join (by simp [some])]
  simp only [List.flatMap_append, List.flatMap_assoc, List.flatMap_cons, List.flatMap_nil,
    List.append_nil, comments, imports, blank, List.singleton_append] at written ⊢
  rw [written]
  simp

/--
The lines of a module that are neither empty nor indented are its comments, its
imports and the first lines of its functions.  Below the first line of a function
are its documentation and the code of its fragment, and nothing else.
-/
theorem lines_of_generate (labels : List (String × String))
    (accepted : settings.Accepted) (indented : Code.IsIndent settings.indent)
    (compiled : ∀ result ∈ results, result.IsCompiled)
    (lined : ∀ result ∈ results, result.OnOneLine) :
    (Text.linesOf (generate results settings labels)).filter isTopLevel =
        heading results ++ importLines results settings ++
          (functions settings labels results).map (·.1) ∧
      definitions (Text.linesOf (generate results settings labels)) =
        functions settings labels results := by
  have sound : ∀ function ∈ functions settings labels results, IsFunction function :=
    fun function member => isFunction_of_mem_functions labels accepted indented compiled member
  have comments : (heading results).filter isTopLevel = heading results :=
    List.filter_eq_self.mpr fun line member =>
      isTopLevel_of_head (head_of_mem_heading member) (by decide) (by decide)
  have imports : (importLines results settings).filter isTopLevel =
      importLines results settings :=
    List.filter_eq_self.mpr fun line member =>
      isTopLevel_of_head (head_of_mem_importLines member) (by decide) (by decide)
  have blank : isTopLevel "" = false := rfl
  rw [linesOf_generate labels accepted indented compiled lined]
  constructor
  · simp only [List.filter_append, List.filter_cons, blank, comments, imports,
      filter_isTopLevel_spaced sound, Bool.false_eq_true, if_false]
  · have preface : ∀ line ∈ heading results ++ "" :: importLines results settings ++ [""],
        isDefinition line = false := by
      intro line member
      simp only [List.mem_append, List.mem_cons, List.not_mem_nil, or_false] at member
      rcases member with (isComment | rfl | isImport) | rfl
      · exact isDefinition_eq_false_of_head (head_of_mem_heading isComment) (by decide)
      · rfl
      · exact isDefinition_eq_false_of_head (head_of_mem_importLines isImport) (by decide)
      · rfl
    rw [List.append_cons, definitions_append _ preface, definitions_spaced sound]

/-- What the layout of a page gives. -/
def pageLayoutResult : CompileResult :=
  { requestId := "request", template := "<template>", dataModule := "models", dataName := "Page"
    layout := true
    fragments :=
      [{ variant := "header", foundYield := true
         code := "    if data.flag:\n        writer.write(\"a\")\n    # /flag\n\n" },
        { variant := "footer", foundYield := true
          code := "    writer.write(escape_html(data.title)); writer.write(\"\\n\")\n\n" }] }

/-- A plain template with nothing in it. -/
def emptyTemplate : CompileRequest :=
  { text := "", dataType := Compiler.page, source := "empty", requestId := "request" }

/-- What the empty template gives. -/
def emptyResult : CompileResult :=
  { requestId := "request", template := "empty", dataModule := "models", dataName := "Page"
    fragments := [{ variant := "full", code := "\n" }] }

/-- The functions of a layout and of a template with nothing in it. -/
theorem lines_of_generate_pageLayout :
    (∀ result ∈ [pageLayoutResult, emptyResult], result.IsCompiled ∧ result.OnOneLine) ∧
      (Text.linesOf (generate [pageLayoutResult, emptyResult] {} [("empty", "none")])).filter
          isTopLevel =
        heading [pageLayoutResult, emptyResult] ++ importLines [pageLayoutResult, emptyResult] {} ++
          (functions {} [("empty", "none")] [pageLayoutResult, emptyResult]).map (·.1) ∧
      definitions
          (Text.linesOf (generate [pageLayoutResult, emptyResult] {} [("empty", "none")])) =
        functions {} [("empty", "none")] [pageLayoutResult, emptyResult] ∧
      (functions {} [("empty", "none")] [pageLayoutResult, emptyResult]).map (·.2.length) =
        [4, 2, 2] := by
  have accepted : Settings.Accepted {} := ⟨[], rfl⟩
  have indented : Code.IsIndent ({} : Settings).indent := by
    simp [Code.IsIndent]
  have layout : (CompileRequest.pageLayout.compile Compiler.pages.catalog {}).result.toOption =
      some pageLayoutResult := by
    decide +kernel
  have empty : (emptyTemplate.compile Compiler.pages.catalog {}).result.toOption =
      some emptyResult := by
    decide +kernel
  have sound : ∀ result ∈ [pageLayoutResult, emptyResult],
      result.IsCompiled ∧ result.OnOneLine := by
    intro result member
    simp only [List.mem_cons, List.not_mem_nil, or_false] at member
    rcases member with rfl | rfl
    · exact ⟨⟨_, _, {}, accepted, indented, Attempt.toOption_eq_some_iff.mp layout⟩,
        by decide, by decide, by decide⟩
    · exact ⟨⟨_, _, {}, accepted, indented, Attempt.toOption_eq_some_iff.mp empty⟩,
        by decide, by decide, by decide⟩
  rcases lines_of_generate [("empty", "none")] accepted indented
      (fun result member => (sound result member).1)
      (fun result member => (sound result member).2) with ⟨topLevel, defined⟩
  exact ⟨sound, topLevel, defined, by decide +kernel⟩

/-! ## A name that breaks lines -/

/-- A request whose data type has a name on two lines. -/
def brokenName : CompileRequest :=
  { text := "x"
    dataType := .newType { moduleName := "models", qualifiedName := "Page\nNumber" }
    requestId := "request" }

/-- What the request gives. -/
def brokenNameResult : CompileResult :=
  { requestId := "request", template := "<template>"
    dataModule := "models", dataName := "Page\nNumber"
    fragments := [{ variant := "full", code := "    writer.write(\"x\")\n" }] }

/--
A data type with a line break in its name leaves a line in the module that is
neither a comment nor an import nor the first line of a function.
-/
theorem stray_line_of_brokenName :
    Settings.Accepted {} ∧ Code.IsIndent ({} : Settings).indent ∧
      (brokenName.compile .empty {}).result = .ok brokenNameResult ∧
      OneLine brokenNameResult.template ∧
      "Number" ∈ (Text.linesOf (generate [brokenNameResult] {} [])).filter isTopLevel ∧
      "Number" ∉ heading [brokenNameResult] ++ importLines [brokenNameResult] {} ++
        (functions {} [] [brokenNameResult]).map (·.1) := by
  have compiled : (brokenName.compile .empty {}).result.toOption = some brokenNameResult := by
    decide +kernel
  have single (text : String) : sortedOnce [text] = [text] := by
    rw [sortedOnce, List.mergeSort_singleton]
    rfl
  have imported : importLine "models" ["Page\nNumber"] = "from models import Page\nNumber" := by
    rw [importLine, single]
    rfl
  have imports : "from models import Page\nNumber" ∈ importLines [brokenNameResult] {} := by
    have modules : "models" ∈ sortedOnce ["models"] := by
      rw [single, List.mem_singleton]
    exact List.mem_cons_of_mem _ (List.mem_map.mpr ⟨"models", modules, imported⟩)
  have starts : "Number".toList.head? = some 'N' := rfl
  refine ⟨⟨[], rfl⟩, by simp [Code.IsIndent], Attempt.toOption_eq_some_iff.mp compiled,
    by decide, List.mem_filter.mpr ⟨?_, rfl⟩, ?_⟩
  · rw [generate, Text.linesOf_join (by simp [heading])]
    apply List.mem_flatMap_of_mem (a := "from models import Page\nNumber") (by simp [imports])
    decide
  · intro member
    rcases List.mem_append.mp member with early | isSignature
    · rcases List.mem_append.mp early with isComment | isImport
      · rw [head_of_mem_heading isComment] at starts
        cases starts
      · rw [head_of_mem_importLines isImport] at starts
        cases starts
    · rw [List.mem_singleton.mp isSignature] at starts
      simp [functionLines, signature] at starts

end RenderModule

end TypedMustache
