import TypedMustache.Proofs.RenderModule.ModuleLines

/-!
# The indentation of generated code

The code of a fragment is meant as the body of a function.  Cut at its line breaks
it should give back the lines of the sink that it was taken from, and each of them
should be empty, or spaces and tabs with something visible behind them.

Settings may ask for any white space as indentation, a line break or a no-break
space included, and it is repeated in front of every line.  Without a line break
in the indentation the lines are kept; if it consists of spaces and tabs they are
also indented.  `CompileRequest.lines_kept_iff` says that nothing less will do,
except for code of which all lines are empty.
-/

namespace TypedMustache

open Text (OneLine)

/-! ## Indented lines -/

namespace Text

/-- An empty line, or one with spaces and tabs in front of something visible. -/
def IsIndented (line : String) : Prop :=
  line = "" ∨
    ∃ margin first rest, line.toList = margin ++ first :: rest ∧ margin ≠ [] ∧
      (∀ char ∈ margin, char = ' ' ∨ char = '\t') ∧ isBlank first = false

theorem takeWhile_isBlank_append {margin rest : List Char} {first : Char}
    (blank : ∀ char ∈ margin, isBlank char = true) (visible : isBlank first = false) :
    (margin ++ first :: rest).takeWhile isBlank = margin := by
  rw [List.takeWhile_append_of_pos blank, List.takeWhile_cons_of_neg (by simp [visible]),
    List.append_nil]

/-- A line behind white space is indented when the white space is spaces and tabs. -/
theorem isIndented_append_iff {margin text : String} {first : Char} {rest : List Char}
    (some : margin ≠ "") (blank : ∀ char ∈ margin.toList, isBlank char = true)
    (spelled : text.toList = first :: rest) (visible : isBlank first = false) :
    IsIndented (margin ++ text) ↔ Code.IsIndent margin := by
  have whole : (margin ++ text).toList = margin.toList ++ first :: rest := by
    rw [String.toList_append, spelled]
  constructor
  · rintro (empty | ⟨spaces, other, others, sameLine, -, indented, solid⟩)
    · exact absurd (String.append_eq_empty_iff.mp empty).1 some
    · have spacesBlank : ∀ char ∈ spaces, isBlank char = true := by
        intro char member
        rcases indented char member with rfl | rfl <;> decide
      -- Both texts are the white space that the line starts with.
      have same : margin.toList = spaces := by
        rw [← takeWhile_isBlank_append blank visible, ← whole, sameLine,
          takeWhile_isBlank_append spacesBlank solid]
      rw [Code.IsIndent, same]
      exact indented
  · intro indented
    exact Or.inr ⟨margin.toList, first, rest, whole, mt String.toList_eq_nil_iff.mp some,
      indented, visible⟩

theorem separator_not_mem_of_mem_splitOn {separator : Char} {text part : List Char}
    (member : part ∈ splitOn separator text) : separator ∉ part := by
  induction text generalizing part with
  | nil =>
      rw [splitOn, List.mem_singleton] at member
      rw [member]
      exact List.not_mem_nil
  | cons first rest ih =>
      rw [splitOn] at member
      split at member
      · rcases List.mem_cons.mp member with rfl | later
        · exact List.not_mem_nil
        · exact ih later
      · rename_i other
        rcases parts : splitOn separator rest with _ | ⟨front, others⟩
        · exact absurd parts (splitOn_ne_nil separator rest)
        · rw [parts] at member ih
          rcases List.mem_cons.mp member with rfl | later
          · rw [List.mem_cons, not_or]
            exact ⟨fun same => other (beq_iff_eq.mpr same.symm), ih List.mem_cons_self⟩
          · exact ih (List.mem_cons_of_mem front later)

/-- Lines that were each ended by a line break are found again if none has one in it. -/
theorem linesOf_join_lines_iff {lines : List String} :
    linesOf (String.join (lines.map (· ++ "\n"))) = lines ++ [""] ↔
      ∀ line ∈ lines, OneLine line := by
  constructor
  · intro cut line member
    have found : line ∈ linesOf (String.join (lines.map (· ++ "\n"))) := by
      rw [cut]
      exact List.mem_append_left _ member
    rcases List.mem_map.mp found with ⟨part, inParts, rfl⟩
    rw [OneLine, String.toList_ofList]
    exact separator_not_mem_of_mem_splitOn inParts
  · intro each
    rw [linesOf, splitString, splitOn_join_lines each, List.map_append, List.map_map]
    simp

end Text

/-! ## Lines of generated code -/

namespace CompileRequest

variable {request : CompileRequest} {catalog : Catalog} {settings : Settings}
  {result : CompileResult} {fragment : Fragment} {sink : Sink}

/-- What a line that is not empty looks like depends on nothing but the indentation. -/
theorem WrittenIn.line_iff {line : String} (accepted : settings.Accepted)
    (written : WrittenIn settings fragment sink) (member : line ∈ sink.allLines)
    (some : line ≠ "") :
    (OneLine line ↔ OneLine settings.indent) ∧
      (Text.IsIndented line ↔ Code.IsIndent settings.indent) := by
  rcases written.exists_code with ⟨code, phrased, -, lines⟩
  rw [lines] at member
  rcases List.mem_map.mp member with ⟨printed, inLines, rfl⟩
  have phrasedLine := Code.every_of_mem_lines phrased inLines
  rcases Code.Line.print_cases settings.indent phrasedLine with
    blank | ⟨level, text, first, rest, placed, spelled, begins, visible⟩
  · exact absurd blank some
  · have margin : Code.margin settings.indent level =
        settings.indent ++ Text.repeated settings.indent (level.toNat - 1) :=
      Code.margin_eq_append (Code.level_le_of_mem_lines inLines placed)
    constructor
    · constructor
      · intro oneLine
        rw [spelled, margin, Text.oneLine_append_iff, Text.oneLine_append_iff] at oneLine
        exact oneLine.1.1
      · intro whole
        exact Code.Line.newline_not_mem_print whole phrasedLine
    · have solid : Code.margin settings.indent level ≠ "" := by
        rw [margin]
        intro empty
        exact accepted.indent_ne_empty (String.append_eq_empty_iff.mp empty).1
      rw [spelled, Text.isIndented_append_iff solid
        (fun char inMargin => accepted.isBlank_of_mem_indent (Text.mem_of_mem_repeated inMargin))
        begins visible]
      constructor
      · intro indented char inIndent
        apply indented char
        rw [margin, String.toList_append]
        exact List.mem_append_left _ inIndent
      · intro indented char inMargin
        exact indented char (Text.mem_of_mem_repeated inMargin)

/-- A condition on lines that lines with something on them share. -/
theorem forall_lines_iff {lines : List String} {condition : String → Prop} {shared : Prop}
    (empty : condition "") (same : ∀ line ∈ lines, line ≠ "" → (condition line ↔ shared)) :
    (∀ line ∈ lines, condition line) ↔ shared ∨ ∀ line ∈ lines, line = "" := by
  constructor
  · intro each
    by_cases blank : ∀ line ∈ lines, line = ""
    · exact Or.inr blank
    · push Not at blank
      rcases blank with ⟨line, member, some⟩
      exact Or.inl ((same line member some).mp (each line member))
  · rintro (holds | blank) line member
    · by_cases isEmpty : line = ""
      · rw [isEmpty]
        exact empty
      · exact (same line member isEmpty).mpr holds
    · rw [blank line member]
      exact empty

/--
The code of a fragment is cut at its line breaks into the lines of the sink that it
was taken from, and nothing behind them, if and only if the indentation has no line
break in it; the lines are indented if and only if it consists of spaces and tabs.
Either holds for every indentation if all lines are empty.
-/
theorem lines_kept_iff (accepted : settings.Accepted)
    (done : (request.compile catalog settings).result = .ok result) :
    List.Forall₂
      (fun fragment sink =>
        fragment.code = sink.value ∧
          (Text.linesOf fragment.code = sink.allLines ++ [""] ↔
            OneLine settings.indent ∨ ∀ line ∈ sink.allLines, line = "") ∧
          ((∀ line ∈ sink.allLines, Text.IsIndented line) ↔
            Code.IsIndent settings.indent ∨ ∀ line ∈ sink.allLines, line = ""))
      result.fragments (request.sinks catalog settings) := by
  rcases writtenIn_of_compile accepted done with ⟨-, -, written⟩
  apply written.imp
  intro fragment sink inSink
  refine ⟨inSink.value, ?_, ?_⟩
  · rw [inSink.value, Sink.value, Text.linesOf_join_lines_iff]
    exact forall_lines_iff (by decide)
      fun line member some => (inSink.line_iff accepted member some).1
  · exact forall_lines_iff (Or.inl rfl)
      fun line member some => (inSink.line_iff accepted member some).2

/-- The header and the footer of a layout are indented by tabs when the settings say so. -/
theorem lines_kept_iff_tabbedLayout :
    Settings.Accepted { indent := "\t" } ∧
      ∃ result, (pageLayout.compile Compiler.pages.catalog { indent := "\t" }).result = .ok result ∧
        result.fragments.map (·.code) =
          ["\tif data.flag:\n\t\twriter.write(\"a\")\n\t# /flag\n\n",
            "\twriter.write(escape_html(data.title)); writer.write(\"\\n\")\n\n"] ∧
        List.Forall₂
          (fun fragment sink =>
            Text.linesOf fragment.code = sink.allLines ++ [""] ∧
              ∀ line ∈ sink.allLines, Text.IsIndented line)
          result.fragments (pageLayout.sinks Compiler.pages.catalog { indent := "\t" }) := by
  have accepted : Settings.Accepted { indent := "\t" } := by
    refine ⟨[(.text "indent", .text "\t")], ?_⟩
    rfl
  have spaces : Code.IsIndent "\t" := by
    simp [Code.IsIndent]
  have compiled : ((pageLayout.compile Compiler.pages.catalog { indent := "\t" }).result.map
      fun result => result.fragments.map (·.code)).toOption =
        some ["\tif data.flag:\n\t\twriter.write(\"a\")\n\t# /flag\n\n",
          "\twriter.write(escape_html(data.title)); writer.write(\"\\n\")\n\n"] := by
    decide +kernel
  rcases Attempt.map_eq_ok_iff.mp (Attempt.toOption_eq_some_iff.mp compiled) with
    ⟨result, done, codes⟩
  refine ⟨accepted, result, done, codes, ?_⟩
  apply (lines_kept_iff accepted done).imp
  rintro fragment sink ⟨-, kept, indented⟩
  exact ⟨kept.mpr (Or.inl (Code.newline_not_mem_of_isIndent spaces)),
    indented.mpr (Or.inl spaces)⟩

/-! ## Indentations that do not indent -/

/-- A template with one letter on it. -/
def letter : CompileRequest :=
  { text := "x", dataType := .ofClass (.builtin "int"), requestId := "request" }

/--
An indentation that is a line break tears every line apart and leaves the statement
unindented; behind a no-break space it is no line of source either.
-/
theorem torn_line_of_letter :
    (∀ indent ∈ ["\n", "\u00a0"],
      Settings.Accepted { indent } ∧
        (letter.compile .empty { indent }).result.toOption.map (·.fragments.map (·.code)) =
          some [indent ++ "writer.write(\"x\")\n"] ∧
        (letter.sinks .empty { indent }).map (·.allLines) =
          [[indent ++ "writer.write(\"x\")"]] ∧
        ¬ Text.IsIndented (indent ++ "writer.write(\"x\")")) ∧
      Text.linesOf ("\n" ++ "writer.write(\"x\")\n") =
        ["", "writer.write(\"x\")", ""] := by
  have unindented {indent : String} (some : indent ≠ "")
      (blank : Text.isBlankText indent = true) (other : ¬ Code.IsIndent indent) :
      ¬ Text.IsIndented (indent ++ "writer.write(\"x\")") :=
    mt (Text.isIndented_append_iff some (List.all_eq_true.mp blank) rfl (by decide)).mp other
  refine ⟨?_, by decide⟩
  intro indent member
  simp only [List.mem_cons, List.not_mem_nil, or_false] at member
  rcases member with rfl | rfl
  · exact ⟨⟨[(.text "indent", .text "\n")], rfl⟩, by decide +kernel, by decide +kernel,
      unindented (by decide) (by decide) (by simp [Code.IsIndent])⟩
  · exact ⟨⟨[(.text "indent", .text "\u00a0")], rfl⟩, by decide +kernel, by decide +kernel,
      unindented (by decide) (by decide) (by simp [Code.IsIndent])⟩

end CompileRequest

end TypedMustache
