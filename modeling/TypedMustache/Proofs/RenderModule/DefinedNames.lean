import TypedMustache.CompileRequest
import TypedMustache.Proofs.Compilation.BlockGrammar
import TypedMustache.RenderModule

/-!
# The functions that a module defines

A module is a text, and the functions that it defines are read off its lines:
every line that starts with the word for a definition defines the name up to the
parameters.  `RenderModule.definedNames_generate` says which names these are in an
assembled module.  Each fragment of each result adds the name that
`functionName` makes for it, in the order of the fragments, and nothing else in
the module defines a name: not the heading, not the imports, and no line of the
generated code, since all of these lines are indented.

Names of templates and of data types are written into the module as they are, so
this needs them to stand on one line.
-/

namespace TypedMustache

/-! ## Line breaks at the end of a text -/

namespace Text

/-- What is dropped from the end of a text is line feeds and nothing else. -/
theorem exists_breaks_of_dropFinalNewlines (text : String) :
    ∃ count, text.toList = (dropFinalNewlines text).toList ++ List.replicate count '\n' := by
  have breaks : ∀ char ∈ (text.toList.reverse.takeWhile (· == '\n')).reverse, char = '\n' := by
    intro char member
    exact beq_iff_eq.mp (List.all_eq_true.mp List.all_takeWhile char (List.mem_reverse.mp member))
  refine ⟨(text.toList.reverse.takeWhile (· == '\n')).reverse.length, ?_⟩
  rw [← List.eq_replicate_of_mem breaks, dropFinalNewlines, String.toList_ofList,
    ← List.reverse_append, List.takeWhile_append_dropWhile, List.reverse_reverse]

/-! ## Texts on one line -/

/-- A text without a line break. -/
def OneLine (text : String) : Prop :=
  '\n' ∉ text.toList

instance (text : String) : Decidable (OneLine text) :=
  inferInstanceAs (Decidable (¬ '\n' ∈ text.toList))

/-- Two texts are on one line together if each of them is on one line. -/
theorem oneLine_append_iff {front back : String} :
    OneLine (front ++ back) ↔ OneLine front ∧ OneLine back := by
  rw [OneLine, String.toList_append, List.mem_append, not_or]
  rfl

theorem OneLine.join {separator : String} {texts : List String} (between : OneLine separator)
    (each : ∀ text ∈ texts, OneLine text) : OneLine (Text.join separator texts) := by
  intro member
  rcases mem_join member with inSeparator | ⟨text, inTexts, inText⟩
  · exact between inSeparator
  · exact each text inTexts inText

theorem Plain.oneLine {text : String} (plain : Plain text) : OneLine text := by
  intro member
  have plainBreak := List.all_eq_true.mp plain.chars '\n' member
  revert plainBreak
  decide

end Text

open Text (OneLine)

namespace RenderModule

/-! ## Names that lines define -/

/-- The name of the function that a line defines. -/
def definedName? (line : List Char) : Option String :=
  if "def ".toList.isPrefixOf line then
    some (String.ofList ((line.drop 4).takeWhile (· != '(')))
  else none

/-- The names of the functions that a text defines. -/
def definedNames (text : String) : List String :=
  (Text.splitOn '\n' text.toList).filterMap definedName?

/-- A line feed separates the names that are defined before it from those behind it. -/
theorem definedNames_append_lineBreak (front rest : String) :
    definedNames (front ++ "\n" ++ rest) = definedNames front ++ definedNames rest := by
  have broken : (front ++ "\n" ++ rest).toList = front.toList ++ '\n' :: rest.toList := by
    simp
  rw [definedNames, broken, Text.splitOn_append, List.filterMap_append]
  rfl

/-- The names that lines define are those of each line, in turn. -/
theorem definedNames_join (texts : List String) :
    definedNames (Text.join "\n" texts) = texts.flatMap definedNames := by
  induction texts with
  | nil =>
      rfl
  | cons text rest ih =>
      cases rest with
      | nil =>
          simp
      | cons next others =>
          rw [Text.join_cons_cons, definedNames_append_lineBreak, ih]
          rfl

/-- A single line defines at most one name. -/
theorem definedNames_of_oneLine {text : String} (oneLine : OneLine text) :
    definedNames text = (definedName? text.toList).toList := by
  rw [definedNames, Text.splitOn_of_not_mem oneLine, List.filterMap_cons]
  cases definedName? text.toList <;> rfl

/-- A line defines nothing unless it starts with the first letter of the word for it. -/
theorem definedName?_eq_none_of_head {first : Char} (rest : List Char) (other : first ≠ 'd') :
    definedName? (first :: rest) = none := by
  simp [definedName?, List.cons_prefix_cons, Ne.symm other]

/-- A line defines no name unless it begins with the first letter of `def`. -/
theorem definedNames_of_head {first : Char} {text : String} (oneLine : OneLine text)
    (head : text.toList.head? = some first) (other : first ≠ 'd') : definedNames text = [] := by
  rw [definedNames_of_oneLine oneLine]
  cases spelled : text.toList with
  | nil =>
      rfl
  | cons char rest =>
      rw [spelled, List.head?_cons, Option.some.injEq] at head
      rw [definedName?_eq_none_of_head rest (head ▸ other)]
      rfl

/-- Indented lines do not begin with that letter. -/
theorem exists_head_of_isIndent {indent : String} (indented : Code.IsIndent indent)
    (solid : indent ≠ "") : ∃ first rest, indent.toList = first :: rest ∧ first ≠ 'd' := by
  cases spelled : indent.toList with
  | nil =>
      exact absurd (String.toList_eq_nil_iff.mp spelled) solid
  | cons first rest =>
      refine ⟨first, rest, rfl, ?_⟩
      rcases indented first (by simp [spelled]) with rfl | rfl <;> decide

theorem oneLine_of_isIndent {indent : String} (indented : Code.IsIndent indent) :
    OneLine indent :=
  Code.newline_not_mem_of_isIndent indented

/-- Indented lines define nothing. -/
theorem definedNames_indented {indent text : String} (indented : Code.IsIndent indent)
    (solid : indent ≠ "") (oneLine : OneLine text) : definedNames (indent ++ text) = [] := by
  rcases exists_head_of_isIndent indented solid with ⟨first, rest, spelled, other⟩
  have head : (indent ++ text).toList.head? = some first := by
    simp [spelled]
  have unbroken : OneLine (indent ++ text) :=
    Text.oneLine_append_iff.mpr ⟨oneLine_of_isIndent indented, oneLine⟩
  exact definedNames_of_head unbroken head other

/-- Line breaks at the end of a text may be dropped without adding a definition. -/
theorem definedNames_dropFinalNewlines {text : String} (nothing : definedNames text = []) :
    definedNames (Text.dropFinalNewlines text) = [] := by
  rcases Text.exists_breaks_of_dropFinalNewlines text with ⟨count, whole⟩
  rw [definedNames] at nothing ⊢
  rw [whole] at nothing
  cases count with
  | zero =>
      rw [List.replicate_zero, List.append_nil] at nothing
      exact nothing
  | succ count =>
      rw [List.replicate_succ, Text.splitOn_append, List.filterMap_append,
        List.append_eq_nil_iff] at nothing
      exact nothing.1

/-- The lines of generated code are indented, so they define nothing. -/
theorem definedNames_code {settings : Settings} {indent : String} {code : Code}
    (indented : Code.IsIndent indent) (solid : indent ≠ "") (phrased : code.Phrased settings) :
    definedNames (code.text indent 1) = [] := by
  rw [definedNames, List.filterMap_eq_nil_iff]
  intro line member
  by_contra defines
  rw [definedName?] at defines
  split at defines
  · rename_i starts
    rcases List.isPrefixOf_iff_prefix.mp starts with ⟨rest, spelled⟩
    have significant : Text.isSignificant line = true := by
      rw [← spelled]
      rfl
    have shown : line ∈ Text.significantLines (code.text indent 1) :=
      List.mem_filter.mpr ⟨member, significant⟩
    rw [Code.significantLines_text 1 indented phrased] at shown
    rcases List.mem_map.mp shown with ⟨codeLine, inCode, printed⟩
    have deep : 1 ≤ codeLine.level :=
      (Code.suite_lines (by decide : (0 : Int) ≤ 1) phrased).deep codeLine inCode
    rcases exists_head_of_isIndent indented solid with ⟨first, others, indents, other⟩
    rcases Nat.exists_eq_add_of_le deep with ⟨deeper, isLevel⟩
    rw [← spelled, CodeLine.print, isLevel, Nat.add_comm, Text.repeated, String.toList_append,
      indents] at printed
    exact other (List.cons.inj printed).1
  · exact defines rfl

/-! ## Names of functions -/

/-- Whether a character neither ends a name nor the line it stands on. -/
def isInside (char : Char) : Bool :=
  char != '(' && char != '\n'

theorem isInside_of_isWord {char : Char} (word : Text.isWord char = true) :
    isInside char = true := by
  simp only [isInside, Bool.and_eq_true, bne_iff_ne]
  constructor <;> rintro rfl <;> revert word <;> decide +kernel

/-- A number that is no code point stands for the character zero. -/
theorem toNat_ofNat_cases (number : Nat) :
    (Char.ofNat number).toNat = number ∨ (Char.ofNat number).toNat = 0 := by
  by_cases valid : number.isValidChar
  · rw [Char.ofNat, dif_pos valid]
    exact Or.inl rfl
  · rw [Char.ofNat, dif_neg valid]
    exact Or.inr rfl

/-- Every character behind the first ones can stand inside a name, as far as lines are concerned. -/
theorem isInside_ofNat {number : Nat} (large : 64 < number) :
    isInside (Char.ofNat number) = true := by
  have away (char : Char) (least : 0 < char.toNat) (most : char.toNat ≤ 64) :
      Char.ofNat number ≠ char := by
    rintro rfl
    rcases toNat_ofNat_cases number with same | zero <;> omega
  simp only [isInside, Bool.and_eq_true, bne_iff_ne]
  exact ⟨away '(' (by decide) (by decide), away '\n' (by decide) (by decide)⟩

theorem isInside_lowerCaseChar {char : Char} (inside : isInside char = true) :
    isInside (Text.lowerCaseChar char) = true := by
  simp only [Text.lowerCaseChar]
  split
  · rename_i run found
    have high : Text.lowerCaseRuns.all (fun run => decide (64 < run.first + run.shift)) = true := by
      decide +kernel
    have inRuns := List.mem_of_find?_eq_some found
    have holds := List.find?_some found
    have above := List.all_eq_true.mp high run inRuns
    simp only [Text.CaseRun.holds, Bool.and_eq_true, decide_eq_true_eq] at holds above
    have large : 64 < (char.toNat + run.shift).toNat := by
      omega
    exact isInside_ofNat large
  · exact inside

/-- Lower case does not bring anything into a name that could end it. -/
theorem isInside_of_mem_lowerCaseAfter {before text : List Char} {char : Char}
    (inside : ∀ origin ∈ text, isInside origin = true)
    (member : char ∈ Text.lowerCaseAfter before text) : isInside char = true := by
  induction text generalizing before with
  | nil =>
      cases member
  | cons first rest ih =>
      simp only [Text.lowerCaseAfter, List.mem_append] at member
      rcases member with here | later
      · split at here
        · simp only [List.mem_cons, List.not_mem_nil, or_false] at here
          rcases here with rfl | rfl <;> decide
        · split at here
          · split at here <;> rw [List.mem_singleton.mp here] <;> decide
          · rw [List.mem_singleton.mp here]
            exact isInside_lowerCaseChar (inside first List.mem_cons_self)
      · exact ih (fun origin inRest => inside origin (List.mem_cons_of_mem first inRest)) later

/-- What is left between underscores are the characters of words. -/
theorem isWord_of_mem_underscored {text : List Char} {char : Char}
    (member : char ∈ underscored text) : Text.isWord char = true := by
  fun_induction underscored text with
  | case1 =>
      cases member
  | case2 first rest word ih =>
      rcases List.mem_cons.mp member with rfl | later
      · exact word
      · exact ih later
  | case3 first notWord =>
      rw [List.mem_singleton.mp member]
      decide
  | case4 first next rest notWord word ih =>
      rcases List.mem_cons.mp member with rfl | later
      · decide
      · exact ih later
  | case5 first next rest notWord notWordEither ih =>
      exact ih member

theorem mem_of_mem_trimUnderscores {text : List Char} {char : Char}
    (member : char ∈ trimUnderscores text) : char ∈ text := by
  have back := (List.dropWhile_suffix _).subset (List.mem_reverse.mp member)
  exact (List.dropWhile_suffix _).subset (List.mem_reverse.mp back)

/-- The part of a function's name that is made from a label goes up to the parenthesis. -/
theorem isInside_of_mem_namePart {label : String} {char : Char}
    (member : char ∈ (namePart label).toList) : isInside char = true := by
  rw [namePart, Text.lowerCase, String.toList_ofList, String.toList_ofList] at member
  refine isInside_of_mem_lowerCaseAfter (fun origin inText => ?_) member
  exact isInside_of_isWord (isWord_of_mem_underscored (mem_of_mem_trimUnderscores inText))

/-- The names of the variants that templates are compiled in. -/
def variantNames : List String :=
  Variant.all.map (·.name)

/-- No character of a function's name ends the name. -/
theorem isInside_of_mem_functionName {variant : String} {label : Option String} {char : Char}
    (isVariant : variant ∈ variantNames)
    (member : char ∈ (functionName variant label).toList) : isInside char = true := by
  have fixed : ∀ text ∈ "_" :: "render" :: variantNames, text.toList.all isInside = true := by
    decide
  rcases Text.mem_join member with inSeparator | ⟨part, inParts, inPart⟩
  · exact List.all_eq_true.mp (fixed "_" (by simp)) char inSeparator
  · have parts := List.mem_of_mem_filter inParts
    rw [List.mem_append, List.mem_append] at parts
    rcases parts with (isRender | labelled) | varied
    · rw [List.mem_singleton.mp isRender] at inPart
      exact List.all_eq_true.mp (fixed "render" (by simp)) char inPart
    · split at labelled
      · split at labelled
        · cases labelled
        · rw [List.mem_singleton.mp labelled] at inPart
          exact isInside_of_mem_namePart inPart
      · cases labelled
    · split at varied
      · cases varied
      · rw [List.mem_singleton.mp varied] at inPart
        exact List.all_eq_true.mp (fixed variant (by simp [isVariant])) char inPart

/-! ## Imports -/

/-- Repetitions are dropped from a list, and nothing is added or moved. -/
theorem sublist_eraseRepsBy_loop {α : Type} (same : α → α → Bool) (first : α) (rest kept : List α) :
    List.Sublist (List.eraseRepsBy.loop same first rest kept) (kept.reverse ++ first :: rest) := by
  induction rest generalizing first kept with
  | nil =>
      rw [List.eraseRepsBy.loop, List.reverse_cons]
  | cons next others ih =>
      rw [List.eraseRepsBy.loop]
      split
      · refine (ih first kept).trans (List.Sublist.append_left ?_ kept.reverse)
        exact (List.sublist_cons_self next others).cons_cons first
      · have later := ih next (first :: kept)
        rwa [List.reverse_cons, List.append_assoc] at later

/-- Sorting without repetitions leaves out entries of the sorted list. -/
theorem sublist_sortedOnce (texts : List String) :
    List.Sublist (sortedOnce texts) (texts.mergeSort fun text other => text ≤ other) := by
  rw [sortedOnce, List.eraseReps]
  cases texts.mergeSort fun text other => text ≤ other with
  | nil =>
      exact List.Sublist.refl []
  | cons first rest =>
      exact sublist_eraseRepsBy_loop _ first rest []

theorem mem_of_mem_sortedOnce {texts : List String} {text : String}
    (member : text ∈ sortedOnce texts) : text ∈ texts :=
  List.mem_mergeSort.mp ((sublist_sortedOnce texts).subset member)

theorem oneLine_importLine {moduleName : String} {names : List String}
    (oneLine : OneLine moduleName) (each : ∀ name ∈ names, OneLine name) :
    OneLine (importLine moduleName names) := by
  have listed : OneLine (Text.join ", " (sortedOnce names)) :=
    .join (by decide) fun name member => each name (mem_of_mem_sortedOnce member)
  simp only [importLine, Text.oneLine_append_iff, and_assoc]
  exact ⟨by decide, oneLine, by decide, listed⟩

theorem head_importLine (moduleName : String) (names : List String) :
    (importLine moduleName names).toList.head? = some 'f' := by
  simp [importLine]

theorem oneLine_outermost {name : String} (oneLine : OneLine name) : OneLine (outermost name) := by
  intro member
  cases parts : Text.splitOn '.' name.toList with
  | nil =>
      exact Text.splitOn_ne_nil '.' name.toList parts
  | cons part others =>
      simp only [outermost, Text.splitString, parts, List.map_cons, List.headD_cons,
        String.toList_ofList] at member
      exact oneLine (Text.mem_of_mem_splitOn (parts ▸ List.mem_cons_self) member)

end RenderModule

/-- A result whose names have no line break in them. -/
structure CompileResult.OnOneLine (result : CompileResult) : Prop where
  template : OneLine result.template
  dataModule : OneLine result.dataModule
  dataName : OneLine result.dataName

namespace RenderModule

variable {results : List CompileResult} {result : CompileResult} {settings : Settings}
  {fragment : Fragment}

/-- Imports take one line each, if the names that they import do. -/
theorem oneLine_of_mem_importLines {line : String} (accepted : settings.Accepted)
    (modules : ∀ result ∈ results, OneLine result.dataModule)
    (names : ∀ result ∈ results, OneLine result.dataName)
    (member : line ∈ importLines results settings) : OneLine line := by
  rcases List.mem_cons.mp member with rfl | isData
  · apply oneLine_importLine (by decide)
    intro name isHelper
    simp only [List.mem_cons, List.not_mem_nil, or_false] at isHelper
    rcases isHelper with rfl | rfl | rfl
    · decide
    · decide
    · exact accepted.plain_escapeFunction.oneLine
  · rcases List.mem_map.mp isData with ⟨moduleName, isModule, rfl⟩
    rcases List.mem_map.mp (mem_of_mem_sortedOnce isModule) with ⟨result, imported, rfl⟩
    apply oneLine_importLine (modules result (List.mem_of_mem_filter imported))
    intro name isName
    rcases List.mem_map.mp isName with ⟨other, inModule, rfl⟩
    have inResults := List.mem_of_mem_filter (List.mem_of_mem_filter inModule)
    exact oneLine_outermost (names other inResults)

/-- Every import begins with `from`, so it defines no function. -/
theorem head_of_mem_importLines {line : String} (member : line ∈ importLines results settings) :
    line.toList.head? = some 'f' := by
  rcases List.mem_cons.mp member with rfl | isData
  · exact head_importLine _ _
  · rcases List.mem_map.mp isData with ⟨moduleName, -, rfl⟩
    exact head_importLine _ _

/-! ## Comments -/

/-- The heading is made of lines. -/
theorem oneLine_of_mem_heading {line : String} (lined : ∀ result ∈ results, result.OnOneLine)
    (member : line ∈ heading results) : OneLine line := by
  have sources : OneLine (Text.join ", " (results.map (·.template))) := by
    apply Text.OneLine.join (by decide)
    intro template isSource
    rcases List.mem_map.mp isSource with ⟨result, inResults, rfl⟩
    exact (lined result inResults).template
  rcases List.mem_cons.mp member with rfl | later
  · simp only [Text.oneLine_append_iff, and_assoc]
    exact ⟨by decide, by decide, by decide, sources, by decide⟩
  · rw [List.mem_singleton.mp later]
    decide

/-- Every line of the heading is a comment. -/
theorem head_of_mem_heading {line : String} (member : line ∈ heading results) :
    line.toList.head? = some '#' := by
  rcases List.mem_cons.mp member with rfl | later
  · simp
  · rw [List.mem_singleton.mp later]
    rfl

/-! ## Functions -/

/-- The definition of a function defines its name. -/
theorem definedName?_signature {name : String} (rest : String)
    (inside : ∀ char ∈ name.toList, isInside char = true) :
    definedName? ("def " ++ name ++ "(" ++ rest).toList = some name := by
  have starts : ("def " ++ name ++ "(" ++ rest).toList =
      "def ".toList ++ (name.toList ++ '(' :: rest.toList) := by
    simp
  have within : ∀ char ∈ name.toList, (char != '(') = true := by
    intro char member
    exact (Bool.and_eq_true_iff.mp (inside char member)).1
  rw [definedName?, starts, if_pos (List.isPrefixOf_iff_prefix.mpr (List.prefix_append _ _))]
  change some (String.ofList ((name.toList ++ '(' :: rest.toList).takeWhile (· != '('))) = _
  rw [List.takeWhile_append_of_pos within]
  simp

/-- The signature of a function is on one line. -/
theorem oneLine_signature {variant : String} (label : Option String)
    (accepted : settings.Accepted) (lined : result.OnOneLine)
    (isVariant : variant ∈ variantNames) : OneLine (signature variant result settings label) := by
  have named : OneLine (functionName variant label) := by
    intro member
    cases isInside_of_mem_functionName isVariant member
  simp only [signature, Text.oneLine_append_iff, and_assoc]
  exact ⟨by decide, named, by decide, accepted.plain_dataName.oneLine, by decide,
    lined.dataName, by decide, accepted.plain_writerName.oneLine, by decide⟩

/-- A signature defines one name, that of its function. -/
theorem definedNames_signature {variant : String} (label : Option String)
    (accepted : settings.Accepted) (lined : result.OnOneLine)
    (isVariant : variant ∈ variantNames) :
    definedNames (signature variant result settings label) = [functionName variant label] := by
  have inside : ∀ char ∈ (functionName variant label).toList, isInside char = true :=
    fun char member => isInside_of_mem_functionName isVariant member
  have defines := definedName?_signature
    (settings.dataName ++ ": " ++ result.dataName ++ ", " ++ settings.writerName ++
      ": Writer) -> None:") inside
  rw [definedNames_of_oneLine (oneLine_signature label accepted lined isVariant)]
  simp only [signature, String.append_assoc] at defines ⊢
  rw [defines]
  rfl

/-- The documentation of a function is on one line. -/
theorem oneLine_documentation {variant : String}
    (indented : Code.IsIndent settings.indent)
    (lined : result.OnOneLine) (isVariant : variant ∈ variantNames) :
    OneLine (documentation variant result settings) := by
  have varied : ∀ variant ∈ variantNames, OneLine variant := by
    decide
  simp only [documentation, Text.oneLine_append_iff, and_assoc]
  exact ⟨oneLine_of_isIndent indented, by decide, lined.template, by decide,
    varied variant isVariant, by decide⟩

/-- It is indented, so it defines nothing. -/
theorem definedNames_documentation {variant : String}
    (accepted : settings.Accepted) (indented : Code.IsIndent settings.indent)
    (lined : result.OnOneLine) (isVariant : variant ∈ variantNames) :
    definedNames (documentation variant result settings) = [] := by
  have oneLine := oneLine_documentation indented lined isVariant
  simp only [documentation, String.append_assoc] at oneLine ⊢
  exact definedNames_indented indented accepted.indent_ne_empty
    (Text.oneLine_append_iff.mp oneLine).2

/-- The body of a function defines nothing if its code does not. -/
theorem definedNames_body
    (accepted : settings.Accepted) (indented : Code.IsIndent settings.indent)
    (silent : definedNames fragment.code = []) : definedNames (body fragment settings) = [] := by
  unfold body
  split
  · exact definedNames_indented indented accepted.indent_ne_empty (by decide)
  · exact definedNames_dropFinalNewlines silent

/-- The text of a function defines the function and nothing else. -/
theorem definedNames_renderFunction (label : Option String)
    (accepted : settings.Accepted) (indented : Code.IsIndent settings.indent)
    (lined : result.OnOneLine) (isVariant : fragment.variant ∈ variantNames)
    (silent : definedNames fragment.code = []) :
    definedNames (renderFunction fragment result settings label) =
      [functionName fragment.variant label] := by
  have ended (text : String) : definedNames (text ++ "\n") = definedNames text := by
    have broken := definedNames_append_lineBreak text ""
    rw [String.append_empty] at broken
    rw [broken]
    exact List.append_nil _
  rw [renderFunction, ended, definedNames_join, List.flatMap_cons, List.flatMap_cons,
    List.flatMap_cons, definedNames_signature label accepted lined isVariant,
    definedNames_documentation accepted indented lined isVariant,
    definedNames_body accepted indented silent]
  rfl

end RenderModule

/-! ## Results of compiling -/

namespace CompileRequest

variable {request : CompileRequest} {catalog : Catalog} {settings : Settings}

/-- A variant that was compiled into a fresh sink leaves one with code laid out in it. -/
theorem exists_laidOut_of_runVariant {variant : Variant} {found : Bool}
    (accepted : settings.Accepted) (isVariant : variant ∈ Variant.all)
    (done : (request.runVariant catalog settings (.fresh settings.indent 1) variant).foundYield =
      .ok found) :
    ∃ code : Code,
      code.Phrased settings ∧ code.Every (· ≠ "") (fun _ => True) (fun _ => True) ∧
        (request.runVariant catalog settings (.fresh settings.indent 1) variant).sink =
          ((Sink.fresh settings.indent 1).laidOut code).finish := by
  simp only [runVariant] at done ⊢
  split at done
  · cases done
  · rename_i stop run ran
    rcases Compiler.exists_part_of_run isVariant ran with
      ⟨tokens, tree, code, part, marked, resolved, laidOut⟩
    rw [Compiler.template_of_runText ran] at part
    have named := SectionTree.isName_of_scan (fun _ member => part member) marked
    exact ⟨code, SectionTree.phrased_of_code? accepted named resolved,
      SectionTree.solid_of_code? resolved, laidOut⟩

/-- The sinks that variants leave when one is run after the other. -/
def variantSinks (request : CompileRequest) (catalog : Catalog) (settings : Settings) :
    Sink → List Variant → List Sink
  | _, [] => []
  | sink, variant :: rest =>
    let written := (request.runVariant catalog settings sink variant).sink
    written :: request.variantSinks catalog settings written.drained rest

/-- The sinks that the fragments of a request are taken from. -/
def sinks (request : CompileRequest) (catalog : Catalog) (settings : Settings) : List Sink :=
  request.variantSinks catalog settings (.fresh settings.indent 1) request.variants

/-- A fragment whose code was laid out in a sink that started empty. -/
structure WrittenIn (settings : Settings) (fragment : Fragment) (sink : Sink) : Prop where
  value : fragment.code = sink.value
  laidOut : ∃ code : Code,
    code.Phrased settings ∧ code.Every (· ≠ "") (fun _ => True) (fun _ => True) ∧
      sink = ((Sink.fresh settings.indent 1).laidOut code).finish

/-- A fragment that was written by a sink is code, laid out one level deep. -/
theorem WrittenIn.exists_code {fragment : Fragment} {sink : Sink}
    (written : WrittenIn settings fragment sink) :
    ∃ code : Code, code.Phrased settings ∧ fragment.code = code.text settings.indent 1 ∧
      sink.allLines = (code.lines 1).map (·.print settings.indent) := by
  rcases written with ⟨value, code, phrased, solid, rfl⟩
  exact ⟨code, phrased, value.trans (Sink.value_finish_laidOut code settings.indent 1 solid),
    Sink.allLines_finish_laidOut code settings.indent 1 solid⟩

/-- Variants that were compiled one after the other give a fragment of code each. -/
theorem writtenIn_of_runVariants {variants : List Variant} {fragments : List Fragment}
    (accepted : settings.Accepted) (areVariants : ∀ variant ∈ variants, variant ∈ Variant.all)
    (done : (request.runVariants catalog settings (.fresh settings.indent 1) variants).fragments =
      .ok fragments) :
    fragments.map (·.variant) = variants.map (·.name) ∧
      List.Forall₂ (WrittenIn settings) fragments
        (request.variantSinks catalog settings (.fresh settings.indent 1) variants) := by
  induction variants generalizing fragments with
  | nil =>
      cases done
      exact ⟨rfl, .nil⟩
  | cons variant rest ih =>
      simp only [runVariants] at done
      split at done
      · cases done
      · rename_i found compiled
        have laidOut :=
          exists_laidOut_of_runVariant accepted (areVariants variant List.mem_cons_self) compiled
        have drained : (request.runVariant catalog settings (.fresh settings.indent 1)
            variant).sink.drained = .fresh settings.indent 1 := by
          rcases laidOut with ⟨code, -, -, sink⟩
          rw [sink]
          rfl
        rw [drained] at done
        rcases Attempt.map_eq_ok_iff.mp done with ⟨later, doneLater, rfl⟩
        rcases ih (fun other member => areVariants other (List.mem_cons_of_mem variant member))
            doneLater with ⟨names, written⟩
        rw [variantSinks, drained]
        exact ⟨by simp [names], .cons ⟨rfl, laidOut⟩ written⟩

/-- Every fragment of a result was written by the sink of its variant. -/
theorem writtenIn_of_compile {result : CompileResult} (accepted : settings.Accepted)
    (done : (request.compile catalog settings).result = .ok result) :
    result.layout = request.layout ∧
      result.fragments.map (·.variant) = request.variants.map (·.name) ∧
        List.Forall₂ (WrittenIn settings) result.fragments (request.sinks catalog settings) := by
  simp only [compile] at done
  split at done
  · cases done
  · rename_i fragments ran
    cases done
    have areVariants : ∀ variant ∈ request.variants, variant ∈ Variant.all := by
      unfold variants
      split <;> decide
    exact ⟨rfl, writtenIn_of_runVariants accepted areVariants ran⟩

end CompileRequest

/-- A result that compiling a template with settings that can be used gave. -/
def CompileResult.IsCompiled (result : CompileResult) : Prop :=
  ∃ (request : CompileRequest) (catalog : Catalog) (settings : Settings),
    settings.Accepted ∧ Code.IsIndent settings.indent ∧
      (request.compile catalog settings).result = .ok result

namespace CompileResult

variable {result : CompileResult}

/-- The names of the variants that a result has fragments for. -/
def variantsOf (layout : Bool) : List String :=
  if layout then ["header", "footer"] else ["full"]

/-- The code of a compiled result was laid out with an indentation of spaces and tabs. -/
theorem IsCompiled.codes (compiled : result.IsCompiled) :
    result.fragments.map (·.variant) = variantsOf result.layout ∧
      ∀ fragment ∈ result.fragments, ∃ (settings : Settings) (code : Code),
        settings.indent ≠ "" ∧ Code.IsIndent settings.indent ∧ code.Phrased settings ∧
          fragment.code = code.text settings.indent 1 := by
  rcases compiled with ⟨request, catalog, settings, accepted, indented, done⟩
  rcases CompileRequest.writtenIn_of_compile accepted done with ⟨layout, names, written⟩
  constructor
  · rw [names, CompileRequest.variants, variantsOf, layout]
    split <;> rfl
  · intro fragment member
    rcases List.forall₂_iff_get.mp written with ⟨same, each⟩
    rcases List.get_of_mem member with ⟨index, rfl⟩
    rcases (each index index.isLt (same ▸ index.isLt)).exists_code with ⟨code, phrased, text, -⟩
    exact ⟨settings, code, accepted.indent_ne_empty, indented, phrased, text⟩

theorem IsCompiled.isVariant {fragment : Fragment} (compiled : result.IsCompiled)
    (member : fragment ∈ result.fragments) : fragment.variant ∈ RenderModule.variantNames := by
  have known : fragment.variant ∈ variantsOf result.layout := by
    rw [← compiled.codes.1]
    exact List.mem_map_of_mem member
  have usual : ∀ layout, ∀ variant ∈ variantsOf layout, variant ∈ RenderModule.variantNames := by
    decide
  exact usual result.layout fragment.variant known

/-- The code of a compiled fragment defines nothing at top level. -/
theorem IsCompiled.definedNames_code {fragment : Fragment} (compiled : result.IsCompiled)
    (member : fragment ∈ result.fragments) : RenderModule.definedNames fragment.code = [] := by
  rcases compiled.codes.2 fragment member with
    ⟨settings, code, solid, indented, phrased, written⟩
  rw [written]
  exact RenderModule.definedNames_code indented solid phrased

end CompileResult

namespace RenderModule

variable {results : List CompileResult} {result : CompileResult} {settings : Settings}

/-- The names of the functions that a result adds to a module. -/
def functionNames (labels : List (String × String)) (result : CompileResult) : List String :=
  (CompileResult.variantsOf result.layout).map fun variant =>
    functionName variant (labels.lookup result.template)

/-- The functions of a result define one name for each fragment, in the order of the fragments. -/
theorem flatMap_definedNames_renderFunctions (labels : List (String × String))
    (accepted : settings.Accepted) (indented : Code.IsIndent settings.indent)
    (compiled : result.IsCompiled) (lined : result.OnOneLine) :
    (renderFunctions settings labels result).flatMap definedNames =
      functionNames labels result := by
  have defines : ∀ fragment ∈ result.fragments,
      definedNames (renderFunction fragment result settings (labels.lookup result.template)) =
        [functionName fragment.variant (labels.lookup result.template)] := by
    intro fragment member
    exact definedNames_renderFunction _ accepted indented lined (compiled.isVariant member)
      (compiled.definedNames_code member)
  rw [functionNames, ← compiled.codes.1, renderFunctions, List.map_map, List.flatMap_map,
    List.flatMap_congr defines, List.map_eq_flatMap]
  rfl

/-- The functions of a module are those of the fragments of its results, in their order. -/
theorem definedNames_generate (labels : List (String × String))
    (accepted : settings.Accepted) (indented : Code.IsIndent settings.indent)
    (compiled : ∀ result ∈ results, result.IsCompiled)
    (lined : ∀ result ∈ results, result.OnOneLine) :
    definedNames (generate results settings labels) =
      results.flatMap (functionNames labels) := by
  have comments : (heading results).flatMap definedNames = [] :=
    List.flatMap_eq_nil_iff.mpr fun line member =>
      definedNames_of_head (oneLine_of_mem_heading lined member) (head_of_mem_heading member)
        (by decide)
  have imports : (importLines results settings).flatMap definedNames = [] :=
    List.flatMap_eq_nil_iff.mpr fun line member =>
      definedNames_of_head
        (oneLine_of_mem_importLines accepted
          (fun result isResult => (lined result isResult).dataModule)
          (fun result isResult => (lined result isResult).dataName) member)
        (head_of_mem_importLines member) (by decide)
  have functions :
      (results.flatMap (renderFunctions settings labels)).flatMap definedNames =
        results.flatMap (functionNames labels) := by
    rw [List.flatMap_assoc]
    exact List.flatMap_congr fun result member =>
      flatMap_definedNames_renderFunctions labels accepted indented (compiled result member)
        (lined result member)
  have blank : definedNames "" = [] := rfl
  simp only [generate, definedNames_join, List.flatMap_append, List.flatMap_cons,
    List.flatMap_nil, List.flatMap_assoc, List.append_nil, List.nil_append, comments, imports,
    blank] at functions ⊢
  exact functions

end RenderModule

end TypedMustache
