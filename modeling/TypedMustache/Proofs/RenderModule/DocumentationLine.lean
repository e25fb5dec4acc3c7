import TypedMustache.Proofs.RenderModule.DefinedNames
import TypedMustache.Proofs.Text.SourceText

/-!
# Names of templates in a module

A module mentions the names of its templates in two places: all of them in the
comment at its head, and each one in the documentation of its functions, which is a
text in quotes.  Names are written there as they are.

That is harmless for most names and not for all.  A line break in a name ends the
comment, quotes in a name end the documentation, and a backslash may turn what
follows it into something else.  `RenderModule.names_kept_iff` says that there are
no other ways: the comment stays on its line, and the documentation is read as what
it is meant to say, exactly for the names without these.
-/

namespace TypedMustache

/-! ## Joined texts -/

namespace Text

/-- Each of some texts stands in what they are joined to. -/
theorem exists_append_of_mem_join (separator : String) {texts : List String} {text : String}
    (member : text ∈ texts) :
    ∃ before after, join separator texts = before ++ text ++ after := by
  induction texts with
  | nil =>
      cases member
  | cons first rest ih =>
      cases rest with
      | nil =>
          rw [List.mem_singleton.mp member]
          exact ⟨"", "", by simp⟩
      | cons next others =>
          rw [join_cons_cons]
          rcases List.mem_cons.mp member with rfl | later
          · exact ⟨"", separator ++ join separator (next :: others), by simp [String.append_assoc]⟩
          · rcases ih later with ⟨before, after, joined⟩
            exact ⟨first ++ separator ++ before, after, by rw [joined]; simp [String.append_assoc]⟩

theorem isUnbroken_join_iff {separator : String} {texts : List String}
    (between : IsUnbroken separator.toList) :
    IsUnbroken (join separator texts).toList ↔ ∀ text ∈ texts, IsUnbroken text.toList := by
  constructor
  · intro unbroken text member char breaks inText
    rcases exists_append_of_mem_join separator member with ⟨before, after, joined⟩
    apply unbroken char breaks
    rw [joined]
    simp [inText]
  · intro each char breaks inJoined
    rcases mem_join inJoined with inSeparator | ⟨text, member, inText⟩
    · exact between char breaks inSeparator
    · exact each text member char breaks inText

end Text

namespace RenderModule

/-! ## Documentation -/

/-- A line of source that is a text in quotes, and nothing else, with a given value. -/
structure Documents (named : List Char → Option Nat) (code text : List Char) : Prop where
  line : Text.sourceLines? code = some [code]
  value : Text.quotedValue? named code = some (text.map Char.toNat)

/-- A name without line breaks, quotes that end a text, and backslashes that mean something. -/
structure IsHarmless (name : List Char) : Prop where
  unbroken : Text.IsUnbroken name
  unquoted : ¬ ['"', '"', '"'] <:+: name
  unescaped : Text.Unescaped name

instance (name : List Char) : Decidable (IsHarmless name) :=
  decidable_of_iff
    (Text.IsUnbroken name ∧ ¬ ['"', '"', '"'] <:+: name ∧ Text.Unescaped name)
    ⟨fun parts => ⟨parts.1, parts.2.1, parts.2.2⟩,
      fun harmless => ⟨harmless.unbroken, harmless.unquoted, harmless.unescaped⟩⟩

/-- The text that documents the function for a variant of a template. -/
def documentedText (template variant : String) : String :=
  "Render " ++ template ++ " (" ++ variant ++ ")."

theorem documentation_eq (variant : String) (result : CompileResult) (settings : Settings) :
    documentation variant result settings =
      settings.indent ++ ("\"\"\"" ++ documentedText result.template variant ++ "\"\"\"") := by
  have opened : "\"\"\"Render " = "\"\"\"" ++ "Render " := by
    decide
  have closed : ").\"\"\"" = ")." ++ "\"\"\"" := by
    decide
  rw [documentation, documentedText, opened, closed]
  simp only [String.append_assoc]

/-- What stands behind the name of a template. -/
def ofVariant (variant : String) : String :=
  " (" ++ variant ++ ")."

/-- What stands behind the name of a template does no harm. -/
theorem form_ofVariant :
    ∀ variant ∈ variantNames,
      Text.IsUnbroken (ofVariant variant).toList ∧
        '"' ∉ (ofVariant variant).toList ∧ '\\' ∉ (ofVariant variant).toList ∧
          (ofVariant variant).toList.head? = some ' ' ∧
            (ofVariant variant).toList.getLast? = some '.' := by
  decide

theorem toList_documentedText (template variant : String) :
    (documentedText template variant).toList =
      "Render ".toList ++ (template.toList ++ (ofVariant variant).toList) := by
  simp only [documentedText, ofVariant, String.toList_append, List.append_assoc]

/-- A part without a space behind its first mark stands in such a text only within the name. -/
theorem infix_documentedText_iff {template variant : String} {first : Char} {others : List Char}
    (isVariant : variant ∈ variantNames)
    (absentFront : first ∉ "Render ".toList) (absentBack : first ∉ (ofVariant variant).toList)
    (spaceless : ' ' ∉ others) :
    first :: others <:+: (documentedText template variant).toList ↔
      first :: others <:+: template.toList := by
  rw [toList_documentedText]
  apply Text.infix_between_iff absentFront absentBack
  intro char begins
  rcases form_ofVariant variant isVariant with ⟨-, -, -, beginsBlank, -⟩
  rw [beginsBlank] at begins
  cases begins
  exact spaceless

theorem isUnbroken_quoted_iff (template : String) {variant : String}
    (isVariant : variant ∈ variantNames) :
    Text.IsUnbroken
        (['"', '"', '"'] ++ (documentedText template variant).toList ++ ['"', '"', '"']) ↔
      Text.IsUnbroken template.toList := by
  have quotes : Text.IsUnbroken ['"', '"', '"'] := by
    decide
  have front : Text.IsUnbroken "Render ".toList := by
    decide
  have back : Text.IsUnbroken (ofVariant variant).toList := (form_ofVariant variant isVariant).1
  simp only [toList_documentedText, Text.isUnbroken_append_iff, quotes, front, back, true_and,
    and_true]

theorem endsSolid_documentedText (template : String) {variant : String}
    (isVariant : variant ∈ variantNames) :
    Text.EndsSolid (documentedText template variant).toList := by
  rcases form_ofVariant variant isVariant with ⟨-, -, -, -, last⟩
  intro char isLast
  rw [toList_documentedText, List.getLast?_append, List.getLast?_append, last] at isLast
  cases isLast
  decide

/-- The documentation of a function says what it is meant to, unless the name does harm. -/
theorem documents_iff (named : List Char → Option Nat) (template : String) {variant : String}
    (isVariant : variant ∈ variantNames) :
    Documents named ("\"\"\"" ++ documentedText template variant ++ "\"\"\"").toList
        (documentedText template variant).toList ↔
      IsHarmless template.toList := by
  rcases form_ofVariant variant isVariant with ⟨-, unquotedBack, unescapedBack, -, -⟩
  have quoted : ("\"\"\"" ++ documentedText template variant ++ "\"\"\"").toList =
      ['"', '"', '"'] ++ (documentedText template variant).toList ++ ['"', '"', '"'] := by
    simp
  have unquoted : ¬ ['"', '"', '"'] <:+: (documentedText template variant).toList ↔
      ¬ ['"', '"', '"'] <:+: template.toList :=
    not_congr (infix_documentedText_iff isVariant (by decide) unquotedBack (by decide))
  have unescaped : Text.Unescaped (documentedText template variant).toList ↔
      Text.Unescaped template.toList := by
    have unmarked : ' ' ∉ Text.escapeMarks := by
      decide
    refine forall₂_congr fun mark isMark => not_congr ?_
    apply infix_documentedText_iff isVariant (by decide) unescapedBack
    intro same
    rw [List.mem_singleton.mp same] at unmarked
    exact unmarked isMark
  have read := Text.quotedValue?_eq_map_iff named (endsSolid_documentedText template isVariant)
  have lined := isUnbroken_quoted_iff template isVariant
  rw [quoted]
  constructor
  · intro documents
    have value := read.mp documents.value
    have line := Text.sourceLines?_eq_singleton_iff.mp documents.line
    exact ⟨lined.mp line, unquoted.mp value.1, unescaped.mp value.2⟩
  · intro harmless
    constructor
    · exact Text.sourceLines?_eq_singleton_iff.mpr (lined.mpr harmless.unbroken)
    · exact read.mpr ⟨unquoted.mpr harmless.unquoted, unescaped.mpr harmless.unescaped⟩

/-! ## The module -/

section Generated

variable (settings : Settings) (labels : List (String × String))

/-- The comment at the head of a module, which mentions its templates. -/
def comment (results : List CompileResult) : String :=
  (heading results).headD ""

theorem generate_eq_comment_append (results : List CompileResult) :
    ∃ rest, generate results settings labels = comment results ++ "\n" ++ rest := by
  rw [generate, heading]
  simp only [List.cons_append, List.nil_append]
  rw [Text.join_cons_cons]
  exact ⟨_, rfl⟩

/-- The comment stays on its line if no name breaks it. -/
theorem sourceLines?_comment_iff (results : List CompileResult) :
    Text.sourceLines? (comment results).toList = some [(comment results).toList] ↔
      ∀ result ∈ results, Text.IsUnbroken result.template.toList := by
  have front : Text.IsUnbroken ("# Generated by stache " ++ version ++ " from ").toList := by
    decide
  have back : Text.IsUnbroken ". Do not edit.".toList := by
    decide
  have between : Text.IsUnbroken ", ".toList := by
    decide
  rw [Text.sourceLines?_eq_singleton_iff, comment, heading, List.headD_cons,
    String.toList_append, String.toList_append, Text.isUnbroken_append_iff,
    Text.isUnbroken_append_iff, Text.isUnbroken_join_iff between]
  simp only [front, back, true_and, and_true, List.forall_mem_map]

/-- The documentation of a function stands right below its first line. -/
theorem generate_eq_append_documentation {results : List CompileResult} {result : CompileResult}
    {fragment : Fragment} (isResult : result ∈ results)
    (isFragment : fragment ∈ result.fragments) :
    ∃ before after, generate results settings labels =
      before ++ signature fragment.variant result settings (labels.lookup result.template) ++
        "\n" ++ documentation fragment.variant result settings ++ "\n" ++ after := by
  have isFunction : renderFunction fragment result settings (labels.lookup result.template) ∈
      results.flatMap (renderFunctions settings labels) :=
    List.mem_flatMap.mpr ⟨result, isResult, List.mem_map.mpr ⟨fragment, isFragment, rfl⟩⟩
  have isLine : renderFunction fragment result settings (labels.lookup result.template) ∈
      heading results ++ [""] ++ importLines results settings ++ [""] ++
        (results.flatMap (renderFunctions settings labels)).flatMap
          fun function => ["", function] :=
    List.mem_append_right _ (List.mem_flatMap.mpr ⟨_, isFunction, by simp⟩)
  rcases Text.exists_append_of_mem_join "\n" isLine with ⟨before, after, joined⟩
  refine ⟨before, body fragment settings ++ "\n" ++ after, ?_⟩
  rw [generate, joined, renderFunction, Text.join_cons_cons, Text.join_cons_cons,
    Text.join_singleton]
  simp only [String.append_assoc]

/--
A module keeps the names of its templates to their places, as far as the names do no harm.

Its first line is the comment that mentions all templates, which is one line exactly if
no name breaks it.  Below the first line of each function stands its documentation,
which is read as the text it is meant to be exactly if the name of its template is
harmless.
-/
theorem names_kept_iff (named : List Char → Option Nat) (results : List CompileResult) :
    (∃ rest, generate results settings labels = comment results ++ "\n" ++ rest) ∧
      (Text.sourceLines? (comment results).toList = some [(comment results).toList] ↔
        ∀ result ∈ results, Text.IsUnbroken result.template.toList) ∧
      ∀ result ∈ results, ∀ fragment ∈ result.fragments, fragment.variant ∈ variantNames →
        ∃ before code after,
          generate results settings labels =
            before ++ signature fragment.variant result settings (labels.lookup result.template) ++
              "\n" ++ (settings.indent ++ code) ++ "\n" ++ after ∧
          documentation fragment.variant result settings = settings.indent ++ code ∧
          (Documents named code.toList (documentedText result.template fragment.variant).toList ↔
            IsHarmless result.template.toList) := by
  refine ⟨generate_eq_comment_append settings labels results, sourceLines?_comment_iff results, ?_⟩
  intro result isResult fragment isFragment isVariant
  rcases generate_eq_append_documentation settings labels isResult isFragment with
    ⟨before, after, generated⟩
  have documented := documentation_eq fragment.variant result settings
  rw [documented] at generated
  exact ⟨before, _, after, generated, documented, documents_iff named _ isVariant⟩

end Generated

/-- A request to compile a template with a given name. -/
def pageRequest (name : String) : CompileRequest :=
  { text := "x", dataType := .ofClass (.builtin "int"), source := name, requestId := "request" }

/-- What such a request gives. -/
def pageResult (name : String) : CompileResult :=
  { requestId := "request", template := name, dataModule := "builtins", dataName := "int"
    fragments := [{ variant := "full", code := "    writer.write(\"x\")\n" }] }

/-- A page whose name has backslashes and quotes that do no harm. -/
def sitePage : CompileResult :=
  pageResult "C:\\site\\page\"\".html"

theorem names_kept_iff_sitePage :
    (∀ result ∈ [sitePage], IsHarmless result.template.toList) ∧
      Text.sourceLines? (comment [sitePage]).toList = some [(comment [sitePage]).toList] ∧
      ∃ before code after,
        generate [sitePage] {} [] =
          before ++ signature "full" sitePage {} none ++ "\n" ++ ("    " ++ code) ++ "\n" ++ after ∧
        Documents (fun _ => none) code.toList
          "Render C:\\site\\page\"\".html (full).".toList := by
  have harmless : IsHarmless "C:\\site\\page\"\".html".toList := by
    decide +kernel
  have each : ∀ result ∈ [sitePage], IsHarmless result.template.toList := by
    intro result isResult
    rw [List.mem_singleton.mp isResult]
    exact harmless
  have spelled : documentedText sitePage.template "full" =
      "Render C:\\site\\page\"\".html (full)." := by
    decide +kernel
  rcases names_kept_iff {} [] (fun _ => none) [sitePage] with ⟨-, commented, documented⟩
  rcases documented sitePage List.mem_cons_self
      { variant := "full", code := "    writer.write(\"x\")\n" } List.mem_cons_self (by decide) with
    ⟨before, code, after, generated, -, documents⟩
  rw [← spelled]
  exact ⟨each, commented.mpr fun result isResult => (each result isResult).unbroken,
    before, code, after, generated, documents.mpr harmless⟩

/--
The names of templates that compile can be misread.  One name makes the documentation
of its function a text that cannot be read at all, and one makes a line of code from
the end of the comment.
-/
theorem misread_names_of_pages :
    ((pageRequest "C:\\Users\\page.html").compile .empty {}).result =
        .ok (pageResult "C:\\Users\\page.html") ∧
      (∃ code,
        documentation "full" (pageResult "C:\\Users\\page.html") {} = "    " ++ code ∧
          ∀ named, Text.quotedValue? named code.toList = none) ∧
      ((pageRequest "page\nimport os #").compile .empty {}).result =
        .ok (pageResult "page\nimport os #") ∧
      Text.sourceLines? (comment [pageResult "page\nimport os #"]).toList =
        some ["# Generated by stache 0.1.0 from page".toList,
          "import os #. Do not edit.".toList] := by
  have compiledUsers : ((pageRequest "C:\\Users\\page.html").compile .empty {}).result.toOption =
      some (pageResult "C:\\Users\\page.html") := by
    decide +kernel
  have compiledBroken : ((pageRequest "page\nimport os #").compile .empty {}).result.toOption =
      some (pageResult "page\nimport os #") := by
    decide +kernel
  refine ⟨Attempt.toOption_eq_some_iff.mp compiledUsers, ?_,
    Attempt.toOption_eq_some_iff.mp compiledBroken, by decide +kernel⟩
  refine ⟨"\"\"\"Render C:\\Users\\page.html (full).\"\"\"", by decide +kernel, ?_⟩
  intro named
  cbv

end RenderModule

end TypedMustache
