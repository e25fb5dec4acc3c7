import Mathlib.Data.List.Nodup
import TypedMustache.Command.Execution
import TypedMustache.Proofs.RenderModule.DefinedNames

/-!
# When an assembled module redefines a function

Several results are assembled under the file names of their templates, and these
have to be different.  The names of the functions are made from them: runs of
characters that cannot stand in a name become underscores, underscores at the ends
are dropped, letters are made small, and the name of a variant may follow.  So
different file names can lead to the same name, and what is checked is not enough.

`RenderModule.Clash` says of two results when they share a name.  An assembly that
is accepted defines every function once exactly if no two of its results clash;
this is `Command.nodup_definedNames_iff_of_runAssemble`.
-/

namespace TypedMustache

namespace RenderModule

/-! ## The words of a name -/

/-- The words behind the first one: the part that the template gives, and the variant. -/
def wordsOf (part variant : String) : String :=
  if variant = "full" then part
  else if part = "" then variant
  else part ++ "_" ++ variant

/-- The name of a function with some words behind the first one. -/
def nameOf (words : String) : String :=
  "render" ++ (if words = "" then "" else "_" ++ words)

/-- Different words are different names. -/
theorem nameOf_inj {words others : String} : nameOf words = nameOf others ↔ words = others := by
  constructor
  · intro same
    have tails := (String.append_right_inj "render").mp same
    by_cases empty : words = "" <;> by_cases otherEmpty : others = ""
    · rw [empty, otherEmpty]
    · simp [empty, otherEmpty] at tails
    · simp [empty, otherEmpty] at tails
    · simpa [empty, otherEmpty] using tails
  · rintro rfl
    rfl

@[simp]
theorem wordsOf_full (part : String) : wordsOf part "full" = part :=
  rfl

/-- A function of a template with a label is named for the label and the variant. -/
theorem functionName_some {variant : String} (label : String) (solid : variant ≠ "") :
    functionName variant (some label) = nameOf (wordsOf (namePart label) variant) := by
  have unlabelled : namePart "" = "" := rfl
  by_cases empty : label = ""
  · by_cases isFull : variant = "full" <;>
      simp [functionName, nameOf, wordsOf, empty, unlabelled, isFull, solid, ← String.append_assoc]
  · by_cases isFull : variant = "full" <;> by_cases silent : namePart label = "" <;>
      simp [functionName, nameOf, wordsOf, empty, isFull, solid, silent, ← String.append_assoc]

/-- In one variant, different parts of names give different names. -/
theorem wordsOf_eq_wordsOf_iff {part other variant : String} :
    wordsOf part variant = wordsOf other variant ↔ part = other := by
  constructor
  · intro same
    unfold wordsOf at same
    split at same
    · exact same
    · -- A variant on its own is shorter than one with a part before it.
      have shorter (text : String) : variant ≠ text ++ "_" ++ variant := by
        intro whole
        have lengths := congrArg String.length whole
        have one : "_".length = 1 := rfl
        rw [String.length_append, String.length_append, one] at lengths
        omega
      split at same <;> split at same
      · simp_all
      · exact absurd same (shorter other)
      · exact absurd same.symm (shorter part)
      · exact (String.append_left_inj _).mp ((String.append_left_inj _).mp same)
  · rintro rfl
    rfl

/-- Headers and footers never share a name. -/
theorem wordsOf_header_ne_footer (part other : String) :
    wordsOf part "header" ≠ wordsOf other "footer" := by
  intro same
  have ends (part : String) {variant : String} (varied : variant ≠ "full") :
      ∃ front, (wordsOf part variant).toList = front ++ variant.toList := by
    by_cases empty : part = ""
    · exact ⟨[], by simp [wordsOf, varied, empty]⟩
    · exact ⟨part.toList ++ ['_'], by simp [wordsOf, varied, empty]⟩
  rcases ends part (by decide : "header" ≠ "full") with ⟨front, header⟩
  rcases ends other (by decide : "footer" ≠ "full") with ⟨otherFront, footer⟩
  rw [same, footer] at header
  have sameVariant := (List.append_inj' header (by simp)).2
  simp at sameVariant

/-! ## Results that share a name -/

/-- The name under which a result is assembled, if there are several. -/
def fileName (result : CompileResult) : String :=
  (Path.ofString result.template).stem

/-- The part of the names of functions that comes from a result's template. -/
def part (result : CompileResult) : String :=
  namePart (fileName result)

/-- Whether the name of a plain template reads like a variant of a layout. -/
def SpellsVariant (plain layout : CompileResult) : Prop :=
  ∃ variant ∈ ["header", "footer"], part plain = wordsOf (part layout) variant

/-- Whether two results, assembled under their file names, share the name of a function. -/
def Clash (result other : CompileResult) : Prop :=
  match result.layout, other.layout with
  | false, false | true, true => part result = part other
  | false, true => SpellsVariant result other
  | true, false => SpellsVariant other result

variable {results : List CompileResult} {result other : CompileResult}
  {labels : List (String × String)}

/-- The functions of a labelled result, one for each of its variants. -/
theorem functionNames_of_lookup
    (labelled : labels.lookup result.template = some (fileName result)) :
    functionNames labels result =
      (CompileResult.variantsOf result.layout).map fun variant =>
        nameOf (wordsOf (part result) variant) := by
  apply List.map_congr_left
  intro variant member
  have solid : variant ≠ "" := by
    have each : ∀ layout, ∀ variant ∈ CompileResult.variantsOf layout, variant ≠ "" := by
      decide
    exact each result.layout variant member
  rw [labelled, functionName_some _ solid]
  rfl

/-- Two results share no function exactly if they do not clash. -/
theorem disjoint_functionNames_iff
    (labelled : labels.lookup result.template = some (fileName result))
    (otherLabelled : labels.lookup other.template = some (fileName other)) :
    List.Disjoint (functionNames labels result) (functionNames labels other) ↔
      ¬ Clash result other := by
  have apart := wordsOf_header_ne_footer (part result) (part other)
  have apartToo := wordsOf_header_ne_footer (part other) (part result)
  rw [functionNames_of_lookup labelled, functionNames_of_lookup otherLabelled, Clash,
    List.disjoint_left]
  cases result.layout with
  | false =>
      cases other.layout with
      | false =>
          simp [CompileResult.variantsOf, nameOf_inj, wordsOf_full]
      | true =>
          simp [CompileResult.variantsOf, nameOf_inj, wordsOf_full, SpellsVariant]
  | true =>
      cases other.layout with
      | false =>
          simp [CompileResult.variantsOf, nameOf_inj, wordsOf_full, SpellsVariant, eq_comm]
      | true =>
          simp [CompileResult.variantsOf, nameOf_inj, wordsOf_eq_wordsOf_iff, apart,
            apartToo.symm]

/-- The functions of one result have different names. -/
theorem nodup_functionNames (labels : List (String × String)) (result : CompileResult) :
    (functionNames labels result).Nodup := by
  have differ (label : Option String) :
      functionName "header" label ≠ functionName "footer" label := by
    have named (label : String) :
        functionName "header" (some label) ≠ functionName "footer" (some label) := by
      rw [functionName_some label (by decide), functionName_some label (by decide), Ne,
        nameOf_inj]
      exact wordsOf_header_ne_footer _ _
    cases label with
    | none =>
        exact named ""
    | some label =>
        exact named label
  unfold functionNames CompileResult.variantsOf
  split
  · simpa using differ (labels.lookup result.template)
  · simp

end RenderModule

namespace Command

open RenderModule

variable {results : List CompileResult} {labels : List (String × String)}

/-! ## Assemblies that are accepted -/

theorem countDistinct_le_length (texts : List String) : countDistinct texts ≤ texts.length := by
  induction texts with
  | nil =>
      exact Nat.le_refl 0
  | cons text rest ih =>
      simp only [countDistinct, List.length_cons]
      split <;> omega

/-- A list with as many different entries as entries repeats none. -/
theorem nodup_of_length_le_countDistinct {texts : List String}
    (many : texts.length ≤ countDistinct texts) : texts.Nodup := by
  induction texts with
  | nil =>
      exact List.nodup_nil
  | cons text rest ih =>
      have fewer := countDistinct_le_length rest
      simp only [countDistinct, List.length_cons] at many
      split at many
      · omega
      · rename_i fresh
        exact List.nodup_cons.mpr ⟨by simpa using fresh, ih (by omega)⟩

theorem lookup_labels_of_mem {result : CompileResult} (member : result ∈ results) :
    (results.map fun result => (result.template, fileName result)).lookup result.template =
      some (fileName result) := by
  induction results with
  | nil =>
      cases member
  | cons first rest ih =>
      rw [List.map_cons, List.lookup_cons]
      by_cases same : result.template = first.template
      · simp [same, fileName]
      · rcases List.mem_cons.mp member with rfl | later
        · exact absurd rfl same
        · rw [beq_eq_false_iff_ne.mpr same]
          exact ih later

theorem pairwise_of_length_le_one {α : Type} {relation : α → α → Prop} {items : List α}
    (single : items.length ≤ 1) : items.Pairwise relation := by
  cases items with
  | nil =>
      exact .nil
  | cons item rest =>
      have alone : rest = [] := by
        rw [List.length_cons] at single
        exact List.length_eq_zero_iff.mp (by omega)
      rw [alone]
      exact List.pairwise_singleton relation item

/-- Accepted results stand alone, or have different file names that they are labelled with. -/
theorem labels_of_assemblyLabels? (accepted : assemblyLabels? results = some labels) :
    (results.map fileName).Nodup ∧
      (results.length ≤ 1 ∨
        ∀ result ∈ results, labels.lookup result.template = some (fileName result)) := by
  unfold assemblyLabels? at accepted
  split at accepted
  · rename_i single
    refine ⟨pairwise_of_length_le_one ?_, Or.inl single⟩
    rw [List.length_map]
    exact single
  · simp only [List.map_map] at accepted
    split at accepted
    · cases accepted
    · rename_i enough
      cases accepted
      refine ⟨nodup_of_length_le_countDistinct ?_, Or.inr fun result => lookup_labels_of_mem⟩
      rw [List.length_map]
      exact Nat.le_of_not_lt enough

/-- The names of accepted results are all different exactly if no two results clash. -/
theorem nodup_functionNames_iff (accepted : assemblyLabels? results = some labels) :
    (results.flatMap (functionNames labels)).Nodup ↔
      results.Pairwise fun result other => ¬ Clash result other := by
  rw [List.nodup_flatMap]
  have alone : ∀ result ∈ results, (functionNames labels result).Nodup :=
    fun result _ => nodup_functionNames labels result
  rcases (labels_of_assemblyLabels? accepted).2 with single | labelled
  · exact iff_of_true ⟨alone, pairwise_of_length_le_one single⟩ (pairwise_of_length_le_one single)
  · rw [and_iff_right alone]
    exact List.Pairwise.iff_of_mem fun {result other} member otherMember =>
      disjoint_functionNames_iff (labelled result member) (labelled other otherMember)

/-- Settings that were loaded are accepted. -/
theorem accepted_of_load {reader : Settings.Reader} {workspace : Workspace}
    {environment : Environment} {path : Option Path} {settings : Settings}
    (loaded : Settings.loadWith reader workspace environment path = .ok settings) :
    settings.Accepted := by
  unfold Settings.loadWith at loaded
  split at loaded
  · cases loaded
  · split at loaded
    · split at loaded
      · rename_i given read
        cases loaded
        exact ⟨_, read⟩
      · cases loaded
    · cases loaded

variable {surroundings : Surroundings} {options : AssembleOptions} {trace after : Trace}
  {settings : Settings}

section Loaded

variable
  (settled : Settings.loadWith surroundings.reader trace.workspace trace.environment
    (options.settingsFile.map .ofString) = .ok settings)
  (loaded : CompileResult.loadAll trace.workspace (options.results.map .ofString) =
    .ok results)

include settled loaded

/-- An assembly that prints its module ends well if its results can be labelled. -/
theorem runAssemble_eq_ok
    (prints : options.output = none) (labelled : assemblyLabels? results = some labels) :
    runAssemble surroundings options trace =
      .ok 0
        { trace with
          journal := trace.journal.emit (notice results)
          output := trace.output ++ generate results settings labels } := by
  simp only [runAssemble, Attempt.bind_apply, loadSettings_apply, settled, Attempt.get_apply,
    loaded, labelled, prints]
  rfl

/-- An assembly that ends well has delivered the module of its results. -/
theorem delivered_of_runAssemble (done : runAssemble surroundings options trace = .ok 0 after) :
    ∃ labels,
      assemblyLabels? results = some labels ∧
        deliver options.output (generate results settings labels)
          { trace with journal := trace.journal.emit (notice results) } = .ok () after := by
  simp only [runAssemble, Attempt.bind_apply, loadSettings_apply, settled, Attempt.get_apply,
    loaded] at done
  cases labelled : assemblyLabels? results with
  | none =>
      simp only [labelled] at done
      cases done
  | some labels =>
      refine ⟨labels, rfl, ?_⟩
      simp only [labelled, notify, Attempt.bind_apply, Attempt.modify_apply] at done
      split at done
      · rename_i answer final delivered
        cases done
        exact delivered
      · cases done

end Loaded

/-- What assembling gives once its settings and its results are loaded. -/
theorem outcome_of_runAssemble
    (settled : Settings.loadWith surroundings.reader surroundings.workspace
      surroundings.environment (options.settingsFile.map .ofString) = .ok settings)
    (loaded : CompileResult.loadAll surroundings.workspace (options.results.map .ofString) =
      .ok results)
    (prints : options.output = none) (labelled : assemblyLabels? results = some labels) :
    ((assemble options).run surroundings).exit = .ok 0 ∧
      ((assemble options).run surroundings).trace.output =
        generate results settings labels := by
  have ran : (assemble options).work surroundings (surroundings.trace {}) =
      .ok 0
        { surroundings.trace {} with
          journal := (surroundings.trace {}).journal.emit (notice results)
          output := "" ++ generate results settings labels } :=
    runAssemble_eq_ok settled loaded prints labelled
  rw [run, journalOptions, ran]
  exact ⟨rfl, String.empty_append⟩

/--
What an accepted assembly is sure of is that the file names of its templates are
different.  The functions that its module defines are those of its fragments, and
none is defined twice exactly if no two results clash.
-/
theorem nodup_definedNames_iff_of_runAssemble
    (settled : Settings.loadWith surroundings.reader trace.workspace trace.environment
      (options.settingsFile.map .ofString) = .ok settings)
    (loaded : CompileResult.loadAll trace.workspace (options.results.map .ofString) =
      .ok results)
    (indented : Code.IsIndent settings.indent)
    (compiled : ∀ result ∈ results, result.IsCompiled)
    (lined : ∀ result ∈ results, result.OnOneLine)
    (done : runAssemble surroundings options trace = .ok 0 after) :
    (results.map fileName).Nodup ∧
      ∃ labels code,
        assemblyLabels? results = some labels ∧
          deliver options.output code
              { trace with journal := trace.journal.emit (notice results) } = .ok () after ∧
            definedNames code = results.flatMap (functionNames labels) ∧
              ((definedNames code).Nodup ↔
                results.Pairwise fun result other => ¬ Clash result other) := by
  rcases delivered_of_runAssemble settled loaded done with ⟨labels, labelled, delivered⟩
  have defined := definedNames_generate labels (accepted_of_load settled) indented compiled lined
  refine ⟨(labels_of_assemblyLabels? labelled).1, labels, generate results settings labels,
    labelled, delivered, defined, ?_⟩
  rw [defined]
  exact nodup_functionNames_iff labelled

/-! ## Two file names that lead to one name -/

/-- A file holds the result that is read from its characters. -/
theorem load_of_chars {workspace : Workspace} {path : Path} {names : List String}
    {chars : List Char} {result : CompileResult}
    (found : workspace.find path = .file names (String.ofList chars))
    (opened : workspace.barred.contains names = false)
    (unified : Text.unifyNewlines chars = chars)
    (parsed : (Json.value? (4 * chars.length + 4) Json.depthLimit chars).map
      (fun (datum, rest) => ((CompileResult.ofDatum datum).toOption, rest)) =
        some (some result, [])) :
    CompileResult.load workspace path = .ok result := by
  rcases Option.map_eq_some_iff.mp parsed with ⟨⟨datum, rest⟩, read, same⟩
  rcases Prod.mk.inj same with ⟨described, rfl⟩
  have document : Json.parse (String.ofList chars) = some datum := by
    simp [Json.parse, read, Json.skipSpace]
  simp only [CompileResult.load, Workspace.read, found, opened, Bool.false_eq_true, if_false,
    String.toList_ofList, unified, CompileResult.ofJson, document,
    Attempt.toOption_eq_some_iff.mp described]

/-- A request to compile a plain template. -/
def plainRequest (template : String) : CompileRequest :=
  { text := "x", dataType := .ofClass (.builtin "str"), source := template, requestId := "" }

/-- What the request gives. -/
def plainResult (template : String) : CompileResult :=
  { requestId := "", template, dataModule := "builtins", dataName := "str"
    fragments := [{ variant := "full", code := "    writer.write(\"x\")\n" }] }

/-- The document that the result is saved in. -/
def plainDocument (template : String) : List Char :=
  "\x7b\"request_id\":\"\",".toList ++
    "\"template_name\":\"".toList ++ template.toList ++ "\",".toList ++
    "\"data_module\":\"builtins\",".toList ++
    "\"data_qualname\":\"str\",".toList ++
    "\"fragments\":[\x7b".toList ++
    "\"variant\":\"full\",".toList ++
    "\"code\":\"    writer.".toList ++ "write(\\\"x\\\")\\n\"\x7d]\x7d".toList

/-- Saved results of two templates with different file names. -/
def savedResults : Surroundings :=
  { workspace :=
      { files :=
          [(["first"], String.ofList (plainDocument "a-b")),
            (["second"], String.ofList (plainDocument "a_b"))] }
    environment := {}
    catalog := .empty
    requestId := "" }

/-- The options of an assembly of the saved results. -/
def assembleBoth : AssembleOptions :=
  { results := ["first", "second"], output := none, settingsFile := none }

theorem loadAll_savedResults :
    CompileResult.loadAll savedResults.workspace (assembleBoth.results.map .ofString) =
      .ok [plainResult "a-b", plainResult "a_b"] := by
  have unified : ∀ template ∈ ["a-b", "a_b"],
      Text.unifyNewlines (plainDocument template) = plainDocument template := by
    decide +kernel
  have parsed : ∀ template ∈ ["a-b", "a_b"],
      (Json.value? (4 * (plainDocument template).length + 4) Json.depthLimit
          (plainDocument template)).map
        (fun (datum, rest) => ((CompileResult.ofDatum datum).toOption, rest)) =
          some (some (plainResult template), []) := by
    decide +kernel
  have first : CompileResult.load savedResults.workspace (.ofString "first") =
      .ok (plainResult "a-b") :=
    load_of_chars rfl rfl (unified "a-b" (by simp)) (parsed "a-b" (by simp))
  have second : CompileResult.load savedResults.workspace (.ofString "second") =
      .ok (plainResult "a_b") :=
    load_of_chars rfl rfl (unified "a_b" (by simp)) (parsed "a_b" (by simp))
  simp only [CompileResult.loadAll, assembleBoth, List.map_cons, List.map_nil, List.mapM_cons,
    List.mapM_nil, first, second]
  rfl

theorem settled_savedResults :
    Settings.loadWith savedResults.reader savedResults.workspace savedResults.environment
      (assembleBoth.settingsFile.map .ofString) = .ok {} := by
  apply Attempt.toOption_eq_some_iff.mp
  decide +kernel

/-- The two templates of the saved results, which were compiled. -/
theorem plain_savedResults : ∀ result ∈ [plainResult "a-b", plainResult "a_b"],
    result.IsCompiled ∧ result.OnOneLine := by
  have compiled : ∀ template ∈ ["a-b", "a_b"],
      ((plainRequest template).compile .empty {}).result.toOption =
        some (plainResult template) := by
    decide +kernel
  have lined : ∀ template ∈ ["a-b", "a_b"], Text.OneLine template := by
    decide
  have indented : Code.IsIndent ({} : Settings).indent := by
    simp [Code.IsIndent]
  intro result member
  have listed : result ∈ ["a-b", "a_b"].map plainResult := member
  rcases List.mem_map.mp listed with ⟨template, known, rfl⟩
  have done := Attempt.toOption_eq_some_iff.mp (compiled template known)
  exact ⟨⟨plainRequest template, .empty, {}, ⟨[], rfl⟩, indented, done⟩,
    lined template known, (by decide : Text.OneLine "builtins"), (by decide : Text.OneLine "str")⟩

/-- Nothing was done or printed yet. -/
def quietTrace : Trace :=
  savedResults.trace {}

theorem labelled_savedResults : assemblyLabels? [plainResult "a-b", plainResult "a_b"] =
    some [("a-b", "a-b"), ("a_b", "a_b")] := by
  decide +kernel

/--
Two templates with different file names are assembled without complaint, though
the module defines their functions under one name.
-/
theorem redefined_function_of_assembleBoth :
    (∀ result ∈ [plainResult "a-b", plainResult "a_b"], result.IsCompiled) ∧
      CompileResult.loadAll savedResults.workspace (assembleBoth.results.map .ofString) =
        .ok [plainResult "a-b", plainResult "a_b"] ∧
      ((assemble assembleBoth).run savedResults).exit = .ok 0 ∧
      definedNames ((assemble assembleBoth).run savedResults).trace.output =
        ["render_a_b", "render_a_b"] := by
  have indented : Code.IsIndent ({} : Settings).indent := by
    simp [Code.IsIndent]
  have defined := definedNames_generate [("a-b", "a-b"), ("a_b", "a_b")]
    (accepted_of_load settled_savedResults) indented
    (fun result member => (plain_savedResults result member).1)
    (fun result member => (plain_savedResults result member).2)
  have named : [plainResult "a-b", plainResult "a_b"].flatMap
      (functionNames [("a-b", "a-b"), ("a_b", "a_b")]) = ["render_a_b", "render_a_b"] := by
    decide +kernel
  have ran := outcome_of_runAssemble settled_savedResults loadAll_savedResults rfl
    labelled_savedResults
  refine ⟨fun result member => (plain_savedResults result member).1, loadAll_savedResults,
    ran.1, ?_⟩
  rw [ran.2, defined, named]

/-- A call that succeeds although two templates have the same function. -/
theorem nodup_definedNames_iff_of_assembleBoth :
    ∃ after labels code,
      runAssemble savedResults assembleBoth quietTrace = .ok 0 after ∧
        ([plainResult "a-b", plainResult "a_b"].map fileName).Nodup ∧
        assemblyLabels? [plainResult "a-b", plainResult "a_b"] = some labels ∧
        deliver assembleBoth.output code
          { quietTrace with
            journal :=
              quietTrace.journal.emit (notice [plainResult "a-b", plainResult "a_b"]) } =
            .ok () after ∧
        definedNames code =
          [plainResult "a-b", plainResult "a_b"].flatMap (functionNames labels) ∧
        ((definedNames code).Nodup ↔
          [plainResult "a-b", plainResult "a_b"].Pairwise
            fun result other => ¬ Clash result other) := by
  have settled : Settings.loadWith savedResults.reader quietTrace.workspace quietTrace.environment
      (assembleBoth.settingsFile.map .ofString) = .ok {} :=
    settled_savedResults
  have loaded : CompileResult.loadAll quietTrace.workspace
      (assembleBoth.results.map .ofString) = .ok [plainResult "a-b", plainResult "a_b"] :=
    loadAll_savedResults
  have done := runAssemble_eq_ok settled loaded rfl labelled_savedResults
  have indented : Code.IsIndent ({} : Settings).indent := by
    simp [Code.IsIndent]
  obtain ⟨different, labels, code, labelled, delivered, defined, nodup⟩ :=
    nodup_definedNames_iff_of_runAssemble settled loaded indented
      (fun result member => (plain_savedResults result member).1)
      (fun result member => (plain_savedResults result member).2) done
  exact ⟨_, labels, code, done, different, labelled, delivered, defined, nodup⟩

end Command

end TypedMustache
