import TypedMustache.CompileRequest
import TypedMustache.Proofs.Compilation.CodeText
import TypedMustache.Proofs.Token.Pieces

/-!
# Layouts are split at their yield marker

A layout is compiled twice over all its tokens, once for the header and once for
the footer, through one sink that is drained in between.  In either run half of
the output is suppressed.

The main result, `CompileRequest.compile_layout_eq_ok_iff`, says that nothing of
this shows.  Compiling a layout succeeds exactly when its tokens are divided by a
single raw yield marker into two parts that are templates of their own, and the
two fragments are the texts of these templates.
-/

namespace TypedMustache

/-! ## Dividing tokens -/

/-- Tokens divided by a raw reference to the yield marker, which is the only reference to it. -/
structure SplitsAtYield (settings : Settings) (tokens before : List Token) (marker : Token)
    (after : List Token) : Prop where
  whole : tokens = before ++ marker :: after
  raw : marker.kind = .rawReference
  named : marker.value = settings.yieldMarker
  unmarkedBefore :
    ∀ token ∈ before, token.isReference = true → token.value ≠ settings.yieldMarker
  unmarkedAfter :
    ∀ token ∈ after, token.isReference = true → token.value ≠ settings.yieldMarker

/-- The two parts of a layout around its yield marker, and their code. -/
structure YieldParts (catalog : Catalog) (settings : Settings) (dataType : DataType)
    (tokens before : List Token) (marker : Token) (after : List Token)
    (header footer : Code) : Prop where
  split : SplitsAtYield settings tokens before marker after
  headerTree : ∃ tree : SectionTree,
    before.map Token.mark = tree.marks ∧
      tree.code? catalog settings (.root dataType) = some header
  footerTree : ∃ tree : SectionTree,
    after.map Token.mark = tree.marks ∧
      tree.code? catalog settings (.root dataType) = some footer

namespace Compiler

variable {compiler : Compiler} {scope : Scope} {last : Course} {token : Token}
  {tokens : List Token} {instructions : List Instruction}

theorem ignores_of_unmarked
    (unmarked : ∀ token ∈ tokens,
      token.isReference = true → token.value ≠ compiler.settings.yieldMarker) :
    compiler.Ignores tokens := by
  intro token member isReference
  simp [isYield, unmarked token member isReference]

theorem unmarked_of_ignores (expects : compiler.variant.expectsYield = true)
    (ignored : compiler.Ignores tokens) :
    ∀ token ∈ tokens,
      token.isReference = true → token.value ≠ compiler.settings.yieldMarker := by
  intro token member isReference
  simpa [isYield, expects] using ignored token member isReference

theorem Ignores.append {front back : List Token} (ignoredFront : compiler.Ignores front)
    (ignoredBack : compiler.Ignores back) : compiler.Ignores (front ++ back) := by
  intro token member
  rcases List.mem_append.mp member with inFront | inBack
  · exact ignoredFront token inFront
  · exact ignoredBack token inBack

theorem foundYield_of_plan {course next : Course} {made : List Instruction}
    (ignored : token.isReference = true → compiler.isYield token.value = false)
    (planned : compiler.plan course token = .ok (made, next)) :
    next.foundYield = course.foundYield := by
  cases kind : token.kind with
  | text | special =>
      simp only [plan, kind] at planned
      cases planned
      rfl
  | reference | rawReference =>
      have unyielding := ignored (by simp [Token.isReference, kind])
      simp only [plan, kind, unyielding, Bool.false_eq_true, if_false, planReference] at planned
      split at planned
      · cases planned
      · cases planned
        rfl
  | sectionOpen | invertedOpen =>
      simp only [plan, kind, planSection] at planned
      split at planned
      · cases planned
      · cases planned
        rfl
  | sectionClose =>
      simp only [plan, kind, planClose] at planned
      split at planned
      · cases planned
      · split at planned
        · cases planned
          rfl
        · cases planned
  | endOfFile =>
      simp only [plan, kind] at planned
      split at planned
      · cases planned
        rfl
      · cases planned

/-- Tokens without a yield marker, or divided at their first one. -/
theorem ignores_or_split (compiler : Compiler) (tokens : List Token) :
    compiler.Ignores tokens ∨
      ∃ before marker after,
        tokens = before ++ marker :: after ∧ compiler.Ignores before ∧
          marker.isReference = true ∧ compiler.isYield marker.value = true := by
  induction tokens with
  | nil => exact Or.inl (by simp [Ignores])
  | cons token rest ih =>
      by_cases yields : token.isReference = true ∧ compiler.isYield token.value = true
      · exact Or.inr ⟨[], token, rest, rfl, by simp [Ignores], yields.1, yields.2⟩
      · have first : compiler.Ignores [token] := by
          simpa [Ignores] using yields
        rcases ih with ignored | ⟨before, marker, after, rfl, ignored, isReference, isMarker⟩
        · exact Or.inl (first.append ignored)
        · exact Or.inr
            ⟨token :: before, marker, after, rfl, first.append ignored, isReference, isMarker⟩

/-- Only a yield marker changes whether a layout has yielded. -/
theorem foundYield_of_planAll {course : Course} (ignored : compiler.Ignores tokens)
    (planned : compiler.planAll course tokens = .ok (instructions, last)) :
    last.foundYield = course.foundYield := by
  induction tokens generalizing course instructions with
  | nil =>
      cases planned
      rfl
  | cons token rest ih =>
      rcases planAll_cons_eq_ok_iff.mp planned with
        ⟨made, next, later, plannedFirst, plannedRest, -⟩
      rw [ih ignored.of_cons plannedRest]
      exact foundYield_of_plan (ignored token (List.mem_cons_self ..)) plannedFirst

/-- A yield marker is accepted when it is raw, the first one and in no section. -/
theorem plan_marker_eq_ok_iff {course next : Course} {made : List Instruction}
    (isReference : token.isReference = true) (isMarker : compiler.isYield token.value = true) :
    compiler.plan course token = .ok (made, next) ↔
      token.kind = .rawReference ∧ course.foundYield = false ∧ course.scope.sections = [] ∧
        made = [.toggle] ∧ next = { course with foundYield := true } := by
  have referring : token.kind = .reference ∨ token.kind = .rawReference := by
    simpa [Token.isReference] using isReference
  rcases referring with kind | kind
  · simp [plan, kind, isMarker]
  · cases found : course.foundYield with
    | true => simp [plan, kind, isMarker, Course.yieldFault?, found]
    | false =>
        cases opened : course.scope.sections with
        | nil =>
            simp only [plan, kind, isMarker, Course.yieldFault?, found, opened, if_true,
              Bool.false_eq_true, if_false, true_and, Except.ok.injEq, Prod.mk.injEq]
            constructor
            · rintro ⟨rfl, rfl⟩
              exact ⟨rfl, rfl⟩
            · rintro ⟨rfl, rfl⟩
              exact ⟨rfl, rfl⟩
        | cons innermost outer => simp [plan, kind, isMarker, Course.yieldFault?, found, opened]

/-! ## Plans of layouts -/

/--
A layout that yields and closes its sections consists of two templates around
its yield marker.
-/
theorem exists_yieldParts {dataType : DataType}
    (expects : compiler.variant.expectsYield = true)
    (endless : ∀ token ∈ tokens, token.kind ≠ .endOfFile)
    (planned : compiler.planAll (.start dataType) tokens = .ok (instructions, last))
    (closed : last.scope.sections = []) (yields : ¬ compiler.Ignores tokens) :
    ∃ before marker after header footer,
      YieldParts compiler.catalog compiler.settings dataType tokens before marker after header
        footer := by
  rcases compiler.ignores_or_split tokens with
    ignored | ⟨before, marker, after, rfl, ignored, isReference, isMarker⟩
  · exact absurd ignored yields
  · rcases planAll_append_eq_ok_iff.mp planned with
      ⟨first, middle, others, plannedBefore, plannedOthers, -⟩
    rcases planAll_cons_eq_ok_iff.mp plannedOthers with
      ⟨made, next, later, plannedMarker, plannedAfter, -⟩
    rcases (plan_marker_eq_ok_iff isReference isMarker).mp plannedMarker with
      ⟨raw, -, middleClosed, -, rfl⟩
    have ignoredAfter : compiler.Ignores after := by
      rcases compiler.ignores_or_split after with
        ignoredAfter | ⟨between, again, rest, rfl, ignoredBetween, againReference, againMarker⟩
      · exact ignoredAfter
      · rcases planAll_append_eq_ok_iff.mp plannedAfter with
          ⟨_, reached, _, plannedBetween, plannedRest, -⟩
        rcases planAll_cons_eq_ok_iff.mp plannedRest with ⟨_, _, _, plannedAgain, -, -⟩
        rcases (plan_marker_eq_ok_iff againReference againMarker).mp plannedAgain with
          ⟨-, unfound, -, -, -⟩
        rw [foundYield_of_planAll ignoredBetween plannedBetween] at unfound
        cases unfound
    obtain ⟨headerTree, header, headerMarked, headerResolved, -, rfl⟩ :=
      (planAll_root_eq_ok_iff (fun token member => endless token (by simp [member]))
        ignored).mp ⟨plannedBefore, middleClosed⟩
    obtain ⟨footerTree, footer, footerMarked, footerResolved, -, -⟩ :=
      (planAll_root_eq_ok_iff (fun token member => endless token (by simp [member]))
        ignoredAfter).mp ⟨plannedAfter, closed⟩
    have named : marker.value = compiler.settings.yieldMarker := by
      simpa [isYield, expects] using isMarker
    exact ⟨before, marker, after, header, footer,
      ⟨rfl, raw, named, unmarked_of_ignores expects ignored,
        unmarked_of_ignores expects ignoredAfter⟩,
      ⟨headerTree, headerMarked, headerResolved⟩, ⟨footerTree, footerMarked, footerResolved⟩⟩

/-- The plan of a layout turns output on or off between the code of its two parts. -/
theorem planAll_of_yieldParts {dataType : DataType} {before after : List Token}
    {marker : Token} {header footer : Code}
    (parts : YieldParts compiler.catalog compiler.settings dataType tokens before marker after
      header footer)
    (expects : compiler.variant.expectsYield = true) :
    compiler.planAll (.start dataType) tokens =
      .ok (header.instructions ++ .toggle :: footer.instructions,
        { scope := .root dataType, foundYield := true }) := by
  obtain ⟨⟨rfl, raw, named, unmarkedBefore, unmarkedAfter⟩,
    ⟨headerTree, headerMarked, headerResolved⟩, ⟨footerTree, footerMarked, footerResolved⟩⟩ :=
    parts
  have plannedBefore := planAll_of_code? false headerMarked headerResolved
    (ignores_of_unmarked unmarkedBefore)
  have plannedAfter := planAll_of_code? true footerMarked footerResolved
    (ignores_of_unmarked unmarkedAfter)
  have plannedMarker : compiler.plan (.start dataType) marker =
      .ok ([.toggle], { scope := .root dataType, foundYield := true }) :=
    (plan_marker_eq_ok_iff (by simp [Token.isReference, raw])
      (by simp [isYield, expects, named])).mpr ⟨raw, rfl, rfl, rfl, rfl⟩
  exact planAll_append_eq_ok_iff.mpr
    ⟨_, _, _, plannedBefore,
      planAll_cons_eq_ok_iff.mpr ⟨_, _, _, plannedMarker, plannedAfter, rfl⟩, rfl⟩

/-! ## Runs over layouts -/

/-- The sink after a run over a layout: the code of the part that was not suppressed. -/
theorem exists_run_of_yieldParts (compiler : Compiler) {dataType : DataType}
    {before after : List Token} {marker ending : Token} {header footer : Code}
    {source indent : String} {stream : TokenStream Failure}
    (parts : YieldParts compiler.catalog compiler.settings dataType stream.template before marker
      after header footer)
    (expects : compiler.variant.expectsYield = true)
    (ended : stream.ending source none = .ok ending) (atEnd : List Journal.Notice) :
    ∃ final,
      compiler.run atEnd source stream (.start dataType (.fresh indent 1)) =
          .ok ending.position final ∧
        final.sink =
            ((Sink.fresh indent 1).laidOut
              (if compiler.variant.initiallySuppressed then footer else header)).finish ∧
          final.foundYield = true := by
  rcases parts.headerTree with ⟨headerTree, -, headerResolved⟩
  rcases parts.footerTree with ⟨footerTree, -, footerResolved⟩
  have headerSolid := SectionTree.solid_of_code? headerResolved
  have footerSolid := SectionTree.solid_of_code? footerResolved
  have planned := planAll_of_yieldParts parts expects
  cases hidden : compiler.variant.initiallySuppressed with
  | false =>
      have obeyed :
          ((Sink.fresh indent 1).suppress false).obeyAll
              (header.instructions ++ .toggle :: footer.instructions) =
            .ok (((Sink.fresh indent 1).laidOut header).suppress true) := by
        rw [Sink.obeyAll_append,
          Sink.obeyAll_instructions header _ rfl Sink.solid_nil headerSolid, Except.bind,
          Sink.obeyAll_cons]
        exact Sink.obeyAll_instructions_suppressed footer _ rfl
      have accepted : compiler.Accepts (.start dataType (.fresh indent 1)) stream.template _ _ _ :=
        ⟨planned, rfl, by rw [hidden]; exact obeyed⟩
      rcases accepted.exists_run ended atEnd with ⟨final, done, sink, course⟩
      exact ⟨final, done, sink, congrArg Course.foundYield course⟩
  | true =>
      have obeyed :
          ((Sink.fresh indent 1).suppress true).obeyAll
              (header.instructions ++ .toggle :: footer.instructions) =
            .ok ((Sink.fresh indent 1).laidOut footer) := by
        rw [Sink.obeyAll_append, Sink.obeyAll_instructions_suppressed header _ rfl, Except.bind,
          Sink.obeyAll_cons]
        exact Sink.obeyAll_instructions footer _ rfl Sink.solid_nil footerSolid
      have accepted : compiler.Accepts (.start dataType (.fresh indent 1)) stream.template _ _ _ :=
        ⟨planned, rfl, by rw [hidden]; exact obeyed⟩
      rcases accepted.exists_run ended atEnd with ⟨final, done, sink, course⟩
      exact ⟨final, done, sink, congrArg Course.foundYield course⟩

/-- A run that is suppressed and never yields ends one line and writes nothing else. -/
theorem sink_of_suppressed_run {dataType : DataType} {atEnd : List Journal.Notice}
    {source indent : String} {stream : TokenStream Failure} {position : Position} {final : Run}
    (hidden : compiler.variant.initiallySuppressed = true)
    (ignored : compiler.Ignores stream.template)
    (done : compiler.run atEnd source stream (.start dataType (.fresh indent 1)) =
      .ok position final) :
    final.sink = ((Sink.fresh indent 1).laidOut .nil).finish := by
  rcases accepts_of_run done with ⟨ending, instructions, written, -, -, accepted, sink⟩
  rcases accepted.exists_code (fun _ => TokenStream.kind_of_mem_template) ignored with
    ⟨tree, code, -, -, rfl, -⟩
  have obeyed := accepted.obeyed
  rw [hidden, Sink.obeyAll_instructions_suppressed code _ rfl] at obeyed
  cases obeyed
  exact sink

/--
A run of any variant writes the code of a part of its tokens: of all of them, of
none, or of those on one side of the yield marker.
-/
theorem exists_part_of_run {dataType : DataType} {atEnd : List Journal.Notice}
    {source indent : String} {stream : TokenStream Failure} {position : Position} {final : Run}
    (isVariant : compiler.variant ∈ Variant.all)
    (done : compiler.run atEnd source stream (.start dataType (.fresh indent 1)) =
      .ok position final) :
    ∃ (part : List Token) (tree : SectionTree) (code : Code),
      part ⊆ stream.template ∧ part.map Token.mark = tree.marks ∧
        tree.code? compiler.catalog compiler.settings (.root dataType) = some code ∧
          final.sink = ((Sink.fresh indent 1).laidOut code).finish := by
  by_cases ignored : compiler.Ignores stream.template
  · cases hidden : compiler.variant.initiallySuppressed with
    | false =>
        rcases exists_code_of_run hidden ignored done with ⟨tree, code, marked, resolved, sink⟩
        exact ⟨stream.template, tree, code, List.Subset.refl _, marked, resolved, sink⟩
    | true =>
        exact ⟨[], .nil, .nil, List.nil_subset _, rfl, rfl,
          sink_of_suppressed_run hidden ignored done⟩
  · -- Only the header and the footer look for the marker.
    have expects : compiler.variant.expectsYield = true := by
      simp only [Variant.all, List.mem_cons, List.not_mem_nil, or_false] at isVariant
      rcases isVariant with full | header | footer
      · exact absurd (ignores_of_full full _) ignored
      · rw [header]
        rfl
      · rw [footer]
        rfl
    rcases accepts_of_run done with ⟨ending, instructions, written, ended, -, accepted, -⟩
    rcases exists_yieldParts expects (fun _ => TokenStream.kind_of_mem_template)
        accepted.planned accepted.closed ignored with
      ⟨before, marker, after, header, footer, parts⟩
    rcases exists_run_of_yieldParts compiler parts expects ended atEnd with
      ⟨reached, ran, sink, -⟩
    have same : reached = final := by
      have twice := ran.symm.trans done
      cases twice
      rfl
    rw [← same, sink]
    cases compiler.variant.initiallySuppressed with
    | false =>
        rcases parts.headerTree with ⟨tree, marked, resolved⟩
        exact ⟨before, tree, header, by simp [parts.split.whole], marked, resolved, rfl⟩
    | true =>
        rcases parts.footerTree with ⟨tree, marked, resolved⟩
        refine ⟨after, tree, footer, ?_, marked, resolved, rfl⟩
        rw [parts.split.whole]
        exact fun token member => by simp [member]

/-- The text that a full run writes for tokens into a sink of its own. -/
def fullText (catalog : Catalog) (settings : Settings) (dataType : DataType) (source : String)
    (tokens : List Token) : Except Failure String :=
  let compiler : Compiler := { catalog, settings, variant := .full }
  match compiler.run [] source (.ofList tokens) (.start dataType (.fresh settings.indent 1)) with
  | .ok _ run => .ok run.sink.value
  | .error failure _ => .error failure

theorem fullText_eq_ok_iff {catalog : Catalog} {settings : Settings} {dataType : DataType}
    {source text : String} (endless : ∀ token ∈ tokens, token.kind ≠ .endOfFile) :
    fullText catalog settings dataType source tokens = .ok text ↔
      ∃ (tree : SectionTree) (code : Code),
        tokens.map Token.mark = tree.marks ∧
          tree.code? catalog settings (.root dataType) = some code ∧
            text = code.text settings.indent 1 := by
  have template : (TokenStream.ofList tokens : TokenStream Failure).template = tokens :=
    TokenStream.template_ofList endless
  have ignored (compiler : Compiler) (full : compiler.variant = .full) :
      compiler.Ignores (TokenStream.ofList tokens : TokenStream Failure).template :=
    ignores_of_full full _
  simp only [fullText]
  constructor
  · intro written
    split at written
    · rename_i position run done
      rcases exists_code_of_run rfl (ignored _ rfl) done with ⟨tree, code, marked, resolved, sink⟩
      rw [template] at marked
      cases written
      refine ⟨tree, code, marked, resolved, ?_⟩
      rw [sink, Sink.value_finish_laidOut code settings.indent 1
        (SectionTree.solid_of_code? resolved)]
    · cases written
  · rintro ⟨tree, code, marked, resolved, rfl⟩
    obtain ⟨token, ended⟩ := TokenStream.ending_ofList (ε := Failure) source endless
    obtain ⟨run, done, sink⟩ := exists_run_of_code? rfl
      (ignored { catalog, settings, variant := .full } rfl) (by rw [template]; exact marked)
      resolved ended
    rw [done]
    simp only [sink, Sink.value_finish_laidOut code settings.indent 1
      (SectionTree.solid_of_code? resolved)]

end Compiler

/-! ## Layout requests -/

namespace CompileRequest

open Compiler

variable {request : CompileRequest} {catalog : Catalog} {settings : Settings}

theorem runVariant_eq_of_run {variant : Variant} {sink : Sink} {position : Position} {run : Run}
    (done : Compiler.runText { catalog, settings, variant } request.source request.text
      (.start request.dataType sink) = .ok position run)
    (found : run.foundYield = true) :
    request.runVariant catalog settings sink variant =
      { sink := run.sink, notices := run.notices, foundYield := .ok true } := by
  simp [runVariant, done, found]

/-- A layout variant is compiled only if the tokens have two parts around a yield marker. -/
theorem exists_yieldParts_of_runVariant {variant : Variant} {sink : Sink} {found : Bool}
    (complete : (scan request.source request.text).fault = none)
    (requires : settings.requireYield = true) (expects : variant.expectsYield = true)
    (done : (request.runVariant catalog settings sink variant).foundYield = .ok found) :
    ∃ before marker after header footer,
      YieldParts catalog settings request.dataType (scan request.source request.text).tokens
        before marker after header footer := by
  simp only [runVariant] at done
  split at done
  · cases done
  · rename_i stop run ran
    rcases accepts_of_run ran with ⟨token, instructions, written, -, -, accepted, -⟩
    have endless : ∀ token ∈ (scan request.source request.text).tokens,
        token.kind ≠ .endOfFile := fun _ => kind_of_mem_scan
    rw [Scan.template_stream complete endless] at accepted
    have yielded : run.course.foundYield = true := by
      cases missed : run.foundYield with
      | true => simpa [Run.course] using missed
      | false => simp [expects, requires, missed] at done
    apply exists_yieldParts expects endless accepted.planned accepted.closed
    intro ignored
    rw [foundYield_of_planAll ignored accepted.planned] at yielded
    cases yielded

/-- What a layout variant of a template with two parts writes. -/
theorem runVariant_of_yieldParts (variant : Variant) {before after : List Token}
    {marker : Token} {header footer : Code}
    (complete : (scan request.source request.text).fault = none)
    (expects : variant.expectsYield = true)
    (parts : YieldParts catalog settings request.dataType
      (scan request.source request.text).tokens before marker after header footer) :
    ∃ notices,
      request.runVariant catalog settings (.fresh settings.indent 1) variant =
        { sink :=
            ((Sink.fresh settings.indent 1).laidOut
              (if variant.initiallySuppressed then footer else header)).finish
          notices
          foundYield := .ok true } := by
  have endless : ∀ token ∈ (scan request.source request.text).tokens,
      token.kind ≠ .endOfFile := fun _ => kind_of_mem_scan
  rw [← Scan.template_stream complete endless] at parts
  obtain ⟨run, done, sink, found⟩ := exists_run_of_yieldParts
    { catalog, settings, variant } parts expects
    (Scan.ending_stream request.source complete endless)
    [.templateTokenized request.source (scan request.source request.text).tokens.length]
  refine ⟨run.notices, ?_⟩
  rw [runVariant_eq_of_run done found, sink]

theorem fragments_runVariants_cons {variant : Variant} {rest : List Variant}
    {sink written : Sink} {notices : List Journal.Notice} {found : Bool}
    (done : request.runVariant catalog settings sink variant =
      { sink := written, notices, foundYield := .ok found }) :
    (request.runVariants catalog settings sink (variant :: rest)).fragments =
      (request.runVariants catalog settings written.drained rest).fragments.map
        ({ variant := variant.name, code := written.value, foundYield := found } :: ·) := by
  simp [runVariants, done]

/-- The result of compiling a layout into a header and a footer. -/
def layoutResult (request : CompileRequest) (header footer : String) : CompileResult :=
  { requestId := request.requestId
    template := request.source
    dataModule := request.dataType.moduleName
    dataName := request.dataType.qualifiedName
    layout := true
    fragments :=
      [{ variant := "header", code := header, foundYield := true },
        { variant := "footer", code := footer, foundYield := true }] }

theorem exists_header_of_compile {result : CompileResult} (isLayout : request.layout = true)
    (compiled : (request.compile catalog settings).result = .ok result) :
    ∃ found,
      (request.runVariant catalog settings (.fresh settings.indent 1) .header).foundYield =
        .ok found := by
  cases done :
      (request.runVariant catalog settings (.fresh settings.indent 1) .header).foundYield with
  | ok found => exact ⟨found, rfl⟩
  | error failure => simp [compile, variants, isLayout, runVariants, done] at compiled

theorem compile_of_yieldParts {before after : List Token} {marker : Token} {header footer : Code}
    (isLayout : request.layout = true)
    (complete : (scan request.source request.text).fault = none)
    (parts : YieldParts catalog settings request.dataType
      (scan request.source request.text).tokens before marker after header footer) :
    (request.compile catalog settings).result =
      .ok (request.layoutResult (header.text settings.indent 1)
        (footer.text settings.indent 1)) := by
  rcases parts.headerTree with ⟨headerTree, -, headerResolved⟩
  rcases parts.footerTree with ⟨footerTree, -, footerResolved⟩
  have headerText := Sink.value_finish_laidOut header settings.indent 1
    (SectionTree.solid_of_code? headerResolved)
  have footerText := Sink.value_finish_laidOut footer settings.indent 1
    (SectionTree.solid_of_code? footerResolved)
  rcases runVariant_of_yieldParts .header complete rfl parts with ⟨headerNotices, headerRun⟩
  rcases runVariant_of_yieldParts .footer complete rfl parts with ⟨footerNotices, footerRun⟩
  have fragments :
      (request.runVariants catalog settings (.fresh settings.indent 1)
          [.header, .footer]).fragments =
        .ok (request.layoutResult (header.text settings.indent 1)
          (footer.text settings.indent 1)).fragments := by
    rw [fragments_runVariants_cons headerRun]
    change ((request.runVariants catalog settings (.fresh settings.indent 1)
      [.footer]).fragments).map _ = _
    rw [fragments_runVariants_cons footerRun]
    change Except.ok [Fragment.mk _ ((Sink.fresh settings.indent 1).laidOut header).finish.value _,
      Fragment.mk _ ((Sink.fresh settings.indent 1).laidOut footer).finish.value _] = _
    rw [headerText, footerText]
    rfl
  simp only [compile, resultOf, variants, isLayout, if_true, fragments]
  rfl

/--
A layout compiles exactly when its tokens are divided by one raw yield marker,
and no other reference to it, into two parts that are templates of their own.
The fragments are then the texts of these two templates.
-/
theorem compile_layout_eq_ok_iff (request : CompileRequest) (catalog : Catalog)
    (settings : Settings) (result : CompileResult)
    (isLayout : request.layout = true) (requires : settings.requireYield = true)
    (complete : (scan request.source request.text).fault = none) :
    (request.compile catalog settings).result = .ok result ↔
      ∃ before marker after header footer,
        SplitsAtYield settings (scan request.source request.text).tokens before marker after ∧
          fullText catalog settings request.dataType request.source before = .ok header ∧
            fullText catalog settings request.dataType request.source after = .ok footer ∧
              result = request.layoutResult header footer := by
  have endless : ∀ token ∈ (scan request.source request.text).tokens,
      token.kind ≠ .endOfFile := fun _ => kind_of_mem_scan
  constructor
  · intro compiled
    rcases exists_header_of_compile isLayout compiled with ⟨found, headerDone⟩
    rcases exists_yieldParts_of_runVariant complete requires rfl headerDone with
      ⟨before, marker, after, header, footer, parts⟩
    rw [compile_of_yieldParts isLayout complete parts, Except.ok.injEq] at compiled
    have split := parts.split
    rcases parts.headerTree with ⟨headerTree, headerMarked, headerResolved⟩
    rcases parts.footerTree with ⟨footerTree, footerMarked, footerResolved⟩
    rw [split.whole] at endless
    exact ⟨before, marker, after, _, _, split,
      (fullText_eq_ok_iff fun token member => endless token (by simp [member])).mpr
        ⟨headerTree, header, headerMarked, headerResolved, rfl⟩,
      (fullText_eq_ok_iff fun token member => endless token (by simp [member])).mpr
        ⟨footerTree, footer, footerMarked, footerResolved, rfl⟩,
      compiled.symm⟩
  · rintro ⟨before, marker, after, headerText, footerText, split, headerWritten, footerWritten,
      rfl⟩
    rw [split.whole] at endless
    obtain ⟨headerTree, header, headerMarked, headerResolved, rfl⟩ :=
      (fullText_eq_ok_iff fun token member => endless token (by simp [member])).mp headerWritten
    obtain ⟨footerTree, footer, footerMarked, footerResolved, rfl⟩ :=
      (fullText_eq_ok_iff fun token member => endless token (by simp [member])).mp footerWritten
    exact compile_of_yieldParts isLayout complete
      ⟨split, ⟨headerTree, headerMarked, headerResolved⟩,
        ⟨footerTree, footerMarked, footerResolved⟩⟩

/-- A layout with a block before its yield marker and a reference after it. -/
def pageLayout : CompileRequest :=
  { text :=
      "\x7b\x7b#flag\x7d\x7da\x7b\x7b/flag\x7d\x7d\x7b\x7b\x7byield\x7d\x7d\x7d" ++
        "\x7b\x7btitle\x7d\x7d\n"
    dataType := Compiler.page
    layout := true
    requestId := "request" }

theorem compile_layout_eq_ok_iff_pageLayout :
    (scan pageLayout.source pageLayout.text).fault = none ∧
      ∃ result,
        (pageLayout.compile pages.catalog {}).result = .ok result ∧
          ∃ before marker after header footer,
            SplitsAtYield {} (scan pageLayout.source pageLayout.text).tokens before marker
                after ∧
              fullText pages.catalog {} page pageLayout.source before = .ok header ∧
                fullText pages.catalog {} page pageLayout.source after = .ok footer ∧
                  result = pageLayout.layoutResult header footer := by
  have complete : (scan pageLayout.source pageLayout.text).fault = none := by decide +kernel
  obtain ⟨result, compiled⟩ := Attempt.exists_of_isOk
    (show (pageLayout.compile pages.catalog {}).result.isOk = true by decide +kernel)
  exact ⟨complete, result, compiled,
    (compile_layout_eq_ok_iff pageLayout pages.catalog {} result rfl rfl complete).mp compiled⟩

end CompileRequest

end TypedMustache
