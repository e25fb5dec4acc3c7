import TypedMustache.Proofs.Compilation.RunFailure
import TypedMustache.Proofs.Compilation.YieldSplit

/-!
# The two runs of a layout agree

The header and the footer of a layout come from two runs over the same tokens,
which differ in what they suppress.  What a token is allowed to do, however, is
decided by its plan, and a plan knows of a variant only whether it expects the
layout to yield.  A sink has no say in it: whatever it holds, it carries out the
plan of every token.

So a run succeeds or fails as its plans do (`Compiler.verdict`), and the two runs
of a layout come to the same end.  In particular the footer of a layout never
fails once its header is compiled.
-/

namespace TypedMustache

namespace Compiler

variable {compiler : Compiler} {course : Course}

/-! ## Verdicts -/

/--
What a run comes to according to the plans of its tokens: the place where the
template ends and the course at the end, or the first failure.
-/
def verdict (compiler : Compiler) (source : String) (stream : TokenStream Failure)
    (dataType : DataType) : Except Failure (Position × Course) :=
  (compiler.planAll (.start dataType) stream.template).bind fun planned =>
    (stream.ending source none).bind fun ending =>
      ((compiler.plan planned.2 ending).mapError (·.locate ending.position)).map fun last =>
        (ending.position, last.2)

/-- The place where a template ends and the course at the end, without the sink. -/
def withoutSink : Position × Sink × Course → Position × Course :=
  fun (position, _, course) => (position, course)

/-- A sink that holds the open sections has no say in what a token comes to. -/
theorem map_proceed {sink : Sink} (holds : sink.Holds course.scope.depth) (token : Token) :
    (compiler.proceed (sink, course) token).map (·.2) =
      ((compiler.plan course token).mapError (·.locate token.position)).map (·.2) := by
  cases planned : compiler.plan course token with
  | error reason =>
      rw [proceed_of_refused planned]
      rfl
  | ok made =>
      rcases (move_of_plan planned).exists_obeyed holds with ⟨written, obeyed, -⟩
      rw [proceed_eq_ok_iff.mpr ⟨made.1, planned, obeyed⟩]
      rfl

/-- A run from the start succeeds or fails as its plans do, whatever its sink holds. -/
theorem map_report_run
    (compiler : Compiler) (atEnd : List Journal.Notice) (source : String)
    (stream : TokenStream Failure) (dataType : DataType) (sink : Sink) :
    (Run.report (compiler.run atEnd source stream (.start dataType sink))).map withoutSink =
      compiler.verdict source stream dataType := by
  have holds : (sink.suppress compiler.variant.initiallySuppressed).Holds
      (Course.start dataType).scope.depth :=
    Sink.holds_zero _
  cases planned : compiler.planAll (.start dataType) stream.template with
  | error failure =>
      rw [report_run_of_refused planned, verdict, planned]
      rfl
  | ok made =>
      rcases exists_obeyAll_of_planAll planned holds with ⟨written, obeyed, held⟩
      have proceeded :
          compiler.proceedAll
              ((Run.start dataType sink).sink.suppress compiler.variant.initiallySuppressed,
                { scope := (Run.start dataType sink).scope, foundYield := false })
              stream.template =
            .ok (written, made.2) :=
        proceedAll_eq_ok_iff.mpr ⟨made.1, planned, obeyed⟩
      rw [report_run, verdict, planned, proceeded]
      cases stream.ending source none with
      | error failure =>
          rfl
      | ok ending =>
          simp only [Except.bind]
          calc
            _ = ((compiler.proceed (written, made.2) ending).map (·.2)).map
                  (ending.position, ·) := by
                cases compiler.proceed (written, made.2) ending <;> rfl
            _ = (((compiler.plan made.2 ending).mapError (·.locate ending.position)).map
                  (·.2)).map (ending.position, ·) := by
                rw [map_proceed held]
            _ = _ := by
                cases compiler.plan made.2 ending <;> rfl

/-! ## Variants that expect a layout to yield -/

/-- All that a plan knows of a variant is whether it expects the layout to yield. -/
theorem plan_eq_of_expectsYield
    {catalog : Catalog} {settings : Settings} {first second : Variant}
    (same : first.expectsYield = second.expectsYield) (course : Course) (token : Token) :
    plan { catalog, settings, variant := first } course token =
      plan { catalog, settings, variant := second } course token := by
  simp only [plan, isYield, same]
  rfl

theorem planAll_eq_of_expectsYield
    {catalog : Catalog} {settings : Settings} {first second : Variant}
    (same : first.expectsYield = second.expectsYield) (course : Course) (tokens : List Token) :
    planAll { catalog, settings, variant := first } course tokens =
      planAll { catalog, settings, variant := second } course tokens := by
  induction tokens generalizing course with
  | nil =>
      rfl
  | cons token rest ih =>
      simp only [planAll, plan_eq_of_expectsYield same, ih]

theorem verdict_eq_of_expectsYield
    (catalog : Catalog) (settings : Settings) {first second : Variant}
    (same : first.expectsYield = second.expectsYield) (source : String)
    (stream : TokenStream Failure) (dataType : DataType) :
    verdict { catalog, settings, variant := first } source stream dataType =
      verdict { catalog, settings, variant := second } source stream dataType := by
  simp only [verdict, planAll_eq_of_expectsYield same, plan_eq_of_expectsYield same]

/--
Two runs come to the same end: both succeed, at the same place and with the same
answer to whether the template yields, or both fail for the same reason.
-/
inductive EndAlike : (first second : EStateM.Result Failure Run Position) → Prop where
  | succeed {place : Position} {run other : Run} (found : run.foundYield = other.foundYield) :
      EndAlike (.ok place run) (.ok place other)
  | fail {failure : Failure} {run other : Run} :
      EndAlike (.error failure run) (.error failure other)

/-- Runs of variants that both expect a layout to yield, or both do not, come to the same end. -/
theorem endAlike_of_expectsYield
    (catalog : Catalog) (settings : Settings) {first second : Variant}
    (same : first.expectsYield = second.expectsYield)
    (firstNotices secondNotices : List Journal.Notice) (source : String)
    (stream : TokenStream Failure) (dataType : DataType) (firstSink secondSink : Sink) :
    EndAlike
      (run { catalog, settings, variant := first } firstNotices source stream
        (.start dataType firstSink))
      (run { catalog, settings, variant := second } secondNotices source stream
        (.start dataType secondSink)) := by
  have verdicts := verdict_eq_of_expectsYield catalog settings same source stream dataType
  rw [← map_report_run _ firstNotices source stream dataType firstSink,
    ← map_report_run _ secondNotices source stream dataType secondSink] at verdicts
  revert verdicts
  cases run { catalog, settings, variant := first } firstNotices source stream
      (.start dataType firstSink) with
  | ok place reached =>
      cases run { catalog, settings, variant := second } secondNotices source stream
          (.start dataType secondSink) with
      | ok otherPlace other =>
          intro verdicts
          simp only [Run.report, Except.map, withoutSink, Except.ok.injEq,
            Prod.mk.injEq] at verdicts
          rcases verdicts with ⟨rfl, courses⟩
          exact .succeed (congrArg Course.foundYield courses)
      | error failure other =>
          intro verdicts
          cases verdicts
  | error failure reached =>
      cases run { catalog, settings, variant := second } secondNotices source stream
          (.start dataType secondSink) with
      | ok otherPlace other =>
          intro verdicts
          cases verdicts
      | error otherFailure other =>
          intro verdicts
          simp only [Run.report, Except.map, Except.error.injEq] at verdicts
          rw [verdicts]
          exact .fail

end Compiler

namespace CompileRequest

open Compiler

/-! ## Layout requests -/

theorem expectsYield_header : Variant.header.expectsYield = Variant.footer.expectsYield := rfl

/-- The header and the footer of a template fail for the same reason, or find the same yield. -/
theorem foundYield_footer_eq
    (request : CompileRequest) (catalog : Catalog) (settings : Settings)
    (headerSink footerSink : Sink) :
    (request.runVariant catalog settings footerSink .footer).foundYield =
      (request.runVariant catalog settings headerSink .header).foundYield := by
  have alike :
      EndAlike
        (runText { catalog, settings, variant := .header } request.source request.text
          (.start request.dataType headerSink))
        (runText { catalog, settings, variant := .footer } request.source request.text
          (.start request.dataType footerSink)) :=
    endAlike_of_expectsYield catalog settings expectsYield_header _ _ _ _ _ _ _
  simp only [runVariant]
  revert alike
  cases runText { catalog, settings, variant := .header } request.source request.text
      (.start request.dataType headerSink) with
  | ok place header =>
      cases runText { catalog, settings, variant := .footer } request.source request.text
          (.start request.dataType footerSink) with
      | ok otherPlace footer =>
          intro alike
          cases alike with
          | succeed found =>
              simp only [found]
              rfl
      | error failure footer =>
          intro impossible
          cases impossible
  | error failure header =>
      cases runText { catalog, settings, variant := .footer } request.source request.text
          (.start request.dataType footerSink) with
      | ok otherPlace footer =>
          intro impossible
          cases impossible
      | error otherFailure footer =>
          intro alike
          cases alike with
          | fail =>
              rfl

/-- A layout compiles if its header does, and both of its fragments then found the same yield. -/
theorem exists_result_of_header
    {request : CompileRequest} {catalog : Catalog} {settings : Settings} {found : Bool}
    (isLayout : request.layout = true)
    (done : (request.runVariant catalog settings (.fresh settings.indent 1) .header).foundYield =
      .ok found) :
    ∃ result header footer,
      (request.compile catalog settings).result = .ok result ∧
        result.fragments =
          [{ variant := "header", code := header, foundYield := found },
            { variant := "footer", code := footer, foundYield := found }] := by
  have footerDone := request.foundYield_footer_eq catalog settings (.fresh settings.indent 1)
    (request.runVariant catalog settings (.fresh settings.indent 1) .header).sink.drained
  rw [done] at footerDone
  have fragments :
      (request.runVariants catalog settings (.fresh settings.indent 1)
          request.variants).fragments =
        .ok
          [{ variant := "header"
             code :=
              (request.runVariant catalog settings (.fresh settings.indent 1) .header).sink.value
             foundYield := found },
            { variant := "footer"
              code :=
                (request.runVariant catalog settings
                  (request.runVariant catalog settings (.fresh settings.indent 1)
                    .header).sink.drained .footer).sink.value
              foundYield := found }] := by
    simp only [variants, isLayout, if_true, runVariants, done, footerDone, Except.map]
    rfl
  simp only [compile, fragments]
  exact ⟨_, _, _, rfl, rfl⟩

/--
The header run and the footer run over the same tokens, from the same root and
into any two sinks, both succeed, at the same place and with the same answer to
whether the layout yields, or both fail for the same reason.  Hence the footer of
a layout that is compiled never fails after its header was compiled.
-/
theorem layoutVariants_agree
    (catalog : Catalog) (settings : Settings) (atEnd : List Journal.Notice) (source : String)
    (stream : TokenStream Failure) (dataType : DataType) (headerSink footerSink : Sink)
    (request : CompileRequest) :
    EndAlike
        (run { catalog, settings, variant := .header } atEnd source stream
          (.start dataType headerSink))
        (run { catalog, settings, variant := .footer } atEnd source stream
          (.start dataType footerSink)) ∧
      (request.layout = true →
        ∀ found,
          (request.runVariant catalog settings (.fresh settings.indent 1) .header).foundYield =
              .ok found →
            ∃ result header footer,
              (request.compile catalog settings).result = .ok result ∧
                result.fragments =
                  [{ variant := "header", code := header, foundYield := found },
                    { variant := "footer", code := footer, foundYield := found }]) := by
  constructor
  · exact endAlike_of_expectsYield catalog settings expectsYield_header atEnd atEnd source stream
      dataType headerSink footerSink
  · intro isLayout found done
    exact exists_result_of_header isLayout done

theorem layoutVariants_agree_pageLayout :
    EndAlike
        (run { catalog := pages.catalog, settings := {}, variant := .header } [] "page"
          (.ofList pageTokens) (.start page (.fresh "  " 1)))
        (run { catalog := pages.catalog, settings := {}, variant := .footer } [] "page"
          (.ofList pageTokens) (.start page (.fresh "" 3))) ∧
      pageLayout.layout = true ∧
        ∃ found,
          (pageLayout.runVariant pages.catalog {} (.fresh ({} : Settings).indent 1)
              .header).foundYield = .ok found ∧
            ∃ result header footer,
              (pageLayout.compile pages.catalog {}).result = .ok result ∧
                result.fragments =
                  [{ variant := "header", code := header, foundYield := found },
                    { variant := "footer", code := footer, foundYield := found }] := by
  obtain ⟨found, done⟩ := Attempt.exists_of_isOk
    (show (pageLayout.runVariant pages.catalog {} (.fresh ({} : Settings).indent 1)
      .header).foundYield.isOk = true by decide +kernel)
  obtain ⟨alike, compiles⟩ := layoutVariants_agree pages.catalog {} [] "page"
    (.ofList pageTokens) page (.fresh "  " 1) (.fresh "" 3) pageLayout
  exact ⟨alike, rfl, found, done, compiles rfl found done⟩

end CompileRequest

end TypedMustache
