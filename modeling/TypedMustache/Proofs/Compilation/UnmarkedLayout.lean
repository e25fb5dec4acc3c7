import TypedMustache.Proofs.Compilation.FailedRun
import TypedMustache.Proofs.Compilation.LayoutVariants
import TypedMustache.Proofs.Compilation.LocatedFailure

/-!
# Layouts without a marker

Where no reference names the yield marker, the three variants of a run do the same
to everything but the sink.  A `Sink.View` is a way to look at a sink that all
instructions respect, and `Compiler.viewed_feedFrom` says that a run of one variant,
looked at in this way, is a run of another one.

Two views are needed.  Under the first a sink is seen as it is, and it follows that
the header is what the full variant writes.  Under the second nothing is seen but
the level.  It follows that the footer has nothing in it, although its sections are
opened, looked up and closed like those of the full variant.
-/

namespace TypedMustache

/-- None of the tokens refers to the yield marker. -/
def Unmarked (settings : Settings) (tokens : List Token) : Prop :=
  ∀ token ∈ tokens, token.isReference = true → token.value ≠ settings.yieldMarker

/-! ## Views of sinks -/

namespace Sink

/-- A way to see a sink, given the number of open sections, that instructions respect. -/
structure View where
  see : Nat → Sink → Sink
  /-- The sinks that can be seen in this way. -/
  Fits : Nat → Sink → Prop
  write {depth : Nat} {sink : Sink} (statement : String) (fits : Fits depth sink) :
    Fits depth (sink.write statement) ∧
      see depth (sink.write statement) = (see depth sink).write statement
  endLine {depth : Nat} {sink : Sink} (fits : Fits depth sink) :
    Fits depth sink.endLine ∧ see depth sink.endLine = (see depth sink).endLine
  openBlock {depth : Nat} {sink : Sink} (header : String) (fits : Fits depth sink) :
    Fits (depth + 1) (sink.openBlock header) ∧
      see (depth + 1) (sink.openBlock header) = (see depth sink).openBlock header
  closed {depth : Nat} {sink after : Sink} {trailer : String} (fits : Fits (depth + 1) sink)
    (done : closeBlock (some trailer) sink = .ok () after) :
    Fits depth after ∧ closeBlock (some trailer) (see (depth + 1) sink) = .ok () (see depth after)
  unclosed {depth : Nat} {sink after : Sink} {trailer : String} {failure : Failure}
    (fits : Fits (depth + 1) sink)
    (failed : closeBlock (some trailer) sink = .error failure after) :
    closeBlock (some trailer) (see (depth + 1) sink) = .error failure (see (depth + 1) after)

namespace View

/-- A sink seen as it is. -/
def whole : View where
  see _ sink := sink
  Fits _ _ := True
  write _ _ := ⟨trivial, rfl⟩
  endLine _ := ⟨trivial, rfl⟩
  openBlock _ _ := ⟨trivial, rfl⟩
  closed _ done := ⟨trivial, done⟩
  unclosed _ failed := failed

/-- Nothing is seen but how deep the sections are, in a sink that drops what it is given. -/
def dry (base : Sink) (floor : Int) : View where
  see depth _ := { base with level := floor + depth, suppressed := true }
  Fits depth sink := sink.Holds depth
  write statement fits := ⟨fits.write statement, rfl⟩
  endLine fits := ⟨fits.endLine, rfl⟩
  openBlock header fits := by
    refine ⟨fits.openBlock header, ?_⟩
    simp only [Sink.openBlock, if_true]
    push_cast
    rw [Int.add_assoc]
  closed := by
    intro depth sink after trailer fits done
    rcases fits.exists_closed trailer with ⟨other, obeyed, held⟩
    rw [obey, done, Except.ok.injEq] at obeyed
    subst obeyed
    refine ⟨held, ?_⟩
    simp only [closeBlock, if_true]
    push_cast
    rw [← Int.add_assoc, Int.add_sub_cancel]
  unclosed := by
    intro depth sink after trailer failure fits failed
    rcases fits.exists_closed trailer with ⟨other, obeyed, -⟩
    rw [obey, failed] at obeyed
    cases obeyed

end View

end Sink

/-! ## Views of runs -/

namespace Run

/-- A run with its sink seen in some way, that has not come to a yield marker. -/
def seen (run : Run) (view : Sink.View) : Run :=
  { run with foundYield := false, sink := view.see run.scope.depth run.sink }

/-- A part of a run comes to what is seen of another one. -/
inductive Viewed {α : Type} (view : Sink.View) :
    (result other : EStateM.Result Failure Run α) → Prop where
  | ok {answer : α} {after other : Run} (fits : view.Fits after.scope.depth after.sink)
      (same : other = after.seen view) : Viewed view (.ok answer after) (.ok answer other)
  | error {failure : Failure} {after other : Run} (same : other = after.seen view) :
      Viewed view (.error failure after) (.error failure other)

variable {view : Sink.View} {run : Run}

/-- A sequence is seen alike if its parts are. -/
theorem Viewed.bind {α β : Type} {first second : RunM α} {next other : α → RunM β}
    (begun : Viewed view (first run) (second (run.seen view)))
    (later : ∀ answer after, view.Fits after.scope.depth after.sink →
      Viewed view (next answer after) (other answer (after.seen view))) :
    Viewed view ((first >>= next) run) ((second >>= other) (run.seen view)) := by
  rw [Attempt.bind_apply, Attempt.bind_apply]
  generalize first run = result at begun
  generalize second (run.seen view) = reply at begun
  cases begun with
  | ok fits same =>
      subst same
      exact later _ _ fits
  | error same =>
      exact .error same

theorem viewed_note (notices : List Journal.Notice)
    (fits : view.Fits run.scope.depth run.sink) :
    Viewed view (note notices run) (note notices (run.seen view)) :=
  .ok fits rfl

theorem viewed_write (statement : String) (fits : view.Fits run.scope.depth run.sink) :
    Viewed view (onSink (·.write statement) run)
      (onSink (·.write statement) (run.seen view)) := by
  rcases view.write statement fits with ⟨still, same⟩
  refine .ok still ?_
  simp only [seen, same]

theorem viewed_endLine (fits : view.Fits run.scope.depth run.sink) :
    Viewed view (onSink Sink.endLine run) (onSink Sink.endLine (run.seen view)) := by
  rcases view.endLine fits with ⟨still, same⟩
  refine .ok still ?_
  simp only [seen, same]

end Run

namespace Compiler

open Run

variable {catalog : Catalog} {settings : Settings} {first second : Variant}
  {view : Sink.View} {run : Run}

/-- Names are looked up alike in both variants. -/
theorem viewed_scopeOver (name : String) (inverted : Bool)
    (fits : view.Fits run.scope.depth run.sink) :
    Viewed view (scopeOver { catalog, settings, variant := first } name inverted run)
      (scopeOver { catalog, settings, variant := second } name inverted (run.seen view)) := by
  simp only [scopeOver, Attempt.bind_apply, Attempt.get_apply, note_apply, seen]
  cases (run.scope.enter catalog name inverted).outcome with
  | error failure =>
      exact .error rfl
  | ok scope =>
      exact .ok fits rfl

/-- Sections are opened alike. -/
theorem viewed_openSection (name : String) (inverted : Bool)
    (fits : view.Fits run.scope.depth run.sink) :
    Viewed view (openSection { catalog, settings, variant := first } name inverted run)
      (openSection { catalog, settings, variant := second } name inverted (run.seen view)) := by
  simp only [openSection, scopeOver, Attempt.bind_apply, Attempt.get_apply, note_apply, seen]
  cases entered : (run.scope.enter catalog name inverted).outcome with
  | error failure =>
      exact .error rfl
  | ok scope =>
      rcases view.openBlock (scope.header settings) fits with ⟨still, same⟩
      rw [← Scope.depth_of_enter entered] at still same
      refine .ok still ?_
      simp only [seen, same]

/-- Sections are closed alike. -/
theorem viewed_closeSection (name : String) (fits : view.Fits run.scope.depth run.sink) :
    Viewed view (closeSection name run) (closeSection name (run.seen view)) := by
  simp only [closeSection, Attempt.bind_apply, Attempt.get_apply, seen]
  cases opened : run.scope.sections with
  | nil =>
      exact .error rfl
  | cons innermost outer =>
      by_cases other : (innermost.name != name) = true
      · simp only [other, if_true]
        exact .error rfl
      · have depth : run.scope.depth = outer.length + 1 := by
          rw [Scope.depth, opened, List.length_cons]
        simp only [other, Bool.false_eq_true, if_false, Attempt.bind_apply, closeBlock,
          depth] at fits ⊢
        cases done : Sink.closeBlock (some innermost.trailer) run.sink with
        | ok answer closed =>
            rcases view.closed fits done with ⟨still, same⟩
            simp only [same]
            exact .ok still rfl
        | error failure after =>
            have same := view.unclosed fits done
            simp only [same]
            refine .error ?_
            simp only [seen, depth]

theorem viewed_checkEnd (fits : view.Fits run.scope.depth run.sink) :
    Viewed view (checkEnd run) (checkEnd (run.seen view)) := by
  simp only [checkEnd, Attempt.bind_apply, Attempt.get_apply, seen]
  cases run.scope.sections with
  | nil =>
      exact .ok fits rfl
  | cons innermost outer =>
      exact .error rfl

/-- A token that names no yield marker does the same in every variant. -/
theorem viewed_step {token : Token}
    (unmarked : token.isReference = true → token.value ≠ settings.yieldMarker)
    (fits : view.Fits run.scope.depth run.sink) :
    Viewed view (step { catalog, settings, variant := first } token run)
      (step { catalog, settings, variant := second } token (run.seen view)) := by
  have ignored (variant : Variant) (isReference : token.isReference = true) :
      isYield { catalog, settings, variant } token.value = false := by
    simp [isYield, unmarked isReference]
  have referring (escaped : Bool) :
      Viewed view
        (writeReference { catalog, settings, variant := first } token.value escaped run)
        (writeReference { catalog, settings, variant := second } token.value escaped
          (run.seen view)) := by
    apply (viewed_scopeOver token.value false fits).bind
    intro scope _ still
    cases scope.writeStatement catalog settings escaped with
    | error _ => exact .error rfl
    | ok statement => exact viewed_write statement still
  unfold step
  cases kind : token.kind with
  | text =>
      exact viewed_write _ fits
  | special =>
      apply Viewed.bind (viewed_write _ fits)
      intro _ after still
      split
      · exact viewed_endLine still
      · exact .ok still rfl
  | reference =>
      have isReference : token.isReference = true := by simp [Token.isReference, kind]
      simp only [ignored _ isReference, Bool.false_eq_true, if_false]
      exact referring true
  | rawReference =>
      have isReference : token.isReference = true := by simp [Token.isReference, kind]
      simp only [ignored _ isReference, Bool.false_eq_true, if_false]
      exact referring false
  | sectionOpen =>
      exact viewed_openSection token.value false fits
  | invertedOpen =>
      exact viewed_openSection token.value true fits
  | sectionClose =>
      exact viewed_closeSection token.value fits
  | endOfFile =>
      exact viewed_checkEnd fits

/-- Unless it is a marker, a token is processed alike. -/
theorem viewed_process {token : Token}
    (unmarked : token.isReference = true → token.value ≠ settings.yieldMarker)
    (fits : view.Fits run.scope.depth run.sink) :
    Viewed view (process { catalog, settings, variant := first } token run)
      (process { catalog, settings, variant := second } token (run.seen view)) := by
  have stepped : Viewed view (step { catalog, settings, variant := first } token run)
      (step { catalog, settings, variant := second } token (run.seen view)) :=
    viewed_step unmarked fits
  unfold process
  generalize step { catalog, settings, variant := first } token run = result at stepped
  generalize step { catalog, settings, variant := second } token (run.seen view) = other
    at stepped
  cases stepped with
  | ok still same =>
      exact .ok still same
  | error same =>
      exact .error same

/-- The same for a token with its notices. -/
theorem viewed_processNoting (atEnd : List Journal.Notice) {token : Token}
    (unmarked : token.isReference = true → token.value ≠ settings.yieldMarker)
    (fits : view.Fits run.scope.depth run.sink) :
    Viewed view (processNoting { catalog, settings, variant := first } atEnd token run)
      (processNoting { catalog, settings, variant := second } atEnd token (run.seen view)) := by
  unfold processNoting
  split
  · exact (viewed_note atEnd fits).bind fun _ _ still => viewed_process unmarked still
  · exact viewed_process unmarked fits

/-- A run over tokens that name no yield marker, seen in some way, is one of another variant. -/
theorem viewed_feedFrom {stream : TokenStream Failure}
    (unmarked : Unmarked settings stream.template)
    (atEnd : List Journal.Notice) (source : String) (last : Option Position)
    (fits : view.Fits run.scope.depth run.sink) :
    Viewed view
      (stream.feedFrom (processNoting { catalog, settings, variant := first } atEnd) source last
        run)
      (stream.feedFrom (processNoting { catalog, settings, variant := second } atEnd) source last
        (run.seen view)) := by
  have ending {token : Token} (isEnd : token.kind = .endOfFile)
      (isReference : token.isReference = true) : token.value ≠ settings.yieldMarker := by
    simp [Token.isReference, isEnd] at isReference
  induction stream generalizing last run with
  | exhausted =>
      apply Viewed.bind (viewed_processNoting atEnd (ending rfl) fits)
      intro _ after still
      exact .ok still rfl
  | broken failure =>
      exact .error rfl
  | next token rest ih =>
      by_cases isEnd : token.kind = .endOfFile
      · apply Viewed.bind (viewed_processNoting atEnd (ending isEnd) fits)
        intro _ after still
        rw [if_pos isEnd, if_pos isEnd]
        exact .ok still rfl
      · simp only [Unmarked, TokenStream.template, isEnd, if_false, List.forall_mem_cons]
          at unmarked
        apply Viewed.bind (viewed_processNoting atEnd unmarked.1 fits)
        intro _ after still
        rw [if_neg isEnd, if_neg isEnd]
        exact ih unmarked.2 (some token.position) still

/-! ## Whole runs -/

/-- The state in which a run of a variant meets its first token. -/
def begun (start : Run) (variant : Variant) : Run :=
  { start with
    foundYield := false
    sink := start.sink.suppress variant.initiallySuppressed }

/-- What a run comes to when its tokens are used up or one of them fails. -/
def ended (start : Run) :
    EStateM.Result Failure Run Position → EStateM.Result Failure Run Position
  | .error failure after =>
      .error failure { after with sink := after.sink.rollback start.sink.mark }
  | .ok position after =>
      .ok position { after with sink := after.sink.finish.suppress start.sink.suppressed }

/-- A run is what feeding its tokens leaves, ended. -/
theorem run_eq_ended
    (compiler : Compiler) (atEnd : List Journal.Notice) (source : String)
    (stream : TokenStream Failure) (start : Run) :
    compiler.run atEnd source stream start =
      ended start
        (stream.feed (compiler.processNoting atEnd) source (begun start compiler.variant)) := by
  unfold run ended
  rfl

section Unmarked

variable {stream : TokenStream Failure} (unmarked : Unmarked settings stream.template)
  (catalog : Catalog) (atEnd : List Journal.Notice) (source : String) (start : Run)

include unmarked

/-- Where nothing names the marker no run comes to it, and the variant does not matter. -/
theorem feed_of_unmarked (first second : Variant) (unfound : run.foundYield = false) :
    stream.feed (processNoting { catalog, settings, variant := second } atEnd) source run =
        stream.feed (processNoting { catalog, settings, variant := first } atEnd) source run ∧
      (Attempt.final
        (stream.feed (processNoting { catalog, settings, variant := first } atEnd) source
          run)).foundYield = false := by
  have asItIs : run.seen .whole = run := by
    rw [seen, ← unfound]
    rfl
  have viewed (variant : Variant) :
      Viewed .whole
        (stream.feed (processNoting { catalog, settings, variant := first } atEnd) source run)
        (stream.feed (processNoting { catalog, settings, variant } atEnd) source run) := by
    have fed : Viewed .whole
        (stream.feed (processNoting { catalog, settings, variant := first } atEnd) source run)
        (stream.feed (processNoting { catalog, settings, variant } atEnd) source
          (run.seen .whole)) :=
      viewed_feedFrom unmarked atEnd source none trivial
    rwa [asItIs] at fed
  have own := viewed first
  have other := viewed second
  generalize stream.feed (processNoting { catalog, settings, variant := first } atEnd) source
    run = result at own other ⊢
  generalize stream.feed (processNoting { catalog, settings, variant := second } atEnd) source
    run = reply at other ⊢
  cases own with
  | ok _ same =>
      cases other with
      | ok _ sameOther =>
          exact ⟨by rw [sameOther, ← same], congrArg Run.foundYield same⟩
  | error same =>
      cases other with
      | error sameOther =>
          exact ⟨by rw [sameOther, ← same], congrArg Run.foundYield same⟩

/-- Without a marker no variant finds one. -/
theorem foundYield_of_unmarked (variant : Variant) :
    (Attempt.final
      (Compiler.run { catalog, settings, variant } atEnd source stream start)).foundYield =
        false := by
  have fed :
      (Attempt.final
        (stream.feed (processNoting { catalog, settings, variant } atEnd) source
          (begun start variant))).foundYield = false :=
    (feed_of_unmarked unmarked catalog atEnd source variant variant rfl).2
  rw [run_eq_ended]
  generalize stream.feed (processNoting { catalog, settings, variant } atEnd) source
    (begun start variant) = result at fed
  cases result with
  | ok position after =>
      exact fed
  | error failure after =>
      exact fed

/-- The header of a layout without a marker is what the full variant writes. -/
theorem run_header_eq_run_full :
    Compiler.run { catalog, settings, variant := .header } atEnd source stream start =
      Compiler.run { catalog, settings, variant := .full } atEnd source stream start := by
  rw [run_eq_ended, run_eq_ended]
  exact congrArg (ended start)
    (feed_of_unmarked unmarked catalog atEnd source .full .header rfl).1

end Unmarked

/-- The sink of a run as it stands outside of all sections that are open. -/
def outside (start : Run) : Sink :=
  { start.sink with level := start.sink.level - start.scope.depth }

/-- Outside of all sections there is the whole sink. -/
theorem outside_of_closed {start : Run} (closed : start.scope.sections = []) :
    outside start = start.sink := by
  simp [outside, Scope.depth, closed]

/-- What a run comes to if it leaves another sink than it does, in case that it succeeds. -/
def leaving (sink : Sink) :
    EStateM.Result Failure Run Position → EStateM.Result Failure Run Position
  | .ok position after => .ok position { after with sink }
  | .error failure after => .error failure after

/--
The footer of a layout without a marker has nothing in it.  The sink needs a block
for each section that is open at the start, since the full variant closes them.
-/
theorem run_footer_eq_leaving
    {stream : TokenStream Failure} (unmarked : Unmarked settings stream.template)
    (catalog : Catalog) (atEnd : List Journal.Notice) (source : String) (start : Run)
    (holds : start.scope.depth ≤ start.sink.blocks.length) :
    Compiler.run { catalog, settings, variant := .footer } atEnd source stream start =
      leaving (outside start).finish
        (Compiler.run { catalog, settings, variant := .full } atEnd source stream start) := by
  have unfound := foundYield_of_unmarked unmarked catalog atEnd source start .full
  have begunDry : begun start .footer =
      (begun start .full).seen (.dry start.sink (start.sink.level - start.scope.depth)) := by
    simp only [begun, seen, Sink.View.dry, Sink.suppress, Variant.footer, Int.sub_add_cancel]
  have fits : Sink.Holds (begun start .full).sink (begun start .full).scope.depth :=
    fun _ => holds
  have viewed :
      Viewed (.dry start.sink (start.sink.level - start.scope.depth))
        (stream.feed (processNoting { catalog, settings, variant := .full } atEnd) source
          (begun start .full))
        (stream.feed (processNoting { catalog, settings, variant := .footer } atEnd) source
          (begun start .footer)) := by
    rw [begunDry]
    exact viewed_feedFrom unmarked atEnd source none fits
  have full := run_eq_ended { catalog, settings, variant := .full } atEnd source stream start
  have footer := run_eq_ended { catalog, settings, variant := .footer } atEnd source stream start
  dsimp only at full footer
  generalize stream.feed (processNoting { catalog, settings, variant := .full } atEnd) source
    (begun start .full) = result at full viewed
  generalize stream.feed (processNoting { catalog, settings, variant := .footer } atEnd) source
    (begun start .footer) = reply at footer viewed
  cases viewed with
  | @ok position after other _ same =>
      -- At the end of a template no section is open, so the level is that of the outside.
      rcases accepts_of_run full with ⟨ending, instructions, written, -, -, accepted, -⟩
      have closed : after.scope.depth = 0 := List.length_eq_zero_iff.mpr accepted.closed
      rw [full] at unfound ⊢
      have never : after.foundYield = false := unfound
      rw [footer, same]
      simp only [ended, leaving, seen, never, closed, Sink.View.dry, outside]
      rw [Int.natCast_zero, Int.add_zero]
      rfl
  | @error failure after other same =>
      have kept := sink_of_failed_run full
      have keptFooter := sink_of_failed_run footer
      rw [full] at unfound ⊢
      have never : after.foundYield = false := unfound
      rw [footer]
      simp only [ended] at kept keptFooter ⊢
      rw [leaving, keptFooter, kept, same, seen, never]

/-! ## Failures of runs -/

/-- A failure that the settings are blamed for. -/
def BlamesSettings (failure : Failure) : Prop :=
  ∃ diagnostic, failure = .diagnosed diagnostic ∧ diagnostic.fault.kind = .configuration

/-- Giving a failure a place does not change what it blames. -/
theorem blamesSettings_locate_iff {failure : Failure} (position : Position) :
    BlamesSettings (failure.locate position) ↔ BlamesSettings failure := by
  cases failure with
  | diagnosed diagnostic =>
      simp [BlamesSettings, Failure.locate]
  | unhashable | notAType | raised | noOpenBlock =>
      rfl

/-- No token is refused because of the settings; nor is an annotation a matter of theirs. -/
theorem not_blamesSettings_of_plan {compiler : Compiler} {course : Course} {token : Token}
    {reason : Failure} (refused : compiler.plan course token = .error reason) :
    ¬ BlamesSettings reason := by
  rintro ⟨diagnostic, same, blamed⟩
  rcases reason_of_plan refused with ⟨fault, kind, rfl⟩ | ⟨-, shapeless⟩
  · cases same
    rcases kind with kind | kind <;> simp [kind] at blamed
  · exact shapeless.blamesType.ne_diagnosed diagnostic same

/-- The same for many tokens. -/
theorem not_blamesSettings_of_planAll {compiler : Compiler} {course : Course}
    {tokens : List Token} {failure : Failure}
    (failed : compiler.planAll course tokens = .error failure) : ¬ BlamesSettings failure := by
  rcases planAll_eq_error_iff.mp failed with
    ⟨before, token, after, instructions, middle, reason, rfl, reached, refused, rfl⟩
  rw [blamesSettings_locate_iff]
  exact not_blamesSettings_of_plan refused

/-- No run fails because of the settings. -/
theorem not_blamesSettings_of_runText {compiler : Compiler} {source text : String}
    {dataType : DataType} {sink : Sink} {failure : Failure} {after : Run}
    (failed : compiler.runText source text (.start dataType sink) = .error failure after) :
    ¬ BlamesSettings failure := by
  have reported := Run.report_eq_error_iff.mpr ⟨after, failed⟩
  have endless : ∀ token ∈ (scan source text).tokens, token.kind ≠ .endOfFile :=
    fun _ => kind_of_mem_scan
  cases wrong : (scan source text).fault with
  | none =>
      have ended := Scan.ending_stream source wrong endless
      exact not_blamesSettings_of_planAll ((report_run_eq_error_iff ended).mp reported)
  | some fault =>
      have broken := (Scan.stream_of_fault source wrong endless).2
      rcases failure_of_broken_run broken reported with refused | rfl
      · exact not_blamesSettings_of_planAll refused
      · have kind : fault.kind = .template := Lexer.kind_of_pieces wrong
        simp [BlamesSettings, kind]

end Compiler

namespace CompileRequest

open Compiler

/-! ## Requests -/

/-- The full run over the text of a request. -/
def fullRun (request : CompileRequest) (catalog : Catalog) (settings : Settings) (sink : Sink) :
    EStateM.Result Failure Run Position :=
  runText { catalog, settings, variant := .full } request.source request.text
    (.start request.dataType sink)

/-- The code that the full run over the text of a request writes. -/
def fullCode (request : CompileRequest) (catalog : Catalog) (settings : Settings) :
    Except Failure String :=
  match request.fullRun catalog settings (.fresh settings.indent 1) with
  | .ok _ run => .ok run.sink.value
  | .error failure _ => .error failure

theorem template_scan (source text : String) :
    (scan source text).stream.template = (scan source text).tokens := by
  have endless : ∀ token ∈ (scan source text).tokens, token.kind ≠ .endOfFile :=
    fun _ => kind_of_mem_scan
  cases wrong : (scan source text).fault with
  | none =>
      exact Scan.template_stream wrong endless
  | some fault =>
      exact (Scan.stream_of_fault source wrong endless).1

section Unmarked

variable {request : CompileRequest} {catalog : Catalog} {settings : Settings} {stop : Position}
  {after : Run} {failure : Failure}
  (unmarked : Unmarked settings (scan request.source request.text).tokens)

include unmarked

/-- The header runs like the full variant. -/
theorem runText_header_eq_fullRun (catalog : Catalog) (sink : Sink) :
    runText { catalog, settings, variant := .header } request.source request.text
        (.start request.dataType sink) =
      request.fullRun catalog settings sink := by
  rw [← template_scan] at unmarked
  exact run_header_eq_run_full unmarked catalog _ request.source (.start request.dataType sink)

/-- The footer runs like the full variant and leaves the sink as it was. -/
theorem runText_footer_eq_leaving (catalog : Catalog) (sink : Sink) :
    runText { catalog, settings, variant := .footer } request.source request.text
        (.start request.dataType sink) =
      leaving sink.finish (request.fullRun catalog settings sink) := by
  rw [← template_scan] at unmarked
  have footer := run_footer_eq_leaving unmarked catalog
    [.templateTokenized request.source (scan request.source request.text).tokens.length]
    request.source (.start request.dataType sink) (Nat.zero_le _)
  rw [outside_of_closed rfl] at footer
  exact footer

/-- The full variant of a template without a marker finds none. -/
theorem foundYield_fullRun (catalog : Catalog) (sink : Sink) :
    (Attempt.final (request.fullRun catalog settings sink)).foundYield = false := by
  rw [← template_scan] at unmarked
  exact foundYield_of_unmarked unmarked catalog _ request.source
    (.start request.dataType sink) .full

/-- The header of a layout without a marker is its full code, unless a marker is required. -/
theorem runVariant_header_of_fullRun
    (done : request.fullRun catalog settings (.fresh settings.indent 1) = .ok stop after) :
    request.runVariant catalog settings (.fresh settings.indent 1) .header =
      { sink := after.sink
        notices := after.notices
        foundYield :=
          if settings.requireYield then
            .error (.diagnosed
              { fault := .missingYield settings.yieldMarker, position := some stop })
          else .ok false } := by
  have unfound := foundYield_fullRun unmarked catalog (.fresh settings.indent 1)
  rw [done] at unfound
  have never : after.foundYield = false := unfound
  simp only [runVariant, runText_header_eq_fullRun unmarked, done, never]
  rfl

/-- The footer of a layout without a marker is blank, whatever sink it is written to. -/
theorem runVariant_footer_of_fullRun
    (optional : settings.requireYield = false)
    (done : request.fullRun catalog settings (.fresh settings.indent 1) = .ok stop after)
    (sink : Sink) :
    ∃ notices,
      request.runVariant catalog settings sink .footer =
        { sink := sink.finish, notices, foundYield := .ok false } := by
  have alike : EndAlike (request.fullRun catalog settings (.fresh settings.indent 1))
      (request.fullRun catalog settings sink) :=
    endAlike_of_expectsYield catalog settings rfl _ _ _ _ _ _ _
  have unfound := foundYield_fullRun unmarked catalog sink
  have footer := runText_footer_eq_leaving unmarked catalog sink
  rw [done] at alike
  generalize request.fullRun catalog settings sink = result at alike unfound footer
  cases alike with
  | @succeed _ _ other _ =>
      have never : other.foundYield = false := unfound
      refine ⟨other.notices, ?_⟩
      simp only [runVariant, footer, leaving, never, optional]
      rfl

/-- A layout without a marker fails as its full variant does. -/
theorem compile_of_failed_fullRun (isLayout : request.layout = true)
    (failed : request.fullRun catalog settings (.fresh settings.indent 1) =
      .error failure after) :
    (request.compile catalog settings).result = .error failure := by
  have header :
      (request.runVariant catalog settings (.fresh settings.indent 1) .header).foundYield =
        .error failure := by
    simp only [runVariant, runText_header_eq_fullRun unmarked, failed]
  simp only [compile, variants, isLayout, if_true, runVariants, header]

/-- If the marker is required, its absence is reported although the full variant is in order. -/
theorem compile_of_fullRun_required (isLayout : request.layout = true)
    (requires : settings.requireYield = true)
    (done : request.fullRun catalog settings (.fresh settings.indent 1) = .ok stop after) :
    (request.compile catalog settings).result =
      .error (.diagnosed
        { fault := .missingYield settings.yieldMarker, position := some stop }) := by
  have header := runVariant_header_of_fullRun unmarked done
  rw [requires, if_pos rfl] at header
  simp only [compile, variants, isLayout, if_true, runVariants, header]

/-- Compiling a layout without a marker gives the full code as header and a blank footer. -/
theorem compile_of_fullRun_optional (isLayout : request.layout = true)
    (optional : settings.requireYield = false)
    (done : request.fullRun catalog settings (.fresh settings.indent 1) = .ok stop after) :
    (request.compile catalog settings).result =
      .ok (request.resultOf
        [{ variant := "header", code := after.sink.value },
          { variant := "footer", code := "\n" }]) := by
  have header := runVariant_header_of_fullRun unmarked done
  rw [optional, if_neg Bool.false_ne_true] at header
  rcases runVariant_footer_of_fullRun unmarked optional done after.sink.drained with
    ⟨notices, footer⟩
  have blank : after.sink.drained.finish.value = "\n" := by
    simp [Sink.drained, Sink.finish, Sink.value, Sink.allLines, Sink.lineOf, Text.join]
  have fragments :
      (request.runVariants catalog settings (.fresh settings.indent 1)
          [.header, .footer]).fragments =
        .ok
          [{ variant := "header", code := after.sink.value },
            { variant := "footer", code := "\n" }] := by
    rw [fragments_runVariants_cons header, fragments_runVariants_cons footer, blank]
    rfl
  simp only [compile, variants, isLayout, if_true, fragments]

end Unmarked

/-! ## Layouts without a marker -/

/-- What the variants of a run over the same tokens come to, from the same state. -/
structure VariantsAgree (catalog : Catalog) (settings : Settings) (atEnd : List Journal.Notice)
    (source : String) (stream : TokenStream Failure) (start : Run) : Prop where
  /-- The header run and the full run have the same answer or failure, and the same state. -/
  header :
    Compiler.run { catalog, settings, variant := .header } atEnd source stream start =
      Compiler.run { catalog, settings, variant := .full } atEnd source stream start
  /--
  Outside of sections the footer run only finishes a line, unless it fails, which it does like
  the full run.
  -/
  footer : start.scope.sections = [] →
    Compiler.run { catalog, settings, variant := .footer } atEnd source stream start =
      leaving start.sink.finish
        (Compiler.run { catalog, settings, variant := .full } atEnd source stream start)
  /--
  A run that starts inside sections closes them, so the level is that of their outside.  The full
  run needs a block for each of them in the sink; the footer run, which drops its output, does not.
  -/
  enclosed : start.scope.depth ≤ start.sink.blocks.length →
    Compiler.run { catalog, settings, variant := .footer } atEnd source stream start =
      leaving (outside start).finish
        (Compiler.run { catalog, settings, variant := .full } atEnd source stream start)
  unfound : ∀ variant ∈ Variant.all,
    (Attempt.final
      (Compiler.run { catalog, settings, variant } atEnd source stream start)).foundYield = false

/-- What compiling a layout comes to, in terms of the full run over its text. -/
structure FollowsFullRun (request : CompileRequest) (catalog : Catalog) (settings : Settings) :
    Prop where
  failed : ∀ failure, request.fullCode catalog settings = .error failure →
    (request.compile catalog settings).result = .error failure ∧ ¬ BlamesSettings failure
  optional : settings.requireYield = false →
    ∀ code, request.fullCode catalog settings = .ok code →
      (request.compile catalog settings).result =
        .ok (request.resultOf
          [{ variant := "header", code, foundYield := false },
            { variant := "footer", code := "\n", foundYield := false }])
  required : settings.requireYield = true →
    ∀ code, request.fullCode catalog settings = .ok code →
      ∃ ending failure,
        (scan request.source request.text).stream.ending request.source none = .ok ending ∧
          failure = .diagnosed
            { fault := .missingYield settings.yieldMarker, position := some ending.position } ∧
          failure.label = "ConfigurationError" ∧
          (request.compile catalog settings).result = .error failure

/-- A layout without a marker is compiled as its full variant says. -/
theorem followsFullRun_of_unmarked {request : CompileRequest} {settings : Settings}
    (catalog : Catalog) (isLayout : request.layout = true)
    (unmarked : Unmarked settings (scan request.source request.text).tokens) :
    request.FollowsFullRun catalog settings := by
  cases ran : request.fullRun catalog settings (.fresh settings.indent 1) with
  | error failure after =>
      have fails : request.fullCode catalog settings = .error failure := by
        simp only [fullCode, ran]
      constructor
      · intro reason same
        rw [fails] at same
        cases same
        exact ⟨compile_of_failed_fullRun unmarked isLayout ran, not_blamesSettings_of_runText ran⟩
      · intro _ code impossible
        rw [fails] at impossible
        cases impossible
      · intro _ code impossible
        rw [fails] at impossible
        cases impossible
  | ok stop after =>
      have writes : request.fullCode catalog settings = .ok after.sink.value := by
        simp only [fullCode, ran]
      constructor
      · intro reason impossible
        rw [writes] at impossible
        cases impossible
      · intro optional code same
        rw [writes] at same
        cases same
        exact compile_of_fullRun_optional unmarked isLayout optional ran
      · intro requires code _
        rcases accepts_of_run ran with ⟨ending, instructions, written, ended, rfl, -, -⟩
        exact ⟨ending, _, ended, rfl, rfl,
          compile_of_fullRun_required unmarked isLayout requires ran⟩

/--
In a layout without a marker the header is what the full variant writes, and outside of sections the
footer has nothing in it.  Compiling it gives the full code and a blank footer, or
blames the settings at the end of the text if they ask for a marker.
-/
theorem layout_of_unmarked
    (catalog : Catalog) (settings : Settings) (atEnd : List Journal.Notice) (source : String)
    (stream : TokenStream Failure) (start : Run) (request : CompileRequest) :
    (Unmarked settings stream.template →
        VariantsAgree catalog settings atEnd source stream start) ∧
      (request.layout = true →
        Unmarked settings (scan request.source request.text).tokens →
          request.FollowsFullRun catalog settings) := by
  constructor
  · intro unmarked
    constructor
    · exact run_header_eq_run_full unmarked catalog atEnd source start
    · intro closed
      have holds : start.scope.depth ≤ start.sink.blocks.length := by
        rw [Scope.depth, closed]
        exact Nat.zero_le _
      rw [← outside_of_closed closed]
      exact run_footer_eq_leaving unmarked catalog atEnd source start holds
    · exact run_footer_eq_leaving unmarked catalog atEnd source start
    · intro variant _
      exact foundYield_of_unmarked unmarked catalog atEnd source start variant
  · intro isLayout unmarked
    exact followsFullRun_of_unmarked catalog isLayout unmarked

/-- A layout with a block and a reference, but no marker. -/
def bareLayout : CompileRequest :=
  { text := "\x7b\x7b#flag\x7d\x7da\x7b\x7b/flag\x7d\x7d\x7b\x7btitle\x7d\x7d\n"
    dataType := Compiler.page
    layout := true
    requestId := "request" }

/-- A layout with a section and a reference, neither of which names the marker. -/
theorem layout_of_unmarked_bareLayout :
    Unmarked {} (TokenStream.ofList pageTokens : TokenStream Failure).template ∧
      VariantsAgree pages.catalog {} [] "page" (.ofList pageTokens) (.start page busySink) ∧
        Unmarked {} (scan bareLayout.source bareLayout.text).tokens ∧
          (bareLayout.fullCode pages.catalog {}).isOk = true ∧
            bareLayout.FollowsFullRun pages.catalog {} := by
  have unmarkedTokens :
      Unmarked {} (TokenStream.ofList pageTokens : TokenStream Failure).template := by
    unfold Unmarked
    decide +kernel
  have unmarkedText : Unmarked {} (scan bareLayout.source bareLayout.text).tokens := by
    unfold Unmarked
    decide +kernel
  have written : (bareLayout.fullCode pages.catalog {}).isOk = true := by
    decide +kernel
  rcases layout_of_unmarked pages.catalog {} [] "page" (.ofList pageTokens)
      (.start page busySink) bareLayout with ⟨runs, compiles⟩
  exact ⟨unmarkedTokens, runs unmarkedTokens, unmarkedText, written, compiles rfl unmarkedText⟩

/-- The end of the section over the flag of a page. -/
def flagEnd : List Token :=
  [{ kind := .sectionClose, value := "flag", position := .start "page" }]

/--
A run can be started inside a section, with a sink that has no block for it.  The full run fails
where the section ends, and the footer run, which drops its output, comes to its end.
-/
theorem unlike_footer_of_flagEnd :
    ∃ scope : Scope,
      ((Scope.root page).enter pages.catalog "flag" false).outcome = .ok scope ∧
        Unmarked {} (TokenStream.ofList flagEnd : TokenStream Failure).template ∧
          Run.report (Compiler.run { pages with variant := .full } [] "page" (.ofList flagEnd)
              { Run.start page (.fresh "    " 1) with scope }) = .error .noOpenBlock ∧
            (Run.report (Compiler.run { pages with variant := .footer } [] "page"
              (.ofList flagEnd) { Run.start page (.fresh "    " 1) with scope })).isOk = true := by
  refine ⟨_, rfl, ?_, ?_, ?_⟩
  · unfold Unmarked
    decide +kernel
  · rfl
  · rfl

end CompileRequest

end TypedMustache
