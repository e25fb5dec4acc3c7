import TypedMustache.Proofs.Compilation.CodeText
import TypedMustache.Proofs.Compilation.RunChange

/-!
# Failed runs leave their sink alone

A run can fail at any token: inside sections it has just opened, after it has
turned output on or off, or because its source of tokens breaks off.  It then
goes back to a mark that knows of the finished lines only how many there were.

`Sink.Extends` is what makes this number enough.  Whatever a part of a run comes
to, the lines that were finished before it are still the first ones.  The main
result, `Compiler.sink_of_failed_run`, follows for every sink to start from.
-/

namespace TypedMustache

namespace Sink

/-! ## Sinks that only grow -/

/-- A later sink has the finished lines of an earlier one, and perhaps more behind them. -/
structure Extends (earlier later : Sink) : Prop where
  lines : earlier.lines <+: later.lines
  indent : later.indent = earlier.indent
  baseLevel : later.baseLevel = earlier.baseLevel

theorem Extends.refl (sink : Sink) : sink.Extends sink :=
  ⟨List.prefix_rfl, rfl, rfl⟩

/-- A sink that extends one which extends another extends both. -/
theorem Extends.trans
    {first second third : Sink}
    (earlier : first.Extends second) (later : second.Extends third) :
    first.Extends third := by
  constructor
  · exact earlier.lines.trans later.lines
  · exact later.indent.trans earlier.indent
  · exact later.baseLevel.trans earlier.baseLevel

variable (sink : Sink)

theorem extends_suppress (suppressed : Bool) : sink.Extends (sink.suppress suppressed) :=
  ⟨List.prefix_rfl, rfl, rfl⟩

theorem extends_finish : sink.Extends sink.finish :=
  ⟨List.prefix_append _ _, rfl, rfl⟩

theorem extends_putLine (line : String) : sink.Extends (sink.putLine line) :=
  ⟨List.prefix_append _ _, rfl, rfl⟩

theorem extends_endPending : sink.Extends sink.endPending := by
  unfold endPending
  split
  · exact .refl sink
  · exact sink.extends_finish

/-- A statement is added behind what is there. -/
theorem extends_write (statement : String) : sink.Extends (sink.write statement) := by
  unfold write
  split
  · exact .refl sink
  · exact ⟨List.prefix_rfl, rfl, rfl⟩

theorem extends_endLine : sink.Extends sink.endLine := by
  unfold endLine
  split
  · exact .refl sink
  · exact sink.extends_finish

/-- Opening a block adds to what is there. -/
theorem extends_openBlock (header : String) : sink.Extends (sink.openBlock header) := by
  unfold openBlock
  split
  · exact ⟨List.prefix_rfl, rfl, rfl⟩
  · have headed := sink.extends_endPending.trans (sink.endPending.extends_putLine header)
    exact ⟨headed.lines, headed.indent, headed.baseLevel⟩

/-- Closing a block adds to what is there. -/
theorem extends_closed
    (statements : Nat) (outer : List Nat) (trailer : Option String) :
    sink.Extends (sink.closed statements outer trailer) := by
  have filled : sink.Extends (if statements = 0 then sink.putLine "pass" else sink) := by
    split
    · exact sink.extends_putLine "pass"
    · exact .refl sink
  have outside :
      sink.Extends
        { (if statements = 0 then sink.putLine "pass" else sink) with
          level := sink.level - 1, blocks := outer } :=
    ⟨filled.lines, filled.indent, filled.baseLevel⟩
  unfold closed
  cases trailer with
  | none =>
      exact outside
  | some line =>
      dsimp only
      split
      · exact outside
      · exact outside.trans (extends_putLine _ line)

/-- Closing a block keeps the finished lines, even where there is no block to close. -/
theorem extends_closeBlock (trailer : Option String) :
    sink.Extends (Attempt.final (closeBlock trailer sink)) := by
  cases hidden : sink.suppressed with
  | true =>
      simp only [closeBlock, hidden, if_true]
      exact ⟨List.prefix_rfl, rfl, rfl⟩
  | false =>
      cases counted : sink.endPending.blocks with
      | nil =>
          simpa [closeBlock, hidden, counted] using sink.extends_endPending
      | cons statements outer =>
          simpa [closeBlock, hidden, counted] using
            sink.extends_endPending.trans (extends_closed _ statements outer trailer)

/-- Rolling back to the mark of a sink undoes everything that extended it. -/
theorem Extends.rollback_mark
    {earlier later : Sink} (grown : earlier.Extends later) :
    later.rollback earlier.mark = earlier := by
  have lines : later.lines.take earlier.lines.length = earlier.lines :=
    (List.prefix_iff_eq_take.mp grown.lines).symm
  unfold rollback mark
  rw [lines, grown.indent, grown.baseLevel]

end Sink

namespace Run

/-! ## Parts of a run -/

/-- A part of a run that keeps the finished lines of the sink. -/
def Appends {α : Type} (action : RunM α) : Prop :=
  ∀ run : Run, run.sink.Extends (Attempt.final (action run)).sink

/-- A later state has the finished lines of an earlier one. -/
abbrev KeepsLines (earlier later : Run) : Prop :=
  earlier.sink.Extends later.sink

instance : Std.Refl KeepsLines :=
  ⟨fun run => .refl run.sink⟩

instance : IsTrans Run KeepsLines :=
  ⟨fun _ _ _ earlier later => earlier.trans later⟩

variable {allowed : Journal.Notice → Prop} {run after : Run}

/-- Whatever changes, the lines that were finished before stay. -/
theorem keepsLines_of_change (changed : Change allowed run after) : KeepsLines run after := by
  cases changed with
  | write statement =>
      exact run.sink.extends_write statement
  | endLine =>
      exact run.sink.extends_endLine
  | toggle suppressed =>
      exact run.sink.extends_suppress suppressed
  | openBlock scope header =>
      exact run.sink.extends_openBlock header
  | closeBlock trailer =>
      exact run.sink.extends_closeBlock (some trailer)
  | leave scope =>
      exact .refl run.sink
  | note notices fit =>
      exact .refl run.sink

/-- What every token keeps is kept by all tokens of a source, whether or not it breaks off. -/
theorem appends_feedFrom
    {process : Token → RunM Unit} (keeps : ∀ token, Appends (process token))
    (source : String) (stream : TokenStream Failure) (last : Option Position) :
    Appends (stream.feedFrom process source last) := by
  have related (token : Token) : Relates KeepsLines (process token) := keeps token
  exact relates_feedFrom related source stream last

end Run

namespace Compiler

open Run

/-- No token takes back what was written. -/
theorem appends_processNoting
    (compiler : Compiler) (atEnd : List Journal.Notice) (token : Token) :
    Appends (compiler.processNoting atEnd token) := by
  have proceeds : Proceeds (fun _ => True) (compiler.processNoting atEnd token) :=
    compiler.proceeds_processNoting (fun _ _ => trivial) (fun _ _ => trivial) token
  exact Relates.of_proceeds (fun _ _ => keepsLines_of_change) proceeds

/-! ## Whole runs -/

variable {compiler : Compiler} {atEnd : List Journal.Notice} {source : String}
  {stream : TokenStream Failure} {start after : Run} {failure : Failure}

/--
A run that fails leaves its sink exactly as it found it, wherever and for
whatever reason it fails.
-/
theorem sink_of_failed_run
    (failed : compiler.run atEnd source stream start = .error failure after) :
    after.sink = start.sink := by
  have opened := start.sink.extends_suppress compiler.variant.initiallySuppressed
  have fed := appends_feedFrom (compiler.appends_processNoting atEnd) source stream none
    { start with
      foundYield := false
      sink := start.sink.suppress compiler.variant.initiallySuppressed }
  unfold run TokenStream.feed at failed
  dsimp only at failed
  split at failed
  · rename_i reason reached broke
    rw [broke] at fed
    cases failed
    -- The mark was taken before output was turned on or off for the variant.
    exact (opened.trans fed).rollback_mark
  · cases failed

/-- A suppressed sink with a line, a pending statement and an open block. -/
def busySink : Sink :=
  { indent := "  ", baseLevel := 1, level := 2, lines := ["  if data:"], pending := ["pass"]
    blocks := [1], suppressed := true }

/-- A line break and the start of a section, after which the source breaks off. -/
def brokenStream : TokenStream Failure :=
  Scan.before (.broken (.diagnosed { fault := .unclosedTag, position := some (.start "page") }))
    (pageTokens.take 2)

/-- A source that breaks off in an open section leaves a busy sink as it was. -/
theorem sink_of_failed_run_brokenStream :
    ∃ failure after,
      pages.run [] "page" brokenStream (.start page busySink) = .error failure after ∧
        after.sink = busySink := by
  have fails :
      (Run.report (pages.run [] "page" brokenStream (.start page busySink))).isOk = false := by
    decide +kernel
  cases failed : pages.run [] "page" brokenStream (.start page busySink) with
  | ok position after =>
      rw [failed] at fails
      cases fails
  | error failure after =>
      exact ⟨failure, after, rfl, sink_of_failed_run failed⟩

end Compiler

end TypedMustache
