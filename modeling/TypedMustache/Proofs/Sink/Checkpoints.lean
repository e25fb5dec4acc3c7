import TypedMustache.Proofs.Compilation.FailedRun

/-!
# Checkpoints nest

Between a checkpoint and the return to it, a sink may be written to in any way.
Blocks may be opened, closed, and closed where none is open, output may be turned
on and off, and other checkpoints may be taken and returned to, in any order and
any number of times.  `Sink.rollback_mark_of_calls` says that the return undoes all
of it, and that the checkpoint is as good as new afterwards.

A mark holds only the number of the finished lines.  What makes that enough is
`History.StandsOn`: the finished lines of the checkpoint stay the first ones, and no
mark that is taken later has fewer lines than it.
-/

namespace TypedMustache.Sink

/-! ## Calls -/

/-- A call to a sink.  Marks are known by the order in which they are taken, from zero on. -/
inductive Call where
  | write (statement : String)
  | endLine
  | openBlock (header : String)
  | closeBlock (trailer : Option String)
  | finish
  | suppress (suppressed : Bool)
  /-- Read the code written so far. -/
  | value
  | mark
  | rollback (number : Nat)
deriving DecidableEq, Repr

/-- A sink, and the marks of it that were taken. -/
structure History where
  sink : Sink
  marks : List Mark
deriving DecidableEq, Repr

namespace History

/-- A sink of which a first mark was taken. -/
def ofMarked (sink : Sink) : History :=
  { sink, marks := [sink.mark] }

/--
What a call leads to.  Its caller goes on after a call that fails, with what the
call has done up to then.  Only a mark that was taken can be gone back to.
-/
def perform (history : History) : Call → Option History
  | .write statement => some { history with sink := history.sink.write statement }
  | .endLine => some { history with sink := history.sink.endLine }
  | .openBlock header => some { history with sink := history.sink.openBlock header }
  | .closeBlock trailer =>
      some { history with sink := Attempt.final (Sink.closeBlock trailer history.sink) }
  | .finish => some { history with sink := history.sink.finish }
  | .suppress suppressed => some { history with sink := history.sink.suppress suppressed }
  | .value => some history
  | .mark => some { history with marks := history.marks ++ [history.sink.mark] }
  | .rollback number =>
      history.marks[number]?.map fun mark =>
        { history with sink := history.sink.rollback mark }

/-- What calls lead to, one after the other. -/
def performAll (history : History) (calls : List Call) : Option History :=
  calls.foldlM perform history

/-! ## What stays of a checkpoint -/

/--
A history stands on a sink: it has the finished lines of the sink, and would still
have them after going back to any of its marks.
-/
structure StandsOn (base : Sink) (history : History) : Prop where
  extended : base.Extends history.sink
  above : ∀ mark ∈ history.marks, base.lines.length ≤ mark.lines

variable {base : Sink} {history after : History}

theorem standsOn_ofMarked (base : Sink) : StandsOn base (ofMarked base) := by
  constructor
  · exact .refl base
  · intro mark member
    rw [List.mem_singleton.mp member]
    exact Nat.le_refl _

/-- More can be written on top of what a history stands on. -/
theorem StandsOn.extend
    {sink : Sink} (stands : StandsOn base history) (grown : history.sink.Extends sink) :
    StandsOn base { history with sink } :=
  ⟨stands.extended.trans grown, stands.above⟩

/-- Going back to a mark leaves the lines that were finished before it. -/
theorem extends_rollback
    {later : Sink} {mark : Mark} (grown : base.Extends later)
    (above : base.lines.length ≤ mark.lines) :
    base.Extends (later.rollback mark) := by
  constructor
  · exact List.prefix_take_iff.mpr ⟨grown.lines, above⟩
  · exact grown.indent
  · exact grown.baseLevel

/-- No call reaches below what a history stands on, whether or not it fails. -/
theorem StandsOn.perform
    {call : Call} (stands : StandsOn base history)
    (performed : history.perform call = some after) : StandsOn base after := by
  cases call with
  | write statement =>
      cases performed
      exact stands.extend (history.sink.extends_write statement)
  | endLine =>
      cases performed
      exact stands.extend history.sink.extends_endLine
  | openBlock header =>
      cases performed
      exact stands.extend (history.sink.extends_openBlock header)
  | closeBlock trailer =>
      cases performed
      exact stands.extend (history.sink.extends_closeBlock trailer)
  | finish =>
      cases performed
      exact stands.extend history.sink.extends_finish
  | suppress suppressed =>
      cases performed
      exact stands.extend (history.sink.extends_suppress suppressed)
  | value =>
      cases performed
      exact stands
  | mark =>
      cases performed
      refine ⟨stands.extended, ?_⟩
      intro mark member
      rcases List.mem_append.mp member with earlier | new
      · exact stands.above mark earlier
      · rw [List.mem_singleton.mp new]
        exact stands.extended.lines.length_le
  | rollback number =>
      -- Whichever mark it is, lines are cut off above those of the base.
      rcases Option.map_eq_some_iff.mp performed with ⟨mark, taken, rfl⟩
      have above := stands.above mark (List.mem_of_getElem? taken)
      exact ⟨extends_rollback stands.extended above, stands.above⟩

theorem StandsOn.performAll
    {calls : List Call} (stands : StandsOn base history)
    (performed : history.performAll calls = some after) : StandsOn base after := by
  induction calls generalizing history with
  | nil =>
      cases performed
      exact stands
  | cons call rest ih =>
      rw [performAll, List.foldlM_cons] at performed
      rcases Option.bind_eq_some_iff.mp performed with ⟨next, first, later⟩
      exact ih (stands.perform first) later

/-- The mark of the sink that a history stands on takes it back to that sink. -/
theorem StandsOn.rollback_mark (stands : StandsOn base history) :
    history.sink.rollback base.mark = base :=
  stands.extended.rollback_mark

end History

/--
A sink is restored by going back to a mark of it, after any calls that go back to
this mark or to later ones, and again after any calls that follow.
-/
theorem rollback_mark_of_calls
    (sink : Sink) {calls : List Call} {reached : History}
    (performed : (History.ofMarked sink).performAll calls = some reached) :
    reached.sink.rollback sink.mark = sink ∧
      ∀ again later,
        { reached with sink := reached.sink.rollback sink.mark }.performAll again = some later →
          later.sink.rollback sink.mark = sink := by
  have stands := (History.standsOn_ofMarked sink).performAll performed
  have restored := stands.rollback_mark
  refine ⟨restored, ?_⟩
  intro again later performedAgain
  have standsAgain :
      History.StandsOn sink { reached with sink := reached.sink.rollback sink.mark } := by
    rw [restored]
    exact ⟨.refl sink, stands.above⟩
  exact (standsAgain.performAll performedAgain).rollback_mark

/--
Blocks are opened and closed, one too many; a mark is gone back to, and then a later
one, whose lines are gone by then.
-/
def tangledCalls : List Call :=
  [.suppress false, .write "a = 1", .closeBlock none, .mark, .openBlock "if a:", .finish, .mark,
    .suppress true, .rollback 1, .closeBlock (some "done"), .closeBlock none, .rollback 2, .value,
    .rollback 0, .finish]

theorem rollback_mark_of_calls_tangledCalls :
    ∃ reached later,
      (History.ofMarked Compiler.busySink).performAll tangledCalls = some reached ∧
        reached.sink ≠ Compiler.busySink ∧
        reached.sink.rollback Compiler.busySink.mark = Compiler.busySink ∧
        { reached with
            sink := reached.sink.rollback Compiler.busySink.mark }.performAll
          [.rollback 2, .finish] = some later ∧
        later.sink.rollback Compiler.busySink.mark = Compiler.busySink := by
  have possible :
      ((History.ofMarked Compiler.busySink).performAll tangledCalls).any (fun reached =>
        reached.sink != Compiler.busySink &&
          ({ reached with
              sink := reached.sink.rollback Compiler.busySink.mark }.performAll
            [.rollback 2, .finish]).isSome) = true := by
    decide +kernel
  rcases (Option.any_eq_true _ _).mp possible with ⟨reached, performed, conditions⟩
  rw [Bool.and_eq_true, bne_iff_ne] at conditions
  rcases Option.isSome_iff_exists.mp conditions.2 with ⟨later, performedAgain⟩
  have restored := rollback_mark_of_calls Compiler.busySink performed
  exact ⟨reached, later, performed, conditions.1, restored.1, performedAgain,
    restored.2 _ _ performedAgain⟩

end TypedMustache.Sink
