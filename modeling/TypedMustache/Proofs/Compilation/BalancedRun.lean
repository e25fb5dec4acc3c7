import TypedMustache.Proofs.Compilation.FailedRun
import TypedMustache.Proofs.Compilation.RunFailure

/-!
# Runs that succeed only add lines

A run that succeeds leaves the lines of its sink in place and adds some behind
them.  It comes back to the level it started at and to the number of statement
counters it found, and nothing is left pending.

Two observations carry this.  The instructions of a plan open and close blocks in
pairs, and turn output on or off only where no section is open
(`Instruction.Leads`).  And what a sink adds for an instruction depends only on
how it stands: on its indentation, its level and pending statements, and on the
counters of the blocks that are open (`Sink.Beside`).  So two sinks that stand
alike are extended by the same lines.

A run may also start inside sections.  It then has to close them, and the blocks
that belong to them; all statements here account for these.
-/

namespace TypedMustache

/-! ## Instructions that open and close blocks in pairs -/

/-- Instructions that lead from a number of open sections to another one. -/
inductive Instruction.Leads : Nat → List Instruction → Nat → Prop where
  | nil {depth : Nat} : Leads depth [] depth
  | write {depth last : Nat} {rest : List Instruction} (statement : String)
      (later : Leads depth rest last) : Leads depth (.write statement :: rest) last
  | endLine {depth last : Nat} {rest : List Instruction}
      (later : Leads depth rest last) : Leads depth (.endLine :: rest) last
  | openBlock {depth last : Nat} {rest : List Instruction} (header : String)
      (later : Leads (depth + 1) rest last) : Leads depth (.openBlock header :: rest) last
  | closeBlock {depth last : Nat} {rest : List Instruction} (trailer : String)
      (later : Leads depth rest last) : Leads (depth + 1) (.closeBlock trailer :: rest) last
  /-- Output is turned on or off only where no section is open. -/
  | toggle {last : Nat} {rest : List Instruction}
      (later : Leads 0 rest last) : Leads 0 (.toggle :: rest) last

/-- Two parts of a program that fit together lead from the first depth to the last. -/
theorem Instruction.Leads.append
    {depth middle last : Nat} {front back : List Instruction}
    (first : Leads depth front middle) (second : Leads middle back last) :
    Leads depth (front ++ back) last := by
  induction first with
  | nil =>
      exact second
  | write statement later ih =>
      exact .write statement (ih second)
  | endLine later ih =>
      exact .endLine (ih second)
  | openBlock header later ih =>
      exact .openBlock header (ih second)
  | closeBlock trailer later ih =>
      exact .closeBlock trailer (ih second)
  | toggle later ih =>
      exact .toggle (ih second)

namespace Compiler

variable {compiler : Compiler} {course next : Course} {tokens : List Token}
  {made : List Instruction}

/-- What a token does opens or closes as many blocks as sections. -/
theorem Move.leads (move : compiler.Move course made next) :
    Instruction.Leads course.scope.depth made next.scope.depth := by
  cases move with
  | write statement endsLine =>
      cases endsLine with
      | true =>
          exact .write statement (.endLine .nil)
      | false =>
          exact .write statement .nil
  | enter opened =>
      rw [Scope.depth_of_enter opened]
      exact .openBlock _ .nil
  | leave isOpen =>
      rw [Scope.depth, isOpen]
      exact .closeBlock _ .nil
  | toggle closed =>
      simp only [Scope.depth, closed]
      exact .toggle .nil
  | stop closed =>
      exact .nil

/-- So does a plan for many tokens. -/
theorem leads_of_planAll
    (planned : compiler.planAll course tokens = .ok (made, next)) :
    Instruction.Leads course.scope.depth made next.scope.depth := by
  induction tokens generalizing course made with
  | nil =>
      cases planned
      exact .nil
  | cons token rest ih =>
      rcases planAll_cons_eq_ok_iff.mp planned with
        ⟨first, middle, later, plannedFirst, plannedRest, rfl⟩
      exact (move_of_plan plannedFirst).leads.append (ih plannedRest)

end Compiler

namespace Sink

variable {sink written left right : Sink} {depth last : Nat} {instructions : List Instruction}

/-! ## What instructions add -/

/-- Counting a statement in the innermost block leaves the blocks around it. -/
theorem take_countStatement (depth : Nat) (blocks : List Nat) :
    (countStatement blocks).take depth = countStatement (blocks.take depth) := by
  cases depth <;> cases blocks <;> rfl

/-- The line of the pending statements, if there are any. -/
def endedLines (sink : Sink) : List String :=
  if sink.pending.isEmpty then [] else [sink.lineOf sink.pending]

/-- The lines that a sink adds when it closes a block with a number of statements. -/
def closingLines (sink : Sink) (statements : Nat) (trailer : String) : List String :=
  sink.endedLines ++
    ((if statements = 0 then [sink.margin ++ "pass"] else []) ++
      if trailer.isEmpty then []
      else [Text.repeated sink.indent (sink.level - 1).toNat ++ trailer])

theorem endPending_eq_append (sink : Sink) :
    sink.endPending = { sink with lines := sink.lines ++ sink.endedLines, pending := [] } := by
  cases held : sink.pending with
  | nil =>
      rcases sink with ⟨⟩
      simp_all [endPending, endedLines]
  | cons first rest =>
      simp [endPending, endedLines, finish, held]

/-- Opening a block appends the lines that are ended and the header. -/
theorem openBlock_eq_append (header : String) (shown : sink.suppressed = false) :
    sink.openBlock header =
      { sink with
        lines := sink.lines ++ (sink.endedLines ++ [sink.margin ++ header])
        pending := []
        level := sink.level + 1
        blocks := 0 :: countStatement sink.blocks } := by
  simp [openBlock, shown, endPending_eq_append, putLine, margin]

/-- Closing a block appends the lines that close it. -/
theorem closed_endPending_eq_append
    (sink : Sink) (statements : Nat) (outer : List Nat) (trailer : String) :
    sink.endPending.closed statements outer (some trailer) =
      { sink with
        lines := sink.lines ++ sink.closingLines statements trailer
        pending := []
        level := sink.level - 1
        blocks := outer } := by
  rw [endPending_eq_append]
  by_cases isEmpty : statements = 0 <;> by_cases unnamed : trailer.isEmpty <;>
    simp [closed, closingLines, putLine, margin, isEmpty, unnamed]

/-- What closing a block does to a sink, whether or not it shows its output. -/
theorem obey_closeBlock_eq_ok_iff {trailer : String} :
    sink.obey (.closeBlock trailer) = .ok written ↔
      (sink.suppressed = true ∧ written = { sink with level := sink.level - 1 }) ∨
        (sink.suppressed = false ∧
          ∃ statements outer,
            sink.blocks = statements :: outer ∧
              written =
                { sink with
                  lines := sink.lines ++ sink.closingLines statements trailer
                  pending := []
                  level := sink.level - 1
                  blocks := outer }) := by
  cases hidden : sink.suppressed with
  | true =>
      simp [obey, closeBlock, hidden, eq_comm]
  | false =>
      cases counted : sink.blocks with
      | nil =>
          simp [obey, closeBlock, hidden, blocks_endPending, counted]
      | cons statements outer =>
          simp only [obey, closeBlock, hidden, blocks_endPending, counted,
            closed_endPending_eq_append, Bool.false_eq_true, if_false, false_and, false_or,
            true_and, Except.ok.injEq, List.cons.injEq]
          constructor
          · rintro rfl
            exact ⟨statements, outer, ⟨rfl, rfl⟩, rfl⟩
          · rintro ⟨_, _, ⟨rfl, rfl⟩, rfl⟩
            rfl

/-! ## Levels and counters -/

/-- The number of counters that belong to open sections; none while output is suppressed. -/
def owned (sink : Sink) (depth : Nat) : Nat :=
  if sink.suppressed then 0 else depth

theorem owned_zero (sink : Sink) : sink.owned 0 = 0 := by
  simp [owned]

/--
Instructions that open and close blocks in pairs change the level by the number
of sections, and the number of counters by the number of those that count.
-/
theorem balance_of_obeyAll
    (leads : Instruction.Leads depth instructions last)
    (obeyed : sink.obeyAll instructions = .ok written) :
    written.level + depth = sink.level + last ∧
      written.blocks.length + sink.owned depth = sink.blocks.length + written.owned last := by
  induction leads generalizing sink with
  | nil =>
      cases obeyed
      exact ⟨rfl, rfl⟩
  | write statement later ih =>
      change (sink.write statement).obeyAll _ = .ok written at obeyed
      have rest := ih obeyed
      cases hidden : sink.suppressed <;> simpa [write, owned, hidden] using rest
  | endLine later ih =>
      change sink.endLine.obeyAll _ = .ok written at obeyed
      have rest := ih obeyed
      cases hidden : sink.suppressed <;> simpa [endLine, finish, owned, hidden] using rest
  | openBlock header later ih =>
      change (sink.openBlock header).obeyAll _ = .ok written at obeyed
      have rest := ih obeyed
      cases hidden : sink.suppressed with
      | true =>
          simp only [openBlock, owned, hidden, if_true] at rest ⊢
          omega
      | false =>
          simp only [openBlock_eq_append header hidden, owned, hidden, Bool.false_eq_true,
            if_false, List.length_cons, length_countStatement] at rest ⊢
          omega
  | closeBlock trailer later ih =>
      rw [obeyAll_cons, Attempt.bind_eq_ok_iff] at obeyed
      rcases obeyed with ⟨closed, obeyedFirst, obeyedRest⟩
      have rest := ih obeyedRest
      rcases obey_closeBlock_eq_ok_iff.mp obeyedFirst with
        ⟨hidden, rfl⟩ | ⟨shown, statements, outer, counted, rfl⟩
      · simp only [owned, hidden, if_true] at rest ⊢
        omega
      · simp only [owned, shown, counted, Bool.false_eq_true, if_false,
          List.length_cons] at rest ⊢
        omega
  | toggle later ih =>
      -- No section is open here, so it does not matter which of them count.
      change (sink.suppress !sink.suppressed).obeyAll _ = .ok written at obeyed
      have rest := ih obeyed
      simpa [suppress, owned] using rest

/-! ## Sinks side by side -/

/--
Two sinks that stand alike: what they have written before may differ, and so may
the counters of blocks that do not belong to open sections.
-/
structure Beside (left right : Sink) (depth : Nat) : Prop where
  indent : right.indent = left.indent
  level : right.level = left.level
  pending : right.pending = left.pending
  suppressed : right.suppressed = left.suppressed
  counters : left.suppressed = false → right.blocks.take depth = left.blocks.take depth

/-- Two sinks to which the same lines were added. -/
def GrowAlike (left right written other : Sink) : Prop :=
  ∃ added, written.lines = left.lines ++ added ∧ other.lines = right.lines ++ added

theorem GrowAlike.refl (left right : Sink) : left.GrowAlike right left right :=
  ⟨[], by simp, by simp⟩

/-- Sinks that grow alike twice grow alike altogether. -/
theorem GrowAlike.trans
    {middle between written other : Sink}
    (first : left.GrowAlike right middle between)
    (second : middle.GrowAlike between written other) :
    left.GrowAlike right written other := by
  rcases first with ⟨earlier, middleLines, betweenLines⟩
  rcases second with ⟨later, writtenLines, otherLines⟩
  refine ⟨earlier ++ later, ?_, ?_⟩
  · rw [writtenLines, middleLines, List.append_assoc]
  · rw [otherLines, betweenLines, List.append_assoc]

namespace Beside

variable (beside : left.Beside right depth)
include beside

theorem margin_eq : right.margin = left.margin := by
  rw [margin, margin, beside.indent, beside.level]

theorem lineOf_eq (statements : List String) :
    right.lineOf statements = left.lineOf statements := by
  simp only [lineOf, beside.margin_eq]

theorem endedLines_eq : right.endedLines = left.endedLines := by
  rw [endedLines, endedLines, beside.pending, beside.lineOf_eq]

theorem closingLines_eq (statements : Nat) (trailer : String) :
    right.closingLines statements trailer = left.closingLines statements trailer := by
  simp only [closingLines, beside.endedLines_eq, beside.margin_eq, beside.indent, beside.level]

/-- A statement is written alike. -/
theorem write (statement : String) :
    (left.write statement).Beside (right.write statement) depth ∧
      left.GrowAlike right (left.write statement) (right.write statement) := by
  have hiddenBeside := beside.suppressed
  cases hidden : left.suppressed with
  | true =>
      rw [hidden] at hiddenBeside
      simp only [Sink.write, hidden, hiddenBeside, if_true]
      exact ⟨beside, .refl left right⟩
  | false =>
      rw [hidden] at hiddenBeside
      simp only [Sink.write, hidden, hiddenBeside, Bool.false_eq_true, if_false]
      refine ⟨⟨beside.indent, beside.level, ?_, rfl, ?_⟩, [], by simp, by simp⟩
      · rw [beside.pending]
      · intro _
        simp only [take_countStatement, beside.counters hidden]

theorem finish :
    left.finish.Beside right.finish depth ∧ left.GrowAlike right left.finish right.finish := by
  constructor
  · exact ⟨beside.indent, beside.level, rfl, beside.suppressed, beside.counters⟩
  · refine ⟨[left.lineOf left.pending], rfl, ?_⟩
    simp only [Sink.finish, beside.pending, beside.lineOf_eq]

theorem endLine :
    left.endLine.Beside right.endLine depth ∧
      left.GrowAlike right left.endLine right.endLine := by
  unfold Sink.endLine
  rw [beside.suppressed]
  split
  · exact ⟨beside, .refl left right⟩
  · exact beside.finish

/-- A block is opened alike, one level deeper. -/
theorem openBlock (header : String) :
    (left.openBlock header).Beside (right.openBlock header) (depth + 1) ∧
      left.GrowAlike right (left.openBlock header) (right.openBlock header) := by
  have hiddenBeside := beside.suppressed
  cases hidden : left.suppressed with
  | true =>
      rw [hidden] at hiddenBeside
      simp only [Sink.openBlock, hidden, hiddenBeside, if_true]
      refine ⟨⟨beside.indent, ?_, beside.pending, rfl, ?_⟩, [], by simp, by simp⟩
      · rw [beside.level]
      · intro shown
        cases shown
  | false =>
      rw [hidden] at hiddenBeside
      simp only [openBlock_eq_append header hidden, openBlock_eq_append header hiddenBeside]
      refine ⟨⟨beside.indent, ?_, rfl, beside.suppressed, ?_⟩,
        left.endedLines ++ [left.margin ++ header], rfl, ?_⟩
      · rw [beside.level]
      · intro _
        simp only [List.take_succ_cons, take_countStatement, beside.counters hidden]
      · rw [beside.endedLines_eq, beside.margin_eq]

omit beside in
/-- A block that one sink can close is there in the other one, with as many statements. -/
theorem closeBlock {trailer : String}
    (beside : left.Beside right (depth + 1))
    (obeyed : left.obey (.closeBlock trailer) = .ok written) :
    ∃ other,
      right.obey (.closeBlock trailer) = .ok other ∧ written.Beside other depth ∧
        left.GrowAlike right written other := by
  rcases obey_closeBlock_eq_ok_iff.mp obeyed with
    ⟨hidden, rfl⟩ | ⟨shown, statements, outer, counted, rfl⟩
  · refine ⟨{ right with level := right.level - 1 }, ?_, ?_, [], by simp, by simp⟩
    · exact obey_closeBlock_eq_ok_iff.mpr (Or.inl ⟨beside.suppressed.trans hidden, rfl⟩)
    · refine ⟨beside.indent, ?_, beside.pending, beside.suppressed, ?_⟩
      · rw [beside.level]
      · intro shown
        rw [hidden] at shown
        cases shown
  · have counters := beside.counters shown
    rw [counted, List.take_succ_cons] at counters
    cases countedRight : right.blocks with
    | nil =>
        rw [countedRight] at counters
        cases counters
    | cons count others =>
        rw [countedRight, List.take_succ_cons, List.cons.injEq] at counters
        rcases counters with ⟨rfl, agree⟩
        refine ⟨_, obey_closeBlock_eq_ok_iff.mpr
          (Or.inr ⟨beside.suppressed.trans shown, count, others, countedRight, rfl⟩), ?_, ?_⟩
        · refine ⟨beside.indent, ?_, rfl, beside.suppressed, fun _ => agree⟩
          rw [beside.level]
        · refine ⟨left.closingLines count trailer, rfl, ?_⟩
          rw [beside.closingLines_eq]

omit beside in
/-- Output is turned on or off alike, where no block is open. -/
theorem toggle (beside : left.Beside right 0) :
    (left.suppress !left.suppressed).Beside (right.suppress !right.suppressed) 0 ∧
      left.GrowAlike right (left.suppress !left.suppressed)
        (right.suppress !right.suppressed) := by
  refine ⟨⟨beside.indent, beside.level, beside.pending, ?_, ?_⟩, [], by simp [suppress],
    by simp [suppress]⟩
  · simp only [suppress, beside.suppressed]
  · intro _
    rfl

end Beside

/-- What two sinks add alike goes before what they add alike later. -/
theorem GrowAlike.exists_trans {next nextBeside : Sink} {reached : Sink → Prop}
    (grown : left.GrowAlike right next nextBeside)
    (later : ∃ other,
      reached other ∧ written.Beside other last ∧ next.GrowAlike nextBeside written other) :
    ∃ other, reached other ∧ written.Beside other last ∧ left.GrowAlike right written other := by
  rcases later with ⟨other, reachedLater, stand, grownLater⟩
  exact ⟨other, reachedLater, stand, grown.trans grownLater⟩

/-- Sinks that stand alike carry out the same instructions, and add the same lines. -/
theorem Beside.obeyAll
    (leads : Instruction.Leads depth instructions last)
    (beside : left.Beside right depth)
    (obeyed : left.obeyAll instructions = .ok written) :
    ∃ other,
      right.obeyAll instructions = .ok other ∧ written.Beside other last ∧
        left.GrowAlike right written other := by
  induction leads generalizing left right with
  | nil =>
      cases obeyed
      exact ⟨right, rfl, beside, .refl _ _⟩
  | write statement later ih =>
      rcases beside.write statement with ⟨stand, grown⟩
      exact grown.exists_trans (ih stand obeyed)
  | endLine later ih =>
      rcases beside.endLine with ⟨stand, grown⟩
      exact grown.exists_trans (ih stand obeyed)
  | openBlock header later ih =>
      rcases beside.openBlock header with ⟨stand, grown⟩
      exact grown.exists_trans (ih stand obeyed)
  | closeBlock trailer later ih =>
      rw [obeyAll_cons, Attempt.bind_eq_ok_iff] at obeyed
      rcases obeyed with ⟨closed, obeyedFirst, obeyedRest⟩
      rcases beside.closeBlock obeyedFirst with ⟨closedRight, obeyedBeside, stand, grown⟩
      rw [obeyAll_cons, obeyedBeside]
      exact grown.exists_trans (ih stand obeyedRest)
  | toggle later ih =>
      rcases beside.toggle with ⟨stand, grown⟩
      exact grown.exists_trans (ih stand obeyed)

end Sink

namespace Compiler

variable {compiler : Compiler} {atEnd : List Journal.Notice} {source : String}
  {stream : TokenStream Failure} {start after : Run} {position : Position}

/-! ## Moments of a run -/

/-- The state in which a run meets its first token. -/
def opened (compiler : Compiler) (start : Run) : Run :=
  { start with
    foundYield := false
    sink := start.sink.suppress compiler.variant.initiallySuppressed }

/-- What a run does up to some token: it processes the tokens before. -/
def processAll (compiler : Compiler) (atEnd : List Journal.Notice) : List Token → RunM Unit
  | [] => pure ()
  | token :: rest => do
      compiler.processNoting atEnd token
      compiler.processAll atEnd rest

/-- What a run of many tokens leaves is what proceeding through them gives. -/
theorem outcome_processAll
    (compiler : Compiler) (atEnd : List Journal.Notice) (tokens : List Token) (run : Run) :
    Run.outcome (compiler.processAll atEnd tokens run) =
      compiler.proceedAll (run.sink, run.course) tokens := by
  induction tokens generalizing run with
  | nil =>
      rfl
  | cons token rest ih =>
      have first := compiler.outcome_processNoting atEnd token run
      rw [processAll, proceedAll, Attempt.bind_apply, ← first]
      cases compiler.processNoting atEnd token run with
      | ok answer next =>
          exact ih next
      | error failure next =>
          rfl

/-- An accepted run has come to a state after any tokens in front. -/
theorem Accepts.exists_reached
    {instructions : List Instruction} {course : Course} {written : Sink}
    {before rest : List Token}
    (accepted : compiler.Accepts start (before ++ rest) instructions course written)
    (atEnd : List Journal.Notice) :
    ∃ made later reached,
      compiler.processAll atEnd before (compiler.opened start) = .ok () reached ∧
        compiler.planAll (compiler.opened start).course before = .ok (made, reached.course) ∧
          (compiler.opened start).sink.obeyAll made = .ok reached.sink ∧
            compiler.planAll reached.course rest = .ok (later, course) ∧
              reached.sink.obeyAll later = .ok written := by
  rcases planAll_append_eq_ok_iff.mp accepted.planned with
    ⟨made, middle, later, plannedBefore, plannedRest, rfl⟩
  have obeyed := accepted.obeyed
  rw [Sink.obeyAll_append, Attempt.bind_eq_ok_iff] at obeyed
  rcases obeyed with ⟨between, obeyedBefore, obeyedRest⟩
  have proceeded :
      compiler.proceedAll ((compiler.opened start).sink, (compiler.opened start).course) before =
        .ok (between, middle) :=
    proceedAll_eq_ok_iff.mpr ⟨made, plannedBefore, obeyedBefore⟩
  have outcome := compiler.outcome_processAll atEnd before (compiler.opened start)
  rw [proceeded] at outcome
  cases processed : compiler.processAll atEnd before (compiler.opened start) with
  | error failure stopped =>
      rw [processed] at outcome
      cases outcome
  | ok answer reached =>
      rw [processed] at outcome
      cases outcome
      exact ⟨made, later, reached, rfl, plannedBefore, obeyedBefore, plannedRest, obeyedRest⟩

/-! ## Balanced runs -/

/--
A run added lines behind those of its sink, and came back to the level and to
the number of counters that it found, less those of the sections it started in.
-/
structure Balances (compiler : Compiler) (start after : Run) (added : List String) : Prop where
  lines : after.sink.lines = start.sink.lines ++ added
  level : after.sink.level + start.scope.depth = start.sink.level
  suppressed : after.sink.suppressed = start.sink.suppressed
  counters :
    after.sink.blocks.length + (compiler.opened start).sink.owned start.scope.depth =
      start.sink.blocks.length
  pending : after.sink.pending = []

/--
Whenever a run that shows its output comes to the end of a section there is a
counter to be dropped, and it is not one of those that the run found, unless the
run started in a section.
-/
def ClosesItsOwn (compiler : Compiler) (atEnd : List Journal.Notice) (start : Run)
    (tokens : List Token) : Prop :=
  ∀ before token rest,
    tokens = before ++ token :: rest → token.kind = .sectionClose →
      ∃ reached,
        compiler.processAll atEnd before (compiler.opened start) = .ok () reached ∧
          (reached.sink.suppressed = false →
            reached.sink.blocks ≠ [] ∧
              start.sink.blocks.length <
                reached.sink.blocks.length +
                  (compiler.opened start).sink.owned start.scope.depth)

/--
Two runs start alike: in the same scope, at the same level and behind the same
pending statements.  Their sinks may hold other lines and other counters, beside
those of the sections that the runs start in, and either may be suppressed.
-/
structure StartsBeside (start other : Run) : Prop where
  scope : other.scope = start.scope
  indent : other.sink.indent = start.sink.indent
  level : other.sink.level = start.sink.level
  pending : other.sink.pending = start.sink.pending
  counters :
    other.sink.blocks.take start.scope.depth = start.sink.blocks.take start.scope.depth

theorem StartsBeside.opened
    {other : Run} (alike : StartsBeside start other) (compiler : Compiler) :
    (compiler.opened start).sink.Beside (compiler.opened other).sink start.scope.depth :=
  ⟨alike.indent, alike.level, alike.pending, rfl, fun _ => alike.counters⟩

/-- A run that is accepted closes all sections that were open at its start. -/
theorem leads_of_accepts
    {tokens : List Token} {instructions : List Instruction} {course : Course} {written : Sink}
    (accepted : compiler.Accepts start tokens instructions course written) :
    Instruction.Leads start.scope.depth instructions 0 := by
  have leads := leads_of_planAll accepted.planned
  rwa [Scope.depth, Scope.depth, accepted.closed] at leads

theorem StartsBeside.refl (start : Run) : StartsBeside start start :=
  ⟨rfl, rfl, rfl, rfl, rfl⟩

/-- A run that starts beside an accepted one is accepted, and both add the same lines. -/
theorem Accepts.exists_beside
    {tokens : List Token} {instructions : List Instruction} {course : Course} {written : Sink}
    {other : Run} (accepted : compiler.Accepts start tokens instructions course written)
    (alike : StartsBeside start other) :
    ∃ reached,
      compiler.Accepts other tokens instructions course reached ∧
        start.sink.GrowAlike other.sink written.finish reached.finish := by
  rcases (alike.opened compiler).obeyAll (leads_of_accepts accepted) accepted.obeyed with
    ⟨reached, obeyed, stand, grown⟩
  refine ⟨reached, ⟨?_, accepted.closed, obeyed⟩, grown.trans stand.finish.2⟩
  rw [alike.scope]
  exact accepted.planned

/-- A run that is accepted closes its own blocks and no other. -/
theorem Accepts.closesItsOwn
    {tokens : List Token} {instructions : List Instruction} {course : Course} {written : Sink}
    (accepted : compiler.Accepts start tokens instructions course written)
    (atEnd : List Journal.Notice) : compiler.ClosesItsOwn atEnd start tokens := by
  rintro before token rest rfl closes
  rcases accepted.exists_reached atEnd with
    ⟨made, later, reached, processed, plannedBefore, obeyedBefore, plannedRest, obeyedRest⟩
  refine ⟨reached, processed, ?_⟩
  intro shown
  rcases planAll_cons_eq_ok_iff.mp plannedRest with
    ⟨closing, next, others, plannedClose, -, rfl⟩
  simp only [plan, closes, planClose] at plannedClose
  split at plannedClose
  · cases plannedClose
  · rename_i innermost outer isOpen
    split at plannedClose
    · cases plannedClose
      rw [List.singleton_append, Sink.obeyAll_cons, Attempt.bind_eq_ok_iff] at obeyedRest
      rcases obeyedRest with ⟨closed, obeyedClose, -⟩
      rcases Sink.obey_closeBlock_eq_ok_iff.mp obeyedClose with
        ⟨hidden, -⟩ | ⟨-, statements, outside, counted, -⟩
      · rw [hidden] at shown
        cases shown
      · have counters :
            reached.sink.blocks.length + (compiler.opened start).sink.owned start.scope.depth =
              start.sink.blocks.length + reached.sink.owned reached.course.scope.depth :=
          (Sink.balance_of_obeyAll (leads_of_planAll plannedBefore) obeyedBefore).2
        have own : reached.sink.owned reached.course.scope.depth = outer.length + 1 := by
          simp [Sink.owned, shown, Scope.depth, isOpen]
        refine ⟨by simp [counted], ?_⟩
        omega
    · cases plannedClose

/-- The lines that a run adds balance, from wherever it starts. -/
theorem exists_balances_of_run
    (done : compiler.run atEnd source stream start = .ok position after) :
    ∃ added, compiler.Balances start after added := by
  rcases accepts_of_run done with
    ⟨ending, instructions, written, ended, -, accepted, sink⟩
  rcases accepted.exists_beside (.refl start) with
    ⟨-, -, added, lines, -⟩
  rcases Sink.balance_of_obeyAll (leads_of_accepts accepted) accepted.obeyed with
    ⟨level, counters⟩
  refine ⟨added, ?_⟩
  constructor
  · rw [sink]
    exact lines
  · rw [sink]
    simpa [Sink.suppress, Sink.finish] using level
  · rw [sink]
    rfl
  · rw [sink]
    rw [Sink.owned_zero] at counters
    exact counters
  · rw [sink]
    rfl

/--
A run that starts outside of sections adds lines, and leaves nothing pending; it changes neither
the level of its sink, nor whether it is suppressed, nor the number of counters.
-/
theorem unchanged_of_closed_run (closed : start.scope.sections = [])
    (done : compiler.run atEnd source stream start = .ok position after) :
    (∃ added, after.sink.lines = start.sink.lines ++ added) ∧
      after.sink.pending = [] ∧
        after.sink.level = start.sink.level ∧
          after.sink.suppressed = start.sink.suppressed ∧
            after.sink.blocks.length = start.sink.blocks.length := by
  rcases exists_balances_of_run done with ⟨added, balances⟩
  have outside : start.scope.depth = 0 := by
    rw [Scope.depth, closed, List.length_nil]
  have level := balances.level
  have counters := balances.counters
  rw [outside] at level counters
  rw [Sink.owned_zero] at counters
  refine ⟨⟨added, balances.lines⟩, balances.pending, ?_, balances.suppressed, counters⟩
  simpa using level

/--
A run that succeeds is a balanced append.  It adds lines behind those of its
sink, comes back to the level and the number of counters it found, leaves the
suppression as it was and nothing pending, and it closes only blocks that it
opened.  The lines it adds are those of every other run over the same tokens that
starts alike, whatever the other sink holds.
-/
theorem balances_of_run
    (done : compiler.run atEnd source stream start = .ok position after) :
    ∃ added,
      compiler.Balances start after added ∧
        compiler.ClosesItsOwn atEnd start stream.template ∧
          ∀ (otherNotices : List Journal.Notice) (otherSource : String) (other : Run),
            StartsBeside start other →
              ∃ place finished,
                compiler.run otherNotices otherSource stream other = .ok place finished ∧
                  finished.sink.lines = other.sink.lines ++ added := by
  rcases accepts_of_run done with
    ⟨ending, instructions, written, ended, -, accepted, sink⟩
  rcases exists_balances_of_run done with ⟨added, balances⟩
  refine ⟨added, balances, accepted.closesItsOwn atEnd, ?_⟩
  intro otherNotices otherSource other alike
  rcases accepted.exists_beside alike with ⟨reached, acceptedOther, again, linesHere, linesThere⟩
  rcases TokenStream.exists_ending ended otherSource none with ⟨otherEnding, otherEnded⟩
  rcases acceptedOther.exists_run otherEnded otherNotices with ⟨finished, ran, sinkThere, -⟩
  refine ⟨otherEnding.position, finished, ran, ?_⟩
  have lines : written.finish.lines = start.sink.lines ++ added := by
    rw [← balances.lines, sink]
    rfl
  rw [linesHere, List.append_cancel_left_eq] at lines
  rw [sinkThere, ← lines]
  exact linesThere

/-- The footer of pages: what follows the yield marker. -/
def pagesAfterYield : Compiler :=
  { pages with variant := .footer }

/-- A section on either side of a yield marker. -/
def yieldingTokens : List Token :=
  [(.sectionOpen, "flag"), (.reference, "title"), (.sectionClose, "flag"),
    (.rawReference, "yield"), (.invertedOpen, "flag"), (.sectionClose, "flag")].map
      fun (kind, value) => { kind, value, position := .start "page" }

/-- A footer in a sink that has an open block already adds what it would add in an empty sink. -/
theorem balances_of_run_yieldingTokens :
    ∃ position after added,
      pagesAfterYield.run [] "page" (.ofList yieldingTokens) (.start page busySink) =
          .ok position after ∧
        pagesAfterYield.Balances (.start page busySink) after added ∧
          pagesAfterYield.ClosesItsOwn [] (.start page busySink)
            (TokenStream.ofList yieldingTokens : TokenStream Failure).template ∧
            ∃ place finished,
              pagesAfterYield.run [] "page" (.ofList yieldingTokens)
                  (.start page { busySink with lines := [], blocks := [] }) =
                  .ok place finished ∧
                finished.sink.lines = added := by
  obtain ⟨position, after, done⟩ := Run.exists_of_report
    (show (Run.report (pagesAfterYield.run [] "page" (.ofList yieldingTokens)
      (.start page busySink))).isOk = true by decide +kernel)
  obtain ⟨added, balances, closes, alike⟩ := balances_of_run done
  obtain ⟨place, finished, ran, lines⟩ :=
    alike [] "page" (.start page { busySink with lines := [], blocks := [] })
      ⟨rfl, rfl, rfl, rfl, rfl⟩
  exact ⟨position, after, added, done, balances, closes, place, finished, ran, lines⟩

end Compiler

end TypedMustache
