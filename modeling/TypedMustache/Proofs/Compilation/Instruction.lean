import TypedMustache.Compilation
import TypedMustache.Proofs.Attempt
import TypedMustache.Proofs.Token.Template

/-!
# Runs as plans carried out by a sink

A step of a run does two things that hardly depend on each other.  The open
sections and the yield rules decide whether the token is allowed and what is to
be written; the sink only carries out what it is told.

This module separates them.  `Compiler.plan` gives the instructions of a token
without looking at a sink, and `Sink.obey` carries out one instruction.  The
main results say that `Compiler.step`, `Compiler.process` and `Compiler.run` are
exactly a plan followed by obeying it, up to the notices that are given on the
way.
-/

namespace TypedMustache

open Journal (Notice)

/-! ## Instructions -/

/-- What a token asks a sink for. -/
inductive Instruction where
  | write (statement : String)
  | endLine
  | openBlock (header : String)
  | closeBlock (trailer : String)
  /-- Turn output off if it is on, and on if it is off. -/
  | toggle
deriving DecidableEq, Repr

namespace Sink

/-- Carry out an instruction. -/
def obey (sink : Sink) : Instruction → Except Failure Sink
  | .write statement => .ok (sink.write statement)
  | .endLine => .ok sink.endLine
  | .openBlock header => .ok (sink.openBlock header)
  | .closeBlock trailer =>
      match closeBlock (some trailer) sink with
      | .ok () closed => .ok closed
      | .error failure _ => .error failure
  | .toggle => .ok (sink.suppress !sink.suppressed)

/-- Carry out instructions one after the other. -/
def obeyAll (sink : Sink) : List Instruction → Except Failure Sink
  | [] => .ok sink
  | instruction :: rest => (sink.obey instruction).bind (·.obeyAll rest)

@[simp]
theorem obeyAll_nil (sink : Sink) : sink.obeyAll [] = .ok sink := rfl

theorem obeyAll_cons
    (sink : Sink) (instruction : Instruction) (rest : List Instruction) :
    sink.obeyAll (instruction :: rest) =
      (sink.obey instruction).bind (·.obeyAll rest) := rfl

/-- Two parts of a program are obeyed one after the other. -/
theorem obeyAll_append
    (sink : Sink) (first second : List Instruction) :
    sink.obeyAll (first ++ second) =
      (sink.obeyAll first).bind (·.obeyAll second) := by
  induction first generalizing sink with
  | nil => rfl
  | cons instruction rest ih =>
      rw [List.cons_append, obeyAll_cons, obeyAll_cons]
      cases sink.obey instruction with
      | error failure => rfl
      | ok next => exact ih next

end Sink

/-! ## The course of a run -/

/-- How far a run has come, apart from what it has written. -/
structure Course where
  scope : Scope
  foundYield : Bool

namespace Course

/-- The course that a run over data of a type starts with. -/
def start (dataType : DataType) : Course :=
  { scope := .root dataType, foundYield := false }

/-- What forbids a layout to yield here: it did before, or a section is open. -/
def yieldFault? (course : Course) : Option Fault :=
  if course.foundYield then some .repeatedYield
  else
    match course.scope.sections with
    | [] => none
    | innermost :: _ => some (.enclosedYield innermost.name)

end Course

/-- Carry out a plan, unless there is none. -/
def Sink.carryOut (sink : Sink) :
    Except Failure (List Instruction × Course) → Except Failure (Sink × Course)
  | .error failure => .error failure
  | .ok (instructions, course) => (sink.obeyAll instructions).map (·, course)

/-- The course of a run. -/
def Run.course (run : Run) : Course :=
  { scope := run.scope, foundYield := run.foundYield }

/-- What a part of a run comes to, apart from its answer and its notices. -/
def Run.outcome {α : Type} :
    EStateM.Result Failure Run α → Except Failure (Sink × Course)
  | .ok _ run => .ok (run.sink, run.course)
  | .error failure _ => .error failure

/-- The statement that writes a text as it is. -/
def Settings.literalStatement (settings : Settings) (text : String) : String :=
  settings.writerName ++ ".write(\"" ++ Text.literal text ++ "\")"

namespace Compiler

/-! ## Plans -/

/-- The instructions for a reference to a name. -/
def planReference (compiler : Compiler) (course : Course) (name : String) (escaped : Bool) :
    Except Failure (List Instruction × Course) :=
  match (course.scope.enter compiler.catalog name false).outcome with
  | .error failure => .error failure
  | .ok scope =>
      .ok ([.write (scope.statement compiler.catalog compiler.settings escaped)], course)

/-- The instructions for the start of a section over a name. -/
def planSection (compiler : Compiler) (course : Course) (name : String) (inverted : Bool) :
    Except Failure (List Instruction × Course) :=
  match (course.scope.enter compiler.catalog name inverted).outcome with
  | .error failure => .error failure
  | .ok scope =>
      .ok ([.openBlock (scope.header compiler.settings)], { course with scope })

/-- The instructions for the end of a section of a name. -/
def planClose (course : Course) (name : String) :
    Except Failure (List Instruction × Course) :=
  match course.scope.sections with
  | [] => .error (.ofFault (.unopenedSection name))
  | innermost :: outer =>
      if innermost.name = name then
        .ok ([.closeBlock innermost.trailer],
          { course with scope := { course.scope with sections := outer } })
      else .error (.ofFault (.mismatchedSection name innermost.name))

/-- The instructions for a token, and the course after it. -/
def plan (compiler : Compiler) (course : Course) (token : Token) :
    Except Failure (List Instruction × Course) :=
  match token.kind with
  | .text => .ok ([.write (compiler.settings.literalStatement token.value)], course)
  | .special =>
      .ok (.write (compiler.settings.literalStatement token.value) ::
        (if token.value = "\n" then [.endLine] else []), course)
  | .reference =>
      if compiler.isYield token.value then
        .error <| .ofFault <|
          course.yieldFault?.getD (.escapedYield compiler.settings.yieldMarker)
      else compiler.planReference course token.value true
  | .rawReference =>
      if compiler.isYield token.value then
        match course.yieldFault? with
        | some fault => .error (.ofFault fault)
        | none => .ok ([.toggle], { course with foundYield := true })
      else compiler.planReference course token.value false
  | .sectionOpen => compiler.planSection course token.value false
  | .invertedOpen => compiler.planSection course token.value true
  | .sectionClose => planClose course token.value
  | .endOfFile =>
      match course.scope.sections with
      | [] => .ok ([], course)
      | innermost :: _ => .error (.ofFault (.unclosedSection innermost.name))

/-- Carry out what a token asks for. -/
def advance (compiler : Compiler) (state : Sink × Course) (token : Token) :
    Except Failure (Sink × Course) :=
  state.1.carryOut (compiler.plan state.2 token)

/-! ## Steps carry out plans -/

section Parts

variable {α β : Type} (run : Run)

@[simp]
theorem fail_apply (fault : Fault) :
    (Run.fail fault : RunM α) run = .error (.ofFault fault) run := rfl

@[simp]
theorem note_apply (notices : List Notice) :
    Run.note notices run = .ok () { run with notices := run.notices ++ notices } := rfl

@[simp]
theorem onSink_apply (change : Sink → Sink) :
    Run.onSink change run = .ok () { run with sink := change run.sink } := rfl

end Parts

/-- What a reference leaves is its plan, carried out. -/
theorem outcome_writeReference
    (compiler : Compiler) (name : String) (escaped : Bool) (run : Run) :
    Run.outcome (compiler.writeReference name escaped run) =
      run.sink.carryOut (compiler.planReference run.course name escaped) := by
  cases entered : (run.scope.enter compiler.catalog name false).outcome with
  | error failure =>
      simp [writeReference, scopeOver, planReference, Run.course, Run.outcome,
        Sink.carryOut, entered]
  | ok scope =>
      have written :
          scope.writeStatement compiler.catalog compiler.settings escaped =
            .ok (scope.statement compiler.catalog compiler.settings escaped) :=
        Scope.writeStatement_of_enter entered
      simp [writeReference, scopeOver, planReference, Run.course, Run.outcome,
        Sink.carryOut, Sink.obeyAll, Sink.obey, Except.bind, Except.map, entered, written]

/-- What the opening of a section leaves is its plan, carried out. -/
theorem outcome_openSection
    (compiler : Compiler) (name : String) (inverted : Bool) (run : Run) :
    Run.outcome (compiler.openSection name inverted run) =
      run.sink.carryOut (compiler.planSection run.course name inverted) := by
  cases entered : (run.scope.enter compiler.catalog name inverted).outcome with
  | error failure =>
      simp [openSection, scopeOver, planSection, Run.course, Run.outcome,
        Sink.carryOut, entered]
  | ok scope =>
      simp [openSection, scopeOver, planSection, Run.course, Run.outcome,
        Sink.carryOut, Sink.obeyAll, Sink.obey, Except.bind, Except.map, entered]

/-- So is what the closing of a section leaves. -/
theorem outcome_closeSection (name : String) (run : Run) :
    Run.outcome (closeSection name run) =
      run.sink.carryOut (planClose run.course name) := by
  cases opened : run.scope.sections with
  | nil => simp [closeSection, planClose, Run.course, Run.outcome, Sink.carryOut, opened]
  | cons innermost outer =>
      by_cases same : innermost.name = name
      · cases closed : Sink.closeBlock (some innermost.trailer) run.sink with
        | ok answer sink =>
            simp [closeSection, planClose, Run.closeBlock, Run.course, Run.outcome,
              Sink.carryOut, Sink.obeyAll, Sink.obey, Except.bind, Except.map, opened, same,
              closed]
        | error failure sink =>
            simp [closeSection, planClose, Run.closeBlock, Run.course, Run.outcome,
              Sink.carryOut, Sink.obeyAll, Sink.obey, Except.bind, Except.map, opened, same,
              closed]
      · simp [closeSection, planClose, Run.course, Run.outcome, Sink.carryOut, opened, same]

theorem checkYield_apply (run : Run) :
    checkYield run =
      match run.course.yieldFault? with
      | some fault => .error (.ofFault fault) run
      | none => .ok () run := by
  cases found : run.foundYield with
  | true => simp [checkYield, Course.yieldFault?, Run.course, found]
  | false =>
      cases opened : run.scope.sections with
      | nil => simp [checkYield, Course.yieldFault?, Run.course, found, opened]
      | cons innermost outer => simp [checkYield, Course.yieldFault?, Run.course, found, opened]

/-- At the end the innermost open section is reported, and nothing is written. -/
theorem outcome_checkEnd (run : Run) :
    Run.outcome (checkEnd run) =
      run.sink.carryOut
        (match run.scope.sections with
        | [] => .ok ([], run.course)
        | innermost :: _ => .error (.ofFault (.unclosedSection innermost.name))) := by
  cases opened : run.scope.sections with
  | nil => simp [checkEnd, Run.outcome, Sink.carryOut, Except.map, opened]
  | cons innermost outer => simp [checkEnd, Run.outcome, Sink.carryOut, opened]

/-- A step is a plan that is carried out. -/
theorem outcome_step (compiler : Compiler) (token : Token) (run : Run) :
    Run.outcome (compiler.step token run) =
      compiler.advance (run.sink, run.course) token := by
  unfold step advance plan
  cases token.kind with
  | text => rfl
  | special =>
      by_cases newline : token.value = "\n"
      · simp [newline, writeLiteral, Run.outcome, Run.course, Sink.carryOut, Sink.obeyAll,
          Sink.obey, Except.bind, Except.map, Settings.literalStatement]
      · simp [newline, writeLiteral, Run.outcome, Run.course, Sink.carryOut, Sink.obeyAll,
          Sink.obey, Except.bind, Except.map, Settings.literalStatement]
  | reference =>
      by_cases yields : compiler.isYield token.value = true
      · cases misplaced : run.course.yieldFault? with
        | none => simp [yields, checkYield_apply, misplaced, Run.outcome, Sink.carryOut]
        | some fault => simp [yields, checkYield_apply, misplaced, Run.outcome, Sink.carryOut]
      · simpa [yields] using outcome_writeReference compiler token.value true run
  | rawReference =>
      by_cases yields : compiler.isYield token.value = true
      · cases misplaced : run.course.yieldFault? with
        | none =>
            have passed : checkYield run = .ok () run := by
              simp [checkYield_apply, misplaced]
            simp only [yields, if_true, Attempt.bind_apply, passed]
            rfl
        | some fault => simp [yields, checkYield_apply, misplaced, Run.outcome, Sink.carryOut]
      · simpa [yields] using outcome_writeReference compiler token.value false run
  | sectionOpen => exact outcome_openSection compiler token.value false run
  | invertedOpen => exact outcome_openSection compiler token.value true run
  | sectionClose => exact outcome_closeSection token.value run
  | endOfFile => exact outcome_checkEnd run

/-! ## Runs carry out plans -/

/-- Carry out what a token asks for; a failure is located at the token. -/
def proceed (compiler : Compiler) (state : Sink × Course) (token : Token) :
    Except Failure (Sink × Course) :=
  (compiler.advance state token).mapError (·.locate token.position)

/-- Carry out what tokens ask for, one after the other. -/
def proceedAll (compiler : Compiler) (state : Sink × Course) :
    List Token → Except Failure (Sink × Course)
  | [] => .ok state
  | token :: rest => (compiler.proceed state token).bind (compiler.proceedAll · rest)

/-- Notices do not matter for what a token leaves. -/
theorem outcome_processNoting
    (compiler : Compiler) (atEnd : List Notice) (token : Token) (run : Run) :
    Run.outcome (compiler.processNoting atEnd token run) =
      compiler.proceed (run.sink, run.course) token := by
  have located (before : Run) :
      Run.outcome (compiler.process token before) =
        compiler.proceed (before.sink, before.course) token := by
    rw [proceed, ← outcome_step]
    cases done : compiler.step token before <;>
      simp [process, done, Run.outcome]
  by_cases isEnd : token.kind = .endOfFile
  · have unnoted :
        compiler.processNoting atEnd token run =
          compiler.process token { run with notices := run.notices ++ atEnd } := by
      simp [processNoting, isEnd]
    rw [unnoted]
    exact located { run with notices := run.notices ++ atEnd }
  · simpa [processNoting, isEnd] using located run

end Compiler

/-- What a run comes to, apart from its notices. -/
def Run.report :
    EStateM.Result Failure Run Position → Except Failure (Position × Sink × Course)
  | .ok position run => .ok (position, run.sink, run.course)
  | .error failure _ => .error failure

theorem Run.exists_of_report {result : EStateM.Result Failure Run Position}
    (succeeds : (Run.report result).isOk = true) :
    ∃ position run, result = .ok position run := by
  cases result with
  | ok position run => exact ⟨position, run, rfl⟩
  | error failure run => cases succeeds

theorem Run.report_eq_error_iff
    {result : EStateM.Result Failure Run Position} {failure : Failure} :
    Run.report result = .error failure ↔ ∃ after, result = .error failure after := by
  cases result with
  | ok position run => simp [report]
  | error reason run => simp [report]

namespace Compiler

/-- A run over a source is the plans of its tokens, carried out up to its end token. -/
theorem report_feedFrom
    (compiler : Compiler) (atEnd : List Notice) (source : String)
    (stream : TokenStream Failure) (last : Option Position) (run : Run) :
    Run.report (stream.feedFrom (compiler.processNoting atEnd) source last run) =
      (compiler.proceedAll (run.sink, run.course) stream.template).bind fun state =>
        (stream.ending source last).bind fun token =>
          (compiler.proceed state token).map (token.position, ·) := by
  induction stream generalizing last run with
  | exhausted =>
      have done := compiler.outcome_processNoting atEnd
        (Token.atEnd (last.getD (Position.start source))) run
      simp only [TokenStream.feedFrom, TokenStream.template, TokenStream.ending, proceedAll,
        Except.bind, Attempt.bind_apply, Attempt.pure_apply, ← done]
      cases compiler.processNoting atEnd
        (Token.atEnd (last.getD (Position.start source))) run <;> rfl
  | broken failure => rfl
  | next token rest ih =>
      have done := compiler.outcome_processNoting atEnd token run
      by_cases isEnd : token.kind = .endOfFile
      · simp only [TokenStream.feedFrom, TokenStream.template, TokenStream.ending, proceedAll,
          Except.bind, Attempt.bind_apply, isEnd, if_true, Attempt.pure_apply, ← done]
        cases compiler.processNoting atEnd token run <;> rfl
      · simp only [TokenStream.feedFrom, TokenStream.template, TokenStream.ending, proceedAll,
          Attempt.bind_apply, isEnd, if_false, ← done]
        cases compiler.processNoting atEnd token run with
        | ok answer after => exact ih (some token.position) after
        | error failure after => rfl

/-- The instructions for tokens, and the course after them. -/
def planAll (compiler : Compiler) (course : Course) :
    List Token → Except Failure (List Instruction × Course)
  | [] => .ok ([], course)
  | token :: rest =>
      ((compiler.plan course token).mapError (·.locate token.position)).bind fun first =>
        (compiler.planAll first.2 rest).map fun later => (first.1 ++ later.1, later.2)

/-- A plan for many tokens is a plan for the first and then one for the others. -/
theorem planAll_cons_eq_ok_iff
    {compiler : Compiler} {course last : Course} {token : Token} {rest : List Token}
    {instructions : List Instruction} :
    compiler.planAll course (token :: rest) = .ok (instructions, last) ↔
      ∃ first next later,
        compiler.plan course token = .ok (first, next) ∧
          compiler.planAll next rest = .ok (later, last) ∧
            instructions = first ++ later := by
  simp only [planAll, Attempt.bind_eq_ok_iff, Attempt.mapError_eq_ok_iff,
    Attempt.map_eq_ok_iff, Prod.mk.injEq]
  constructor
  · rintro ⟨⟨first, next⟩, planned, ⟨later, after⟩, rested, rfl, rfl⟩
    exact ⟨first, next, later, planned, rested, rfl⟩
  · rintro ⟨first, next, later, planned, rested, rfl⟩
    exact ⟨(first, next), planned, (later, last), rested, rfl, rfl⟩

/-- A plan for two lists is a plan for one and then a plan for the other. -/
theorem planAll_append_eq_ok_iff
    {compiler : Compiler} {course last : Course} {front back : List Token}
    {instructions : List Instruction} :
    compiler.planAll course (front ++ back) = .ok (instructions, last) ↔
      ∃ first middle later,
        compiler.planAll course front = .ok (first, middle) ∧
          compiler.planAll middle back = .ok (later, last) ∧
            instructions = first ++ later := by
  induction front generalizing course instructions with
  | nil =>
      simp only [List.nil_append, planAll, Except.ok.injEq, Prod.mk.injEq]
      constructor
      · intro planned
        exact ⟨[], course, instructions, ⟨rfl, rfl⟩, planned, rfl⟩
      · rintro ⟨first, middle, later, ⟨rfl, rfl⟩, planned, rfl⟩
        exact planned
  | cons token rest ih =>
      simp only [List.cons_append, planAll_cons_eq_ok_iff, ih]
      constructor
      · rintro ⟨head, next, tail, planned, ⟨first, middle, later, rested, ended, rfl⟩, rfl⟩
        exact ⟨head ++ first, middle, later, ⟨head, next, first, planned, rested, rfl⟩, ended,
          by simp⟩
      · rintro ⟨first, middle, later, ⟨head, next, tail, planned, rested, rfl⟩, ended, rfl⟩
        exact ⟨head, next, tail ++ later, planned, ⟨tail, middle, later, rested, ended, rfl⟩,
          by simp⟩

/-- A token is gone through if it has a plan and the sink obeys it. -/
theorem proceed_eq_ok_iff
    {compiler : Compiler} {sink written : Sink} {course next : Course} {token : Token} :
    compiler.proceed (sink, course) token = .ok (written, next) ↔
      ∃ instructions,
        compiler.plan course token = .ok (instructions, next) ∧
          sink.obeyAll instructions = .ok written := by
  rw [proceed, Attempt.mapError_eq_ok_iff, advance]
  cases compiler.plan course token with
  | error failure => simp [Sink.carryOut]
  | ok made =>
      simp only [Sink.carryOut, Attempt.map_eq_ok_iff, Except.ok.injEq, Prod.mk.injEq]
      constructor
      · rintro ⟨reached, obeyed, rfl, rfl⟩
        exact ⟨made.1, rfl, obeyed⟩
      · rintro ⟨instructions, rfl, obeyed⟩
        exact ⟨written, obeyed, rfl, rfl⟩

/-- The same for many tokens: all can be planned before any is carried out. -/
theorem proceedAll_eq_ok_iff
    {compiler : Compiler} {sink written : Sink} {course last : Course} {tokens : List Token} :
    compiler.proceedAll (sink, course) tokens = .ok (written, last) ↔
      ∃ instructions,
        compiler.planAll course tokens = .ok (instructions, last) ∧
          sink.obeyAll instructions = .ok written := by
  induction tokens generalizing sink course with
  | nil =>
      simp only [proceedAll, planAll, Except.ok.injEq, Prod.mk.injEq]
      constructor
      · rintro ⟨rfl, rfl⟩
        exact ⟨[], ⟨rfl, rfl⟩, rfl⟩
      · rintro ⟨instructions, ⟨rfl, rfl⟩, obeyed⟩
        cases obeyed
        exact ⟨rfl, rfl⟩
  | cons token rest ih =>
      simp only [proceedAll, Attempt.bind_eq_ok_iff, planAll_cons_eq_ok_iff]
      constructor
      · rintro ⟨⟨middle, next⟩, moved, done⟩
        rcases proceed_eq_ok_iff.mp moved with ⟨first, planned, obeyed⟩
        rcases ih.mp done with ⟨later, plannedLater, obeyedLater⟩
        refine ⟨first ++ later, ⟨first, next, later, planned, plannedLater, rfl⟩, ?_⟩
        rw [Sink.obeyAll_append, Attempt.bind_eq_ok_iff]
        exact ⟨middle, obeyed, obeyedLater⟩
      · rintro ⟨instructions, ⟨first, next, later, planned, plannedLater, rfl⟩, obeyed⟩
        rw [Sink.obeyAll_append, Attempt.bind_eq_ok_iff] at obeyed
        rcases obeyed with ⟨middle, obeyedFirst, obeyedLater⟩
        exact ⟨(middle, next), proceed_eq_ok_iff.mpr ⟨first, planned, obeyedFirst⟩,
          ih.mpr ⟨later, plannedLater, obeyedLater⟩⟩

/-! ## Accepted runs -/

/--
A run from a state accepts tokens: they have a plan that leaves no section open,
and the sink can carry it out.
-/
structure Accepts (compiler : Compiler) (start : Run) (tokens : List Token)
    (instructions : List Instruction) (course : Course) (written : Sink) : Prop where
  planned :
    compiler.planAll { scope := start.scope, foundYield := false } tokens =
      .ok (instructions, course)
  closed : course.scope.sections = []
  obeyed :
    (start.sink.suppress compiler.variant.initiallySuppressed).obeyAll instructions =
      .ok written

/-- The end is gone through if no section is open; it writes nothing. -/
theorem proceed_end_eq_ok_iff
    {compiler : Compiler} {sink written : Sink} {course last : Course} {token : Token}
    (isEnd : token.kind = .endOfFile) :
    compiler.proceed (sink, course) token = .ok (written, last) ↔
      course.scope.sections = [] ∧ written = sink ∧ last = course := by
  rw [proceed_eq_ok_iff]
  cases opened : course.scope.sections with
  | nil =>
      simp only [plan, isEnd, opened, Except.ok.injEq, Prod.mk.injEq]
      constructor
      · rintro ⟨instructions, ⟨rfl, rfl⟩, obeyed⟩
        cases obeyed
        exact ⟨trivial, rfl, rfl⟩
      · rintro ⟨-, rfl, rfl⟩
        exact ⟨[], ⟨rfl, rfl⟩, rfl⟩
  | cons innermost outer => simp [plan, isEnd, opened]

/-- A run proceeds through the tokens of its source and ends the last line. -/
theorem report_run (compiler : Compiler) (atEnd : List Notice) (source : String)
    (stream : TokenStream Failure) (start : Run) :
    Run.report (compiler.run atEnd source stream start) =
      ((compiler.proceedAll
          (start.sink.suppress compiler.variant.initiallySuppressed,
            { scope := start.scope, foundYield := false }) stream.template).bind fun state =>
        (stream.ending source none).bind fun token =>
          (compiler.proceed state token).map (token.position, ·)).map
        fun (position, sink, course) =>
          (position, sink.finish.suppress start.sink.suppressed, course) := by
  have fed := compiler.report_feedFrom atEnd source stream none
    { start with
      foundYield := false
      sink := start.sink.suppress compiler.variant.initiallySuppressed }
  simp only [Run.course] at fed
  rw [← fed]
  simp only [run, TokenStream.feed]
  cases stream.feedFrom (compiler.processNoting atEnd) source none
    { start with
      foundYield := false
      sink := start.sink.suppress compiler.variant.initiallySuppressed } <;> rfl

/-- When a run succeeds, and what it leaves. -/
theorem report_run_eq_ok_iff
    {compiler : Compiler} {atEnd : List Notice} {source : String}
    {stream : TokenStream Failure} {start : Run}
    {position : Position} {sink : Sink} {course : Course} :
    Run.report (compiler.run atEnd source stream start) = .ok (position, sink, course) ↔
      ∃ token instructions written,
        stream.ending source none = .ok token ∧ token.position = position ∧
          compiler.Accepts start stream.template instructions course written ∧
            sink = written.finish.suppress start.sink.suppressed := by
  simp only [report_run, Attempt.map_eq_ok_iff, Attempt.bind_eq_ok_iff]
  constructor
  · rintro ⟨-, ⟨⟨written, last⟩, proceeded, token, ended, ⟨final, after⟩, checked, rfl⟩, same⟩
    cases same
    rcases (proceed_end_eq_ok_iff (TokenStream.kind_of_ending ended)).mp checked with
      ⟨closed, rfl, rfl⟩
    rcases proceedAll_eq_ok_iff.mp proceeded with ⟨instructions, planned, obeyed⟩
    exact ⟨token, instructions, final, ended, rfl, ⟨planned, closed, obeyed⟩, rfl⟩
  · rintro ⟨token, instructions, written, ended, rfl, accepted, rfl⟩
    refine ⟨(token.position, written, course), ⟨(written, course), ?_, token, ended, ?_⟩, rfl⟩
    · exact proceedAll_eq_ok_iff.mpr ⟨instructions, accepted.planned, accepted.obeyed⟩
    · exact ⟨(written, course),
        (proceed_end_eq_ok_iff (TokenStream.kind_of_ending ended)).mpr
          ⟨accepted.closed, rfl, rfl⟩, rfl⟩

/-- A run that succeeds accepts the tokens before the end of its source. -/
theorem accepts_of_run
    {compiler : Compiler} {atEnd : List Notice} {source : String}
    {stream : TokenStream Failure} {start after : Run} {position : Position}
    (done : compiler.run atEnd source stream start = .ok position after) :
    ∃ token instructions written,
      stream.ending source none = .ok token ∧ token.position = position ∧
        compiler.Accepts start stream.template instructions after.course written ∧
          after.sink = written.finish.suppress start.sink.suppressed := by
  apply report_run_eq_ok_iff.mp
  rw [done]
  rfl

/-- A run over a source that ends succeeds when it accepts the tokens before the end. -/
theorem Accepts.exists_run
    {compiler : Compiler} {source : String} {stream : TokenStream Failure} {start : Run}
    {token : Token} {instructions : List Instruction} {course : Course} {written : Sink}
    (accepted : compiler.Accepts start stream.template instructions course written)
    (ended : stream.ending source none = .ok token) (atEnd : List Notice) :
    ∃ after,
      compiler.run atEnd source stream start = .ok token.position after ∧
        after.sink = written.finish.suppress start.sink.suppressed ∧
          after.course = course := by
  have reported :
      Run.report (compiler.run atEnd source stream start) =
        .ok (token.position, written.finish.suppress start.sink.suppressed, course) :=
    report_run_eq_ok_iff.mpr ⟨token, instructions, written, ended, rfl, accepted, rfl⟩
  cases done : compiler.run atEnd source stream start with
  | error failure after =>
      rw [done] at reported
      cases reported
  | ok position after =>
      simp only [done, Run.report, Except.ok.injEq, Prod.mk.injEq] at reported
      rcases reported with ⟨rfl, sameSink, sameCourse⟩
      exact ⟨after, rfl, sameSink, sameCourse⟩

end Compiler

end TypedMustache
