import TypedMustache.Proofs.Compilation.SectionTree
import TypedMustache.Proofs.DataType.ShapelessType
import TypedMustache.Proofs.Scope.Reachable

/-!
# Why runs fail

A run could fail for two reasons: a token has no plan, or the sink cannot carry
the plan out.  The second never happens.  Sections are closed in the order in
which they were opened, and output is turned on or off only where none is open;
so there is a block for every section that a run closes (`Sink.Holds`).

`Compiler.Move` lists what a token with a plan can do, and
`Compiler.report_run_eq_error_iff` reduces the failures of a run to its source
and to the first token without a plan.
-/

namespace TypedMustache

/-! ## Names without a meaning -/

namespace Catalog

variable {catalog : Catalog} {model : Model} {owner : DataType} {name : String} {fault : Fault}

/-- An annotation that cannot be evaluated is a fault in a name. -/
theorem kind_of_evaluate
    {find? : String → Option DataType} {type : DataType}
    (failed : evaluate model find? type = .error fault) : fault.kind = .resolution := by
  unfold evaluate at failed
  split at failed
  · split at failed
    · cases failed
    · cases failed
      rfl
  · cases failed

/-- So are annotations of a class that cannot be evaluated. -/
theorem kind_of_declared
    (failed : catalog.declared model = .error fault) : fault.kind = .resolution := by
  rcases Attempt.bind_eq_error_iff.mp failed with unannotated | ⟨annotations, -, unread⟩
  · rcases Attempt.exists_of_foldlM_eq_error unannotated with ⟨entry, -, before, stepped⟩
    rcases Attempt.bind_eq_error_iff.mp stepped with unevaluated | ⟨type, -, impossible⟩
    · exact kind_of_evaluate unevaluated
    · cases impossible
  · rcases Attempt.exists_of_foldlM_eq_error unread with ⟨getter, -, before, stepped⟩
    cases kind : getter.kind with
    | property | cachedProperty =>
        simp only [kind] at stepped
        rcases Attempt.bind_eq_error_iff.mp stepped with unevaluated | ⟨type, -, impossible⟩
        · exact kind_of_evaluate unevaluated
        · cases impossible
    | writeOnly | method | constant =>
        simp only [kind] at stepped
        cases stepped

/-- If a class has no such member, that is a fault in a name. -/
theorem kind_of_resolve
    (failed : catalog.resolve owner name = .error fault) : fault.kind = .resolution := by
  rcases Attempt.bind_eq_error_iff.mp failed with unlisted | ⟨members, -, unfound⟩
  · unfold members at unlisted
    split at unlisted
    · split at unlisted
      · exact kind_of_declared (Attempt.map_eq_error_iff.mp unlisted)
      · cases unlisted
    · cases unlisted
  · split at unfound
    · cases unfound
    · cases unfound
      rfl

end Catalog

namespace Scope

variable {catalog : Catalog} {scope : Scope} {reference value : Reference} {name : String}
  {inverted : Bool} {failure : Failure}

/-- The values that a name refers to, by itself or with the components up to one of its dots. -/
inductive Meets (catalog : Catalog) (scope : Scope) (name : String) : Reference → Prop where
  | whole {value : Reference} (looked : (scope.lookup catalog name).outcome = .ok value) :
      Meets catalog scope name value
  | part {value : Reference} {before after : List String}
      (parts : Text.splitString '.' name = before ++ after)
      (followed : (follow catalog [] scope.bound before).outcome = .ok value) :
      Meets catalog scope name value

/-- A type that cannot be looked through has no shape. -/
theorem sectionShape_of_isOptional {type : DataType}
    (failed : type.isOptional catalog = .error failure) :
    type.sectionShape catalog = .error failure := by
  rw [DataType.sectionShape, Attempt.map_eq_error_iff.mp failed]

/-- A component is not followed for lack of a meaning, or behind a type without a shape. -/
theorem step_eq_error_cases
    {passed : List String} {component : String}
    (failed : step catalog passed reference component = .error failure) :
    (∃ fault : Fault, fault.kind = .resolution ∧ failure = .ofFault fault) ∨
      reference.type.sectionShape catalog = .error failure := by
  rw [step] at failed
  split at failed
  · rename_i unknown
    cases failed
    unfold blocks at unknown
    split at unknown
    · cases unknown
    · exact Or.inr (sectionShape_of_isOptional unknown)
  · cases failed
    exact Or.inl ⟨_, rfl, rfl⟩
  · rcases Attempt.mapError_eq_error_iff.mp failed with ⟨fault, unresolved, rfl⟩
    exact Or.inl ⟨fault, Catalog.kind_of_resolve unresolved, rfl⟩

/-- One more component is followed from where those before it led. -/
theorem follow_append_eq_ok {passed before : List String} {component : String}
    {middle : Reference} {member : Member}
    (followed : (follow catalog passed reference before).outcome = .ok middle)
    (stepped : step catalog (passed ++ before) middle component = .ok member) :
    (follow catalog passed reference (before ++ [component])).outcome =
      .ok (middle.member member) := by
  induction before generalizing passed reference with
  | nil =>
      cases followed
      rw [List.append_nil] at stepped
      simp [follow, stepped]
  | cons first rest ih =>
      rw [follow] at followed
      split at followed
      · cases followed
      · rename_i found known
        simp only [List.cons_append, follow, known]
        exact ih followed (by simpa using stepped)

theorem follow_eq_error_cases
    {before components : List String} {start : Reference}
    (reached : (follow catalog [] start before).outcome = .ok reference)
    (failed : (follow catalog before reference components).outcome = .error failure) :
    (∃ fault : Fault, fault.kind = .resolution ∧ failure = .ofFault fault) ∨
      ∃ passed after value, before ++ components = passed ++ after ∧
        (follow catalog [] start passed).outcome = .ok value ∧
          value.type.sectionShape catalog = .error failure := by
  induction components generalizing before reference with
  | nil =>
      cases failed
  | cons component rest ih =>
      rw [follow] at failed
      split at failed
      · rename_i refused
        cases failed
        rcases step_eq_error_cases refused with meaningless | shapeless
        · exact Or.inl meaningless
        · exact Or.inr ⟨before, component :: rest, reference, rfl, reached, shapeless⟩
      · rename_i member stepped
        have reachedNext := follow_append_eq_ok reached (by simpa using stepped)
        simpa using ih reachedNext failed

/--
What is wrong with a name is a matter of resolving it, or else a type without a shape is met on
the way.
-/
theorem lookup_eq_error_cases
    (failed : (scope.lookup catalog name).outcome = .error failure) :
    (∃ fault : Fault, fault.kind = .resolution ∧ failure = .ofFault fault) ∨
      ∃ value, scope.Meets catalog name value ∧
        value.type.sectionShape catalog = .error failure := by
  unfold lookup at failed
  split at failed
  · cases failed
  · have begun : (follow catalog [] scope.bound []).outcome = .ok scope.bound := rfl
    rcases follow_eq_error_cases begun failed with
      meaningless | ⟨passed, after, value, parts, followed, shapeless⟩
    · exact Or.inl meaningless
    · exact Or.inr ⟨value, .part parts followed, shapeless⟩

/-- A section cannot be opened over a name without a meaning, or over a type without a shape. -/
theorem enter_eq_error_iff :
    (scope.enter catalog name inverted).outcome = .error failure ↔
      (scope.lookup catalog name).outcome = .error failure ∨
        ∃ value,
          (scope.lookup catalog name).outcome = .ok value ∧
            value.type.sectionShape catalog = .error failure := by
  cases looked : (scope.lookup catalog name).outcome with
  | error fault =>
      simp [enter, looked]
  | ok value =>
      cases shaped : value.type.sectionShape catalog with
      | error reason =>
          simp [enter, openOver, looked, shaped]
      | ok shape =>
          simp [enter, openOver, looked, shaped]

/-- A fault of a name is that it has no meaning. -/
theorem kind_of_lookup {fault : Fault}
    (failed : (scope.lookup catalog name).outcome = .error (.ofFault fault)) :
    fault.kind = .resolution := by
  rcases lookup_eq_error_cases failed with ⟨meaningless, kind, same⟩ | ⟨value, -, shapeless⟩
  · cases same
    exact kind
  · have blamesType := DataType.blamesType_of_sectionShape shapeless
    exact absurd rfl (blamesType.ne_diagnosed _)

/-- What keeps a section from being opened. -/
theorem enter_eq_error_cases
    (failed : (scope.enter catalog name inverted).outcome = .error failure) :
    (∃ fault : Fault, fault.kind = .resolution ∧ failure = .ofFault fault) ∨
      ∃ value, scope.Meets catalog name value ∧
        value.type.sectionShape catalog = .error failure := by
  rcases enter_eq_error_iff.mp failed with unfound | ⟨value, looked, shapeless⟩
  · exact lookup_eq_error_cases unfound
  · exact Or.inr ⟨value, .whole looked, shapeless⟩

/-- What a name meets is in reach wherever its scope is. -/
theorem Meets.reaches {dataType : DataType} (meets : scope.Meets catalog name value)
    (reachable : scope.Reachable catalog dataType) : catalog.Reaches dataType value.type := by
  cases meets with
  | whole looked =>
      exact reachable.reaches_of_lookup looked
  | part parts followed =>
      exact reaches_of_follow reachable.grown.reaches_bound followed

end Scope

/-! ## What a token can do -/

namespace Compiler

/-- The instructions that a token can give, with what becomes of the course. -/
inductive Move (compiler : Compiler) (course : Course) : List Instruction → Course → Prop where
  | write (statement : String) (endsLine : Bool) :
      Move compiler course (.write statement :: if endsLine then [.endLine] else []) course
  | enter
      {name : String} {inverted : Bool} {scope : Scope}
      (opened : (course.scope.enter compiler.catalog name inverted).outcome = .ok scope) :
      Move compiler course [.openBlock (scope.header compiler.settings)] { course with scope }
  | leave
      {innermost : Section} {outer : List Section}
      (isOpen : course.scope.sections = innermost :: outer) :
      Move compiler course [.closeBlock innermost.trailer]
        { course with scope := { course.scope with sections := outer } }
  | toggle (closed : course.scope.sections = []) :
      Move compiler course [.toggle] { course with foundYield := true }
  | stop (closed : course.scope.sections = []) : Move compiler course [] course

variable {compiler : Compiler} {course next : Course} {token : Token}
  {made : List Instruction} {failure : Failure}

/-- A reference has a plan if its name can be looked up. -/
theorem planReference_eq_map
    (compiler : Compiler) (course : Course) (name : String) (escaped : Bool) :
    compiler.planReference course name escaped =
      (course.scope.enter compiler.catalog name false).outcome.map fun entered =>
        ([.write (entered.statement compiler.catalog compiler.settings escaped)],
          course) := by
  unfold planReference
  cases (course.scope.enter compiler.catalog name false).outcome <;> rfl

/-- A section has a plan if its name can be looked up. -/
theorem planSection_eq_map
    (compiler : Compiler) (course : Course) (name : String) (inverted : Bool) :
    compiler.planSection course name inverted =
      (course.scope.enter compiler.catalog name inverted).outcome.map fun entered =>
        ([.openBlock (entered.header compiler.settings)],
          { course with scope := entered }) := by
  unfold planSection
  cases (course.scope.enter compiler.catalog name inverted).outcome <;> rfl

theorem move_of_planReference {name : String} {escaped : Bool}
    (planned : compiler.planReference course name escaped = .ok (made, next)) :
    compiler.Move course made next := by
  unfold planReference at planned
  split at planned
  · cases planned
  · cases planned
    exact .write _ false

theorem move_of_planSection {name : String} {inverted : Bool}
    (planned : compiler.planSection course name inverted = .ok (made, next)) :
    compiler.Move course made next := by
  unfold planSection at planned
  split at planned
  · cases planned
  · rename_i scope opened
    cases planned
    exact .enter opened

theorem move_of_planClose {name : String}
    (planned : planClose course name = .ok (made, next)) :
    compiler.Move course made next := by
  unfold planClose at planned
  split at planned
  · cases planned
  · rename_i innermost outer isOpen
    split at planned
    · cases planned
      exact .leave isOpen
    · cases planned

/-- Every plan is one of the moves. -/
theorem move_of_plan
    (planned : compiler.plan course token = .ok (made, next)) :
    compiler.Move course made next := by
  unfold plan at planned
  cases kind : token.kind with
  | text =>
      simp only [kind] at planned
      cases planned
      exact .write _ false
  | special =>
      simp only [kind] at planned
      cases planned
      have written (endsLine : Bool) :
          compiler.Move course
            (.write (compiler.settings.literalStatement token.value) ::
              if endsLine then [.endLine] else []) course :=
        .write _ endsLine
      by_cases newline : token.value = "\n"
      · simpa [newline] using written true
      · simpa [newline] using written false
  | reference =>
      simp only [kind] at planned
      split at planned
      · cases planned
      · exact move_of_planReference planned
  | rawReference =>
      simp only [kind] at planned
      split at planned
      · split at planned
        · cases planned
        · rename_i unforbidden
          cases planned
          -- A marker that is not misplaced stands outside of all sections.
          apply Move.toggle
          unfold Course.yieldFault? at unforbidden
          split at unforbidden
          · cases unforbidden
          · split at unforbidden
            · assumption
            · cases unforbidden
      · exact move_of_planReference planned
  | sectionOpen =>
      simp only [kind] at planned
      exact move_of_planSection planned
  | invertedOpen =>
      simp only [kind] at planned
      exact move_of_planSection planned
  | sectionClose =>
      simp only [kind] at planned
      exact move_of_planClose planned
  | endOfFile =>
      simp only [kind] at planned
      split at planned
      · rename_i closed
        cases planned
        exact .stop closed
      · cases planned

/-- A token leads from one scope in reach to another one. -/
theorem Move.grown
    {dataType : DataType} (move : compiler.Move course made next)
    (grown : course.scope.Grown compiler.catalog dataType) :
    next.scope.Grown compiler.catalog dataType := by
  cases move with
  | write | toggle | stop =>
      exact grown
  | enter opened =>
      exact .enter grown opened
  | leave isOpen =>
      refine (grown.reachable.leave ?_).grown
      simp [Scope.leave, isOpen]

/-- The scope behind a plan has grown from the class of the template. -/
theorem grown_of_planAll
    {dataType : DataType} {tokens : List Token}
    (planned : compiler.planAll course tokens = .ok (made, next))
    (grown : course.scope.Grown compiler.catalog dataType) :
    next.scope.Grown compiler.catalog dataType := by
  induction tokens generalizing course made with
  | nil =>
      cases planned
      exact grown
  | cons token rest ih =>
      rcases planAll_cons_eq_ok_iff.mp planned with
        ⟨first, middle, later, plannedFirst, plannedRest, -⟩
      exact ih plannedRest ((move_of_plan plannedFirst).grown grown)

end Compiler

/-! ## Sinks that can carry out plans -/

namespace Sink

/-- A sink that shows its output has a block for each of a number of sections. -/
def Holds (sink : Sink) (depth : Nat) : Prop :=
  sink.suppressed = false → depth ≤ sink.blocks.length

theorem holds_zero (sink : Sink) : sink.Holds 0 :=
  fun _ => Nat.zero_le _

@[simp]
theorem length_countStatement (blocks : List Nat) :
    (countStatement blocks).length = blocks.length := by
  cases blocks <;> rfl

variable {sink : Sink} {depth : Nat}

theorem Holds.write (holds : sink.Holds depth) (statement : String) :
    (sink.write statement).Holds depth := by
  intro shown
  unfold Sink.write at shown ⊢
  split
  · rename_i hidden
    simp [hidden] at shown
  · simpa using holds (by simpa using ‹¬sink.suppressed = true›)

theorem Holds.endLine (holds : sink.Holds depth) : sink.endLine.Holds depth := by
  unfold Sink.endLine
  split
  · exact holds
  · exact holds

/-- Opening a block gives room for one more section. -/
theorem Holds.openBlock (holds : sink.Holds depth) (header : String) :
    (sink.openBlock header).Holds (depth + 1) := by
  intro shown
  cases hidden : sink.suppressed with
  | true =>
      simp [Sink.openBlock, hidden] at shown
  | false =>
      have held := holds hidden
      simpa [Sink.openBlock, hidden] using held

theorem blocks_endPending (sink : Sink) : sink.endPending.blocks = sink.blocks := by
  unfold endPending
  split
  · rfl
  · rfl

theorem blocks_closed
    (sink : Sink) (statements : Nat) (outer : List Nat) (trailer : Option String) :
    (sink.closed statements outer trailer).blocks = outer := by
  unfold closed
  cases trailer with
  | none =>
      rfl
  | some line =>
      dsimp only
      split <;> rfl

/-- There is a block to close for every section that a sink holds. -/
theorem Holds.exists_closed (holds : sink.Holds (depth + 1)) (trailer : String) :
    ∃ closed, sink.obey (.closeBlock trailer) = .ok closed ∧ closed.Holds depth := by
  cases hidden : sink.suppressed with
  | true =>
      -- While output is suppressed no block is counted, and none is missed.
      refine ⟨{ sink with level := sink.level - 1 }, by simp [obey, closeBlock, hidden], ?_⟩
      intro shown
      simp [hidden] at shown
  | false =>
      have held := holds hidden
      cases counted : sink.blocks with
      | nil =>
          simp [counted] at held
      | cons statements outer =>
          refine ⟨sink.endPending.closed statements outer (some trailer), ?_, ?_⟩
          · simp [obey, closeBlock, hidden, blocks_endPending, counted]
          · intro _
            rw [blocks_closed]
            simpa [counted] using held

end Sink

namespace Compiler

variable {compiler : Compiler} {course next : Course} {token : Token} {tokens : List Token}
  {made : List Instruction} {failure : Failure} {sink : Sink}

/-- A sink that holds the open sections carries out every plan, and holds those after it. -/
theorem Move.exists_obeyed
    (move : compiler.Move course made next) (holds : sink.Holds course.scope.depth) :
    ∃ written, sink.obeyAll made = .ok written ∧ written.Holds next.scope.depth := by
  cases move with
  | write statement endsLine =>
      cases endsLine with
      | true =>
          exact ⟨_, rfl, (holds.write statement).endLine⟩
      | false =>
          exact ⟨_, rfl, holds.write statement⟩
  | enter opened =>
      refine ⟨_, rfl, ?_⟩
      rw [Scope.depth_of_enter opened]
      exact holds.openBlock _
  | leave isOpen =>
      rw [Scope.depth, isOpen, List.length_cons] at holds
      rcases holds.exists_closed _ with ⟨closed, obeyed, held⟩
      refine ⟨closed, ?_, held⟩
      rw [Sink.obeyAll_cons, obeyed]
      rfl
  | toggle closed =>
      refine ⟨_, rfl, ?_⟩
      intro _
      simp [Scope.depth, closed]
  | stop closed =>
      exact ⟨sink, rfl, holds⟩

/-- A sink with a block for every open section can carry out every plan. -/
theorem exists_obeyAll_of_planAll
    (planned : compiler.planAll course tokens = .ok (made, next))
    (holds : sink.Holds course.scope.depth) :
    ∃ written, sink.obeyAll made = .ok written ∧ written.Holds next.scope.depth := by
  induction tokens generalizing course made sink with
  | nil =>
      cases planned
      exact ⟨sink, rfl, holds⟩
  | cons token rest ih =>
      rcases planAll_cons_eq_ok_iff.mp planned with
        ⟨first, middle, later, plannedFirst, plannedRest, rfl⟩
      rcases (move_of_plan plannedFirst).exists_obeyed holds with ⟨between, obeyed, held⟩
      rcases ih plannedRest held with ⟨written, obeyedRest, heldRest⟩
      refine ⟨written, ?_, heldRest⟩
      rw [Sink.obeyAll_append, obeyed]
      exact obeyedRest

/-! ## The first token without a plan -/

/-- A plan for many tokens fails at the first of them that has none. -/
theorem planAll_cons_eq_error_iff {rest : List Token} :
    compiler.planAll course (token :: rest) = .error failure ↔
      (∃ reason,
        compiler.plan course token = .error reason ∧
          reason.locate token.position = failure) ∨
        ∃ first middle,
          compiler.plan course token = .ok (first, middle) ∧
            compiler.planAll middle rest = .error failure := by
  simp only [planAll, Attempt.bind_eq_error_iff, Attempt.mapError_eq_error_iff,
    Attempt.mapError_eq_ok_iff, Attempt.map_eq_error_iff, Prod.exists]

/-- A token without a plan ends planning, whatever comes after it. -/
theorem planAll_of_refused
    {before : List Token} {middle : Course} {reason : Failure} (after : List Token)
    (reached : compiler.planAll course before = .ok (made, middle))
    (refused : compiler.plan middle token = .error reason) :
    compiler.planAll course (before ++ token :: after) =
      .error (reason.locate token.position) := by
  induction before generalizing course made with
  | nil =>
      cases reached
      exact planAll_cons_eq_error_iff.mpr (Or.inl ⟨reason, refused, rfl⟩)
  | cons first rest ih =>
      rcases planAll_cons_eq_ok_iff.mp reached with
        ⟨begun, between, later, plannedFirst, plannedRest, -⟩
      exact planAll_cons_eq_error_iff.mpr
        (Or.inr ⟨begun, between, plannedFirst, ih plannedRest⟩)

/-- Planning fails at the first token without a plan, and the failure is located there. -/
theorem planAll_eq_error_iff :
    compiler.planAll course tokens = .error failure ↔
      ∃ before token after instructions middle reason,
        tokens = before ++ token :: after ∧
          compiler.planAll course before = .ok (instructions, middle) ∧
            compiler.plan middle token = .error reason ∧
              reason.locate token.position = failure := by
  constructor
  · intro failed
    induction tokens generalizing course with
    | nil =>
        cases failed
    | cons first rest ih =>
        rcases planAll_cons_eq_error_iff.mp failed with
          ⟨reason, refused, located⟩ | ⟨begun, between, planned, failedRest⟩
        · exact ⟨[], first, rest, [], course, reason, rfl, rfl, refused, located⟩
        · rcases ih failedRest with
            ⟨before, token, after, instructions, middle, reason, rfl, reached, refused, located⟩
          exact ⟨first :: before, token, after, _, middle, reason, rfl,
            planAll_cons_eq_ok_iff.mpr ⟨_, _, _, planned, reached, rfl⟩, refused, located⟩
  · rintro ⟨before, token, after, instructions, middle, reason, rfl, reached, refused, rfl⟩
    exact planAll_of_refused after reached refused

/-- A token without a plan is reported at its place. -/
theorem proceed_of_refused {reason : Failure}
    (refused : compiler.plan course token = .error reason) :
    compiler.proceed (sink, course) token = .error (reason.locate token.position) := by
  simp [proceed, advance, refused, Sink.carryOut]

/-- With a sink that holds the open sections, all that can fail is planning. -/
theorem proceedAll_eq_error_iff
    (holds : sink.Holds course.scope.depth) :
    compiler.proceedAll (sink, course) tokens = .error failure ↔
      compiler.planAll course tokens = .error failure := by
  induction tokens generalizing sink course with
  | nil =>
      simp [proceedAll, planAll]
  | cons token rest ih =>
      rw [planAll_cons_eq_error_iff]
      cases planned : compiler.plan course token with
      | error reason =>
          simp [proceedAll, proceed_of_refused planned, Except.bind]
      | ok made =>
          rcases made with ⟨first, middle⟩
          rcases (move_of_plan planned).exists_obeyed holds with ⟨written, obeyed, held⟩
          have moved : compiler.proceed (sink, course) token = .ok (written, middle) :=
            proceed_eq_ok_iff.mpr ⟨first, planned, obeyed⟩
          rw [proceedAll, moved, Except.bind, ih held]
          constructor
          · intro failed
            exact Or.inr ⟨first, middle, rfl, failed⟩
          · rintro (⟨reason, refused, -⟩ | ⟨other, reached, same, failed⟩)
            · cases refused
            · cases same
              exact failed

/-- To proceed through two lists is to proceed through one and then through the other. -/
theorem proceedAll_append (state : Sink × Course) (front back : List Token) :
    compiler.proceedAll state (front ++ back) =
      (compiler.proceedAll state front).bind (compiler.proceedAll · back) := by
  induction front generalizing state with
  | nil =>
      rfl
  | cons token rest ih =>
      rw [List.cons_append, proceedAll, proceedAll]
      cases compiler.proceed state token with
      | error failure =>
          rfl
      | ok next =>
          exact ih next

/-! ## Failed runs -/

variable {dataType : DataType} {atEnd : List Journal.Notice} {source : String}
  {stream : TokenStream Failure} {ending : Token}

/-- Any sink can carry out what is planned from the start on. -/
theorem proceedAll_start_eq_error_iff (sink : Sink) :
    compiler.proceedAll (sink, .start dataType) tokens = .error failure ↔
      compiler.planAll (.start dataType) tokens = .error failure :=
  proceedAll_eq_error_iff sink.holds_zero

/--
A run over a source that ends fails exactly when one of its tokens, the end token
included, has no plan.
-/
theorem report_run_eq_error_iff (ended : stream.ending source none = .ok ending) :
    Run.report (compiler.run atEnd source stream (.start dataType sink)) = .error failure ↔
      compiler.planAll (.start dataType) (stream.template ++ [ending]) = .error failure := by
  rw [← proceedAll_start_eq_error_iff (sink.suppress compiler.variant.initiallySuppressed),
    proceedAll_append, report_run]
  simp only [ended, Attempt.map_eq_error_iff, Attempt.bind_eq_error_iff, proceedAll,
    Except.ok.injEq, reduceCtorEq, false_or, and_false, exists_false, or_false,
    exists_eq_left']
  rfl

/-- A token without a plan ends a run, whether or not its source ends. -/
theorem report_run_of_refused
    (refused : compiler.planAll (.start dataType) stream.template = .error failure) :
    Run.report (compiler.run atEnd source stream (.start dataType sink)) = .error failure := by
  rw [report_run]
  apply Attempt.map_eq_error_iff.mpr
  apply Attempt.bind_eq_error_iff.mpr
  exact Or.inl ((proceedAll_start_eq_error_iff _).mpr refused)

/-- A run over a source that breaks off fails at a token without a plan, or where it breaks. -/
theorem failure_of_broken_run {reason : Failure}
    (broken : stream.ending source none = .error reason)
    (failed : Run.report (compiler.run atEnd source stream (.start dataType sink)) =
      .error failure) :
    compiler.planAll (.start dataType) stream.template = .error failure ∨ failure = reason := by
  rw [report_run] at failed
  simp only [broken, Attempt.map_eq_error_iff, Attempt.bind_eq_error_iff, Except.error.injEq,
    reduceCtorEq, false_and, exists_false, or_false] at failed
  rcases failed with refused | ⟨state, -, rfl⟩
  · exact Or.inl ((proceedAll_start_eq_error_iff _).mp refused)
  · exact Or.inr rfl

end Compiler

end TypedMustache
