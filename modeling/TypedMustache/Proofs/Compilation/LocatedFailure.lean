import TypedMustache.CompileRequest
import TypedMustache.Proofs.Compilation.RunFailure
import TypedMustache.Proofs.Token.Pieces

/-!
# The failures of compile requests

A request fails because of a tag, of a token without a plan, or of a layout that
does not yield.  In each case but one the failure is a diagnostic that says where
in the template it was found.  The exception is a value over whose type no section can
be opened: annotations need not be types.  A name may refer to such a value, or lead
through it to another one.  Nothing locates that failure, and it is no diagnostic.
-/

namespace TypedMustache

/-- A failure is a diagnostic with a place, about the template, a name or the settings. -/
def Failure.IsLocated (failure : Failure) : Prop :=
  ∃ fault position,
    failure = .diagnosed { fault, position := some position } ∧ fault.kind ≠ .general

/-! ## Tokens without a plan -/

namespace Failure

/-- A failure is a diagnostic about the template or a name. -/
def IsDiagnostic (failure : Failure) : Prop :=
  ∃ fault : Fault, (fault.kind = .template ∨ fault.kind = .resolution) ∧ failure = .ofFault fault

/-- A diagnostic takes the place that it is given. -/
theorem IsDiagnostic.isLocated_locate {failure : Failure}
    (diagnostic : failure.IsDiagnostic) (position : Position) :
    (failure.locate position).IsLocated := by
  rcases diagnostic with ⟨fault, kind, rfl⟩
  refine ⟨fault, position, rfl, ?_⟩
  rcases kind with kind | kind <;> simp [kind]

/-- Whether a failure is one that its author is told about. -/
def isDiagnosed : Failure → Bool
  | diagnosed _ => true
  | _ => false

end Failure

/-- A name meets a value in a scope, but there is no section over it. -/
def Scope.Shapeless (catalog : Catalog) (scope : Scope) (name : String) (failure : Failure) :
    Prop :=
  ∃ value, scope.Meets catalog name value ∧ value.type.sectionShape catalog = .error failure

/-- Where there is no section over a value, its type is blamed. -/
theorem Scope.Shapeless.blamesType
    {catalog : Catalog} {scope : Scope} {name : String} {failure : Failure}
    (shapeless : scope.Shapeless catalog name failure) :
    failure.BlamesType catalog.texts := by
  rcases shapeless with ⟨value, -, failed⟩
  exact DataType.blamesType_of_sectionShape failed

namespace Compiler

variable {compiler : Compiler} {dataType : DataType} {course : Course} {token : Token}
  {reason failure : Failure}

/-- A name cannot be entered for a diagnostic, or because its type has no shape. -/
theorem reason_of_enter {scope : Scope} {name : String} {inverted : Bool}
    (failed : (scope.enter compiler.catalog name inverted).outcome = .error reason) :
    reason.IsDiagnostic ∨ scope.Shapeless compiler.catalog name reason := by
  rcases Scope.enter_eq_error_cases failed with ⟨fault, kind, rfl⟩ | shapeless
  · exact Or.inl ⟨fault, Or.inr kind, rfl⟩
  · exact Or.inr shapeless

/-- A marker that is misplaced is a fault in the template. -/
theorem kind_of_yieldFault? {fault : Fault} (misplaced : course.yieldFault? = some fault) :
    fault.kind = .template := by
  unfold Course.yieldFault? at misplaced
  split at misplaced
  · cases misplaced
    rfl
  · split at misplaced
    · cases misplaced
    · cases misplaced
      rfl

/-- Closing the wrong section is a diagnostic. -/
theorem isDiagnostic_of_planClose {name : String}
    (refused : planClose course name = .error reason) : reason.IsDiagnostic := by
  unfold planClose at refused
  split at refused
  · cases refused
    exact ⟨_, Or.inl rfl, rfl⟩
  · split at refused
    · cases refused
    · cases refused
      exact ⟨_, Or.inl rfl, rfl⟩

/-- A token has no plan because of a fault, or because of a name without a section over it. -/
theorem reason_of_plan
    (refused : compiler.plan course token = .error reason) :
    reason.IsDiagnostic ∨
      (token.kind ≠ .endOfFile ∧
        course.scope.Shapeless compiler.catalog token.value reason) := by
  unfold plan at refused
  cases kind : token.kind with
  | text | special =>
      simp only [kind] at refused
      cases refused
  | reference =>
      simp only [kind] at refused
      split at refused
      · cases refused
        refine Or.inl ⟨_, Or.inl ?_, rfl⟩
        cases misplaced : course.yieldFault? with
        | none =>
            rfl
        | some fault =>
            exact kind_of_yieldFault? misplaced
      · rw [planReference_eq_map] at refused
        have failed := Attempt.map_eq_error_iff.mp refused
        exact (reason_of_enter failed).imp_right fun shapeless => ⟨by decide, shapeless⟩
  | rawReference =>
      simp only [kind] at refused
      split at refused
      · split at refused
        · rename_i fault misplaced
          cases refused
          exact Or.inl ⟨fault, Or.inl (kind_of_yieldFault? misplaced), rfl⟩
        · cases refused
      · rw [planReference_eq_map] at refused
        have failed := Attempt.map_eq_error_iff.mp refused
        exact (reason_of_enter failed).imp_right fun shapeless => ⟨by decide, shapeless⟩
  | sectionOpen | invertedOpen =>
      simp only [kind] at refused
      rw [planSection_eq_map] at refused
      have failed := Attempt.map_eq_error_iff.mp refused
      exact (reason_of_enter failed).imp_right fun shapeless => ⟨by decide, shapeless⟩
  | sectionClose =>
      simp only [kind] at refused
      exact Or.inl (isDiagnostic_of_planClose refused)
  | endOfFile =>
      simp only [kind] at refused
      split at refused
      · cases refused
      · cases refused
        exact Or.inl ⟨_, Or.inl rfl, rfl⟩

/-! ## Runs over texts -/

/-- The first token without a plan gives a located failure, unless it names a shapeless value. -/
theorem failure_of_planAll {tokens : List Token}
    (failed : compiler.planAll (.start dataType) tokens = .error failure) :
    failure.IsLocated ∨
      ∃ token ∈ tokens, token.kind ≠ .endOfFile ∧
        ∃ scope : Scope, scope.Reachable compiler.catalog dataType ∧
          scope.Shapeless compiler.catalog token.value failure := by
  rcases planAll_eq_error_iff.mp failed with
    ⟨before, token, after, instructions, middle, reason, rfl, reached, refused, rfl⟩
  rcases reason_of_plan refused with diagnostic | ⟨named, shapeless⟩
  · exact Or.inl (diagnostic.isLocated_locate token.position)
  · have reachable := (grown_of_planAll reached .root).reachable
    rw [shapeless.blamesType.locate]
    exact Or.inr ⟨token, by simp, named, middle.scope, reachable, shapeless⟩

/-- A run over a text fails at a place, unless it meets a type without a shape. -/
theorem failure_of_runText {source text : String} {sink : Sink}
    (failed : Run.report (compiler.runText source text (.start dataType sink)) =
      .error failure) :
    failure.IsLocated ∨
      ∃ token ∈ (scan source text).tokens,
        ∃ scope : Scope, scope.Reachable compiler.catalog dataType ∧
          scope.Shapeless compiler.catalog token.value failure := by
  have endless : ∀ token ∈ (scan source text).tokens, token.kind ≠ .endOfFile :=
    fun _ => kind_of_mem_scan
  cases wrong : (scan source text).fault with
  | none =>
      have ended := Scan.ending_stream source wrong endless
      have refused := (report_run_eq_error_iff ended).mp failed
      rw [Scan.template_stream wrong endless] at refused
      rcases failure_of_planAll refused with located | ⟨token, member, named, scope, shapeless⟩
      · exact Or.inl located
      · -- The end token refers to nothing, so the token is one of the text.
        rcases List.mem_append.mp member with early | last
        · exact Or.inr ⟨token, early, scope, shapeless⟩
        · rw [List.mem_singleton.mp last] at named
          exact absurd rfl named
  | some fault =>
      rcases Scan.stream_of_fault source wrong endless with ⟨template, broken⟩
      rcases failure_of_broken_run broken failed with refused | rfl
      · rw [template] at refused
        rcases failure_of_planAll refused with located | ⟨token, member, -, scope, shapeless⟩
        · exact Or.inl located
        · exact Or.inr ⟨token, member, scope, shapeless⟩
      · have kind : fault.kind = .template := Lexer.kind_of_pieces wrong
        exact Or.inl ⟨fault, (scan source text).stop, rfl, by simp [kind]⟩

end Compiler

/-! ## Requests -/

namespace CompileRequest

variable {request : CompileRequest} {catalog : Catalog} {settings : Settings} {sink : Sink}
  {failure : Failure}

/-- A token of a request names a value over whose type no section can be opened. -/
def Misannotated (request : CompileRequest) (catalog : Catalog) (failure : Failure) : Prop :=
  ∃ token ∈ (scan request.source request.text).tokens,
    ∃ scope : Scope, scope.Reachable catalog request.dataType ∧
      scope.Shapeless catalog token.value failure

theorem failure_of_runVariant {variant : Variant}
    (failed : (request.runVariant catalog settings sink variant).foundYield = .error failure) :
    failure.IsLocated ∨ request.Misannotated catalog failure := by
  simp only [runVariant] at failed
  split at failed
  · rename_i reason run ran
    cases failed
    have reported :
        Run.report (Compiler.runText { catalog, settings, variant } request.source request.text
          (.start request.dataType sink)) = .error failure := by
      rw [ran]
      rfl
    exact Compiler.failure_of_runText reported
  · rename_i stop run ran
    split at failed
    · cases failed
      exact Or.inl ⟨_, stop, rfl, by simp [Fault.kind]⟩
    · cases failed

/-- The variants of a request fail at a place, unless the class is misannotated. -/
theorem failure_of_runVariants {variants : List Variant}
    (failed : (request.runVariants catalog settings sink variants).fragments =
      .error failure) :
    failure.IsLocated ∨ request.Misannotated catalog failure := by
  induction variants generalizing sink with
  | nil =>
      cases failed
  | cons variant rest ih =>
      simp only [runVariants] at failed
      split at failed
      · rename_i reason refused
        cases failed
        exact failure_of_runVariant refused
      · exact ih (Attempt.map_eq_error_iff.mp failed)

/--
A request fails with a located diagnostic, or with what the language raises because of an
annotation.  The annotation is the type of a value that the name of some token meets.
-/
theorem failure_of_compile
    (failed : (request.compile catalog settings).result = .error failure) :
    failure.IsLocated ∨
      (failure.BlamesType catalog.texts ∧
        ∃ token ∈ (scan request.source request.text).tokens,
          ∃ (scope : Scope) (value : Reference),
            scope.Reachable catalog request.dataType ∧
              scope.Meets catalog token.value value ∧
                catalog.Reaches request.dataType value.type ∧
                  value.type.sectionShape catalog = .error failure) := by
  have refused :
      (request.runVariants catalog settings (.fresh settings.indent 1)
        request.variants).fragments = .error failure := by
    simp only [compile] at failed
    split at failed
    · rename_i reason refused
      cases failed
      exact refused
    · cases failed
  rcases failure_of_runVariants refused with
    located | ⟨token, member, scope, reachable, shapeless⟩
  · exact Or.inl located
  · have blamesType := shapeless.blamesType
    rcases shapeless with ⟨value, meets, shapeless⟩
    exact Or.inr ⟨blamesType, token, member, scope, value, reachable, meets,
      meets.reaches reachable, shapeless⟩

/--
A class with a member that is annotated with a list, and a member that is annotated with a pair
of a text that is no expression and a class.
-/
def oddCatalog : Catalog :=
  { models :=
      [{ name := { moduleName := "models", qualifiedName := "Odd" }
         annotations :=
          [("x", .value (.sequence [.integer 1])),
            ("pair", .applied (.builtin "tuple")
              [.value (.text "a b"), .ofClass (.builtin "int")])]
         attributes := []
         bases := [] }]
    constants := [] }

/-- A request for a template over that class. -/
def oddRequest (text : String) : CompileRequest :=
  { text
    dataType := .ofClass { moduleName := "models", qualifiedName := "Odd" }
    requestId := "odd" }

/-- Whether a request over that class fails for a reason that passes a test. -/
def oddRequestFails (text : String) (test : Failure → Bool) : Bool :=
  match ((oddRequest text).compile oddCatalog {}).result with
  | .error failure => test failure
  | .ok _ => false

theorem exists_failure_of_oddRequestFails {text : String} {test : Failure → Bool}
    (fails : oddRequestFails text test = true) :
    ∃ failure, ((oddRequest text).compile oddCatalog {}).result = .error failure ∧
      test failure = true := by
  unfold oddRequestFails at fails
  split at fails
  next failure failed => exact ⟨failure, failed, fails⟩
  next => cases fails

/-- A name that the class does not have is reported with its place. -/
theorem failure_of_compile_unknownName :
    ∃ failure,
      ((oddRequest "\x7b\x7by\x7d\x7d").compile oddCatalog {}).result = .error failure ∧
        failure.IsLocated := by
  rcases exists_failure_of_oddRequestFails
      (show oddRequestFails "\x7b\x7by\x7d\x7d" Failure.isDiagnosed = true by decide +kernel) with
    ⟨failure, failed, isDiagnosed⟩
  refine ⟨failure, failed, (failure_of_compile failed).resolve_right ?_⟩
  rintro ⟨blamesType, -⟩
  cases failure with
  | diagnosed diagnostic => exact blamesType.ne_diagnosed diagnostic rfl
  | _ => cases isDiagnosed

/-- A failure of the language itself has no place. -/
theorem exists_unlocated_of_oddRequestFails {text : String} {failure : Failure}
    (fails : oddRequestFails text (· == failure) = true)
    (other : ∀ diagnostic, failure ≠ .diagnosed diagnostic) :
    ∃ reason, ((oddRequest text).compile oddCatalog {}).result = .error reason ∧
      reason.label = failure.label ∧ ¬reason.IsLocated := by
  rcases exists_failure_of_oddRequestFails fails with ⟨reason, failed, same⟩
  have same : reason = failure := eq_of_beq same
  refine ⟨reason, failed, by rw [same], ?_⟩
  rintro ⟨fault, position, located, -⟩
  exact other _ (same.symm.trans located)

/-- The failure of a reference to the member that is annotated with a list has no place. -/
theorem unlocated_failure_of_listAnnotation :
    ∃ failure,
      ((oddRequest "ab \x7b\x7bx\x7d\x7d").compile oddCatalog {}).result = .error failure ∧
        failure.label = "TypeError" ∧ ¬failure.IsLocated := by
  have fails : oddRequestFails "ab \x7b\x7bx\x7d\x7d" (· == .unhashable "list") = true := by
    decide +kernel
  exact exists_unlocated_of_oddRequestFails fails (by simp)

/-- Nor has the failure of a reference to a pair with a text that is no expression. -/
theorem unlocated_failure_of_pairAnnotation :
    ∃ failure,
      ((oddRequest "\x7b\x7bpair\x7d\x7d").compile oddCatalog {}).result = .error failure ∧
        failure.label = "SyntaxError" ∧ ¬failure.IsLocated := by
  have fails :
      oddRequestFails "\x7b\x7bpair\x7d\x7d" (· == .raised (Text.expressionError "a b")) =
        true := by
    decide +kernel
  exact exists_unlocated_of_oddRequestFails fails (by simp)

end CompileRequest

end TypedMustache
