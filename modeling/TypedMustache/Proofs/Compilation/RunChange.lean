import Mathlib.Logic.Relation
import TypedMustache.Proofs.Compilation.Instruction
import TypedMustache.Proofs.Journal.Records

/-!
# What a run does to its state

Whatever a token asks for, the state of the run changes in a few ways only.  They
are the cases of `Run.Change`, and `Compiler.proceeds_step` says that there are
no others, also where a token fails half way.  What is kept by each of these
changes is therefore kept by a whole run.

Notices are given in two places: by the parts of a run, and at the end of a
template, where the caller chooses them.  A change is for that reason relative to
the notices that are allowed.
-/

namespace TypedMustache

open Journal (Notice)

/-- The state that a computation ends in, whether it fails or not. -/
def Attempt.final {ε σ α : Type} : EStateM.Result ε σ α → σ
  | .ok _ state => state
  | .error _ state => state

namespace Attempt

variable {ε σ α : Type}

@[simp]
theorem final_ok (answer : α) (state : σ) :
    final (.ok answer state : EStateM.Result ε σ α) = state := rfl

@[simp]
theorem final_error (failure : ε) (state : σ) :
    final (.error failure state : EStateM.Result ε σ α) = state := rfl

end Attempt

namespace Run

/-! ## Parts of a run -/

section Relates

variable {α β : Type} {related : Run → Run → Prop}

/-- However a part of a run ends, it leads to a related state. -/
def Relates (related : Run → Run → Prop) (action : RunM α) : Prop :=
  ∀ run : Run, related run (Attempt.final (action run))

/-- A transitive relation that holds along two computations holds along their sequence. -/
theorem Relates.bind
    [IsTrans Run related] {action : RunM α} {next : α → RunM β}
    (first : Relates related action) (later : ∀ answer, Relates related (next answer)) :
    Relates related (action >>= next) := by
  intro run
  have reached := first run
  rw [Attempt.bind_apply]
  cases done : action run with
  | ok answer after =>
      rw [done] at reached
      exact IsTrans.trans _ _ _ reached (later answer after)
  | error failure after =>
      rw [done] at reached
      exact reached

variable [Std.Refl related]

/-- Computations that leave the run as it is keep every reflexive relation. -/
theorem relates_of_final_eq
    {action : RunM α} (same : ∀ run, Attempt.final (action run) = run) :
    Relates related action := by
  intro run
  rw [same run]
  exact Std.Refl.refl run

theorem relates_pure (answer : α) : Relates related (pure answer) :=
  relates_of_final_eq fun _ => rfl

theorem relates_throw (failure : Failure) : Relates related (throw failure : RunM α) :=
  relates_of_final_eq fun _ => rfl

theorem relates_fail (fault : Fault) : Relates related (fail fault : RunM α) :=
  relates_of_final_eq fun _ => rfl

/-- What every token keeps is kept by all tokens of a source, whether or not it breaks off. -/
theorem relates_feedFrom
    [IsTrans Run related] {process : Token → RunM Unit}
    (keeps : ∀ token, Relates related (process token))
    (source : String) (stream : TokenStream Failure) (last : Option Position) :
    Relates related (stream.feedFrom process source last) := by
  induction stream generalizing last with
  | exhausted =>
      apply (keeps _).bind
      intro _
      exact relates_pure _
  | broken failure =>
      exact relates_throw failure
  | next token rest ih =>
      apply (keeps token).bind
      intro _
      split
      · exact relates_pure _
      · exact ih (some token.position)

end Relates

/-- What a part of a run does to the state at one go. -/
inductive Change (allowed : Notice → Prop) : Run → Run → Prop where
  | write (run : Run) (statement : String) :
      Change allowed run { run with sink := run.sink.write statement }
  | endLine (run : Run) : Change allowed run { run with sink := run.sink.endLine }
  | toggle (run : Run) (suppressed : Bool) :
      Change allowed run { run with foundYield := true, sink := run.sink.suppress suppressed }
  | openBlock (run : Run) (scope : Scope) (header : String) :
      Change allowed run { run with scope, sink := run.sink.openBlock header }
  | closeBlock (run : Run) (trailer : String) :
      Change allowed run
        { run with sink := Attempt.final (Sink.closeBlock (some trailer) run.sink) }
  | leave (run : Run) (scope : Scope) : Change allowed run { run with scope }
  | note (run : Run) (notices : List Notice) (fit : ∀ notice ∈ notices, allowed notice) :
      Change allowed run { run with notices := run.notices ++ notices }

/-- A part of a run that does nothing but changes, one after the other. -/
abbrev Proceeds {α : Type} (allowed : Notice → Prop) (action : RunM α) : Prop :=
  Relates (Relation.ReflTransGen (Change allowed)) action

section Proceeds

variable {α : Type} {allowed : Notice → Prop}

/-- Whatever changes a run in an allowed way proceeds in that way. -/
theorem proceeds_of_change
    {action : RunM α} (changed : ∀ run, Change allowed run (Attempt.final (action run))) :
    Proceeds allowed action :=
  fun run => .single (changed run)

theorem proceeds_get : Proceeds allowed get :=
  relates_of_final_eq fun _ => rfl

/-- Notices are recorded if they are allowed. -/
theorem proceeds_note
    {notices : List Notice} (fit : ∀ notice ∈ notices, allowed notice) :
    Proceeds allowed (note notices) :=
  proceeds_of_change fun run => .note run notices fit

theorem proceeds_closeBlock (trailer : String) : Proceeds allowed (closeBlock trailer) := by
  apply proceeds_of_change
  intro run
  have changed : Change allowed run _ := .closeBlock run trailer
  unfold closeBlock
  cases closed : Sink.closeBlock (some trailer) run.sink with
  | ok answer sink =>
      rw [closed] at changed
      exact changed
  | error failure sink =>
      rw [closed] at changed
      exact changed

/-- What each change keeps is kept by everything that proceeds by changes. -/
theorem Relates.of_proceeds
    {related : Run → Run → Prop} [Std.Refl related] [IsTrans Run related]
    {action : RunM α} (keeps : ∀ run after, Change allowed run after → related run after)
    (proceeds : Proceeds allowed action) : Relates related action := by
  intro run
  have changes := proceeds run
  generalize Attempt.final (action run) = after at changes ⊢
  induction changes with
  | refl =>
      exact Std.Refl.refl run
  | tail _ change ih =>
      exact IsTrans.trans _ _ _ ih (keeps _ _ change)

end Proceeds

end Run

namespace Compiler

open Run

/-! ## Tokens -/

variable {allowed : Notice → Prop} (compiler : Compiler)

theorem proceeds_writeLiteral (text : String) :
    Proceeds allowed (compiler.writeLiteral text) :=
  proceeds_of_change fun run => .write run _

theorem proceeds_checkYield : Proceeds allowed checkYield := by
  apply proceeds_get.bind
  intro run
  split
  · exact relates_fail _
  · cases run.scope.sections with
    | nil =>
        exact relates_pure ()
    | cons innermost outer =>
        exact relates_fail _

theorem proceeds_checkEnd : Proceeds allowed checkEnd := by
  apply proceeds_get.bind
  intro run
  cases run.scope.sections with
  | nil =>
      exact relates_pure ()
  | cons innermost outer =>
      exact relates_fail _

variable (ordinary : ∀ notice : Notice, notice.IsOrdinary → allowed notice)

include ordinary

theorem proceeds_note_singleton {notice : Notice} (fit : notice.IsOrdinary) :
    Proceeds allowed (note [notice]) := by
  apply proceeds_note
  intro other member
  rw [List.mem_singleton.mp member]
  exact ordinary notice fit

theorem proceeds_scopeOver (name : String) (inverted : Bool) :
    Proceeds allowed (compiler.scopeOver name inverted) := by
  apply proceeds_get.bind
  intro run
  apply Relates.bind
  · apply proceeds_note
    intro notice member
    rcases List.mem_map.mp member with ⟨found, -, rfl⟩
    exact ordinary _ (Notice.isOrdinary_memberResolved _ _)
  · intro _
    cases (run.scope.enter compiler.catalog name inverted).outcome with
    | error failure =>
        exact relates_throw failure
    | ok scope =>
        exact relates_pure scope

theorem proceeds_writeReference (name : String) (escaped : Bool) :
    Proceeds allowed (compiler.writeReference name escaped) := by
  apply (compiler.proceeds_scopeOver ordinary name false).bind
  intro scope
  cases scope.writeStatement compiler.catalog compiler.settings escaped with
  | error failure =>
      exact relates_throw failure
  | ok statement =>
      exact proceeds_of_change fun run => .write run _

theorem proceeds_toggle (line : Int) : Proceeds allowed (compiler.toggle line) := by
  intro run
  have toggled : Change allowed run _ := .toggle run (!run.sink.suppressed)
  apply Relation.ReflTransGen.head toggled
  apply proceeds_note_singleton ordinary (Notice.isOrdinary_yieldToggled _ _ _)

theorem proceeds_openSection (name : String) (inverted : Bool) :
    Proceeds allowed (compiler.openSection name inverted) := by
  apply (compiler.proceeds_scopeOver ordinary name inverted).bind
  intro scope
  apply Relates.bind
  · exact proceeds_of_change fun run => .openBlock run scope _
  · intro _
    exact proceeds_note_singleton ordinary (Notice.isOrdinary_sectionOpened _ _ _)

theorem proceeds_closeSection (name : String) : Proceeds allowed (closeSection name) := by
  apply proceeds_get.bind
  intro run
  cases run.scope.sections with
  | nil =>
      exact relates_fail _
  | cons innermost outer =>
      dsimp only
      split
      · exact relates_fail _
      · apply (proceeds_closeBlock innermost.trailer).bind
        intro _
        apply Relates.bind
        · exact proceeds_of_change fun run => .leave run _
        · intro _
          exact proceeds_note_singleton ordinary (Notice.isOrdinary_sectionClosed _ _)

/-- Whatever a token does, the state of the run changes in no other ways. -/
theorem proceeds_step (token : Token) : Proceeds allowed (compiler.step token) := by
  unfold step
  cases token.kind with
  | text =>
      exact compiler.proceeds_writeLiteral token.value
  | special =>
      apply (compiler.proceeds_writeLiteral token.value).bind
      intro _
      split
      · exact proceeds_of_change fun run => .endLine run
      · exact relates_pure _
  | reference =>
      dsimp only
      split
      · apply proceeds_checkYield.bind
        intro _
        exact relates_fail _
      · exact compiler.proceeds_writeReference ordinary token.value true
  | rawReference =>
      dsimp only
      split
      · apply proceeds_checkYield.bind
        intro _
        exact compiler.proceeds_toggle ordinary token.position.line
      · exact compiler.proceeds_writeReference ordinary token.value false
  | sectionOpen =>
      exact compiler.proceeds_openSection ordinary token.value false
  | invertedOpen =>
      exact compiler.proceeds_openSection ordinary token.value true
  | sectionClose =>
      exact proceeds_closeSection ordinary token.value
  | endOfFile =>
      exact proceeds_checkEnd

/-- Every token changes a run in the allowed ways only. -/
theorem proceeds_process (token : Token) : Proceeds allowed (compiler.process token) := by
  intro run
  have stepped := compiler.proceeds_step ordinary token run
  unfold process
  cases done : compiler.step token run with
  | ok answer after =>
      rw [done] at stepped
      exact stepped
  | error failure after =>
      rw [done] at stepped
      exact stepped

/-- The same for a token with its notices. -/
theorem proceeds_processNoting
    {atEnd : List Notice} (fit : ∀ notice ∈ atEnd, allowed notice) (token : Token) :
    Proceeds allowed (compiler.processNoting atEnd token) := by
  unfold processNoting
  split
  · apply (proceeds_note fit).bind
    intro _
    exact compiler.proceeds_process ordinary token
  · exact compiler.proceeds_process ordinary token

end Compiler

end TypedMustache
