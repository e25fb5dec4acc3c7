import Mathlib.Data.List.Nodup
import Mathlib.Data.List.Range
import TypedMustache.Proofs.Scope.Reachable

/-!
# The stack of open sections

A section keeps what is bound inside it and how many loops are open.  Both are worked
out from the scope around the section when it is opened, and never again.
`Section.FitsOn` says what they have to be, given the sections around it.

`Scope.wellStacked_of_reachable` shows that all sections of a reachable scope fit
on those around them, and what follows for the scope as a whole: the loops are
counted right, their elements have different names, what the innermost section keeps
is what names are looked up in, and sections that bind nothing change nothing for
names inside them.
-/

namespace TypedMustache

namespace Scope

/-- What the innermost section keeps as bound; the data where none is open. -/
def kept (scope : Scope) : Reference :=
  match scope.sections with
  | [] => scope.data
  | innermost :: _ => innermost.bound

/-- The scope around the innermost of some sections. -/
abbrev around (scope : Scope) (outer : List Section) : Scope :=
  { scope with sections := outer }

/-- The names of the elements of the open loops, from the outermost loop on. -/
def loopNames (settings : Settings) (scope : Scope) : List String :=
  (scope.sections.filter (·.isLoop)).reverse.map (·.bound.expression settings)

end Scope

/-- What a section keeps is right in the scope around it. -/
structure Section.FitsOn (opened : Section) (outside : Scope) : Prop where
  /-- The loops around it are counted, and itself if it is one. -/
  loopDepth : opened.loopDepth = (opened :: outside.sections).countP (·.isLoop)
  /-- A loop binds the element that is numbered by its depth. -/
  element : opened.isLoop = true →
    ∃ type, opened.bound = .ofVariable (.element opened.loopDepth) type
  /-- A section that binds nothing hands on what is bound around it. -/
  handsOn : opened.binds = false → opened.bound = outside.bound

theorem Section.binds_eq_false_iff {opened : Section} :
    opened.binds = false ↔ opened.inverted = true ∨ opened.shape = .guard := by
  cases inverted : opened.inverted <;> simp [binds, inverted]

namespace Scope

variable {catalog : Catalog} {settings : Settings} {dataType : DataType}
  {scope entered inner : Scope} {name : String} {inverted : Bool}

/-! ## What one more section keeps -/

/-- Every section fits on those around it. -/
def Stacked (scope : Scope) : Prop :=
  ∀ opened outer, opened :: outer <:+ scope.sections → opened.FitsOn (scope.around outer)

theorem Stacked.loops_eq_countP (stacked : scope.Stacked) :
    scope.loops = scope.sections.countP (·.isLoop) := by
  rcases scope with ⟨dataType, sections⟩
  cases sections with
  | nil =>
      rfl
  | cons innermost outer =>
      exact (stacked innermost outer List.suffix_rfl).loopDepth

/-- What the innermost section keeps is what a search through all sections finds. -/
theorem Stacked.kept_eq_bound (stacked : scope.Stacked) : scope.kept = scope.bound := by
  rcases scope with ⟨dataType, sections⟩
  cases sections with
  | nil =>
      rfl
  | cons innermost outer =>
      have searched := bound_cons { dataType, sections := outer } innermost
      cases binds : innermost.binds with
      | true =>
          rw [searched, binds]
          rfl
      | false =>
          rw [searched, binds]
          exact (stacked innermost outer List.suffix_rfl).handsOn binds

theorem Stacked.outside {opened : Section} {outer : List Section}
    (stacked : scope.Stacked) (sections : scope.sections = opened :: outer) :
    (scope.around outer).Stacked := by
  intro other further within
  exact stacked other further (by rw [sections]; exact within.trans (List.suffix_cons _ _))

/-- A section that is opened fits on the scope that it is opened in. -/
theorem fitsOn_of_enter
    (stacked : scope.Stacked) (opens : (scope.enter catalog name inverted).outcome = .ok entered) :
    ∃ opened, entered = { scope with sections := opened :: scope.sections } ∧
      opened.FitsOn scope := by
  rcases enter_eq_ok_iff.mp opens with ⟨subject, shape, inner, -, -, rfl⟩
  refine ⟨_, rfl, ?_, ?_, ?_⟩
  · rw [List.countP_cons, ← stacked.loops_eq_countP]
    cases isLoop : !inverted && shape == .iteration with
    | false =>
        simp [loopsInside, Section.isLoop, isLoop]
    | true =>
        simp [loopsInside, Section.isLoop, isLoop]
  · intro isLoop
    simp only [Section.isLoop, Bool.and_eq_true, Bool.not_eq_true', beq_iff_eq] at isLoop
    rcases isLoop with ⟨rfl, rfl⟩
    exact ⟨inner, rfl⟩
  · intro bindsNothing
    rcases Section.binds_eq_false_iff.mp bindsNothing with rfl | rfl
    · rfl
    · cases inverted <;> rfl

theorem Stacked.enter
    (stacked : scope.Stacked) (opens : (scope.enter catalog name inverted).outcome = .ok entered) :
    entered.Stacked := by
  rcases fitsOn_of_enter stacked opens with ⟨opened, rfl, fits⟩
  intro other outer within
  rcases List.suffix_cons_iff.mp within with same | later
  · cases same
    exact fits
  · exact stacked other outer later

theorem Grown.stacked (grown : Grown catalog dataType scope) : scope.Stacked := by
  induction grown with
  | root =>
      intro opened outer within
      cases List.suffix_nil.mp within
  | enter grown opens ih =>
      exact ih.enter opens

/-! ## The names of loop elements -/

/-- The name of the element of a loop, by the depth of the loop. -/
def elementName (depth : Nat) : String :=
  "item" ++ toString depth

theorem elementName_injective : Function.Injective elementName := by
  intro first second same
  have digits : Nat.toDigits 10 first = Nat.toDigits 10 second := by
    have shown : first.repr = second.repr := (String.append_right_inj "item").mp same
    rwa [Nat.repr_eq_ofList_toDigits, Nat.repr_eq_ofList_toDigits, String.ofList_inj] at shown
  calc
    first = Nat.ofDigitChars 10 (Nat.toDigits 10 first) 0 :=
      (Nat.ofDigitChars_toDigits (by decide) (by decide)).symm
    _ = Nat.ofDigitChars 10 (Nat.toDigits 10 second) 0 := by rw [digits]
    _ = second := Nat.ofDigitChars_toDigits (by decide) (by decide)

theorem Stacked.loopNames_eq (settings : Settings) (stacked : scope.Stacked) :
    scope.loopNames settings =
      (List.range scope.loops).map fun index => elementName (index + 1) := by
  rcases scope with ⟨dataType, sections⟩
  induction sections with
  | nil =>
      rfl
  | cons innermost outer ih =>
      have outside : Stacked { dataType, sections := outer } := stacked.outside rfl
      have outerNames := ih outside
      have outerLoops := outside.loops_eq_countP
      have fits := stacked innermost outer List.suffix_rfl
      have depth : innermost.loopDepth = _ := fits.loopDepth
      simp only [loopNames] at outerNames
      cases isLoop : innermost.isLoop with
      | false =>
          -- The section counts for nothing, neither in the depth nor among the names.
          have sameDepth : innermost.loopDepth = Scope.loops { dataType, sections := outer } := by
            rw [depth, outerLoops]
            simp [isLoop]
          simpa [loopNames, loops, isLoop, sameDepth] using outerNames
      | true =>
          have nextDepth :
              innermost.loopDepth = Scope.loops { dataType, sections := outer } + 1 := by
            rw [depth, outerLoops]
            simp [isLoop]
          rcases fits.element isLoop with ⟨type, bound⟩
          have named : innermost.bound.expression settings =
              elementName (Scope.loops { dataType, sections := outer } + 1) := by
            rw [bound, nextDepth]
            rfl
          have newDepth : Scope.loops { dataType, sections := innermost :: outer } =
              Scope.loops { dataType, sections := outer } + 1 :=
            nextDepth
          rw [newDepth, List.range_succ, List.map_append, ← outerNames, List.map_singleton, ← named]
          simp [loopNames, isLoop]

theorem Stacked.nodup_loopNames (settings : Settings) (stacked : scope.Stacked) :
    (scope.loopNames settings).Nodup := by
  rw [stacked.loopNames_eq settings]
  apply List.nodup_range.map
  intro first second same
  exact Nat.succ_injective (elementName_injective same)

/-! ## Sections that bind nothing -/

/-- Sections over truth values and inverted sections, opened one inside the other. -/
inductive PassesThrough (catalog : Catalog) (scope : Scope) : Scope → Prop where
  | here : PassesThrough catalog scope scope
  | enter
      {inner entered : Scope} {opened : Section} {name : String} {inverted : Bool}
      (passes : PassesThrough catalog scope inner)
      (opens : (inner.enter catalog name inverted).outcome = .ok entered)
      (innermost : entered.sections = opened :: inner.sections)
      (bindsNothing : opened.inverted = true ∨ opened.shape = .guard) :
      PassesThrough catalog scope entered

theorem lookup_eq_of_bound_eq (same : inner.bound = scope.bound) (name : String) :
    inner.lookup catalog name = scope.lookup catalog name := by
  simp only [lookup, same]

theorem PassesThrough.bound_eq (passes : PassesThrough catalog scope inner) :
    inner.bound = scope.bound := by
  induction passes with
  | here =>
      rfl
  | enter passes opens innermost bindsNothing ih =>
      rcases enter_eq_ok_iff.mp opens with ⟨subject, shape, type, -, -, rfl⟩
      cases innermost
      rw [← ih]
      rw [bound_opened]
      rcases bindsNothing with rfl | rfl
      · rfl
      · simp [boundBy]

/-! ## Reachable scopes -/

/-- What holds of the sections that are open in a scope over data of a type. -/
structure WellStacked (catalog : Catalog) (settings : Settings) (dataType : DataType)
    (scope : Scope) : Prop where
  /-- At the root are the data that the template is rendered for. -/
  root : scope.data = .ofVariable .data dataType
  fits : ∀ opened outer, opened :: outer <:+ scope.sections →
    opened.FitsOn (scope.around outer)
  loops : scope.loops = scope.sections.countP (·.isLoop)
  /-- The elements of the open loops are numbered from the outside in. -/
  loopNames : scope.loopNames settings =
    (List.range scope.loops).map fun index => elementName (index + 1)
  distinct : (scope.loopNames settings).Nodup
  /-- What the innermost section keeps is what names inside mean members of. -/
  bound : scope.kept = scope.bound
  /-- Names mean the same inside sections that bind nothing as outside. -/
  transparent : ∀ inner, PassesThrough catalog scope inner →
    ∀ name, inner.lookup catalog name = scope.lookup catalog name

theorem wellStacked_of_reachable
    (settings : Settings) (reachable : Reachable catalog dataType scope) :
    scope.WellStacked catalog settings dataType := by
  have grown := reachable.grown
  have stacked := grown.stacked
  exact
    { root := by
        rw [data, grown.dataType_eq]
      fits := stacked
      loops := stacked.loops_eq_countP
      loopNames := stacked.loopNames_eq settings
      distinct := stacked.nodup_loopNames settings
      bound := stacked.kept_eq_bound
      transparent := by
        intro inner passes
        exact lookup_eq_of_bound_eq passes.bound_eq }

/-- Tables that may be shown, with rows that may be hidden, of cells. -/
def tables : Catalog :=
  { models :=
      [{ name := { moduleName := "models", qualifiedName := "Table" }
         annotations :=
          [("shown", .bool),
            ("rows", .applied (.builtin "list")
              [.ofClass { moduleName := "models", qualifiedName := "Row" }])]
         attributes := []
         bases := [] },
        { name := { moduleName := "models", qualifiedName := "Row" }
          annotations :=
            [("hidden", .bool), ("cells", .applied (.builtin "list") [.ofClass (.builtin "str")])]
          attributes := []
          bases := [] }]
    constants := [] }

/-- The data type of tables. -/
def table : DataType :=
  .ofClass { moduleName := "models", qualifiedName := "Table" }

/-- Two loops, with a condition around them and another one between them. -/
theorem exists_nested_loops :
    ∃ scope, Reachable tables table scope ∧
      (scope.sections.map (·.name)).reverse = ["shown", "rows", "hidden", "cells"] ∧
        scope.loopNames {} = ["item1", "item2"] := by
  have opened :
      ∃ shown, ((Scope.root table).enter tables "shown" false).outcome = .ok shown ∧
        ∃ rows, (shown.enter tables "rows" false).outcome = .ok rows ∧
          ∃ visible, (rows.enter tables "hidden" true).outcome = .ok visible ∧
            ∃ cells, (visible.enter tables "cells" false).outcome = .ok cells ∧
              (cells.sections.map (·.name)).reverse = ["shown", "rows", "hidden", "cells"] ∧
                cells.loopNames {} = ["item1", "item2"] :=
    ⟨_, rfl, _, rfl, _, rfl, _, rfl, by decide +kernel, by decide +kernel⟩
  rcases opened with ⟨shown, first, rows, second, visible, third, cells, fourth, names, loops⟩
  exact ⟨cells, .enter (.enter (.enter (.enter .root first) second) third) fourth, names, loops⟩

theorem wellStacked_of_reachable_tables :
    ∃ scope, Reachable tables table scope ∧ scope.loopNames {} = ["item1", "item2"] ∧
      scope.WellStacked tables {} table := by
  rcases exists_nested_loops with ⟨scope, reachable, -, loops⟩
  exact ⟨scope, reachable, loops, wellStacked_of_reachable {} reachable⟩

end Scope

end TypedMustache
