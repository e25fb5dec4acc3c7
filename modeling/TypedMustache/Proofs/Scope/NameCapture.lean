import TypedMustache.Proofs.Scope.Stack
import TypedMustache.Scope.Statement

/-!
# Names that capture each other

The generated code refers to its two parameters, to helpers and to the elements of
open loops by name.  The parameters are named by the settings, each checked on its
own.  The elements are numbered.  Nothing compares the names of the parameters
with each other, with the helpers or with the numbered names, so one can hide
another.

`Scope.uncaptured_iff` says exactly when none does: the two parameters have
different names, and neither is named like the element of a loop that is open.
Elements never hide helpers.
-/

namespace TypedMustache

namespace Settings

/-- The names of the parameters of a generated function. -/
def parameterNames (settings : Settings) : List String :=
  [settings.dataName, settings.writerName]

/-- The names of the functions that generated statements call. -/
def helperNames (settings : Settings) : List String :=
  [settings.escapeFunction, escapingWriter, "str"]

end Settings

namespace Scope

variable {catalog : Catalog} {settings : Settings} {dataType : DataType} {scope : Scope}

/-- The parameters differ, and no element of an open loop hides a parameter or a helper. -/
structure Uncaptured (settings : Settings) (scope : Scope) : Prop where
  parameters : settings.dataName ≠ settings.writerName
  elements : ∀ opened ∈ scope.sections, opened.isLoop = true →
    opened.bound.expression settings ∉ settings.parameterNames ++ settings.helperNames

/-- No parameter is named like the element of an open loop. -/
def Unnumbered (settings : Settings) (scope : Scope) : Prop :=
  ∀ depth, 0 < depth → depth ≤ scope.loops → elementName depth ∉ settings.parameterNames

theorem mem_loopNames_iff {name : String} :
    name ∈ scope.loopNames settings ↔
      ∃ opened ∈ scope.sections, opened.isLoop = true ∧
        opened.bound.expression settings = name := by
  simp [loopNames, and_assoc]

theorem Stacked.mem_loopNames_iff_depth {name : String} (stacked : scope.Stacked) :
    name ∈ scope.loopNames settings ↔
      ∃ depth, 0 < depth ∧ depth ≤ scope.loops ∧ elementName depth = name := by
  rw [stacked.loopNames_eq settings, List.mem_map]
  constructor
  · rintro ⟨index, inRange, named⟩
    exact ⟨index + 1, Nat.succ_pos index, List.mem_range.mp inRange, named⟩
  · rintro ⟨depth, positive, within, named⟩
    refine ⟨depth - 1, List.mem_range.mpr (by omega), ?_⟩
    rwa [Nat.sub_add_cancel positive]

/-- Elements are named with a letter that no helper begins with. -/
theorem elementName_not_mem_helperNames (accepted : settings.Accepted) (depth : Nat) :
    elementName depth ∉ settings.helperNames := by
  intro member
  have begins : (elementName depth).toList.head? = some 'i' := by
    simp [elementName]
  rw [Settings.helperNames, accepted.escapeFunction_eq] at member
  simp only [List.mem_cons, List.not_mem_nil, or_false] at member
  rcases member with same | same | same
  · rw [same] at begins
    cases begins
  · rw [same] at begins
    cases begins
  · rw [same] at begins
    cases begins

theorem Stacked.disjoint_loopNames_iff
    (stacked : scope.Stacked) (accepted : settings.Accepted) :
    (∀ name ∈ scope.loopNames settings,
        name ∉ settings.parameterNames ++ settings.helperNames) ↔
      scope.Unnumbered settings := by
  constructor
  · intro apart depth positive within isParameter
    have isElement : elementName depth ∈ scope.loopNames settings :=
      stacked.mem_loopNames_iff_depth.mpr ⟨depth, positive, within, rfl⟩
    exact apart _ isElement (List.mem_append_left _ isParameter)
  · intro unnumbered name isElement isFixed
    rcases stacked.mem_loopNames_iff_depth.mp isElement with ⟨depth, positive, within, rfl⟩
    rcases List.mem_append.mp isFixed with isParameter | isHelper
    · exact unnumbered depth positive within isParameter
    · exact elementName_not_mem_helperNames accepted depth isHelper

/--
Names are not captured exactly if the parameters have different names that no element
of an open loop has.  All names in use differ exactly if, besides, the parameters are
not named like helpers.
-/
theorem uncaptured_iff
    (accepted : settings.Accepted) (reachable : Reachable catalog dataType scope) :
    (scope.Uncaptured settings ↔
        settings.dataName ≠ settings.writerName ∧ scope.Unnumbered settings) ∧
      ((settings.parameterNames ++ settings.helperNames ++ scope.loopNames settings).Nodup ↔
        (settings.parameterNames ++ settings.helperNames).Nodup ∧
          scope.Unnumbered settings) := by
  have stacked := reachable.grown.stacked
  have apart := stacked.disjoint_loopNames_iff accepted
  constructor
  · rw [← apart]
    constructor
    · rintro ⟨parameters, elements⟩
      refine ⟨parameters, ?_⟩
      intro name isElement
      rcases mem_loopNames_iff.mp isElement with ⟨opened, isOpen, isLoop, rfl⟩
      exact elements opened isOpen isLoop
    · rintro ⟨parameters, elements⟩
      refine ⟨parameters, ?_⟩
      intro opened isOpen isLoop
      exact elements _ (mem_loopNames_iff.mpr ⟨opened, isOpen, isLoop, rfl⟩)
  · rw [List.nodup_append, ← apart]
    have distinct := stacked.nodup_loopNames settings
    constructor
    · rintro ⟨fixed, -, different⟩
      refine ⟨fixed, ?_⟩
      intro name isElement isFixed
      exact different name isFixed name isElement rfl
    · rintro ⟨fixed, elements⟩
      refine ⟨fixed, distinct, ?_⟩
      rintro name isFixed other isElement rfl
      exact elements name isElement isFixed

/-- Inside two loops the default names are not captured. -/
theorem uncaptured_iff_tables :
    ∃ scope, Settings.Accepted {} ∧ Reachable tables table scope ∧
      scope.loopNames {} = ["item1", "item2"] ∧ scope.Uncaptured {} := by
  rcases exists_nested_loops with ⟨scope, reachable, -, names⟩
  have accepted : Settings.Accepted {} := ⟨[], rfl⟩
  have unnumbered : scope.Unnumbered {} := by
    rw [← reachable.grown.stacked.disjoint_loopNames_iff accepted, names]
    decide
  have different : ({} : Settings).dataName ≠ ({} : Settings).writerName := by
    decide
  exact ⟨scope, accepted, reachable, names,
    (uncaptured_iff accepted reachable).1.mpr ⟨different, unnumbered⟩⟩

/--
Data that are named like an element are hidden by the first loop, and the two
parameters may have one name.
-/
theorem captured_data_of_tables :
    (∃ settings scope,
        Settings.ofEntries [(.text "data_name", .text "item1")] = .ok settings ∧
          Reachable tables table scope ∧
            scope.header settings = "for item1 in item1.rows:" ∧ ¬ scope.Uncaptured settings) ∧
      ∃ settings,
        Settings.ofEntries [(.text "data_name", .text "writer")] = .ok settings ∧
          ∀ scope, ¬ Uncaptured settings scope := by
  constructor
  · have opened :
        ∃ rows, ((Scope.root table).enter tables "rows" false).outcome = .ok rows ∧
          rows.header { dataName := "item1" } = "for item1 in item1.rows:" ∧
            "item1" ∈ rows.loopNames { dataName := "item1" } :=
      ⟨_, rfl, by decide +kernel, by decide +kernel⟩
    rcases opened with ⟨rows, opens, header, isElement⟩
    refine ⟨{ dataName := "item1" }, rows, rfl, .enter .root opens, header, ?_⟩
    intro uncaptured
    rcases mem_loopNames_iff.mp isElement with ⟨loop, isOpen, isLoop, named⟩
    apply uncaptured.elements loop isOpen isLoop
    rw [named]
    decide
  · refine ⟨{ dataName := "writer" }, rfl, ?_⟩
    intro scope uncaptured
    exact uncaptured.parameters rfl

end Scope

end TypedMustache
