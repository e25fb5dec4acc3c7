import Mathlib.Data.String.Basic
import TypedMustache.Proofs.RenderModule.ModuleLines

/-!
# What the imports of a module bind

The functions of a module mention the data types of their templates by name, so each
of these names has to be imported, and the module has one name space for all of them
and for the helpers of the generated code.

Imports are read off the lines of a module, and what a name stands for is decided by
the last one that binds it.  The helpers come first and the data types after them, in
the order of their modules, so of two classes with one name the class from the later
module wins.  All names stand for what they are meant to exactly if no two classes
from different modules, and no class and helper, share one.  This is
`RenderModule.refers_iff_unshared`.
-/

namespace TypedMustache

open Text (OneLine)

namespace Text

/-! ## Parts of a text -/

theorem exists_splitOn_eq_takeWhile (separator : Char) (text : List Char) :
    ∃ parts, splitOn separator text = text.takeWhile (· != separator) :: parts := by
  induction text with
  | nil =>
      exact ⟨[], rfl⟩
  | cons char rest ih =>
      rcases ih with ⟨parts, split⟩
      by_cases same : char = separator
      · exact ⟨splitOn separator rest, by simp [splitOn, same]⟩
      · exact ⟨parts, by simp [splitOn, same, split]⟩

/-- Without the separators, the parts of a text are what is left of it. -/
theorem flatten_splitOn (separator : Char) (text : List Char) :
    (splitOn separator text).flatten = text.filter (· != separator) := by
  induction text with
  | nil =>
      rfl
  | cons char rest ih =>
      rcases exists_splitOn_eq_takeWhile separator rest with ⟨parts, split⟩
      rw [split, List.flatten_cons] at ih
      by_cases same : char = separator
      · simp [splitOn, same, split, ih]
      · simp [splitOn, same, split, ih]

/-- Names that were joined by commas are told apart again, with the blanks left out. -/
theorem splitOn_join_commas {names : List String} (some : names ≠ [])
    (solid : ∀ name ∈ names, ' ' ∉ name.toList ∧ ',' ∉ name.toList) :
    splitOn ',' ((join ", " names).toList.filter (· != ' ')) = names.map String.toList := by
  have unblanked {name : String} (unspaced : ' ' ∉ name.toList) :
      name.toList.filter (· != ' ') = name.toList := by
    rw [List.filter_eq_self]
    intro char member
    rw [bne_iff_ne]
    rintro rfl
    exact unspaced member
  have comma : ", ".toList.filter (· != ' ') = [','] := rfl
  induction names with
  | nil =>
      exact absurd rfl some
  | cons name rest ih =>
      rw [List.forall_mem_cons] at solid
      cases rest with
      | nil =>
          rw [join_singleton, unblanked solid.1.1, splitOn_of_not_mem solid.1.2]
          rfl
      | cons next others =>
          rw [join_cons_cons, String.toList_append, String.toList_append, List.filter_append,
            List.filter_append, unblanked solid.1.1, comma, List.append_assoc,
            List.singleton_append, splitOn_append_separator _ solid.1.2,
            ih (List.cons_ne_nil next others) solid.2]
          rfl

/-! ## Names with dots -/

/-- A character that stands in no identifier. -/
theorem not_mem_of_isIdentifier {char : Char} {name : String}
    (noStart : identifierStartRanges.contains char = false)
    (noContinue : identifierContinueRanges.contains char = false)
    (identifier : isIdentifier name = true) : char ∉ name.toList := by
  intro member
  unfold isIdentifier at identifier
  split at identifier
  · cases identifier
  · rename_i first rest spelled
    rcases Bool.and_eq_true_iff.mp identifier with ⟨start, inside⟩
    rw [spelled] at member
    rcases List.mem_cons.mp member with rfl | later
    · rw [start] at noStart
      cases noStart
    · rw [List.all_eq_true.mp inside char later] at noContinue
      cases noContinue

/-- A name that is made of identifiers with dots between them. -/
def IsDotted (name : String) : Prop :=
  ∀ part ∈ splitString '.' name, isIdentifier part = true

instance (name : String) : Decidable (IsDotted name) :=
  inferInstanceAs (Decidable (∀ part ∈ splitString '.' name, isIdentifier part = true))

/-- The characters that separate the words of an import. -/
theorem not_mem_of_isDotted {name : String} (dotted : IsDotted name) :
    ∀ char ∈ [' ', ',', '\n'], char ∉ name.toList := by
  have foreign : [' ', ',', '\n'].all (fun char => char != '.' &&
      !identifierStartRanges.contains char && !identifierContinueRanges.contains char) = true := by
    decide +kernel
  intro char separates member
  have outside := List.all_eq_true.mp foreign char separates
  simp only [Bool.and_eq_true, Bool.not_eq_true', bne_iff_ne] at outside
  rcases outside with ⟨⟨other, noStart⟩, noContinue⟩
  have place : char = '.' ∨ ∃ part ∈ splitOn '.' name.toList, char ∈ part :=
    eq_or_exists_part_of_mem member
  rcases place with isDot | ⟨part, inName, inPart⟩
  · exact other isDot
  · have identifier := dotted (String.ofList part) (List.mem_map_of_mem inName)
    apply not_mem_of_isIdentifier noStart noContinue identifier
    rwa [String.toList_ofList]

end Text

namespace RenderModule

variable {results : List CompileResult} {result other : CompileResult} {settings : Settings}
  {name moduleName : String} {names : List String}

/-! ## Reading imports -/

/-- The names that a line imports, each with the module it comes from. -/
def readImport (line : String) : List (String × String) :=
  match Text.splitOn ' ' line.toList with
  | verb :: moduleName :: noun :: names =>
    if verb = "from".toList ∧ noun = "import".toList then
      (Text.splitOn ',' names.flatten).map fun name =>
        (String.ofList name, String.ofList moduleName)
    else []
  | _ => []

/-- What lines import, in their order. -/
def importsOf (lines : List String) : List (String × String) :=
  lines.flatMap readImport

/-- The module from which a name is imported last. -/
def binder? (imports : List (String × String)) (name : String) : Option String :=
  imports.reverse.lookup name

/-- A line that does not begin with `from` imports nothing. -/
theorem readImport_of_head {first : Char} {line : String} (other : first ≠ 'f')
    (head : line.toList.head? = some first) : readImport line = [] := by
  rcases Text.exists_splitOn_eq_takeWhile ' ' line.toList with ⟨parts, split⟩
  unfold readImport
  split
  · rename_i verb moduleName noun names words
    rw [split] at words
    apply if_neg
    rintro ⟨isFrom, -⟩
    have begins : (line.toList.takeWhile (· != ' ')).head? = some 'f' := by
      rw [(List.cons.inj words).1, isFrom]
      rfl
    cases spelled : line.toList with
    | nil =>
        rw [spelled] at head
        cases head
    | cons char rest =>
        rw [spelled] at head begins
        rw [List.takeWhile_cons] at begins
        split at begins
        · exact other ((Option.some.inj head).symm.trans (Option.some.inj begins))
        · cases begins
  · rfl

/-! ## Sorted names -/

theorem mem_eraseRepsBy_loop {α : Type} [BEq α] [LawfulBEq α] {value first : α}
    {rest kept : List α} (member : value ∈ kept ∨ value ∈ first :: rest) :
    value ∈ List.eraseRepsBy.loop (· == ·) first rest kept := by
  induction rest generalizing first kept with
  | nil =>
      rw [List.eraseRepsBy.loop, List.mem_reverse, List.mem_cons]
      exact member.symm.imp_left List.mem_singleton.mp
  | cons next others ih =>
      rw [List.eraseRepsBy.loop]
      split
      · rename_i same
        rw [← beq_iff_eq.mp same] at member
        apply ih
        simpa using member
      · apply ih
        simp only [List.mem_cons] at member ⊢
        tauto

/-- Sorting without repetitions neither loses nor adds an entry. -/
theorem mem_sortedOnce_iff {texts : List String} {text : String} :
    text ∈ sortedOnce texts ↔ text ∈ texts := by
  constructor
  · exact mem_of_mem_sortedOnce
  · intro member
    have inSorted : text ∈ texts.mergeSort fun text other => text ≤ other :=
      List.mem_mergeSort.mpr member
    rw [sortedOnce, List.eraseReps]
    cases sorted : texts.mergeSort fun text other => text ≤ other with
    | nil =>
        rw [sorted] at inSorted
        exact inSorted
    | cons first rest =>
        rw [sorted] at inSorted
        exact mem_eraseRepsBy_loop (Or.inr inSorted)

theorem pairwise_sortedOnce (texts : List String) : (sortedOnce texts).Pairwise (· ≤ ·) := by
  have sorted : (texts.mergeSort fun text other => text ≤ other).Pairwise
      fun text other => decide (text ≤ other) = true := by
    apply List.pairwise_mergeSort
    · simpa using fun _ _ _ => le_trans
    · simpa using le_total
  simp only [decide_eq_true_eq] at sorted
  exact sorted.sublist (sublist_sortedOnce texts)

/-! ## Reading the imports of a module -/

/-- An import is read as it was written. -/
theorem readImport_importLine (unspaced : ' ' ∉ moduleName.toList) (some : names ≠ [])
    (solid : ∀ name ∈ names, ' ' ∉ name.toList ∧ ',' ∉ name.toList) :
    readImport (importLine moduleName names) =
      (sortedOnce names).map fun name => (name, moduleName) := by
  have spelled : (importLine moduleName names).toList =
      "from".toList ++ ' ' :: (moduleName.toList ++ ' ' :: ("import".toList ++ ' ' ::
        (Text.join ", " (sortedOnce names)).toList)) := by
    simp [importLine]
  have listed : sortedOnce names ≠ [] := by
    rcases List.exists_mem_of_ne_nil names some with ⟨name, member⟩
    exact List.ne_nil_of_mem (mem_sortedOnce_iff.mpr member)
  have told := Text.splitOn_join_commas listed fun name member =>
    solid name (mem_sortedOnce_iff.mp member)
  rw [readImport, spelled, Text.splitOn_append_separator _ (by decide),
    Text.splitOn_append_separator _ unspaced, Text.splitOn_append_separator _ (by decide)]
  simp only [and_self, if_true, Text.flatten_splitOn, told, List.map_map]
  apply List.map_congr_left
  intro name _
  simp

/-- The helpers that generated code uses. -/
def helpers (settings : Settings) : List String :=
  [escapingWriter, "Writer", settings.escapeFunction]

/-- What the helpers of generated code are imported as. -/
def helperImports (settings : Settings) : List (String × String) :=
  (sortedOnce (helpers settings)).map fun name => (name, helperModule)

/-- What the data types of results are imported as. -/
def dataImports (results : List CompileResult) : List (String × String) :=
  let imported := results.filter (·.dataModule != "builtins")
  (sortedOnce (imported.map (·.dataModule))).flatMap fun moduleName =>
    (sortedOnce ((imported.filter (·.dataModule == moduleName)).map fun result =>
      outermost result.dataName)).map fun name => (name, moduleName)

end RenderModule

/-- A result whose data type is a class of a module, or nested in one. -/
structure CompileResult.OfClass (result : CompileResult) : Prop where
  dataModule : Text.IsDotted result.dataModule
  dataName : Text.IsDotted result.dataName

namespace RenderModule

variable {results : List CompileResult} {result other : CompileResult} {settings : Settings}
  {name moduleName : String}

theorem isIdentifier_outermost {name : String} (dotted : Text.IsDotted name) :
    Text.isIdentifier (outermost name) = true := by
  rcases Text.exists_splitOn_eq_takeWhile '.' name.toList with ⟨parts, split⟩
  apply dotted
  rw [outermost, Text.splitString, split]
  exact List.mem_cons_self

/-- The imports of a module are those of the helpers, and those of the data types after them. -/
theorem importsOf_importLines (accepted : settings.Accepted)
    (classes : ∀ result ∈ results, result.OfClass) :
    importsOf (importLines results settings) = helperImports settings ++ dataImports results ∧
      importsOf (importLines results settings).tail = dataImports results := by
  have solid {name : String} (identifier : Text.isIdentifier name = true) :
      ' ' ∉ name.toList ∧ ',' ∉ name.toList := by
    have dotless : '.' ∉ name.toList :=
      Text.not_mem_of_isIdentifier (by decide +kernel) (by decide +kernel) identifier
    have dotted : Text.IsDotted name := by
      intro part isPart
      rw [Text.splitString, Text.splitOn_of_not_mem dotless, List.map_singleton,
        String.ofList_toList, List.mem_singleton] at isPart
      rwa [isPart]
    have separators := Text.not_mem_of_isDotted dotted
    exact ⟨separators ' ' (by simp), separators ',' (by simp)⟩
  have first : readImport (importLine helperModule (helpers settings)) =
      helperImports settings := by
    apply readImport_importLine (by decide) (List.cons_ne_nil _ _)
    have known : ∀ name ∈ [escapingWriter, "Writer", "escape_html"],
        ' ' ∉ name.toList ∧ ',' ∉ name.toList := by
      decide
    intro name isHelper
    rw [accepted.escapeFunction_eq] at isHelper
    exact known name isHelper
  have later : importsOf (importLines results settings).tail = dataImports results := by
    rw [importLines, List.tail_cons, importsOf, List.flatMap_map, dataImports]
    apply List.flatMap_congr
    intro moduleName isModule
    rcases List.mem_map.mp (mem_of_mem_sortedOnce isModule) with ⟨result, imported, rfl⟩
    have isResult := List.mem_of_mem_filter imported
    apply readImport_importLine
    · exact Text.not_mem_of_isDotted (classes result isResult).dataModule ' ' (by simp)
    · have inModule : result ∈ (results.filter (·.dataModule != "builtins")).filter
          (·.dataModule == result.dataModule) :=
        List.mem_filter.mpr ⟨imported, by simp⟩
      exact List.ne_nil_of_mem (List.mem_map_of_mem inModule)
    · intro name isName
      rcases List.mem_map.mp isName with ⟨other, inModule, rfl⟩
      have isOther := List.mem_of_mem_filter (List.mem_of_mem_filter inModule)
      exact solid (isIdentifier_outermost (classes other isOther).dataName)
  refine ⟨?_, later⟩
  calc
    importsOf (importLines results settings) =
        readImport (importLine helperModule (helpers settings)) ++
          importsOf (importLines results settings).tail := rfl
    _ = helperImports settings ++ dataImports results := by
        rw [first, later]

/-! ## What names stand for -/

theorem mem_helperImports_iff :
    (name, moduleName) ∈ helperImports settings ↔
      name ∈ helpers settings ∧ moduleName = helperModule := by
  rw [helperImports, List.mem_map]
  constructor
  · rintro ⟨helper, isHelper, same⟩
    cases same
    exact ⟨mem_of_mem_sortedOnce isHelper, rfl⟩
  · rintro ⟨isHelper, rfl⟩
    exact ⟨name, mem_sortedOnce_iff.mpr isHelper, rfl⟩

/-- Data types are imported unless they need no import, by their outermost class. -/
theorem mem_dataImports_iff :
    (name, moduleName) ∈ dataImports results ↔
      ∃ result ∈ results, result.dataModule ≠ "builtins" ∧
        outermost result.dataName = name ∧ result.dataModule = moduleName := by
  simp only [dataImports, List.mem_flatMap, List.mem_map, mem_sortedOnce_iff, List.mem_filter,
    bne_iff_ne, beq_iff_eq, Prod.mk.injEq]
  constructor
  · rintro ⟨_, -, _, ⟨other, ⟨⟨isOther, imported⟩, inModule⟩, rfl⟩, rfl, rfl⟩
    exact ⟨other, isOther, imported, rfl, inModule⟩
  · rintro ⟨result, isResult, imported, rfl, rfl⟩
    exact ⟨_, ⟨result, ⟨isResult, imported⟩, rfl⟩, _,
      ⟨result, ⟨⟨isResult, imported⟩, rfl⟩, rfl⟩, rfl, rfl⟩

/-- Data types are imported in the order of their modules. -/
theorem pairwise_dataImports (results : List CompileResult) :
    (dataImports results).Pairwise fun early late => early.2 ≤ late.2 := by
  rw [dataImports, List.pairwise_flatMap]
  constructor
  · intro moduleName _
    rw [List.pairwise_map]
    exact List.pairwise_of_forall fun _ _ => le_refl moduleName
  · refine (pairwise_sortedOnce _).imp fun {early late} ordered => ?_
    intro entry inEarly other inLate
    rcases List.mem_map.mp inEarly with ⟨_, -, rfl⟩
    rcases List.mem_map.mp inLate with ⟨_, -, rfl⟩
    exact ordered

/-- A name is unbound if no import has it. -/
theorem binder?_eq_none_iff {imports : List (String × String)} :
    binder? imports name = none ↔ ∀ moduleName, (name, moduleName) ∉ imports := by
  rw [binder?, List.lookup_eq_none_iff]
  constructor
  · intro absent moduleName member
    have differs := absent _ (List.mem_reverse.mpr member)
    simp at differs
  · intro absent entry member
    rw [bne_iff_ne]
    rintro rfl
    exact absent entry.2 (List.mem_reverse.mp member)

/-- Among imports in the order of their modules, the last one for a name is from the last module. -/
theorem binder?_eq_some_iff_of_pairwise {imports : List (String × String)}
    (ordered : imports.Pairwise fun early late => early.2 ≤ late.2) :
    binder? imports name = some moduleName ↔
      (name, moduleName) ∈ imports ∧
        ∀ other, (name, other) ∈ imports → other ≤ moduleName := by
  have last {found : String} (bound : binder? imports name = some found) :
      (name, found) ∈ imports ∧ ∀ other, (name, other) ∈ imports → other ≤ found := by
    rcases List.lookup_eq_some_iff.mp bound with ⟨later, earlier, reversed, absent⟩
    have whole : imports = earlier.reverse ++ (name, found) :: later.reverse := by
      rw [← List.reverse_reverse imports, reversed]
      simp
    rw [whole, List.pairwise_append] at ordered
    rw [whole]
    refine ⟨by simp, ?_⟩
    intro other member
    rcases List.mem_append.mp member with before | here
    · exact ordered.2.2 _ before _ List.mem_cons_self
    · rcases List.mem_cons.mp here with same | behind
      · rw [(Prod.mk.inj same).2]
      · have differs := absent _ (List.mem_reverse.mp behind)
        simp at differs
  constructor
  · exact last
  · rintro ⟨member, latest⟩
    cases bound : binder? imports name with
    | none =>
        exact absurd member (binder?_eq_none_iff.mp bound moduleName)
    | some found =>
        rcases last bound with ⟨isImport, latestFound⟩
        rw [le_antisymm (latest found isImport) (latestFound moduleName member)]

section Imports

variable (accepted : settings.Accepted) (classes : ∀ result ∈ results, result.OfClass)

include accepted classes

/-- A name is bound by the import of a class, and by that of a helper only if there is none. -/
theorem binder?_importLines (name : String) :
    binder? (importsOf (importLines results settings)) name =
      (binder? (dataImports results) name).or (binder? (helperImports settings) name) := by
  rw [(importsOf_importLines accepted classes).1, binder?, List.reverse_append, List.lookup_append]
  rfl

/-- The name of a class stands for it unless a later module has a class with the same name. -/
theorem binder?_eq_some_iff_last (isResult : result ∈ results)
    (imported : result.dataModule ≠ "builtins") :
    binder? (importsOf (importLines results settings)) (outermost result.dataName) =
        some result.dataModule ↔
      ∀ other ∈ results, other.dataModule ≠ "builtins" →
        outermost other.dataName = outermost result.dataName →
          other.dataModule ≤ result.dataModule := by
  have member : (outermost result.dataName, result.dataModule) ∈ dataImports results :=
    mem_dataImports_iff.mpr ⟨result, isResult, imported, rfl, rfl⟩
  have bound : binder? (importsOf (importLines results settings)) (outermost result.dataName) =
      binder? (dataImports results) (outermost result.dataName) := by
    rw [binder?_importLines accepted classes]
    cases found : binder? (dataImports results) (outermost result.dataName) with
    | none =>
        exact absurd member (binder?_eq_none_iff.mp found _)
    | some moduleName =>
        rfl
  rw [bound, binder?_eq_some_iff_of_pairwise (pairwise_dataImports results),
    and_iff_right member]
  constructor
  · intro latest other isOther otherImported same
    exact latest _ (mem_dataImports_iff.mpr ⟨other, isOther, otherImported, same, rfl⟩)
  · intro latest moduleName isImport
    rcases mem_dataImports_iff.mp isImport with ⟨other, isOther, otherImported, same, rfl⟩
    exact latest other isOther otherImported same

/-- A name is unbound if it is neither a helper nor the class of a result. -/
theorem binder?_importLines_eq_none_iff (name : String) :
    binder? (importsOf (importLines results settings)) name = none ↔
      name ∉ helpers settings ∧
        ∀ other ∈ results, other.dataModule ≠ "builtins" → outermost other.dataName ≠ name := by
  rw [binder?_importLines accepted classes, Option.or_eq_none_iff, binder?_eq_none_iff,
    binder?_eq_none_iff, and_comm]
  apply and_congr
  · simp [mem_helperImports_iff]
  · simp only [mem_dataImports_iff]
    constructor
    · intro absent other isOther imported same
      exact absent _ ⟨other, isOther, imported, same, rfl⟩
    · rintro absent moduleName ⟨other, isOther, imported, same, -⟩
      exact absent other isOther imported same

/-- No data type is imported under the name of a helper unless its class has the name. -/
theorem helpers_kept_iff :
    (∀ helper ∈ helpers settings, ∀ entry ∈ importsOf (importLines results settings).tail,
        entry.1 ≠ helper) ↔
      ∀ other ∈ results, other.dataModule ≠ "builtins" →
        outermost other.dataName ∉ helpers settings := by
  rw [(importsOf_importLines accepted classes).2]
  constructor
  · intro kept other isOther imported isHelper
    exact kept _ isHelper (outermost other.dataName, other.dataModule)
      (mem_dataImports_iff.mpr ⟨other, isOther, imported, rfl, rfl⟩) rfl
  · rintro apart helper isHelper ⟨name, moduleName⟩ isImport rfl
    rcases mem_dataImports_iff.mp isImport with ⟨other, isOther, imported, rfl, -⟩
    exact apart other isOther imported isHelper

end Imports

/-- The imports of a module stand on lines of their own, one after the other. -/
theorem exists_linesOf_generate (labels : List (String × String)) (accepted : settings.Accepted)
    (classes : ∀ result ∈ results, result.OfClass) :
    ∃ before after,
      Text.linesOf (generate results settings labels) =
        before ++ importLines results settings ++ after := by
  have lined : (importLines results settings).flatMap Text.linesOf =
      importLines results settings := by
    apply Text.flatMap_linesOf_of_oneLine
    intro line member
    refine oneLine_of_mem_importLines accepted ?_ ?_ member
    · intro result isResult
      exact Text.not_mem_of_isDotted (classes result isResult).dataModule '\n' (by simp)
    · intro result isResult
      exact Text.not_mem_of_isDotted (classes result isResult).dataName '\n' (by simp)
  rw [generate, Text.linesOf_join (by simp [heading])]
  simp only [List.flatMap_append, lined]
  exact ⟨_, _, List.append_assoc _ _ _⟩

/-- Lines inside functions import nothing. -/
theorem readImport_of_isTopLevel {line : String} (inside : isTopLevel line = false) :
    readImport line = [] := by
  unfold isTopLevel at inside
  split at inside
  · rename_i empty
    have blank : line = "" := String.toList_eq_nil_iff.mp (List.head?_eq_none_iff.mp empty)
    rw [blank]
    rfl
  · rename_i first head
    apply readImport_of_head _ head
    rintro rfl
    cases inside

/-- The functions of a module import nothing. -/
theorem importsOf_spaced {functions : List (String × List String)}
    (sound : ∀ function ∈ functions, IsFunction function) : importsOf (spaced functions) = [] := by
  rw [importsOf, List.flatMap_eq_nil_iff]
  intro line member
  rcases List.mem_flatMap.mp member with ⟨function, isFunction, isLine⟩
  have below := (sound function isFunction).indented
  simp only [List.mem_cons, List.mem_append, List.not_mem_nil, or_false] at isLine
  rcases isLine with rfl | rfl | inside | rfl
  · rfl
  · rcases List.isPrefixOf_iff_prefix.mp (sound function isFunction).defines with ⟨rest, spelled⟩
    have head : function.1.toList.head? = some 'd' := by
      rw [← spelled]
      rfl
    exact readImport_of_head (by decide) head
  · exact readImport_of_isTopLevel (below line inside)
  · rfl

/-- Nothing else in a module is read as an import, if its lines are what they are meant to be. -/
theorem importsOf_linesOf_generate (labels : List (String × String))
    (accepted : settings.Accepted) (indented : Code.IsIndent settings.indent)
    (compiled : ∀ result ∈ results, result.IsCompiled)
    (lined : ∀ result ∈ results, result.OnOneLine) :
    importsOf (Text.linesOf (generate results settings labels)) =
      importsOf (importLines results settings) := by
  have comments : importsOf (heading results) = [] := by
    rw [importsOf, List.flatMap_eq_nil_iff]
    intro line member
    exact readImport_of_head (by decide) (head_of_mem_heading member)
  have functions : importsOf (spaced (functions settings labels results)) = [] :=
    importsOf_spaced fun function member =>
      isFunction_of_mem_functions labels accepted indented compiled member
  have blank : readImport "" = [] := rfl
  rw [linesOf_generate labels accepted indented compiled lined]
  simp only [importsOf, List.flatMap_append, List.flatMap_cons, blank, List.nil_append]
    at comments functions ⊢
  rw [comments, functions, List.nil_append, List.append_nil]

/-! ## Names that stand for what they are meant to -/

/-- The name of a result's class is bound by its own module, or by none if it needs no import. -/
def Refers (imports : List (String × String)) (result : CompileResult) : Prop :=
  binder? imports (outermost result.dataName) =
    if result.dataModule = "builtins" then none else some result.dataModule

/-- No two classes from different modules share a name, and no class and helper do. -/
structure Unshared (results : List CompileResult) (settings : Settings) : Prop where
  classes : ∀ result ∈ results, ∀ other ∈ results,
    outermost result.dataName = outermost other.dataName → result.dataModule = other.dataModule
  helpers : ∀ result ∈ results, outermost result.dataName ∉ helpers settings

section Imports

variable (accepted : settings.Accepted) (classes : ∀ result ∈ results, result.OfClass)

include accepted classes

/-- A class whose name is unshared is the one that its name refers to. -/
theorem Unshared.refers (unshared : Unshared results settings) (isResult : result ∈ results) :
    Refers (importsOf (importLines results settings)) result := by
  unfold Refers
  split
  · rename_i builtin
    rw [binder?_importLines_eq_none_iff accepted classes]
    refine ⟨unshared.helpers result isResult, ?_⟩
    intro other isOther imported same
    exact imported ((unshared.classes other isOther result isResult same).trans builtin)
  · rename_i imported
    rw [binder?_eq_some_iff_last accepted classes isResult imported]
    intro other isOther _ same
    exact le_of_eq (unshared.classes other isOther result isResult same)

/-- If all names refer to their classes, no name is shared. -/
theorem unshared_of_refers
    (refers : ∀ result ∈ results, Refers (importsOf (importLines results settings)) result)
    (apart : ∀ other ∈ results, other.dataModule ≠ "builtins" →
      outermost other.dataName ∉ helpers settings) : Unshared results settings := by
  have builtin {result : CompileResult} (isResult : result ∈ results)
      (here : result.dataModule = "builtins") :
      outermost result.dataName ∉ helpers settings ∧
        ∀ other ∈ results, other.dataModule ≠ "builtins" →
          outermost other.dataName ≠ outermost result.dataName := by
    have unbound := refers result isResult
    rw [Refers, if_pos here] at unbound
    exact (binder?_importLines_eq_none_iff accepted classes _).mp unbound
  have latest {result : CompileResult} (isResult : result ∈ results)
      (imported : result.dataModule ≠ "builtins") :
      ∀ other ∈ results, other.dataModule ≠ "builtins" →
        outermost other.dataName = outermost result.dataName →
          other.dataModule ≤ result.dataModule := by
    have bound := refers result isResult
    rw [Refers, if_neg imported] at bound
    exact (binder?_eq_some_iff_last accepted classes isResult imported).mp bound
  constructor
  · intro result isResult other isOther same
    by_cases here : result.dataModule = "builtins" <;>
      by_cases otherHere : other.dataModule = "builtins"
    · rw [here, otherHere]
    · exact absurd same.symm ((builtin isResult here).2 other isOther otherHere)
    · exact absurd same ((builtin isOther otherHere).2 result isResult here)
    · exact le_antisymm (latest isOther otherHere result isResult here same)
        (latest isResult here other isOther otherHere same.symm)
  · intro result isResult
    by_cases here : result.dataModule = "builtins"
    · exact (builtin isResult here).1
    · exact apart result isResult here

end Imports

/--
The imports of a module stand for what they are meant to unless names are shared.

They stand on lines of their own, one after the other, and where templates and data
types have names on one line nothing else in a compiled module is read as an import.
The name of an imported class stands for it unless a later module has a class with
the same name.  All names stand for their classes, and no helper is replaced, exactly
if no name is shared.
-/
theorem refers_iff_unshared (labels : List (String × String)) (accepted : settings.Accepted)
    (classes : ∀ result ∈ results, result.OfClass) :
    (∃ before after,
      Text.linesOf (generate results settings labels) =
        before ++ importLines results settings ++ after) ∧
      (Code.IsIndent settings.indent →
        (∀ result ∈ results, result.IsCompiled ∧ OneLine result.template) →
          importsOf (Text.linesOf (generate results settings labels)) =
            importsOf (importLines results settings)) ∧
      (∀ result ∈ results, result.dataModule ≠ "builtins" →
        (Refers (importsOf (importLines results settings)) result ↔
          ∀ other ∈ results, other.dataModule ≠ "builtins" →
            outermost other.dataName = outermost result.dataName →
              other.dataModule ≤ result.dataModule)) ∧
      ((∀ result ∈ results, Refers (importsOf (importLines results settings)) result) ∧
          (∀ helper ∈ helpers settings, ∀ entry ∈ importsOf (importLines results settings).tail,
            entry.1 ≠ helper) ↔
        Unshared results settings) := by
  refine ⟨exists_linesOf_generate labels accepted classes, ?_, ?_, ?_, ?_⟩
  · intro indented sound
    apply importsOf_linesOf_generate labels accepted indented fun result isResult =>
      (sound result isResult).1
    intro result isResult
    have dotted := classes result isResult
    exact ⟨(sound result isResult).2, Text.not_mem_of_isDotted dotted.dataModule '\n' (by simp),
      Text.not_mem_of_isDotted dotted.dataName '\n' (by simp)⟩
  · intro result isResult imported
    rw [Refers, if_neg imported]
    exact binder?_eq_some_iff_last accepted classes isResult imported
  · rintro ⟨refers, kept⟩
    exact unshared_of_refers accepted classes refers
      ((helpers_kept_iff accepted classes).mp kept)
  · intro unshared
    constructor
    · intro result isResult
      exact unshared.refers accepted classes isResult
    · rw [helpers_kept_iff accepted classes]
      intro result isResult _
      exact unshared.helpers result isResult

/-- What a template gives that is compiled against a class. -/
def classResult (template moduleName className : String) : CompileResult :=
  { requestId := "request", template, dataModule := moduleName, dataName := className
    fragments := [{ variant := "full", code := "    writer.write(\"x\")\n" }] }

/-- A class of a module, a class nested in one of another module, and one without a module. -/
def distinctClasses : List CompileResult :=
  [classResult "page" "models" "Page", classResult "cell" "site.parts" "Table.Cell",
    classResult "count" "builtins" "int"]

/-- Two classes with names of their own, each of which is found. -/
theorem refers_iff_unshared_distinctClasses :
    (∀ result ∈ distinctClasses, result.OfClass) ∧ Unshared distinctClasses {} ∧
      (∃ before after,
        Text.linesOf (generate distinctClasses {} []) =
          before ++ importLines distinctClasses {} ++ after) ∧
      binder? (importsOf (importLines distinctClasses {})) "Table" = some "site.parts" ∧
      binder? (importsOf (importLines distinctClasses {})) "int" = none := by
  have classes : ∀ result ∈ distinctClasses, result.OfClass := by
    have dotted : ∀ result ∈ distinctClasses,
        Text.IsDotted result.dataModule ∧ Text.IsDotted result.dataName := by
      decide +kernel
    exact fun result isResult => ⟨(dotted result isResult).1, (dotted result isResult).2⟩
  have unshared : Unshared distinctClasses {} := ⟨by decide +kernel, by decide +kernel⟩
  rcases refers_iff_unshared [] ⟨[], rfl⟩ classes with ⟨lined, -, -, refers⟩
  have cell := (refers.mpr unshared).1 (classResult "cell" "site.parts" "Table.Cell")
    (by simp [distinctClasses])
  have count := (refers.mpr unshared).1 (classResult "count" "builtins" "int")
    (by simp [distinctClasses])
  exact ⟨classes, unshared, lined, cell, count⟩

/-- A request to compile a template against a class. -/
def classRequest (template moduleName className : String) : CompileRequest :=
  { text := "x", dataType := .ofClass { moduleName, qualifiedName := className }
    source := template, requestId := "request" }

/-- Results for two classes with one name. -/
def namesakes : List CompileResult :=
  [classResult "old" "models" "Page", classResult "new" "site.models" "Page"]

/--
Of two classes with the same name only one can be meant.  The function for the other
one mentions the wrong class, though both templates compile.
-/
theorem mistaken_class_of_namesakes :
    ((classRequest "old" "models" "Page").compile .empty {}).result =
        .ok (classResult "old" "models" "Page") ∧
      ((classRequest "new" "site.models" "Page").compile .empty {}).result =
        .ok (classResult "new" "site.models" "Page") ∧
      (∀ result ∈ namesakes, result.OfClass) ∧
      binder? (importsOf (importLines namesakes {})) "Page" = some "site.models" ∧
      ¬ Refers (importsOf (importLines namesakes {})) (classResult "old" "models" "Page") := by
  have old : ((classRequest "old" "models" "Page").compile .empty {}).result.toOption =
      some (classResult "old" "models" "Page") := by
    decide +kernel
  have new : ((classRequest "new" "site.models" "Page").compile .empty {}).result.toOption =
      some (classResult "new" "site.models" "Page") := by
    decide +kernel
  have classes : ∀ result ∈ namesakes, result.OfClass := by
    have dotted : ∀ result ∈ namesakes,
        Text.IsDotted result.dataModule ∧ Text.IsDotted result.dataName := by
      decide +kernel
    exact fun result isResult => ⟨(dotted result isResult).1, (dotted result isResult).2⟩
  have bound : binder? (importsOf (importLines namesakes {})) "Page" = some "site.models" := by
    have last : classResult "new" "site.models" "Page" ∈ namesakes := by
      simp [namesakes]
    have accepted : Settings.Accepted {} := ⟨[], rfl⟩
    apply (binder?_eq_some_iff_last accepted classes last (by decide)).mpr
    decide +kernel
  refine ⟨Attempt.toOption_eq_some_iff.mp old, Attempt.toOption_eq_some_iff.mp new, classes,
    bound, ?_⟩
  intro refers
  have other : binder? (importsOf (importLines namesakes {})) "Page" = some "models" := refers
  rw [bound] at other
  exact absurd (Option.some.inj other) (by decide)

end RenderModule

end TypedMustache
