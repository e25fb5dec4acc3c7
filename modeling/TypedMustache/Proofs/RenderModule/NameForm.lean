import Mathlib.Data.List.SplitBy
import TypedMustache.Proofs.RenderModule.NameClashes
import TypedMustache.Proofs.Text.LetterCase

/-!
# The form of function names

The name of a function is made from a label: the parts between its words become
underscores, underscores at the ends are dropped, and letters are made small.  What
is left stands between `render` and the name of the variant.

The result is meant to be an identifier.  Words, though, are made of more characters
than identifiers: a raised two, a fraction or a circled number has a numeric value,
so it counts as part of a word, but no identifier may have it.  A name is an
identifier exactly if no such character stands in its label; this is
`RenderModule.form_of_functionName`.
-/

namespace TypedMustache.RenderModule

open Text (isWord lowerCaseChar)

/-! ## Words and what lies between them -/

/-- The longest parts of a text that lie within words, or outside of them. -/
def runs (text : List Char) : List (List Char) :=
  text.splitBy fun char next => isWord char == isWord next

/-- A text with an underscore for every part that lies outside of words. -/
def bridged (text : List Char) : List Char :=
  (runs text).flatMap fun run => if run.all isWord then run else ['_']

theorem underscored_of_word {char : Char} (rest : List Char) (word : isWord char = true) :
    underscored (char :: rest) = char :: underscored rest := by
  rw [underscored.eq_def]
  exact if_pos word

theorem underscored_of_gap_end {char next : Char} (rest : List Char)
    (outside : ¬ isWord char = true) (word : isWord next = true) :
    underscored (char :: next :: rest) = '_' :: underscored (next :: rest) := by
  rw [underscored.eq_def]
  exact (if_neg outside).trans (if_pos word)

theorem underscored_of_gap {char next : Char} (rest : List Char)
    (outside : ¬ isWord char = true) (outsideNext : ¬ isWord next = true) :
    underscored (char :: next :: rest) = underscored (next :: rest) := by
  rw [underscored.eq_def]
  exact (if_neg outside).trans (if_neg outsideNext)

theorem underscored_append_of_words {run : List Char} (rest : List Char)
    (words : ∀ char ∈ run, isWord char = true) :
    underscored (run ++ rest) = run ++ underscored rest := by
  induction run with
  | nil =>
      rfl
  | cons char others ih =>
      rw [List.forall_mem_cons] at words
      rw [List.cons_append, underscored_of_word _ words.1, ih words.2, List.cons_append]

theorem underscored_append_of_gap {run rest : List Char} (solid : run ≠ [])
    (gap : ∀ char ∈ run, isWord char = false)
    (ends : ∀ char ∈ rest.head?, isWord char = true) :
    underscored (run ++ rest) = '_' :: underscored rest := by
  induction run with
  | nil =>
      exact absurd rfl solid
  | cons char others ih =>
      rw [List.forall_mem_cons] at gap
      have outside : ¬ isWord char = true := by
        simp [gap.1]
      cases others with
      | nil =>
          cases rest with
          | nil =>
              simp [underscored, outside]
          | cons next more =>
              exact underscored_of_gap_end more outside (ends next rfl)
      | cons next more =>
          have outsideNext : ¬ isWord next = true := by
            simp [gap.2 next List.mem_cons_self]
          rw [← ih (List.cons_ne_nil next more) gap.2]
          exact underscored_of_gap (more ++ rest) outside outsideNext

/-- The characters of a run are all of the class of the first one. -/
theorem isWord_of_mem_run {first char : Char} {rest : List Char}
    (chained : (first :: rest).IsChain fun char next => (isWord char == isWord next) = true)
    (member : char ∈ first :: rest) : isWord char = isWord first := by
  induction rest generalizing first with
  | nil =>
      rw [List.mem_singleton.mp member]
  | cons next others ih =>
      rw [List.isChain_cons_cons, beq_iff_eq] at chained
      rcases List.mem_cons.mp member with rfl | later
      · rfl
      · exact (ih chained.2 later).trans chained.1.symm

/-- A run becomes one underscore if it lies outside of words and is as long as it can be. -/
theorem underscored_append_of_run {run rest : List Char} (solid : run ≠ [])
    (chained : run.IsChain fun char next => (isWord char == isWord next) = true)
    (ends : ∀ char ∈ rest.head?, (isWord (run.getLast solid) == isWord char) = false) :
    underscored (run ++ rest) =
      (if run.all isWord then run else ['_']) ++ underscored rest := by
  rcases List.exists_cons_of_ne_nil solid with ⟨first, others, rfl⟩
  have alike : ∀ char ∈ first :: others, isWord char = isWord first :=
    fun char => isWord_of_mem_run chained
  cases inside : isWord first with
  | true =>
      have words : ∀ char ∈ first :: others, isWord char = true :=
        fun char member => (alike char member).trans inside
      rw [if_pos (List.all_eq_true.mpr words), underscored_append_of_words rest words]
  | false =>
      have gap : ∀ char ∈ first :: others, isWord char = false :=
        fun char member => (alike char member).trans inside
      have mixed : ¬ (first :: others).all isWord = true := by
        simp [inside]
      rw [if_neg mixed]
      apply underscored_append_of_gap solid gap
      intro char isNext
      have differs := ends char isNext
      rw [gap _ (List.getLast_mem solid)] at differs
      simpa using differs

theorem underscored_flatten {parts : List (List Char)} (solid : [] ∉ parts)
    (chained : ∀ run ∈ parts, run.IsChain fun char next => (isWord char == isWord next) = true)
    (apart : parts.IsChain fun run next => ∃ some someNext,
      (isWord (run.getLast some) == isWord (next.head someNext)) = false) :
    underscored parts.flatten =
      parts.flatMap fun run => if run.all isWord then run else ['_'] := by
  induction parts with
  | nil =>
      rfl
  | cons run others ih =>
      rw [List.mem_cons, not_or] at solid
      rw [List.forall_mem_cons] at chained
      rw [List.flatten_cons, List.flatMap_cons, ← ih solid.2 chained.2 apart.tail]
      apply underscored_append_of_run (Ne.symm solid.1) chained.1
      intro char isNext
      cases others with
      | nil =>
          cases isNext
      | cons next more =>
          rcases (List.isChain_cons_cons.mp apart).1 with ⟨some, someNext, differ⟩
          rw [List.flatten_cons, List.head?_append_of_ne_nil _ someNext,
            List.head?_eq_some_head someNext] at isNext
          rwa [Option.some.inj isNext] at differ

/-- Runs of characters outside of words become one underscore each. -/
theorem underscored_eq_bridged (text : List Char) : underscored text = bridged text := by
  have apart := List.isChain_getLast_head_splitBy
    (fun char next => isWord char == isWord next) text
  have cut := underscored_flatten (List.nil_notMem_splitBy _ text)
    (fun run => List.isChain_of_mem_splitBy) apart
  rwa [List.flatten_splitBy] at cut

/-! ## Underscores at the ends -/

/-- A text is another one without the underscores at its ends. -/
structure Bared (text middle : List Char) : Prop where
  whole : ∃ front back, text = List.replicate front '_' ++ middle ++ List.replicate back '_'
  begins : middle.head? ≠ some '_'
  ends : middle.getLast? ≠ some '_'

theorem exists_replicate_append_dropWhile (text : List Char) :
    ∃ count, text = List.replicate count '_' ++ text.dropWhile (· == '_') := by
  have same : ∀ char ∈ text.takeWhile (· == '_'), char = '_' := by
    intro char member
    exact beq_iff_eq.mp (List.all_eq_true.mp List.all_takeWhile char member)
  refine ⟨(text.takeWhile (· == '_')).length, ?_⟩
  rw [← List.eq_replicate_of_mem same, List.takeWhile_append_dropWhile]

theorem head?_dropWhile_ne (text : List Char) :
    (text.dropWhile (· == '_')).head? ≠ some '_' := by
  intro isFirst
  have stops := List.head?_dropWhile_not (· == '_') text
  rw [isFirst] at stops
  cases stops

theorem bared_trimUnderscores (text : List Char) : Bared text (trimUnderscores text) := by
  rcases exists_replicate_append_dropWhile text with ⟨front, cutFront⟩
  rcases exists_replicate_append_dropWhile (text.dropWhile (· == '_')).reverse with ⟨back, cutBack⟩
  have inner : text.dropWhile (· == '_') = trimUnderscores text ++ List.replicate back '_' := by
    rw [← List.reverse_reverse (text.dropWhile (· == '_')), cutBack, List.reverse_append,
      List.reverse_replicate]
    rfl
  refine ⟨⟨front, back, ?_⟩, ?_, ?_⟩
  · rw [List.append_assoc, ← inner]
    exact cutFront
  · intro isFirst
    apply head?_dropWhile_ne text
    rw [inner, List.head?_append, isFirst]
    rfl
  · rw [trimUnderscores, List.getLast?_reverse]
    exact head?_dropWhile_ne _

/-! ## Small letters -/

theorem underscored_map_lowerCaseChar (text : List Char) :
    underscored (text.map lowerCaseChar) = (underscored text).map lowerCaseChar := by
  fun_induction underscored text with
  | case1 =>
      rfl
  | case2 char rest word ih =>
      rw [List.map_cons, underscored_of_word _ (by simpa using word), ih, List.map_cons]
  | case3 char outside =>
      simp [underscored, outside]
  | case4 char outside next rest word ih =>
      have bridge : ('_' :: underscored (next :: rest)).map lowerCaseChar =
          '_' :: (underscored (next :: rest)).map lowerCaseChar := by
        rw [List.map_cons, Text.lowerCaseChar_underscore]
      rw [bridge, ← ih]
      exact underscored_of_gap_end _ (by simpa using outside) (by simpa using word)
  | case5 char outside next rest outsideNext ih =>
      rw [← ih]
      exact underscored_of_gap _ (by simpa using outside) (by simpa using outsideNext)

theorem trimUnderscores_map_lowerCaseChar (text : List Char) :
    trimUnderscores (text.map lowerCaseChar) = (trimUnderscores text).map lowerCaseChar := by
  have same : (· == '_') ∘ lowerCaseChar = (· == '_') :=
    funext Text.lowerCaseChar_beq_underscore
  rw [trimUnderscores, trimUnderscores, List.dropWhile_map, same, ← List.map_reverse,
    List.dropWhile_map, same, List.map_reverse]

theorem mem_of_mem_underscored {text : List Char} {char : Char}
    (member : char ∈ underscored text) (other : char ≠ '_') : char ∈ text := by
  fun_induction underscored text with
  | case1 =>
      exact member
  | case2 first rest word ih =>
      rcases List.mem_cons.mp member with rfl | later
      · exact List.mem_cons_self
      · exact List.mem_cons_of_mem first (ih later)
  | case3 first outside =>
      exact absurd (List.mem_singleton.mp member) other
  | case4 first outside next rest word ih =>
      rcases List.mem_cons.mp member with isBridge | later
      · exact absurd isBridge other
      · exact List.mem_cons_of_mem first (ih later)
  | case5 first outside next rest outsideNext ih =>
      exact List.mem_cons_of_mem first (ih member)

/-- Apart from two letters, the part of a label comes out the same if it is made small first. -/
theorem bared_lowerCase {label : String} (undotted : 'İ' ∉ label.toList)
    (unsigned : 'Σ' ∉ label.toList) :
    Bared (bridged (Text.lowerCase label).toList) (namePart label).toList := by
  have kept {char : Char} (absent : char ∉ label.toList) (other : char ≠ '_') :
      char ∉ trimUnderscores (underscored label.toList) :=
    fun member => absent (mem_of_mem_underscored (mem_of_mem_trimUnderscores member) other)
  have part : (namePart label).toList =
      trimUnderscores (underscored (Text.lowerCase label).toList) := by
    rw [namePart, Text.lowerCase, Text.lowerCase, String.toList_ofList, String.toList_ofList,
      String.toList_ofList, Text.lowerCaseAfter_eq_map undotted unsigned,
      Text.lowerCaseAfter_eq_map (kept undotted (by decide)) (kept unsigned (by decide)),
      underscored_map_lowerCaseChar, trimUnderscores_map_lowerCaseChar]
  rw [part, ← underscored_eq_bridged]
  exact bared_trimUnderscores _

/-! ## Identifiers -/

/-- Whether a character can stand in an identifier, behind the first one. -/
def continues (char : Char) : Bool :=
  Text.identifierContinueRanges.contains char

theorem continues_underscored_iff {text : List Char} :
    (∀ char ∈ underscored text, continues char = true) ↔
      ∀ char ∈ text, isWord char = true → continues char = true := by
  have bridge : continues '_' = true := by
    decide +kernel
  fun_induction underscored text with
  | case1 =>
      simp
  | case2 char rest word ih =>
      rw [List.forall_mem_cons, List.forall_mem_cons]
      exact and_congr ⟨fun inside _ => inside, fun inside => inside word⟩ ih
  | case3 char outside =>
      simp [bridge, outside]
  | case4 char outside next rest word ih =>
      rw [List.forall_mem_cons, List.forall_mem_cons (a := char)]
      exact and_congr (iff_of_true bridge fun inside => absurd inside outside) ih
  | case5 char outside next rest outsideNext ih =>
      rw [List.forall_mem_cons (a := char)]
      exact ih.trans (and_iff_right fun inside => absurd inside outside).symm

theorem continues_trimUnderscores_iff {text : List Char} :
    (∀ char ∈ trimUnderscores text, continues char = true) ↔
      ∀ char ∈ text, continues char = true := by
  have bridge : continues '_' = true := by
    decide +kernel
  have ends (count : Nat) : ∀ char ∈ List.replicate count '_', continues char = true := by
    intro char member
    rw [List.eq_of_mem_replicate member]
    exact bridge
  rcases (bared_trimUnderscores text).whole with ⟨front, back, whole⟩
  conv_rhs => rw [whole]
  rw [List.forall_mem_append, List.forall_mem_append]
  exact ⟨fun inside => ⟨⟨ends front, inside⟩, ends back⟩, fun all => all.1.2⟩

theorem continues_namePart_iff {label : String} :
    (∀ char ∈ (namePart label).toList, continues char = true) ↔
      ∀ char ∈ label.toList, isWord char = true → continues char = true := by
  rw [namePart, Text.lowerCase, String.toList_ofList, String.toList_ofList]
  exact Text.continues_lowerCaseAfter_iff.trans
    (continues_trimUnderscores_iff.trans continues_underscored_iff)

theorem isIdentifier_nameOf_iff {words : String} :
    Text.isIdentifier (nameOf words) = true ↔ ∀ char ∈ words.toList, continues char = true := by
  have starts : Text.identifierStartRanges.contains 'r' = true := by
    decide +kernel
  have fixed : ['e', 'n', 'd', 'e', 'r'].all continues = true := by
    decide +kernel
  have bridge : continues '_' = true := by
    decide +kernel
  have spelled : (nameOf words).toList =
      'r' :: (['e', 'n', 'd', 'e', 'r'] ++ (if words = "" then "" else "_" ++ words).toList) := by
    rw [nameOf, String.toList_append]
    rfl
  rw [Text.isIdentifier, spelled]
  change (Text.identifierStartRanges.contains 'r' && List.all _ continues) = true ↔ _
  rw [starts, Bool.true_and, List.all_append, fixed, Bool.true_and, List.all_eq_true]
  split
  · rename_i empty
    rw [empty]
  · rw [String.toList_append, List.forall_mem_append]
    apply and_iff_right
    intro char member
    rw [List.mem_singleton.mp member]
    exact bridge

theorem continues_wordsOf_iff {part variant : String} (isVariant : variant ∈ variantNames) :
    (∀ char ∈ (wordsOf part variant).toList, continues char = true) ↔
      ∀ char ∈ part.toList, continues char = true := by
  have fixed : ∀ text ∈ "_" :: variantNames, text.toList.all continues = true := by
    decide +kernel
  have bridge := List.all_eq_true.mp (fixed "_" List.mem_cons_self)
  have varied := List.all_eq_true.mp (fixed variant (List.mem_cons_of_mem "_" isVariant))
  unfold wordsOf
  split
  · exact Iff.rfl
  · split
    · rename_i empty
      rw [empty]
      exact iff_of_true varied (by simp)
    · rw [String.toList_append, String.toList_append, List.forall_mem_append,
        List.forall_mem_append]
      exact ⟨fun all => all.1.1, fun inside => ⟨⟨inside, bridge⟩, varied⟩⟩

/--
The name of a function has the part of its label between `render` and the variant.
The part is the label with an underscore for each run outside of words, none at the
ends, in small letters; without the two letters that are special, it makes no
difference whether letters are made small first.  The name is an identifier exactly
if all word characters of the label can stand in one.
-/
theorem form_of_functionName {variant : String} (isVariant : variant ∈ variantNames)
    (label : Option String) :
    "render".toList <+: (functionName variant label).toList ∧
      (∃ part : List Char,
        Bared (bridged (label.getD "").toList) part ∧
          functionName variant label =
            nameOf (wordsOf (Text.lowerCase (String.ofList part)) variant) ∧
          ('İ' ∉ (label.getD "").toList → 'Σ' ∉ (label.getD "").toList →
            Bared (bridged (Text.lowerCase (label.getD "")).toList)
              (Text.lowerCase (String.ofList part)).toList)) ∧
      (Text.isIdentifier (functionName variant label) = true ↔
        ∀ char ∈ (label.getD "").toList, isWord char = true → continues char = true) := by
  have solid : variant ≠ "" := by
    have each : ∀ variant ∈ variantNames, variant ≠ "" := by
      decide
    exact each variant isVariant
  have named : functionName variant label =
      nameOf (wordsOf (namePart (label.getD "")) variant) := by
    cases label with
    | none =>
        exact functionName_some "" solid
    | some label =>
        exact functionName_some label solid
  refine ⟨?_, ⟨trimUnderscores (underscored (label.getD "").toList), ?_, named, ?_⟩, ?_⟩
  · rw [named, nameOf, String.toList_append]
    exact List.prefix_append _ _
  · rw [← underscored_eq_bridged]
    exact bared_trimUnderscores _
  · exact bared_lowerCase
  · rw [named, isIdentifier_nameOf_iff, continues_wordsOf_iff isVariant, continues_namePart_iff]

/-- A label with words, gaps between them and underscores at its ends. -/
def ragged : String :=
  "__My--Läyout.2 "

theorem form_of_functionName_ragged :
    "footer" ∈ variantNames ∧
      functionName "footer" (some ragged) = "render_my_läyout_2_footer" ∧
      bridged ragged.toList = "__My_Läyout_2_".toList ∧
      (∃ part : List Char, Bared (bridged ragged.toList) part) ∧
      Text.isIdentifier (functionName "footer" (some ragged)) = true := by
  have isVariant : "footer" ∈ variantNames := by
    decide
  rcases form_of_functionName isVariant (some ragged) with
    ⟨-, ⟨part, bared, -, -⟩, isIdentifier⟩
  refine ⟨isVariant, by decide +kernel, by decide +kernel, ⟨part, bared⟩, isIdentifier.mpr ?_⟩
  have usable : ragged.toList.all (fun char => !isWord char || continues char) = true := by
    decide +kernel
  intro char member word
  simpa [word] using List.all_eq_true.mp usable char member

/-- A raised two is part of a word, but not of an identifier. -/
theorem unidentified_name_of_square :
    functionName "full" (some "x²") = "render_x²" ∧
      Text.isIdentifier (functionName "full" (some "x²")) = false := by
  decide +kernel

end TypedMustache.RenderModule
