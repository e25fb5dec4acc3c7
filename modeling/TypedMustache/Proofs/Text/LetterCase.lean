import TypedMustache.Text.Identifier
import TypedMustache.Text.LetterCase
import TypedMustache.Text.Word

/-!
# Lower case and classes of characters

A letter and its small letter belong to the same classes: both can stand in a
word or none of them, and the same holds for identifiers and for the underscore.
The tables of letters and of classes come from different parts of the standard,
so this is a fact about their numbers.  It is decided letter by letter, with each
class written as one large number that has a bit for every code point.

Two letters have no small letter of their own: the capital I with a dot, and the
capital sigma, which depends on where it stands.  Without these, the lower case of
a text is that of its letters one by one.
-/

namespace TypedMustache.Text

/-! ## Classes as numbers -/

namespace Ranges

/-- The number with a one at the places of a class. -/
def bits (ranges : Ranges) : Nat :=
  ranges.foldr (fun range others => (1 <<< (range.2 + 1 - range.1) - 1) <<< range.1 ||| others) 0

theorem testBit_bits (ranges : Ranges) (code : Nat) :
    ranges.bits.testBit code = ranges.any fun range => range.1 ≤ code && code ≤ range.2 := by
  induction ranges with
  | nil =>
      exact Nat.zero_testBit code
  | cons range others ih =>
      have here : ((1 <<< (range.2 + 1 - range.1) - 1) <<< range.1).testBit code =
          (decide (range.1 ≤ code) && decide (code ≤ range.2)) := by
        rw [Nat.testBit_shiftLeft, Nat.one_shiftLeft, Nat.testBit_two_pow_sub_one]
        by_cases low : range.1 ≤ code
        · simp only [ge_iff_le, low, decide_true, Bool.true_and, decide_eq_decide]
          omega
        · simp [low]
      rw [bits, List.foldr_cons, Nat.testBit_or, here, List.any_cons, ← ih]
      rfl

theorem contains_eq_testBit (ranges : Ranges) (char : Char) :
    ranges.contains char = ranges.bits.testBit char.toNat :=
  (ranges.testBit_bits char.toNat).symm

end Ranges

/-! ## Letters and their small letters -/

namespace CaseRun

/-- The code points of a run. -/
def codes (run : CaseRun) : List Nat :=
  (List.range ((run.last - run.first) / run.step + 1)).map fun count =>
    run.first + run.step * count

theorem mem_codes {run : CaseRun} {code : Nat} (held : run.holds code = true) :
    code ∈ run.codes := by
  simp only [holds, Bool.and_eq_true, decide_eq_true_eq, beq_iff_eq] at held
  rcases held with ⟨⟨low, high⟩, stepped⟩
  refine List.mem_map.mpr ⟨(code - run.first) / run.step, List.mem_range.mpr ?_, ?_⟩
  · exact Nat.lt_succ_of_le (Nat.div_le_div_right (Nat.sub_le_sub_right high run.first))
  · have whole := Nat.div_add_mod (code - run.first) run.step
    omega

/-- The number of the small letter for a letter of a run. -/
def small (run : CaseRun) (code : Nat) : Nat :=
  (code + run.shift).toNat

/-- Whether the letters of a run are in a class exactly if their small letters are. -/
def keepsClass (run : CaseRun) (bits : Nat) : Bool :=
  run.codes.all fun code => bits.testBit (run.small code) == bits.testBit code

end CaseRun

theorem isValidChar_small {run : CaseRun} {code : Nat} (isRun : run ∈ lowerCaseRuns)
    (held : run.holds code = true) : (run.small code).isValidChar := by
  have sound : lowerCaseRuns.all (fun run =>
      decide (run.small run.last < 0xD800) || decide (0xDFFF < run.small run.first) &&
        decide (run.small run.last < 0x110000)) = true := by
    decide +kernel
  have bounds := List.all_eq_true.mp sound run isRun
  simp only [CaseRun.holds, Bool.and_eq_true, decide_eq_true_eq] at held
  simp only [Bool.or_eq_true, Bool.and_eq_true, decide_eq_true_eq] at bounds
  simp only [CaseRun.small] at bounds ⊢
  rw [Nat.isValidChar]
  omega

theorem toNat_ofNat_of_isValidChar {code : Nat} (valid : code.isValidChar) :
    (Char.ofNat code).toNat = code := by
  rw [Char.ofNat, dif_pos valid]
  rfl

/-- A character is in a class exactly if its small letter is. -/
theorem contains_lowerCaseChar {ranges : Ranges}
    (kept : lowerCaseRuns.all (·.keepsClass ranges.bits) = true) (char : Char) :
    ranges.contains (lowerCaseChar char) = ranges.contains char := by
  unfold lowerCaseChar
  split
  · rename_i run found
    have isRun := List.mem_of_find?_eq_some found
    have held : run.holds char.toNat = true := by
      simpa using List.find?_some found
    have same := List.all_eq_true.mp (List.all_eq_true.mp kept run isRun) _ (CaseRun.mem_codes held)
    have shifted := toNat_ofNat_of_isValidChar (isValidChar_small isRun held)
    rw [Ranges.contains_eq_testBit, Ranges.contains_eq_testBit, ← beq_iff_eq.mp same, ← shifted]
    rfl
  · rfl

@[simp]
theorem isWord_lowerCaseChar (char : Char) : isWord (lowerCaseChar char) = isWord char :=
  @contains_lowerCaseChar wordRanges (by decide +kernel) char

@[simp]
theorem continues_lowerCaseChar (char : Char) :
    identifierContinueRanges.contains (lowerCaseChar char) =
      identifierContinueRanges.contains char :=
  contains_lowerCaseChar (by decide +kernel) char

@[simp]
theorem lowerCaseChar_beq_underscore (char : Char) :
    (lowerCaseChar char == '_') = (char == '_') := by
  have alone (other : Char) : Ranges.contains [(95, 95)] other = (other == '_') := by
    rw [Bool.eq_iff_iff, Ranges.contains_iff, beq_iff_eq, ← Char.toNat_inj]
    have number : '_'.toNat = 95 := rfl
    simp only [List.mem_singleton, exists_eq_left, number]
    omega
  rw [← alone, ← alone]
  exact contains_lowerCaseChar (by decide +kernel) char

@[simp]
theorem lowerCaseChar_underscore : lowerCaseChar '_' = '_' := by
  decide +kernel

/-! ## Lower case of texts -/

/-- The lower case of a text can stand in an identifier exactly if the text can. -/
theorem continues_lowerCaseAfter_iff {before text : List Char} :
    (∀ char ∈ lowerCaseAfter before text, identifierContinueRanges.contains char = true) ↔
      ∀ char ∈ text, identifierContinueRanges.contains char = true := by
  have all : ['İ', 'i', Char.ofNat 0x307, 'Σ', 'σ', 'ς'].all identifierContinueRanges.contains =
      true := by
    decide +kernel
  have special := List.all_eq_true.mp all
  induction text generalizing before with
  | nil =>
      exact Iff.rfl
  | cons char rest ih =>
      simp only [lowerCaseAfter, List.forall_mem_append, List.forall_mem_cons, ih]
      apply and_congr_left'
      split
      · rename_i dotted
        rw [beq_iff_eq.mp dotted]
        exact iff_of_true (by simpa using ⟨special 'i' (by simp), special _ (by simp)⟩)
          (special 'İ' (by simp))
      · split
        · rename_i sigma
          rw [beq_iff_eq.mp sigma]
          refine iff_of_true ?_ (special 'Σ' (by simp))
          split <;> simpa using special _ (by simp)
        · simp

/-- Without the two special letters, a text is made small letter by letter. -/
theorem lowerCaseAfter_eq_map {before text : List Char} (undotted : 'İ' ∉ text)
    (unsigned : 'Σ' ∉ text) : lowerCaseAfter before text = text.map lowerCaseChar := by
  induction text generalizing before with
  | nil =>
      rfl
  | cons char rest ih =>
      rw [List.mem_cons, not_or] at undotted unsigned
      have noDot : (char == 'İ') = false := beq_eq_false_iff_ne.mpr (Ne.symm undotted.1)
      have noSigma : (char == 'Σ') = false := beq_eq_false_iff_ne.mpr (Ne.symm unsigned.1)
      rw [lowerCaseAfter, noDot, noSigma, ih undotted.2 unsigned.2]
      rfl

end TypedMustache.Text
