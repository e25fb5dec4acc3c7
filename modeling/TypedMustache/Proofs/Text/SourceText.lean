import Mathlib.Data.List.Infix
import TypedMustache.Proofs.Text.StatementLine
import TypedMustache.Text.Split

/-!
# Lines and quoted texts of a source

A source is read line by line, where a line feed, a carriage return or both end a
line, and it must not have a null character in it.

A text in three quotes on either side ends at the first three quotes behind it that
no backslash belongs to.  A backslash and the mark behind it are read together: some
of these pairs stand for something else, alone or with digits or a name behind them,
and all others for themselves.  `quotedValue?` reads a text in this way.  What it
gives are code points, since an escape can stand for one that is no character.

The main results say which texts are read as they are: `sourceLines?_eq_singleton_iff`
and `quotedValue?_eq_map_iff`.
-/

namespace TypedMustache.Text

/-! ## Lines -/

/-- The lines of a source; there are none if it cannot be read. -/
def sourceLines? (text : List Char) : Option (List (List Char)) :=
  if '\x00' ∈ text then none else some (splitOn '\n' (unifyNewlines text))

/-- A text without a character that ends a line or cannot be read. -/
def IsUnbroken (text : List Char) : Prop :=
  ∀ char ∈ ['\x00', '\n', '\r'], char ∉ text

instance (text : List Char) : Decidable (IsUnbroken text) :=
  List.decidableBAll (fun char => char ∉ text) ['\x00', '\n', '\r']

theorem unifyNewlines_of_not_mem {text : List Char} (unreturned : '\r' ∉ text) :
    unifyNewlines text = text := by
  fun_induction unifyNewlines text with
  | case1 =>
      rfl
  | case2 rest ih =>
      simp at unreturned
  | case3 rest other ih =>
      simp at unreturned
  | case4 char rest notPair notReturn ih =>
      rw [ih (fun member => unreturned (List.mem_cons_of_mem char member))]

theorem not_mem_unifyNewlines (text : List Char) : '\r' ∉ unifyNewlines text := by
  fun_induction unifyNewlines text with
  | case1 =>
      exact List.not_mem_nil
  | case2 rest ih =>
      simpa using ih
  | case3 rest other ih =>
      simpa using ih
  | case4 char rest notPair notReturn ih =>
      rw [List.mem_cons, not_or]
      exact ⟨fun same => notReturn same.symm, ih⟩

theorem eq_of_splitOn_eq_singleton {separator : Char} {text line : List Char}
    (single : splitOn separator text = [line]) : text = line ∧ separator ∉ text := by
  induction text generalizing line with
  | nil =>
      cases single
      exact ⟨rfl, List.not_mem_nil⟩
  | cons char rest ih =>
      rw [splitOn] at single
      split at single
      · exact absurd (List.cons.inj single).2 (splitOn_ne_nil separator rest)
      · rename_i other
        cases parts : splitOn separator rest with
        | nil =>
            exact absurd parts (splitOn_ne_nil separator rest)
        | cons part others =>
            simp only [parts, List.cons.injEq] at single
            rcases single with ⟨rfl, rfl⟩
            rcases ih parts with ⟨rfl, absent⟩
            refine ⟨rfl, ?_⟩
            rw [List.mem_cons, not_or]
            exact ⟨fun same => other (by simp [same]), absent⟩

theorem isUnbroken_append_iff {front back : List Char} :
    IsUnbroken (front ++ back) ↔ IsUnbroken front ∧ IsUnbroken back := by
  simp only [IsUnbroken, List.mem_append, not_or, forall_and]

/-- A text is one line of a source if nothing in it breaks the line. -/
theorem sourceLines?_eq_singleton_iff {text : List Char} :
    sourceLines? text = some [text] ↔ IsUnbroken text := by
  have parts : IsUnbroken text ↔ '\x00' ∉ text ∧ '\n' ∉ text ∧ '\r' ∉ text := by
    simp [IsUnbroken]
  rw [sourceLines?, parts]
  constructor
  · intro single
    split at single
    · cases single
    · rename_i readable
      rcases eq_of_splitOn_eq_singleton (Option.some.inj single) with ⟨unified, unfed⟩
      rw [unified] at unfed
      refine ⟨readable, unfed, ?_⟩
      rw [← unified]
      exact not_mem_unifyNewlines text
  · rintro ⟨readable, unfed, unreturned⟩
    rw [if_neg readable, unifyNewlines_of_not_mem unreturned, splitOn_of_not_mem unfed]

/-! ## Escapes -/

/-- The marks that stand for something else behind a backslash, and what they stand for. -/
def shortEscapes : List (Char × List Nat) :=
  [('\n', []), ('\\', [92]), ('\'', [39]), ('"', [34]), ('a', [7]), ('b', [8]), ('t', [9]),
    ('n', [10]), ('v', [11]), ('f', [12]), ('r', [13])]

/-- The marks that need digits or a name behind them. -/
def longMarks : List Char :=
  ['0', '1', '2', '3', '4', '5', '6', '7', 'x', 'u', 'U', 'N']

/-- All marks that are not left alone behind a backslash. -/
def escapeMarks : List Char :=
  shortEscapes.map (·.1) ++ longMarks

/-- The number that as many hexadecimal digits spell, and what follows them. -/
def hexNumber? : (count value : Nat) → List Char → Option (Nat × List Char)
  | 0, value, rest => some (value, rest)
  | _ + 1, _, [] => none
  | count + 1, value, digit :: rest =>
      (hexValue? digit).bind fun number => hexNumber? count (16 * value + number) rest

/-- The number that at most as many octal digits spell, and what follows them. -/
def octalNumber : (count value : Nat) → List Char → Nat × List Char
  | 0, value, rest => (value, rest)
  | _ + 1, value, [] => (value, [])
  | count + 1, value, digit :: rest =>
      if '0' ≤ digit ∧ digit ≤ '7' then
        octalNumber count (8 * value + (digit.toNat - '0'.toNat)) rest
      else (value, digit :: rest)

/-- The number that a name in braces stands for, and what follows it. -/
def namedNumber? (named : List Char → Option Nat) : List Char → Option (Nat × List Char)
  | '\x7b' :: rest => (cut ['\x7d'] rest).bind fun (name, after) => (named name).map (·, after)
  | _ => none

/-- The number that a mark stands for with the digits or the name behind it. -/
def longEscape? (named : List Char → Option Nat) (mark : Char) (rest : List Char) :
    Option (Nat × List Char) :=
  match mark with
  | 'x' => hexNumber? 2 0 rest
  | 'u' => hexNumber? 4 0 rest
  | 'U' => (hexNumber? 8 0 rest).filter (·.1 ≤ 0x10FFFF)
  | 'N' => namedNumber? named rest
  | _ => some (octalNumber 2 (mark.toNat - '0'.toNat) rest)

/-- What a mark behind a backslash stands for, with what it needs of the text behind it. -/
def escape? (named : List Char → Option Nat) (mark : Char) (rest : List Char) :
    Option (List Nat × List Char) :=
  match shortEscapes.lookup mark with
  | some denoted => some (denoted, rest)
  | none =>
    if mark ∈ longMarks then
      (longEscape? named mark rest).map fun (number, after) => ([number], after)
    else some (['\\'.toNat, mark.toNat], rest)

theorem length_of_hexNumber? {count value number : Nat} {text after : List Char}
    (spelled : hexNumber? count value text = some (number, after)) :
    after.length ≤ text.length := by
  induction count generalizing value text with
  | zero =>
      cases spelled
      exact Nat.le_refl _
  | succ count ih =>
      cases text with
      | nil =>
          cases spelled
      | cons digit rest =>
          rcases Option.bind_eq_some_iff.mp spelled with ⟨one, -, later⟩
          exact Nat.le_succ_of_le (ih later)

theorem length_octalNumber (count value : Nat) (text : List Char) :
    (octalNumber count value text).2.length ≤ text.length := by
  induction count generalizing value text with
  | zero =>
      exact Nat.le_refl _
  | succ count ih =>
      cases text with
      | nil =>
          exact Nat.le_refl _
      | cons digit rest =>
          rw [octalNumber]
          split
          · exact Nat.le_succ_of_le (ih _ rest)
          · exact Nat.le_refl _

theorem length_of_namedNumber? {named : List Char → Option Nat} {number : Nat}
    {text after : List Char} (spelled : namedNumber? named text = some (number, after)) :
    after.length ≤ text.length := by
  unfold namedNumber? at spelled
  split at spelled
  · rename_i rest
    rcases Option.bind_eq_some_iff.mp spelled with ⟨⟨name, behind⟩, found, denoted⟩
    rcases Option.map_eq_some_iff.mp denoted with ⟨number, -, same⟩
    cases same
    have whole := congrArg List.length (append_of_cut found)
    simp only [List.length_append, List.length_cons] at whole ⊢
    omega
  · cases spelled

theorem length_of_longEscape? {named : List Char → Option Nat} {mark : Char}
    {rest after : List Char} {number : Nat}
    (read : longEscape? named mark rest = some (number, after)) : after.length ≤ rest.length := by
  unfold longEscape? at read
  split at read
  · exact length_of_hexNumber? read
  · exact length_of_hexNumber? read
  · exact length_of_hexNumber? (Option.filter_eq_some_iff.mp read).1
  · exact length_of_namedNumber? read
  · have shorter := length_octalNumber 2 (mark.toNat - '0'.toNat) rest
    rwa [Option.some.inj read] at shorter

/-- A mark that is an escape stands for one code point or for none. -/
theorem length_of_escape? {named : List Char → Option Nat} {mark : Char}
    {rest after : List Char} {denoted : List Nat} (isMark : mark ∈ escapeMarks)
    (read : escape? named mark rest = some (denoted, after)) :
    denoted.length ≤ 1 ∧ after.length ≤ rest.length := by
  have short : ∀ entry ∈ shortEscapes, entry.2.length ≤ 1 := by
    decide
  unfold escape? at read
  split at read
  · rename_i found listed
    cases read
    rcases List.lookup_eq_some_iff.mp listed with ⟨front, back, table, -⟩
    refine ⟨short (mark, denoted) ?_, Nat.le_refl _⟩
    rw [table]
    exact List.mem_append_right front List.mem_cons_self
  · rename_i unlisted
    split at read
    · rcases Option.map_eq_some_iff.mp read with ⟨⟨number, behind⟩, long, same⟩
      cases same
      exact ⟨Nat.le_refl _, length_of_longEscape? long⟩
    · rename_i notLong
      have isShort : mark ∈ shortEscapes.map (·.1) :=
        (List.mem_append.mp isMark).resolve_right notLong
      rcases List.mem_map.mp isShort with ⟨entry, member, rfl⟩
      have differs := List.lookup_eq_none_iff.mp unlisted entry member
      simp at differs

theorem escape?_of_not_mem {mark : Char} (named : List Char → Option Nat) (rest : List Char)
    (unmarked : mark ∉ escapeMarks) :
    escape? named mark rest = some (['\\'.toNat, mark.toNat], rest) := by
  rw [escapeMarks, List.mem_append, not_or] at unmarked
  have unlisted : shortEscapes.lookup mark = none := by
    rw [List.lookup_eq_none_iff]
    intro entry member
    rw [bne_iff_ne]
    rintro rfl
    exact unmarked.1 (List.mem_map_of_mem member)
  rw [escape?, unlisted]
  exact if_neg unmarked.2

/-! ## Texts with escapes -/

theorem length_of_escape?_le {named : List Char → Option Nat} {mark : Char}
    {rest after : List Char} {denoted : List Nat}
    (read : escape? named mark rest = some (denoted, after)) : after.length ≤ rest.length := by
  by_cases isMark : mark ∈ escapeMarks
  · exact (length_of_escape? isMark read).2
  · rw [escape?_of_not_mem named rest isMark] at read
    cases read
    exact Nat.le_refl _

/-- The code points that a text with escapes in it stands for. -/
def decode? (named : List Char → Option Nat) : List Char → Option (List Nat)
  | [] => some []
  | ['\\'] => none
  | '\\' :: mark :: rest =>
    match read : escape? named mark rest with
    | none => none
    | some (denoted, after) =>
      have : after.length < rest.length + 2 := by
        have := length_of_escape?_le read
        omega
      (decode? named after).map (denoted ++ ·)
  | char :: rest => (decode? named rest).map (char.toNat :: ·)
termination_by text => text.length

/-- A text in which no backslash stands before a mark that means something behind it. -/
def Unescaped (text : List Char) : Prop :=
  ∀ mark ∈ escapeMarks, ¬ ['\\', mark] <:+: text

instance (text : List Char) : Decidable (Unescaped text) :=
  List.decidableBAll (fun mark => ¬ ['\\', mark] <:+: text) escapeMarks

theorem unescaped_nil : Unescaped [] := by
  intro mark _ within
  exact absurd (List.infix_nil.mp within) (List.cons_ne_nil _ _)

theorem Unescaped.of_cons {char : Char} {rest : List Char} (unescaped : Unescaped (char :: rest)) :
    Unescaped rest :=
  fun mark isMark within => unescaped mark isMark (List.infix_cons within)

theorem Unescaped.cons {char : Char} {rest : List Char} (unescaped : Unescaped rest)
    (plain : char ≠ '\\') : Unescaped (char :: rest) := by
  intro mark isMark within
  rcases List.infix_cons_iff.mp within with here | later
  · exact plain (List.cons_prefix_cons.mp here).1.symm
  · exact unescaped mark isMark later

theorem Unescaped.cons_backslash {mark : Char} {rest : List Char} (unescaped : Unescaped rest)
    (unmarked : mark ∉ escapeMarks) : Unescaped ('\\' :: mark :: rest) := by
  have plain : mark ≠ '\\' := by
    rintro rfl
    exact unmarked (by decide)
  intro other isMark within
  rcases List.infix_cons_iff.mp within with here | later
  · rw [List.cons_prefix_cons, List.cons_prefix_cons] at here
    exact unmarked (here.2.1 ▸ isMark)
  · exact unescaped.cons plain other isMark later

/-- Escapes only make a text shorter, so a text that keeps its length has none. -/
theorem length_of_decode? {named : List Char → Option Nat} {text : List Char} {value : List Nat}
    (decoded : decode? named text = some value) :
    value.length ≤ text.length ∧ (value.length = text.length → Unescaped text) := by
  fun_induction decode? named text generalizing value with
  | case1 =>
      cases decoded
      exact ⟨Nat.le_refl _, fun _ => unescaped_nil⟩
  | case2 =>
      cases decoded
  | case3 mark rest read =>
      cases decoded
  | case4 mark rest denoted after read shorter ih =>
      rcases Option.map_eq_some_iff.mp decoded with ⟨later, decodedLater, rfl⟩
      rcases ih decodedLater with ⟨bound, tight⟩
      simp only [List.length_append, List.length_cons]
      -- A backslash in front of any other character stands for itself.
      by_cases isMark : mark ∈ escapeMarks
      · have := length_of_escape? isMark read
        constructor
        · omega
        · intro same
          omega
      · rw [escape?_of_not_mem named rest isMark] at read
        cases read
        simp only [List.length_cons, List.length_nil]
        constructor
        · omega
        · intro same
          exact (tight (by omega)).cons_backslash isMark
  | case5 char rest plain paired ih =>
      rcases Option.map_eq_some_iff.mp decoded with ⟨later, decodedLater, rfl⟩
      rcases ih decodedLater with ⟨bound, tight⟩
      simp only [List.length_cons]
      constructor
      · omega
      · intro same
        apply (tight (by omega)).cons
        rintro rfl
        cases rest with
        | nil =>
            exact plain rfl rfl
        | cons mark others =>
            exact paired mark others rfl rfl

theorem Unescaped.not_mem {mark : Char} {rest : List Char}
    (unescaped : Unescaped ('\\' :: mark :: rest)) : mark ∉ escapeMarks :=
  fun isMark => unescaped mark isMark ⟨[], rest, rfl⟩

/-- A text without escapes stands for itself. -/
theorem decode?_of_unescaped (named : List Char → Option Nat) {text : List Char}
    (unescaped : Unescaped text) (ends : text.getLast? ≠ some '\\') :
    decode? named text = some (text.map Char.toNat) := by
  fun_induction decode? named text with
  | case1 =>
      rfl
  | case2 =>
      exact absurd rfl ends
  | case3 mark rest read =>
      rw [escape?_of_not_mem named rest unescaped.not_mem] at read
      cases read
  | case4 mark rest denoted after read shorter ih =>
      rw [escape?_of_not_mem named rest unescaped.not_mem] at read
      cases read
      rw [ih unescaped.of_cons.of_cons ?_]
      · rfl
      · intro last
        apply ends
        rw [List.getLast?_cons, List.getLast?_cons, last]
        rfl
  | case5 char rest plain paired ih =>
      rw [ih unescaped.of_cons ?_]
      · rfl
      · intro last
        apply ends
        rw [List.getLast?_cons, last]
        rfl

/-! ## Texts in quotes -/

/-- What stands up to three quotes that no backslash belongs to, and what follows them. -/
def untilQuotes? : List Char → Option (List Char × List Char)
  | '"' :: '"' :: '"' :: rest => some ([], rest)
  | '\\' :: mark :: rest =>
      (untilQuotes? rest).map fun (body, after) => ('\\' :: mark :: body, after)
  | char :: rest => (untilQuotes? rest).map fun (body, after) => (char :: body, after)
  | [] => none

/-- The code points of a text that is in quotes as a whole. -/
def quotedValue? (named : List Char → Option Nat) (text : List Char) : Option (List Nat) :=
  match text with
  | '"' :: '"' :: '"' :: inside =>
    match untilQuotes? inside with
    | some (body, []) => decode? named body
    | _ => none
  | _ => none

theorem append_of_untilQuotes? {text body after : List Char}
    (found : untilQuotes? text = some (body, after)) : text = body ++ ['"', '"', '"'] ++ after := by
  fun_induction untilQuotes? text generalizing body with
  | case1 rest =>
      cases found
      rfl
  | case2 mark rest ih =>
      rcases Option.map_eq_some_iff.mp found with ⟨⟨later, behind⟩, foundLater, same⟩
      cases same
      rw [ih foundLater]
      rfl
  | case3 char rest notQuotes notPair ih =>
      rcases Option.map_eq_some_iff.mp found with ⟨⟨later, behind⟩, foundLater, same⟩
      cases same
      rw [ih foundLater]
      rfl
  | case4 =>
      cases found

/-- Without escapes, a text ends at the first quotes. -/
theorem unquoted_of_untilQuotes? {text body after : List Char}
    (found : untilQuotes? text = some (body, after)) (unescaped : Unescaped body) :
    ¬ ['"', '"', '"'] <:+: body := by
  fun_induction untilQuotes? text generalizing body with
  | case1 rest =>
      cases found
      intro within
      exact absurd (List.infix_nil.mp within) (List.cons_ne_nil _ _)
  | case2 mark rest ih =>
      rcases Option.map_eq_some_iff.mp found with ⟨⟨later, behind⟩, foundLater, same⟩
      cases same
      intro within
      rcases List.infix_cons_iff.mp within with here | inside
      · exact absurd (List.cons_prefix_cons.mp here).1 (by decide)
      · rcases List.infix_cons_iff.mp inside with here | inLater
        · apply unescaped.not_mem
          rw [← (List.cons_prefix_cons.mp here).1]
          decide
        · exact ih foundLater unescaped.of_cons.of_cons inLater
  | case3 char rest notQuotes notPair ih =>
      rcases Option.map_eq_some_iff.mp found with ⟨⟨later, behind⟩, foundLater, same⟩
      cases same
      intro within
      rcases List.infix_cons_iff.mp within with ⟨more, here⟩ | inLater
      · cases here
        exact notQuotes _ rfl (append_of_untilQuotes? foundLater)
      · exact ih foundLater unescaped.of_cons inLater
  | case4 =>
      cases found

/-- The last character of a text that is none of those that mean something before quotes. -/
def EndsSolid (text : List Char) : Prop :=
  ∀ last, text.getLast? = some last → last ≠ '"' ∧ last ≠ '\\'

theorem EndsSolid.of_cons {char : Char} {rest : List Char} (ends : EndsSolid (char :: rest)) :
    EndsSolid rest := by
  intro last isLast
  apply ends
  rw [List.getLast?_cons, isLast]
  rfl

theorem untilQuotes?_of_unquoted {body : List Char} (after : List Char)
    (unescaped : Unescaped body) (unquoted : ¬ ['"', '"', '"'] <:+: body)
    (ends : EndsSolid body) :
    untilQuotes? (body ++ ['"', '"', '"'] ++ after) = some (body, after) := by
  induction body using untilQuotes?.induct with
  | case1 rest =>
      exact absurd ⟨[], rest, rfl⟩ unquoted
  | case2 mark rest ih =>
      have unquotedRest : ¬ ['"', '"', '"'] <:+: rest :=
        fun within => unquoted (List.infix_cons (List.infix_cons within))
      rw [List.cons_append, List.cons_append, List.cons_append, List.cons_append, untilQuotes?,
        ih unescaped.of_cons.of_cons unquotedRest ends.of_cons.of_cons]
      rfl
  | case3 char rest notQuotes notPair ih =>
      have unquotedRest : ¬ ['"', '"', '"'] <:+: rest :=
        fun within => unquoted (List.infix_cons within)
      rw [List.cons_append, List.cons_append, untilQuotes?,
        ih unescaped.of_cons unquotedRest ends.of_cons]
      · rfl
      · -- The quotes at the end do not begin earlier.
        rintro more rfl same
        match rest with
        | [] =>
            exact (ends '"' rfl).1 rfl
        | [second] =>
            cases same
            exact (ends '"' rfl).1 rfl
        | second :: third :: others =>
            cases same
            exact notQuotes others rfl rfl
      · rintro mark more rfl same
        match rest with
        | [] =>
            exact (ends '\\' rfl).2 rfl
        | second :: others =>
            exact notPair second others rfl rfl
  | case4 =>
      rfl

/-- A text in quotes is read as it is if it has neither quotes nor escapes in it. -/
theorem quotedValue?_eq_map_iff (named : List Char → Option Nat) {text : List Char}
    (ends : EndsSolid text) :
    quotedValue? named (['"', '"', '"'] ++ text ++ ['"', '"', '"']) = some (text.map Char.toNat) ↔
      ¬ ['"', '"', '"'] <:+: text ∧ Unescaped text := by
  change (match untilQuotes? (text ++ ['"', '"', '"']) with
    | some (body, []) => decode? named body
    | _ => none) = _ ↔ _
  constructor
  · intro read
    split at read
    · rename_i body found
      have same : text = body := by
        have whole := append_of_untilQuotes? found
        rw [List.append_nil] at whole
        exact List.append_cancel_right whole
      subst same
      have unescaped : Unescaped text := (length_of_decode? read).2 (List.length_map _)
      exact ⟨unquoted_of_untilQuotes? found unescaped, unescaped⟩
    · cases read
  · rintro ⟨unquoted, unescaped⟩
    have found := untilQuotes?_of_unquoted [] unescaped unquoted ends
    rw [List.append_nil] at found
    rw [found]
    exact decode?_of_unescaped named unescaped fun last => (ends '\\' last).2 rfl

/-! ## Parts of a text -/

/-- A part stands between two texts only where it stands in the text between them. -/
theorem infix_between_iff {first : Char} {others front middle back : List Char}
    (absentFront : first ∉ front) (absentBack : first ∉ back)
    (apart : ∀ char, back.head? = some char → char ∉ others) :
    first :: others <:+: front ++ (middle ++ back) ↔ first :: others <:+: middle := by
  constructor
  · intro within
    rcases List.infix_append_iff_ne_nil.mp within with
      inFront | inside | ⟨early, late, nonempty, -, split, ends, -⟩
    · exact absurd (inFront.subset List.mem_cons_self) absentFront
    · rcases List.infix_append_iff_ne_nil.mp inside with
        inMiddle | inBack | ⟨early, late, nonempty, nonemptyLate, split, -, begins⟩
      · exact inMiddle
      · exact absurd (inBack.subset List.mem_cons_self) absentBack
      · rcases List.exists_cons_of_ne_nil nonempty with ⟨begun, more, rfl⟩
        rcases List.exists_cons_of_ne_nil nonemptyLate with ⟨next, rest, rfl⟩
        rcases begins with ⟨behind, rfl⟩
        have later : next ∈ others := by
          rw [(List.cons.inj split).2]
          exact List.mem_append_right more List.mem_cons_self
        exact absurd later (apart next rfl)
    · rcases List.exists_cons_of_ne_nil nonempty with ⟨begun, more, rfl⟩
      rw [← (List.cons.inj split).1] at ends
      exact absurd (ends.subset List.mem_cons_self) absentFront
  · intro within
    exact (within.trans (List.prefix_append middle back).isInfix).trans
      (List.suffix_append front _).isInfix

end TypedMustache.Text
