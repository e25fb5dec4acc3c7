import TypedMustache.Proofs.Text.Plain
import TypedMustache.Text.Quoted

/-!
# Statements and literals of a line of code

`statements?` cuts a line of the generated code into statements, at the
semicolons outside of literals, and `literalValue?` reads the text back that a
statement writes.  Both are defined on the code alone, without regard to how it
came about.

Code is `Unbroken` if its literals are written as `literal` writes them and
nothing outside of them separates statements.  Unbroken statements that were
joined are cut where they were joined (`statements?_joined`), and a literal is read as the
text that it was written for (`readLiteral_literal`).
-/

namespace TypedMustache.Text

/-! ## Escapes -/

/-- The character that a backslash and a mark stand for. -/
def shortEscape? : Char → Option Char
  | 'n' => some '\n'
  | 'r' => some '\r'
  | '"' => some '"'
  | '\\' => some '\\'
  | _ => none

/-- The number that a hexadecimal digit stands for. -/
def hexValue? (char : Char) : Option Nat :=
  if char.isDigit then some (char.toNat - '0'.toNat)
  else if 'a' ≤ char ∧ char ≤ 'f' then some (char.toNat - 'a'.toNat + 10)
  else if 'A' ≤ char ∧ char ≤ 'F' then some (char.toNat - 'A'.toNat + 10)
  else none

/-- The character that two hexadecimal digits stand for. -/
def hexChar? (high low : Char) : Option Char :=
  (hexValue? high).bind fun upper =>
    (hexValue? low).map fun lower => Char.ofNat (16 * upper + lower)

/-- Whether a character stands for itself in a literal. -/
def isLiteral (char : Char) : Bool :=
  !isControl char && char != '"' && char != '\\'

/-- Whether a number is spelled by two hexadecimal digits that can be read back. -/
def isSpelled (number : Nat) : Bool :=
  match hexDigits 2 number with
  | [high, low] =>
      hexChar? high low == some (Char.ofNat number) && isLiteral high && isLiteral low
  | _ => false

theorem hexDigits_eq {number : Nat} (small : number < 128) :
    ∃ high low,
      hexDigits 2 number = [high, low] ∧ hexChar? high low = some (Char.ofNat number) ∧
        isLiteral high = true ∧ isLiteral low = true := by
  have every : (List.range 128).all isSpelled = true := by
    decide +kernel
  have spelled : isSpelled number = true :=
    List.all_eq_true.mp every number (List.mem_range.mpr small)
  unfold isSpelled at spelled
  split at spelled
  · rename_i high low digits
    simp only [Bool.and_eq_true, beq_iff_eq] at spelled
    exact ⟨high, low, digits, spelled.1.1, spelled.1.2, spelled.2⟩
  · cases spelled

/-- How a character is spelled in a literal. -/
theorem literalChar_cases (char : Char) :
    (∃ mark, literalChar char = ['\\', mark] ∧ shortEscape? mark = some char) ∨
      (∃ high low, literalChar char = ['\\', 'x', high, low] ∧ hexChar? high low = some char ∧
        isLiteral high = true ∧ isLiteral low = true) ∨
        (literalChar char = [char] ∧ isLiteral char = true) := by
  by_cases feed : char = '\n'
  · exact Or.inl ⟨'n', by simp [literalChar, feed], by simp [shortEscape?, feed]⟩
  by_cases carriage : char = '\r'
  · exact Or.inl ⟨'r', by simp [literalChar, carriage], by simp [shortEscape?, carriage]⟩
  by_cases quote : char = '"'
  · exact Or.inl ⟨'"', by simp [literalChar, quote], by simp [shortEscape?, quote]⟩
  by_cases backslash : char = '\\'
  · exact Or.inl ⟨'\\', by simp [literalChar, backslash], by simp [shortEscape?, backslash]⟩
  by_cases control : isControl char = true
  · have small : char.toNat < 128 := by
      simp only [isControl, Bool.or_eq_true, decide_eq_true_eq, beq_iff_eq] at control
      omega
    rcases hexDigits_eq small with ⟨high, low, spelled, denoted, highSafe, lowSafe⟩
    refine Or.inr (Or.inl ⟨high, low, ?_, ?_, highSafe, lowSafe⟩)
    · have number : (decide (char.toNat < 0x20) || char.toNat == 0x7F) = true := control
      simp [literalChar, feed, carriage, quote, backslash, number, spelled]
    · rw [denoted, Char.ofNat_toNat]
  · refine Or.inr (Or.inr ⟨?_, by simp [isLiteral, quote, backslash, control]⟩)
    have number : (decide (char.toNat < 0x20) || char.toNat == 0x7F) = false := by
      simpa [isControl] using control
    simp [literalChar, feed, carriage, quote, backslash, number]

/-! ## Reading literals -/

/--
What a literal denotes, read from behind its opening quote, and what follows its
closing quote.
-/
def readLiteral : List Char → Option (List Char × List Char)
  | [] => none
  | '"' :: rest => some ([], rest)
  | '\\' :: 'x' :: high :: low :: rest =>
      (hexChar? high low).bind fun char =>
        (readLiteral rest).map fun later => (char :: later.1, later.2)
  | '\\' :: mark :: rest =>
      (shortEscape? mark).bind fun char =>
        (readLiteral rest).map fun later => (char :: later.1, later.2)
  | char :: rest => (readLiteral rest).map fun later => (char :: later.1, later.2)

theorem readLiteral_literal (text rest : List Char) :
    readLiteral (text.flatMap literalChar ++ '"' :: rest) = some (text, rest) := by
  induction text with
  | nil => rfl
  | cons char others ih =>
      rw [List.flatMap_cons, List.append_assoc]
      rcases literalChar_cases char with
        ⟨mark, spelled, denoted⟩ | ⟨high, low, spelled, denoted, -, -⟩ | ⟨spelled, safe⟩
      · have short : mark ≠ 'x' := by
          rintro rfl
          cases denoted
        simp [spelled, readLiteral, denoted, ih, short]
      · simp [spelled, readLiteral, denoted, ih]
      · simp only [isLiteral, Bool.and_eq_true, bne_iff_ne] at safe
        simp [spelled, readLiteral, ih, safe]

/-- The text that a statement writes, if it is a call of the writer with a literal. -/
def literalValue? (writer : String) (statement : List Char) : Option (List Char) :=
  let opening := (writer ++ ".write(\"").toList
  if opening.isPrefixOf statement then
    match readLiteral (statement.drop opening.length) with
    | some (value, [')']) => some value
    | _ => none
  else none

theorem literalValue?_opening (writer : String) (rest : List Char) :
    literalValue? writer ((writer ++ ".write(\"").toList ++ rest) =
      match readLiteral rest with
      | some (value, [')']) => some value
      | _ => none := by
  have opened : (writer ++ ".write(\"").toList.isPrefixOf
      ((writer ++ ".write(\"").toList ++ rest) = true :=
    List.isPrefixOf_iff_prefix.mpr (List.prefix_append _ _)
  simp only [literalValue?, opened, if_true, List.drop_left]

theorem literalValue?_of_ne_quote (writer : String) {first : Char} (rest : List Char)
    (unquoted : first ≠ '"') :
    literalValue? writer ((writer ++ ".write(").toList ++ first :: rest) = none := by
  have opening : (writer ++ ".write(\"").toList = (writer ++ ".write(").toList ++ ['"'] := by
    simp
  have unopened : (writer ++ ".write(\"").toList.isPrefixOf
      ((writer ++ ".write(").toList ++ first :: rest) = false := by
    rw [Bool.eq_false_iff]
    intro opened
    rw [List.isPrefixOf_iff_prefix, opening, List.prefix_append_right_inj,
      List.cons_prefix_cons] at opened
    exact unquoted opened.1.symm
  simp only [literalValue?, unopened, Bool.false_eq_true, if_false]

theorem literalValue?_of_not_mem (writer : String) {statement : List Char}
    (unquoted : '"' ∉ statement) : literalValue? writer statement = none := by
  have unopened : (writer ++ ".write(\"").toList.isPrefixOf statement = false := by
    rw [Bool.eq_false_iff]
    intro opened
    apply unquoted
    apply (List.isPrefixOf_iff_prefix.mp opened).subset
    simp
  simp only [literalValue?, unopened, Bool.false_eq_true, if_false]

/-! ## Cutting a line into statements -/

/-- Where a reader of a line stands: in code, in a literal, or behind a backslash in one. -/
inductive Place where
  | code
  | literal
  | escape
deriving DecidableEq, Repr

/-- Where the reader stands after one more character. -/
def Place.next : Place → Char → Place
  | code, char => if char = '"' then literal else code
  | literal, char => if char = '"' then code else if char = '\\' then escape else literal
  | escape, _ => literal

/--
The first statement of what is left of a line, and the others.  There are none if
a literal is not closed.
-/
def statementsFrom : Place → List Char → Option (List Char × List (List Char))
  | .code, [] => some ([], [])
  | _, [] => none
  | .code, ';' :: ' ' :: rest =>
      (statementsFrom .code rest).map fun later => ([], later.1 :: later.2)
  | place, char :: rest =>
      (statementsFrom (place.next char) rest).map fun later => (char :: later.1, later.2)

/-- The statements of a line, if all its literals are closed. -/
def statements? (line : List Char) : Option (List (List Char)) :=
  (statementsFrom .code line).map fun all => all.1 :: all.2

/-- Code that is a statement on its own. -/
def Single (statement : List Char) : Prop :=
  statementsFrom .code statement = some (statement, [])

theorem statementsFrom_cons {place : Place} {char : Char} {rest : List Char}
    (within : place = .code → char = ';' → rest.head? ≠ some ' ') :
    statementsFrom place (char :: rest) =
      (statementsFrom (place.next char) rest).map fun later => (char :: later.1, later.2) := by
  rw [statementsFrom]
  rintro others isCode isMark rfl
  exact within isCode isMark rfl

theorem statementsFrom_separator {place : Place} {statement : List Char} (rest : List Char)
    (single : statementsFrom place statement = some (statement, [])) :
    statementsFrom place (statement ++ ';' :: ' ' :: rest) =
      (statementsFrom .code rest).map fun later => (statement, later.1 :: later.2) := by
  induction statement generalizing place with
  | nil =>
      cases place with
      | code => rfl
      | literal | escape => cases single
  | cons char others ih =>
      have within : place = .code → char = ';' → others.head? ≠ some ' ' := by
        rintro rfl rfl spaced
        cases others with
        | nil => cases spaced
        | cons next behind =>
            cases spaced
            cases cut : statementsFrom .code behind <;> simp [statementsFrom, cut] at single
      have withinAll :
          place = .code → char = ';' → (others ++ ';' :: ' ' :: rest).head? ≠ some ' ' := by
        intro isCode isMark
        cases others with
        | nil => simp
        | cons next behind => exact within isCode isMark
      rw [statementsFrom_cons within] at single
      have singleOthers :
          statementsFrom (place.next char) others = some (others, []) := by
        cases cut : statementsFrom (place.next char) others with
        | none => simp [cut] at single
        | some later => simp_all [Prod.ext_iff]
      rw [List.cons_append, statementsFrom_cons withinAll, ih singleOthers, Option.map_map]
      rfl

/-- A line of statements, separated as in the generated code. -/
def joined (statements : List (List Char)) : List Char :=
  [';', ' '].intercalate statements

theorem joined_cons_cons (statement next : List Char) (others : List (List Char)) :
    joined (statement :: next :: others) =
      statement ++ ';' :: ' ' :: joined (next :: others) := by
  simp [joined]

theorem toList_join (texts : List String) :
    (join "; " texts).toList = joined (texts.map String.toList) := by
  induction texts with
  | nil => rfl
  | cons text rest ih =>
      cases rest with
      | nil => simp [joined]
      | cons next others =>
          simp only [join_cons_cons, String.toList_append, ih, List.map_cons, joined_cons_cons]
          simp

/-- Statements that were joined are cut where they were joined. -/
theorem statements?_joined {statements : List (List Char)}
    (some : statements ≠ []) (single : ∀ statement ∈ statements, Single statement) :
    statements? (joined statements) = .some statements := by
  induction statements with
  | nil => exact absurd rfl some
  | cons statement rest ih =>
      have singleFirst : Single statement := single statement List.mem_cons_self
      cases rest with
      | nil =>
          have alone : joined [statement] = statement := by
            simp [joined]
          rw [alone, statements?, singleFirst]
          rfl
      | cons next others =>
          have later : statements? (joined (next :: others)) = .some (next :: others) :=
            ih (List.cons_ne_nil next others)
              fun other member => single other (List.mem_cons_of_mem statement member)
          rw [joined_cons_cons, statements?, statementsFrom_separator _ singleFirst,
            Option.map_map]
          rw [statements?, Option.map_eq_some_iff] at later
          rcases later with ⟨all, cut, same⟩
          rw [cut]
          simp [same]

/-- There is one way to read a line as statements. -/
theorem joined_injective
    {statements others : List (List Char)}
    (some : statements ≠ []) (single : ∀ statement ∈ statements, Single statement)
    (someOther : others ≠ []) (singleOther : ∀ statement ∈ others, Single statement)
    (same : joined others = joined statements) :
    others = statements := by
  have cut := statements?_joined someOther singleOther
  rw [same, statements?_joined some single] at cut
  exact (Option.some.inj cut).symm

/-! ## Unbroken code -/

/-- Whether a character of code is no control character and delimits nothing. -/
def isCode (char : Char) : Bool :=
  !isControl char && char != '"' && char != ';'

/--
Code in which no control character stands, every literal is closed, and no
semicolon stands outside of the literals.
-/
inductive Unbroken : List Char → Prop where
  | nil : Unbroken []
  | code {char : Char} {rest : List Char} :
      isCode char = true → Unbroken rest → Unbroken (char :: rest)
  | literal (text : List Char) {rest : List Char} :
      Unbroken rest → Unbroken ('"' :: (text.flatMap literalChar ++ '"' :: rest))

namespace Unbroken

theorem append {front back : List Char}
    (unbroken : Unbroken front) (unbrokenBack : Unbroken back) : Unbroken (front ++ back) := by
  induction unbroken with
  | nil => exact unbrokenBack
  | code isCode after ih => exact code isCode ih
  | literal text after ih =>
      rw [List.cons_append, List.append_assoc, List.cons_append]
      exact literal text ih

theorem of_all_isCode {code : List Char} (all : code.all isCode = true) : Unbroken code := by
  induction code with
  | nil => exact nil
  | cons char rest ih =>
      rcases Bool.and_eq_true_iff.mp all with ⟨first, others⟩
      exact .code first (ih others)

theorem of_plain {text : String} (plain : Plain text) : Unbroken text.toList := by
  apply of_all_isCode
  rw [List.all_eq_true]
  intro char member
  have isPlain := List.all_eq_true.mp plain.chars char member
  have unquoted : char ≠ '"' := ne_of_isPlain isPlain (by decide)
  have unseparated : char ≠ ';' := ne_of_isPlain isPlain (by decide)
  simp [isCode, isControl_of_isPlain isPlain, unquoted, unseparated]

end Unbroken

theorem isControl_of_mem_literalChar {char spelled : Char} (member : spelled ∈ literalChar char) :
    isControl spelled = false := by
  rcases literalChar_cases char with
    ⟨mark, spelling, denoted⟩ | ⟨high, low, spelling, -, highSafe, lowSafe⟩ | ⟨spelling, safe⟩
  · have markSafe : isControl mark = false := by
      unfold shortEscape? at denoted
      split at denoted <;> first | rfl | cases denoted
    simp only [spelling, List.mem_cons, List.not_mem_nil, or_false] at member
    rcases member with rfl | rfl
    · rfl
    · exact markSafe
  · simp only [isLiteral, Bool.and_eq_true, Bool.not_eq_true'] at highSafe lowSafe
    simp only [spelling, List.mem_cons, List.not_mem_nil, or_false] at member
    rcases member with rfl | rfl | rfl | rfl
    · rfl
    · rfl
    · exact highSafe.1.1
    · exact lowSafe.1.1
  · simp only [isLiteral, Bool.and_eq_true, Bool.not_eq_true'] at safe
    rw [spelling] at member
    rw [List.mem_singleton.mp member]
    exact safe.1.1

theorem Unbroken.isControl_of_mem {code : List Char} {char : Char}
    (unbroken : Unbroken code) (member : char ∈ code) : isControl char = false := by
  induction unbroken with
  | nil => cases member
  | code isCode after ih =>
      rcases List.mem_cons.mp member with rfl | later
      · simp only [Text.isCode, Bool.and_eq_true, Bool.not_eq_true'] at isCode
        exact isCode.1.1
      · exact ih later
  | literal text after ih =>
      simp only [List.mem_cons, List.mem_append, List.mem_flatMap] at member
      rcases member with rfl | ⟨denoted, -, spelled⟩ | rfl | later
      · rfl
      · exact isControl_of_mem_literalChar spelled
      · rfl
      · exact ih later

theorem statementsFrom_literal (text rest : List Char) :
    statementsFrom .literal (text.flatMap literalChar ++ '"' :: rest) =
      (statementsFrom .code rest).map fun later =>
        (text.flatMap literalChar ++ '"' :: later.1, later.2) := by
  induction text with
  | nil => simp [statementsFrom, Place.next]
  | cons char others ih =>
      simp only [List.flatMap_cons, List.append_assoc]
      rcases literalChar_cases char with
        ⟨mark, spelling, -⟩ | ⟨high, low, spelling, -, highSafe, lowSafe⟩ | ⟨spelling, safe⟩
      · simp [spelling, statementsFrom, Place.next, ih, Function.comp_def]
      · simp only [isLiteral, Bool.and_eq_true, bne_iff_ne] at highSafe lowSafe
        simp [spelling, statementsFrom, Place.next, ih, highSafe, lowSafe, Function.comp_def]
      · simp only [isLiteral, Bool.and_eq_true, bne_iff_ne] at safe
        simp [spelling, statementsFrom, Place.next, ih, safe, Function.comp_def]

/-- Unbroken code is a statement on its own. -/
theorem Unbroken.single {code : List Char} (unbroken : Unbroken code) : Single code := by
  induction unbroken with
  | nil => rfl
  | code isCode after ih =>
      simp only [Text.isCode, Bool.and_eq_true, bne_iff_ne] at isCode
      rw [Single, statementsFrom_cons fun _ isMark => absurd isMark isCode.2, Place.next,
        if_neg isCode.1.2, ih]
      rfl
  | literal text after ih =>
      rw [Single, statementsFrom_cons (by simp), Place.next, if_pos rfl, statementsFrom_literal,
        ih]
      rfl

end TypedMustache.Text
