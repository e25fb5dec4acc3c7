import TypedMustache.Settings
import TypedMustache.Token.Lexer

/-!
# Plain texts

Names of parameters and names in tags end up in expressions of the generated
code.  A text is plain if it is not empty and has no control character, no white
space, and none of the characters that delimit literals, comments and statements
there.  All names that are accepted are plain.

The classes of characters are given by tables, so most of what relates them to
each other is decided on the tables.
-/

namespace TypedMustache

namespace Text

/-! ## Classes of characters -/

namespace Ranges

/-- Whether no range meets a range of another class. -/
def isApartFrom (ranges others : Ranges) : Bool :=
  ranges.all fun range => others.all fun other => range.2 < other.1 || other.2 < range.1

/-- Whether every range lies in a range of another class. -/
def isWithin (ranges others : Ranges) : Bool :=
  ranges.all fun range => others.any fun other => other.1 ≤ range.1 && range.2 ≤ other.2

/-- A character in one of two classes that are apart is not in the other one. -/
theorem contains_eq_false_of_isApartFrom
    {ranges others : Ranges} {char : Char}
    (apart : ranges.isApartFrom others = true)
    (member : ranges.contains char = true) :
    others.contains char = false := by
  rcases (contains_iff ranges char).mp member with ⟨range, inRanges, low, high⟩
  rw [Bool.eq_false_iff]
  intro shared
  rcases (contains_iff others char).mp shared with ⟨other, inOthers, otherLow, otherHigh⟩
  have separate := List.all_eq_true.mp (List.all_eq_true.mp apart range inRanges) other inOthers
  simp only [Bool.or_eq_true, decide_eq_true_eq] at separate
  omega

/-- A character of a class is in every class around it. -/
theorem contains_of_isWithin
    {ranges others : Ranges} {char : Char}
    (within : ranges.isWithin others = true)
    (member : ranges.contains char = true) :
    others.contains char = true := by
  rcases (contains_iff ranges char).mp member with ⟨range, inRanges, low, high⟩
  rcases List.any_eq_true.mp (List.all_eq_true.mp within range inRanges) with
    ⟨other, inOthers, around⟩
  simp only [Bool.and_eq_true, decide_eq_true_eq] at around
  exact (contains_iff others char).mpr ⟨other, inOthers, by omega, by omega⟩

end Ranges

/-- The characters that delimit the words of the generated code. -/
def delimiterRanges : Ranges :=
  [
    (0, 32), (34, 35), (58, 59), (92, 92), (127, 127), (133, 133), (160, 160), (5760, 5760),
    (8192, 8202), (8232, 8233), (8239, 8239), (8287, 8287), (12288, 12288)]

/-- Whether a character is none of the delimiters. -/
def isPlain (char : Char) : Bool :=
  !delimiterRanges.contains char

/-- Whether a character is a control character of ASCII. -/
def isControl (char : Char) : Bool :=
  char.toNat < 0x20 || char.toNat == 0x7F

/-- A class that is apart from the delimiters has plain characters only. -/
theorem isPlain_of_isApartFrom
    {ranges : Ranges} {char : Char}
    (apart : ranges.isApartFrom delimiterRanges = true)
    (member : ranges.contains char = true) :
    isPlain char = true := by
  rw [isPlain, Ranges.contains_eq_false_of_isApartFrom apart member]
  rfl

theorem isPlain_of_isWord {char : Char} (word : isWord char = true) : isPlain char = true :=
  isPlain_of_isApartFrom (by decide +kernel : wordRanges.isApartFrom delimiterRanges = true) word

theorem isPlain_of_identifierStart
    {char : Char} (start : identifierStartRanges.contains char = true) :
    isPlain char = true :=
  isPlain_of_isApartFrom (by decide +kernel) start

theorem isPlain_of_identifierContinue
    {char : Char} (inside : identifierContinueRanges.contains char = true) :
    isPlain char = true :=
  isPlain_of_isApartFrom (by decide +kernel) inside

theorem isWord_of_isNameStart {char : Char} (start : isNameStart char = true) :
    isWord char = true := by
  have letters : Ranges.contains [(65, 90), (95, 95), (97, 122)] char = true := by
    have isLetter : char.isAlpha =
        (decide (char.val ≥ 65 ∧ char.val ≤ 90) || char.val ≥ 97 && char.val ≤ 122) := rfl
    rw [Ranges.contains_iff]
    simp only [isNameStart, isLetter, Bool.or_eq_true, Bool.and_eq_true, decide_eq_true_eq,
      beq_iff_eq] at start
    rcases start with (upper | lower) | rfl
    · exact ⟨(65, 90), by simp, upper⟩
    · exact ⟨(97, 122), by simp, lower⟩
    · exact ⟨(95, 95), by simp, by decide⟩
  exact Ranges.contains_of_isWithin (by decide +kernel) letters

theorem isPlain_of_isNameStart {char : Char} (start : isNameStart char = true) :
    isPlain char = true :=
  isPlain_of_isWord (isWord_of_isNameStart start)

theorem isPlain_of_isDigit {char : Char} (digit : char.isDigit = true) :
    isPlain char = true := by
  have digits : Ranges.contains [(48, 57)] char = true := by
    simp only [Char.isDigit, Bool.and_eq_true, decide_eq_true_eq] at digit
    exact (Ranges.contains_iff _ _).mpr ⟨(48, 57), by simp, digit⟩
  exact isPlain_of_isApartFrom (by decide) digits

theorem isBlank_of_isPlain {char : Char} (plain : isPlain char = true) :
    isBlank char = false := by
  rw [Bool.eq_false_iff]
  intro blank
  have delimiter : delimiterRanges.contains char = true :=
    Ranges.contains_of_isWithin (by decide) blank
  simp [isPlain, delimiter] at plain

theorem isControl_of_isPlain {char : Char} (plain : isPlain char = true) :
    isControl char = false := by
  rw [Bool.eq_false_iff]
  intro control
  have delimiter : delimiterRanges.contains char = true := by
    simp only [isControl, Bool.or_eq_true, decide_eq_true_eq, beq_iff_eq] at control
    rcases control with low | delete
    · exact (Ranges.contains_iff _ _).mpr ⟨(0, 32), by decide, by omega, by omega⟩
    · exact (Ranges.contains_iff _ _).mpr ⟨(127, 127), by decide, by omega, by omega⟩
  simp [isPlain, delimiter] at plain

/-- A plain character is none of the delimiters. -/
theorem ne_of_isPlain
    {char other : Char} (plain : isPlain char = true) (delimiter : isPlain other = false) :
    char ≠ other := by
  rintro rfl
  rw [plain] at delimiter
  cases delimiter

/-! ## Plain texts -/

/-- A text that is not empty and has no delimiter. -/
structure Plain (text : String) : Prop where
  solid : text ≠ ""
  chars : text.toList.all isPlain = true

theorem Plain.append {front back : String} (plainFront : Plain front) (plainBack : Plain back) :
    Plain (front ++ back) where
  solid := by
    simp [plainFront.solid]
  chars := by
    rw [String.toList_append, List.all_append, plainFront.chars, plainBack.chars]
    rfl

/-- A text whose first character is plain. -/
def Begins (text : String) : Prop :=
  ∃ first rest, text.toList = first :: rest ∧ isPlain first = true

theorem Begins.append {front : String} (begins : Begins front) (back : String) :
    Begins (front ++ back) := by
  rcases begins with ⟨first, rest, spelled, plain⟩
  exact ⟨first, rest ++ back.toList, by simp [spelled], plain⟩

theorem Plain.begins {text : String} (plain : Plain text) : Begins text := by
  cases spelled : text.toList with
  | nil => exact absurd (String.toList_eq_nil_iff.mp spelled) plain.solid
  | cons first rest =>
      have all := plain.chars
      rw [spelled, List.all_cons, Bool.and_eq_true] at all
      exact ⟨first, rest, spelled, all.1⟩

/-- Names that can be used in the generated code are plain. -/
theorem plain_of_isUsableName {name : String} (usable : isUsableName name = true) :
    Plain name := by
  have identifier : isIdentifier name = true := (Bool.and_eq_true_iff.mp usable).1
  unfold isIdentifier at identifier
  split at identifier
  · cases identifier
  · rename_i first rest spelled
    rcases Bool.and_eq_true_iff.mp identifier with ⟨start, inside⟩
    constructor
    · intro empty
      simp [empty] at spelled
    · rw [spelled, List.all_cons, isPlain_of_identifierStart start, Bool.true_and,
        List.all_eq_true]
      intro char member
      exact isPlain_of_identifierContinue (List.all_eq_true.mp inside char member)

/-- The names of loop variables are plain. -/
theorem plain_item (depth : Nat) : Plain ("item" ++ toString depth) where
  solid := by
    simp
  chars := by
    rw [String.toList_append, List.all_append, Bool.and_eq_true]
    constructor
    · decide
    · rw [List.all_eq_true]
      intro char member
      apply isPlain_of_isDigit
      apply Nat.isDigit_of_mem_toDigits (b := 10) (n := depth) (by decide) (by decide)
      simpa using member

/-- A character of a text is a separator or stands in a part between separators. -/
theorem eq_or_exists_part_of_mem
    {separator char : Char} {text : List Char} (member : char ∈ text) :
    char = separator ∨ ∃ part ∈ splitOn separator text, char ∈ part := by
  induction text with
  | nil => cases member
  | cons first rest ih =>
      by_cases isSeparator : first = separator
      · rcases List.mem_cons.mp member with rfl | later
        · exact Or.inl isSeparator
        · rcases ih later with same | ⟨part, inRest, inPart⟩
          · exact Or.inl same
          · exact Or.inr ⟨part, by simp [splitOn, isSeparator, inRest], inPart⟩
      · cases splitRest : splitOn separator rest with
        | nil => exact absurd splitRest (splitOn_ne_nil separator rest)
        | cons front parts =>
            have whole : splitOn separator (first :: rest) = (first :: front) :: parts := by
              simp [splitOn, isSeparator, splitRest]
            rw [whole]
            rcases List.mem_cons.mp member with rfl | later
            · exact Or.inr ⟨char :: front, by simp, by simp⟩
            · rcases ih later with same | ⟨part, inRest, inPart⟩
              · exact Or.inl same
              · rw [splitRest] at inRest
                rcases List.mem_cons.mp inRest with rfl | inParts
                · exact Or.inr ⟨first :: part, by simp, by simp [inPart]⟩
                · exact Or.inr ⟨part, by simp [inParts], inPart⟩

end Text

/-! ## Names in tags -/

namespace Lexer

open Text (Plain)

theorem all_isPlain_of_isComponent {part : List Char} (component : isComponent part = true) :
    part.all Text.isPlain = true := by
  cases part with
  | nil => rfl
  | cons first rest =>
      rcases Bool.and_eq_true_iff.mp component with ⟨start, inside⟩
      rw [List.all_cons, Text.isPlain_of_isNameStart start, Bool.true_and, List.all_eq_true]
      intro char member
      exact Text.isPlain_of_isWord (List.all_eq_true.mp inside char member)

theorem plain_of_isComponent {part : List Char} (component : isComponent part = true) :
    Plain (String.ofList part) where
  solid := by
    intro empty
    rw [String.ofList_eq_empty_iff.mp empty] at component
    cases component
  chars := by
    rw [String.toList_ofList]
    exact all_isPlain_of_isComponent component

/-- So are the names that a tag can hold. -/
theorem plain_of_isName {name : String} (named : isName name.toList = true) : Plain name := by
  rcases Bool.or_eq_true_iff.mp named with dot | components
  · have spelled : name = "." := String.toList_inj.mp (by simpa using dot)
    rw [spelled]
    exact ⟨by decide, by decide⟩
  · constructor
    · rintro rfl
      cases components
    · rw [List.all_eq_true]
      intro char member
      have place : char = '.' ∨ ∃ part ∈ Text.splitOn '.' name.toList, char ∈ part :=
        Text.eq_or_exists_part_of_mem member
      rcases place with rfl | ⟨part, inName, inPart⟩
      · decide
      · have component := List.all_eq_true.mp components part inName
        exact List.all_eq_true.mp (all_isPlain_of_isComponent component) char inPart

/-- The components of a name are plain, unless it is a lone dot. -/
theorem plain_of_mem_splitString
    {name component : String}
    (named : isName name.toList = true) (undotted : name ≠ ".")
    (member : component ∈ Text.splitString '.' name) :
    Plain component := by
  rcases Bool.or_eq_true_iff.mp named with dot | components
  · exact absurd (String.toList_inj.mp (by simpa using dot)) undotted
  · rcases List.mem_map.mp member with ⟨part, inName, rfl⟩
    exact plain_of_isComponent (List.all_eq_true.mp components part inName)

end Lexer

/-! ## Names in settings -/

namespace Settings

/-- Settings that entries can give. -/
def Accepted (settings : Settings) : Prop :=
  ∃ entries, ofEntries entries = .ok settings

/-- A field that was read has a value without a refusal, if its default has none. -/
theorem refusal?_of_textField
    {entries : List (Datum × Datum)} {field default value : String}
    {refusal? : String → Option Refusal}
    (usual : refusal? default = none)
    (read : textField entries field default refusal? = .ok value) :
    refusal? value = none := by
  unfold textField at read
  split at read
  · cases read
    exact usual
  · split at read
    · cases read
    · split at read
      · rename_i accepted
        cases read
        exact accepted
      · cases read

theorem plain_of_nameRefusal? {name : String} (accepted : nameRefusal? name = none) :
    Text.Plain name :=
  Text.plain_of_isUsableName (nameRefusal?_eq_none_iff.mp accepted)

/-- Settings that were accepted have no field that is refused. -/
theorem Accepted.fields {settings : Settings} (accepted : settings.Accepted) :
    nameRefusal? settings.writerName = none ∧ nameRefusal? settings.dataName = none ∧
      escapeRefusal? settings.escapeFunction = none ∧ indentRefusal? settings.indent = none := by
  rcases accepted with ⟨entries, read⟩
  simp only [ofEntries] at read
  split at read
  · rename_i yieldMarker writerName dataName escapeFunction indent requireYield _ writer data
      escape indents _
    cases read
    exact ⟨refusal?_of_textField (by decide +kernel) writer,
      refusal?_of_textField (by decide +kernel) data,
      refusal?_of_textField (by decide) escape, refusal?_of_textField (by decide) indents⟩
  · cases read

theorem Accepted.indent_ne_empty {settings : Settings} (accepted : settings.Accepted) :
    settings.indent ≠ "" :=
  (indentRefusal?_eq_none_iff.mp accepted.fields.2.2.2).1

/-- An accepted indentation is made of blanks. -/
theorem Accepted.isBlank_of_mem_indent {settings : Settings} {char : Char}
    (accepted : settings.Accepted) (member : char ∈ settings.indent.toList) :
    Text.isBlank char = true :=
  (indentRefusal?_eq_none_iff.mp accepted.fields.2.2.2).2 char member

theorem Accepted.plain_writerName {settings : Settings} (accepted : settings.Accepted) :
    Text.Plain settings.writerName :=
  plain_of_nameRefusal? accepted.fields.1

theorem Accepted.plain_dataName {settings : Settings} (accepted : settings.Accepted) :
    Text.Plain settings.dataName :=
  plain_of_nameRefusal? accepted.fields.2.1

/-- There is one escape function that is accepted. -/
theorem Accepted.escapeFunction_eq {settings : Settings} (accepted : settings.Accepted) :
    settings.escapeFunction = "escape_html" :=
  escapeRefusal?_eq_none_iff.mp accepted.fields.2.2.1

theorem Accepted.plain_escapeFunction {settings : Settings} (accepted : settings.Accepted) :
    Text.Plain settings.escapeFunction := by
  rw [accepted.escapeFunction_eq]
  exact ⟨by decide, by decide⟩

end Settings

end TypedMustache
