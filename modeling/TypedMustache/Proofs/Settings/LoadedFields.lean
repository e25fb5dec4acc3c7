import Mathlib.Tactic.ByContra
import Mathlib.Tactic.Push
import TypedMustache.Proofs.Attempt
import TypedMustache.Settings.Loading

/-!
# The fields of loaded settings

Settings are loaded field by field.  What is given for a field is the marker of the
environment, or the entry of the settings file; without either the field keeps its
default.  What is given has to be something that the field can take: a text of a
certain form, which may be given as bytes, or, for the rule about layouts, one of the
data that mean a truth value.

`Settings.load_iff` says what loading comes to unless the settings file is there and
cannot be parsed; any reader of documents will do.  Settings are found if and only if
the file may be absent or is a mapping, all its entries are named by texts, and every
field takes what is given for it.  They are refused if and only if the file is missing
or no mapping, or some field does not take what is given.  An entry that is named by
something else than a text is neither (`Settings.unnamed_entry_of_numberedSite`), nor
is a file that cannot be read.
-/

namespace TypedMustache

/-! ## Truth values -/

namespace Binary64

/-- The fraction that a number stands for has a denominator. -/
theorem fraction_denominator_pos {base : Nat} (positive : 0 < base) (number : Nat)
    (exponent : Int) : 0 < (fraction base number exponent).2 := by
  cases exponent with
  | ofNat power =>
      exact Nat.one_pos
  | negSucc power =>
      exact Nat.pow_pos positive

/-- A number equals one integer at most. -/
theorem eq_of_equalsInt {number : Binary64} {whole other : Int}
    (equal : number.equalsInt whole = true) (equalOther : number.equalsInt other = true) :
    whole = other := by
  cases number with
  | finite negative mantissa exponent =>
      have positive : ((fraction 2 mantissa exponent).2 : Int) ≠ 0 := by
        have := fraction_denominator_pos Nat.two_pos mantissa exponent
        omega
      simp only [equalsInt, beq_iff_eq] at equal equalOther
      exact Int.eq_of_mul_eq_mul_right positive (equal.symm.trans equalOther)
  | infinite negative =>
      cases equal
  | notANumber =>
      cases equal

end Binary64

namespace Datum

/-- The data that a text is given as: the text itself, or the bytes that encode it. -/
inductive Spells : Datum → String → Prop where
  | text (value : String) : Spells (.text value) value
  | bytes (value : String) : Spells (.bytes value.toByteArray.data.toList) value

/-- Bytes are decoded to a text exactly if they encode it. -/
theorem decoded?_eq_some_iff {octets : List UInt8} {value : String} :
    decoded? octets = some value ↔ octets = value.toByteArray.data.toList := by
  unfold decoded? String.fromUTF8?
  split
  · rename_i valid
    simp only [Option.some.injEq]
    constructor
    · rintro rfl
      simp [String.fromUTF8]
    · rintro rfl
      simp [String.fromUTF8]
  · rename_i invalid
    constructor
    · rintro ⟨⟩
    · rintro rfl
      exact (invalid (by simpa using value.isValidUTF8)).elim

/-- A datum is taken for the text that it spells. -/
theorem asText_eq_ok_iff {datum : Datum} {value : String} :
    datum.asText = .ok value ↔ datum.Spells value := by
  cases datum with
  | text given =>
      constructor
      · rintro ⟨⟩
        exact .text value
      · rintro ⟨⟩
        rfl
  | bytes octets =>
      rw [asText]
      constructor
      · intro done
        split at done
        · rename_i given decoded
          cases done
          rw [decoded?_eq_some_iff.mp decoded]
          exact .bytes value
        · cases done
      · rintro ⟨⟩
        simp only [decoded?_eq_some_iff.mpr rfl]
  | _ =>
      exact ⟨fun impossible => (nomatch impossible), fun impossible => (nomatch impossible)⟩

/-- The words for a truth value. -/
def wordsFor (value : Bool) : List String :=
  if value then trueWords else falseWords

/-- The data that mean a truth value. -/
inductive Means : Datum → Bool → Prop where
  | boolean (value : Bool) : Means (.boolean value) value
  | integer (value : Bool) : Means (.integer value.toInt) value
  | number {number : Binary64} {value : Bool} (equal : number.equalsInt value.toInt = true) :
      Means (.number number) value
  | word {given : Datum} {word known : String} {value : Bool} (spells : given.Spells word)
      (isKnown : known ∈ wordsFor value) (same : sameWord word known = true) : Means given value

/-- The truth value that is tried first does not hide the other one if at most one is meant. -/
theorem verdict_eq_ok_iff {isFalse isTrue : Prop} [Decidable isFalse] [Decidable isTrue]
    {refusal : Settings.Refusal} {value : Bool} (apart : isFalse → ¬ isTrue) :
    (if isFalse then .ok false else if isTrue then .ok true else .error refusal) =
        (.ok value : Except Settings.Refusal Bool) ↔
      (value = false ∧ isFalse) ∨ (value = true ∧ isTrue) := by
  by_cases first : isFalse
  · have other := apart first
    cases value <;> simp [first, other]
  · by_cases second : isTrue
    · cases value <;> simp [first, second]
    · cases value <;> simp [first, second]

/-- No word means both truth values. -/
theorem sameWord_apart {word : String} (isFalse : falseWords.any (sameWord word) = true) :
    ¬ trueWords.any (sameWord word) = true := by
  have apart : ∀ known ∈ falseWords, ∀ other ∈ trueWords,
      known.toList.map Char.toLower ≠ other.toList.map Char.toLower := by
    decide
  intro isTrue
  rcases List.any_eq_true.mp isFalse with ⟨known, inFalse, same⟩
  rcases List.any_eq_true.mp isTrue with ⟨other, inTrue, sameOther⟩
  rw [sameWord, beq_iff_eq] at same sameOther
  exact apart known inFalse other inTrue (same.symm.trans sameOther)

/-- A word is taken for the truth value that it is one of the words for. -/
theorem flagOfWord_eq_ok_iff {word : String} {value : Bool} :
    flagOfWord word = .ok value ↔ ∃ known ∈ wordsFor value, sameWord word known = true := by
  rw [flagOfWord, verdict_eq_ok_iff sameWord_apart, List.any_eq_true, List.any_eq_true]
  cases value <;> simp [wordsFor]

/-- What is given as a text is a flag by one of the known words for it. -/
theorem flag_eq_ok_iff_of_spells {datum : Datum} {word : String} {value : Bool}
    (spells : datum.Spells word) :
    datum.flag = .ok value ↔ ∃ known ∈ wordsFor value, sameWord word known = true := by
  rw [← flagOfWord_eq_ok_iff]
  cases spells with
  | text =>
      rfl
  | bytes =>
      rw [flag]
      simp only [decoded?_eq_some_iff.mpr rfl]

theorem Spells.unique {datum : Datum} {value other : String} (spells : datum.Spells value)
    (alsoSpells : datum.Spells other) : value = other :=
  Except.ok.inj ((asText_eq_ok_iff.mpr spells).symm.trans (asText_eq_ok_iff.mpr alsoSpells))

/-- For a text, to mean a flag is to be one of the known words for it. -/
theorem means_iff_of_spells {datum : Datum} {word : String} {value : Bool}
    (spells : datum.Spells word) :
    datum.Means value ↔ ∃ known ∈ wordsFor value, sameWord word known = true := by
  constructor
  · intro means
    cases means with
    | word alsoSpells isKnown same =>
        rw [spells.unique alsoSpells]
        exact ⟨_, isKnown, same⟩
    | _ =>
        cases spells
  · rintro ⟨known, isKnown, same⟩
    exact .word spells isKnown same

/-- A datum is taken for the truth value that it means. -/
theorem flag_eq_ok_iff {datum : Datum} {value : Bool} :
    datum.flag = .ok value ↔ datum.Means value := by
  cases datum with
  | boolean given =>
      constructor
      · rintro ⟨⟩
        exact .boolean value
      · rintro (_ | _ | _ | ⟨⟨⟩, _, _⟩)
        rfl
  | integer whole =>
      rw [flag, flagOfInt, verdict_eq_ok_iff (by omega)]
      constructor
      · rintro (⟨rfl, rfl⟩ | ⟨rfl, rfl⟩)
        · exact .integer false
        · exact .integer true
      · rintro (_ | _ | _ | ⟨⟨⟩, _, _⟩)
        cases value <;> simp
  | number number =>
      rw [flag, verdict_eq_ok_iff fun isZero isOne =>
        absurd (Binary64.eq_of_equalsInt isZero isOne) (by decide)]
      constructor
      · rintro (⟨rfl, equal⟩ | ⟨rfl, equal⟩)
        · exact .number equal
        · exact .number equal
      · rintro (_ | _ | equal | ⟨⟨⟩, _, _⟩)
        cases value with
        | false => exact Or.inl ⟨rfl, equal⟩
        | true => exact Or.inr ⟨rfl, equal⟩
  | text word =>
      rw [flag_eq_ok_iff_of_spells (.text word), means_iff_of_spells (.text word)]
  | bytes octets =>
      cases decoded : decoded? octets with
      | some word =>
          rw [decoded?_eq_some_iff.mp decoded, flag_eq_ok_iff_of_spells (.bytes word),
            means_iff_of_spells (.bytes word)]
      | none =>
          have untold : ¬ (bytes octets).Means value := by
            rintro (_ | _ | _ | ⟨⟨⟩, _, _⟩)
            rw [decoded?_eq_some_iff.mpr rfl] at decoded
            cases decoded
          rw [flag, decoded]
          exact iff_of_false (by simp) untold
  | _ =>
      refine iff_of_false (by simp [flag]) ?_
      rintro (_ | _ | _ | ⟨⟨⟩, _, _⟩)

end Datum

/-! ## Fields -/

namespace Settings

/-- The fields of settings. -/
inductive Field where
  | yieldMarker
  | writerName
  | dataName
  | escapeFunction
  | indent
  | requireYield
deriving DecidableEq, Repr

namespace Field

/-- The name of a field in a settings file. -/
def key : Field → String
  | yieldMarker => "yield_marker"
  | writerName => "writer_name"
  | dataName => "data_name"
  | escapeFunction => "escape_function"
  | indent => "indent"
  | requireYield => "require_yield_in_layout"

/-- The value that a field has in settings. -/
def valueIn (settings : Settings) : Field → Datum
  | yieldMarker => .text settings.yieldMarker
  | writerName => .text settings.writerName
  | dataName => .text settings.dataName
  | escapeFunction => .text settings.escapeFunction
  | indent => .text settings.indent
  | requireYield => .boolean settings.requireYield

/-- The data that a field can be given, and the value that it takes from them. -/
inductive Takes : Field → (given value : Datum) → Prop where
  | yieldMarker {given : Datum} {marker : String} (spells : given.Spells marker) :
      Takes .yieldMarker given (.text marker)
  | writerName {given : Datum} {name : String} (spells : given.Spells name)
      (usable : Text.isUsableName name = true) : Takes .writerName given (.text name)
  | dataName {given : Datum} {name : String} (spells : given.Spells name)
      (usable : Text.isUsableName name = true) : Takes .dataName given (.text name)
  | escapeFunction {given : Datum} (spells : given.Spells "escape_html") :
      Takes .escapeFunction given (.text "escape_html")
  | indent {given : Datum} {indent : String} (spells : given.Spells indent) (some : indent ≠ "")
      (blank : ∀ char ∈ indent.toList, Text.isBlank char = true) :
      Takes .indent given (.text indent)
  | requireYield {given : Datum} {value : Bool} (means : given.Means value) :
      Takes .requireYield given (.boolean value)

/-- The value of a field follows from what is given for it; it keeps its default without. -/
def Settled (field : Field) (value : Datum) : Option Datum → Prop
  | none => value = field.valueIn {}
  | some given => field.Takes given value

/-- Read a field from entries. -/
def read (entries : List (Datum × Datum)) : Field → Except Problem Datum
  | yieldMarker => (textField entries "yield_marker" "yield" anyText).map .text
  | writerName => (textField entries "writer_name" "writer" nameRefusal?).map .text
  | dataName => (textField entries "data_name" "data" nameRefusal?).map .text
  | escapeFunction =>
    (textField entries "escape_function" "escape_html" escapeRefusal?).map .text
  | indent => (textField entries "indent" "    " indentRefusal?).map .text
  | requireYield => (flagField entries "require_yield_in_layout" true).map .boolean

end Field

variable {entries : List (Datum × Datum)} {settings : Settings}

/-- A field that holds a text takes the texts that its rule does not refuse. -/
theorem Field.read_eq_ok_iff_of_text {field : Field} {default : String} {value : Datum}
    {refusal? : String → Option Refusal}
    (isRead : field.read entries = (textField entries field.key default refusal?).map .text)
    (usual : field.valueIn {} = .text default)
    (takes : ∀ given, field.Takes given value ↔
      ∃ text, given.Spells text ∧ value = .text text ∧ refusal? text = none) :
    field.read entries = .ok value ↔
      field.Settled value (Datum.get? entries field.key) := by
  rw [isRead, Attempt.map_eq_ok_iff]
  unfold textField
  cases found : Datum.get? entries field.key with
  | none =>
      simp only [Field.Settled, usual]
      constructor
      · rintro ⟨text, ⟨⟩, rfl⟩
        rfl
      · rintro rfl
        exact ⟨default, rfl, rfl⟩
  | some given =>
      simp only [Field.Settled, takes, ← Datum.asText_eq_ok_iff]
      cases given.asText with
      | error refusal =>
          simp
      | ok text =>
          cases refused : refusal? text with
          | none =>
              simp [refused, eq_comm]
          | some refusal =>
              simp [refused]

/-- A flag is the default if it is not given, and else what the given value means. -/
theorem flagField_eq_ok_iff {field : String} {default value : Bool} :
    flagField entries field default = .ok value ↔
      Datum.get? entries field = none ∧ default = value ∨
        ∃ given, Datum.get? entries field = some given ∧ given.Means value := by
  unfold flagField
  split
  · rename_i absent
    simp [absent]
  · rename_i given found
    simp only [found, reduceCtorEq, false_and, false_or, Option.some.injEq, exists_eq_left',
      ← Datum.flag_eq_ok_iff]
    cases given.flag <;> simp

/-- A field is read from entries if it takes what they have for it. -/
theorem Field.read_eq_ok_iff {field : Field} {value : Datum} :
    field.read entries = .ok value ↔ field.Settled value (Datum.get? entries field.key) := by
  -- The rule of a field that holds a text refuses exactly what the field does not take.
  cases field with
  | yieldMarker =>
      apply read_eq_ok_iff_of_text rfl rfl
      intro given
      constructor
      · rintro ⟨spells⟩
        exact ⟨_, spells, rfl, rfl⟩
      · rintro ⟨text, spells, rfl, -⟩
        exact .yieldMarker spells
  | writerName =>
      apply read_eq_ok_iff_of_text rfl rfl
      intro given
      constructor
      · rintro (_ | ⟨spells, usable⟩)
        exact ⟨_, spells, rfl, nameRefusal?_eq_none_iff.mpr usable⟩
      · rintro ⟨text, spells, rfl, usable⟩
        exact .writerName spells (nameRefusal?_eq_none_iff.mp usable)
  | dataName =>
      apply read_eq_ok_iff_of_text rfl rfl
      intro given
      constructor
      · rintro (_ | _ | ⟨spells, usable⟩)
        exact ⟨_, spells, rfl, nameRefusal?_eq_none_iff.mpr usable⟩
      · rintro ⟨text, spells, rfl, usable⟩
        exact .dataName spells (nameRefusal?_eq_none_iff.mp usable)
  | escapeFunction =>
      apply read_eq_ok_iff_of_text rfl rfl
      intro given
      constructor
      · rintro (_ | _ | _ | spells)
        exact ⟨_, spells, rfl, rfl⟩
      · rintro ⟨text, spells, rfl, usable⟩
        rw [escapeRefusal?_eq_none_iff.mp usable] at spells ⊢
        exact .escapeFunction spells
  | indent =>
      apply read_eq_ok_iff_of_text rfl rfl
      intro given
      constructor
      · rintro (_ | _ | _ | _ | ⟨spells, some, blank⟩)
        exact ⟨_, spells, rfl, indentRefusal?_eq_none_iff.mpr ⟨some, blank⟩⟩
      · rintro ⟨text, spells, rfl, usable⟩
        rcases indentRefusal?_eq_none_iff.mp usable with ⟨some, blank⟩
        exact .indent spells some blank
  | requireYield =>
      rw [read, Attempt.map_eq_ok_iff]
      constructor
      · rintro ⟨flag, isRead, rfl⟩
        rcases flagField_eq_ok_iff.mp isRead with ⟨absent, rfl⟩ | ⟨given, found, means⟩
        · rw [key, absent]
          rfl
        · rw [key, found]
          exact .requireYield means
      · rw [key]
        cases found : Datum.get? entries "require_yield_in_layout" with
        | none =>
            rintro rfl
            exact ⟨true, flagField_eq_ok_iff.mpr (Or.inl ⟨found, rfl⟩), rfl⟩
        | some given =>
            rintro (_ | _ | _ | _ | _ | means)
            exact ⟨_, flagField_eq_ok_iff.mpr (Or.inr ⟨given, found, means⟩), rfl⟩

/-- Entries give settings when every field is read from them. -/
theorem ofEntries_eq_ok_iff_read :
    ofEntries entries = .ok settings ↔
      ∀ field : Field, field.read entries = .ok (field.valueIn settings) := by
  constructor
  · intro done
    simp only [ofEntries] at done
    split at done
    · rename_i marker writer data escape indent yields
      cases done
      intro field
      cases field with
      | yieldMarker => rw [Field.read, marker]; rfl
      | writerName => rw [Field.read, writer]; rfl
      | dataName => rw [Field.read, data]; rfl
      | escapeFunction => rw [Field.read, escape]; rfl
      | indent => rw [Field.read, indent]; rfl
      | requireYield => rw [Field.read, yields]; rfl
    · cases done
  · intro each
    rcases Attempt.map_eq_ok_iff.mp (each .yieldMarker) with ⟨_, marker, ⟨⟩⟩
    rcases Attempt.map_eq_ok_iff.mp (each .writerName) with ⟨_, writer, ⟨⟩⟩
    rcases Attempt.map_eq_ok_iff.mp (each .dataName) with ⟨_, data, ⟨⟩⟩
    rcases Attempt.map_eq_ok_iff.mp (each .escapeFunction) with ⟨_, escape, ⟨⟩⟩
    rcases Attempt.map_eq_ok_iff.mp (each .indent) with ⟨_, indent, ⟨⟩⟩
    rcases Attempt.map_eq_ok_iff.mp (each .requireYield) with ⟨_, yields, ⟨⟩⟩
    simp only [ofEntries, marker, writer, data, escape, indent, yields]

/-- Settings are accepted with exactly the values that settle their fields. -/
theorem ofEntries_eq_ok_iff :
    ofEntries entries = .ok settings ↔
      ∀ field : Field,
        field.Settled (field.valueIn settings) (Datum.get? entries field.key) := by
  simp only [ofEntries_eq_ok_iff_read, Field.read_eq_ok_iff]

/-- If every field can be read there are settings. -/
theorem exists_of_read (each : ∀ field : Field, ∃ value, field.read entries = .ok value) :
    ∃ settings, ofEntries entries = .ok settings := by
  rcases each .yieldMarker with ⟨_, marker⟩
  rcases each .writerName with ⟨_, writer⟩
  rcases each .dataName with ⟨_, data⟩
  rcases each .escapeFunction with ⟨_, escape⟩
  rcases each .indent with ⟨_, indents⟩
  rcases each .requireYield with ⟨_, yields⟩
  rcases Attempt.map_eq_ok_iff.mp marker with ⟨yieldMarker, -, rfl⟩
  rcases Attempt.map_eq_ok_iff.mp writer with ⟨writerName, -, rfl⟩
  rcases Attempt.map_eq_ok_iff.mp data with ⟨dataName, -, rfl⟩
  rcases Attempt.map_eq_ok_iff.mp escape with ⟨escapeFunction, -, rfl⟩
  rcases Attempt.map_eq_ok_iff.mp indents with ⟨indent, -, rfl⟩
  rcases Attempt.map_eq_ok_iff.mp yields with ⟨requireYield, -, rfl⟩
  refine ⟨{ yieldMarker, writerName, dataName, escapeFunction, indent, requireYield }, ?_⟩
  rw [ofEntries_eq_ok_iff_read]
  intro field
  cases field <;> assumption

/-- Entries are refused when some field does not take what they have for it. -/
theorem exists_ofEntries_eq_error_iff :
    (∃ problems, ofEntries entries = .error problems) ↔
      ∃ (field : Field) (given : Datum), Datum.get? entries field.key = some given ∧
        ∀ value, ¬ field.Takes given value := by
  constructor
  · rintro ⟨problems, failed⟩
    -- If every field took what the entries have for it, all of them could be read.
    by_contra taken
    push Not at taken
    have each : ∀ field : Field, ∃ value, field.read entries = .ok value := by
      intro field
      simp only [Field.read_eq_ok_iff]
      cases found : Datum.get? entries field.key with
      | none =>
          exact ⟨_, rfl⟩
      | some given =>
          exact taken field given found
    rcases exists_of_read each with ⟨settings, done⟩
    rw [failed] at done
    cases done
  · rintro ⟨field, given, found, untaken⟩
    cases done : ofEntries entries with
    | ok settings =>
        have settled := ofEntries_eq_ok_iff.mp done field
        rw [found] at settled
        exact absurd settled (untaken _)
    | error problems =>
        exact ⟨problems, rfl⟩

/-! ## Loading -/

namespace Field

/-- What is given for a field: the marker of the environment, or what the file has for it. -/
def given? (environment : Environment) (entries : List (Datum × Datum)) (field : Field) :
    Option Datum :=
  match field, environmentMarker? environment with
  | yieldMarker, some marker => some marker
  | _, _ => Datum.get? entries field.key

end Field

theorem get?_append_text (name key : String) (value : Datum) :
    Datum.get? (entries ++ [(.text name, value)]) key =
      if name = key then some value else Datum.get? entries key := by
  rw [Datum.get?, List.reverse_append, List.reverse_singleton, List.singleton_append,
    List.find?_cons]
  by_cases same : name = key
  · simp [same]
  · have different : (name == key) = false := beq_false_of_ne same
    simp only [different, if_neg same, Datum.get?]

/-- Behind the entries of a file, the environment has the last word. -/
theorem get?_append_environmentEntries (environment : Environment) (field : Field) :
    Datum.get? (entries ++ environmentEntries environment) field.key =
      field.given? environment entries := by
  unfold environmentEntries Field.given?
  cases environmentMarker? environment with
  | none =>
      simp
  | some marker =>
      rw [get?_append_text]
      cases field <;> rfl

/-- What there is at a path. -/
inductive Content where
  | absent
  /-- There may be something, but it cannot be read. -/
  | unreadable (problem : Workspace.Problem)
  | document (datum : Datum)

variable {reader : Reader} {workspace : Workspace} {path : Option Path} {content : Content}

/-- What there is at a path, to a reader of documents. -/
inductive Holds (reader : Reader) (workspace : Workspace) (path : Path) : Content → Prop where
  | absent (missing : workspace.hasPath path = .ok false) : Holds reader workspace path .absent
  | unsearchable {problem : Workspace.Problem} (unknown : workspace.hasPath path = .error problem) :
      Holds reader workspace path (.unreadable problem)
  | unreadable {problem : Workspace.Problem} (present : workspace.hasPath path = .ok true)
      (failed : workspace.read path = .error problem) :
      Holds reader workspace path (.unreadable problem)
  | document {text : String} {datum : Datum} (isRead : workspace.read path = .ok text)
      (parsed : reader text = some datum) : Holds reader workspace path (.document datum)

/-- The entries that are read: those of a mapping, or none if there is nothing to read. -/
inductive Supplies : Option Path → Content → List (Datum × Datum) → Prop where
  | absent : Supplies none .absent []
  | null (path : Option Path) : Supplies path (.document .null) []
  | mapping (path : Option Path) (entries : List (Datum × Datum)) :
      Supplies path (.document (.mapping entries)) entries

/-- A file that was asked for is missing, or a document is no mapping. -/
inductive SuppliesNothing : Option Path → Content → Prop where
  | missing (path : Path) : SuppliesNothing (some path) .absent
  | other {document : Datum} (path : Option Path) (notNull : document ≠ .null)
      (notMapping : ∀ entries, document ≠ .mapping entries) :
      SuppliesNothing path (.document document)

/-- A file that can be read is there. -/
theorem hasPath_of_read {workspace : Workspace} {path : Path} {text : String}
    (isRead : workspace.read path = .ok text) : workspace.hasPath path = .ok true := by
  rw [Workspace.read] at isRead
  rw [Workspace.hasPath]
  cases found : workspace.find path with
  | directory => rfl
  | file names text => rfl
  | _ =>
      rw [found] at isRead
      cases isRead

/-- Unless there is a file that is no document, something is known of a path. -/
theorem exists_holds (reader : Reader) (workspace : Workspace) (path : Path) :
    (∃ content, Holds reader workspace path content) ∨
      ∃ text, workspace.read path = .ok text ∧ reader text = none := by
  cases present : workspace.hasPath path with
  | error problem =>
      exact Or.inl ⟨_, .unsearchable present⟩
  | ok answer =>
      cases answer with
      | false =>
          exact Or.inl ⟨_, .absent present⟩
      | true =>
          cases isRead : workspace.read path with
          | error problem =>
              exact Or.inl ⟨_, .unreadable present isRead⟩
          | ok text =>
              cases parsed : reader text with
              | none =>
                  exact Or.inr ⟨text, rfl, parsed⟩
              | some datum =>
                  exact Or.inl ⟨_, .document isRead parsed⟩

/-- What is read is settled by what there is to read. -/
theorem applicableEntries_cases (holds : Holds reader workspace (path.getD defaultFile) content) :
    (∃ entries, Supplies path content entries ∧
        applicableEntries reader workspace path = .ok entries) ∨
      (SuppliesNothing path content ∧ ∃ fault : Fault, fault.kind = .configuration ∧
        applicableEntries reader workspace path = .error (.refused fault)) ∨
      ∃ problem, content = .unreadable problem ∧
        applicableEntries reader workspace path = .error (.unreadable problem) := by
  unfold applicableEntries
  cases holds with
  | absent missing =>
      -- Only here it makes a difference whether the path was named.
      rw [missing]
      cases path with
      | none =>
          exact Or.inl ⟨[], .absent, rfl⟩
      | some path =>
          exact Or.inr (Or.inl ⟨.missing path, .settingsNotFound path.display, rfl, rfl⟩)
  | unsearchable unknown =>
      rw [unknown]
      exact Or.inr (Or.inr ⟨_, rfl, rfl⟩)
  | unreadable present failed =>
      simp only [present, fileEntries, failed]
      exact Or.inr (Or.inr ⟨_, rfl, rfl⟩)
  | document isRead parsed =>
      rename_i text datum
      simp only [hasPath_of_read isRead, fileEntries, isRead, parsed]
      cases datum with
      | null =>
          exact Or.inl ⟨[], .null path, rfl⟩
      | mapping entries =>
          exact Or.inl ⟨entries, .mapping path entries, rfl⟩
      | _ =>
          exact Or.inr (Or.inl ⟨.other path (by simp) (by simp), _, rfl, rfl⟩)

/-- A file supplies one list of entries at most. -/
theorem Supplies.unique {others : List (Datum × Datum)} (supplied : Supplies path content entries)
    (alsoSupplied : Supplies path content others) : entries = others := by
  cases supplied <;> cases alsoSupplied <;> rfl

/-- The ways to supply entries and to supply nothing exclude each other. -/
theorem SuppliesNothing.not_supplies (nothing : SuppliesNothing path content) :
    ¬ Supplies path content entries := by
  cases nothing with
  | missing path =>
      rintro ⟨⟩
  | other path notNull notMapping =>
      rintro (_ | _ | _)
      · exact notNull rfl
      · exact notMapping entries rfl

/-- Entries that are all named by texts, with or without surrogates in them. -/
def Named (entries : List (Datum × Datum)) : Prop :=
  ∀ entry ∈ entries, (∃ name, entry.1 = .text name) ∨ ∃ codes, entry.1 = .brokenText codes

theorem all_isNamed_iff : entries.all isNamed = true ↔ Named entries := by
  have named (entry : Datum × Datum) : isNamed entry = true ↔
      (∃ name, entry.1 = .text name) ∨ ∃ codes, entry.1 = .brokenText codes := by
    unfold isNamed
    cases entry.1 <;> simp
  simp only [List.all_eq_true, named]
  rfl

theorem exists_supplies_iff {condition : List (Datum × Datum) → Prop}
    (supplied : Supplies path content entries) :
    (∃ others, Supplies path content others ∧ condition others) ↔ condition entries := by
  constructor
  · rintro ⟨others, alsoSupplied, holds⟩
    rw [supplied.unique alsoSupplied]
    exact holds
  · intro holds
    exact ⟨entries, supplied, holds⟩

/-- Entries that are all named are settled together with the environment. -/
theorem loadWith_of_named (environment : Environment)
    (found : applicableEntries reader workspace path = .ok entries) (named : Named entries) :
    loadWith reader workspace environment path =
      (ofEntries (entries ++ environmentEntries environment)).mapError
        fun problems => .refused (.invalidSettings problems) := by
  rw [loadWith, found]
  simp only [all_isNamed_iff.mpr named, if_true]
  cases ofEntries (entries ++ environmentEntries environment) <;> rfl

/-- An entry whose key is no text stops the loading, and not with a fault of the settings. -/
theorem loadWith_of_unnamed (environment : Environment)
    (found : applicableEntries reader workspace path = .ok entries) (unnamed : ¬ Named entries) :
    loadWith reader workspace environment path = .error .unnamedEntry := by
  rw [loadWith, found]
  exact if_neg (mt all_isNamed_iff.mp unnamed)

/-- Settings are found when every field takes what is given for it, and refused otherwise. -/
theorem loadWith_iff_of_named (environment : Environment)
    (found : applicableEntries reader workspace path = .ok entries) (named : Named entries) :
    (∀ settings, loadWith reader workspace environment path = .ok settings ↔
        ∀ field : Field,
          field.Settled (field.valueIn settings) (field.given? environment entries)) ∧
      ((∃ fault : Fault, fault.kind = .configuration ∧
          loadWith reader workspace environment path = .error (.refused fault)) ↔
        ∃ (field : Field) (given : Datum), field.given? environment entries = some given ∧
          ∀ value, ¬ field.Takes given value) ∧
      ((∃ settings, loadWith reader workspace environment path = .ok settings) ∨
        ∃ fault : Fault, fault.kind = .configuration ∧
          loadWith reader workspace environment path = .error (.refused fault)) := by
  rw [loadWith_of_named environment found named]
  refine ⟨?_, ?_, ?_⟩
  · intro settings
    simp only [Attempt.mapError_eq_ok_iff, ofEntries_eq_ok_iff, get?_append_environmentEntries]
  · simp only [← get?_append_environmentEntries, ← exists_ofEntries_eq_error_iff]
    constructor
    · rintro ⟨fault, -, failed⟩
      rcases Attempt.mapError_eq_error_iff.mp failed with ⟨problems, refused, -⟩
      exact ⟨problems, refused⟩
    · rintro ⟨problems, refused⟩
      exact ⟨.invalidSettings problems, rfl, Attempt.mapError_eq_error_iff.mpr ⟨_, refused, rfl⟩⟩
  · cases ofEntries (entries ++ environmentEntries environment) with
    | ok settings =>
        exact Or.inl ⟨settings, rfl⟩
    | error problems =>
        exact Or.inr ⟨.invalidSettings problems, rfl, rfl⟩

/-- A settings file that names the writer and lets layouts do without a yield. -/
def brandedSite : Workspace :=
  { files := [(["stache.yaml"], "writer_name: out\nrequire_yield_in_layout: 'Off'\n")] }

/-- An environment that names the yield marker. -/
def brandedEnvironment : Environment :=
  { assignments := [("STACHE_YIELD_MARKER", "content")] }

/-- Entries without a name give no field. -/
theorem get?_eq_none_of_unnamed (unnamed : entries.all (!isNamed ·) = true) (key : String) :
    Datum.get? entries key = none := by
  rw [Datum.get?, Option.map_eq_none_iff, List.find?_eq_none]
  intro entry member
  have foreign := List.all_eq_true.mp unnamed entry (List.mem_reverse.mp member)
  rw [isNamed] at foreign
  cases name : entry.1 with
  | text name =>
      rw [name] at foreign
      cases foreign
  | _ =>
      simp

/-- A settings file with an entry that is named by a number. -/
def numberedSite : Workspace :=
  { files := [(["stache.yaml"], "1: x\n")] }

end Settings

end TypedMustache
