import TypedMustache.Datum
import TypedMustache.Settings.Problem
import TypedMustache.Text.CharacterClass
import TypedMustache.Text.Identifier

/-!
# Settings of the compiler

Settings choose the names and the indentation of the generated code, and the
rules for layouts.  They are given as the entries of a mapping.  Entries with
other names are ignored, and a field without an entry keeps its default.

`Settings.ofEntries` accepts the entries when every field has a value that can be
used; otherwise it lists what is wrong, field by field.
-/

namespace TypedMustache

/-- The settings of the compiler. -/
structure Settings where
  /-- The raw reference that divides a layout into header and footer. -/
  yieldMarker : String := "yield"
  /-- The writer parameter of the generated functions. -/
  writerName : String := "writer"
  /-- The data parameter of the generated functions. -/
  dataName : String := "data"
  /-- The function that escapes text. -/
  escapeFunction : String := "escape_html"
  /-- One level of indentation. -/
  indent : String := "    "
  /-- Whether a layout has to yield. -/
  requireYield : Bool := true
deriving DecidableEq, Repr

/-! ## Texts and truth values -/

namespace Datum

/-- The text that bytes encode. -/
def decoded? (octets : List UInt8) : Option String :=
  String.fromUTF8? ⟨octets.toArray⟩

/-- The text that a datum can be taken for. -/
def asText : Datum → Except Settings.Refusal String
  | text value => .ok value
  | bytes octets =>
    match decoded? octets with
    | some value => .ok value
    | none => .error .notUnicode
  | brokenText _ => .error .notUnicode
  | _ => .error .notText

/-- The words for a false value. -/
def falseWords : List String := ["0", "off", "f", "false", "n", "no"]

/-- The words for a true value. -/
def trueWords : List String := ["1", "on", "t", "true", "y", "yes"]

/-- Whether two texts agree but for the case of the letters of the alphabet. -/
def sameWord (word other : String) : Bool :=
  word.toList.map Char.toLower == other.toList.map Char.toLower

/-- The truth value of a whole number. -/
def flagOfInt (value : Int) : Except Settings.Refusal Bool :=
  if value = 0 then .ok false else if value = 1 then .ok true else .error .unclearBoolean

/-- The truth value of a word. -/
def flagOfWord (word : String) : Except Settings.Refusal Bool :=
  if falseWords.any (sameWord word) then .ok false
  else if trueWords.any (sameWord word) then .ok true
  else .error .unclearBoolean

/-- The truth value that a datum can be taken for. -/
def flag : Datum → Except Settings.Refusal Bool
  | boolean value => .ok value
  | integer value => flagOfInt value
  | number value =>
    if value.equalsInt 0 then .ok false
    else if value.equalsInt 1 then .ok true
    else .error (if value.isWhole then .unclearBoolean else .notBoolean)
  | text word => flagOfWord word
  | bytes octets =>
    match decoded? octets with
    | some word => flagOfWord word
    | none => .error .unclearBoolean
  | brokenText _ => .error .notUnicode
  | _ => .error .notBoolean

end Datum

namespace Settings

/-! ## Rules of the fields -/

/-- Any text can be a yield marker. -/
def anyText (_ : String) : Option Refusal := none

/-- A parameter needs a name that is an identifier and no keyword. -/
def nameRefusal? (name : String) : Option Refusal :=
  if Text.isUsableName name then none else some (.unusableName name)

theorem nameRefusal?_eq_none_iff {name : String} :
    nameRefusal? name = none ↔ Text.isUsableName name = true := by
  simp [nameRefusal?]

/-- The functions that can escape text. -/
def escapeFunctions : List String := ["escape_html"]

/-- The escaping function has to be one of those that exist. -/
def escapeRefusal? (name : String) : Option Refusal :=
  if escapeFunctions.contains name then none else some (.notEscaping name)

theorem escapeRefusal?_eq_none_iff {name : String} :
    escapeRefusal? name = none ↔ name = "escape_html" := by
  simp [escapeRefusal?, escapeFunctions]

/-- An indentation is white space, and not empty. -/
def indentRefusal? (indent : String) : Option Refusal :=
  if indent.isEmpty || !Text.isBlankText indent then some .notBlank else none

theorem indentRefusal?_eq_none_iff {indent : String} :
    indentRefusal? indent = none ↔
      indent ≠ "" ∧ ∀ char ∈ indent.toList, Text.isBlank char = true := by
  simp [indentRefusal?, Text.isBlankText]

/-! ## Reading entries -/

/-- The value of a field that holds a text. -/
def textField (entries : List (Datum × Datum)) (field default : String)
    (refusal? : String → Option Refusal) : Except Problem String :=
  match Datum.get? entries field with
  | none => .ok default
  | some datum =>
    match datum.asText with
    | .error refusal => .error { field, refusal }
    | .ok value =>
      match refusal? value with
      | none => .ok value
      | some refusal => .error { field, refusal }

/-- The value of a field that holds a truth value. -/
def flagField (entries : List (Datum × Datum)) (field : String) (default : Bool) :
    Except Problem Bool :=
  match Datum.get? entries field with
  | none => .ok default
  | some datum =>
    match datum.flag with
    | .ok value => .ok value
    | .error refusal => .error { field, refusal }

/-- The problem with a field, if there is one. -/
def problem? {α : Type} : Except Problem α → Option Problem
  | .ok _ => none
  | .error problem => some problem

/-- The settings that entries give, or what is wrong with them in the order of the fields. -/
def ofEntries (entries : List (Datum × Datum)) : Except (List Problem) Settings :=
  let yieldMarker := textField entries "yield_marker" "yield" anyText
  let writerName := textField entries "writer_name" "writer" nameRefusal?
  let dataName := textField entries "data_name" "data" nameRefusal?
  let escapeFunction := textField entries "escape_function" "escape_html" escapeRefusal?
  let indent := textField entries "indent" "    " indentRefusal?
  let requireYield := flagField entries "require_yield_in_layout" true
  match yieldMarker, writerName, dataName, escapeFunction, indent, requireYield with
  | .ok yieldMarker, .ok writerName, .ok dataName, .ok escapeFunction, .ok indent,
      .ok requireYield =>
    .ok { yieldMarker, writerName, dataName, escapeFunction, indent, requireYield }
  | _, _, _, _, _, _ =>
    .error <| [problem? yieldMarker, problem? writerName, problem? dataName,
      problem? escapeFunction, problem? indent, problem? requireYield].filterMap id

/-- The settings as a record. -/
def toDatum (settings : Settings) : Datum :=
  .record
    [("yield_marker", .text settings.yieldMarker), ("writer_name", .text settings.writerName),
      ("data_name", .text settings.dataName), ("escape_function", .text settings.escapeFunction),
      ("indent", .text settings.indent),
      ("require_yield_in_layout", .boolean settings.requireYield)]

end Settings

end TypedMustache
