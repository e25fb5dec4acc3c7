import TypedMustache.Scope

/-!
# Statements of the generated code

The type of a value decides about the statement that writes it, and the shape of
a section about the line that heads its block.  What a type is when there is a
value has to be known for both; where a section has been opened over a value, it
is.
-/

namespace TypedMustache

/-- The writer that escapes what values render themselves. -/
def escapingWriter : String := "HtmlEscapingWriter"

namespace Reference

/-- The text of a value, as an expression; numbers and truth values need no escaping. -/
def textExpression (settings : Settings) (escaped : Bool) (classification : Classification)
    (expression : String) : String :=
  let escape (text : String) : String :=
    if escaped then settings.escapeFunction ++ "(" ++ text ++ ")" else text
  match classification with
  | .numeric => "str(" ++ expression ++ ")"
  | .boolean => "(\"true\" if " ++ expression ++ " else \"false\")"
  | .string | .character => escape expression
  | .renderable | .exception | .object => escape ("str(" ++ expression ++ ")")

/-- The statement that writes a value that is classified; nothing is written for an absent one. -/
def statementFor (settings : Settings) (escaped optional : Bool) (classification : Classification)
    (reference : Reference) : String :=
  let expression := reference.expression settings
  let writer := settings.writerName
  match classification with
  | .renderable =>
    let target := if escaped then escapingWriter ++ "(" ++ writer ++ ")" else writer
    let call := expression ++ ".render(" ++ target ++ ")"
    if optional then "None if " ++ expression ++ " is None else " ++ call else call
  | classification =>
    let text := textExpression settings escaped classification expression
    let guarded := if optional then "\"\" if " ++ expression ++ " is None else " ++ text else text
    writer ++ ".write(" ++ guarded ++ ")"

/-- The statement that writes a value, if its type can be looked through. -/
def writeStatement (catalog : Catalog) (settings : Settings) (escaped : Bool)
    (reference : Reference) : Except Failure String := do
  let optional ← reference.type.isOptional catalog
  let classification ← reference.type.classify catalog
  return reference.statementFor settings escaped optional classification

/-- The statement that writes a value whose type is known to be looked through. -/
def statement (catalog : Catalog) (settings : Settings) (escaped : Bool)
    (reference : Reference) : String :=
  reference.statementFor settings escaped reference.type.admitsNone
    (reference.type.present.classifyPresent catalog)

/-- Where there is a shape for a section over a value, there is a statement that writes it. -/
theorem writeStatement_of_sectionShape
    {catalog : Catalog} {settings : Settings} {escaped : Bool} {reference : Reference}
    {found : Shape × DataType} (shaped : reference.type.sectionShape catalog = .ok found) :
    reference.writeStatement catalog settings escaped =
      .ok (reference.statement catalog settings escaped) := by
  rw [writeStatement, DataType.isOptional_of_sectionShape shaped,
    DataType.classify_of_sectionShape shaped]
  rfl

end Reference

namespace Section

/-- The line that heads the block of a section. -/
def header (settings : Settings) (opened : Section) : String :=
  let subject := opened.subject.expression settings
  match opened.inverted, opened.shape with
  | true, .optional => "if " ++ subject ++ " is None:"
  | true, _ => "if not " ++ subject ++ ":"
  | false, .iteration =>
    let elements := if opened.subject.type.admitsNone then subject ++ " or ()" else subject
    "for " ++ opened.bound.expression settings ++ " in " ++ elements ++ ":"
  | false, .optional => "if " ++ subject ++ " is not None:"
  | false, _ => "if " ++ subject ++ ":"

/-- The line that follows the block of a section. -/
def trailer (opened : Section) : String :=
  "# /" ++ opened.name

end Section

namespace Scope

/-- The statement that writes the member that the innermost section is over. -/
def writeStatement (catalog : Catalog) (settings : Settings) (escaped : Bool) (scope : Scope) :
    Except Failure String :=
  scope.subject.writeStatement catalog settings escaped

/-- The same statement, where a section is open. -/
def statement (catalog : Catalog) (settings : Settings) (escaped : Bool) (scope : Scope) :
    String :=
  scope.subject.statement catalog settings escaped

theorem writeStatement_of_enter
    {catalog : Catalog} {settings : Settings} {name : String} {escaped inverted : Bool}
    {scope opened : Scope} (entered : (scope.enter catalog name inverted).outcome = .ok opened) :
    opened.writeStatement catalog settings escaped =
      .ok (opened.statement catalog settings escaped) := by
  simp only [enter, openOver] at entered
  split at entered
  · cases entered
  · split at entered
    · cases entered
    · rename_i shaped
      cases entered
      exact Reference.writeStatement_of_sectionShape shaped

/-- The line that heads the block of the innermost section. -/
def header (settings : Settings) (scope : Scope) : String :=
  match scope.sections with
  | [] => "if " ++ scope.data.expression settings ++ ":"
  | innermost :: _ => innermost.header settings

/-- The line that follows the block of the innermost section. -/
def trailer (scope : Scope) : String :=
  match scope.sections with
  | [] => "# /None"
  | innermost :: _ => innermost.trailer

end Scope

end TypedMustache
