import TypedMustache.Datum

/-!
# Writing JSON

`Json.render` writes a datum with every item and every entry on a line of its
own, and `Json.compact` writes it on one line.  Strings are written raw but for
the quote, the backslash and the control characters.  Data that JSON has no form
for are written as strings that display them.
-/

namespace TypedMustache.Json

/-- One character of a JSON string. -/
def stringChar (char : Char) : List Char :=
  if char == '"' then ['\\', '"']
  else if char == '\\' then ['\\', '\\']
  else if char.toNat == 8 then ['\\', 'b']
  else if char.toNat == 9 then ['\\', 't']
  else if char.toNat == 10 then ['\\', 'n']
  else if char.toNat == 12 then ['\\', 'f']
  else if char.toNat == 13 then ['\\', 'r']
  else if char.toNat < 0x20 then ['\\', 'u'] ++ Text.hexDigits 4 char.toNat
  else [char]

/-- A JSON string. -/
def quote (text : String) : String :=
  String.ofList (['"'] ++ text.toList.flatMap stringChar ++ ['"'])

/-- A scalar as JSON. -/
def scalar : Datum → String
  | .null => "null"
  | .boolean value => if value then "true" else "false"
  | .integer value => toString value
  | .number .notANumber => "NaN"
  | .number (.infinite negative) => if negative then "-Infinity" else "Infinity"
  | .number value => value.display
  | .text value => quote value
  | .sequence _ => "[]"
  | .mapping _ => "\x7b\x7d"
  | other => quote other.display

/-- The key of an entry: texts are quoted, other keys are quoted by their display. -/
def key : Datum → String
  | .text value => quote value
  | other => quote other.display

/-- A line break and the indentation of a level. -/
def lineBreak (indent level : Nat) : String :=
  String.ofList ('\n' :: List.replicate (indent * level) ' ')

mutual

/-- A datum as JSON, at a level of nesting. -/
def renderAt (indent level : Nat) : Datum → String
  | .sequence (item :: rest) =>
    "[" ++ Text.join "," (renderItems indent (level + 1) (item :: rest))
      ++ lineBreak indent level ++ "]"
  | .mapping (entry :: rest) =>
    "\x7b" ++ Text.join "," (renderEntries indent (level + 1) (entry :: rest))
      ++ lineBreak indent level ++ "\x7d"
  | other => scalar other

/-- The items of an array, each with the line break before it. -/
def renderItems (indent level : Nat) : List Datum → List String
  | [] => []
  | item :: rest =>
    (lineBreak indent level ++ renderAt indent level item) :: renderItems indent level rest

/-- The entries of an object, each with the line break before it. -/
def renderEntries (indent level : Nat) : List (Datum × Datum) → List String
  | [] => []
  | (name, value) :: rest =>
    (lineBreak indent level ++ key name ++ ": " ++ renderAt indent level value)
      :: renderEntries indent level rest

end

/-- A datum as JSON. -/
def render (indent : Nat) (datum : Datum) : String :=
  renderAt indent 0 datum

/-! ## On one line -/

mutual

/-- A datum as JSON on one line. -/
def compact : Datum → String
  | .sequence items => "[" ++ Text.join "," (compactItems items) ++ "]"
  | .mapping entries => "\x7b" ++ Text.join "," (compactEntries entries) ++ "\x7d"
  | other => scalar other

/-- The items of an array. -/
def compactItems : List Datum → List String
  | [] => []
  | item :: rest => compact item :: compactItems rest

/-- The entries of an object. -/
def compactEntries : List (Datum × Datum) → List String
  | [] => []
  | (name, value) :: rest => (key name ++ ":" ++ compact value) :: compactEntries rest

end

end TypedMustache.Json
