import TypedMustache.Diagnostic
import TypedMustache.Text.Identifier

/-!
# Texts that stand for types

A text in the place of a type is read as an expression of the language.  What is
recognised here are the expressions that types are written with: names, the names
behind a dot, subscripts, bars, lists and tuples of such expressions, whole
numbers, texts between quotes, and the dots of an open tuple.

Every reader has a `fuel` argument that bounds its recursion by the length of the
text, and answers with what is left of the text.
-/

namespace TypedMustache.Text

/-- The keywords that are expressions. -/
def valueKeywords : List String := ["None", "True", "False"]

/-- Whether a text names something. -/
def isOperandName (name : String) : Bool :=
  isIdentifier name && (isUsableName name || valueKeywords.contains name)

/-- The characters up to the first one that cannot be part of a name, and the rest. -/
def nameAhead (text : List Char) : String × List Char :=
  let name := text.takeWhile fun char => isIdentifier (String.ofList ['_', char])
  (String.ofList name, text.drop name.length)

/-- Skip the blanks between the parts of an expression. -/
def skipBlanks (text : List Char) : List Char :=
  text.dropWhile fun char => char == ' ' || char == '\t'

/-- Read the inside of a text up to its closing quote. -/
def readQuoted (quote : Char) : List Char → Option (List Char)
  | [] => none
  | '\\' :: _ :: rest => readQuoted quote rest
  | char :: rest =>
    if char == quote then some rest else if char == '\n' then none else readQuoted quote rest

mutual

/-- Read expressions with bars between them. -/
def readBars : Nat → List Char → Option (List Char)
  | 0, _ => none
  | fuel + 1, text => do
    let rest ← readOperand fuel text
    match skipBlanks rest with
    | '|' :: more => readBars fuel more
    | _ => return rest

/-- Read an expression without bars. -/
def readOperand : Nat → List Char → Option (List Char)
  | 0, _ => none
  | fuel + 1, text =>
    match skipBlanks text with
    | '[' :: rest => readItems ']' true fuel rest
    | '(' :: rest => readItems ')' true fuel rest
    | '.' :: '.' :: '.' :: rest => some rest
    | '\'' :: rest => readQuoted '\'' rest
    | '"' :: rest => readQuoted '"' rest
    | char :: rest =>
      let (name, after) := nameAhead (char :: rest)
      if name.toList.all Char.isDigit && !name.isEmpty then some after
      else if isOperandName name then readTrailers fuel after
      else none
    | [] => none

/-- Read what follows a name: further names behind dots, and subscripts. -/
def readTrailers : Nat → List Char → Option (List Char)
  | 0, _ => none
  | fuel + 1, text =>
    match skipBlanks text with
    | '.' :: rest =>
      let (name, after) := nameAhead (skipBlanks rest)
      if isUsableName name then readTrailers fuel after else none
    | '[' :: rest => do readTrailers fuel (← readItems ']' false fuel rest)
    | _ => some text

/-- Read expressions with commas between them, up to a mark; there may have to be one. -/
def readItems (close : Char) (mayBeEmpty : Bool) : Nat → List Char → Option (List Char)
  | 0, _ => none
  | fuel + 1, text =>
    match skipBlanks text with
    | [] => none
    | char :: rest =>
      if char == close then if mayBeEmpty then some rest else none
      else do
        match skipBlanks (← readBars fuel (char :: rest)) with
        | ',' :: more => readItems close true fuel more
        | last :: more => if last == close then some more else none
        | [] => none

end

/-- Whether a text is an expression that a type is written with. -/
def isTypeExpression (text : String) : Bool :=
  let chars := text.toList
  let startsBlank := chars.head?.any fun char => char == ' ' || char == '\t'
  !startsBlank && (readBars (3 * chars.length + 3) chars).any fun rest => (skipBlanks rest).isEmpty

/-- What the language says of a text that is no expression. -/
def expressionError (text : String) : LanguageError :=
  { label := "SyntaxError"
    message := "Forward reference must be an expression -- got " ++ quoted text }

/-- The texts that types are written with are expressions; others are refused. -/
def typeTexts : Texts := fun text =>
  if isTypeExpression text then none else some (expressionError text)

end TypedMustache.Text
