import TypedMustache.Text.Quoted

/-!
# Tokens of a template

A template is a flat sequence of tokens: literal text, the characters that
cannot stand raw in a generated literal, references to members, and the marks
that open and close sections.  Each token knows where it was found.
-/

namespace TypedMustache

/-- A place in a template. Lines and columns count from one, offsets from zero. -/
structure Position where
  source : String
  line : Int
  column : Int
  offset : Int
deriving DecidableEq, Repr

namespace Position

/-- The first place of a source. -/
def start (source : String) : Position :=
  { source, line := 1, column := 1, offset := 0 }

/-- The place as it is shown in diagnostics. -/
def describe (position : Position) : String :=
  position.source ++ ":" ++ toString position.line ++ ":" ++ toString position.column

end Position

namespace Token

/-- What a token stands for. -/
inductive Kind where
  /-- Literal text. -/
  | text
  /-- A line feed, carriage return, double quote or backslash. -/
  | special
  /-- A reference whose value is escaped. -/
  | reference
  /-- A reference whose value is written as it is. -/
  | rawReference
  /-- The start of a section. -/
  | sectionOpen
  /-- The start of an inverted section. -/
  | invertedOpen
  /-- The end of a section of either sort. -/
  | sectionClose
  /-- The end of the template. -/
  | endOfFile
deriving DecidableEq, Repr

/-- The word that names a kind. -/
def Kind.label : Kind → String
  | text => "text"
  | special => "special_character"
  | reference => "variable"
  | rawReference => "unescaped_variable"
  | sectionOpen => "section_open"
  | invertedOpen => "inverted_section_open"
  | sectionClose => "section_close"
  | endOfFile => "end_of_file"

/-- The kinds, in the order of their declaration. -/
def Kind.all : List Kind :=
  [text, special, reference, rawReference, sectionOpen, invertedOpen, sectionClose, endOfFile]

/-- The kind that a word names. -/
def Kind.ofLabel? (label : String) : Option Kind :=
  Kind.all.find? (·.label == label)

end Token

/-- A token: its value is the literal text or the name it refers to. -/
structure Token where
  kind : Token.Kind
  value : String
  position : Position
deriving DecidableEq, Repr

namespace Token

/-- The token that ends a template. -/
def atEnd (position : Position) : Token :=
  { kind := .endOfFile, value := "", position }

/-- One line that shows a token: place, kind and value. -/
def describe (token : Token) : String :=
  let shown := token.position.describe ++ " " ++ token.kind.label
  if token.kind = .endOfFile then shown
  else shown ++ " " ++ Text.quoted token.value

end Token

end TypedMustache
