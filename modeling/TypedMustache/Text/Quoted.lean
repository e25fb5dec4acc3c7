import TypedMustache.Text.Printable

/-!
# Quoted display of texts

Diagnostics and displays show a text between quotes.  Single quotes are used
unless the text holds a single quote and no double quote.  The quote itself and
the backslash are escaped, line feed, carriage return and tab have short
escapes, and other characters that are not printable are spelled by number.

Literal text of a template is written into the generated code between double
quotes on one line.  Control characters cannot stand there as they are, nor can
the quote and the backslash.
-/

namespace TypedMustache.Text

/-- The hexadecimal digits of a number, with zeros in front up to a width. -/
def hexDigits (width number : Nat) : List Char :=
  let digits := Nat.toDigits 16 number
  List.replicate (width - digits.length) '0' ++ digits

/-- The spelling of a character by its number, in the shortest form that has room for it. -/
def escapeByNumber (char : Char) : List Char :=
  if char.toNat < 0x100 then ['\\', 'x'] ++ hexDigits 2 char.toNat
  else if char.toNat < 0x10000 then ['\\', 'u'] ++ hexDigits 4 char.toNat
  else ['\\', 'U'] ++ hexDigits 8 char.toNat

/-- One character of a quoted display. -/
def quotedChar (quote char : Char) : List Char :=
  if char == quote || char == '\\' then ['\\', char]
  else if char == '\n' then ['\\', 'n']
  else if char == '\r' then ['\\', 'r']
  else if char == '\t' then ['\\', 't']
  else if isPrintable char then [char]
  else escapeByNumber char

/-- The quote that a text is displayed with. -/
def quoteFor (text : List Char) : Char :=
  if text.contains '\'' && !text.contains '"' then '"' else '\''

/-- A text between quotes. -/
def quoted (text : String) : String :=
  let quote := quoteFor text.toList
  String.ofList ([quote] ++ text.toList.flatMap (quotedChar quote) ++ [quote])

/-! ## Literals of the generated code -/

/-- One character inside a double-quoted literal. -/
def literalChar (char : Char) : List Char :=
  if char == '\n' then ['\\', 'n']
  else if char == '\r' then ['\\', 'r']
  else if char == '"' then ['\\', '"']
  else if char == '\\' then ['\\', '\\']
  else if char.toNat < 0x20 || char.toNat == 0x7F then ['\\', 'x'] ++ hexDigits 2 char.toNat
  else [char]

/-- The inside of the double-quoted literal that denotes a text. -/
def literal (text : String) : String :=
  String.ofList (text.toList.flatMap literalChar)

end TypedMustache.Text
