/-!
# Walking through YAML text

A cursor is the text that is still to be read, and where it starts.  The end of
the text reads as the character zero, which no YAML text contains.
-/

namespace TypedMustache.Yaml

/-- What stands for the end of a text. -/
def endMark : Char := '\x00'

/-- Whether a character ends a line. -/
def isBreak (char : Char) : Bool :=
  char == '\n' || char == '\r' || char.toNat == 0x85 || char.toNat == 0x2028
    || char.toNat == 0x2029

/-- Whether a character ends a line or the text. -/
def isBreakOrEnd (char : Char) : Bool :=
  isBreak char || char == endMark

/-- Whether a character divides words, or ends the text. -/
def isGap (char : Char) : Bool :=
  char == ' ' || char == '\t' || isBreakOrEnd char

/-- The characters that YAML text can contain. -/
def isAllowed (char : Char) : Bool :=
  let code := char.toNat
  code == 0x09 || code == 0x0A || code == 0x0D || (0x20 ≤ code && code ≤ 0x7E) || code == 0x85
    || (0xA0 ≤ code && code ≤ 0xFFFD) || 0x10000 ≤ code

/-- A place in a text. -/
structure Cursor where
  rest : List Char
  line : Nat := 0
  column : Nat := 0
  index : Nat := 0

namespace Cursor

/-- The character that is a number of characters ahead. -/
def peek (cursor : Cursor) (ahead : Nat) : Char :=
  (cursor.rest.drop ahead).headD endMark

/-- The next character. -/
def next (cursor : Cursor) : Char :=
  cursor.rest.headD endMark

/-- The place after the next character. -/
def advance (cursor : Cursor) : Cursor :=
  match cursor.rest with
  | [] => cursor
  | char :: rest =>
    let index := cursor.index + 1
    if isBreak char && !(char == '\r' && rest.head? == some '\n') then
      { rest, line := cursor.line + 1, column := 0, index }
    else if char.toNat == 0xFEFF then { cursor with rest, index }
    else { cursor with rest, column := cursor.column + 1, index }

/-- The place after a number of characters. -/
def skip (cursor : Cursor) : Nat → Cursor
  | 0 => cursor
  | count + 1 => cursor.advance.skip count

/-- The characters up to the first one that does not belong to a class, and the place after. -/
def span (cursor : Cursor) (belongs : Char → Bool) : List Char × Cursor :=
  let chars := cursor.rest.takeWhile belongs
  (chars, cursor.skip chars.length)

/-- The place after the characters that belong to a class. -/
def skipWhile (cursor : Cursor) (belongs : Char → Bool) : Cursor :=
  (cursor.span belongs).2

/-- The line break at a place, which most of them spell as a line feed, and the place after. -/
def lineBreak (cursor : Cursor) : List Char × Cursor :=
  let char := cursor.next
  if char == '\r' && cursor.peek 1 == '\n' then (['\n'], cursor.skip 2)
  else if char == '\n' || char == '\r' || char.toNat == 0x85 then (['\n'], cursor.advance)
  else if isBreak char then ([char], cursor.advance)
  else ([], cursor)

/-- Whether a mark that starts or ends a document stands at a place. -/
def atMark (cursor : Cursor) (mark : String) : Bool :=
  mark.toList.isPrefixOf cursor.rest && isGap (cursor.peek 3)

/-- Whether a document starts or ends at a place. -/
def atSeparator (cursor : Cursor) : Bool :=
  cursor.atMark "---" || cursor.atMark "..."

end Cursor

end TypedMustache.Yaml
