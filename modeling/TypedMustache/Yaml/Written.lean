import TypedMustache.Json.Reader
import TypedMustache.Yaml.Cursor

/-!
# Scalars as they are written in YAML

A scalar is written plain, between single or double quotes, or as a block of
lines.  Line breaks inside a plain or quoted scalar are folded: a single one
counts as a space, and of several ones the first is dropped.

Every reader has a `fuel` argument that bounds its loop by the length of the text.
-/

namespace TypedMustache.Yaml

/-- Characters folded from a line break and the empty lines after it. -/
def folded (first breaks : List Char) : List Char :=
  if first != ['\n'] then first ++ breaks else if breaks.isEmpty then [' '] else breaks

/-! ## Plain scalars -/

/-- What follows a word of a plain scalar. -/
structure PlainGap where
  /-- What the gap stands for, if the scalar can go on after it. -/
  filler : List Char
  /-- Whether the gap ends a line. -/
  endsLine : Bool
  cursor : Cursor

/-- Skip blanks and empty lines; `none` where a document starts or ends. -/
def plainBreaks : Nat → Cursor → Option (List Char) × Cursor
  | 0, cursor => (none, cursor)
  | fuel + 1, cursor =>
    let cursor := cursor.skipWhile (· == ' ')
    if isBreak cursor.next then
      let (first, after) := cursor.lineBreak
      if after.atSeparator then (none, after)
      else
        let (breaks, after) := plainBreaks fuel after
        (breaks.map (first ++ ·), after)
    else (some [], cursor)

/-- The gap after a word of a plain scalar. -/
def plainGap (cursor : Cursor) : PlainGap :=
  let (blanks, after) := cursor.span (· == ' ')
  if isBreak after.next then
    let (first, next) := after.lineBreak
    if next.atSeparator then { filler := [], endsLine := true, cursor := next }
    else
      match plainBreaks next.rest.length.succ next with
      | (none, last) => { filler := [], endsLine := true, cursor := last }
      | (some breaks, last) => { filler := folded first breaks, endsLine := true, cursor := last }
  else { filler := blanks, endsLine := false, cursor := after }

/-- The length of the word of a plain scalar at a place. -/
def plainWordLength (inFlow : Bool) : List Char → Nat
  | [] => 0
  | char :: rest =>
    let next := rest.headD endMark
    if isGap char then 0
    else if char == ':' && (isGap next || (inFlow && ",[]\x7b\x7d".toList.contains next)) then 0
    else if inFlow && ",?[]\x7b\x7d".toList.contains char then 0
    else plainWordLength inFlow rest + 1

/-- A plain scalar, whether it ends a line, and the place after it. -/
structure Plain where
  text : List Char
  endsLine : Bool
  cursor : Cursor

/-- Read a plain scalar; `filler` is what stands before the next word. -/
def plainFrom (inFlow : Bool) (indent : Int) : Nat → List Char → Bool → Cursor → Plain
  | 0, _, endsLine, cursor => { text := [], endsLine, cursor }
  | fuel + 1, filler, endsLine, cursor =>
    let length := if cursor.next == '#' then 0 else plainWordLength inFlow cursor.rest
    if length = 0 then { text := [], endsLine, cursor }
    else
      let word := cursor.rest.take length
      let gap := plainGap (cursor.skip length)
      if gap.filler.isEmpty || gap.cursor.next == '#'
          || (!inFlow && (gap.cursor.column : Int) < indent) then
        { text := filler ++ word, endsLine := gap.endsLine, cursor := gap.cursor }
      else
        let later := plainFrom inFlow indent fuel gap.filler gap.endsLine gap.cursor
        { later with text := filler ++ word ++ later.text }

/-- Read a plain scalar; its later lines are indented by at least `indent`. -/
def plain (inFlow : Bool) (indent : Int) (cursor : Cursor) : Plain :=
  plainFrom inFlow indent cursor.rest.length.succ [] false cursor

/-! ## Quoted scalars -/

/-- The characters that a letter after a backslash stands for. -/
def escapes : List (Char × Nat) :=
  [('0', 0x00), ('a', 0x07), ('b', 0x08), ('t', 0x09), ('\t', 0x09), ('n', 0x0A), ('v', 0x0B),
    ('f', 0x0C), ('r', 0x0D), ('e', 0x1B), (' ', 0x20), ('"', 0x22), ('\\', 0x5C), ('/', 0x2F),
    ('N', 0x85), ('_', 0xA0), ('L', 0x2028), ('P', 0x2029)]

/-- How many digits spell a character by its number after a letter. -/
def escapeWidths : List (Char × Nat) :=
  [('x', 2), ('u', 4), ('U', 8)]

/-- The number that hexadecimal digits spell. -/
def hexNumber? (digits : List Char) : Option Nat :=
  digits.foldlM (fun number digit => (Json.hexValue? digit).map (number * 16 + ·)) 0

/-- Skip blanks and empty lines inside quotes; fails where a document starts or ends. -/
def quotedBreaks : Nat → Cursor → Option (List Char × Cursor)
  | 0, _ => none
  | fuel + 1, cursor =>
    if cursor.atSeparator then none
    else
      let after := cursor.skipWhile fun char => char == ' ' || char == '\t'
      if isBreak after.next then do
        let (first, next) := after.lineBreak
        let (breaks, last) ← quotedBreaks fuel next
        return (first ++ breaks, last)
      else some ([], after)

/-- What blanks and line breaks inside quotes stand for. -/
def quotedGap (cursor : Cursor) : Option (List Char × Cursor) :=
  let (blanks, after) := cursor.span fun char => char == ' ' || char == '\t'
  if after.next == endMark then none
  else if isBreak after.next then do
    let (first, next) := after.lineBreak
    let (breaks, last) ← quotedBreaks next.rest.length.succ next
    return (folded first breaks, last)
  else some (blanks, after)

/-- The character of a number, if there is one. -/
def charOf? (code : Nat) : Option Char :=
  if code.isValidChar then some (Char.ofNat code) else none

/--
What an escape stands for; the cursor is behind the backslash.  A number that is none of a
character, as those of surrogates are, stands for nothing.
-/
def quotedEscape (cursor : Cursor) : Option (List Char × Cursor) :=
  let letter := cursor.next
  match escapes.lookup letter, escapeWidths.lookup letter with
  | some code, _ => some ([Char.ofNat code], cursor.advance)
  | none, some width => do
    let digits := cursor.advance.rest.take width
    if digits.length = width then
      let char ← charOf? (← hexNumber? digits)
      return ([char], cursor.skip (width + 1))
    else none
  | none, none =>
    if isBreak letter then
      let after := cursor.lineBreak.2
      quotedBreaks after.rest.length.succ after
    else none

/-- The characters inside quotes up to a blank, a line break or the closing quote. -/
def quotedWord (double : Bool) : Nat → Cursor → Option (List Char × Cursor)
  | 0, _ => none
  | fuel + 1, cursor => do
    let (chars, after) := cursor.span fun char =>
      !(char == '\'' || char == '"' || char == '\\' || isGap char)
    let char := after.next
    if !double && char == '\'' && after.peek 1 == '\'' then
      let (more, last) ← quotedWord double fuel (after.skip 2)
      return (chars ++ '\'' :: more, last)
    else if (double && char == '\'') || (!double && (char == '"' || char == '\\')) then
      let (more, last) ← quotedWord double fuel after.advance
      return (chars ++ char :: more, last)
    else if double && char == '\\' then
      let (meant, next) ← quotedEscape after.advance
      let (more, last) ← quotedWord double fuel next
      return (chars ++ meant ++ more, last)
    else
      return (chars, after)

/-- The inside of a quoted scalar, and the place behind the closing quote. -/
def quotedFrom (double : Bool) : Nat → Cursor → Option (List Char × Cursor)
  | 0, _ => none
  | fuel + 1, cursor => do
    let (word, after) ← quotedWord double cursor.rest.length.succ cursor
    if after.next == (if double then '"' else '\'') then return (word, after.advance)
    else
      let (gap, next) ← quotedGap after
      let (more, last) ← quotedFrom double fuel next
      return (word ++ gap ++ more, last)

/-- Read a quoted scalar; the cursor is at the opening quote. -/
def quoted (double : Bool) (cursor : Cursor) : Option (List Char × Cursor) :=
  quotedFrom double cursor.rest.length.succ cursor.advance

/-! ## Block scalars -/

/-- What happens to the line breaks at the end of a block scalar. -/
inductive Chomping where
  | strip
  | clip
  | keep
deriving DecidableEq, Repr

/-- The marks behind the indicator of a block scalar. -/
def blockMarks (cursor : Cursor) : Option (Chomping × Option Nat × Cursor) :=
  let chomping? (char : Char) : Option Chomping :=
    if char == '+' then some .keep else if char == '-' then some .strip else none
  let digit? (char : Char) : Option Nat :=
    if '0' ≤ char && char ≤ '9' then some (char.toNat - 48) else none
  let first := cursor.next
  let second := cursor.peek 1
  let read : Chomping × Option Nat × Cursor :=
    match chomping? first, digit? first with
    | some chomping, _ =>
      match digit? second with
      | some digit => (chomping, some digit, cursor.skip 2)
      | none => (chomping, none, cursor.advance)
    | none, some digit =>
      match chomping? second with
      | some chomping => (chomping, some digit, cursor.skip 2)
      | none => (.clip, some digit, cursor.advance)
    | none, none => (.clip, none, cursor)
  let after := read.2.2
  if read.2.1 == some 0 then none
  else if after.next == ' ' || isBreakOrEnd after.next then
    let blank := after.skipWhile (· == ' ')
    let ended := if blank.next == '#' then blank.skipWhile (!isBreak ·) else blank
    if isBreakOrEnd ended.next then some (read.1, read.2.1, ended.lineBreak.2) else none
  else none

/-- The empty lines at the front of a block scalar, and the greatest indentation among them. -/
def blockFront : Nat → Nat → Cursor → List Char × Nat × Cursor
  | 0, greatest, cursor => ([], greatest, cursor)
  | fuel + 1, greatest, cursor =>
    if cursor.next == ' ' then
      let after := cursor.advance
      blockFront fuel (max greatest after.column) after
    else if isBreak cursor.next then
      let (first, after) := cursor.lineBreak
      let (breaks, greatest, last) := blockFront fuel greatest after
      (first ++ breaks, greatest, last)
    else ([], greatest, cursor)

/-- Skip spaces up to a column. -/
def skipIndent (indent : Nat) (cursor : Cursor) : Cursor :=
  cursor.skip ((cursor.rest.take (indent - cursor.column)).takeWhile (· == ' ')).length

/-- The empty lines before a line of a block scalar. -/
def blockBreaks (indent : Nat) : Nat → Cursor → List Char × Cursor
  | 0, cursor => ([], cursor)
  | fuel + 1, cursor =>
    let after := skipIndent indent cursor
    if isBreak after.next then
      let (first, next) := after.lineBreak
      let (breaks, last) := blockBreaks indent fuel next
      (first ++ breaks, last)
    else ([], after)

/-- The lines of a block scalar; `breaks` are the empty lines before the next one. -/
def blockLines (foldLines : Bool) (chomping : Chomping) (indent : Nat) :
    Nat → List Char → Cursor → List Char × Cursor
  | 0, _, cursor => ([], cursor)
  | fuel + 1, breaks, cursor =>
    let (line, after) := cursor.span (!isBreak ·)
    let (ending, next) := after.lineBreak
    let (later, last) := blockBreaks indent next.rest.length.succ next
    let isBlank (char : Char) : Bool := char == ' ' || char == '\t'
    if last.column == indent && last.next != endMark then
      let joint :=
        if foldLines && ending == ['\n'] && !isBlank cursor.next && !isBlank last.next then
          if later.isEmpty then [' '] else []
        else ending
      let (more, final) := blockLines foldLines chomping indent fuel later last
      (breaks ++ line ++ joint ++ more, final)
    else
      let tail :=
        match chomping with
        | .strip => []
        | .clip => ending
        | .keep => ending ++ later
      (breaks ++ line ++ tail, last)

/-- Read a block scalar; the cursor is behind its indicator, and `indent` is that around it. -/
def blockScalar (foldLines : Bool) (indent : Int) (cursor : Cursor) :
    Option (List Char × Cursor) := do
  let (chomping, increment, start) ← blockMarks cursor
  let least := max 1 (indent + 1).toNat
  let (breaks, column, first) :=
    match increment with
    | none =>
      let (breaks, greatest, first) := blockFront start.rest.length.succ 0 start
      (breaks, max least greatest, first)
    | some increment =>
      let column := least + increment - 1
      let (breaks, first) := blockBreaks column start.rest.length.succ start
      (breaks, column, first)
  if first.column == column && first.next != endMark then
    return blockLines foldLines chomping column first.rest.length.succ breaks first
  else
    return (if chomping = .keep then breaks else [], first)

end TypedMustache.Yaml
