import TypedMustache.Yaml.Written

/-!
# Tokens of YAML

The layout of a YAML text is turned into tokens: indentation opens and closes
blocks, and a scalar that a colon follows is a key.  Whether it is one is known
only when the colon is met, so the places where a key may have started are
remembered.  Such a place is given up at the end of its line; where a block
mapping needs a key, that is an error.
-/

namespace TypedMustache.Yaml

/-- A token of YAML. -/
inductive Token where
  | directive
  | documentStart
  | documentEnd
  | blockSequenceStart
  | blockMappingStart
  | blockEnd
  | flowSequenceStart
  | flowSequenceEnd
  | flowMappingStart
  | flowMappingEnd
  | blockEntry
  | flowEntry
  | key
  | value
  /-- What was given before under a name. -/
  | repeated (name : String)
  | anchor (name : String)
  | tag (name : String)
  | scalar (text : String) (plain : Bool)
deriving DecidableEq, Repr

/-- A place where a key may have started. -/
structure PossibleKey where
  /-- The number of tokens before it. -/
  position : Nat
  /-- Whether there has to be a key. -/
  required : Bool
  line : Nat
  column : Nat
  index : Nat

/-- The state of reading tokens. -/
structure Layout where
  cursor : Cursor
  /-- How many flow collections are open. -/
  flowLevel : Nat := 0
  /-- The indentation of the innermost block. -/
  indent : Int := -1
  outerIndents : List Int := []
  /-- Whether a key can start here. -/
  keyAllowed : Bool := true
  /-- The places where keys may have started, by flow level. -/
  keys : List (Nat × PossibleKey) := []
  tokens : List Token := []

namespace Layout

/-- The longest distance from a key to its colon. -/
def keyReach : Nat := 1024

/-- Append tokens. -/
def push (layout : Layout) (tokens : List Token) : Layout :=
  { layout with tokens := layout.tokens ++ tokens }

/-- Append a token that is written with a number of characters. -/
def take (layout : Layout) (token : Token) (length : Nat) : Layout :=
  { layout with tokens := layout.tokens ++ [token], cursor := layout.cursor.skip length }

/-! ## Possible keys -/

/-- Give up the key that may have started at this flow level. -/
def forgetKey (layout : Layout) : Option Layout :=
  match layout.keys.lookup layout.flowLevel with
  | none => some layout
  | some key =>
    if key.required then none
    else some { layout with keys := layout.keys.filter (·.1 != layout.flowLevel) }

/-- A key may start here. -/
def offerKey (layout : Layout) : Option Layout :=
  if layout.keyAllowed then do
    let cleared ← layout.forgetKey
    let cursor := cleared.cursor
    let key : PossibleKey :=
      { position := cleared.tokens.length
        required := cleared.flowLevel == 0 && cleared.indent == cursor.column
        line := cursor.line, column := cursor.column, index := cursor.index }
    return { cleared with keys := (cleared.flowLevel, key) :: cleared.keys }
  else some layout

/-- Give up the keys that are too far away. -/
def forgetStale (layout : Layout) : Option Layout :=
  let stale (key : PossibleKey) : Bool :=
    key.line != layout.cursor.line || keyReach < layout.cursor.index - key.index
  if layout.keys.any fun entry => stale entry.2 && entry.2.required then none
  else some { layout with keys := layout.keys.filter fun entry => !stale entry.2 }

/-! ## Indentation -/

/-- The ends of the blocks that are indented by more than a column, and what is left. -/
def unwound (column : Int) : Int → List Int → List Token × Int × List Int
  | indent, [] => ([], indent, [])
  | indent, outer :: rest =>
    if column < indent then
      let (ends, left, others) := unwound column outer rest
      (.blockEnd :: ends, left, others)
    else ([], indent, outer :: rest)

/-- Close the blocks that are indented by more than a column. -/
def unwind (layout : Layout) (column : Int) : Layout :=
  if layout.flowLevel != 0 then layout
  else
    let (ends, indent, outerIndents) := unwound column layout.indent layout.outerIndents
    { layout.push ends with indent, outerIndents }

/-- Open a block at a column if it is indented by more than the innermost one. -/
def deepen (layout : Layout) (column : Nat) : Option Layout :=
  if layout.indent < column then
    some { layout with indent := column, outerIndents := layout.indent :: layout.outerIndents }
  else none

/-- Open a block here if none is open at this column. -/
def openHere (layout : Layout) (token : Token) : Layout :=
  match layout.deepen layout.cursor.column with
  | some opened => opened.push [token]
  | none => layout

/-! ## Skipping to the next token -/

/-- Skip blanks, comments and line breaks. -/
def skipGaps : Nat → Layout → Layout
  | 0, layout => layout
  | fuel + 1, layout =>
    let blank := layout.cursor.skipWhile (· == ' ')
    let after := if blank.next == '#' then blank.skipWhile (!isBreak ·) else blank
    if isBreak after.next then
      skipGaps fuel
        { layout with
          cursor := after.lineBreak.2
          keyAllowed := layout.keyAllowed || layout.flowLevel == 0 }
    else { layout with cursor := after }

/-! ## Single tokens -/

/-- A mark that starts or ends a document. -/
def documentMark (layout : Layout) (token : Token) : Option Layout := do
  let cleared ← (layout.unwind (-1)).forgetKey
  return { cleared.take token 3 with keyAllowed := false }

/-- The start of a flow collection. -/
def flowStart (layout : Layout) (token : Token) : Option Layout := do
  let offered ← layout.offerKey
  return { offered.take token 1 with flowLevel := offered.flowLevel + 1, keyAllowed := true }

/-- The end of a flow collection; one has to be open. -/
def flowEnd (layout : Layout) (token : Token) : Option Layout := do
  let cleared ← layout.forgetKey
  if cleared.flowLevel == 0 then none
  else return { cleared.take token 1 with flowLevel := cleared.flowLevel - 1, keyAllowed := false }

/-- A comma between entries. -/
def flowEntry (layout : Layout) : Option Layout := do
  let cleared ← layout.forgetKey
  return { cleared.take .flowEntry 1 with keyAllowed := true }

/-- A dash before an entry. -/
def blockEntry (layout : Layout) : Option Layout := do
  if layout.flowLevel == 0 && !layout.keyAllowed then none
  else
    let opened := if layout.flowLevel == 0 then layout.openHere .blockSequenceStart else layout
    let cleared ← opened.forgetKey
    return { cleared.take .blockEntry 1 with keyAllowed := true }

/-- A question mark before a key. -/
def explicitKey (layout : Layout) : Option Layout := do
  if layout.flowLevel == 0 && !layout.keyAllowed then none
  else
    let opened := if layout.flowLevel == 0 then layout.openHere .blockMappingStart else layout
    let cleared ← opened.forgetKey
    return { cleared.take .key 1 with keyAllowed := cleared.flowLevel == 0 }

/-- A colon before a value; what stands before it becomes a key. -/
def valueMark (layout : Layout) : Option Layout :=
  match layout.keys.lookup layout.flowLevel with
  | some key =>
    let cleared := { layout with keys := layout.keys.filter (·.1 != layout.flowLevel) }
    let (opened, marks) :=
      match (if cleared.flowLevel == 0 then cleared.deepen key.column else none) with
      | some opened => (opened, [Token.blockMappingStart, .key])
      | none => (cleared, [.key])
    let tokens := opened.tokens.take key.position ++ marks ++ opened.tokens.drop key.position
    some { ({ opened with tokens } : Layout).take .value 1 with keyAllowed := false }
  | none =>
    if layout.flowLevel == 0 && !layout.keyAllowed then none
    else
      let opened := if layout.flowLevel == 0 then layout.openHere .blockMappingStart else layout
      some { opened.take .value 1 with keyAllowed := opened.flowLevel == 0 }

/-- A name behind an ampersand or an asterisk. -/
def nameMark (layout : Layout) (token : String → Token) : Option Layout := do
  let offered ← layout.offerKey
  let (name, after) := offered.cursor.advance.span fun char =>
    char.isAlphanum || char == '-' || char == '_'
  if name.isEmpty || !(isGap after.next || "?:,]\x7d%@`".toList.contains after.next) then none
  else
    return { offered.push [token (String.ofList name)] with cursor := after, keyAllowed := false }

/-- A tag; what stands between angle brackets is taken as it is. -/
def tagMark (layout : Layout) : Option Layout := do
  let offered ← layout.offerKey
  let (name, after) := offered.cursor.span (!isGap ·)
  if after.next == '\t' then none
  else return { offered.push [.tag (String.ofList name)] with cursor := after, keyAllowed := false }

/-- A directive, which takes up its line; a version has to be one that can be read. -/
def directive (layout : Layout) : Option Layout := do
  let cleared ← (layout.unwind (-1)).forgetKey
  let (line, after) := cleared.cursor.span (!isBreak ·)
  let words := (line.drop 1).takeWhile (· != '#')
  let name := words.takeWhile fun char => char.isAlphanum || char == '-' || char == '_'
  let more := words.drop name.length
  let version := (more.dropWhile (· == ' ')).takeWhile (· != ' ')
  let major := version.takeWhile Char.isDigit
  let minor := (version.drop (major.length + 1))
  let readable := name != "YAML".toList
    || (major == ['1'] && version.drop 1 == '.' :: minor && !minor.isEmpty
      && minor.all Char.isDigit)
  if name.isEmpty || !(more.isEmpty || more.head? == some ' ') || !readable then none
  else return { cleared.push [.directive] with cursor := after, keyAllowed := false }

/-- A block scalar. -/
def blockText (layout : Layout) (foldLines : Bool) : Option Layout := do
  let cleared ← layout.forgetKey
  let (text, after) ← blockScalar foldLines cleared.indent cleared.cursor.advance
  return { cleared.push [.scalar (String.ofList text) false] with
      cursor := after, keyAllowed := true }

/-- A quoted scalar. -/
def quotedText (layout : Layout) (double : Bool) : Option Layout := do
  let offered ← layout.offerKey
  let (text, after) ← quoted double offered.cursor
  return { offered.push [.scalar (String.ofList text) false] with
    cursor := after, keyAllowed := false }

/-- Whether a plain scalar can start with the character at a place. -/
def startsPlain (layout : Layout) : Bool :=
  let char := layout.cursor.next
  let marks := "-?:,[]\x7b\x7d#&*!|>'\"%@`".toList
  !(isGap char || marks.contains char)
    || (!isGap (layout.cursor.peek 1)
      && (char == '-' || (layout.flowLevel == 0 && (char == '?' || char == ':'))))

/-- A plain scalar. -/
def plainText (layout : Layout) : Option Layout := do
  let offered ← layout.offerKey
  let read := plain (offered.flowLevel != 0) (offered.indent + 1) offered.cursor
  return { offered.push [.scalar (String.ofList read.text) true] with
    cursor := read.cursor, keyAllowed := read.endsLine }

/-! ## All tokens -/

/-- Read the token at the cursor. -/
def readToken (layout : Layout) : Option Layout :=
  let cursor := layout.cursor
  let inBlock := layout.flowLevel == 0
  let gapAhead := isGap (cursor.peek 1)
  let atFront := cursor.column == 0
  if atFront && cursor.next == '%' then layout.directive
  else if atFront && cursor.atMark "---" then layout.documentMark .documentStart
  else if atFront && cursor.atMark "..." then layout.documentMark .documentEnd
  else
    match cursor.next with
    | '[' => layout.flowStart .flowSequenceStart
    | '\x7b' => layout.flowStart .flowMappingStart
    | ']' => layout.flowEnd .flowSequenceEnd
    | '\x7d' => layout.flowEnd .flowMappingEnd
    | ',' => layout.flowEntry
    | '*' => layout.nameMark .repeated
    | '&' => layout.nameMark .anchor
    | '!' => layout.tagMark
    | '\'' => layout.quotedText false
    | '"' => layout.quotedText true
    | char =>
      if char == '-' && gapAhead then layout.blockEntry
      else if char == '?' && (!inBlock || gapAhead) then layout.explicitKey
      else if char == ':' && (!inBlock || gapAhead) then layout.valueMark
      else if char == '|' && inBlock then layout.blockText false
      else if char == '>' && inBlock then layout.blockText true
      else if layout.startsPlain then layout.plainText
      else none

/-- Read tokens up to the end of the text. -/
def readTokens : Nat → Layout → Option (List Token)
  | 0, _ => none
  | fuel + 1, layout => do
    let skipped := skipGaps layout.cursor.rest.length.succ layout
    let fresh ← skipped.forgetStale
    let placed := fresh.unwind fresh.cursor.column
    if placed.cursor.rest.isEmpty then
      let ended ← (placed.unwind (-1)).forgetKey
      return ended.tokens
    else readTokens fuel (← placed.readToken)

end Layout

/-- The tokens of a YAML text. -/
def tokens (text : List Char) : Option (List Token) :=
  if text.all isAllowed then
    let start : Cursor := { rest := text }
    let cursor := if text.head?.map Char.toNat == some 0xFEFF then start.advance else start
    Layout.readTokens text.length.succ { cursor }
  else none

end TypedMustache.Yaml
