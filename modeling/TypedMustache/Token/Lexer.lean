import TypedMustache.Diagnostic
import TypedMustache.Text.CharacterClass
import TypedMustache.Text.Split
import TypedMustache.Text.Word
import TypedMustache.Token.Stream

/-!
# From template text to tokens

A template text is first cut into pieces, without regard to positions: runs of
ordinary characters, special characters, tags and comments.  Every piece keeps
its lexeme, the characters it was read from, so the pieces tile the text.
`scan` then places the pieces along the text, which gives the tokens.

Cutting stops at a tag that is not closed or whose name is not a name.  The
tokens before that tag do not depend on what follows it.
-/

namespace TypedMustache

namespace Lexer

/-! ## Pieces -/

/-- A piece of a template text. -/
inductive Piece where
  /-- Ordinary characters. -/
  | run (chars : List Char)
  /-- A character that cannot stand raw in a generated literal. -/
  | special (char : Char)
  /-- A tag that stands for a token. -/
  | tag (kind : Token.Kind) (name lexeme : List Char)
  /-- A tag that stands for nothing. -/
  | comment (lexeme : List Char)

/-- The characters a piece was read from. -/
def Piece.lexeme : Piece → List Char
  | run chars => chars
  | special char => [char]
  | tag _ _ lexeme => lexeme
  | comment lexeme => lexeme

/-- The kind and value of the token that a piece stands for. -/
def Piece.meaning? : Piece → Option (Token.Kind × String)
  | run chars => some (.text, String.ofList chars)
  | special char => some (.special, String.ofList [char])
  | tag kind name _ => some (kind, String.ofList name)
  | comment _ => none

/-- Whether a character becomes a token of its own. -/
def isSpecial (char : Char) : Bool :=
  char == '\n' || char == '\r' || char == '"' || char == '\\'

/-- The pieces of literal text: special characters and the longest runs between them. -/
def literalPieces : List Char → List Piece
  | [] => []
  | char :: rest =>
    if isSpecial char then .special char :: literalPieces rest
    else
      match literalPieces rest with
      | .run chars :: pieces => .run (char :: chars) :: pieces
      | pieces => .run [char] :: pieces

/-! ## Tags -/

/-- The literal text before the first tag, and what follows the braces that open the tag. -/
def untilTag : List Char → List Char × Option (List Char)
  | [] => ([], none)
  | [char] => ([char], none)
  | first :: second :: rest =>
    if first == '\x7b' && second == '\x7b' then ([], some rest)
    else
      let (before, inside) := untilTag (second :: rest)
      (first :: before, inside)

/-- The kind of token that a mark at the front of a tag asks for. -/
def sigil? (char : Char) : Option Token.Kind :=
  match char with
  | '#' => some .sectionOpen
  | '^' => some .invertedOpen
  | '/' => some .sectionClose
  | '&' => some .rawReference
  | _ => none

/-- Whether a text is one component of a name. -/
def isComponent : List Char → Bool
  | [] => false
  | first :: rest => Text.isNameStart first && rest.all Text.isWord

/-- Whether a text is a name: a lone dot, or components joined by dots. -/
def isName (text : List Char) : Bool :=
  text == ['.'] || (Text.splitOn '.' text).all isComponent

/-- The name in a tag, without the white space around it. -/
def checkedName (raw : List Char) : Except Fault (List Char) :=
  let name := Text.trim raw
  if name.isEmpty then .error .emptyName
  else if isName name then .ok name
  else .error (.invalidName (String.ofList name))

/-- The piece of a closed double-brace tag with the given inside. -/
def doubleTag (inside : List Char) : Except Fault Piece :=
  let lexeme := ['\x7b', '\x7b'] ++ inside ++ ['\x7d', '\x7d']
  match Text.trim inside with
  | '!' :: _ => .ok (.comment lexeme)
  | first :: rest =>
    match sigil? first with
    | some kind => (checkedName rest).map (.tag kind · lexeme)
    | none => (checkedName (first :: rest)).map (.tag .reference · lexeme)
  | [] => .error .emptyName

/-- The piece of a closed triple-brace tag with the given inside. -/
def tripleTag (inside : List Char) : Except Fault Piece :=
  let lexeme := ['\x7b', '\x7b', '\x7b'] ++ inside ++ ['\x7d', '\x7d', '\x7d']
  (checkedName inside).map (.tag .rawReference · lexeme)

/-- The tag whose opening braces stand before a text, and the text after it. -/
def tagPiece (text : List Char) : Except Fault (Piece × List Char) :=
  match text with
  | '\x7b' :: rest =>
    match Text.cut ['\x7d', '\x7d', '\x7d'] rest with
    | none => .error .unclosedTripleTag
    | some (inside, after) => (tripleTag inside).map (·, after)
  | _ =>
    match Text.cut ['\x7d', '\x7d'] text with
    | none => .error .unclosedTag
    | some (inside, after) => (doubleTag inside).map (·, after)

/-! ## Cutting a text -/

theorem length_of_untilTag {text before inside : List Char}
    (found : untilTag text = (before, some inside)) :
    text.length = before.length + 2 + inside.length := by
  induction text using untilTag.induct generalizing before inside with
  | case1 => simp [untilTag] at found
  | case2 char => simp [untilTag] at found
  | case3 first second rest isOpen =>
    simp [untilTag, isOpen] at found
    obtain ⟨rfl, rfl⟩ := found
    simp
    omega
  | case4 first second rest isOpen earlier later split ih =>
    simp [untilTag, isOpen, split] at found
    obtain ⟨rfl, rfl⟩ := found
    have := ih split
    simp at this ⊢
    omega

theorem length_of_cut {mark text before after : List Char}
    (found : Text.cut mark text = some (before, after)) : after.length ≤ text.length := by
  have whole := congrArg List.length (Text.append_of_cut found)
  simp at whole
  omega

theorem length_of_tagPiece {text rest : List Char} {piece : Piece}
    (found : tagPiece text = .ok (piece, rest)) : rest.length ≤ text.length := by
  unfold tagPiece at found
  split at found
  · split at found
    · simp at found
    · rename_i inside after closed
      cases made : tripleTag inside with
      | error fault => simp [made, Except.map] at found
      | ok made =>
        simp_all [Except.map]
        have := length_of_cut closed
        omega
  · split at found
    · simp at found
    · rename_i inside after closed
      cases made : doubleTag inside with
      | error fault => simp [made, Except.map] at found
      | ok made =>
        simp_all [Except.map]
        exact length_of_cut closed

/-- Cut a text into pieces, up to its end or up to the first tag that is wrong. -/
def pieces (text : List Char) : List Piece × Option Fault :=
  match found : untilTag text with
  | (before, none) => (literalPieces before, none)
  | (before, some inside) =>
    match read : tagPiece inside with
    | .error fault => (literalPieces before, some fault)
    | .ok (piece, rest) =>
      have : rest.length < text.length := by
        have := length_of_untilTag found
        have := length_of_tagPiece read
        omega
      let (later, fault) := pieces rest
      (literalPieces before ++ piece :: later, fault)
termination_by text.length

/-! ## Placing pieces -/

/-- A place in a text. -/
structure Cursor where
  line : Nat
  column : Nat
  offset : Nat
deriving DecidableEq, Repr

namespace Cursor

/-- The front of a text. -/
def start : Cursor :=
  { line := 1, column := 1, offset := 0 }

/-- The place after one more character. -/
def step (cursor : Cursor) (char : Char) : Cursor :=
  if char == '\n' then
    { line := cursor.line + 1, column := 1, offset := cursor.offset + 1 }
  else
    { cursor with column := cursor.column + 1, offset := cursor.offset + 1 }

/-- The place after some characters. -/
def after (cursor : Cursor) (chars : List Char) : Cursor :=
  chars.foldl step cursor

/-- The place in a named source. -/
def position (cursor : Cursor) (source : String) : Position :=
  { source, line := cursor.line, column := cursor.column, offset := cursor.offset }

end Cursor

/-- The tokens of pieces that follow each other from a place on. -/
def place (source : String) : Cursor → List Piece → List Token
  | _, [] => []
  | cursor, piece :: rest =>
    let later := place source (cursor.after piece.lexeme) rest
    match piece.meaning? with
    | some (kind, value) => { kind, value, position := cursor.position source } :: later
    | none => later

/-- The place after pieces that follow each other from a place on. -/
def placeAfter (cursor : Cursor) (pieces : List Piece) : Cursor :=
  pieces.foldl (fun cursor piece => cursor.after piece.lexeme) cursor

end Lexer

/-- What reading a template text gives. -/
structure Scan where
  /-- The tokens, without the end of the template. -/
  tokens : List Token
  /-- Where reading stopped: the end of the text, or the tag that is wrong. -/
  stop : Position
  /-- What is wrong with that tag. -/
  fault : Option Fault

/-- Read a template text. -/
def scan (source text : String) : Scan :=
  let (pieces, fault) := Lexer.pieces text.toList
  { tokens := Lexer.place source .start pieces
    stop := (Lexer.placeAfter .start pieces).position source
    fault }

namespace Scan

/-- All tokens that reading gives: those of the text, and its end if it was reached. -/
def allTokens (scan : Scan) : List Token :=
  match scan.fault with
  | none => scan.tokens ++ [Token.atEnd scan.stop]
  | some _ => scan.tokens

/-- The diagnostic that reading ends with, if a tag is wrong. -/
def diagnostic? (scan : Scan) : Option Diagnostic :=
  scan.fault.map fun fault => { fault, position := some scan.stop }

/-- The tokens of a list followed by the rest of a source. -/
def before {ε : Type} (rest : TokenStream ε) : List Token → TokenStream ε
  | [] => rest
  | token :: tokens => .next token (before rest tokens)

/-- The tokens one at a time, up to the end of the text or up to the failure. -/
def stream (scan : Scan) : TokenStream Failure :=
  match scan.diagnostic? with
  | none => before (.next (Token.atEnd scan.stop) .exhausted) scan.tokens
  | some diagnostic => before (.broken (.diagnosed diagnostic)) scan.tokens

end Scan

end TypedMustache
