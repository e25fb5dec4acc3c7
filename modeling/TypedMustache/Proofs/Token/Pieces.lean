import TypedMustache.Proofs.Attempt
import TypedMustache.Token.Lexer

/-!
# What the pieces of a template text are like

The pieces that a text is cut into are runs of ordinary characters, special
characters, tags with a name, and comments.  A token that comes from a text is
therefore never an end token, and the names in its tags are names.
-/

namespace TypedMustache

/-- Whether a token stands for literal text. -/
def Token.isLiteral (token : Token) : Bool :=
  token.kind == .text || token.kind == .special

namespace Lexer

/-- Whether a kind of token is written as a tag. -/
def isTagKind : Token.Kind → Bool
  | .text | .special | .endOfFile => false
  | .reference | .rawReference | .sectionOpen | .invertedOpen | .sectionClose => true

/-- What a piece of a text is like. -/
def Piece.IsSound : Piece → Prop
  | run chars => chars ≠ [] ∧ ∀ char ∈ chars, isSpecial char = false
  | special char => isSpecial char = true
  | tag kind name _ => isName name = true ∧ isTagKind kind = true
  | comment _ => True

theorem isSound_of_mem_literalPieces {text : List Char} {piece : Piece}
    (member : piece ∈ literalPieces text) : piece.IsSound := by
  induction text generalizing piece with
  | nil => cases member
  | cons char rest ih =>
      simp only [literalPieces] at member
      split at member
      · rename_i special
        rcases List.mem_cons.mp member with rfl | later
        · exact special
        · exact ih later
      · rename_i ordinary
        split at member
        · rename_i chars pieces readRest
          have sound : (Piece.run chars).IsSound := ih (by simp [readRest])
          rcases List.mem_cons.mp member with rfl | later
          · refine ⟨by simp, ?_⟩
            intro other inRun
            rcases List.mem_cons.mp inRun with rfl | inRest
            · simpa using ordinary
            · exact sound.2 other inRest
          · exact ih (by simp [readRest, later])
        · rcases List.mem_cons.mp member with rfl | later
          · exact ⟨by simp, by simpa using ordinary⟩
          · exact ih later

theorem isName_of_checkedName {raw name : List Char} (checked : checkedName raw = .ok name) :
    isName name = true := by
  simp only [checkedName] at checked
  split at checked
  · cases checked
  · split at checked
    · rename_i named
      cases checked
      exact named
    · cases checked

theorem isSound_of_checkedName {raw lexeme : List Char} {kind : Token.Kind} {piece : Piece}
    (isTag : isTagKind kind = true)
    (made : (checkedName raw).map (.tag kind · lexeme) = .ok piece) : piece.IsSound := by
  cases checked : checkedName raw with
  | error fault => simp [checked, Except.map] at made
  | ok name =>
      simp only [checked, Except.map, Except.ok.injEq] at made
      subst made
      exact ⟨isName_of_checkedName checked, isTag⟩

theorem isTagKind_of_sigil? {char : Char} {kind : Token.Kind} (sigil : sigil? char = some kind) :
    isTagKind kind = true := by
  unfold sigil? at sigil
  split at sigil <;> cases sigil <;> rfl

theorem isSound_of_doubleTag {inside : List Char} {piece : Piece}
    (made : doubleTag inside = .ok piece) : piece.IsSound := by
  simp only [doubleTag] at made
  split at made
  · cases made
    trivial
  · split at made
    · rename_i sigil
      exact isSound_of_checkedName (isTagKind_of_sigil? sigil) made
    · exact isSound_of_checkedName rfl made
  · cases made

theorem isSound_of_tagPiece {text rest : List Char} {piece : Piece}
    (read : tagPiece text = .ok (piece, rest)) : piece.IsSound := by
  simp only [tagPiece] at read
  split at read
  · split at read
    · cases read
    · rename_i inside after closed
      cases made : tripleTag inside with
      | error fault => simp [made, Except.map] at read
      | ok tag =>
          simp only [made, Except.map, Except.ok.injEq, Prod.mk.injEq] at read
          rcases read with ⟨rfl, -⟩
          exact isSound_of_checkedName rfl made
  · split at read
    · cases read
    · rename_i inside after closed
      cases made : doubleTag inside with
      | error fault => simp [made, Except.map] at read
      | ok tag =>
          simp only [made, Except.map, Except.ok.injEq, Prod.mk.injEq] at read
          rcases read with ⟨rfl, -⟩
          exact isSound_of_doubleTag made

theorem isSound_of_mem_pieces {text : List Char} {piece : Piece}
    (member : piece ∈ (pieces text).1) : piece.IsSound := by
  fun_induction pieces text with
  | case1 text before found => exact isSound_of_mem_literalPieces member
  | case2 text before inside found fault read => exact isSound_of_mem_literalPieces member
  | case3 text before inside found tag rest read shorter later fault readRest ih =>
      simp only [List.mem_append, List.mem_cons] at member
      rcases member with inBefore | rfl | inLater
      · exact isSound_of_mem_literalPieces inBefore
      · exact isSound_of_tagPiece read
      · exact ih (by rw [readRest]; exact inLater)

theorem exists_piece_of_mem_place {source : String} {cursor : Cursor} {pieces : List Piece}
    {token : Token} (member : token ∈ place source cursor pieces) :
    ∃ piece ∈ pieces, piece.meaning? = some (token.kind, token.value) := by
  induction pieces generalizing cursor with
  | nil => cases member
  | cons piece rest ih =>
      simp only [place] at member
      split at member
      · rename_i kind value meaning
        rcases List.mem_cons.mp member with rfl | later
        · exact ⟨piece, by simp, meaning⟩
        · rcases ih later with ⟨other, inRest, same⟩
          exact ⟨other, by simp [inRest], same⟩
      · rcases ih member with ⟨other, inRest, same⟩
        exact ⟨other, by simp [inRest], same⟩

/-! ## Wrong tags -/

theorem kind_of_checkedName {raw : List Char} {fault : Fault}
    (failed : checkedName raw = .error fault) : fault.kind = .template := by
  simp only [checkedName] at failed
  split at failed
  · cases failed
    rfl
  · split at failed
    · cases failed
    · cases failed
      rfl

theorem kind_of_doubleTag {inside : List Char} {fault : Fault}
    (failed : doubleTag inside = .error fault) : fault.kind = .template := by
  simp only [doubleTag] at failed
  split at failed
  · cases failed
  · split at failed
    · exact kind_of_checkedName (Attempt.map_eq_error_iff.mp failed)
    · exact kind_of_checkedName (Attempt.map_eq_error_iff.mp failed)
  · cases failed
    rfl

/-- What is wrong with a tag is a matter of the template. -/
theorem kind_of_tagPiece {text : List Char} {fault : Fault}
    (failed : tagPiece text = .error fault) : fault.kind = .template := by
  simp only [tagPiece] at failed
  split at failed
  · split at failed
    · cases failed
      rfl
    · have wrongTag := Attempt.map_eq_error_iff.mp failed
      exact kind_of_checkedName (Attempt.map_eq_error_iff.mp wrongTag)
  · split at failed
    · cases failed
      rfl
    · exact kind_of_doubleTag (Attempt.map_eq_error_iff.mp failed)

theorem kind_of_pieces {text : List Char} {fault : Fault}
    (wrong : (pieces text).2 = some fault) : fault.kind = .template := by
  fun_induction pieces text with
  | case1 text before found =>
      cases wrong
  | case2 text before inside found reason read =>
      cases wrong
      exact kind_of_tagPiece read
  | case3 text before inside found tag rest read shorter later reason readRest ih =>
      rw [readRest] at ih
      exact ih wrong

/-! ## Texts without tags -/

/-- Whether a piece is literal text. -/
def Piece.isLiteral : Piece → Bool
  | run _ | special _ => true
  | tag _ _ _ | comment _ => false

theorem isLiteral_of_mem_literalPieces {text : List Char} {piece : Piece}
    (member : piece ∈ literalPieces text) : piece.isLiteral = true := by
  induction text generalizing piece with
  | nil => cases member
  | cons char rest ih =>
      simp only [literalPieces] at member
      split at member
      · rcases List.mem_cons.mp member with rfl | later
        · rfl
        · exact ih later
      · split at member
        · rename_i chars pieces readRest
          rcases List.mem_cons.mp member with rfl | later
          · rfl
          · exact ih (by simp [readRest, later])
        · rcases List.mem_cons.mp member with rfl | later
          · rfl
          · exact ih later

/-- Literal text is made of its pieces. -/
theorem flatMap_lexeme_literalPieces (text : List Char) :
    (literalPieces text).flatMap Piece.lexeme = text := by
  induction text with
  | nil => rfl
  | cons char rest ih =>
      simp only [literalPieces]
      split
      · rw [List.flatMap_cons, ih]
        rfl
      · split
        · rename_i chars pieces readRest
          rw [readRest, List.flatMap_cons] at ih
          rw [List.flatMap_cons, ← ih]
          rfl
        · rw [List.flatMap_cons, ih]
          rfl

theorem untilTag_of_not_infix {text : List Char}
    (tagless : ¬ ['\x7b', '\x7b'] <:+: text) : untilTag text = (text, none) := by
  induction text using untilTag.induct with
  | case1 => rfl
  | case2 char => rfl
  | case3 first second rest isOpen =>
      simp only [Bool.and_eq_true, beq_iff_eq] at isOpen
      rcases isOpen with ⟨rfl, rfl⟩
      exact absurd ⟨[], rest, rfl⟩ tagless
  | case4 first second rest isOpen earlier later split ih =>
      have read := ih fun within => tagless (List.infix_cons within)
      simp only [untilTag, isOpen, read]
      rfl

theorem exists_meaning_of_isLiteral {piece : Piece} (literal : piece.isLiteral = true) :
    ∃ kind, piece.meaning? = some (kind, String.ofList piece.lexeme) ∧
      (kind == .text || kind == .special) = true := by
  cases piece with
  | run chars => exact ⟨.text, rfl, rfl⟩
  | special char => exact ⟨.special, rfl, rfl⟩
  | tag kind name lexeme => cases literal
  | comment lexeme => cases literal

/-- The values of the tokens of literal pieces are their characters. -/
theorem flatMap_value_place (source : String) (cursor : Cursor) {pieces : List Piece}
    (literal : ∀ piece ∈ pieces, piece.isLiteral = true) :
    ((place source cursor pieces).filter Token.isLiteral).flatMap (·.value.toList) =
      pieces.flatMap Piece.lexeme := by
  induction pieces generalizing cursor with
  | nil => rfl
  | cons piece rest ih =>
      rcases exists_meaning_of_isLiteral (literal piece List.mem_cons_self) with
        ⟨kind, meaning, isLiteral⟩
      have later := ih (cursor.after piece.lexeme)
        fun other member => literal other (List.mem_cons_of_mem piece member)
      simp [place, meaning, Token.isLiteral, isLiteral, later]

end Lexer

/-- A token read from a text has the form that its kind asks for. -/
theorem form_of_mem_scan {source text : String} {token : Token}
    (member : token ∈ (scan source text).tokens) :
    token.kind = .text ∨ token.kind = .special ∨
      (Lexer.isTagKind token.kind = true ∧ Lexer.isName token.value.toList = true) := by
  rcases Lexer.exists_piece_of_mem_place member with ⟨piece, inPieces, meaning⟩
  have sound := Lexer.isSound_of_mem_pieces inPieces
  cases piece with
  | run chars =>
      simp only [Lexer.Piece.meaning?, Option.some.injEq, Prod.mk.injEq] at meaning
      exact Or.inl meaning.1.symm
  | special char =>
      simp only [Lexer.Piece.meaning?, Option.some.injEq, Prod.mk.injEq] at meaning
      exact Or.inr (Or.inl meaning.1.symm)
  | tag kind name lexeme =>
      simp only [Lexer.Piece.meaning?, Option.some.injEq, Prod.mk.injEq] at meaning
      rcases meaning with ⟨sameKind, sameValue⟩
      refine Or.inr (Or.inr ⟨?_, ?_⟩)
      · rw [← sameKind]
        exact sound.2
      · rw [← sameValue, String.toList_ofList]
        exact sound.1
  | comment lexeme => cases meaning

/-- The literal text of a template without tags is the template. -/
theorem flatten_literals_of_not_infix {source text : String}
    (tagless : ¬ ['\x7b', '\x7b'] <:+: text.toList) :
    ((scan source text).tokens.filter Token.isLiteral).flatMap (·.value.toList) =
      text.toList := by
  have read : Lexer.pieces text.toList = (Lexer.literalPieces text.toList, none) := by
    unfold Lexer.pieces
    split
    · rename_i before found
      rw [Lexer.untilTag_of_not_infix tagless] at found
      cases found
      rfl
    · rename_i before inside found
      rw [Lexer.untilTag_of_not_infix tagless] at found
      cases found
  simp only [scan, read]
  rw [Lexer.flatMap_value_place source .start fun _ => Lexer.isLiteral_of_mem_literalPieces,
    Lexer.flatMap_lexeme_literalPieces]

/-- Reading a text gives no end token beside the one at its end. -/
theorem kind_of_mem_scan {source text : String} {token : Token}
    (member : token ∈ (scan source text).tokens) : token.kind ≠ .endOfFile := by
  intro isEnd
  simpa [isEnd, Lexer.isTagKind] using form_of_mem_scan member

end TypedMustache
