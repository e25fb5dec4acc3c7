import TypedMustache.Proofs.Token.Pieces
import TypedMustache.Proofs.Token.Template

/-!
# Tokens tile the text they are read from

The pieces of a text, put behind each other, are the text: nothing is lost and
nothing overlaps.  A literal token covers exactly its value, any other token
covers a tag that spells its kind and name, and what is left over are comments.
Places are counted along the pieces; they are the places that one finds by
counting characters and line feeds in the text before a token.

`Lexer.Tiles` and `Tiling` state all this of a text and tokens, without reference
to pieces or to reading.  The main result is `tokens_tile_text`.
-/

namespace TypedMustache

/-! ## Cutting at the first occurrence -/

namespace Text

/-- A cut is made at the first occurrence: there is none that ends earlier. -/
theorem not_infix_of_cut {mark text before after : List Char}
    (marked : mark ≠ []) (found : cut mark text = some (before, after)) :
    ¬ mark <:+: before ++ mark.dropLast := by
  have tooShort : ¬ mark <:+: mark.dropLast := by
    intro within
    have := within.length_le
    have := List.length_pos_iff.mpr marked
    simp only [List.length_dropLast] at *
    omega
  induction text generalizing before after with
  | nil =>
      simp only [cut, List.isEmpty_iff, marked, if_false] at found
      cases found
  | cons char rest ih =>
      have whole := append_of_cut found
      simp only [cut] at found
      split at found
      · cases found
        exact tooShort
      · rename_i unfoundHere
        split at found
        · cases found
        · rename_i earlier later cutRest
          cases found
          rw [List.cons_append, List.infix_cons_iff]
          rintro (here | within)
          · -- The mark would be found at the front of the text, where it is not.
            have atFront : mark <+: char :: rest := by
              have shorter : (char :: earlier) ++ mark.dropLast <+: (char :: earlier) ++ mark :=
                (List.prefix_append_right_inj _).mpr (List.dropLast_prefix mark)
              rw [whole]
              exact (here.trans shorter).trans (List.prefix_append _ after)
            exact unfoundHere (List.isPrefixOf_iff_prefix.mpr atFront)
          · exact ih cutRest within

theorem not_infix_of_cut_eq_none {mark text : List Char}
    (unfound : cut mark text = none) : ¬ mark <:+: text := by
  induction text with
  | nil =>
      simp only [cut] at unfound
      split at unfound
      · cases unfound
      · rename_i marked
        simpa using marked
  | cons char rest ih =>
      simp only [cut] at unfound
      split at unfound
      · cases unfound
      · rename_i unfoundHere
        split at unfound
        · rename_i unfoundLater
          rw [List.infix_cons_iff]
          rintro (here | within)
          · exact unfoundHere (List.isPrefixOf_iff_prefix.mpr here)
          · exact ih unfoundLater within
        · cases unfound

/-- Trimming removes white space only. -/
theorem exists_blanks_around_trim (text : List Char) :
    ∃ front back : List Char,
      text = front ++ trim text ++ back ∧
        (∀ char ∈ front, isBlank char = true) ∧ ∀ char ∈ back, isBlank char = true := by
  refine ⟨text.takeWhile isBlank, ((text.dropWhile isBlank).reverse.takeWhile isBlank).reverse,
    ?_, ?_, ?_⟩
  · calc
      text = text.takeWhile isBlank ++ text.dropWhile isBlank :=
        List.takeWhile_append_dropWhile.symm
      _ = text.takeWhile isBlank ++ (text.dropWhile isBlank).reverse.reverse := by
        rw [List.reverse_reverse]
      _ = text.takeWhile isBlank ++
            ((text.dropWhile isBlank).reverse.takeWhile isBlank ++
              (text.dropWhile isBlank).reverse.dropWhile isBlank).reverse := by
        rw [List.takeWhile_append_dropWhile]
      _ = _ := by
        rw [List.reverse_append, trim, List.append_assoc]
  · intro char member
    exact List.all_eq_true.mp List.all_takeWhile char member
  · intro char member
    exact List.all_eq_true.mp List.all_takeWhile char (List.mem_reverse.mp member)

end Text

namespace Lexer

/-! ## Pieces make up the text -/

/-- A text is split at the first two opening braces. -/
theorem untilTag_eq_cut (text : List Char) :
    untilTag text =
      match Text.cut ['\x7b', '\x7b'] text with
      | none => (text, none)
      | some (before, inside) => (before, some inside) := by
  induction text using untilTag.induct with
  | case1 =>
      rfl
  | case2 char =>
      simp [untilTag, Text.cut]
  | case3 first second rest isOpen =>
      simp only [Bool.and_eq_true, beq_iff_eq] at isOpen
      rcases isOpen with ⟨rfl, rfl⟩
      rfl
  | case4 first second rest isOpen earlier later split ih =>
      have unfound : ['\x7b', '\x7b'].isPrefixOf (first :: second :: rest) = false := by
        rw [Bool.eq_false_iff]
        intro opens
        simp only [List.isPrefixOf, Bool.and_eq_true, beq_iff_eq] at opens
        simp [← opens.1, ← opens.2.1] at isOpen
      rw [untilTag, Text.cut]
      simp only [isOpen, unfound, Bool.false_eq_true, if_false, ih]
      cases Text.cut ['\x7b', '\x7b'] (second :: rest) <;> rfl

/-- What stands before the first tag, and the text taken together again. -/
theorem append_of_untilTag {text before inside : List Char}
    (found : untilTag text = (before, some inside)) :
    text = before ++ ['\x7b', '\x7b'] ++ inside ∧ ¬ ['\x7b', '\x7b'] <:+: before := by
  rw [untilTag_eq_cut] at found
  split at found
  · cases found
  · rename_i earlier later cutHere
    cases found
    refine ⟨Text.append_of_cut cutHere, fun within => ?_⟩
    exact Text.not_infix_of_cut (by simp) cutHere
      (within.trans (List.prefix_append _ _).isInfix)

/-- If nothing opens a tag, the whole text is before it. -/
theorem eq_of_untilTag {text before : List Char}
    (found : untilTag text = (before, none)) :
    text = before ∧ ¬ ['\x7b', '\x7b'] <:+: before := by
  rw [untilTag_eq_cut] at found
  split at found
  · rename_i unfound
    cases found
    exact ⟨rfl, Text.not_infix_of_cut_eq_none unfound⟩
  · cases found

/-! ## How tokens are written -/

/-- A text of white space. -/
def IsSpace (text : List Char) : Prop :=
  ∀ char ∈ text, Text.isBlank char = true

theorem IsSpace.append {front back : List Char}
    (first : IsSpace front) (second : IsSpace back) : IsSpace (front ++ back) := by
  intro char member
  rcases List.mem_append.mp member with inFront | inBack
  · exact first char inFront
  · exact second char inBack

/--
How a token of a kind with a value is written.  Literal tokens are written as
their values.  Any other token is a tag around a name, where white space means
nothing.
-/
inductive Written : Token.Kind → (value lexeme : List Char) → Prop where
  | text {chars : List Char} (nonempty : chars ≠ [])
      (ordinary : ∀ char ∈ chars, char ∉ ['\n', '\r', '"', '\\'])
      (tagless : ¬ ['\x7b', '\x7b'] <:+: chars) :
      Written .text chars chars
  | special {char : Char} (special : char ∈ ['\n', '\r', '"', '\\']) :
      Written .special [char] [char]
  /-- A name in two pairs of braces is a reference. -/
  | plain {name front back : List Char} (named : isName name = true)
      (before : IsSpace front) (after : IsSpace back) :
      Written .reference name
        (['\x7b', '\x7b'] ++ (front ++ name ++ back) ++ ['\x7d', '\x7d'])
  /-- A mark in front of the name asks for another kind. -/
  | marked {name front middle back : List Char} {kind : Token.Kind} {mark : Char}
      (named : isName name = true) (asks : sigil? mark = some kind)
      (before : IsSpace front) (between : IsSpace middle) (after : IsSpace back) :
      Written kind name
        (['\x7b', '\x7b'] ++ (front ++ mark :: (middle ++ name ++ back)) ++ ['\x7d', '\x7d'])
  /-- A name in three pairs of braces is a raw reference. -/
  | raw {name front back : List Char} (named : isName name = true)
      (before : IsSpace front) (after : IsSpace back) :
      Written .rawReference name
        (['\x7b', '\x7b', '\x7b'] ++ (front ++ name ++ back) ++ ['\x7d', '\x7d', '\x7d'])

/-- A comment is written behind an exclamation mark, up to the first braces that close it. -/
inductive WrittenComment : (lexeme : List Char) → Prop where
  | mk {front body : List Char} (before : IsSpace front)
      (unclosed : ¬ ['\x7d', '\x7d'] <:+: front ++ '!' :: body ++ ['\x7d']) :
      WrittenComment (['\x7b', '\x7b'] ++ (front ++ '!' :: body) ++ ['\x7d', '\x7d'])

/-- Every token is spelled with at least one character. -/
theorem Written.length_pos {kind : Token.Kind} {value lexeme : List Char}
    (written : Written kind value lexeme) : 0 < lexeme.length := by
  cases written with
  | text nonempty ordinary tagless =>
      exact List.length_pos_iff.mpr nonempty
  | special special =>
      exact Nat.one_pos
  | plain | marked | raw =>
      simp

/-- Text is not empty, and has neither special characters nor tags in it. -/
theorem Written.text_form {value lexeme : List Char} (written : Written .text value lexeme) :
    value ≠ [] ∧ (∀ char ∈ value, char ∉ ['\n', '\r', '"', '\\']) ∧
      ¬ ['\x7b', '\x7b'] <:+: value := by
  cases written with
  | text nonempty ordinary tagless =>
      exact ⟨nonempty, ordinary, tagless⟩
  | marked named asks before between after =>
      cases isTagKind_of_sigil? asks

/-- A special token is one of four characters. -/
theorem Written.special_form {value lexeme : List Char}
    (written : Written .special value lexeme) :
    ∃ char ∈ ['\n', '\r', '"', '\\'], value = [char] := by
  cases written with
  | special special =>
      exact ⟨_, special, rfl⟩
  | marked named asks before between after =>
      cases isTagKind_of_sigil? asks

/-- A token that is no tag is written as its value. -/
theorem Written.lexeme_eq_value {kind : Token.Kind} {value lexeme : List Char}
    (written : Written kind value lexeme) (tagless : isTagKind kind = false) :
    lexeme = value := by
  cases written with
  | text | special =>
      rfl
  | plain | raw =>
      cases tagless
  | marked named asks before between after =>
      rw [isTagKind_of_sigil? asks] at tagless
      cases tagless

theorem mem_of_isSpecial {char : Char} :
    isSpecial char = true ↔ char ∈ ['\n', '\r', '"', '\\'] := by
  simp [isSpecial, or_assoc]

/-- What passes the check is a name with space around it. -/
theorem exists_space_around_name {raw name : List Char} (checked : checkedName raw = .ok name) :
    ∃ front back, raw = front ++ name ++ back ∧ IsSpace front ∧ IsSpace back := by
  simp only [checkedName] at checked
  split at checked
  · cases checked
  · split at checked
    · cases checked
      exact Text.exists_blanks_around_trim raw
    · cases checked

/-- A piece is written as the token it stands for, or as a comment. -/
def Piece.IsWritten (piece : Piece) : Prop :=
  match piece.meaning? with
  | some (kind, value) => Written kind value.toList piece.lexeme
  | none => WrittenComment piece.lexeme

theorem isWritten_tag_iff {kind : Token.Kind} {name lexeme : List Char} :
    (Piece.tag kind name lexeme).IsWritten ↔ Written kind name lexeme := by
  simp only [Piece.IsWritten, Piece.meaning?, Piece.lexeme, String.toList_ofList]

/-- A raw reference is spelled as it is read. -/
theorem isWritten_of_tripleTag {inside : List Char} {piece : Piece}
    (made : tripleTag inside = .ok piece) :
    piece.IsWritten ∧
      piece.lexeme = ['\x7b', '\x7b', '\x7b'] ++ inside ++ ['\x7d', '\x7d', '\x7d'] := by
  rcases Attempt.map_eq_ok_iff.mp made with ⟨name, checked, rfl⟩
  have named := isName_of_checkedName checked
  rcases exists_space_around_name checked with ⟨front, back, rfl, before, after⟩
  exact ⟨isWritten_tag_iff.mpr (.raw named before after), rfl⟩

/-- So is every other tag. -/
theorem isWritten_of_doubleTag {inside : List Char} {piece : Piece}
    (unclosed : ¬ ['\x7d', '\x7d'] <:+: inside ++ ['\x7d'])
    (made : doubleTag inside = .ok piece) :
    piece.IsWritten ∧ piece.lexeme = ['\x7b', '\x7b'] ++ inside ++ ['\x7d', '\x7d'] := by
  rcases Text.exists_blanks_around_trim inside with ⟨front, back, whole, before, after⟩
  simp only [doubleTag] at made
  split at made
  · rename_i body trimmed
    cases made
    refine ⟨?_, rfl⟩
    rw [trimmed, List.append_assoc, List.cons_append] at whole
    subst whole
    exact .mk before unclosed
  · rename_i first rest _ trimmed
    rw [trimmed, List.append_assoc, List.cons_append] at whole
    split at made
    · rename_i kind asks
      rcases Attempt.map_eq_ok_iff.mp made with ⟨name, checked, rfl⟩
      have named := isName_of_checkedName checked
      rcases exists_space_around_name checked with ⟨middle, last, rfl, between, ending⟩
      refine ⟨isWritten_tag_iff.mpr ?_, rfl⟩
      subst whole
      simpa only [List.append_assoc] using
        Written.marked named asks before between (IsSpace.append ending after)
    · rcases Attempt.map_eq_ok_iff.mp made with ⟨name, checked, rfl⟩
      have named := isName_of_checkedName checked
      rcases exists_space_around_name checked with ⟨middle, last, same, between, ending⟩
      refine ⟨isWritten_tag_iff.mpr ?_, rfl⟩
      rw [← List.cons_append, same] at whole
      subst whole
      simpa only [List.append_assoc] using
        Written.plain named (IsSpace.append before between) (IsSpace.append ending after)
  · cases made

/-- A tag covers the braces that open it and what was read of the text behind them. -/
theorem isWritten_of_tagPiece {text rest : List Char} {piece : Piece}
    (read : tagPiece text = .ok (piece, rest)) :
    piece.IsWritten ∧ piece.lexeme ++ rest = ['\x7b', '\x7b'] ++ text := by
  simp only [tagPiece] at read
  split at read
  · split at read
    · cases read
    · rename_i inside after closed
      rcases Attempt.map_eq_ok_iff.mp read with ⟨made, isTag, same⟩
      cases same
      rcases isWritten_of_tripleTag isTag with ⟨written, lexeme⟩
      refine ⟨written, ?_⟩
      rw [lexeme, Text.append_of_cut closed]
      simp
  · split at read
    · cases read
    · rename_i inside after closed
      rcases Attempt.map_eq_ok_iff.mp read with ⟨made, isTag, same⟩
      cases same
      rcases isWritten_of_doubleTag (Text.not_infix_of_cut (by simp) closed) isTag with
        ⟨written, lexeme⟩
      refine ⟨written, ?_⟩
      rw [lexeme, Text.append_of_cut closed]
      simp

/-- A run of ordinary characters stands together in the literal text. -/
theorem infix_of_mem_literalPieces {text : List Char} {piece : Piece}
    (member : piece ∈ literalPieces text) : piece.lexeme <:+: text := by
  obtain ⟨front, back, split⟩ := List.append_of_mem member
  have whole := flatMap_lexeme_literalPieces text
  rw [split, List.flatMap_append, List.flatMap_cons] at whole
  exact ⟨front.flatMap Piece.lexeme, back.flatMap Piece.lexeme, by simpa using whole⟩

/-- Text without tags is cut into pieces that are spelled as they are read. -/
theorem isWritten_of_mem_literalPieces {text : List Char} {piece : Piece}
    (tagless : ¬ ['\x7b', '\x7b'] <:+: text) (member : piece ∈ literalPieces text) :
    piece.IsWritten := by
  have within := infix_of_mem_literalPieces member
  have sound := isSound_of_mem_literalPieces member
  cases piece with
  | run chars =>
      simp only [Piece.IsWritten, Piece.meaning?, Piece.lexeme, String.toList_ofList]
      refine .text sound.1 ?_ fun opens => tagless (opens.trans within)
      intro char inRun isSpecial
      have ordinary := sound.2 char inRun
      rw [mem_of_isSpecial.mpr isSpecial] at ordinary
      cases ordinary
  | special char =>
      simp only [Piece.IsWritten, Piece.meaning?, Piece.lexeme, String.toList_ofList]
      exact .special (mem_of_isSpecial.mp sound)
  | tag kind name lexeme =>
      cases isLiteral_of_mem_literalPieces member
  | comment lexeme =>
      cases isLiteral_of_mem_literalPieces member

/-- Every piece of a template is spelled as it is read. -/
theorem isWritten_of_mem_pieces {text : List Char} {piece : Piece}
    (member : piece ∈ (pieces text).1) : piece.IsWritten := by
  fun_induction pieces text with
  | case1 text before found =>
      exact isWritten_of_mem_literalPieces (eq_of_untilTag found).2 member
  | case2 text before inside found fault read =>
      exact isWritten_of_mem_literalPieces (append_of_untilTag found).2 member
  | case3 text before inside found tag rest read shorter later fault readRest ih =>
      simp only [List.mem_append, List.mem_cons] at member
      rcases member with inBefore | rfl | inLater
      · exact isWritten_of_mem_literalPieces (append_of_untilTag found).2 inBefore
      · exact (isWritten_of_tagPiece read).1
      · exact ih (by rw [readRest]; exact inLater)

/-- A text that is read to its end is made of its pieces. -/
theorem flatMap_lexeme_pieces {text : List Char} (complete : (pieces text).2 = none) :
    (pieces text).1.flatMap Piece.lexeme = text := by
  fun_induction pieces text with
  | case1 text before found =>
      rw [flatMap_lexeme_literalPieces, (eq_of_untilTag found).1]
  | case2 text before inside found fault read =>
      cases complete
  | case3 text before inside found tag rest read shorter later fault readRest ih =>
      rw [readRest] at ih
      rw [List.flatMap_append, List.flatMap_cons, flatMap_lexeme_literalPieces, ih complete,
        (isWritten_of_tagPiece read).2, ← List.append_assoc, (append_of_untilTag found).1]

/-! ## Places -/

namespace Cursor

theorem after_cons (cursor : Cursor) (char : Char) (rest : List Char) :
    cursor.after (char :: rest) = (cursor.step char).after rest :=
  rfl

/-- A cursor that passes two texts passes them one after the other. -/
theorem after_append (cursor : Cursor) (front back : List Char) :
    cursor.after (front ++ back) = (cursor.after front).after back := by
  simp [after]

/-- A cursor counts the characters that it has passed. -/
theorem offset_after (cursor : Cursor) (chars : List Char) :
    (cursor.after chars).offset = cursor.offset + chars.length := by
  induction chars generalizing cursor with
  | nil =>
      rfl
  | cons char rest ih =>
      have stepped : (cursor.step char).offset = cursor.offset + 1 := by
        unfold step
        split <;> rfl
      rw [after_cons, ih, stepped, List.length_cons]
      omega

/-- It counts the line feeds among them. -/
theorem line_after (cursor : Cursor) (chars : List Char) :
    (cursor.after chars).line = cursor.line + chars.count '\n' := by
  induction chars generalizing cursor with
  | nil =>
      rfl
  | cons char rest ih =>
      rw [after_cons, ih, List.count_cons]
      simp only [step]
      split
      · simp only
        omega
      · rfl

/-- Within a line the columns go along with the characters. -/
theorem column_after_of_not_mem {cursor : Cursor} {chars : List Char}
    (oneLine : '\n' ∉ chars) :
    (cursor.after chars).column = cursor.column + chars.length := by
  induction chars generalizing cursor with
  | nil =>
      rfl
  | cons char rest ih =>
      rw [List.mem_cons, not_or] at oneLine
      have stepped : (cursor.step char).column = cursor.column + 1 := by
        simp [step, Ne.symm oneLine.1]
      rw [after_cons, ih oneLine.2, stepped, List.length_cons]
      omega

/-- Columns are counted anew behind a line feed. -/
theorem column_after_lineFeed {cursor : Cursor} {before behind : List Char}
    (oneLine : '\n' ∉ behind) :
    (cursor.after (before ++ '\n' :: behind)).column = 1 + behind.length := by
  rw [after_append, after_cons, column_after_of_not_mem oneLine]
  rfl

end Cursor

/-- A position says where a character of a text stands. -/
structure IsPlace (source : String) (text : List Char) (offset : Nat)
    (position : Position) : Prop where
  sameSource : position.source = source
  sameOffset : position.offset = offset
  within : offset ≤ text.length
  line : position.line = 1 + (text.take offset).count '\n'
  /-- On the first line, all characters before the place are counted. -/
  columnOfFirstLine : '\n' ∉ text.take offset → position.column = offset + 1
  /-- On any other line, those behind the last line feed before the place. -/
  columnOfLaterLine : ∀ index < offset, text[index]? = some '\n' →
    '\n' ∉ (text.take offset).drop (index + 1) → position.column = offset - index

/-- A cursor that starts at the beginning is at the place behind the text that it has passed. -/
theorem isPlace_after (source : String) (front back : List Char) :
    IsPlace source (front ++ back) front.length ((Cursor.start.after front).position source) where
  sameSource := rfl
  sameOffset := by
    simp [Cursor.position, Cursor.offset_after, Cursor.start]
  within := by
    simp
  line := by
    simp [Cursor.position, Cursor.line_after, Cursor.start]
  columnOfFirstLine := by
    intro oneLine
    rw [List.take_left] at oneLine
    simp only [Cursor.position, Cursor.column_after_of_not_mem oneLine, Cursor.start]
    push_cast
    omega
  columnOfLaterLine := by
    intro index before isFeed last
    rw [List.take_left] at last
    rw [List.getElem?_append_left before] at isFeed
    have split : front.take index ++ '\n' :: front.drop (index + 1) = front := by
      rcases List.getElem?_eq_some_iff.mp isFeed with ⟨_, isFeed⟩
      rw [← isFeed, List.getElem_cons_drop, List.take_append_drop]
    have column :
        (Cursor.start.after (front.take index ++ '\n' :: front.drop (index + 1))).column =
          1 + (front.drop (index + 1)).length :=
      Cursor.column_after_lineFeed last
    rw [split] at column
    simp only [Cursor.position, column, List.length_drop]
    omega

/-- Where the pieces end is where a cursor comes that passes their spellings. -/
theorem placeAfter_eq_after (cursor : Cursor) (pieces : List Piece) :
    placeAfter cursor pieces = cursor.after (pieces.flatMap Piece.lexeme) := by
  induction pieces generalizing cursor with
  | nil =>
      rfl
  | cons piece rest ih =>
      rw [List.flatMap_cons, Cursor.after_append, ← ih]
      rfl

/-! ## Tilings -/

/--
Tokens cover a text from an offset to its end: each stands where it says, the
characters from there on are its lexeme, and the next one follows behind them.
Only comments are passed over.
-/
inductive Tiles (source : String) (text : List Char) : Nat → List Token → Prop where
  | done : Tiles source text text.length []
  | token {offset : Nat} {token : Token} {rest : List Token} {lexeme : List Char}
      (placed : IsPlace source text offset token.position)
      (written : Written token.kind token.value.toList lexeme)
      (covers : lexeme <+: text.drop offset)
      (later : Tiles source text (offset + lexeme.length) rest) :
      Tiles source text offset (token :: rest)
  | comment {offset : Nat} {tokens : List Token} {lexeme : List Char}
      (written : WrittenComment lexeme)
      (covers : lexeme <+: text.drop offset)
      (later : Tiles source text (offset + lexeme.length) tokens) :
      Tiles source text offset tokens

/-- Pieces that are placed behind a text cover what they are written as. -/
theorem tiles_place (source : String) (front : List Char) {pieces : List Piece}
    (written : ∀ piece ∈ pieces, piece.IsWritten) :
    Tiles source (front ++ pieces.flatMap Piece.lexeme) front.length
      (place source (Cursor.start.after front) pieces) := by
  induction pieces generalizing front with
  | nil =>
      rw [List.flatMap_nil, List.append_nil]
      exact .done
  | cons piece rest ih =>
      have later := ih (front ++ piece.lexeme) fun other member =>
        written other (List.mem_cons_of_mem piece member)
      have here := written piece List.mem_cons_self
      rw [List.length_append, Cursor.after_append, List.append_assoc, ← List.flatMap_cons]
        at later
      have covers :
          piece.lexeme <+: (front ++ (piece :: rest).flatMap Piece.lexeme).drop front.length := by
        rw [List.drop_left, List.flatMap_cons]
        exact List.prefix_append _ _
      cases meaning : piece.meaning? with
      | some token =>
          simp only [Piece.IsWritten, meaning] at here
          simp only [place, meaning]
          exact .token (isPlace_after source front _) here covers later
      | none =>
          simp only [Piece.IsWritten, meaning] at here
          simp only [place, meaning]
          exact .comment here covers later

namespace Tiles

variable {source : String} {text : List Char} {start : Nat} {tokens : List Token}

/-- Every token begins inside the text. -/
theorem offset_of_mem (tiles : Tiles source text start tokens) {token : Token}
    (member : token ∈ tokens) :
    start ≤ token.position.offset ∧ token.position.offset < text.length := by
  induction tiles with
  | done =>
      cases member
  | token placed written covers later ih =>
      have room := covers.length_le
      have := written.length_pos
      have := placed.sameOffset
      rw [List.length_drop] at room
      rcases List.mem_cons.mp member with rfl | inRest
      · omega
      · have := ih inRest
        omega
  | comment written covers later ih =>
      have := ih member
      omega

/-- Later tokens begin farther back. -/
theorem pairwise_offset (tiles : Tiles source text start tokens) :
    tokens.Pairwise (·.position.offset < ·.position.offset) := by
  induction tiles with
  | done =>
      exact .nil
  | token placed written covers later ih =>
      refine .cons ?_ ih
      intro other member
      have := later.offset_of_mem member
      have := written.length_pos
      have := placed.sameOffset
      omega
  | comment written covers later ih =>
      exact ih

/-- Every token of a tiling stands where it says and is written there. -/
theorem exists_lexeme_of_mem (tiles : Tiles source text start tokens) {token : Token}
    (member : token ∈ tokens) :
    ∃ offset lexeme, IsPlace source text offset token.position ∧
      Written token.kind token.value.toList lexeme ∧ lexeme <+: text.drop offset := by
  induction tiles with
  | done =>
      cases member
  | @token offset first rest lexeme placed written covers later ih =>
      rcases List.mem_cons.mp member with rfl | inRest
      · exact ⟨offset, lexeme, placed, written, covers⟩
      · exact ih inRest
  | comment written covers later ih =>
      exact ih member

end Tiles

end Lexer

namespace Scan

/-- A scan without a fault delivers all its tokens. -/
theorem stream_eq_ofList {scan : Scan} (complete : scan.fault = none) :
    scan.stream = .ofList scan.allTokens := by
  have append (tokens : List Token) :
      before (.next (Token.atEnd scan.stop) .exhausted) tokens =
        (.ofList (tokens ++ [Token.atEnd scan.stop]) : TokenStream Failure) := by
    induction tokens with
    | nil =>
        rfl
    | cons token rest ih =>
        rw [before, ih, List.cons_append, TokenStream.ofList]
  simp only [stream, diagnostic?, allTokens, complete, Option.map_none]
  exact append scan.tokens

end Scan

variable {source text : String}

/-- The tokens of a text that is read to its end, without its end token, tile the text. -/
theorem tiles_scan (complete : (scan source text).fault = none) :
    Lexer.Tiles source text.toList 0 (scan source text).tokens := by
  have written : ∀ piece ∈ (Lexer.pieces text.toList).1, piece.IsWritten :=
    fun piece member => Lexer.isWritten_of_mem_pieces member
  have tiles := Lexer.tiles_place source [] written
  rw [Lexer.flatMap_lexeme_pieces complete] at tiles
  exact tiles

/-- Reading a text to its end stops behind its last character. -/
theorem isPlace_stop (complete : (scan source text).fault = none) :
    Lexer.IsPlace source text.toList text.length (scan source text).stop := by
  have placed := Lexer.isPlace_after source text.toList []
  have stopped : (scan source text).stop =
      (Lexer.Cursor.start.after text.toList).position source := by
    simp only [scan, Lexer.placeAfter_eq_after]
    rw [Lexer.flatMap_lexeme_pieces complete]
  rw [stopped, ← String.length_toList]
  simpa only [List.append_nil] using placed

/-- Body and end of the tokens of a text account for all of the text. -/
structure Tiling (source text : String) (body : List Token) (ending : Token) : Prop where
  isEnd : ending.kind = .endOfFile
  atEnd : ending.position.offset = text.length
  endless : ∀ token ∈ body, token.kind ≠ .endOfFile
  increasing : (body ++ [ending]).Pairwise (·.position.offset < ·.position.offset)
  /-- Offset, line and column are those that one finds by counting in the text. -/
  placed : ∀ token ∈ body ++ [ending],
    ∃ offset, Lexer.IsPlace source text.toList offset token.position
  textForm : ∀ token ∈ body, token.kind = .text →
    token.value.toList ≠ [] ∧
      (∀ char ∈ token.value.toList, char ∉ ['\n', '\r', '"', '\\']) ∧
      ¬ ['\x7b', '\x7b'] <:+: token.value.toList
  specialForm : ∀ token ∈ body, token.kind = .special →
    ∃ char ∈ ['\n', '\r', '"', '\\'], token.value.toList = [char]
  /-- Literal tokens stand in the text as they are. -/
  verbatim : ∀ token ∈ body, token.isLiteral = true →
    ∃ offset : Nat, token.position.offset = offset ∧
      token.value.toList = (text.toList.drop offset).take token.value.length
  /-- Between them are tags, each of which is written for one token, and comments. -/
  tiles : Lexer.Tiles source text.toList 0 body

/-- Reading a text either breaks off at a wrong tag or accounts for all of the text. -/
theorem tokens_tile_text (complete : (scan source text).fault = none) :
    ∃ body ending,
      (scan source text).allTokens = body ++ [ending] ∧
        (scan source text).stream = .ofList (body ++ [ending]) ∧
        Tiling source text body ending := by
  have tiles := tiles_scan complete
  have stopped := isPlace_stop complete
  have tokens : (scan source text).allTokens =
      (scan source text).tokens ++ [Token.atEnd (scan source text).stop] := by
    simp only [Scan.allTokens, complete]
  refine ⟨(scan source text).tokens, Token.atEnd (scan source text).stop, tokens,
    tokens ▸ Scan.stream_eq_ofList complete, ?_⟩
  -- All but the end is said of single tokens: each has a lexeme that begins at its place.
  exact
    { isEnd := rfl
      atEnd := stopped.sameOffset
      endless := fun token member => kind_of_mem_scan member
      increasing := by
        refine List.pairwise_append.mpr ⟨tiles.pairwise_offset, List.pairwise_singleton _ _, ?_⟩
        intro token member ending atEnd
        have before := (tiles.offset_of_mem member).2
        rw [List.mem_singleton.mp atEnd, Token.atEnd, stopped.sameOffset]
        rwa [String.length_toList] at before
      placed := by
        intro token member
        rcases List.mem_append.mp member with inBody | atEnd
        · rcases tiles.exists_lexeme_of_mem inBody with ⟨offset, lexeme, placed, -⟩
          exact ⟨offset, placed⟩
        · rw [List.mem_singleton.mp atEnd]
          exact ⟨text.length, stopped⟩
      textForm := by
        intro token member isText
        rcases tiles.exists_lexeme_of_mem member with ⟨offset, lexeme, -, written, -⟩
        exact (isText ▸ written).text_form
      specialForm := by
        intro token member isSpecial
        rcases tiles.exists_lexeme_of_mem member with ⟨offset, lexeme, -, written, -⟩
        exact (isSpecial ▸ written).special_form
      verbatim := by
        intro token member isLiteral
        rcases tiles.exists_lexeme_of_mem member with
          ⟨offset, lexeme, placed, written, covers⟩
        have tagless : Lexer.isTagKind token.kind = false := by
          rcases Bool.or_eq_true_iff.mp isLiteral with isText | isSpecial
          · rw [beq_iff_eq.mp isText]
            rfl
          · rw [beq_iff_eq.mp isSpecial]
            rfl
        rw [written.lexeme_eq_value tagless, List.prefix_iff_eq_take, String.length_toList]
          at covers
        exact ⟨offset, placed.sameOffset, covers⟩
      tiles }

/-- Line breaks in a tag and in a comment, a lone brace before a tag, and one in a comment. -/
def brokenLines : String :=
  "a\r\n\x7b\x7b! x\n\x7d y \x7d\x7d\x7b \x7b\x7b#\n items\n\x7d\x7d\"" ++
    "\x7b\x7b\x7b . \x7d\x7d\x7d\x7b\x7b/items\x7d\x7d\n"

theorem tokens_tile_text_brokenLines :
    (scan "page" brokenLines).fault = none ∧
      ∃ body ending,
        (scan "page" brokenLines).allTokens = body ++ [ending] ∧
          (scan "page" brokenLines).stream = .ofList (body ++ [ending]) ∧
          Tiling "page" brokenLines body ending := by
  have complete : (scan "page" brokenLines).fault = none := by
    decide +kernel
  exact ⟨complete, tokens_tile_text complete⟩

end TypedMustache
