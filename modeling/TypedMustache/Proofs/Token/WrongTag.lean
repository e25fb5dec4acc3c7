import TypedMustache.Proofs.Token.Printing

/-!
# Reading breaks off at the first wrong tag

A text is read from left to right.  A character that opens no tag is passed over,
and so is a tag or a comment that is written as it should be.  `Lexer.Reaches` says
which places one comes to in this way, and `Lexer.WrongTag` what can be wrong with a
tag: it is not closed, or its name is none.  Neither mentions how reading is done.

Reading breaks off at a wrong tag that is reached, and nowhere else.  What was read
before is what reading gives for the text in front of the tag, so it does not depend
on the tag or on anything behind it.  The main result is `scan_breaksOff`.
-/

namespace TypedMustache

/-! ## Cutting -/

namespace Text

/-- A text is not cut at a mark if the mark does not occur in it. -/
theorem cut_eq_none_iff {mark text : List Char} :
    cut mark text = none ↔ ¬ mark <:+: text := by
  constructor
  · exact not_infix_of_cut_eq_none
  · intro absent
    cases found : cut mark text with
    | none =>
        rfl
    | some parts =>
        exact absurd ⟨parts.1, parts.2, (append_of_cut found).symm⟩ absent

/-- A mark that stands earlier than the first one does not stand earlier at all. -/
theorem eq_nil_of_earlier {mark before more after rest : List Char} (marked : mark ≠ [])
    (first : ¬ mark <:+: before ++ more ++ mark.dropLast)
    (overlap : mark ++ after = more ++ (mark ++ rest)) : more = [] := by
  by_contra some
  have room : mark.length ≤ (more ++ mark.dropLast).length := by
    have := List.length_pos_iff.mpr some
    have := List.length_pos_iff.mpr marked
    rw [List.length_append, List.length_dropLast]
    omega
  have here : mark <+: more ++ (mark ++ rest) := by
    rw [← overlap]
    exact List.prefix_append mark after
  have there : more ++ mark.dropLast <+: more ++ (mark ++ rest) :=
    (List.prefix_append_right_inj more).mpr
      ((List.dropLast_prefix mark).trans (List.prefix_append mark rest))
  have within : mark <+: more ++ mark.dropLast := List.prefix_of_prefix_length_le here there room
  apply first
  rw [List.append_assoc]
  exact within.isInfix.trans (List.suffix_append before _).isInfix

/-- A text is cut where the mark stands for the first time. -/
theorem cut_eq_some_iff {mark text before after : List Char} (marked : mark ≠ []) :
    cut mark text = some (before, after) ↔
      text = before ++ mark ++ after ∧ ¬ mark <:+: before ++ mark.dropLast := by
  constructor
  · intro found
    exact ⟨append_of_cut found, not_infix_of_cut marked found⟩
  · rintro ⟨rfl, first⟩
    cases found : cut mark (before ++ mark ++ after) with
    | none =>
        exact absurd ⟨before, after, rfl⟩ (cut_eq_none_iff.mp found)
    | some parts =>
        have firstFound := not_infix_of_cut marked found
        have whole := append_of_cut found
        rw [List.append_assoc, List.append_assoc, List.append_eq_append_iff] at whole
        rcases whole with ⟨more, longer, overlap⟩ | ⟨more, longer, overlap⟩
        · rw [longer] at firstFound
          have same : more = [] := eq_nil_of_earlier marked firstFound overlap
          rw [same, List.nil_append, List.append_cancel_left_eq] at overlap
          rw [same, List.append_nil] at longer
          rw [← longer, overlap]
        · rw [longer] at first
          have same : more = [] := eq_nil_of_earlier marked first overlap
          rw [same, List.nil_append, List.append_cancel_left_eq] at overlap
          rw [same, List.append_nil] at longer
          rw [longer, ← overlap]

theorem splitOn_eq_listSplitOn (separator : Char) (text : List Char) :
    splitOn separator text = text.splitOn separator := by
  induction text with
  | nil =>
      rfl
  | cons char rest ih =>
      rw [splitOn, ih]
      simp only [List.splitOn, List.splitOnP_cons_eq_if_modifyHead]
      cases parts : List.splitOnP (· == separator) rest with
      | nil =>
          exact absurd parts (List.splitOnP_ne_nil _ _)
      | cons part others =>
          rfl

end Text

namespace Lexer

/-! ## Names that are none -/

/-- A letter or an underscore, and word characters behind it. -/
inductive IsPart : List Char → Prop where
  | mk {first : Char} {rest : List Char} (start : Text.isNameStart first = true)
      (inside : ∀ char ∈ rest, Text.isWord char = true) : IsPart (first :: rest)

theorem IsPart.undotted {text : List Char} (isPart : IsPart text) : '.' ∉ text := by
  cases isPart with
  | mk start inside =>
      rw [List.mem_cons, not_or]
      constructor
      · rintro rfl
        cases start
      · intro member
        have word := inside '.' member
        revert word
        decide +kernel

/-- The grammar of names: a lone dot, or parts with a dot between any two. -/
inductive IsPath : List Char → Prop where
  | dot : IsPath ['.']
  | joined {parts : List (List Char)} (some : parts ≠ []) (each : ∀ part ∈ parts, IsPart part) :
      IsPath (['.'].intercalate parts)

/-- The check of a component is the condition on components. -/
theorem isComponent_iff {text : List Char} : isComponent text = true ↔ IsPart text := by
  cases text with
  | nil =>
      constructor
      · intro impossible
        cases impossible
      · intro impossible
        cases impossible
  | cons first rest =>
      rw [isComponent, Bool.and_eq_true, List.all_eq_true]
      constructor
      · rintro ⟨start, inside⟩
        exact .mk start inside
      · rintro ⟨start, inside⟩
        exact ⟨start, inside⟩

/-- The check of a name is the condition on paths. -/
theorem isName_iff {text : List Char} : isName text = true ↔ IsPath text := by
  rw [isName, Bool.or_eq_true, beq_iff_eq, List.all_eq_true, Text.splitOn_eq_listSplitOn]
  constructor
  · rintro (rfl | components)
    · exact .dot
    · have whole : ['.'].intercalate (text.splitOn '.') = text := List.intercalate_splitOn '.'
      rw [← whole]
      exact .joined (List.splitOn_ne_nil _ _) fun part member =>
        isComponent_iff.mp (components part member)
  · intro path
    cases path with
    | dot =>
        exact .inl rfl
    | joined some each =>
        have undotted : ∀ part ∈ _, '.' ∉ part := fun part member => (each part member).undotted
        rw [List.splitOn_intercalate '.' undotted some]
        exact .inr fun part member => isComponent_iff.mpr (each part member)

/-- What is wrong with the name in a tag: there is none, or it does not follow the grammar. -/
inductive WrongName (raw : List Char) : Fault → Prop where
  | empty (nothing : Text.trim raw = []) : WrongName raw .emptyName
  | invalid (something : Text.trim raw ≠ []) (wrong : ¬ IsPath (Text.trim raw)) :
      WrongName raw (.invalidName (String.ofList (Text.trim raw)))

/-- A name is refused exactly if it is wrong, with the fault that it has. -/
theorem checkedName_eq_error_iff {raw : List Char} {fault : Fault} :
    checkedName raw = .error fault ↔ WrongName raw fault := by
  simp only [checkedName, List.isEmpty_iff, isName_iff]
  constructor
  · intro failed
    split at failed
    · rename_i nothing
      cases failed
      exact .empty nothing
    · rename_i something
      split at failed
      · cases failed
      · rename_i wrong
        cases failed
        exact .invalid something (fun path => wrong (isName_iff.mpr path))
  · rintro (nothing | ⟨something, wrong⟩)
    · rw [if_pos nothing]
    · rw [if_neg something, if_neg (fun named => wrong (isName_iff.mp named))]

/-! ## Wrong tags -/

/-- A text without the mark at its front that asks for a kind of tag. -/
def withoutMark : List Char → List Char
  | [] => []
  | first :: rest => if first ∈ ['#', '^', '/', '&'] then rest else first :: rest

/-- A text that starts with a tag that is wrong. -/
inductive WrongTag : List Char → Fault → Prop where
  /-- Three braces are not closed by three. -/
  | unclosedTriple {rest : List Char} (unclosed : ¬ ['\x7d', '\x7d', '\x7d'] <:+: rest) :
      WrongTag (['\x7b', '\x7b', '\x7b'] ++ rest) .unclosedTripleTag
  /-- Two braces, and not three, are not closed by two. -/
  | unclosedDouble {rest : List Char} (double : rest.head? ≠ some '\x7b')
      (unclosed : ¬ ['\x7d', '\x7d'] <:+: rest) :
      WrongTag (['\x7b', '\x7b'] ++ rest) .unclosedTag
  /-- What stands up to the first three closing braces is no name. -/
  | misnamedTriple {inside after : List Char} {fault : Fault}
      (first : ¬ ['\x7d', '\x7d', '\x7d'] <:+: inside ++ ['\x7d', '\x7d'])
      (misnamed : WrongName inside fault) :
      WrongTag
        (['\x7b', '\x7b', '\x7b'] ++ (inside ++ ['\x7d', '\x7d', '\x7d'] ++ after)) fault
  /-- What stands up to the first two closing braces is no comment, and no name either. -/
  | misnamedDouble {inside after : List Char} {fault : Fault}
      (double : inside.head? ≠ some '\x7b')
      (first : ¬ ['\x7d', '\x7d'] <:+: inside ++ ['\x7d'])
      (speaks : (Text.trim inside).head? ≠ some '!')
      (misnamed : WrongName (withoutMark (Text.trim inside)) fault) :
      WrongTag (['\x7b', '\x7b'] ++ (inside ++ ['\x7d', '\x7d'] ++ after)) fault

theorem sigil?_eq_none_iff {char : Char} :
    sigil? char = none ↔ char ∉ ['#', '^', '/', '&'] := by
  unfold sigil?
  split
  · simp
  · simp
  · simp
  · simp
  · rename_i notHash notCaret notSlash notAmpersand
    simpa using ⟨notHash, notCaret, notSlash, notAmpersand⟩

/-- A tag is refused exactly if it is no comment and its name is wrong. -/
theorem doubleTag_eq_error_iff {inside : List Char} {fault : Fault} :
    doubleTag inside = .error fault ↔
      (Text.trim inside).head? ≠ some '!' ∧
        WrongName (withoutMark (Text.trim inside)) fault := by
  rw [doubleTag, ← checkedName_eq_error_iff]
  cases Text.trim inside with
  | nil =>
      have trimmed : Text.trim [] = [] := rfl
      simp [withoutMark, checkedName, trimmed]
  | cons first rest =>
      by_cases isComment : first = '!'
      · simp [isComment]
      · cases asks : sigil? first with
        | none =>
            have unmarked := sigil?_eq_none_iff.mp asks
            simp [isComment, asks, withoutMark, unmarked, Attempt.map_eq_error_iff]
        | some kind =>
            have marked : first ∈ ['#', '^', '/', '&'] := by
              by_contra unmarked
              rw [sigil?_eq_none_iff.mpr unmarked] at asks
              cases asks
            simp [isComment, asks, withoutMark, marked, Attempt.map_eq_error_iff]

/-- Read a tag up to the first mark that closes it. -/
def closedBy (mark : List Char) (unclosed : Fault) (read : List Char → Except Fault Piece)
    (text : List Char) : Except Fault (Piece × List Char) :=
  match Text.cut mark text with
  | none => .error unclosed
  | some (inside, after) => (read inside).map (·, after)

/-- A third brace asks for three closing ones. -/
theorem tagPiece_triple (rest : List Char) :
    tagPiece ('\x7b' :: rest) =
      closedBy ['\x7d', '\x7d', '\x7d'] .unclosedTripleTag tripleTag rest :=
  rfl

/-- Without it two are enough. -/
theorem tagPiece_double {text : List Char} (double : text.head? ≠ some '\x7b') :
    tagPiece text = closedBy ['\x7d', '\x7d'] .unclosedTag doubleTag text := by
  unfold tagPiece
  split
  · exact absurd rfl double
  · rfl

/-- A tag is wrong if nothing closes it, or because of what stands before its end. -/
theorem closedBy_eq_error_iff {mark text : List Char} {unclosed fault : Fault}
    {read : List Char → Except Fault Piece} (marked : mark ≠ []) :
    closedBy mark unclosed read text = .error fault ↔
      (¬ mark <:+: text ∧ fault = unclosed) ∨
        ∃ inside after, text = inside ++ mark ++ after ∧ ¬ mark <:+: inside ++ mark.dropLast ∧
          read inside = .error fault := by
  rw [closedBy]
  cases closed : Text.cut mark text with
  | none =>
      have endless := Text.cut_eq_none_iff.mp closed
      constructor
      · intro failed
        cases failed
        exact .inl ⟨endless, rfl⟩
      · rintro (⟨-, rfl⟩ | ⟨inside, after, rfl, -⟩)
        · rfl
        · exact absurd ⟨inside, after, rfl⟩ endless
  | some parts =>
      rcases parts with ⟨inside, after⟩
      rcases (Text.cut_eq_some_iff marked).mp closed with ⟨whole, first⟩
      constructor
      · intro failed
        exact .inr ⟨inside, after, whole, first, Attempt.map_eq_error_iff.mp failed⟩
      · rintro (⟨endless, -⟩ | ⟨other, behind, split, earlier, failed⟩)
        · exact absurd ⟨inside, after, whole.symm⟩ endless
        · rw [(Text.cut_eq_some_iff marked).mpr ⟨split, earlier⟩] at closed
          cases closed
          exact Attempt.map_eq_error_iff.mpr failed

/-- A tag that is refused is wrong, for the reason that is given. -/
theorem wrongTag_of_tagPiece {text : List Char} {fault : Fault}
    (failed : tagPiece text = .error fault) : WrongTag (['\x7b', '\x7b'] ++ text) fault := by
  by_cases triple : text.head? = some '\x7b'
  · rcases List.head?_eq_some_iff.mp triple with ⟨rest, rfl⟩
    rw [tagPiece_triple, closedBy_eq_error_iff (List.cons_ne_nil _ _)] at failed
    rcases failed with ⟨endless, rfl⟩ | ⟨inside, after, rfl, first, wrong⟩
    · exact .unclosedTriple endless
    · rw [tripleTag, Attempt.map_eq_error_iff, checkedName_eq_error_iff] at wrong
      exact .misnamedTriple first wrong
  · rw [tagPiece_double triple, closedBy_eq_error_iff (List.cons_ne_nil _ _)] at failed
    rcases failed with ⟨endless, rfl⟩ | ⟨inside, after, rfl, first, wrong⟩
    · exact .unclosedDouble triple endless
    · rcases doubleTag_eq_error_iff.mp wrong with ⟨speaks, misnamed⟩
      refine .misnamedDouble ?_ first speaks misnamed
      intro opens
      rcases List.head?_eq_some_iff.mp opens with ⟨rest, rfl⟩
      exact triple rfl

/-- Whatever is wrong with a tag, reading says so. -/
theorem tagPiece_of_wrongTag {text : List Char} {fault : Fault} (wrong : WrongTag text fault) :
    ∃ rest, text = ['\x7b', '\x7b'] ++ rest ∧ tagPiece rest = .error fault := by
  cases wrong with
  | @unclosedTriple rest endless =>
      refine ⟨'\x7b' :: rest, rfl, ?_⟩
      rw [tagPiece_triple, closedBy_eq_error_iff (List.cons_ne_nil _ _)]
      exact .inl ⟨endless, rfl⟩
  | @unclosedDouble rest double endless =>
      refine ⟨rest, rfl, ?_⟩
      rw [tagPiece_double double, closedBy_eq_error_iff (List.cons_ne_nil _ _)]
      exact .inl ⟨endless, rfl⟩
  | @misnamedTriple inside after _ first misnamed =>
      refine ⟨'\x7b' :: (inside ++ ['\x7d', '\x7d', '\x7d'] ++ after), rfl, ?_⟩
      rw [tagPiece_triple, closedBy_eq_error_iff (List.cons_ne_nil _ _)]
      refine .inr ⟨inside, after, rfl, first, ?_⟩
      rw [tripleTag, Attempt.map_eq_error_iff, checkedName_eq_error_iff]
      exact misnamed
  | @misnamedDouble inside after _ double first speaks misnamed =>
      have notTriple : (inside ++ ['\x7d', '\x7d'] ++ after).head? ≠ some '\x7b' := by
        cases inside with
        | nil =>
            simp
        | cons char others =>
            exact double
      refine ⟨inside ++ ['\x7d', '\x7d'] ++ after, rfl, ?_⟩
      rw [tagPiece_double notTriple, closedBy_eq_error_iff (List.cons_ne_nil _ _)]
      exact .inr ⟨inside, after, rfl, first, doubleTag_eq_error_iff.mpr ⟨speaks, misnamed⟩⟩

/-! ## Places that reading comes to -/

/-- The places of a text that one comes to when it is read from left to right. -/
inductive Reaches (text : List Char) : Nat → Prop where
  | start : Reaches text 0
  /-- A character that opens no tag is passed over. -/
  | literal {offset : Nat} {char : Char} {rest : List Char} (reached : Reaches text offset)
      (here : text.drop offset = char :: rest) (unopened : ¬ ['\x7b', '\x7b'] <+: char :: rest) :
      Reaches text (offset + 1)
  /-- So is a tag with all its braces. -/
  | tag {offset : Nat} {kind : Token.Kind} {value lexeme : List Char}
      (reached : Reaches text offset) (isTag : isTagKind kind = true)
      (written : Written kind value lexeme) (covers : lexeme <+: text.drop offset) :
      Reaches text (offset + lexeme.length)
  /-- So is a comment. -/
  | comment {offset : Nat} {lexeme : List Char} (reached : Reaches text offset)
      (written : WrittenComment lexeme) (covers : lexeme <+: text.drop offset) :
      Reaches text (offset + lexeme.length)

/-! ## Tags and what follows them -/

/-- What is trimmed begins with the first character that is no white space. -/
theorem exists_trim_eq_cons {front : List Char} {first : Char} (rest : List Char)
    (before : IsSpace front) (solid : Text.isBlank first = false) :
    ∃ more, Text.trim (front ++ first :: rest) = first :: more := by
  have trimmedFront : (front ++ first :: rest).dropWhile Text.isBlank = first :: rest := by
    rw [List.dropWhile_append_of_pos before, List.dropWhile_cons_of_neg (by simp [solid])]
  rw [Text.trim, trimmedFront, List.reverse_cons, List.dropWhile_append]
  split
  · exact ⟨[], by simp [solid]⟩
  · exact ⟨_, List.reverse_append⟩

/-- A comment is one piece, whatever stands behind it. -/
theorem tagPiece_of_comment {lexeme : List Char} (written : WrittenComment lexeme)
    (after : List Char) :
    ∃ inside, lexeme ++ after = '\x7b' :: '\x7b' :: inside ∧
      tagPiece inside = .ok (.comment lexeme, after) := by
  cases written with
  | @mk front body before unclosed =>
      have double : (front ++ '!' :: body ++ ['\x7d', '\x7d'] ++ after).head? ≠ some '\x7b' := by
        cases front with
        | nil =>
            simp
        | cons char others =>
            have blank := before char List.mem_cons_self
            rw [List.cons_append, List.cons_append, List.cons_append, List.head?_cons,
              Option.some_inj.ne]
            rintro rfl
            cases blank
      have closed : Text.cut ['\x7d', '\x7d']
          (front ++ '!' :: body ++ ['\x7d', '\x7d'] ++ after) =
            some (front ++ '!' :: body, after) :=
        (Text.cut_eq_some_iff (List.cons_ne_nil _ _)).mpr ⟨rfl, unclosed⟩
      have commented : doubleTag (front ++ '!' :: body) =
          .ok (.comment (['\x7b', '\x7b'] ++ (front ++ '!' :: body) ++ ['\x7d', '\x7d'])) := by
        rcases exists_trim_eq_cons body before (by decide : Text.isBlank '!' = false) with
          ⟨more, trimmed⟩
        rw [doubleTag, trimmed]
        rfl
      refine ⟨front ++ '!' :: body ++ ['\x7d', '\x7d'] ++ after, by simp, ?_⟩
      rw [tagPiece_double double, closedBy, closed]
      simp only [commented]
      rfl

theorem isLiteral_of_doubleTag {inside : List Char} {piece : Piece}
    (made : doubleTag inside = .ok piece) : piece.isLiteral = false := by
  simp only [doubleTag] at made
  split at made
  · cases made
    rfl
  · split at made
    · rcases Attempt.map_eq_ok_iff.mp made with ⟨name, -, rfl⟩
      rfl
    · rcases Attempt.map_eq_ok_iff.mp made with ⟨name, -, rfl⟩
      rfl
  · cases made

/-- What is between braces is never text. -/
theorem isLiteral_of_tagPiece {text rest : List Char} {piece : Piece}
    (read : tagPiece text = .ok (piece, rest)) : piece.isLiteral = false := by
  simp only [tagPiece] at read
  split at read
  · split at read
    · cases read
    · rcases Attempt.map_eq_ok_iff.mp read with ⟨made, isTag, same⟩
      cases same
      rcases Attempt.map_eq_ok_iff.mp isTag with ⟨name, -, rfl⟩
      rfl
  · split at read
    · cases read
    · rcases Attempt.map_eq_ok_iff.mp read with ⟨made, isTag, same⟩
      cases same
      exact isLiteral_of_doubleTag isTag

/-- How a tag is read does not depend on what follows it. -/
theorem exists_tagPiece_append {text rest : List Char} {piece : Piece}
    (read : tagPiece text = .ok (piece, rest)) (after : List Char) :
    ∃ inside, piece.lexeme ++ after = '\x7b' :: '\x7b' :: inside ∧
      tagPiece inside = .ok (piece, after) := by
  have written := (isWritten_of_tagPiece read).1
  have sound := isSound_of_tagPiece read
  have tagged := isLiteral_of_tagPiece read
  cases piece with
  | run | special =>
      cases tagged
  | tag kind name lexeme =>
      exact tagPiece_of_written (isWritten_tag_iff.mp written) sound.2 after
  | comment lexeme =>
      exact tagPiece_of_comment written after

/-! ## The part of a text that is read -/

/-- The text that the pieces of a text were read from. -/
def covered (text : List Char) : List Char :=
  (pieces text).1.flatMap Piece.lexeme

/-- Text without tags is cut into literal pieces only. -/
theorem pieces_of_tagless {text : List Char} (tagless : ¬ ['\x7b', '\x7b'] <:+: text) :
    pieces text = (literalPieces text, none) := by
  rw [pieces_eq, untilTag_of_not_infix tagless]

/-- The text before the first tag does not end with a brace. -/
theorem unopened_of_untilTag {text before inside : List Char}
    (found : untilTag text = (before, some inside)) : before.getLast? ≠ some '\x7b' := by
  intro opens
  rcases List.getLast?_eq_some_iff.mp opens with ⟨front, rfl⟩
  rw [untilTag_eq_cut] at found
  split at found
  · cases found
  · rename_i earlier later cutHere
    cases found
    apply Text.not_infix_of_cut (List.cons_ne_nil _ _) cutHere
    exact ⟨front, [], by simp⟩

/-- The part of a text that is read has the same pieces, and nothing in it is wrong. -/
theorem pieces_covered (text : List Char) : pieces (covered text) = ((pieces text).1, none) := by
  unfold covered
  fun_induction pieces text with
  | case1 text before found =>
      rw [flatMap_lexeme_literalPieces]
      exact pieces_of_tagless (eq_of_untilTag found).2
  | case2 text before inside found fault read =>
      rw [flatMap_lexeme_literalPieces]
      exact pieces_of_tagless (append_of_untilTag found).2
  | case3 text before inside found piece rest read shorter later fault readRest ih =>
      rw [readRest] at ih
      rcases exists_tagPiece_append read (later.flatMap Piece.lexeme) with ⟨again, opens, readAgain⟩
      have passed : untilTag (before ++ '\x7b' :: '\x7b' :: again) = (before, some again) := by
        rw [untilTag_append (append_of_untilTag found).2
          fun ends => absurd ends (unopened_of_untilTag found), untilTag_of_open,
          List.append_nil]
      rw [List.flatMap_append, List.flatMap_cons, flatMap_lexeme_literalPieces, opens, pieces_eq,
        passed]
      simp only [readAgain, ih]

/-! ## Reading comes to the first wrong tag -/

/-- Literal text is passed over character by character. -/
theorem Reaches.append_literal {front chars rest : List Char}
    (reached : Reaches (front ++ (chars ++ rest)) front.length)
    (tagless : ¬ ['\x7b', '\x7b'] <:+: chars)
    (apart : chars.getLast? = some '\x7b' → rest.head? ≠ some '\x7b') :
    Reaches (front ++ (chars ++ rest)) (front ++ chars).length := by
  induction chars generalizing front with
  | nil =>
      rw [List.append_nil]
      exact reached
  | cons char others ih =>
      have unopened : ¬ ['\x7b', '\x7b'] <+: char :: (others ++ rest) := by
        intro opens
        rcases List.cons_prefix_cons.mp opens with ⟨rfl, ⟨behind, opensNext⟩⟩
        cases others with
        | nil =>
            apply apart rfl
            rw [← List.nil_append rest, ← opensNext]
            rfl
        | cons next later =>
            cases opensNext
            exact tagless ⟨[], later, rfl⟩
      have passed : Reaches (front ++ (char :: others ++ rest)) (front ++ [char]).length := by
        rw [List.length_append]
        exact reached.literal List.drop_left unopened
      have apartLater : others.getLast? = some '\x7b' → rest.head? ≠ some '\x7b' := by
        intro ends
        apply apart
        rw [List.getLast?_cons, ends]
        rfl
      rw [List.cons_append, List.append_cons] at passed ⊢
      rw [List.append_cons front char others]
      exact ih passed (fun within => tagless (List.infix_cons within)) apartLater

/-- So is a tag or a comment, as a whole. -/
theorem Reaches.append_tag {front text rest : List Char} {piece : Piece}
    (reached : Reaches (front ++ (piece.lexeme ++ rest)) front.length)
    (read : tagPiece text = .ok (piece, rest)) :
    Reaches (front ++ (piece.lexeme ++ rest)) (front ++ piece.lexeme).length := by
  have written := (isWritten_of_tagPiece read).1
  have sound := isSound_of_tagPiece read
  have tagged := isLiteral_of_tagPiece read
  have covers : piece.lexeme <+: (front ++ (piece.lexeme ++ rest)).drop front.length := by
    rw [List.drop_left]
    exact List.prefix_append piece.lexeme rest
  rw [List.length_append]
  cases piece with
  | run | special =>
      cases tagged
  | tag kind name lexeme =>
      exact reached.tag sound.2 (isWritten_tag_iff.mp written) covers
  | comment lexeme =>
      exact reached.comment written covers

/-- Reading comes to the end of what it covers. -/
theorem Reaches.append_covered {front text : List Char}
    (reached : Reaches (front ++ text) front.length) :
    Reaches (front ++ text) (front ++ covered text).length := by
  unfold covered
  fun_induction pieces text generalizing front with
  | case1 text before found =>
      rcases eq_of_untilTag found with ⟨rfl, tagless⟩
      rw [flatMap_lexeme_literalPieces]
      rw [← List.append_nil text] at reached
      simpa using reached.append_literal tagless (by simp)
  | case2 text before inside found fault read =>
      rcases append_of_untilTag found with ⟨rfl, tagless⟩
      rw [flatMap_lexeme_literalPieces]
      rw [List.append_assoc] at reached ⊢
      exact reached.append_literal tagless fun ends => absurd ends (unopened_of_untilTag found)
  | case3 text before inside found piece rest read shorter later fault readRest ih =>
      rcases append_of_untilTag found with ⟨rfl, tagless⟩
      rw [List.append_assoc, ← (isWritten_of_tagPiece read).2] at reached ⊢
      have passed := reached.append_literal tagless fun ends =>
        absurd ends (unopened_of_untilTag found)
      rw [← List.append_assoc] at passed
      have behind := passed.append_tag read
      rw [← List.append_assoc] at behind
      simpa [readRest, flatMap_lexeme_literalPieces] using ih behind

/-- Behind what is covered there is a wrong tag, or nothing. -/
theorem exists_wrongTag_of_pieces {text : List Char} {fault : Fault}
    (wrong : (pieces text).2 = some fault) :
    ∃ rest, text = covered text ++ rest ∧ WrongTag rest fault := by
  unfold covered
  fun_induction pieces text with
  | case1 text before found =>
      cases wrong
  | case2 text before inside found reason read =>
      cases wrong
      refine ⟨['\x7b', '\x7b'] ++ inside, ?_, wrongTag_of_tagPiece read⟩
      rw [flatMap_lexeme_literalPieces, ← List.append_assoc]
      exact (append_of_untilTag found).1
  | case3 text before inside found piece rest read shorter later reason readRest ih =>
      rw [readRest] at ih
      rcases ih wrong with ⟨behind, whole, wrongTag⟩
      refine ⟨behind, ?_, wrongTag⟩
      rw [List.flatMap_append, List.flatMap_cons, flatMap_lexeme_literalPieces, List.append_assoc,
        List.append_assoc, ← whole, (isWritten_of_tagPiece read).2, ← List.append_assoc]
      exact (append_of_untilTag found).1

/-! ## Whatever is reached is read -/

/-- A part of a text is passed over if reading goes on behind it as if it was not there. -/
structure Passes (lexeme after : List Char) : Prop where
  covers : covered (lexeme ++ after) = lexeme ++ covered after
  fault : (pieces (lexeme ++ after)).2 = (pieces after).2

/-- Reading goes past a tag that is in order. -/
theorem passes_of_tagPiece {inside after : List Char} {piece : Piece}
    (opens : piece.lexeme ++ after = '\x7b' :: '\x7b' :: inside)
    (read : tagPiece inside = .ok (piece, after)) : Passes piece.lexeme after where
  covers := by
    rw [covered, opens, pieces_of_open read]
    exact List.flatMap_cons
  fault := by
    rw [opens, pieces_of_open read]

/-- It goes past a character that opens no tag. -/
theorem passes_of_unopened {char : Char} {after : List Char}
    (unopened : ¬ ['\x7b', '\x7b'] <+: char :: after) : Passes [char] after := by
  have passed : untilTag (char :: after) = (char :: (untilTag after).1, (untilTag after).2) := by
    cases after with
    | nil =>
        rfl
    | cons next rest =>
        apply untilTag_of_not_open
        rintro ⟨rfl, rfl⟩
        exact unopened (List.prefix_append _ rest)
  rcases found : untilTag after with ⟨before, inside⟩
  rw [found] at passed
  constructor
  · rw [covered, covered, List.singleton_append, pieces_eq, pieces_eq after, passed, found]
    cases inside with
    | none =>
        simp only [flatMap_lexeme_literalPieces, List.singleton_append]
    | some inside =>
        cases read : tagPiece inside with
        | error fault =>
            simp only [read, flatMap_lexeme_literalPieces, List.singleton_append]
        | ok tag =>
            simp only [read, List.flatMap_append, flatMap_lexeme_literalPieces, List.cons_append,
              List.nil_append]
  · rw [List.singleton_append, pieces_eq, pieces_eq after, passed, found]
    cases inside with
    | none =>
        rfl
    | some inside =>
        cases read : tagPiece inside with
        | error fault =>
            simp only [read]
        | ok tag =>
            simp only [read]

theorem Passes.nil (text : List Char) : Passes [] text where
  covers := rfl
  fault := rfl

/-- Reading that goes past two parts goes past both together. -/
theorem Passes.append {front lexeme after : List Char}
    (earlier : Passes front (lexeme ++ after)) (passes : Passes lexeme after) :
    Passes (front ++ lexeme) after where
  covers := by
    rw [List.append_assoc, earlier.covers, passes.covers, List.append_assoc]
  fault := by
    rw [List.append_assoc, earlier.fault, passes.fault]

/-- What is passed over next makes the part of a text that was passed over longer. -/
theorem Passes.step {text lexeme after : List Char} {offset : Nat}
    (earlier : Passes (text.take offset) (text.drop offset))
    (here : text.drop offset = lexeme ++ after) (passes : Passes lexeme after) :
    Passes (text.take (offset + lexeme.length)) (text.drop (offset + lexeme.length)) := by
  rw [here] at earlier
  rw [List.take_add, ← List.drop_drop, here, List.take_left, List.drop_left]
  exact earlier.append passes

/-- Reading passes over all that stands before a place it comes to. -/
theorem Reaches.passes {text : List Char} {offset : Nat} (reached : Reaches text offset) :
    Passes (text.take offset) (text.drop offset) := by
  induction reached with
  | start =>
      exact .nil text
  | literal reached here unopened ih =>
      exact ih.step here (passes_of_unopened unopened)
  | tag reached isTag written covers ih =>
      rcases covers with ⟨after, here⟩
      rcases tagPiece_of_written written isTag after with ⟨inside, opens, read⟩
      exact ih.step here.symm (passes_of_tagPiece opens read)
  | comment reached written covers ih =>
      rcases covers with ⟨after, here⟩
      rcases tagPiece_of_comment written after with ⟨inside, opens, read⟩
      exact ih.step here.symm (passes_of_tagPiece opens read)

/-- A wrong tag ends the reading with its fault. -/
theorem pieces_of_wrongTag {text : List Char} {fault : Fault} (wrong : WrongTag text fault) :
    pieces text = ([], some fault) := by
  rcases tagPiece_of_wrongTag wrong with ⟨rest, rfl, failed⟩
  rw [pieces_eq, List.cons_append, List.singleton_append, untilTag_of_open]
  simp only [failed]
  rfl

/-- What was read of a text is what stands before a wrong tag that is reached. -/
theorem Reaches.covered_of_wrongTag {text : List Char} {offset : Nat} {fault : Fault}
    (reached : Reaches text offset) (wrong : WrongTag (text.drop offset) fault) :
    covered text = text.take offset ∧ (pieces text).2 = some fault := by
  have stuck := pieces_of_wrongTag wrong
  have uncovered : covered (text.drop offset) = [] := by
    rw [covered, stuck]
    rfl
  have covers := reached.passes.covers
  have sameFault := reached.passes.fault
  rw [List.take_append_drop, uncovered, List.append_nil] at covers
  rw [List.take_append_drop, stuck] at sameFault
  exact ⟨covers, sameFault⟩

end Lexer

/-! ## Breaking off -/

/-- Reading a text breaks off at an offset. -/
structure BreaksOff (source text : String) (fault : Fault) (offset : Nat) : Prop where
  failed : (scan source text).fault = some fault
  label : (Failure.diagnosed { fault, position := some (scan source text).stop }).label =
    "TemplateSyntaxError"
  /-- The failure says where the offset is. -/
  placed : Lexer.IsPlace source text.toList offset (scan source text).stop
  reached : Lexer.Reaches text.toList offset
  wrong : Lexer.WrongTag (text.toList.drop offset) fault
  /-- In the text before the offset nothing is wrong. -/
  complete : (scan source (.ofList (text.toList.take offset))).fault = none
  /-- Its tokens, without an end, are those that come before the failure. -/
  stream : (scan source text).stream =
    Scan.before (.broken (.diagnosed { fault, position := some (scan source text).stop }))
      (scan source (.ofList (text.toList.take offset))).tokens

/-- Reading breaks off at a wrong tag that it comes to. -/
theorem breaksOff_of_reaches {source text : String} {offset : Nat} {fault : Fault}
    (reached : Lexer.Reaches text.toList offset)
    (wrong : Lexer.WrongTag (text.toList.drop offset) fault) :
    BreaksOff source text fault offset := by
  rcases reached.covered_of_wrongTag wrong with ⟨covers, failed⟩
  have readBefore : Lexer.pieces (text.toList.take offset) =
      ((Lexer.pieces text.toList).1, none) := by
    rw [← covers]
    exact Lexer.pieces_covered text.toList
  -- A wrong tag has at least its opening braces, so there is none behind the end.
  have within : offset ≤ text.toList.length := by
    by_contra beyond
    rw [List.drop_eq_nil_of_le (by omega)] at wrong
    rcases Lexer.tagPiece_of_wrongTag wrong with ⟨rest, impossible, -⟩
    cases impossible
  have stop : (scan source text).stop =
      (Lexer.Cursor.start.after (text.toList.take offset)).position source := by
    rw [← covers, Lexer.covered, ← Lexer.placeAfter_eq_after]
    rfl
  have sameTokens : (scan source (.ofList (text.toList.take offset))).tokens =
      (scan source text).tokens := by
    simp only [scan, String.toList_ofList, readBefore]
  constructor
  · exact failed
  · rw [Failure.label, Lexer.kind_of_pieces failed]
  · have placed := Lexer.isPlace_after source (text.toList.take offset) (text.toList.drop offset)
    rw [List.take_append_drop, List.length_take_of_le within] at placed
    rw [stop]
    exact placed
  · exact reached
  · exact wrong
  · simp only [scan, String.toList_ofList, readBefore]
  · have broken : (scan source text).diagnostic? =
        some { fault, position := some (scan source text).stop } := by
      rw [Scan.diagnostic?, show (scan source text).fault = some fault from failed]
      rfl
    rw [sameTokens, Scan.stream, broken]

/--
Reading a text fails if and only if it comes to a wrong tag.  It breaks off there,
with the tokens of the text before the tag.
-/
theorem scan_breaksOff (source text : String) :
    (∀ fault, (scan source text).fault = some fault →
        ∃ offset, BreaksOff source text fault offset) ∧
      ∀ offset fault, Lexer.Reaches text.toList offset →
        Lexer.WrongTag (text.toList.drop offset) fault → BreaksOff source text fault offset := by
  constructor
  · intro fault failed
    rcases Lexer.exists_wrongTag_of_pieces failed with ⟨rest, whole, wrong⟩
    have reached : Lexer.Reaches text.toList (Lexer.covered text.toList).length :=
      @Lexer.Reaches.append_covered [] _ .start
    have behind : text.toList.drop (Lexer.covered text.toList).length = rest :=
      (congrArg (List.drop _) whole).trans List.drop_left
    exact ⟨_, breaksOff_of_reaches reached (behind ▸ wrong)⟩
  · intro offset fault reached wrong
    exact breaksOff_of_reaches reached wrong

/-- A lone brace, a comment with a closing brace in it, and a tag over two lines. -/
def strayBraces : String :=
  "\x7b\x7b!\x7d \x7d\x7d\x7b \x7b\x7b#\na b\x7d\x7d\x7b\x7bc"

/-- A template that breaks off at a tag whose name has a space in it. -/
theorem scan_breaksOff_strayBraces :
    (scan "page" strayBraces).fault = some (.invalidName "a b") ∧
      (∃ offset, BreaksOff "page" strayBraces (.invalidName "a b") offset) ∧
      Lexer.Reaches strayBraces.toList 9 ∧
      Lexer.WrongTag (strayBraces.toList.drop 9) (.invalidName "a b") ∧
      BreaksOff "page" strayBraces (.invalidName "a b") 9 := by
  have failed : (scan "page" strayBraces).fault = some (.invalidName "a b") := by
    decide +kernel
  have comment : Lexer.WrittenComment
      (['\x7b', '\x7b'] ++ ([] ++ '!' :: ['\x7d', ' ']) ++ ['\x7d', '\x7d']) :=
    .mk .nil (by decide)
  have brace : Lexer.Reaches strayBraces.toList 7 :=
    .comment .start comment (by decide +kernel)
  have space : Lexer.Reaches strayBraces.toList 8 :=
    @Lexer.Reaches.literal _ 7 '\x7b' (strayBraces.toList.drop 8) brace (by decide +kernel)
      (by decide +kernel)
  have reached : Lexer.Reaches strayBraces.toList 9 :=
    @Lexer.Reaches.literal _ 8 ' ' (strayBraces.toList.drop 9) space (by decide +kernel)
      (by decide +kernel)
  have wrong : Lexer.WrongTag (strayBraces.toList.drop 9) (.invalidName "a b") := by
    have tag : strayBraces.toList.drop 9 =
        ['\x7b', '\x7b'] ++ ("#\na b".toList ++ ['\x7d', '\x7d'] ++ "\x7b\x7bc".toList) := by
      decide +kernel
    rw [tag]
    exact .misnamedDouble (by decide) (by decide) (by decide)
      (Lexer.checkedName_eq_error_iff.mp (by decide +kernel))
  rcases scan_breaksOff "page" strayBraces with ⟨foundAt, breaksAt⟩
  exact ⟨failed, foundAt _ failed, reached, wrong, breaksAt 9 _ reached wrong⟩

end TypedMustache
