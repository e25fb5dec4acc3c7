import Mathlib.Data.List.Chain
import Mathlib.Data.List.Forall2
import Mathlib.Tactic.MkIffOfInductiveProp
import TypedMustache.Proofs.Text.Plain
import TypedMustache.Proofs.Token.Tiling

/-!
# Printed tokens are read back

`Lexer.Written` says how a token of a kind with a value is written: literal tokens
as they are, and tags with any white space around the name and the mark.  A list
of kinds and values is printed by writing one behind the other.

Two neighbours can run into each other: two texts become one, and a brace at the
end of a text is taken for one of those that open a tag.  `Lexer.MayPrecede`
excludes just that.  The main result is `tokens_of_printed`: however such a list
is printed, reading gives the list back.
-/

namespace TypedMustache

/-! ## Cutting and trimming -/

namespace Text

/-- A mark is found where it stands if its first character does not occur earlier. -/
theorem cut_of_not_mem
    {first : Char} {others before after : List Char} (absent : first ∉ before) :
    cut (first :: others) (before ++ first :: others ++ after) = some (before, after) := by
  induction before with
  | nil =>
      simp [cut]
  | cons char rest ih =>
      rw [List.mem_cons, not_or] at absent
      have unfoundHere :
          (first :: others).isPrefixOf (char :: (rest ++ first :: others ++ after)) = false := by
        simp [List.isPrefixOf, absent.1]
      rw [List.cons_append, List.cons_append, cut, unfoundHere, ih absent.2]
      rfl

/-- Trimming takes the blanks around a text that neither begins nor ends with one. -/
theorem trim_of_solid
    {front core back : List Char} {first last : Char}
    (before : ∀ char ∈ front, isBlank char = true)
    (after : ∀ char ∈ back, isBlank char = true)
    (begins : core.head? = some first) (solidFirst : isBlank first = false)
    (ends : core.getLast? = some last) (solidLast : isBlank last = false) :
    trim (front ++ core ++ back) = core := by
  have trimmedFront : (front ++ core ++ back).dropWhile isBlank = core ++ back := by
    rw [List.append_assoc, List.dropWhile_append_of_pos before]
    rcases List.head?_eq_some_iff.mp begins with ⟨rest, rfl⟩
    simp [solidFirst]
  have trimmedBack : (core ++ back).reverse.dropWhile isBlank = core.reverse := by
    rw [List.reverse_append, List.dropWhile_append_of_pos]
    · rcases List.getLast?_eq_some_iff.mp ends with ⟨rest, rfl⟩
      simp [solidLast]
    · intro char member
      exact after char (List.mem_reverse.mp member)
  rw [trim, trimmedFront, trimmedBack, List.reverse_reverse]

end Text

namespace Lexer

/-! ## Names -/

/-- Names are made of dots and of the characters of words. -/
theorem eq_dot_or_isWord_of_mem_name
    {name : List Char} {char : Char} (named : isName name = true) (member : char ∈ name) :
    char = '.' ∨ Text.isWord char = true := by
  rcases Bool.or_eq_true_iff.mp named with dot | components
  · rw [beq_iff_eq.mp dot] at member
    exact Or.inl (List.mem_singleton.mp member)
  · have place : char = '.' ∨ ∃ part ∈ Text.splitOn '.' name, char ∈ part :=
      Text.eq_or_exists_part_of_mem member
    rcases place with isDot | ⟨part, inName, inPart⟩
    · exact Or.inl isDot
    · right
      have component := List.all_eq_true.mp components part inName
      cases part with
      | nil =>
          cases inPart
      | cons first rest =>
          rcases Bool.and_eq_true_iff.mp component with ⟨start, inside⟩
          rcases List.mem_cons.mp inPart with rfl | inRest
          · exact Text.isWord_of_isNameStart start
          · exact List.all_eq_true.mp inside char inRest

theorem isBlank_of_mem_name
    {name : List Char} {char : Char} (named : isName name = true) (member : char ∈ name) :
    Text.isBlank char = false := by
  rcases eq_dot_or_isWord_of_mem_name named member with rfl | word
  · decide
  · exact Text.isBlank_of_isPlain (Text.isPlain_of_isWord word)

/-- A character that is no word character and no dot is not in a name. -/
theorem not_mem_name
    {name : List Char} {char : Char} (named : isName name = true)
    (undotted : char ≠ '.') (wordless : Text.isWord char = false) : char ∉ name := by
  intro member
  rcases eq_dot_or_isWord_of_mem_name named member with isDot | word
  · exact undotted isDot
  · rw [wordless] at word
    cases word

/-- A character that is no blank does not stand in space. -/
theorem not_mem_space
    {space : List Char} {char : Char} (isSpace : IsSpace space)
    (solid : Text.isBlank char = false) : char ∉ space := by
  intro member
  rw [isSpace char member] at solid
  cases solid

theorem IsSpace.nil : IsSpace [] := by
  intro char member
  cases member

theorem name_ne_nil {name : List Char} (named : isName name = true) : name ≠ [] := by
  rintro rfl
  cases named

/-- The first and the last character of a name, which are no white space. -/
theorem exists_ends_of_name {name : List Char} (named : isName name = true) :
    ∃ first last, name.head? = some first ∧ Text.isBlank first = false ∧
      name.getLast? = some last ∧ Text.isBlank last = false := by
  have nonempty := name_ne_nil named
  refine ⟨name.head nonempty, name.getLast nonempty, List.head?_eq_some_head nonempty, ?_,
    List.getLast?_eq_some_getLast nonempty, ?_⟩
  · exact isBlank_of_mem_name named (List.head_mem nonempty)
  · exact isBlank_of_mem_name named (List.getLast_mem nonempty)

/-- White space around a name means nothing. -/
theorem trim_of_spaced
    {front name back : List Char} (named : isName name = true)
    (before : IsSpace front) (after : IsSpace back) :
    Text.trim (front ++ name ++ back) = name := by
  rcases exists_ends_of_name named with ⟨first, last, begins, solidFirst, ends, solidLast⟩
  exact Text.trim_of_solid before after begins solidFirst ends solidLast

/-- What is a name once it is trimmed passes the check. -/
theorem checkedName_of_trim
    {raw name : List Char} (named : isName name = true) (trimmed : Text.trim raw = name) :
    checkedName raw = .ok name := by
  simp [checkedName, trimmed, name_ne_nil named, named]

/-! ## Tags -/

/-- No name begins with the mark of a comment or of a kind of tag. -/
theorem unmarked_of_name {first : Char} {rest : List Char}
    (named : isName (first :: rest) = true) : first ≠ '!' ∧ sigil? first = none := by
  have absent (char : Char) (undotted : char ≠ '.') (wordless : Text.isWord char = false) :
      first ≠ char := by
    rintro rfl
    exact not_mem_name named undotted wordless List.mem_cons_self
  refine ⟨absent '!' (by decide) (by decide +kernel), ?_⟩
  unfold sigil?
  split
  · exact absurd rfl (absent '#' (by decide) (by decide +kernel))
  · exact absurd rfl (absent '^' (by decide) (by decide +kernel))
  · exact absurd rfl (absent '/' (by decide) (by decide +kernel))
  · exact absurd rfl (absent '&' (by decide) (by decide +kernel))
  · rfl

/-- A sigil is no blank, and can be taken neither for a comment nor for a brace. -/
theorem solid_of_sigil? {mark : Char} {kind : Token.Kind} (asks : sigil? mark = some kind) :
    Text.isBlank mark = false ∧ mark ≠ '!' ∧ mark ≠ '\x7b' ∧ mark ≠ '\x7d' := by
  unfold sigil? at asks
  split at asks
  · decide
  · decide
  · decide
  · decide
  · cases asks

/-- A name with space around it is a reference. -/
theorem doubleTag_of_plain
    {front name back : List Char} (named : isName name = true)
    (before : IsSpace front) (after : IsSpace back) :
    doubleTag (front ++ name ++ back) =
      .ok (.tag .reference name
        (['\x7b', '\x7b'] ++ (front ++ name ++ back) ++ ['\x7d', '\x7d'])) := by
  have trimmed := trim_of_spaced named before after
  have checked : checkedName name = .ok name := by
    apply checkedName_of_trim named
    simpa using trim_of_spaced named IsSpace.nil IsSpace.nil
  rw [doubleTag, trimmed]
  cases name with
  | nil =>
      exact absurd rfl (name_ne_nil named)
  | cons first rest =>
      rcases unmarked_of_name named with ⟨noComment, noSigil⟩
      simp [noSigil, checked, Except.map]

/-- A sigil and a name, with space wherever it may stand, are a tag of the sigil's kind. -/
theorem doubleTag_of_marked
    {front middle name back : List Char} {kind : Token.Kind} {mark : Char}
    (named : isName name = true) (asks : sigil? mark = some kind)
    (before : IsSpace front) (between : IsSpace middle) (after : IsSpace back) :
    doubleTag (front ++ mark :: (middle ++ name ++ back)) =
      .ok (.tag kind name
        (['\x7b', '\x7b'] ++ (front ++ mark :: (middle ++ name ++ back)) ++
          ['\x7d', '\x7d'])) := by
  rcases solid_of_sigil? asks with ⟨solidMark, noComment, -, -⟩
  rcases exists_ends_of_name named with ⟨first, last, -, -, ends, solidLast⟩
  have endsWithName : (mark :: (middle ++ name)).getLast? = some last := by
    rw [← List.cons_append, List.getLast?_append, ends]
    rfl
  have trimmed : Text.trim (front ++ mark :: (middle ++ name ++ back)) =
      mark :: (middle ++ name) := by
    have regrouped : front ++ mark :: (middle ++ name ++ back) =
        front ++ (mark :: (middle ++ name)) ++ back := by
      simp
    rw [regrouped]
    exact Text.trim_of_solid before after rfl solidMark endsWithName solidLast
  have checked : checkedName (middle ++ name) = .ok name := by
    apply checkedName_of_trim named
    simpa using trim_of_spaced named between IsSpace.nil
  rw [doubleTag, trimmed]
  simp [asks, checked, Except.map]

/-- What stands between the braces of a tag has no braces of its own. -/
structure Braceless (text : List Char) : Prop where
  unopened : '\x7b' ∉ text
  unclosed : '\x7d' ∉ text

namespace Braceless

variable {text front back : List Char}

theorem of_space (isSpace : IsSpace text) : Braceless text where
  unopened := not_mem_space isSpace (by decide)
  unclosed := not_mem_space isSpace (by decide)

theorem of_name (named : isName text = true) : Braceless text where
  unopened := not_mem_name named (by decide) (by decide +kernel)
  unclosed := not_mem_name named (by decide) (by decide +kernel)

theorem append (first : Braceless front) (second : Braceless back) :
    Braceless (front ++ back) where
  unopened := by
    simp [first.unopened, second.unopened]
  unclosed := by
    simp [first.unclosed, second.unclosed]

theorem cons_sigil {mark : Char} {kind : Token.Kind}
    (asks : sigil? mark = some kind) (later : Braceless text) : Braceless (mark :: text) := by
  rcases solid_of_sigil? asks with ⟨-, -, noOpening, noClosing⟩
  constructor
  · simp [Ne.symm noOpening, later.unopened]
  · simp [Ne.symm noClosing, later.unclosed]

end Braceless

/-- A tag without braces inside ends at the next two closing braces. -/
theorem tagPiece_of_double
    {inside : List Char} (braceless : Braceless inside) (nonempty : inside ≠ [])
    (after : List Char) :
    tagPiece (inside ++ ['\x7d', '\x7d'] ++ after) = (doubleTag inside).map (·, after) := by
  have found : Text.cut ['\x7d', '\x7d'] (inside ++ ['\x7d', '\x7d'] ++ after) =
      some (inside, after) :=
    Text.cut_of_not_mem braceless.unclosed
  cases inside with
  | nil =>
      exact absurd rfl nonempty
  | cons first rest =>
      rw [tagPiece, found]
      intro others same
      have isOpen : first = '\x7b' := (List.cons.inj same).1
      exact braceless.unopened (by simp [isOpen])

/-- A raw reference without braces inside ends at the next three. -/
theorem tagPiece_of_triple
    {inside : List Char} (braceless : Braceless inside) (after : List Char) :
    tagPiece ('\x7b' :: (inside ++ ['\x7d', '\x7d', '\x7d'] ++ after)) =
      (tripleTag inside).map (·, after) := by
  have found : Text.cut ['\x7d', '\x7d', '\x7d']
      (inside ++ ['\x7d', '\x7d', '\x7d'] ++ after) = some (inside, after) :=
    Text.cut_of_not_mem braceless.unclosed
  rw [tagPiece, found]

/-- A tag is read up to its own closing braces, whatever follows them. -/
theorem tagPiece_of_written
    {kind : Token.Kind} {value lexeme : List Char} (written : Written kind value lexeme)
    (isTag : isTagKind kind = true) (after : List Char) :
    ∃ inside, lexeme ++ after = '\x7b' :: '\x7b' :: inside ∧
      tagPiece inside = .ok (.tag kind value lexeme, after) := by
  cases written with
  | text | special =>
      cases isTag
  | @plain _ front back named before behind =>
      have braceless : Braceless (front ++ value ++ back) :=
        ((Braceless.of_space before).append (.of_name named)).append (.of_space behind)
      refine ⟨front ++ value ++ back ++ ['\x7d', '\x7d'] ++ after, by simp, ?_⟩
      rw [tagPiece_of_double braceless (by simp [name_ne_nil named]),
        doubleTag_of_plain named before behind]
      rfl
  | @marked _ front middle back _ mark named asks before between behind =>
      have inner : Braceless (middle ++ value ++ back) :=
        ((Braceless.of_space between).append (.of_name named)).append (.of_space behind)
      have braceless : Braceless (front ++ mark :: (middle ++ value ++ back)) :=
        (Braceless.of_space before).append (.cons_sigil asks inner)
      refine ⟨front ++ mark :: (middle ++ value ++ back) ++ ['\x7d', '\x7d'] ++ after,
        by simp, ?_⟩
      rw [tagPiece_of_double braceless (by simp),
        doubleTag_of_marked named asks before between behind]
      rfl
  | @raw _ front back named before behind =>
      have braceless : Braceless (front ++ value ++ back) :=
        ((Braceless.of_space before).append (.of_name named)).append (.of_space behind)
      have checked : checkedName (front ++ value ++ back) = .ok value :=
        checkedName_of_trim named (trim_of_spaced named before behind)
      refine ⟨'\x7b' :: (front ++ value ++ back ++ ['\x7d', '\x7d', '\x7d'] ++ after),
        by simp, ?_⟩
      rw [tagPiece_of_triple braceless, tripleTag, checked]
      rfl

/-! ## Reading one token -/

theorem untilTag_of_open (inside : List Char) :
    untilTag ('\x7b' :: '\x7b' :: inside) = ([], some inside) := by
  simp [untilTag]

/-- Where no tag is opened, the first character belongs to the text before the tag. -/
theorem untilTag_of_not_open
    {first second : Char} (unopened : ¬ (first = '\x7b' ∧ second = '\x7b')) (rest : List Char) :
    untilTag (first :: second :: rest) =
      (first :: (untilTag (second :: rest)).1, (untilTag (second :: rest)).2) := by
  have passed : (first == '\x7b' && second == '\x7b') = false := by
    rw [Bool.eq_false_iff]
    simpa using unopened
  simp [untilTag, passed]

/-- Literal text is passed over if it has no braces that open a tag, also at its end. -/
theorem untilTag_append
    {chars rest : List Char} (tagless : ¬ ['\x7b', '\x7b'] <:+: chars)
    (apart : chars.getLast? = some '\x7b' → rest.head? ≠ some '\x7b') :
    untilTag (chars ++ rest) = (chars ++ (untilTag rest).1, (untilTag rest).2) := by
  induction chars with
  | nil =>
      rfl
  | cons first others ih =>
      have later := ih fun within => tagless (List.infix_cons within)
      cases others with
      | nil =>
          cases rest with
          | nil =>
              rfl
          | cons second behind =>
              apply untilTag_of_not_open
              rintro ⟨rfl, rfl⟩
              exact apart rfl rfl
      | cons second behind =>
          have unopened : ¬ (first = '\x7b' ∧ second = '\x7b') := by
            rintro ⟨rfl, rfl⟩
            exact tagless ⟨[], behind, rfl⟩
          have read := later (by simpa using apart)
          simp only [List.cons_append] at read ⊢
          rw [untilTag_of_not_open unopened, read]

/-- A run of ordinary characters is one piece, up to a special character or the end. -/
theorem literalPieces_append
    {chars rest : List Char} (nonempty : chars ≠ [])
    (ordinary : ∀ char ∈ chars, isSpecial char = false)
    (ends : ∀ char, rest.head? = some char → isSpecial char = true) :
    literalPieces (chars ++ rest) = .run chars :: literalPieces rest := by
  induction chars with
  | nil =>
      exact absurd rfl nonempty
  | cons first others ih =>
      have ordinaryFirst := ordinary first List.mem_cons_self
      cases others with
      | nil =>
          cases rest with
          | nil =>
              simp [literalPieces, ordinaryFirst]
          | cons second behind =>
              simp [literalPieces, ordinaryFirst, ends second rfl]
      | cons second behind =>
          have later := ih (by simp) fun char member =>
            ordinary char (List.mem_cons_of_mem first member)
          rw [List.cons_append, literalPieces, later]
          simp [ordinaryFirst]

/-- The pieces of a text, without the bounds that reading it needs to come to an end. -/
theorem pieces_eq (text : List Char) :
    pieces text =
      match untilTag text with
      | (before, none) => (literalPieces before, none)
      | (before, some inside) =>
          match tagPiece inside with
          | .error fault => (literalPieces before, some fault)
          | .ok (piece, rest) =>
              (literalPieces before ++ piece :: (pieces rest).1, (pieces rest).2) := by
  rw [pieces]
  split
  · rename_i before found
    rw [found]
  · rename_i before inside found
    split
    · rename_i fault read
      simp only [found, read]
    · rename_i piece rest read
      simp only [found, read]

/-- A tag is the first piece, and the others are read behind it. -/
theorem pieces_of_open
    {inside after : List Char} {piece : Piece} (read : tagPiece inside = .ok (piece, after)) :
    pieces ('\x7b' :: '\x7b' :: inside) = (piece :: (pieces after).1, (pieces after).2) := by
  rw [pieces_eq, untilTag_of_open]
  simp only [read]
  rfl

/-- Literal text in front of a text is read on its own if it is a piece of its own. -/
theorem pieces_of_literal
    {chars rest : List Char} {piece : Piece}
    (passed : untilTag (chars ++ rest) = (chars ++ (untilTag rest).1, (untilTag rest).2))
    (own : literalPieces (chars ++ (untilTag rest).1) =
      piece :: literalPieces (untilTag rest).1) :
    pieces (chars ++ rest) = (piece :: (pieces rest).1, (pieces rest).2) := by
  rw [pieces_eq (chars ++ rest), pieces_eq rest, passed]
  cases found : untilTag rest with
  | mk before inside =>
      rw [found] at own
      cases inside with
      | none =>
          simp only [own]
      | some inside =>
          cases read : tagPiece inside with
          | error fault =>
              simp only [read, own]
          | ok tag =>
              simp only [read, own, List.cons_append]

/-- What may stand behind a token with a value, so that the token ends there. -/
def Bounds (value rest : List Char) : Prop :=
  rest = [] ∨ (∃ char behind, rest = char :: behind ∧ isSpecial char = true) ∨
    ∃ inside, rest = '\x7b' :: '\x7b' :: inside ∧ value.getLast? ≠ some '\x7b'

theorem head_of_untilTag
    {first : Char} {rest : List Char} (noBrace : first ≠ '\x7b') :
    (untilTag (first :: rest)).1.head? = some first := by
  cases rest with
  | nil =>
      rfl
  | cons second behind =>
      rw [untilTag_of_not_open fun opens => noBrace opens.1]
      rfl

theorem ne_brace_of_isSpecial {char : Char} (special : isSpecial char = true) :
    char ≠ '\x7b' := by
  rintro rfl
  cases special

/-- A run of ordinary characters is one piece where something else follows. -/
theorem pieces_of_run
    {chars rest : List Char} (nonempty : chars ≠ [])
    (ordinary : ∀ char ∈ chars, char ∉ ['\n', '\r', '"', '\\'])
    (tagless : ¬ ['\x7b', '\x7b'] <:+: chars) (bounds : Bounds chars rest) :
    pieces (chars ++ rest) = (.run chars :: (pieces rest).1, (pieces rest).2) := by
  have ordinaryChars : ∀ char ∈ chars, isSpecial char = false := by
    intro char member
    rw [Bool.eq_false_iff]
    intro special
    exact ordinary char member (mem_of_isSpecial.mp special)
  apply pieces_of_literal
  · apply untilTag_append tagless
    intro openEnd
    rcases bounds with rfl | ⟨char, behind, rfl, special⟩ | ⟨inside, rfl, closedEnd⟩
    · simp
    · simpa using ne_brace_of_isSpecial special
    · exact absurd openEnd closedEnd
  · apply literalPieces_append nonempty ordinaryChars
    intro char isHead
    rcases bounds with rfl | ⟨first, behind, rfl, special⟩ | ⟨inside, rfl, -⟩
    · cases isHead
    · rw [head_of_untilTag (ne_brace_of_isSpecial special)] at isHead
      cases isHead
      exact special
    · rw [untilTag_of_open] at isHead
      cases isHead

/-- A special character is a piece of its own. -/
theorem pieces_of_special {char : Char} (special : isSpecial char = true) (rest : List Char) :
    pieces (char :: rest) = (.special char :: (pieces rest).1, (pieces rest).2) := by
  have noBrace := ne_brace_of_isSpecial special
  have tagless : ¬ ['\x7b', '\x7b'] <:+: [char] := by
    intro within
    have := within.length_le
    simp at this
  rw [← List.singleton_append]
  apply pieces_of_literal
  · apply untilTag_append tagless
    simp [noBrace]
  · simp [literalPieces, special]

/-- A written token is read as one piece, and what follows it as if it stood alone. -/
theorem exists_piece_of_written
    {kind : Token.Kind} {value lexeme rest : List Char} (written : Written kind value lexeme)
    (bounds : kind = .text → Bounds value rest) :
    ∃ piece, piece.meaning? = some (kind, String.ofList value) ∧
      pieces (lexeme ++ rest) = (piece :: (pieces rest).1, (pieces rest).2) := by
  by_cases isTag : isTagKind kind = true
  · rcases tagPiece_of_written written isTag rest with ⟨inside, opens, read⟩
    exact ⟨.tag kind value lexeme, rfl, by rw [opens, pieces_of_open read]⟩
  · cases written with
    | text nonempty ordinary tagless =>
        exact ⟨.run value, rfl, pieces_of_run nonempty ordinary tagless (bounds rfl)⟩
    | special special =>
        exact ⟨.special _, rfl, pieces_of_special (mem_of_isSpecial.mpr special) rest⟩
    | plain | raw =>
        exact absurd rfl isTag
    | marked named asks before between after =>
        exact absurd (isTagKind_of_sigil? asks) isTag

/-! ## Printed lists -/

/-- A kind with a value that a token of this kind can have. -/
def IsPrintable (mark : Token.Mark) : Prop :=
  match mark.1 with
  | .text =>
      mark.2.toList ≠ [] ∧ (∀ char ∈ mark.2.toList, char ∉ ['\n', '\r', '"', '\\']) ∧
        ¬ ['\x7b', '\x7b'] <:+: mark.2.toList
  | .special => ∃ char ∈ ['\n', '\r', '"', '\\'], mark.2.toList = [char]
  | .reference | .rawReference | .sectionOpen | .invertedOpen | .sectionClose =>
      isName mark.2.toList = true
  | .endOfFile => False

instance (mark : Token.Mark) : Decidable (IsPrintable mark) :=
  match mark with
  | (.text, value) =>
      haveI := List.decidableBAll (fun char => char ∉ ['\n', '\r', '"', '\\']) value.toList
      inferInstanceAs (Decidable
        (value.toList ≠ [] ∧ (∀ char ∈ value.toList, char ∉ ['\n', '\r', '"', '\\']) ∧
          ¬ ['\x7b', '\x7b'] <:+: value.toList))
  | (.special, value) =>
      haveI := List.decidableBEx (fun char => value.toList = [char]) ['\n', '\r', '"', '\\']
      inferInstanceAs (Decidable (∃ char ∈ ['\n', '\r', '"', '\\'], value.toList = [char]))
  | (.reference, value) | (.rawReference, value) | (.sectionOpen, value)
  | (.invertedOpen, value) | (.sectionClose, value) =>
      inferInstanceAs (Decidable (isName value.toList = true))
  | (.endOfFile, _) => inferInstanceAs (Decidable False)

/-- Two neighbours that do not run into each other when they are printed. -/
@[mk_iff]
structure MayPrecede (first second : Token.Mark) : Prop where
  /-- Two texts would be one. -/
  apart : first.1 = .text → second.1 ≠ .text
  /-- A brace at the end of a text would open the tag behind it. -/
  unopened : first.1 = .text → isTagKind second.1 = true → first.2.toList.getLast? ≠ some '\x7b'

instance : DecidableRel MayPrecede :=
  fun first second => decidable_of_iff' _ (mayPrecede_iff first second)

/-- A list of kinds and values is printed as lexemes, one for each of them. -/
def Prints (marks : List Token.Mark) (lexemes : List (List Char)) : Prop :=
  List.Forall₂ (fun mark lexeme => Written mark.1 mark.2.toList lexeme) marks lexemes

/-- Every token that can be printed has a spelling. -/
theorem exists_written {mark : Token.Mark} (printable : IsPrintable mark) :
    ∃ lexeme, Written mark.1 mark.2.toList lexeme := by
  rcases mark with ⟨kind, value⟩
  have marked {mark : Char} {kind : Token.Kind} (asks : sigil? mark = some kind)
      (named : isName value.toList = true) : ∃ lexeme, Written kind value.toList lexeme :=
    ⟨_, .marked named asks IsSpace.nil IsSpace.nil IsSpace.nil⟩
  cases kind with
  | text =>
      rcases printable with ⟨nonempty, ordinary, tagless⟩
      exact ⟨value.toList, .text nonempty ordinary tagless⟩
  | special =>
      rcases printable with ⟨char, special, spelled⟩
      refine ⟨[char], ?_⟩
      rw [spelled]
      exact .special special
  | reference =>
      exact ⟨_, .plain printable IsSpace.nil IsSpace.nil⟩
  | rawReference =>
      exact ⟨_, .raw printable IsSpace.nil IsSpace.nil⟩
  | sectionOpen =>
      exact @marked '#' _ rfl printable
  | invertedOpen =>
      exact @marked '^' _ rfl printable
  | sectionClose =>
      exact @marked '/' _ rfl printable
  | endOfFile =>
      cases printable

/-- So do all tokens of a list, one after the other. -/
theorem exists_prints {marks : List Token.Mark}
    (printable : ∀ mark ∈ marks, IsPrintable mark) : ∃ lexemes, Prints marks lexemes := by
  induction marks with
  | nil =>
      exact ⟨[], .nil⟩
  | cons mark rest ih =>
      rcases exists_written (printable mark List.mem_cons_self) with ⟨lexeme, written⟩
      rcases ih fun other member => printable other (List.mem_cons_of_mem mark member) with
        ⟨lexemes, prints⟩
      exact ⟨lexeme :: lexemes, .cons written prints⟩

/-- Behind a text comes something that ends it. -/
theorem bounds_of_prints
    {mark : Token.Mark} {marks : List Token.Mark} {lexemes : List (List Char)}
    (prints : Prints marks lexemes) (follows : ∀ next ∈ marks.head?, MayPrecede mark next)
    (isText : mark.1 = .text) : Bounds mark.2.toList lexemes.flatten := by
  cases prints with
  | nil =>
      exact Or.inl rfl
  | @cons next lexeme marks lexemes written later =>
      right
      have mayPrecede := follows next rfl
      rw [List.flatten_cons]
      by_cases isTag : isTagKind next.1 = true
      · right
        rcases tagPiece_of_written written isTag lexemes.flatten with ⟨inside, opens, -⟩
        exact ⟨inside, opens, mayPrecede.unopened isText isTag⟩
      · left
        rcases next with ⟨kind, value⟩
        cases kind with
        | text =>
            exact absurd rfl (mayPrecede.apart isText)
        | special =>
            rcases written.special_form with ⟨char, special, spelled⟩
            rw [written.lexeme_eq_value rfl, spelled]
            exact ⟨char, lexemes.flatten, rfl, mem_of_isSpecial.mpr special⟩
        | endOfFile =>
            cases written with
            | marked named asks before between after =>
                cases isTagKind_of_sigil? asks
        | reference | rawReference | sectionOpen | invertedOpen | sectionClose =>
            exact absurd rfl isTag

/-- What is printed is cut into pieces that mean what was printed. -/
theorem exists_pieces_of_prints
    {marks : List Token.Mark} {lexemes : List (List Char)}
    (prints : Prints marks lexemes) (apart : marks.IsChain MayPrecede) :
    ∃ read, pieces lexemes.flatten = (read, none) ∧
      read.map Piece.meaning? = marks.map some := by
  induction prints with
  | nil =>
      exact ⟨[], by simp [pieces_eq, untilTag, literalPieces], rfl⟩
  | @cons mark lexeme marks lexemes written later ih =>
      rcases List.isChain_cons.mp apart with ⟨follows, apartLater⟩
      rcases ih apartLater with ⟨read, readLater, meanings⟩
      rcases exists_piece_of_written written (bounds_of_prints later follows) with
        ⟨piece, meaning, readHere⟩
      refine ⟨piece :: read, ?_, ?_⟩
      · rw [List.flatten_cons, readHere, readLater]
      · rw [List.map_cons, meaning, meanings, String.ofList_toList]
        rfl

/-- Placing pieces does not change what they mean. -/
theorem map_mark_place
    {source : String} {cursor : Cursor} {pieces : List Piece} {marks : List Token.Mark}
    (meanings : pieces.map Piece.meaning? = marks.map some) :
    (place source cursor pieces).map Token.mark = marks := by
  induction pieces generalizing cursor marks with
  | nil =>
      cases marks with
      | nil =>
          rfl
      | cons mark rest =>
          cases meanings
  | cons piece rest ih =>
      cases marks with
      | nil =>
          cases meanings
      | cons mark others =>
          simp only [List.map_cons, List.cons.injEq] at meanings
          rw [place, meanings.1]
          simp only [List.map_cons, ih meanings.2]
          rfl

end Lexer

/-- However a list of kinds and values is printed, reading the print gives the list back. -/
theorem tokens_of_printed
    (source : String) {marks : List Token.Mark}
    (printable : ∀ mark ∈ marks, Lexer.IsPrintable mark)
    (apart : marks.IsChain Lexer.MayPrecede) :
    (∃ lexemes, Lexer.Prints marks lexemes) ∧
      ∀ lexemes, Lexer.Prints marks lexemes →
        ∃ tokens ending,
          (scan source (String.ofList lexemes.flatten)).fault = none ∧
            (scan source (String.ofList lexemes.flatten)).stream =
              .ofList (tokens ++ [ending]) ∧
            tokens.map Token.mark = marks ∧ ending.mark = (.endOfFile, "") := by
  refine ⟨Lexer.exists_prints printable, ?_⟩
  intro lexemes prints
  rcases Lexer.exists_pieces_of_prints prints apart with ⟨read, cut, meanings⟩
  have complete : (scan source (String.ofList lexemes.flatten)).fault = none := by
    simp [scan, cut]
  have marked : (scan source (String.ofList lexemes.flatten)).tokens.map Token.mark = marks := by
    simp only [scan, String.toList_ofList, cut]
    exact Lexer.map_mark_place meanings
  refine ⟨_, .atEnd (scan source (String.ofList lexemes.flatten)).stop, complete, ?_, marked,
    rfl⟩
  rw [Scan.stream_eq_ofList complete, Scan.allTokens, complete]

/-- Stray braces on all sides of tags, and what would be an escape in a literal. -/
def crowdedMarks : List Token.Mark :=
  [(.text, "\x7d\x7d \x7b a\x7b"), (.special, "\\"), (.text, "n \x7d"), (.rawReference, "."),
    (.text, "\x7d"), (.special, "\n"), (.sectionOpen, "x.y_1"), (.reference, "_é"),
    (.sectionClose, "x.y_1"), (.text, "\x7b")]

/-- Tokens without any blank between them are read back too. -/
theorem tokens_of_printed_crowdedMarks :
    (∀ mark ∈ crowdedMarks, Lexer.IsPrintable mark) ∧
      crowdedMarks.IsChain Lexer.MayPrecede ∧
        (∃ lexemes, Lexer.Prints crowdedMarks lexemes) ∧
          ∀ lexemes, Lexer.Prints crowdedMarks lexemes →
            ∃ tokens ending,
              (scan "page" (String.ofList lexemes.flatten)).fault = none ∧
                (scan "page" (String.ofList lexemes.flatten)).stream =
                  .ofList (tokens ++ [ending]) ∧
                tokens.map Token.mark = crowdedMarks ∧ ending.mark = (.endOfFile, "") := by
  have printable : ∀ mark ∈ crowdedMarks, Lexer.IsPrintable mark := by
    decide +kernel
  have apart : crowdedMarks.IsChain Lexer.MayPrecede := by
    decide +kernel
  exact ⟨printable, apart, tokens_of_printed "page" printable apart⟩

end TypedMustache
