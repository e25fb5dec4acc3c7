import Mathlib.Data.List.Basic
import TypedMustache.Escaping

/-!
# Entities of escaped text

A text is escaped by five replacements, each of them over all of what the one
before has left.  A later replacement could spoil an entity that an earlier one
has written.  None does: the ampersand, which every entity starts with, is replaced
first, and no entity has one of the other characters in it.  So the replacements
amount to one substitution for each character, whatever the text.

From there it follows that escaping respects concatenation, that escaped text has
no character left that means something, and that it can be read back.  The main
statement is `escapeHtml_spells`.
-/

namespace TypedMustache

/-! ## Replacements one after the other -/

/-- What a table of replacements puts in the place of a character. -/
def spelling (table : List (Char × String)) (char : Char) : List Char :=
  match table.lookup char with
  | some entity => entity.toList
  | none => [char]

/-- Make the replacements of a table one after the other. -/
def replaceAll (table : List (Char × String)) (text : List Char) : List Char :=
  table.foldl (fun reached entry => replaceChar entry.1 entry.2 reached) text

theorem spelling_cons (entry : Char × String) (table : List (Char × String)) (char : Char) :
    spelling (entry :: table) char =
      if char = entry.1 then entry.2.toList else spelling table char := by
  rcases entry with ⟨marked, entity⟩
  by_cases same : char = marked
  · simp [spelling, same]
  · have other : (char == marked) = false := beq_eq_false_iff_ne.mpr same
    simp [spelling, List.lookup_cons, same, other]

/-- A text without the characters of a table is left as it is. -/
theorem flatMap_spelling_eq_self {table : List (Char × String)} {text : List Char}
    (untouched : ∀ entry ∈ table, entry.1 ∉ text) : text.flatMap (spelling table) = text := by
  induction table with
  | nil =>
      exact List.flatMap_singleton' text
  | cons entry rest ih =>
      have later : text.flatMap (spelling rest) = text :=
        ih fun other member => untouched other (List.mem_cons_of_mem entry member)
      calc
        text.flatMap (spelling (entry :: rest)) = text.flatMap (spelling rest) := by
          apply List.flatMap_congr
          intro char member
          have other : char ≠ entry.1 := by
            rintro rfl
            exact untouched entry List.mem_cons_self member
          rw [spelling_cons, if_neg other]
        _ = text := later

/--
Replacements that leave alone what was written before them amount to one
substitution for each character.
-/
theorem replaceAll_eq_flatMap {table : List (Char × String)}
    (apart : table.Pairwise fun earlier later => later.1 ∉ earlier.2.toList)
    (text : List Char) : replaceAll table text = text.flatMap (spelling table) := by
  induction table generalizing text with
  | nil =>
      exact (List.flatMap_singleton' text).symm
  | cons entry rest ih =>
      rcases List.pairwise_cons.mp apart with ⟨spared, apartRest⟩
      calc
        replaceAll (entry :: rest) text = replaceAll rest (replaceChar entry.1 entry.2 text) :=
          List.foldl_cons ..
        _ = (replaceChar entry.1 entry.2 text).flatMap (spelling rest) := ih apartRest _
        _ = text.flatMap (spelling (entry :: rest)) := by
          rw [replaceChar, List.flatMap_assoc]
          apply List.flatMap_congr
          intro char _
          rw [spelling_cons]
          by_cases same : char = entry.1
          · rw [if_pos (beq_iff_eq.mpr same), if_pos same, flatMap_spelling_eq_self spared]
          · rw [if_neg (by simpa using same), if_neg same, List.flatMap_singleton]

/-! ## The five entities -/

/-- The characters that are replaced, each with its entity, in the order of the replacements. -/
def entities : List (Char × String) :=
  [('&', "&amp;"), ('<', "&lt;"), ('>', "&gt;"), ('"', "&quot;"), ('\'', "&#x27;")]

theorem entities_apart :
    entities.Pairwise fun earlier later => later.1 ∉ earlier.2.toList := by
  decide

/-- An entity has one ampersand, at its front, and none of the other characters. -/
theorem form_of_mem_entities :
    ∀ entry ∈ entities,
      entry.2.toList.head? = some '&' ∧ '&' ∉ entry.2.toList.tail ∧
        ∀ char ∈ ['<', '>', '"', '\''], char ∉ entry.2.toList := by
  simp [entities]

theorem toList_escapeHtml (text : String) :
    (escapeHtml text).toList = text.toList.flatMap (spelling entities) := by
  have chain : escapeHtml text = String.ofList (replaceAll entities text.toList) := by
    simp only [escapeHtml, replaceAll, entities, List.foldl_cons, List.foldl_nil]
  rw [chain, String.toList_ofList, replaceAll_eq_flatMap entities_apart]

/-- A character is spelled by its entity, or by itself if it has none. -/
theorem spelling_cases (char : Char) :
    (∃ entry ∈ entities, entry.1 = char ∧ spelling entities char = entry.2.toList) ∨
      char ∉ ['&', '<', '>', '"', '\''] ∧ spelling entities char = [char] := by
  cases listed : entities.lookup char with
  | some entity =>
      rcases List.lookup_eq_some_iff.mp listed with ⟨before, after, table, -⟩
      refine .inl ⟨(char, entity), ?_, rfl, by simp [spelling, listed]⟩
      rw [table]
      exact List.mem_append_right before List.mem_cons_self
  | none =>
      refine .inr ⟨?_, by simp [spelling, listed]⟩
      have unlisted : ∀ entry ∈ entities, char ≠ entry.1 := by
        simpa [List.lookup_eq_none_iff] using listed
      simpa [entities] using unlisted

/-! ## Safe text -/

theorem not_mem_spelling {char meaning : Char} (means : meaning ∈ ['<', '>', '"', '\'']) :
    meaning ∉ spelling entities char := by
  rcases spelling_cases char with ⟨entry, member, -, spelled⟩ | ⟨ordinary, spelled⟩
  · rw [spelled]
    exact (form_of_mem_entities entry member).2.2 meaning means
  · rw [spelled, List.mem_singleton]
    rintro rfl
    exact ordinary (List.mem_cons_of_mem '&' means)

/-- An ampersand in the spelling of a character, or behind it, starts an entity or is behind it. -/
theorem suffix_of_suffix_spelling {char : Char} {rest others : List Char}
    (within : '&' :: others <:+ spelling entities char ++ rest) :
    (∃ entry ∈ entities, entry.2.toList <+: '&' :: others) ∨ '&' :: others <:+ rest := by
  have skip {front : List Char} (plain : '&' ∉ front) (later : '&' :: others <:+ front ++ rest) :
      '&' :: others <:+ rest := by
    induction front with
    | nil =>
        exact later
    | cons first behind ih =>
        rw [List.mem_cons, not_or] at plain
        rcases List.suffix_cons_iff.mp later with here | later
        · exact absurd (List.cons.inj here).1 plain.1
        · exact ih plain.2 later
  rcases spelling_cases char with ⟨entry, member, -, spelled⟩ | ⟨ordinary, spelled⟩
  · rcases form_of_mem_entities entry member with ⟨head, plain, -⟩
    have opened : entry.2.toList = '&' :: entry.2.toList.tail := List.eq_cons_of_mem_head? head
    rw [spelled, opened, List.cons_append] at within
    rcases List.suffix_cons_iff.mp within with here | later
    · refine .inl ⟨entry, member, ?_⟩
      rw [here, ← List.cons_append, ← opened]
      exact List.prefix_append _ rest
    · exact .inr (skip plain later)
  · rw [spelled] at within
    refine .inr (skip ?_ within)
    rw [List.mem_singleton]
    rintro rfl
    exact ordinary List.mem_cons_self

theorem entity_of_suffix {text others : List Char}
    (within : '&' :: others <:+ text.flatMap (spelling entities)) :
    ∃ entry ∈ entities, entry.2.toList <+: '&' :: others := by
  induction text with
  | nil =>
      exact absurd (List.suffix_nil.mp within) (List.cons_ne_nil _ _)
  | cons char rest ih =>
      rw [List.flatMap_cons] at within
      rcases suffix_of_suffix_spelling within with here | later
      · exact here
      · exact ih later

/-! ## Reading escaped text -/

/-- Read entities from left to right; everything else stands for itself. -/
def unescape : List Char → List Char
  | '&' :: 'a' :: 'm' :: 'p' :: ';' :: rest => '&' :: unescape rest
  | '&' :: 'l' :: 't' :: ';' :: rest => '<' :: unescape rest
  | '&' :: 'g' :: 't' :: ';' :: rest => '>' :: unescape rest
  | '&' :: 'q' :: 'u' :: 'o' :: 't' :: ';' :: rest => '"' :: unescape rest
  | '&' :: '#' :: 'x' :: '2' :: '7' :: ';' :: rest => '\'' :: unescape rest
  | char :: rest => char :: unescape rest
  | [] => []

theorem unescape_spelling (char : Char) (rest : List Char) :
    unescape (spelling entities char ++ rest) = char :: unescape rest := by
  rcases spelling_cases char with ⟨entry, member, rfl, spelled⟩ | ⟨ordinary, spelled⟩
  · rw [spelled]
    simp only [entities, List.mem_cons, List.not_mem_nil, or_false] at member
    rcases member with rfl | rfl | rfl | rfl | rfl <;> rfl
  · have other : char ≠ '&' := by
      rintro rfl
      exact ordinary List.mem_cons_self
    rw [spelled, List.singleton_append]
    simp [unescape, other]

theorem unescape_flatMap (text : List Char) :
    unescape (text.flatMap (spelling entities)) = text := by
  induction text with
  | nil =>
      rfl
  | cons char rest ih =>
      rw [List.flatMap_cons, unescape_spelling, ih]

/-! ## Writers -/

theorem escapeHtml_append (front back : String) :
    escapeHtml (front ++ back) = escapeHtml front ++ escapeHtml back := by
  apply String.toList_inj.mp
  simp only [toList_escapeHtml, String.toList_append, List.flatMap_append]

namespace Writer

/-- Write texts one after the other. -/
def writeAll (writer : Writer) (texts : List String) : Writer :=
  texts.foldl (fun reached text => (reached.write text).1) writer

/-- The text that reaches the buffer when a text is written. -/
def delivered : Writer → String → String
  | buffer _, text => text
  | escaping inner, text => inner.delivered (escapeHtml text)

theorem contents_write (writer : Writer) (text : String) :
    (writer.write text).1.contents = writer.contents ++ writer.delivered text := by
  induction writer generalizing text with
  | buffer contents =>
      rfl
  | escaping inner ih =>
      exact ih (escapeHtml text)

theorem delivered_write (writer : Writer) (text other : String) :
    (writer.write text).1.delivered other = writer.delivered other := by
  induction writer generalizing text other with
  | buffer contents =>
      rfl
  | escaping inner ih =>
      exact ih (escapeHtml text) (escapeHtml other)

theorem delivered_append (writer : Writer) (front back : String) :
    writer.delivered (front ++ back) = writer.delivered front ++ writer.delivered back := by
  induction writer generalizing front back with
  | buffer contents =>
      rfl
  | escaping inner ih =>
      simp only [delivered, escapeHtml_append, ih]

theorem delivered_empty (writer : Writer) : writer.delivered "" = "" := by
  induction writer with
  | buffer contents =>
      rfl
  | escaping inner ih =>
      exact ih

/-- Texts written one after the other reach the buffer as their concatenation would. -/
theorem contents_writeAll (writer : Writer) (texts : List String) :
    (writer.writeAll texts).contents = (writer.write (String.join texts)).1.contents := by
  rw [contents_write]
  induction texts generalizing writer with
  | nil =>
      rw [String.join_nil, delivered_empty, String.append_empty]
      rfl
  | cons text rest ih =>
      calc
        (writer.writeAll (text :: rest)).contents =
            (writer.write text).1.contents ++ (writer.write text).1.delivered (String.join rest) :=
          ih (writer.write text).1
        _ = writer.contents ++ (writer.delivered text ++ writer.delivered (String.join rest)) := by
          rw [contents_write, delivered_write, String.append_assoc]
        _ = writer.contents ++ writer.delivered (String.join (text :: rest)) := by
          rw [String.join_cons, delivered_append]

end Writer

/-! ## Escaping -/

/-- A text and what it is escaped to. -/
structure Spells (text escaped : List Char) : Prop where
  /-- Each character is spelled independently of the others. -/
  substituted : escaped = text.flatMap (spelling entities)
  harmless : ∀ char ∈ ['<', '>', '"', '\''], char ∉ escaped
  /-- An ampersand is always the start of an entity. -/
  marked : ∀ rest, '&' :: rest <:+ escaped → ∃ entry ∈ entities, entry.2.toList <+: '&' :: rest
  readBack : unescape escaped = text

/--
The five replacements substitute each character on its own.  What they give is
harmless and can be read back, they respect concatenation, and an escaping writer
delivers the escaped concatenation of what is written to it, in one piece or many.
-/
theorem escapeHtml_spells
    (text front back : String) (writer : Writer) (texts : List String) :
    Spells text.toList (escapeHtml text).toList ∧
      escapeHtml (front ++ back) = escapeHtml front ++ escapeHtml back ∧
        ((Writer.escaping writer).writeAll texts).contents =
          (writer.write (escapeHtml (String.join texts))).1.contents := by
  refine ⟨?_, escapeHtml_append front back, (Writer.escaping writer).contents_writeAll texts⟩
  rw [toList_escapeHtml]
  exact
    { substituted := rfl
      harmless := by
        intro char means member
        rcases List.mem_flatMap.mp member with ⟨spelled, -, within⟩
        exact not_mem_spelling means within
      marked := fun _ within => entity_of_suffix within
      readBack := unescape_flatMap text.toList }

example : escapeHtml "a<b &amp; 'c'" = "a&lt;b &amp;amp; &#x27;c&#x27;" := by
  decide +kernel

end TypedMustache
