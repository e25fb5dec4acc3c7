/-!
# Cutting texts

Texts are cut at a single character (`splitOn`) or at the first place where a
mark occurs (`cut`).  Nothing is lost: the parts and the marks between them make
up the text again.

A text file may end its lines with a line feed, a carriage return, or both.
Reading turns each of them into one line feed (`unifyNewlines`).
-/

namespace TypedMustache.Text

/-! ## Parts of texts -/

/-- The parts of a text between the occurrences of a separator; never an empty list. -/
def splitOn (separator : Char) : List Char → List (List Char)
  | [] => [[]]
  | char :: rest =>
    if char == separator then [] :: splitOn separator rest
    else
      match splitOn separator rest with
      | [] => [[char]]
      | part :: parts => (char :: part) :: parts

/-- The parts of a string between the occurrences of a separator. -/
def splitString (separator : Char) (text : String) : List String :=
  (splitOn separator text.toList).map String.ofList

/-- What stands before and after the first occurrence of a mark. -/
def cut (mark : List Char) : List Char → Option (List Char × List Char)
  | [] => if mark.isEmpty then some ([], []) else none
  | char :: rest =>
    if mark.isPrefixOf (char :: rest) then some ([], (char :: rest).drop mark.length)
    else
      match cut mark rest with
      | none => none
      | some (before, after) => some (char :: before, after)

/-- Join texts with a separator between them. -/
def join (separator : String) : List String → String
  | [] => ""
  | text :: rest => rest.foldl (fun joined next => joined ++ separator ++ next) text

/-- A text repeated. -/
def repeated (text : String) : Nat → String
  | 0 => ""
  | count + 1 => text ++ repeated text count

@[simp]
theorem join_nil (separator : String) : join separator [] = "" := rfl

@[simp]
theorem join_singleton (separator text : String) : join separator [text] = text := rfl

theorem foldl_join_append (separator front text : String) (rest : List String) :
    rest.foldl (fun joined next => joined ++ separator ++ next) (front ++ text) =
      front ++ rest.foldl (fun joined next => joined ++ separator ++ next) text := by
  induction rest generalizing text with
  | nil => rfl
  | cons next rest ih =>
    simp only [List.foldl_cons]
    rw [show front ++ text ++ separator ++ next = front ++ (text ++ separator ++ next) by
      simp [String.append_assoc]]
    exact ih (text ++ separator ++ next)

@[simp]
theorem join_cons_cons (separator text next : String) (rest : List String) :
    join separator (text :: next :: rest) =
      text ++ separator ++ join separator (next :: rest) := by
  simp only [join, List.foldl_cons]
  exact foldl_join_append separator (text ++ separator) next rest

/-- A character of joined texts comes from the separator or from one of the texts. -/
theorem mem_join {separator : String} {texts : List String} {char : Char}
    (member : char ∈ (join separator texts).toList) :
    char ∈ separator.toList ∨ ∃ text ∈ texts, char ∈ text.toList := by
  induction texts with
  | nil =>
      cases member
  | cons text rest ih =>
      cases rest with
      | nil =>
          exact Or.inr ⟨text, List.mem_cons_self, member⟩
      | cons next others =>
          rw [join_cons_cons, String.toList_append, String.toList_append, List.mem_append,
            List.mem_append] at member
          rcases member with (inText | inSeparator) | later
          · exact Or.inr ⟨text, List.mem_cons_self, inText⟩
          · exact Or.inl inSeparator
          · rcases ih later with inSeparator | ⟨other, inOthers, inOther⟩
            · exact Or.inl inSeparator
            · exact Or.inr ⟨other, List.mem_cons_of_mem text inOthers, inOther⟩

theorem splitOn_ne_nil (separator : Char) (text : List Char) :
    splitOn separator text ≠ [] := by
  cases text with
  | nil => simp [splitOn]
  | cons char rest =>
    simp only [splitOn]
    split
    · simp
    · split <;> simp

theorem splitOn_of_not_mem {separator : Char} {text : List Char} (whole : separator ∉ text) :
    splitOn separator text = [text] := by
  induction text with
  | nil =>
      rfl
  | cons char rest ih =>
      rw [List.mem_cons, not_or] at whole
      simp [splitOn, Ne.symm whole.1, ih whole.2]

/-- A separator between two texts divides their parts. -/
theorem splitOn_append (separator : Char) (front rest : List Char) :
    splitOn separator (front ++ separator :: rest) =
      splitOn separator front ++ splitOn separator rest := by
  induction front with
  | nil =>
      simp [splitOn]
  | cons char others ih =>
      rw [List.cons_append, splitOn, splitOn, ih]
      split
      · rfl
      · cases parts : splitOn separator others with
        | nil =>
            exact absurd parts (splitOn_ne_nil separator others)
        | cons part later =>
            rfl

theorem mem_of_mem_splitOn {separator char : Char} {text part : List Char}
    (inText : part ∈ splitOn separator text) (inPart : char ∈ part) : char ∈ text := by
  induction text generalizing part with
  | nil =>
      rw [splitOn, List.mem_singleton] at inText
      rw [inText] at inPart
      cases inPart
  | cons first rest ih =>
      rw [splitOn] at inText
      split at inText
      · rcases List.mem_cons.mp inText with rfl | later
        · cases inPart
        · exact List.mem_cons_of_mem first (ih later inPart)
      · split at inText
        · rename_i nothing
          exact absurd nothing (splitOn_ne_nil separator rest)
        · rename_i front parts splitRest
          rcases List.mem_cons.mp inText with rfl | later
          · rcases List.mem_cons.mp inPart with rfl | inFront
            · exact List.mem_cons_self
            · exact List.mem_cons_of_mem first (ih (by simp [splitRest]) inFront)
          · exact List.mem_cons_of_mem first (ih (by simp [splitRest, later]) inPart)

theorem append_of_cut {mark text before after : List Char}
    (found : cut mark text = some (before, after)) :
    text = before ++ mark ++ after := by
  induction text generalizing before after with
  | nil =>
    simp only [cut] at found
    split at found
    · simp_all
    · simp at found
  | cons char rest ih =>
    simp only [cut] at found
    split at found
    · rename_i start
      obtain ⟨tail, whole⟩ := List.isPrefixOf_iff_prefix.mp start
      simp only [Option.some.injEq, Prod.mk.injEq] at found
      obtain ⟨rfl, rfl⟩ := found
      simp [← whole]
    · split at found
      · simp at found
      · rename_i earlier later cutRest
        simp only [Option.some.injEq, Prod.mk.injEq] at found
        obtain ⟨rfl, rfl⟩ := found
        simp [ih cutRest]

/-! ## Line ends -/

/-- Turn every line end into a line feed. -/
def unifyNewlines : List Char → List Char
  | [] => []
  | '\r' :: '\n' :: rest => '\n' :: unifyNewlines rest
  | '\r' :: rest => '\n' :: unifyNewlines rest
  | char :: rest => char :: unifyNewlines rest

/-- Drop line feeds from the end of a text. -/
def dropFinalNewlines (text : String) : String :=
  String.ofList (text.toList.reverse.dropWhile (· == '\n')).reverse

end TypedMustache.Text
