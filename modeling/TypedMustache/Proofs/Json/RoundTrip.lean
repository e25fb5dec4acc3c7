import Mathlib.Data.List.DropRight
import TypedMustache.Json.Reader
import TypedMustache.Json.Writer

/-!
# Reading what was written

`Json.render` writes data with line breaks and escapes, and `Json.parse` reads
JSON texts by characters, with a supply of steps and a limit of nesting.
`Json.parse_render` shows that reading gives the written data back, if they have
no numbers and no moments and are not nested too deeply.

A value is read back in front of any text.  The length of what was written is
enough of a supply: every step of the reader leaves a character behind.
-/

namespace TypedMustache.Json

/-! ## Strings -/

theorem fourDigits?_append {digits rest : List Char} {number : Nat}
    (read : fourDigits? digits = some (number, rest)) (text : List Char) :
    fourDigits? (digits ++ text) = some (number, rest ++ text) := by
  rcases digits with _ | ⟨a, _ | ⟨b, _ | ⟨c, _ | ⟨d, later⟩⟩⟩⟩
  · cases read
  · cases read
  · cases read
  · cases read
  · simp only [fourDigits?, List.cons_append] at read ⊢
    simp only [Option.bind_eq_bind, Option.bind_eq_some_iff, Option.pure_def,
      Option.some.injEq, Prod.mk.injEq] at read ⊢
    rcases read with
      ⟨first, isFirst, second, isSecond, third, isThird, fourth, isFourth, value, rfl⟩
    exact ⟨first, isFirst, second, isSecond, third, isThird, fourth, isFourth, value, rfl⟩

/-- The spelling of a control character by its number. -/
theorem fourDigits?_hexDigits {number : Nat} (control : number < 0x20) (text : List Char) :
    fourDigits? (Text.hexDigits 4 number ++ text) = some (number, text) := by
  have each : ∀ number < 0x20, fourDigits? (Text.hexDigits 4 number) = some (number, []) := by
    decide
  exact fourDigits?_append (each number control) text

/-- Control characters are spelled behind a backslash, by a letter or by number. -/
theorem exists_spelling_of_control {char : Char} (control : char.toNat < 0x20) :
    ∃ spelling, stringChar char = '\\' :: spelling ∧
      ∀ text, escape? (spelling ++ text) = some (char, text) := by
  have denoted := Char.ofNat_toNat char
  by_cases short : char.toNat ∈ [8, 9, 10, 12, 13]
  · simp only [List.mem_cons, List.not_mem_nil, or_false] at short
    rcases short with code | code | code | code | code <;>
      · rw [code] at denoted
        subst denoted
        exact ⟨_, rfl, fun text => rfl⟩
  · have notQuote : char ≠ '"' := by
      rintro rfl
      exact absurd control (by decide)
    have notBackslash : char ≠ '\\' := by
      rintro rfl
      exact absurd control (by decide)
    simp only [List.mem_cons, List.not_mem_nil, or_false, not_or] at short
    refine ⟨'u' :: Text.hexDigits 4 char.toNat, ?_, ?_⟩
    · simp [stringChar, notQuote, notBackslash, short, control]
    · intro text
      have notHigh : ¬ 0xD800 ≤ char.toNat := by omega
      have notLow : ¬ 0xDC00 ≤ char.toNat := by omega
      simp [escape?, fourDigits?_hexDigits control, notHigh, notLow]

/-- Of the other characters, the quote and the backslash have a backslash before them. -/
theorem stringChar_of_not_control {char : Char} (printed : ¬ char.toNat < 0x20) :
    stringChar char = if char = '"' ∨ char = '\\' then ['\\', char] else [char] := by
  have other : ∀ code < 0x20, char.toNat ≠ code := by
    intro code small same
    exact printed (same ▸ small)
  by_cases quote : char = '"'
  · subst quote
    rfl
  by_cases backslash : char = '\\'
  · subst backslash
    rfl
  simp [stringChar, quote, backslash, printed, other]

/-- A character stands for itself, or there is a spelling of it behind a backslash. -/
theorem stringChar_cases (char : Char) :
    (stringChar char = [char] ∧ char ≠ '"' ∧ char ≠ '\\' ∧ ¬ char.toNat < 0x20) ∨
      ∃ spelling, stringChar char = '\\' :: spelling ∧
        ∀ text, escape? (spelling ++ text) = some (char, text) := by
  by_cases control : char.toNat < 0x20
  · exact Or.inr (exists_spelling_of_control control)
  · rw [stringChar_of_not_control control]
    split
    · rename_i marked
      rcases marked with rfl | rfl
      · exact Or.inr ⟨['"'], rfl, fun text => rfl⟩
      · exact Or.inr ⟨['\\'], rfl, fun text => rfl⟩
    · rename_i unmarked
      rw [not_or] at unmarked
      exact Or.inl ⟨rfl, unmarked.1, unmarked.2, control⟩

/-- One character is read in one step. -/
theorem stringBody_stringChar (fuel : Nat) (char : Char) (text : List Char) :
    stringBody (fuel + 1) (stringChar char ++ text) =
      (stringBody fuel text).map fun (chars, rest) => (char :: chars, rest) := by
  rcases stringChar_cases char with ⟨itself, notQuote, notBackslash, printed⟩ |
    ⟨spelling, spelled, denoted⟩
  · rw [itself, List.singleton_append, stringBody]
    simp only [beq_iff_eq, notQuote, notBackslash, if_false, printed]
    cases stringBody fuel text <;> rfl
  · simp only [spelled, List.cons_append, stringBody, denoted text]
    cases stringBody fuel text <;> rfl

/-- The characters of a text, spelled one by one, are read back up to the closing quotation mark. -/
theorem stringBody_flatMap {fuel : Nat} (chars rest : List Char) (enough : chars.length < fuel) :
    stringBody fuel (chars.flatMap stringChar ++ '"' :: rest) = some (chars, rest) := by
  induction chars generalizing fuel with
  | nil =>
      cases fuel with
      | zero =>
          cases enough
      | succ fuel =>
          rfl
  | cons char others ih =>
      cases fuel with
      | zero =>
          cases enough
      | succ fuel =>
          rw [List.flatMap_cons, List.append_assoc, stringBody_stringChar,
            ih (Nat.lt_of_succ_lt_succ enough)]
          rfl

theorem length_le_length_flatMap (chars : List Char) :
    chars.length ≤ (chars.flatMap stringChar).length := by
  induction chars with
  | nil =>
      exact Nat.le_refl 0
  | cons char others ih =>
      have spelled : 0 < (stringChar char).length := by
        rcases stringChar_cases char with ⟨itself, -⟩ | ⟨spelling, spelled, -⟩
        · simp [itself]
        · simp [spelled]
      rw [List.flatMap_cons, List.length_append, List.length_cons]
      omega

/-- What follows the opening quote is read back. -/
theorem stringBody_quote {fuel : Nat} (text : String) (rest : List Char)
    (enough : (quote text).length ≤ fuel + 1) :
    ∃ body, (quote text).toList ++ rest = '"' :: body ∧
      stringBody fuel body = some (text.toList, rest) := by
  refine ⟨text.toList.flatMap stringChar ++ '"' :: rest, ?_, ?_⟩
  · simp [quote]
  · apply stringBody_flatMap
    have spelled := length_le_length_flatMap text.toList
    simp only [quote, String.length_ofList, List.length_append, List.length_singleton] at enough
    omega

/-! ## White space -/

/-- White space in front of a text makes no difference. -/
theorem skipSpace_append {space : List Char} (blank : ∀ char ∈ space, isSpace char = true)
    (text : List Char) : skipSpace (space ++ text) = skipSpace text :=
  List.dropWhile_append_of_pos blank

theorem skipSpace_skipSpace (text : List Char) : skipSpace (skipSpace text) = skipSpace text :=
  List.dropWhile_idempotent isSpace text

theorem isSpace_lineBreak (indent level : Nat) :
    ∀ char ∈ (lineBreak indent level).toList, isSpace char = true := by
  intro char member
  rw [lineBreak, String.toList_ofList, List.mem_cons] at member
  rcases member with rfl | margin
  · rfl
  · rw [List.eq_of_mem_replicate margin]
    rfl

theorem length_lineBreak_pos (indent level : Nat) : 0 < (lineBreak indent level).length := by
  rw [lineBreak, String.length_ofList, List.length_cons]
  exact Nat.succ_pos _

/-- Space in front of a value is not looked at. -/
theorem value?_eq_of_skipSpace_eq {text other : List Char}
    (same : skipSpace text = skipSpace other) (fuel depth : Nat) :
    value? fuel depth text = value? fuel depth other := by
  cases fuel with
  | zero =>
      simp only [value?]
  | succ fuel =>
      simp only [value?, same]

theorem items?_eq_of_skipSpace_eq {text other : List Char}
    (same : skipSpace text = skipSpace other) (fuel depth : Nat) :
    items? fuel depth text = items? fuel depth other := by
  cases fuel with
  | zero =>
      simp only [items?]
  | succ fuel =>
      simp only [items?, value?_eq_of_skipSpace_eq same]

theorem entries?_eq_of_skipSpace_eq {text other : List Char}
    (same : skipSpace text = skipSpace other) (fuel depth : Nat) :
    entries? fuel depth text = entries? fuel depth other := by
  cases fuel with
  | zero =>
      simp only [entries?]
  | succ fuel =>
      simp only [entries?, same]

/-! ## Collections -/

/-- A closing bracket is not the beginning of a value. -/
theorem value?_eq_none_of_closing {text rest : List Char}
    (closing : skipSpace text = ']' :: rest) (fuel depth : Nat) :
    value? fuel depth text = none := by
  cases fuel with
  | zero =>
      simp only [value?]
  | succ fuel =>
      simp only [value?, closing]
      rfl

theorem value?_of_items? {fuel depth : Nat} {text rest : List Char} {items : List Datum}
    (read : items? fuel depth text = some (items, rest)) :
    value? (fuel + 1) (depth + 1) ('[' :: text) = some (.sequence items, rest) := by
  have bracket : skipSpace ('[' :: text) = '[' :: text := rfl
  simp only [value?, bracket]
  split
  · rename_i later closing
    cases fuel with
    | zero =>
        cases read
    | succ fuel =>
        simp [items?, value?_eq_none_of_closing closing] at read
  · rw [items?_eq_of_skipSpace_eq (skipSpace_skipSpace text), read]
    rfl

theorem value?_of_entries? {fuel depth : Nat} {text rest : List Char}
    {entries : List (Datum × Datum)}
    (read : entries? fuel depth text = some (entries, rest)) :
    value? (fuel + 1) (depth + 1) ('\x7b' :: text) = some (.mapping entries, rest) := by
  have brace : skipSpace ('\x7b' :: text) = '\x7b' :: text := rfl
  simp only [value?, brace]
  split
  · rename_i later closing
    cases fuel with
    | zero =>
        cases read
    | succ fuel =>
        simp [entries?, closing] at read
  · rw [entries?_eq_of_skipSpace_eq (skipSpace_skipSpace text), read]
    rfl

variable {indent level depth fuel : Nat}

/--
A reader of elements reads one that is written as a text: in front of the closing
mark it is the last one, and in front of a comma there are more.
-/
structure ReadsElement {α : Type} (read : Nat → List Char → Option (List α × List Char))
    (close : Char) (text : String) (element : α) : Prop where
  last : ∀ {fuel : Nat} {behind rest : List Char},
    text.length ≤ fuel → skipSpace behind = close :: rest →
      read fuel (text.toList ++ behind) = some ([element], rest)
  more : ∀ {fuel : Nat} {behind rest : List Char} {others : List α},
    text.length ≤ fuel + 1 → read fuel behind = some (others, rest) →
      read (fuel + 1) (text.toList ++ ',' :: behind) = some (element :: others, rest)

/-- If every element can be read, all of them are, with commas between them. -/
theorem read_join {α : Type} {read : Nat → List Char → Option (List α × List Char)}
    {close : Char} {text : α → String} {first : α} {others : List α}
    {behind rest : List Char}
    (each : ∀ element ∈ first :: others, ReadsElement read close (text element) element)
    (closed : skipSpace behind = close :: rest)
    (enough : (Text.join "," ((first :: others).map text)).length ≤ fuel) :
    read fuel ((Text.join "," ((first :: others).map text)).toList ++ behind) =
      some (first :: others, rest) := by
  have readsFirst := each first List.mem_cons_self
  induction others generalizing first fuel with
  | nil =>
      exact readsFirst.last enough closed
  | cons second later ih =>
      have comma : ",".length = 1 := rfl
      simp only [List.map_cons, Text.join_cons_cons, String.length_append, comma] at enough ih ⊢
      cases fuel with
      | zero =>
          omega
      | succ fuel =>
          have readsLater := ih (fun element member => each element (List.mem_cons_of_mem _ member))
            (by omega : _ ≤ fuel) (each second (by simp))
          rw [String.toList_append, String.toList_append, List.append_assoc, List.append_assoc]
          exact readsFirst.more (by omega) readsLater

/-! ## Data -/

/-- In front of any text, a datum is read back from what it is written as. -/
def ReadsBack (indent level depth : Nat) (datum : Datum) : Prop :=
  ∀ fuel rest, (renderAt indent level datum).length ≤ fuel →
    value? fuel depth ((renderAt indent level datum).toList ++ rest) = some (datum, rest)

/-- A value that is read back is read back behind space as well. -/
theorem ReadsBack.after_space {datum : Datum} {space : List Char}
    (readsBack : ReadsBack indent level depth datum)
    (blank : ∀ char ∈ space, isSpace char = true)
    (enough : (renderAt indent level datum).length ≤ fuel) (rest : List Char) :
    value? fuel depth (space ++ ((renderAt indent level datum).toList ++ rest)) =
      some (datum, rest) := by
  rw [value?_eq_of_skipSpace_eq (skipSpace_append blank _)]
  exact readsBack fuel rest enough

/-- A collection with something in it: elements on their lines, between brackets. -/
def collection (indent level : Nat) (opening close : Char) (lines : List String) : String :=
  opening.toString ++ Text.join "," lines ++ lineBreak indent level ++ close.toString

/-- The line of an item. -/
def itemLine (indent level : Nat) (item : Datum) : String :=
  lineBreak indent level ++ renderAt indent level item

theorem renderItems_eq_map (items : List Datum) :
    renderItems indent level items = items.map (itemLine indent level) := by
  induction items with
  | nil =>
      simp [renderItems]
  | cons item rest ih =>
      simp [renderItems, itemLine, ih]

/-- A list with elements is written as a collection, one element a line. -/
theorem renderAt_sequence (item : Datum) (others : List Datum) :
    renderAt indent level (.sequence (item :: others)) =
      collection indent level '[' ']' ((item :: others).map (itemLine indent (level + 1))) := by
  rw [renderAt, renderItems_eq_map]
  rfl

/-- If a value is read back, so is a line with it as an element. -/
theorem ReadsBack.readsElement {item : Datum} (readsBack : ReadsBack indent level depth item) :
    ReadsElement (fun fuel => items? fuel depth) ']' (itemLine indent level item) item := by
  have broken := length_lineBreak_pos indent level
  have read (fuel : Nat) (enough : (itemLine indent level item).length ≤ fuel + 1)
      (rest : List Char) :
      value? fuel depth ((itemLine indent level item).toList ++ rest) = some (item, rest) := by
    rw [itemLine, String.length_append] at enough
    rw [itemLine, String.toList_append, List.append_assoc]
    exact readsBack.after_space (isSpace_lineBreak indent level) (by omega) rest
  constructor
  · intro fuel behind rest enough closed
    cases fuel with
    | zero =>
        rw [itemLine, String.length_append] at enough
        omega
    | succ fuel =>
        simp only [items?, read fuel enough behind, closed]
  · intro fuel behind rest others enough later
    have comma : skipSpace (',' :: behind) = ',' :: behind := rfl
    simp only [items?, read fuel enough, comma, later, Option.map_some]

/-- The line of an entry. -/
def entryLine (indent level : Nat) (entry : Datum × Datum) : String :=
  lineBreak indent level ++ key entry.1 ++ ": " ++ renderAt indent level entry.2

theorem renderEntries_eq_map (entries : List (Datum × Datum)) :
    renderEntries indent level entries = entries.map (entryLine indent level) := by
  induction entries with
  | nil =>
      simp [renderEntries]
  | cons entry rest ih =>
      simp [renderEntries, entryLine, ih]

/-- A mapping with entries is written as a collection, one entry a line. -/
theorem renderAt_mapping (entry : Datum × Datum) (others : List (Datum × Datum)) :
    renderAt indent level (.mapping (entry :: others)) =
      collection indent level '\x7b' '\x7d'
        ((entry :: others).map (entryLine indent (level + 1))) := by
  rw [renderAt, renderEntries_eq_map]
  rfl

/-- If a value is read back, so is a line with a name and it. -/
theorem ReadsBack.readsEntry {value : Datum} (readsBack : ReadsBack indent level depth value)
    (name : String) :
    ReadsElement (fun fuel => entries? fuel depth) '\x7d'
      (entryLine indent level (.text name, value)) (.text name, value) := by
  have broken := length_lineBreak_pos indent level
  have length : (entryLine indent level (.text name, value)).length =
      (lineBreak indent level).length + (quote name).length + 2 +
        (renderAt indent level value).length := by
    simp only [entryLine, key, String.length_append]
    rfl
  have space : ∀ char ∈ [' '], isSpace char = true := by
    intro char member
    rw [List.mem_singleton.mp member]
    rfl
  -- The steps of the reader, up to where it looks whether there are more entries.
  have read (fuel : Nat) (enough : (entryLine indent level (.text name, value)).length ≤ fuel + 1)
      (rest : List Char) :
      ∃ body behindName,
        skipSpace ((entryLine indent level (.text name, value)).toList ++ rest) = '"' :: body ∧
          stringBody fuel body = some (name.toList, ':' :: behindName) ∧
            value? fuel depth behindName = some (value, rest) := by
    rw [length] at enough
    rcases stringBody_quote name (':' :: ([' '] ++ ((renderAt indent level value).toList ++ rest)))
      (by omega : _ ≤ fuel + 1) with ⟨body, opened, readName⟩
    refine ⟨body, _, ?_, readName, ?_⟩
    · simp only [entryLine, key, String.toList_append, List.append_assoc]
      rw [skipSpace_append (isSpace_lineBreak indent level)]
      exact congrArg skipSpace opened
    · exact readsBack.after_space space (by omega) rest
  constructor
  · intro fuel behind rest enough closed
    cases fuel with
    | zero =>
        omega
    | succ fuel =>
        rcases read fuel enough behind with ⟨body, behindName, opened, readName, readValue⟩
        have colon : skipSpace (':' :: behindName) = ':' :: behindName := rfl
        simp only [entries?, opened, readName, colon, readValue, closed, String.ofList_toList]
  · intro fuel behind rest others enough later
    rcases read fuel enough (',' :: behind) with ⟨body, behindName, opened, readName, readValue⟩
    have colon : skipSpace (':' :: behindName) = ':' :: behindName := rfl
    have comma : skipSpace (',' :: behind) = ',' :: behind := rfl
    simp only [entries?, opened, readName, colon, readValue, comma, later, String.ofList_toList,
      Option.map_some]

/--
Data without numbers and moments, with texts for keys, in which no more than so many
collections are opened inside each other.
-/
inductive Document : Nat → Datum → Prop where
  | null {depth : Nat} : Document depth .null
  | boolean {depth : Nat} (value : Bool) : Document depth (.boolean value)
  | text {depth : Nat} (value : String) : Document depth (.text value)
  | sequence {depth : Nat} {items : List Datum} (each : ∀ item ∈ items, Document depth item) :
      Document (depth + 1) (.sequence items)
  | mapping {depth : Nat} {entries : List (Datum × Datum)}
      (named : ∀ entry ∈ entries, ∃ name, entry.1 = .text name)
      (each : ∀ entry ∈ entries, Document depth entry.2) :
      Document (depth + 1) (.mapping entries)

/-- A record is a document, one level higher than its fields. -/
theorem Document.record {fields : List (String × Datum)}
    (each : ∀ field ∈ fields, Document depth field.2) :
    Document (depth + 1) (.record fields) := by
  apply Document.mapping
  · intro entry member
    rcases List.mem_map.mp member with ⟨field, -, rfl⟩
    exact ⟨field.1, rfl⟩
  · intro entry member
    rcases List.mem_map.mp member with ⟨field, isField, rfl⟩
    exact each field isField

/-- What is written has a character at least, so the reader can take a first step. -/
theorem readsBack_of_step {datum : Datum} (written : String)
    (shown : renderAt indent level datum = written) (solid : written.toList ≠ [])
    (step : ∀ fuel rest, written.length ≤ fuel + 1 →
      value? (fuel + 1) depth (written.toList ++ rest) = some (datum, rest)) :
    ReadsBack indent level depth datum := by
  intro fuel rest enough
  rw [shown] at enough ⊢
  cases fuel with
  | zero =>
      rw [← String.length_toList] at enough
      exact absurd (List.eq_nil_of_length_eq_zero (Nat.le_zero.mp enough)) solid
  | succ fuel =>
      exact step fuel rest enough

theorem readsBack_null : ReadsBack indent level depth .null := by
  apply readsBack_of_step "null"
  · simp [renderAt, scalar]
  · decide
  · intro fuel rest enough
    rfl

theorem readsBack_boolean (value : Bool) : ReadsBack indent level depth (.boolean value) := by
  apply readsBack_of_step (if value then "true" else "false")
  · simp [renderAt, scalar]
  · cases value <;> decide
  · intro fuel rest enough
    cases value <;> rfl

theorem readsBack_text (value : String) : ReadsBack indent level depth (.text value) := by
  apply readsBack_of_step (quote value)
  · simp [renderAt, scalar]
  · simp [quote]
  · intro fuel rest enough
    rcases stringBody_quote value rest enough with ⟨body, opened, read⟩
    have quoted : skipSpace ('"' :: body) = '"' :: body := rfl
    rw [opened]
    simp only [value?, quoted, read, Option.map_some, String.ofList_toList]

/-- Behind the opening bracket, the elements of a collection are read back. -/
theorem read_collection {α : Type} {read : Nat → List Char → Option (List α × List Char)}
    {opening close : Char} {line : α → String} {first : α} {others : List α}
    (each : ∀ element ∈ first :: others, ReadsElement read close (line element) element)
    (solid : isSpace close = false)
    (enough :
      (collection indent level opening close ((first :: others).map line)).length ≤ fuel + 1)
    (rest : List Char) :
    ∃ inside,
      (collection indent level opening close ((first :: others).map line)).toList ++ rest =
          opening :: inside ∧
        read fuel inside = some (first :: others, rest) := by
  have closed : skipSpace ((lineBreak indent level).toList ++ close :: rest) = close :: rest := by
    rw [skipSpace_append (isSpace_lineBreak indent level)]
    simp [skipSpace, solid]
  have broken := length_lineBreak_pos indent level
  simp only [collection, String.length_append] at enough
  refine ⟨_, ?_, read_join each closed (by omega)⟩
  simp [collection]

/-- A list is read back if its elements are. -/
theorem readsBack_sequence {items : List Datum}
    (each : ∀ item ∈ items, ReadsBack indent (level + 1) depth item) :
    ReadsBack indent level (depth + 1) (.sequence items) := by
  cases items with
  | nil =>
      apply readsBack_of_step "[]"
      · simp [renderAt, scalar]
      · decide
      · intro fuel rest enough
        rfl
  | cons item others =>
      apply readsBack_of_step _ (renderAt_sequence item others)
      · simp [collection]
      · intro fuel rest enough
        have elements : ∀ other ∈ item :: others,
            ReadsElement (fun fuel => items? fuel depth) ']'
              (itemLine indent (level + 1) other) other := by
          intro other member
          exact (each other member).readsElement
        rcases read_collection elements (by decide) enough rest with ⟨inside, written, read⟩
        rw [written]
        exact value?_of_items? read

/-- A mapping is read back if its keys are texts and its values are read back. -/
theorem readsBack_mapping {entries : List (Datum × Datum)}
    (named : ∀ entry ∈ entries, ∃ name, entry.1 = .text name)
    (each : ∀ entry ∈ entries, ReadsBack indent (level + 1) depth entry.2) :
    ReadsBack indent level (depth + 1) (.mapping entries) := by
  cases entries with
  | nil =>
      apply readsBack_of_step "\x7b\x7d"
      · simp [renderAt, scalar]
      · decide
      · intro fuel rest enough
        rfl
  | cons entry others =>
      apply readsBack_of_step _ (renderAt_mapping entry others)
      · simp [collection]
      · intro fuel rest enough
        have elements : ∀ other ∈ entry :: others,
            ReadsElement (fun fuel => entries? fuel depth) '\x7d'
              (entryLine indent (level + 1) other) other := by
          rintro ⟨key, value⟩ member
          rcases named (key, value) member with ⟨name, rfl⟩
          exact (each (.text name, value) member).readsEntry name
        rcases read_collection elements (by decide) enough rest with ⟨inside, written, read⟩
        rw [written]
        exact value?_of_entries? read

/-- A document is read back. -/
theorem Document.readsBack {datum : Datum} (document : Document depth datum) (indent level : Nat) :
    ReadsBack indent level depth datum := by
  induction document generalizing level with
  | null =>
      exact readsBack_null
  | boolean value =>
      exact readsBack_boolean value
  | text value =>
      exact readsBack_text value
  | sequence each ih =>
      apply readsBack_sequence
      intro item member
      exact ih item member (level + 1)
  | mapping named each ih =>
      apply readsBack_mapping named
      intro entry member
      exact ih entry member (level + 1)

/-- Every document is read back from what is written for it, whatever the indentation. -/
theorem parse_render {datum : Datum} (document : Document depthLimit datum) (indent : Nat) :
    parse (render indent datum) = some datum := by
  have enough : (render indent datum).length ≤ 4 * (render indent datum).length + 4 := by
    omega
  have read := document.readsBack indent 0 _ [] enough
  rw [List.append_nil] at read
  simp only [parse, render] at read ⊢
  rw [read]
  rfl

/-! ## Line ends -/

/-- A text without carriage returns. -/
def Unreturned (text : String) : Prop :=
  '\r' ∉ text.toList

theorem unreturned_append_iff {front back : String} :
    Unreturned (front ++ back) ↔ Unreturned front ∧ Unreturned back := by
  rw [Unreturned, String.toList_append, List.mem_append, not_or]
  rfl

/-- A carriage return is escaped like every other control character. -/
theorem not_mem_stringChar (char : Char) : '\r' ∉ stringChar char := by
  have controls : ∀ number < 0x20, '\r' ∉ stringChar (Char.ofNat number) := by
    decide
  by_cases control : char.toNat < 0x20
  · have spelled := controls char.toNat control
    rwa [Char.ofNat_toNat] at spelled
  · have different : '\r' ≠ char := by
      rintro rfl
      exact control (by decide)
    rw [stringChar_of_not_control control]
    split <;> simp [different]

theorem unreturned_quote (text : String) : Unreturned (quote text) := by
  intro member
  simp only [quote, String.toList_ofList, List.mem_append, List.mem_singleton, Char.reduceEq,
    List.mem_flatMap, false_or, or_false] at member
  rcases member with ⟨char, -, inSpelling⟩
  exact not_mem_stringChar char inSpelling

theorem unreturned_key (datum : Datum) : Unreturned (key datum) := by
  cases datum <;> exact unreturned_quote _

theorem unreturned_lineBreak (indent level : Nat) : Unreturned (lineBreak indent level) := by
  simp [Unreturned, lineBreak]

/-- Collections bring no carriage return of their own. -/
theorem unreturned_collection {opening close : Char} {lines : List String}
    (notOpening : '\r' ≠ opening) (notClose : '\r' ≠ close)
    (each : ∀ line ∈ lines, Unreturned line) :
    Unreturned (collection indent level opening close lines) := by
  have joined : Unreturned (Text.join "," lines) := by
    intro member
    rcases Text.mem_join member with inSeparator | ⟨line, inLines, inLine⟩
    · exact absurd inSeparator (by decide)
    · exact each line inLines inLine
  simp only [collection, unreturned_append_iff]
  exact ⟨⟨⟨by simp [Unreturned, notOpening], joined⟩, unreturned_lineBreak indent level⟩,
    by simp [Unreturned, notClose]⟩

/-- A document is written without carriage returns, so it survives being read as a text file. -/
theorem Document.unreturned {datum : Datum} (document : Document depth datum)
    (indent level : Nat) : Unreturned (renderAt indent level datum) := by
  induction document generalizing level with
  | null =>
      simp [renderAt, scalar, Unreturned]
  | boolean value =>
      cases value <;> simp [renderAt, scalar, Unreturned]
  | text value =>
      simpa [renderAt, scalar] using unreturned_quote value
  | @sequence depth items each ih =>
      cases items with
      | nil =>
          simp [renderAt, scalar, Unreturned]
      | cons item others =>
          rw [renderAt_sequence]
          apply unreturned_collection (by decide) (by decide)
          intro line member
          rcases List.mem_map.mp member with ⟨other, isItem, rfl⟩
          exact unreturned_append_iff.mpr
            ⟨unreturned_lineBreak indent (level + 1), ih other isItem (level + 1)⟩
  | @mapping depth entries named each ih =>
      cases entries with
      | nil =>
          simp [renderAt, scalar, Unreturned]
      | cons entry others =>
          rw [renderAt_mapping]
          apply unreturned_collection (by decide) (by decide)
          intro line member
          rcases List.mem_map.mp member with ⟨other, isEntry, rfl⟩
          simp only [entryLine, unreturned_append_iff]
          exact ⟨⟨⟨unreturned_lineBreak indent (level + 1), unreturned_key other.1⟩,
            by simp [Unreturned]⟩, ih other isEntry (level + 1)⟩

end TypedMustache.Json
