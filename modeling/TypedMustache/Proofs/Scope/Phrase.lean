import TypedMustache.Proofs.Compilation.SectionTree
import TypedMustache.Proofs.Text.StatementLine

/-!
# What statements and headers look like

The expression of a value is made of the name of a variable and of names of
members.  With accepted settings, and with names as they stand in tags, it is
plain.  So the statements and the headers that are built around expressions are
phrases: they begin with a plain character, nothing breaks them up, and they end
with the character that closes a call or opens a block.
-/

namespace TypedMustache

open Text (Begins Plain Unbroken)

/-! ## Expressions -/

theorem Variable.plain_name {settings : Settings} (accepted : settings.Accepted)
    (source : Variable) : Plain (source.name settings) := by
  cases source with
  | data => exact accepted.plain_dataName
  | element depth => exact Text.plain_item depth

namespace Reference

@[simp]
theorem expression_member (settings : Settings) (reference : Reference) (member : Member) :
    (reference.member member).expression settings =
      reference.expression settings ++ "." ++ member.name := by
  simp [expression, Reference.member]

theorem plain_member {settings : Settings} {reference : Reference} {member : Member}
    (plain : Plain (reference.expression settings)) (named : Plain member.name) :
    Plain ((reference.member member).expression settings) := by
  rw [expression_member]
  have dot : Plain "." := ⟨by decide, by decide⟩
  exact (plain.append dot).append named

theorem plain_ofVariable {settings : Settings} (accepted : settings.Accepted)
    (source : Variable) (type : DataType) :
    Plain ((ofVariable source type).expression settings) :=
  source.plain_name accepted

end Reference

theorem Catalog.name_of_resolve {catalog : Catalog} {owner : DataType} {name : String}
    {member : Member} (resolved : catalog.resolve owner name = .ok member) :
    member.name = name := by
  simp only [resolve] at resolved
  rcases Attempt.bind_eq_ok_iff.mp resolved with ⟨members, -, found⟩
  split at found
  · cases found
    rfl
  · cases found

namespace Scope

variable {catalog : Catalog} {settings : Settings} {scope entered : Scope}
  {reference found : Reference} {name : String} {inverted : Bool}

/-- Following plain components from a plain expression leads to a plain expression. -/
theorem plain_of_follow {passed components : List String}
    (plain : Plain (reference.expression settings))
    (named : ∀ component ∈ components, Plain component)
    (followed : (follow catalog passed reference components).outcome = .ok found) :
    Plain (found.expression settings) := by
  induction components generalizing passed reference with
  | nil =>
      cases followed
      exact plain
  | cons component rest ih =>
      simp only [follow] at followed
      split at followed
      · cases followed
      · rename_i member stepped
        have memberNamed : Plain member.name := by
          rw [Catalog.name_of_resolve (step_eq_ok_iff.mp stepped).2]
          exact named component List.mem_cons_self
        exact ih (Reference.plain_member plain memberNamed)
          (fun other member => named other (List.mem_cons_of_mem component member)) followed

theorem plain_of_lookup
    (plain : Plain (scope.bound.expression settings))
    (named : Lexer.isName name.toList = true)
    (looked : (scope.lookup catalog name).outcome = .ok found) :
    Plain (found.expression settings) := by
  by_cases dot : name = "."
  · simp only [lookup, dot, beq_self_eq_true, if_true, Except.ok.injEq] at looked
    rw [← looked]
    exact plain
  · simp only [lookup, beq_iff_eq, dot, if_false] at looked
    exact plain_of_follow plain
      (fun component member => Lexer.plain_of_mem_splitString named dot member) looked

/-- A section over a name is over a plain expression and binds one. -/
theorem plain_of_enter
    (accepted : settings.Accepted)
    (plain : Plain (scope.bound.expression settings))
    (named : Lexer.isName name.toList = true)
    (done : (scope.enter catalog name inverted).outcome = .ok entered) :
    Plain (entered.subject.expression settings) ∧
      Plain (entered.bound.expression settings) := by
  rcases enter_eq_ok_iff.mp done with ⟨subject, shape, inner, looked, -, rfl⟩
  have plainSubject : Plain (subject.expression settings) := plain_of_lookup plain named looked
  refine ⟨plainSubject, ?_⟩
  rw [bound_opened]
  unfold boundBy
  split
  · exact plain
  · split
    · exact plain
    · exact Reference.plain_ofVariable accepted _ _
    · exact plainSubject
    · exact plainSubject

end Scope

/-! ## Phrases -/

/-- Code that begins with a plain character, ends with a given one, and is not broken up. -/
structure Phrase (final : Char) (text : String) : Prop where
  begins : Begins text
  ends : text.toList.getLast? = some final
  unbroken : Unbroken text.toList

theorem unbroken_append {front back : String}
    (unbrokenFront : Unbroken front.toList) (unbrokenBack : Unbroken back.toList) :
    Unbroken (front ++ back).toList := by
  rw [String.toList_append]
  exact unbrokenFront.append unbrokenBack

theorem unbroken_fixed {text : String} (all : text.toList.all Text.isCode = true) :
    Unbroken text.toList :=
  .of_all_isCode all

/-- A call of a function in an expression. -/
theorem unbroken_call {function argument : String}
    (unbrokenFunction : Unbroken function.toList) (unbrokenArgument : Unbroken argument.toList) :
    Unbroken (function ++ "(" ++ argument ++ ")").toList :=
  unbroken_append
    (unbroken_append (unbroken_append unbrokenFunction (unbroken_fixed (by decide)))
      unbrokenArgument)
    (unbroken_fixed (by decide))

theorem ends_append {final : Char} (front : String) {back : String}
    (ends : back.toList.getLast? = some final) :
    (front ++ back).toList.getLast? = some final := by
  rw [String.toList_append, List.getLast?_append, ends]
  rfl

theorem Phrase.of_parts {final : Char} {front middle back : String}
    (begins : Begins front) (unbrokenFront : Unbroken front.toList)
    (unbrokenMiddle : Unbroken middle.toList) (unbrokenBack : Unbroken back.toList)
    (ends : back.toList.getLast? = some final) :
    Phrase final (front ++ middle ++ back) where
  begins := (begins.append middle).append back
  ends := ends_append (front ++ middle) ends
  unbroken := unbroken_append (unbroken_append unbrokenFront unbrokenMiddle) unbrokenBack

theorem Settings.phrase_literalStatement {settings : Settings} (accepted : settings.Accepted)
    (text : String) : Phrase ')' (settings.literalStatement text) where
  begins := ((accepted.plain_writerName.begins.append _).append _).append _
  ends := ends_append _ (by decide)
  unbroken := by
    have spelled :
        (settings.literalStatement text).toList =
          settings.writerName.toList ++ (".write(".toList ++
            '"' :: (text.toList.flatMap Text.literalChar ++ '"' :: ")".toList)) := by
      simp [literalStatement, Text.literal]
    rw [spelled]
    exact (Unbroken.of_plain accepted.plain_writerName).append
      ((unbroken_fixed (by decide)).append (.literal text.toList (unbroken_fixed (by decide))))

namespace Reference

variable {settings : Settings} {escaped : Bool} {reference : Reference} {expression : String}
  {classification : Classification}

theorem unbroken_truth (plain : Plain expression) :
    Unbroken ("(\"true\" if " ++ expression ++ " else \"false\")").toList := by
  have front :
      "(\"true\" if ".toList =
        '(' :: '"' :: ("true".toList.flatMap Text.literalChar ++ '"' :: " if ".toList) := by
    decide
  have back :
      " else \"false\")".toList =
        " else ".toList ++
          '"' :: ("false".toList.flatMap Text.literalChar ++ '"' :: ")".toList) := by
    decide
  apply unbroken_append (unbroken_append _ (.of_plain plain))
  · rw [back]
    exact (unbroken_fixed (by decide)).append (.literal _ (unbroken_fixed (by decide)))
  · rw [front]
    exact .code (by decide) (.literal _ (unbroken_fixed (by decide)))

theorem unbroken_textExpression (accepted : settings.Accepted) (plain : Plain expression) :
    Unbroken (textExpression settings escaped classification expression).toList := by
  have inside := Unbroken.of_plain plain
  have function := Unbroken.of_plain accepted.plain_escapeFunction
  have converted : Unbroken ("str(" ++ expression ++ ")").toList :=
    unbroken_append (unbroken_append (unbroken_fixed (by decide)) inside)
      (unbroken_fixed (by decide))
  cases classification with
  | numeric => exact converted
  | boolean => exact unbroken_truth plain
  | string | character =>
      cases escaped with
      | true => exact unbroken_call function inside
      | false => exact inside
  | renderable | exception | object =>
      cases escaped with
      | true => exact unbroken_call function converted
      | false => exact converted

/-- A text expression does not begin with a literal. -/
theorem begins_textExpression (accepted : settings.Accepted) (plain : Plain expression) :
    Begins (textExpression settings escaped classification expression) := by
  have fixed : Begins "str(" := ⟨'s', "tr(".toList, by decide, by decide⟩
  have truth : Begins "(\"true\" if " := ⟨'(', "\"true\" if ".toList, by decide, by decide⟩
  have function := accepted.plain_escapeFunction.begins
  cases classification with
  | numeric => exact (fixed.append _).append _
  | boolean => exact (truth.append _).append _
  | string | character =>
      cases escaped with
      | true => exact ((function.append _).append _).append _
      | false => exact plain.begins
  | renderable | exception | object =>
      cases escaped with
      | true => exact ((function.append _).append _).append _
      | false => exact (fixed.append _).append _

/-- The call that lets a value render itself. -/
theorem phrase_renderCall {target : String} (plain : Plain expression)
    (unbrokenTarget : Unbroken target.toList) :
    Phrase ')' (expression ++ ".render(" ++ target ++ ")") :=
  .of_parts (plain.begins.append _)
    (unbroken_append (.of_plain plain) (unbroken_fixed (by decide)))
    unbrokenTarget (unbroken_fixed (by decide)) (by decide)

/-- The call that writes a text. -/
theorem phrase_writeCall {argument : String} (accepted : settings.Accepted)
    (unbrokenArgument : Unbroken argument.toList) :
    Phrase ')' (settings.writerName ++ ".write(" ++ argument ++ ")") :=
  .of_parts (accepted.plain_writerName.begins.append _)
    (unbroken_append (.of_plain accepted.plain_writerName) (unbroken_fixed (by decide)))
    unbrokenArgument (unbroken_fixed (by decide)) (by decide)

theorem phrase_statement (accepted : settings.Accepted) (catalog : Catalog)
    (plain : Plain (reference.expression settings)) :
    Phrase ')' (reference.statement catalog settings escaped) := by
  unfold statement statementFor
  dsimp only
  split
  · have target :
        Unbroken (if escaped then escapingWriter ++ "(" ++ settings.writerName ++ ")"
          else settings.writerName).toList := by
      have writer := Unbroken.of_plain accepted.plain_writerName
      split
      · exact unbroken_call (unbroken_fixed (by decide)) writer
      · exact writer
    have call := phrase_renderCall plain target
    split
    · have guard : Begins "None if " := ⟨'N', "one if ".toList, by decide, by decide⟩
      exact .of_parts (guard.append _)
        (unbroken_append (unbroken_fixed (by decide)) (.of_plain plain))
        (unbroken_fixed (by decide)) call.unbroken call.ends
    · exact call
  · have text :
        Unbroken (textExpression settings escaped (reference.type.present.classifyPresent catalog)
          (reference.expression settings)).toList :=
      unbroken_textExpression accepted plain
    apply phrase_writeCall accepted
    split
    · have front :
          "\"\" if ".toList = '"' :: ([].flatMap Text.literalChar ++ '"' :: " if ".toList) := by
        decide
      refine unbroken_append (unbroken_append (unbroken_append ?_ (.of_plain plain))
        (unbroken_fixed (by decide))) text
      rw [front]
      exact .literal [] (unbroken_fixed (by decide))
    · exact text

/-- A statement that writes a value is not one that writes a literal. -/
theorem literalValue?_statement (accepted : settings.Accepted) (catalog : Catalog)
    (plain : Plain (reference.expression settings)) :
    Text.literalValue? settings.writerName
      (reference.statement catalog settings escaped).toList = none := by
  have unquoted {text : String} (plainText : Plain text) : '"' ∉ text.toList := by
    intro member
    exact Text.ne_of_isPlain (List.all_eq_true.mp plainText.chars '"' member) (by decide) rfl
  unfold statement statementFor
  dsimp only
  split
  · apply Text.literalValue?_of_not_mem
    have expression := unquoted plain
    have writer := unquoted accepted.plain_writerName
    split <;> split <;> simp [escapingWriter, expression, writer]
  · split
    · have spelled (rest : String) :
          (settings.writerName ++ ".write(" ++
              ("\"\" if " ++ reference.expression settings ++ " is None else " ++ rest) ++
                ")").toList =
            (settings.writerName ++ ".write(\"").toList ++
              '"' :: ' ' :: ("if " ++ reference.expression settings ++ " is None else " ++ rest ++
                ")").toList := by
        simp
      rw [spelled, Text.literalValue?_opening]
      simp [Text.readLiteral]
    · have begins :
          Begins (textExpression settings escaped (reference.type.present.classifyPresent catalog)
            (reference.expression settings)) :=
        begins_textExpression accepted plain
      rcases begins with ⟨first, rest, spelled, plainFirst⟩
      have whole (text : String) (spelledText : text.toList = first :: rest) :
          (settings.writerName ++ ".write(" ++ text ++ ")").toList =
            (settings.writerName ++ ".write(").toList ++ first :: (rest ++ [')']) := by
        simp [spelledText]
      rw [whole _ spelled]
      exact Text.literalValue?_of_ne_quote _ _ (Text.ne_of_isPlain plainFirst (by decide))

end Reference

theorem Settings.literalValue?_literalStatement (settings : Settings) (text : String) :
    Text.literalValue? settings.writerName (settings.literalStatement text).toList =
      some text.toList := by
  have spelled :
      (settings.literalStatement text).toList =
        (settings.writerName ++ ".write(\"").toList ++
          (text.toList.flatMap Text.literalChar ++ '"' :: [')']) := by
    simp [literalStatement, Text.literal]
  rw [spelled, Text.literalValue?_opening, Text.readLiteral_literal]
  rfl

/-! ## Headers -/

namespace Section

variable {settings : Settings} {opened : Section}

theorem ends_header (settings : Settings) (opened : Section) :
    (opened.header settings).toList.getLast? = some ':' := by
  unfold header
  dsimp only
  split <;> exact ends_append _ (by decide)

theorem phrase_header
    (plainSubject : Plain (opened.subject.expression settings))
    (plainBound : Plain (opened.bound.expression settings)) :
    Phrase ':' (opened.header settings) := by
  have subject := Unbroken.of_plain plainSubject
  have bound := Unbroken.of_plain plainBound
  have branch : Begins "if " := ⟨'i', "f ".toList, by decide, by decide⟩
  have negated : Begins "if not " := ⟨'i', "f not ".toList, by decide, by decide⟩
  have loop : Begins "for " := ⟨'f', "or ".toList, by decide, by decide⟩
  unfold header
  dsimp only
  split
  · exact .of_parts branch (unbroken_fixed (by decide)) subject (unbroken_fixed (by decide))
      (by decide)
  · exact .of_parts negated (unbroken_fixed (by decide)) subject (unbroken_fixed (by decide))
      (by decide)
  · have elements :
        Unbroken (if opened.subject.type.admitsNone
          then opened.subject.expression settings ++ " or ()"
          else opened.subject.expression settings).toList := by
      split
      · exact unbroken_append subject (unbroken_fixed (by decide))
      · exact subject
    exact .of_parts ((loop.append _).append _)
      (unbroken_append (unbroken_append (unbroken_fixed (by decide)) bound)
        (unbroken_fixed (by decide)))
      elements (unbroken_fixed (by decide)) (by decide)
  · exact .of_parts branch (unbroken_fixed (by decide)) subject (unbroken_fixed (by decide))
      (by decide)
  · exact .of_parts branch (unbroken_fixed (by decide)) subject (unbroken_fixed (by decide))
      (by decide)

end Section

end TypedMustache
