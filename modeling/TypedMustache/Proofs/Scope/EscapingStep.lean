import Mathlib.Tactic.SplitIfs
import TypedMustache.Proofs.Compilation.SectionTree
import TypedMustache.Proofs.Escaping.Entities

/-!
# Escaped and raw references

A reference is compiled to one statement, which depends on the declared type of
the value and on whether the reference escapes.  The statements are described
here as data: an `Output` says what is done with a value that is there, and
`Output.print` writes it down, with a test for no value in front of it where the
type is optional.

`Scope.escapingStep_of_lookup` says how the statements of an escaped and of a raw
reference to the same name compare.  They are the same for the classes of numbers
and for truth values.  For all other types, whatever the raw statement lets
through to the writer reaches it escaped from the other one.
-/

namespace TypedMustache

/-! ## Statements as data -/

/-- A text that is made of a value. -/
inductive Operand where
  /-- The value, which is a text already. -/
  | itself
  /-- The value converted to a text. -/
  | converted
  /-- A word for a truth value. -/
  | truthWord
  /-- Another text, escaped. -/
  | escaped (operand : Operand)

/-- What is done with a value that is there. -/
inductive Output where
  /-- Write a text that is made of it. -/
  | write (operand : Operand)
  /-- Let it write itself, to a writer that may be an escaping one. -/
  | render (escaping : Bool)

/-- The expression for a text that is made of a value. -/
def Operand.print (settings : Settings) (expression : String) : Operand → String
  | itself => expression
  | converted => "str(" ++ expression ++ ")"
  | truthWord => "(\"true\" if " ++ expression ++ " else \"false\")"
  | escaped operand => settings.escapeFunction ++ "(" ++ operand.print settings expression ++ ")"

namespace Output

/-- Code for a value that is there, with a test in front of it if there may be none. -/
def tested (front expression present : String) (optional : Bool) : String :=
  if optional then front ++ expression ++ " is None else " ++ present else present

/-- The writer that is handed to a value that writes itself. -/
def target (settings : Settings) (escaping : Bool) : String :=
  if escaping then escapingWriter ++ "(" ++ settings.writerName ++ ")" else settings.writerName

/-- The statement for the value of an expression. -/
def print (settings : Settings) (expression : String) (optional : Bool) : Output → String
  | write operand =>
    settings.writerName ++ ".write(" ++
      tested "\"\" if " expression (operand.print settings expression) optional ++ ")"
  | render escaping =>
    tested "None if " expression (expression ++ ".render(" ++ target settings escaping ++ ")")
      optional

/-- What a reference does with values of a classification. -/
def ofClassification (escaped : Bool) : Classification → Output
  | .numeric => write .converted
  | .boolean => write .truthWord
  | .character | .string => write (if escaped then .escaped .itself else .itself)
  | .renderable => render escaped
  | .exception | .object => write (if escaped then .escaped .converted else .converted)

end Output

/-- The statement of a reference is the one for the classification of its type. -/
theorem Reference.statementFor_eq_print
    (settings : Settings) (escaped optional : Bool) (classification : Classification)
    (reference : Reference) :
    reference.statementFor settings escaped optional classification =
      (Output.ofClassification escaped classification).print settings
        (reference.expression settings) optional := by
  unfold statementFor
  cases classification with
  | renderable =>
      rfl
  | numeric | boolean =>
      rfl
  | character | string =>
      cases escaped <;> rfl
  | exception | object =>
      cases escaped <;> rfl

/-! ## What reaches the writer -/

namespace Writer

/-- The writer that an escaping one hands its texts to. -/
def inner : Writer → Writer
  | buffer contents => buffer contents
  | escaping inner => inner

/-- Texts written to an escaping writer reach the writer inside it escaped. -/
theorem writeAll_escaping (writer : Writer) (texts : List String) :
    (escaping writer).writeAll texts = escaping (writer.writeAll (texts.map escapeHtml)) := by
  unfold writeAll
  induction texts generalizing writer with
  | nil =>
      rfl
  | cons text rest ih =>
      rw [List.foldl_cons, List.map_cons, List.foldl_cons]
      exact ih (writer.write (escapeHtml text)).1

end Writer

/-- What a value is like when the code runs. -/
structure Rendering where
  /-- The text that it is, if it is one. -/
  text : String
  /-- The text that it is converted to. -/
  conversion : String
  truth : Bool
  /-- The texts that it writes, if it writes itself. -/
  pieces : List String

/-- A text that is made of a value; `escapeHtml` is the only function settings can name. -/
def Operand.text (rendering : Rendering) : Operand → String
  | itself => rendering.text
  | converted => rendering.conversion
  | truthWord => if rendering.truth then "true" else "false"
  | escaped operand => escapeHtml (operand.text rendering)

/-- The writer after something was done with a value that is there. -/
def Output.perform (rendering : Rendering) (writer : Writer) : Output → Writer
  | write operand => (writer.write (operand.text rendering)).1
  | render false => writer.writeAll rendering.pieces
  | render true => ((Writer.escaping writer).writeAll rendering.pieces).inner

/-- What one statement lets through to the writer, another one lets through escaped. -/
def Output.EscapedBy (raw escaped : Output) : Prop :=
  ∀ rendering : Rendering, ∃ texts : List String, ∀ writer : Writer,
    raw.perform rendering writer = writer.writeAll texts ∧
      escaped.perform rendering writer = writer.writeAll (texts.map escapeHtml)

theorem Output.escapedBy_write (operand : Operand) :
    EscapedBy (write operand) (write (.escaped operand)) := by
  intro rendering
  exact ⟨[operand.text rendering], fun _ => ⟨rfl, rfl⟩⟩

theorem Output.escapedBy_render : EscapedBy (render false) (render true) := by
  intro rendering
  refine ⟨rendering.pieces, fun writer => ⟨rfl, ?_⟩⟩
  rw [perform, Writer.writeAll_escaping]
  rfl

/-! ## Types that are not escaped -/

namespace DataType

/-- The classes of numbers and of truth values. -/
def unescapedClasses : List ClassName :=
  [.builtin "int", .builtin "float", .builtin "complex",
    { moduleName := "decimal", qualifiedName := "Decimal" },
    { moduleName := "fractions", qualifiedName := "Fraction" }, .builtin "bool"]

/-- A value of the type, if there is one, is a number or a truth value. -/
def IsUnescaped (type : DataType) : Prop :=
  ∃ name ∈ unescapedClasses, type.present = .ofClass name

theorem mem_unescapedClasses_of_classTable :
    ∀ entry ∈ classTable, entry.2 = .numeric ∨ entry.2 = .boolean →
      entry.1 ∈ unescapedClasses := by
  decide

/-- Nothing else is written like a number or a truth value. -/
theorem isUnescaped_of_classifyPresent
    {catalog : Catalog} {type : DataType}
    (classified : type.present.classifyPresent catalog = .numeric ∨
      type.present.classifyPresent catalog = .boolean) :
    type.IsUnescaped := by
  unfold classifyPresent at classified
  split at classified
  · rename_i name present
    refine ⟨name, ?_, present⟩
    unfold classifyClass at classified
    split at classified
    · rename_i classification listed
      rcases List.lookup_eq_some_iff.mp listed with ⟨before, after, table, -⟩
      apply mem_unescapedClasses_of_classTable (name, classification) _ classified
      rw [table]
      exact List.mem_append_right _ List.mem_cons_self
    · split_ifs at classified <;> simp at classified
  · split_ifs at classified <;> simp at classified
  · simp at classified

end DataType

/-! ## References -/

/-- How the outputs for an escaped and for a raw reference to the same value compare. -/
def Output.StepOf (raw escaped : Output) : Classification → Prop
  | .numeric | .boolean => escaped = raw
  | .renderable => raw = render false ∧ escaped = render true
  | .character | .string => raw = write .itself ∧ escaped = write (.escaped .itself)
  | .exception | .object => raw = write .converted ∧ escaped = write (.escaped .converted)

theorem Output.stepOf_ofClassification (classification : Classification) :
    StepOf (ofClassification false classification) (ofClassification true classification)
      classification := by
  cases classification with
  | numeric | boolean =>
      rfl
  | renderable | character | string | exception | object =>
      exact ⟨rfl, rfl⟩

/-- Outputs that differ do so by escaping what is let through. -/
theorem Output.StepOf.escapedBy
    {raw escaped : Output} {classification : Classification}
    (step : StepOf raw escaped classification)
    (other : ¬ (classification = .numeric ∨ classification = .boolean)) :
    EscapedBy raw escaped := by
  cases classification with
  | numeric =>
      exact (other (.inl rfl)).elim
  | boolean =>
      exact (other (.inr rfl)).elim
  | renderable =>
      rcases step with ⟨rfl, rfl⟩
      exact escapedBy_render
  | character | string | exception | object =>
      rcases step with ⟨rfl, rfl⟩
      exact escapedBy_write _

namespace Scope

variable {catalog : Catalog} {scope : Scope} {name : String} {subject : Reference}

/--
The statements for an escaped and for a raw reference to a name differ in the
escaping step alone, with the same test for no value in both.  A value reaches
the writer without having been escaped only if it is a number or a truth value.
A name can be looked up and not be referred to if its type has no shape.
-/
theorem escapingStep_of_lookup
    (settings : Settings) (found : (scope.lookup catalog name).outcome = .ok subject) :
    (∃ failure, subject.type.sectionShape catalog = .error failure ∧
        (scope.enter catalog name false).outcome = .error failure) ∨
      ∃ child, (scope.enter catalog name false).outcome = .ok child ∧
        ∃ (optional : Bool) (classification : Classification) (raw escaped : Output),
          subject.type.isOptional catalog = .ok optional ∧
            subject.type.classify catalog = .ok classification ∧
            child.writeStatement catalog settings false =
              .ok (raw.print settings (subject.expression settings) optional) ∧
            child.writeStatement catalog settings true =
              .ok (escaped.print settings (subject.expression settings) optional) ∧
            raw.StepOf escaped classification ∧
            (subject.type.IsUnescaped ∨ raw.EscapedBy escaped) := by
  cases shaped : subject.type.sectionShape catalog with
  | error failure =>
      refine .inl ⟨failure, rfl, ?_⟩
      simp [enter, openOver, found, shaped]
  | ok pair =>
      right
      have opened :
          ∃ child, (scope.enter catalog name false).outcome = .ok child ∧
            child.subject = subject :=
        ⟨_, enter_eq_ok_iff.mpr ⟨subject, pair.1, pair.2, found, shaped, rfl⟩, rfl⟩
      rcases opened with ⟨child, entered, rfl⟩
      have written (escaped : Bool) :
          child.writeStatement catalog settings escaped =
            .ok ((Output.ofClassification escaped
              (child.subject.type.present.classifyPresent catalog)).print settings
                (child.subject.expression settings) child.subject.type.admitsNone) := by
        rw [writeStatement_of_enter entered, statement, Reference.statement,
          Reference.statementFor_eq_print]
      refine ⟨child, entered, child.subject.type.admitsNone,
        child.subject.type.present.classifyPresent catalog, _, _,
        DataType.isOptional_of_sectionShape shaped, DataType.classify_of_sectionShape shaped,
        written false, written true, Output.stepOf_ofClassification _, ?_⟩
      by_cases classified :
          child.subject.type.present.classifyPresent catalog = .numeric ∨
            child.subject.type.present.classifyPresent catalog = .boolean
      · exact .inl (DataType.isUnescaped_of_classifyPresent classified)
      · exact .inr ((Output.stepOf_ofClassification _).escapedBy classified)

/-- Carts that may have an owner, who has a name. -/
def carts : Catalog :=
  { models :=
      [{ name := { moduleName := "models", qualifiedName := "Cart" }
         annotations :=
          [("owner", .union .typing [.ofClass (.builtin "str"), .noneType])]
         attributes := []
         bases := [] }]
    constants := [] }

/-- The data type of carts. -/
def cart : DataType :=
  .ofClass { moduleName := "models", qualifiedName := "Cart" }

theorem escapingStep_of_lookup_owner :
    (((Scope.root cart).enter carts "owner" false).outcome.bind
          (·.writeStatement carts {} true)).toOption =
        some "writer.write(\"\" if data.owner is None else escape_html(data.owner))" ∧
      ∃ subject, ((Scope.root cart).lookup carts "owner").outcome = .ok subject ∧
        ((∃ failure, subject.type.sectionShape carts = .error failure ∧
            ((Scope.root cart).enter carts "owner" false).outcome = .error failure) ∨
          ∃ child, ((Scope.root cart).enter carts "owner" false).outcome = .ok child ∧
            ∃ (optional : Bool) (classification : Classification) (raw escaped : Output),
              subject.type.isOptional carts = .ok optional ∧
                subject.type.classify carts = .ok classification ∧
                child.writeStatement carts {} false =
                  .ok (raw.print {} (subject.expression {}) optional) ∧
                child.writeStatement carts {} true =
                  .ok (escaped.print {} (subject.expression {}) optional) ∧
                raw.StepOf escaped classification ∧
                (subject.type.IsUnescaped ∨ raw.EscapedBy escaped)) := by
  refine ⟨?_, _, rfl, escapingStep_of_lookup {} rfl⟩
  decide +kernel

end Scope

end TypedMustache
