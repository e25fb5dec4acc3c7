import TypedMustache.Proofs.Compilation.YieldSplit
import TypedMustache.Proofs.Scope.AccessPath

/-!
# Reads in the generated code

The generated code reads values by the paths that names stand for.  Each of its
lines stands inside the blocks of the sections that are open around its name, so
what these sections make sure of is checked before the line is reached.

`Compiler.typed_paths_of_names` says this of names and of the code they become.
Every name stands for a typed path, and where the path goes through an optional
value, the code stands inside a block that is headed by a test of that value.
The path ends at the value: a value that renders itself is called after it, and
the statement brings a test of its own.
-/

namespace TypedMustache

/-! ## Lines and the blocks around them -/

namespace Code

/--
The statements and headers of code, each with the headers of the blocks around
it, the innermost one first.
-/
def placed (around : List String) : Code → List (List String × String)
  | nil => []
  | statement text _ rest => (around, text) :: rest.placed around
  | block header _ body rest =>
      (around, header) :: (body.placed (header :: around) ++ rest.placed around)

end Code

/-- A value is read by the statements that write it and by the headers of sections over it. -/
inductive Reference.ReadBy (catalog : Catalog) (settings : Settings) (value : Reference) :
    String → Prop where
  | statement (escaped : Bool) :
      ReadBy catalog settings value (value.statement catalog settings escaped)
  | header {opened : Section} (subject : opened.subject = value) :
      ReadBy catalog settings value (opened.header settings)

/-- The test that heads a block over an optional value. -/
def presenceTest (expression : String) : String :=
  "if " ++ expression ++ " is not None:"

namespace Scope

variable {catalog : Catalog} {settings : Settings} {dataType : DataType}
  {scope entered : Scope} {name : String} {inverted : Bool} {value : Reference}

/-- The headers of the blocks that are open in a scope, the innermost one first. -/
def headers (settings : Settings) (scope : Scope) : List String :=
  scope.sections.map (·.header settings)

theorem headers_of_enter
    (opened : (scope.enter catalog name inverted).outcome = .ok entered) :
    entered.headers settings = entered.header settings :: scope.headers settings := by
  rcases enter_eq_ok_iff.mp opened with ⟨subject, shape, inner, -, -, rfl⟩
  rfl

/-- What an open section makes sure of is tested by the header of its block. -/
theorem Ensures.presenceTest_mem
    {expression : String} (ensured : scope.Ensures settings expression) :
    presenceTest expression ∈ scope.headers settings := by
  rcases ensured with ⟨opened, isOpen, upright, optional, rfl⟩
  apply List.mem_map.mpr
  refine ⟨opened, isOpen, ?_⟩
  simp [Section.header, upright, optional, presenceTest]

theorem HasPath.tested
    (path : scope.HasPath catalog settings value) :
    AccessPath catalog settings (scope.InReach catalog)
      (presenceTest · ∈ scope.headers settings) value :=
  path.mono (fun _ => id) fun _ => Ensures.presenceTest_mem

/--
A line that stands below headers is a literal, or it reads what a name means in
a scope whose open blocks have these headers.
-/
def Places (catalog : Catalog) (settings : Settings) (dataType : DataType)
    (around : List String) (line : String) : Prop :=
  (∃ text, line = settings.literalStatement text) ∨
    ∃ scope name value,
      Grown catalog dataType scope ∧ scope.headers settings = around ∧
        (scope.lookup catalog name).outcome = .ok value ∧ value.ReadBy catalog settings line

theorem places_statement
    (grown : Grown catalog dataType scope)
    (opened : (scope.enter catalog name inverted).outcome = .ok entered) (escaped : Bool) :
    Places catalog settings dataType (scope.headers settings)
      (entered.statement catalog settings escaped) := by
  rcases enter_eq_ok_iff.mp opened with ⟨subject, shape, inner, looked, -, rfl⟩
  exact Or.inr ⟨scope, name, subject, grown, rfl, looked, .statement escaped⟩

theorem places_header
    (grown : Grown catalog dataType scope)
    (opened : (scope.enter catalog name inverted).outcome = .ok entered) :
    Places catalog settings dataType (scope.headers settings) (entered.header settings) := by
  rcases enter_eq_ok_iff.mp opened with ⟨subject, shape, inner, looked, -, rfl⟩
  exact Or.inr ⟨scope, name, subject, grown, rfl, looked, .header rfl⟩

end Scope

/-- Every line of the code of a tree stands below the headers of the scope of its name. -/
theorem SectionTree.places_of_code?
    {catalog : Catalog} {settings : Settings} {dataType : DataType} {scope : Scope}
    {tree : SectionTree} {code : Code} {around : List String} {line : String}
    (grown : scope.Grown catalog dataType)
    (resolved : tree.code? catalog settings scope = some code)
    (member : (around, line) ∈ code.placed (scope.headers settings)) :
    Scope.Places catalog settings dataType around line := by
  induction tree generalizing scope code with
  | nil =>
      cases resolved
      cases member
  | literal special text rest ih =>
      rcases code?_literal_eq_some_iff.mp resolved with ⟨after, resolvedRest, rfl⟩
      rcases List.mem_cons.mp member with here | later
      · cases here
        exact Or.inl ⟨text, rfl⟩
      · exact ih grown resolvedRest later
  | reference escaped name rest ih =>
      rcases code?_reference_eq_some_iff.mp resolved with
        ⟨entered, after, looked, resolvedRest, rfl⟩
      rcases List.mem_cons.mp member with here | later
      · cases here
        exact Scope.places_statement grown looked escaped
      · exact ih grown resolvedRest later
  | block inverted name body rest bodyIH restIH =>
      rcases code?_block_eq_some_iff.mp resolved with
        ⟨entered, inside, after, looked, resolvedBody, resolvedRest, rfl⟩
      rcases List.mem_cons.mp member with here | within
      · cases here
        exact Scope.places_header grown looked
      · rcases List.mem_append.mp within with inBody | later
        · rw [← Scope.headers_of_enter looked] at inBody
          exact bodyIH (.enter grown looked) resolvedBody inBody
        · exact restIH grown resolvedRest later

namespace Compiler

/--
Every name that has a meaning in a reachable scope stands for a typed path.  A
run of any variant writes code in which every line is a literal or reads such a
path, and stands inside a presence test of each optional value that the path
goes through.
-/
theorem typed_paths_of_names (catalog : Catalog) (settings : Settings) (dataType : DataType) :
    (∀ scope name value,
      Scope.Reachable catalog dataType scope →
        (scope.lookup catalog name).outcome = .ok value →
          scope.dataType = dataType ∧
            value.expression settings =
                Text.join "." (value.source.name settings :: value.members) ∧
              AccessPath catalog settings (scope.InReach catalog) (scope.Ensures settings) value) ∧
      ∀ variant ∈ Variant.all, ∀ atEnd source indent stream position after,
        Compiler.run { catalog, settings, variant } atEnd source stream
            (.start dataType (.fresh indent 1)) = .ok position after →
          ∃ code : Code,
            after.sink.value = code.text indent 1 ∧
              ∀ around line, (around, line) ∈ code.placed [] →
                (∃ text, line = settings.literalStatement text) ∨
                  ∃ scope name value,
                    Scope.Reachable catalog dataType scope ∧
                      (scope.lookup catalog name).outcome = .ok value ∧
                        value.ReadBy catalog settings line ∧
                          AccessPath catalog settings (scope.InReach catalog)
                            (presenceTest · ∈ around) value := by
  constructor
  · intro scope name value reachable looked
    have grown := reachable.grown
    exact ⟨grown.dataType_eq, value.expression_eq_join settings,
      grown.path_of_lookup settings looked⟩
  · intro variant isVariant atEnd source indent stream position after done
    rcases exists_part_of_run isVariant done with ⟨part, tree, code, -, -, resolved, sink⟩
    refine ⟨code, ?_, ?_⟩
    · rw [sink, Sink.value_finish_laidOut code indent 1 (SectionTree.solid_of_code? resolved)]
    · intro around line member
      rcases tree.places_of_code? .root resolved member with
        literal | ⟨scope, name, value, grown, rfl, looked, read⟩
      · exact Or.inl literal
      · exact Or.inr ⟨scope, name, value, grown.reachable, looked, read,
          (grown.path_of_lookup settings looked).tested⟩

/-- A class of books that may have an author, and the class of authors. -/
def shelf : Catalog :=
  { models :=
      [{ name := { moduleName := "models", qualifiedName := "Book" }
         annotations :=
          [("author", .union .typing
            [.ofClass { moduleName := "models", qualifiedName := "Author" }, .noneType])]
         attributes := []
         bases := [] },
        { name := { moduleName := "models", qualifiedName := "Author" }
          annotations := [("name", .ofClass (.builtin "str"))]
          attributes := []
          bases := [] }]
    constants := [] }

/-- The data type of books. -/
def book : DataType :=
  .ofClass { moduleName := "models", qualifiedName := "Book" }

/-- The name of the author of a book, if there is one. -/
def bookTokens : List Token :=
  [(.sectionOpen, "author"), (.reference, "name"), (.sectionClose, "author")].map
    fun (kind, value) => { kind, value, position := .start "book" }

theorem typed_paths_of_names_book :
    (∃ scope value,
      Scope.Reachable shelf book scope ∧
        (scope.lookup shelf "name").outcome = .ok value ∧
          value.expression {} = "data.author.name" ∧
            AccessPath shelf {} (scope.InReach shelf) (scope.Ensures {}) value) ∧
      ∃ position after,
        Compiler.run { catalog := shelf, settings := {}, variant := .full } [] "book"
            (.ofList bookTokens) (.start book (.fresh "  " 1)) = .ok position after ∧
          ∃ code : Code, after.sink.value = code.text "  " 1 := by
  rcases typed_paths_of_names shelf {} book with ⟨ofNames, ofRuns⟩
  constructor
  · have opened : ∃ entered,
        ((Scope.root book).enter shelf "author" false).outcome = .ok entered ∧
          ∃ value, (entered.lookup shelf "name").outcome = .ok value ∧
            value.expression {} = "data.author.name" :=
      ⟨_, rfl, _, rfl, by decide +kernel⟩
    rcases opened with ⟨entered, opened, value, looked, expression⟩
    have reachable : Scope.Reachable shelf book entered := .enter .root opened
    exact ⟨entered, value, reachable, looked, expression,
      (ofNames entered "name" value reachable looked).2.2⟩
  · obtain ⟨position, after, done⟩ := Run.exists_of_report
      (show (Run.report (Compiler.run { catalog := shelf, settings := {}, variant := .full } []
        "book" (.ofList bookTokens) (.start book (.fresh "  " 1)))).isOk = true by
          decide +kernel)
    rcases ofRuns .full (by decide) _ _ _ _ _ _ done with ⟨code, written, -⟩
    exact ⟨position, after, done, code, written⟩

end Compiler

end TypedMustache
