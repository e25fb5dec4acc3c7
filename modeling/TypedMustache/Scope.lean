import TypedMustache.DataType.Shape
import TypedMustache.Catalog
import TypedMustache.Settings

/-!
# Scopes

A `Scope` is the chain of sections that are open at some place of a template.
The data that the template renders are bound at its root.  A section over an
iterable member binds the element of the loop, and a section over another member
binds that member.  A section over a truth value and an inverted section bind
nothing: inside them names mean what they mean outside.

A name is looked up in what the innermost of the sections that bind something
binds, and nowhere else.  A dotted name is followed from member to member, but not
through an optional member.
-/

namespace TypedMustache

/-! ## Values in reach -/

/-- A variable of the generated code. -/
inductive Variable where
  /-- The data that the template renders. -/
  | data
  /-- The element of the loop of a depth, counted from one. -/
  | element (depth : Nat)
deriving DecidableEq, Repr

/-- The name of a variable in the generated code. -/
def Variable.name (settings : Settings) : Variable → String
  | data => settings.dataName
  | element depth => "item" ++ toString depth

/-- A value in reach: the variable and the members that lead to it, and its type. -/
structure Reference where
  source : Variable
  members : List String
  type : DataType

namespace Reference

/-- The value of a variable. -/
def ofVariable (source : Variable) (type : DataType) : Reference :=
  { source, members := [], type }

/-- The value of a member. -/
def member (reference : Reference) (member : Member) : Reference :=
  { reference with members := reference.members ++ [member.name], type := member.type }

/-- The expression that reads the value. -/
def expression (settings : Settings) (reference : Reference) : String :=
  reference.members.foldl (fun enclosing name => enclosing ++ "." ++ name)
    (reference.source.name settings)

end Reference

/-! ## Sections -/

/-- An open section. -/
structure Section where
  name : String
  /-- The member that the section is over. -/
  subject : Reference
  inverted : Bool
  shape : Shape
  /-- What is bound inside the section, by itself or around it. -/
  bound : Reference
  /-- The number of loops that are open inside the section. -/
  loopDepth : Nat

namespace Section

/-- Whether a section gives names a new meaning. -/
def binds (opened : Section) : Bool :=
  !opened.inverted && opened.shape != .guard

/-- Whether a section is a loop. -/
def isLoop (opened : Section) : Bool :=
  !opened.inverted && opened.shape == .iteration

end Section

/-- The sections that are open, and the data at their root. -/
structure Scope where
  /-- The type of the data. -/
  dataType : DataType
  /-- The open sections, the innermost one first. -/
  sections : List Section

namespace Scope

/-- The scope in which no section is open. -/
def root (dataType : DataType) : Scope :=
  { dataType, sections := [] }

/-- The number of open sections. -/
def depth (scope : Scope) : Nat :=
  scope.sections.length

/-- The number of open loops, as the innermost section has it. -/
def loops (scope : Scope) : Nat :=
  match scope.sections with
  | [] => 0
  | innermost :: _ => innermost.loopDepth

/-- The data of the template. -/
def data (scope : Scope) : Reference :=
  .ofVariable .data scope.dataType

/-- What names mean members of: what the innermost section that binds something binds. -/
def bound (scope : Scope) : Reference :=
  match scope.sections.find? (·.binds) with
  | some opened => opened.bound
  | none => scope.data

/-- The member that the innermost section is over; the data where none is open. -/
def subject (scope : Scope) : Reference :=
  match scope.sections with
  | [] => scope.data
  | innermost :: _ => innermost.subject

/-! ## Looking up names -/

/-- The value that a name refers to, or why there is none, and the members met on the way. -/
structure Lookup where
  members : List Member
  outcome : Except Failure Reference

/-- The failure of a name that is followed through an optional member. -/
def throughOptional (reference : Reference) (passed : List String) (component : String) :
    Failure :=
  .ofFault (.throughOptional reference.type.display component (Text.join "." passed))

/-- Whether a name cannot be followed through a value; `passed` are the components before. -/
def blocks (catalog : Catalog) (passed : List String) (reference : Reference) :
    Except Failure Bool :=
  if passed.isEmpty then .ok false else reference.type.isOptional catalog

/-- Read the member of a value that a component of a name refers to. -/
def step (catalog : Catalog) (passed : List String) (reference : Reference) (component : String) :
    Except Failure Member :=
  match blocks catalog passed reference with
  | .error failure => .error failure
  | .ok true => .error (throughOptional reference passed component)
  | .ok false => (catalog.resolve reference.type component).mapError .ofFault

theorem step_eq_ok_iff {catalog : Catalog} {passed : List String} {reference : Reference}
    {component : String} {member : Member} :
    step catalog passed reference component = .ok member ↔
      (passed = [] ∨ reference.type.isOptional catalog = .ok false) ∧
        catalog.resolve reference.type component = .ok member := by
  have allowed : blocks catalog passed reference = .ok false ↔
      passed = [] ∨ reference.type.isOptional catalog = .ok false := by
    cases passed <;> simp [blocks]
  rw [← allowed, step]
  rcases blocks catalog passed reference with failure | (_ | _)
  · simp
  · cases catalog.resolve reference.type component with
    | error fault => exact ⟨nofun, fun succeeds => nomatch succeeds.2⟩
    | ok found =>
        change Except.ok found = .ok member ↔ _
        simp
  · simp

/-- Follow the components of a name; `passed` are those before. -/
def follow (catalog : Catalog) (passed : List String) (reference : Reference) :
    List String → Lookup
  | [] => { members := [], outcome := .ok reference }
  | component :: rest =>
    match step catalog passed reference component with
    | .error failure => { members := [], outcome := .error failure }
    | .ok member =>
      let later := follow catalog (passed ++ [component]) (reference.member member) rest
      { later with members := member :: later.members }

/-- Look up a name; a lone dot is the bound value itself. -/
def lookup (catalog : Catalog) (scope : Scope) (name : String) : Lookup :=
  if name == "." then { members := [], outcome := .ok scope.bound }
  else follow catalog [] scope.bound (Text.splitString '.' name)

/-! ## Entering and leaving sections -/

/-- What is bound inside a section that is opened in a scope. -/
def boundBy (scope : Scope) (subject : Reference) (inverted : Bool) (shape : Shape)
    (inner : DataType) : Reference :=
  if inverted then scope.bound
  else
    match shape with
    | .guard => scope.bound
    | .iteration => .ofVariable (.element (scope.loops + 1)) inner
    | .optional | .object => { subject with type := inner }

/-- The number of loops that are open in a section that is opened in a scope. -/
def loopsInside (scope : Scope) (inverted : Bool) (shape : Shape) : Nat :=
  if !inverted && shape == .iteration then scope.loops + 1 else scope.loops

/-- Open a section over a value. -/
def openOver (catalog : Catalog) (scope : Scope) (name : String) (inverted : Bool)
    (subject : Reference) : Except Failure Scope :=
  match subject.type.sectionShape catalog with
  | .error failure => .error failure
  | .ok (shape, inner) =>
    let bound := scope.boundBy subject inverted shape inner
    let loopDepth := scope.loopsInside inverted shape
    let opened := { name, subject, inverted, shape, bound, loopDepth }
    .ok { scope with sections := opened :: scope.sections }

theorem bound_cons (scope : Scope) (opened : Section) :
    bound { scope with sections := opened :: scope.sections } =
      if opened.binds then opened.bound else scope.bound := by
  cases binds : opened.binds <;> simp [bound, binds, data]

/-- Names inside a section that was opened mean members of what it keeps as bound. -/
theorem bound_opened (scope : Scope) (name : String) (subject : Reference) (inverted : Bool)
    (shape : Shape) (inner : DataType) (loopDepth : Nat) :
    bound { scope with
        sections :=
          { name, subject, inverted, shape
            bound := scope.boundBy subject inverted shape inner, loopDepth } ::
              scope.sections } =
      scope.boundBy subject inverted shape inner := by
  rw [bound_cons]
  cases inverted <;> cases shape <;> rfl

/-- What opening a section gives, and the members met on the way. -/
structure Entry where
  members : List Member
  outcome : Except Failure Scope

/-- Open a section over the value that a name refers to. -/
def enter (catalog : Catalog) (scope : Scope) (name : String) (inverted : Bool) : Entry :=
  let found := scope.lookup catalog name
  match found.outcome with
  | .error failure => { members := found.members, outcome := .error failure }
  | .ok subject =>
    { members := found.members, outcome := scope.openOver catalog name inverted subject }

/-- What cannot be done where no section is open. -/
inductive Misuse where
  | noParent
  | noSection
deriving DecidableEq, Repr

/-- The misuse in words. -/
def Misuse.message : Misuse → String
  | noParent => "The root scope has no parent"
  | noSection => "Not inside a section"

/-- Leave the innermost section. -/
def leave (scope : Scope) : Except Misuse Scope :=
  match scope.sections with
  | [] => .error .noParent
  | _ :: outer => .ok { scope with sections := outer }

/-- The name of the innermost section. -/
def innermostName (scope : Scope) : Except Misuse String :=
  match scope.sections with
  | [] => .error .noSection
  | innermost :: _ => .ok innermost.name

end Scope

end TypedMustache
