import TypedMustache.Settings.Problem
import TypedMustache.Token

/-!
# Diagnostics

Everything that can be wrong with a template, with the names it uses or with the
settings is a `Fault`.  A `Diagnostic` is a fault together with the place where
it was found; the place is attached once and then stays.

A `Failure` is what stops a computation.  Almost always it is a diagnostic.  The
others arise from annotations that are no types, from texts among them that the
language does not take for expressions, and from closing a block that was never
opened.
-/

namespace TypedMustache

/-- What a fault is about. -/
inductive Fault.Kind where
  | general
  | template
  | resolution
  | configuration
deriving DecidableEq, Repr

/-- Something wrong that the author of a template is told about. -/
inductive Fault where
  /-- A double-brace tag has no end. -/
  | unclosedTag
  /-- A triple-brace tag has no end. -/
  | unclosedTripleTag
  /-- A tag has no name. -/
  | emptyName
  /-- The name of a tag is not a path of names. -/
  | invalidName (name : String)
  /-- A layout yields a second time. -/
  | repeatedYield
  /-- A layout yields inside a section. -/
  | enclosedYield (sectionName : String)
  /-- The yield marker is written as an escaped reference. -/
  | escapedYield (marker : String)
  /-- A section is closed while none is open. -/
  | unopenedSection (name : String)
  /-- A section is closed under another name than it was opened with. -/
  | mismatchedSection (name expected : String)
  /-- A section is open at the end of the template. -/
  | unclosedSection (name : String)
  /-- A type has no member of that name. -/
  | unknownMember (typeName memberName : String)
  /-- A member is read through an optional one. -/
  | throughOptional (typeName memberName traversed : String)
  /-- An annotation of a type names something that is not defined. -/
  | undefinedName (typeName name : String)
  /-- A layout does not yield. -/
  | missingYield (marker : String)
  /-- The settings file does not exist. -/
  | settingsNotFound (path : String)
  /-- The settings file holds something else than a mapping. -/
  | settingsNotMapping (path : String)
  /-- Some settings have values that cannot be used. -/
  | invalidSettings (problems : List Settings.Problem)
  /-- A document is not a saved result. -/
  | notAResult (source : String) (problems : Nat)
  /-- A fault reported in words of its own. -/
  | reported (kind : Fault.Kind) (message : String) (hint : Option String)
    (typeName memberName : Option String)
deriving DecidableEq, Repr

namespace Fault

/-- What a fault is about. -/
def kind : Fault → Kind
  | unclosedTag | unclosedTripleTag | emptyName | invalidName _ | repeatedYield
  | enclosedYield _ | escapedYield _ | unopenedSection _ | mismatchedSection _ _
  | unclosedSection _ => .template
  | unknownMember _ _ | throughOptional _ _ _ | undefinedName _ _ => .resolution
  | missingYield _ | settingsNotFound _ | settingsNotMapping _ | invalidSettings _
  | notAResult _ _ => .configuration
  | reported kind _ _ _ _ => kind

/-- A number of things, in the singular or the plural. -/
def counted (count : Nat) (noun : String) : String :=
  toString count ++ " " ++ noun ++ (if count = 1 then "" else "s")

/-- The fault in words. -/
def message : Fault → String
  | unclosedTag => "Unclosed \x7b\x7b tag"
  | unclosedTripleTag => "Unclosed \x7b\x7b\x7b tag"
  | emptyName => "Empty tag name"
  | invalidName name => "Invalid tag name: " ++ Text.quoted name
  | repeatedYield => "Yield can be used only once"
  | enclosedYield name => "Unclosed " ++ name ++ " block before yield"
  | escapedYield _ => "Yield should be unescaped variable"
  | unopenedSection name => "Closing " ++ name ++ " block when no block is currently open"
  | mismatchedSection name expected => "Closing " ++ name ++ " block instead of " ++ expected
  | unclosedSection name => "Unclosed " ++ name ++ " block at end of file"
  | unknownMember typeName memberName =>
    "Unknown member: " ++ typeName ++ " has no member named '" ++ memberName ++ "'"
  | throughOptional _ memberName traversed =>
    "Cannot read '" ++ memberName ++ "' through optional member '" ++ traversed ++ "'"
  | undefinedName typeName name =>
    "Cannot evaluate annotations of " ++ typeName ++ ": name '" ++ name ++ "' is not defined"
  | missingYield marker => "Layout template has no \x7b\x7b\x7b" ++ marker ++ "\x7d\x7d\x7d marker"
  | settingsNotFound path => "Settings file not found: " ++ path
  | settingsNotMapping path => "Settings file must contain a mapping: " ++ path
  | invalidSettings problems =>
    "Invalid settings: " ++ counted problems.length "validation error" ++ " for CompilerSettings"
  | notAResult source problems =>
    source ++ " is not a compile result (" ++ toString problems ++ " problems)"
  | reported _ message _ _ _ => message

/-- Advice on how to mend the fault. -/
def hint : Fault → Option String
  | escapedYield marker => some ("Write \x7b\x7b\x7b" ++ marker ++ "\x7d\x7d\x7d instead.")
  | throughOptional _ _ traversed =>
    some ("Open a \x7b\x7b#" ++ traversed ++ "\x7d\x7d section first.")
  | notAResult _ _ => some "Produce it with `stache compile --format json`."
  | reported _ _ hint _ _ => hint
  | _ => none

/-- The type whose member could not be resolved. -/
def typeName : Fault → Option String
  | unknownMember typeName _ | throughOptional typeName _ _ | undefinedName typeName _ =>
    some typeName
  | reported _ _ _ typeName _ => typeName
  | _ => none

/-- The member that could not be resolved. -/
def memberName : Fault → Option String
  | unknownMember _ memberName | throughOptional _ memberName _ => some memberName
  | reported _ _ _ _ memberName => memberName
  | _ => none

end Fault

/-- A fault and the place where it was found. -/
structure Diagnostic where
  fault : Fault
  position : Option Position
deriving DecidableEq, Repr

namespace Diagnostic

/-- Attach a place, unless one is known already. -/
def locate (diagnostic : Diagnostic) (position : Position) : Diagnostic :=
  match diagnostic.position with
  | none => { diagnostic with position := some position }
  | some _ => diagnostic

/-- The place, the fault and the advice on one line. -/
def format (diagnostic : Diagnostic) : String :=
  let placed :=
    match diagnostic.position with
    | none => diagnostic.fault.message
    | some position => position.describe ++ ": " ++ diagnostic.fault.message
  match diagnostic.fault.hint with
  | none => placed
  | some hint => if hint.isEmpty then placed else placed ++ " Hint: " ++ hint

@[simp]
theorem locate_fault (diagnostic : Diagnostic) (position : Position) :
    (diagnostic.locate position).fault = diagnostic.fault := by
  cases known : diagnostic.position <;> simp [locate, known]

end Diagnostic

/-- An error of the language: its class, and its words. -/
structure LanguageError where
  label : String
  message : String
deriving DecidableEq, Repr

/--
What the language answers when it reads a text as an expression: nothing, or the error that it
raises.
-/
abbrev Texts := String → Option LanguageError

/-- What stops a computation. -/
inductive Failure where
  /-- A fault that its author is told about. -/
  | diagnosed (diagnostic : Diagnostic)
  /-- An annotation that cannot be looked up in a table, with the sort of value that it is. -/
  | unhashable (sort : String)
  /-- An annotation that cannot be a member of a union. -/
  | notAType (display : String)
  /-- An error that the language raises. -/
  | raised (error : LanguageError)
  /-- A block is closed while none is open. -/
  | noOpenBlock
deriving DecidableEq, Repr

namespace Failure

/-- A fault whose place is not known yet. -/
def ofFault (fault : Fault) : Failure :=
  diagnosed { fault, position := none }

/-- Attach a place to a diagnostic; the other failures have none. -/
def locate (failure : Failure) (position : Position) : Failure :=
  match failure with
  | diagnosed diagnostic => diagnosed (diagnostic.locate position)
  | other => other

/-- The failure in words. -/
def format : Failure → String
  | diagnosed diagnostic => diagnostic.format
  | unhashable sort => "unhashable type: '" ++ sort ++ "'"
  | notAType display => display ++ " is not valid as type argument"
  | raised error => error.message
  | noOpenBlock => "pop from empty list"

/-- The class of a failure, as the log names it. -/
def label : Failure → String
  | diagnosed diagnostic =>
    match diagnostic.fault.kind with
    | .general => "StacheError"
    | .template => "TemplateSyntaxError"
    | .resolution => "ResolutionError"
    | .configuration => "ConfigurationError"
  | unhashable _ | notAType _ => "TypeError"
  | raised error => error.label
  | noOpenBlock => "IndexError"

end Failure

end TypedMustache
