import TypedMustache.Journal

/-!
# The notices of a compilation
-/

namespace TypedMustache.Journal.Notice

/-- A member was found in its class. -/
def memberResolved (owner member : String) : Notice :=
  { channel := .resolve, severity := .debug, event := "member_resolved"
    fields := [("owner", .text owner), ("member", .text member)] }

/-- A template was read to its end. -/
def templateTokenized (source : String) (tokens : Nat) : Notice :=
  { channel := .tokenize, severity := .verbose, event := "template_tokenized"
    fields := [("source", .text source), ("tokens", .integer tokens)] }

/-- A section was opened. -/
def sectionOpened (name : String) (inverted : Bool) (depth : Nat) : Notice :=
  { channel := .compile, severity := .debug
    event := if inverted then "inverted_section_opened" else "section_opened"
    fields := [("name", .text name), ("depth", .integer depth)] }

/-- A section was closed. -/
def sectionClosed (name : String) (depth : Nat) : Notice :=
  { channel := .compile, severity := .debug, event := "section_closed"
    fields := [("name", .text name), ("depth", .integer depth)] }

/-- A layout yielded. -/
def yieldToggled (variant : String) (line : Int) (suppressing : Bool) : Notice :=
  { channel := .compile, severity := .verbose, event := "yield_toggled"
    fields := [("variant", .text variant), ("line", .integer line),
      ("suppressing", .boolean suppressing)] }

/-- A variant is about to be compiled. -/
def variantStarted (variant : String) : Notice :=
  { channel := .compile, severity := .verbose, event := "variant_started"
    fields := [("variant", .text variant)] }

/-- A variant was compiled. -/
def variantCompiled (variant : String) (metrics : Fields) : Notice :=
  { channel := .compile, severity := .info, event := "variant_compiled"
    fields := ("variant", .text variant) :: metrics }

/-- A variant could not be compiled. -/
def variantFailed (variant message kind : String) : Notice :=
  { channel := .system, severity := .error, event := "variant_failed"
    fields := [("variant", .text variant), ("error", .text message), ("error_type", .text kind)] }

/-- All variants were compiled. -/
def compileComplete (metrics : Fields) : Notice :=
  { channel := .compile, severity := .info, event := "compile_complete", fields := metrics }

/-- A module was assembled. -/
def moduleGenerated (templates functions : Nat) : Notice :=
  { channel := .codegen, severity := .verbose, event := "module_generated"
    fields := [("templates", .integer templates), ("functions", .integer functions)] }

end TypedMustache.Journal.Notice
