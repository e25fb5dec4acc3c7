import TypedMustache.Journal.Notice
import TypedMustache.Scope.Statement
import TypedMustache.Sink
import TypedMustache.Text.Quoted
import TypedMustache.Token.Lexer

/-!
# Compiling tokens

A run over the tokens of a template writes statements into a sink, in one pass
and up to the first failure.  There are three variants of it.  The full variant
writes everything.  The header and the footer of a layout are cut at the yield
marker: the header variant stops writing there, and the footer variant starts.

A run ends the last line it writes and leaves the suppression of its sink as it
found it.  A run that fails leaves its sink as it found it altogether.
-/

namespace TypedMustache

open Journal (Notice)

/-- How a run treats the yield marker. -/
structure Variant where
  name : String
  /-- Whether the marker is more than an ordinary name. -/
  expectsYield : Bool
  /-- Whether output is suppressed up to the marker. -/
  initiallySuppressed : Bool
deriving DecidableEq, Repr

namespace Variant

/-- The whole template. -/
def full : Variant :=
  { name := "full", expectsYield := false, initiallySuppressed := false }

/-- What a layout writes before it yields. -/
def header : Variant :=
  { name := "header", expectsYield := true, initiallySuppressed := false }

/-- What a layout writes after it yields. -/
def footer : Variant :=
  { name := "footer", expectsYield := true, initiallySuppressed := true }

/-- The variants. -/
def all : List Variant := [full, header, footer]

end Variant

/-- What a run depends on beside its tokens. -/
structure Compiler where
  catalog : Catalog
  settings : Settings
  variant : Variant

/-- The state of a run. -/
structure Run where
  sink : Sink
  scope : Scope
  foundYield : Bool
  /-- The notices given so far. -/
  notices : List Notice

/-- A part of a run; it may fail, and what it did up to then is kept. -/
abbrev RunM := EStateM Failure Run

namespace Run

/-- The state of a run that writes data of a type into a sink. -/
def start (dataType : DataType) (sink : Sink) : Run :=
  { sink, scope := .root dataType, foundYield := false, notices := [] }

/-- Fail because of something that the author of the template is told about. -/
def fail {α : Type} (fault : Fault) : RunM α :=
  throw (.ofFault fault)

/-- Give notices. -/
def note (notices : List Notice) : RunM Unit :=
  modify fun run => { run with notices := run.notices ++ notices }

/-- Change the sink. -/
def onSink (change : Sink → Sink) : RunM Unit :=
  modify fun run => { run with sink := change run.sink }

/-- Close the innermost block of the sink. -/
def closeBlock (trailer : String) : RunM Unit := fun run =>
  match Sink.closeBlock (some trailer) run.sink with
  | .ok () sink => .ok () { run with sink }
  | .error failure sink => .error failure { run with sink }

end Run

namespace Compiler

open Run

/-! ## Literals and references -/

/-- Write a statement that writes a text as it is. -/
def writeLiteral (compiler : Compiler) (text : String) : RunM Unit :=
  onSink (·.write (compiler.settings.writerName ++ ".write(\"" ++ Text.literal text ++ "\")"))

/-- The scope of a section over a name, seen from the current scope. -/
def scopeOver (compiler : Compiler) (name : String) (inverted : Bool) : RunM Scope := do
  let run ← get
  let entry := run.scope.enter compiler.catalog name inverted
  note (entry.members.map fun member => .memberResolved member.owner.display member.name)
  match entry.outcome with
  | .error failure => throw failure
  | .ok scope => return scope

/-- Write a statement that writes the value of a name. -/
def writeReference (compiler : Compiler) (name : String) (escaped : Bool) : RunM Unit := do
  let scope ← compiler.scopeOver name false
  match scope.writeStatement compiler.catalog compiler.settings escaped with
  | .error failure => throw failure
  | .ok statement => onSink (·.write statement)

/-! ## Yielding -/

/-- Whether a name is the yield marker. -/
def isYield (compiler : Compiler) (name : String) : Bool :=
  compiler.variant.expectsYield && name == compiler.settings.yieldMarker

/-- A layout yields once, and outside of sections. -/
def checkYield : RunM Unit := do
  let run ← get
  if run.foundYield then fail .repeatedYield
  else
    match run.scope.sections with
    | [] => return ()
    | innermost :: _ => fail (.enclosedYield innermost.name)

/-- Turn output off if it is on, and on if it is off. -/
def toggle (compiler : Compiler) (line : Int) : RunM Unit := do
  let run ← get
  let suppressed := !run.sink.suppressed
  set { run with foundYield := true, sink := run.sink.suppress suppressed }
  note [.yieldToggled compiler.variant.name line suppressed]

/-! ## Sections -/

/-- Open a section. -/
def openSection (compiler : Compiler) (name : String) (inverted : Bool) : RunM Unit := do
  let scope ← compiler.scopeOver name inverted
  modify fun run =>
    { run with scope, sink := run.sink.openBlock (scope.header compiler.settings) }
  note [.sectionOpened name inverted scope.depth]

/-- Close the innermost section. -/
def closeSection (name : String) : RunM Unit := do
  let run ← get
  match run.scope.sections with
  | [] => fail (.unopenedSection name)
  | innermost :: outer =>
    if innermost.name != name then fail (.mismatchedSection name innermost.name)
    else
      closeBlock innermost.trailer
      modify fun run => { run with scope := { run.scope with sections := outer } }
      note [.sectionClosed name outer.length]

/-- At the end of a template no section is open. -/
def checkEnd : RunM Unit := do
  let run ← get
  match run.scope.sections with
  | [] => return ()
  | innermost :: _ => fail (.unclosedSection innermost.name)

/-! ## Runs -/

/-- What a token does. -/
def step (compiler : Compiler) (token : Token) : RunM Unit :=
  match token.kind with
  | .text => compiler.writeLiteral token.value
  | .special => do
    compiler.writeLiteral token.value
    if token.value == "\n" then onSink Sink.endLine
  | .reference =>
    if compiler.isYield token.value then do
      checkYield
      fail (.escapedYield compiler.settings.yieldMarker)
    else compiler.writeReference token.value true
  | .rawReference =>
    if compiler.isYield token.value then do
      checkYield
      compiler.toggle token.position.line
    else compiler.writeReference token.value false
  | .sectionOpen => compiler.openSection token.value false
  | .invertedOpen => compiler.openSection token.value true
  | .sectionClose => closeSection token.value
  | .endOfFile => checkEnd

/-- What a token does; a failure is located at the token. -/
def process (compiler : Compiler) (token : Token) : RunM Unit := fun run =>
  match compiler.step token run with
  | .ok () after => .ok () after
  | .error failure after => .error (failure.locate token.position) after

/-- What a token does, after notices are given if it ends the template. -/
def processNoting (compiler : Compiler) (atEnd : List Notice) (token : Token) : RunM Unit := do
  if token.kind = .endOfFile then note atEnd
  compiler.process token

/--
Run over the tokens of a source.  The answer is the place where the template ends.
`atEnd` are notices to be given when the end is reached.
-/
def run (compiler : Compiler) (atEnd : List Notice) (source : String)
    (tokens : TokenStream Failure) : RunM Position := fun start =>
  let mark := start.sink.mark
  let opened :=
    { start with
      foundYield := false
      sink := start.sink.suppress compiler.variant.initiallySuppressed }
  match tokens.feed (compiler.processNoting atEnd) source opened with
  | .error failure after => .error failure { after with sink := after.sink.rollback mark }
  | .ok position after =>
    .ok position { after with sink := after.sink.finish.suppress mark.suppressed }

/-- Run over the text of a template. -/
def runText (compiler : Compiler) (source text : String) : RunM Position :=
  let scan := scan source text
  compiler.run [.templateTokenized source scan.tokens.length] source scan.stream

end Compiler

end TypedMustache
