import TypedMustache.Catalog.Reference
import TypedMustache.Command
import TypedMustache.CommandLine.Usage
import TypedMustache.CompileRequest
import TypedMustache.CompileResult.Storage
import TypedMustache.RenderModule
import TypedMustache.Settings.Loading
import TypedMustache.Token.Lexer
import TypedMustache.Worker

/-!
# Carrying out commands

A command reads files and the environment, writes at most one file, prints to
the output and to the error output, and gives notices.  It ends with an exit
code: 0 if all went well, 1 if a template, the settings or a result is faulty,
and 2 if it was not called properly.  Some problems that the author of a
template cannot mend with the template at hand abort the program instead.
-/

namespace TypedMustache.Command

/-- What a command works on. -/
structure Surroundings where
  workspace : Workspace
  environment : Environment
  catalog : Catalog
  /-- The modules that are run when they are imported. -/
  modules : Modules := []
  /-- What YAML texts mean. -/
  reader : Settings.Reader := Yaml.parse
  /-- The name given to a request for a compilation. -/
  requestId : String

/-- Why the program is aborted. -/
inductive Abort where
  | reference (fault : Catalog.ReferenceFault)
  | settings (failure : Settings.LoadFailure)
  | file (problem : Workspace.Problem)
  | compiling (failure : Failure)
deriving DecidableEq, Repr

/-- The abort in words. -/
def Abort.message : Abort → String
  | reference fault => fault.message
  | settings (.refused fault) => (Failure.ofFault fault).format
  | settings .malformed => "the settings file is not YAML"
  | settings .unnamedEntry => "the settings file has an entry without a name"
  | settings (.unreadable problem) => problem.message
  | file problem => problem.message
  | compiling failure => failure.format

/-- What a command has done so far. -/
structure Trace where
  workspace : Workspace
  environment : Environment
  journal : Journal
  /-- What was printed. -/
  output : String := ""
  /-- What was printed to the error output. -/
  errors : String := ""

/-- The work of a command; a command that is carried out has an exit code. -/
abbrev CommandM := EStateM Abort Trace

/-- What a command has done, and its exit code unless the program was aborted. -/
structure Outcome where
  trace : Trace
  exit : Except Abort Nat

/-! ## Steps -/

/-- Print to the output. -/
def print (text : String) : CommandM Unit :=
  modify fun trace => { trace with output := trace.output ++ text }

/-- Print to the error output. -/
def complain (text : String) : CommandM Unit :=
  modify fun trace => { trace with errors := trace.errors ++ text }

/-- Report an error and end with an exit code. -/
def fail (code : Nat) (message : String) : CommandM Nat := do
  complain ("error: " ++ message ++ "\n")
  return code

/-- Give a notice. -/
def notify (notice : Journal.Notice) : CommandM Unit :=
  modify fun trace => { trace with journal := trace.journal.emit notice }

/-- Do what running a module does. -/
def Trace.afterRun (trace : Trace) (module : ModuleRun) : Trace :=
  { trace with
    workspace := module.files trace.workspace
    environment := module.environment trace.environment
    output := trace.output ++ module.output
    errors := trace.errors ++ module.errors }

/-- Run modules one after the other. -/
def runModules (modules : List ModuleRun) : CommandM Unit :=
  modify fun trace => modules.foldl Trace.afterRun trace

/-- Load the settings. -/
def loadSettings (surroundings : Surroundings) (settingsFile : Option String) :
    CommandM (Except Settings.LoadFailure Settings) := do
  let trace ← get
  return Settings.loadWith surroundings.reader trace.workspace trace.environment
    (settingsFile.map .ofString)

theorem loadSettings_apply (surroundings : Surroundings) (settingsFile : Option String)
    (trace : Trace) :
    loadSettings surroundings settingsFile trace =
      .ok (Settings.loadWith surroundings.reader trace.workspace trace.environment
        (settingsFile.map .ofString)) trace := rfl

/-- Read a file. -/
def readFile (path : Path) : CommandM String := do
  match (← get).workspace.read path with
  | .ok text => return text
  | .error problem => throw (.file problem)

/-- Write a file. -/
def writeFile (path : Path) (text : String) : CommandM Unit := do
  match (← get).workspace.write path text with
  | .ok workspace => modify fun trace => { trace with workspace }
  | .error problem => throw (.file problem)

/-- Write a text to a file, or print it if none is named. -/
def deliver (output : Option String) (text : String) : CommandM Unit :=
  match output.filter (!·.isEmpty) with
  | some name => writeFile (.ofString name) text
  | none => print text

/-! ## Compiling -/

/-- The configuration of the journal that is asked for. -/
def CompileOptions.journalOptions (options : CompileOptions) : Journal.Options :=
  { level := options.logLevel
    channels := (options.logChannels.filter (!·.isEmpty)).map (Text.splitString ',') }

/-- The request to compile a template. -/
def CompileOptions.request (options : CompileOptions) (surroundings : Surroundings)
    (dataType : DataType) (text : String) : CompileRequest :=
  { text
    dataType
    source := (Path.ofString options.template).display
    layout := options.layout
    requestId := surroundings.requestId }

/-- Deliver a compile result in the format that is asked for. -/
def CompileOptions.deliverResult (options : CompileOptions) (settings : Settings)
    (result : CompileResult) : CommandM Nat := do
  match options.format with
  | .result => deliver options.output (result.toJson CompileResult.savedIndent)
  | .code =>
    let labels := ((options.label.filter (!·.isEmpty)).map fun label =>
      (result.template, label)).toList
    let code := RenderModule.generate [result] settings labels
    notify (RenderModule.notice [result])
    deliver options.output code
  return 0

/-- Deliver what a compilation comes to, or report what is wrong with the template. -/
def CompileOptions.conclude (options : CompileOptions) (settings : Settings) :
    Except Failure CompileResult → CommandM Nat
  | .error (.diagnosed diagnostic) => fail 1 diagnostic.format
  | .error failure => throw (.compiling failure)
  | .ok result => options.deliverResult settings result

/-- Compile a template against a data class. -/
def compileAgainst (surroundings : Surroundings) (options : CompileOptions) (name : ClassName) :
    CommandM Nat := do
  match ← loadSettings surroundings options.settingsFile with
  | .error (.refused fault) => fail 1 (Failure.ofFault fault).format
  | .error failure => throw (.settings failure)
  | .ok settings =>
    let text ← readFile (.ofString options.template)
    let request := options.request surroundings (.ofClass name) text
    let (journal, result) := request.compileIn (← get).journal surroundings.catalog settings
    modify fun trace => { trace with journal }
    options.conclude settings result

/-- Compile a template. -/
def runCompile (surroundings : Surroundings) (options : CompileOptions) : CommandM Nat := do
  let resolution := surroundings.catalog.resolveReference surroundings.modules options.model
  runModules resolution.runs
  match resolution.outcome with
  | .error fault =>
    if fault.isReported then fail 2 fault.message else throw (.reference fault)
  | .ok name => compileAgainst surroundings options name

/-! ## Assembling -/

/-- The number of different texts in a list. -/
def countDistinct : List String → Nat
  | [] => 0
  | text :: rest => countDistinct rest + if rest.contains text then 0 else 1

/--
The labels under which results are assembled.  Several results are told apart by
the file names of their templates, so these have to be different.
-/
def assemblyLabels? (results : List CompileResult) : Option (List (String × String)) :=
  if results.length ≤ 1 then some []
  else
    let labels := results.map fun result =>
      (result.template, (Path.ofString result.template).stem)
    if countDistinct (labels.map (·.2)) < results.length then none else some labels

/-- Report that a file cannot be read, if it is the system that has a problem with it. -/
def failToRead (problem : Workspace.Problem) : CommandM Nat :=
  if problem.isOfSystem then fail 1 problem.message else throw (.file problem)

/-- Assemble saved results. -/
def runAssemble (surroundings : Surroundings) (options : AssembleOptions) : CommandM Nat := do
  match ← loadSettings surroundings options.settingsFile with
  | .error (.refused fault) => fail 1 (Failure.ofFault fault).format
  | .error (.unreadable problem) => failToRead problem
  | .error failure => throw (.settings failure)
  | .ok settings =>
    match CompileResult.loadAll (← get).workspace (options.results.map .ofString) with
    | .error (.refused fault) => fail 1 (Failure.ofFault fault).format
    | .error (.unreadable problem) => failToRead problem
    | .ok results =>
      match assemblyLabels? results with
      | none => fail 1 "assembled templates must have distinct file names"
      | some labels =>
        let code := RenderModule.generate results settings labels
        notify (RenderModule.notice results)
        deliver options.output code
        return 0

/-! ## Showing tokens -/

/-- Show the tokens of a template, one a line, up to the first fault. -/
def runTokens (template : String) : CommandM Nat := do
  let path := Path.ofString template
  let text ← readFile path
  let scan := scan path.display text
  print (String.join (scan.allTokens.map fun token => token.describe ++ "\n"))
  match scan.diagnostic? with
  | some diagnostic => fail 1 diagnostic.format
  | none =>
    notify (.templateTokenized path.display scan.tokens.length)
    return 0

/-! ## All commands -/

/-- What the journal is asked to record for a command. -/
def journalOptions : Command → Journal.Options
  | compile options => options.journalOptions
  | showHelp _ | showVersion | assemble _ | tokens _ => {}

/-- The files that a command may read or write. -/
def fileNames : Command → List String
  | showHelp _ | showVersion => []
  | compile options =>
    [options.template, options.settingsFile.getD Settings.defaultFile.display]
      ++ options.output.toList
  | assemble options =>
    options.results ++ [options.settingsFile.getD Settings.defaultFile.display]
      ++ options.output.toList
  | tokens template => [template]

/-- The work of a command. -/
def work (surroundings : Surroundings) : Command → CommandM Nat
  | showHelp grammar => do
    print grammar.help
    return 0
  | showVersion => do
    print ("stache " ++ RenderModule.version ++ "\n")
    return 0
  | compile options => runCompile surroundings options
  | assemble options => runAssemble surroundings options
  | tokens template => runTokens template

/-- What there is before a command has done anything. -/
def Surroundings.trace (surroundings : Surroundings) (options : Journal.Options) : Trace :=
  { workspace := surroundings.workspace
    environment := surroundings.environment
    journal := { configuration := .ofOptions surroundings.environment options } }

/-- Carry out a command. -/
def run (command : Command) (surroundings : Surroundings) : Outcome :=
  match command.work surroundings (surroundings.trace command.journalOptions) with
  | .ok code trace => { trace, exit := .ok code }
  | .error abort trace => { trace, exit := .error abort }

/-- Call the program with arguments. -/
def call (arguments : List String) (surroundings : Surroundings) : Outcome :=
  match parse arguments with
  | .ok command => command.run surroundings
  | .error rejection =>
    { trace :=
        { surroundings.trace {} with
          errors := rejection.grammar.refusal rejection.complaint }
      exit := .ok 2 }

end TypedMustache.Command
