import TypedMustache.CommandLine.Reading

/-!
# Commands

The program compiles a template, assembles saved compile results into one
module, or shows the tokens of a template.  `Command.parse` reads the command
from the arguments of a call.
-/

namespace TypedMustache

open CommandLine

namespace Command

/-- What a compilation gives. -/
inductive Format where
  /-- A module of generated code. -/
  | code
  /-- A compile result, to be assembled later. -/
  | result
deriving DecidableEq, Repr

/-- How a template is compiled. -/
structure CompileOptions where
  template : String
  /-- The reference to the data class. -/
  model : String
  layout : Bool
  /-- The file to write to. -/
  output : Option String
  format : Format
  /-- The part of the function names that tells templates apart. -/
  label : Option String
  settingsFile : Option String
  logLevel : Option String
  /-- Names of channels with commas between them. -/
  logChannels : Option String
deriving DecidableEq, Repr

/-- How compile results are assembled. -/
structure AssembleOptions where
  results : List String
  /-- The file to write to. -/
  output : Option String
  settingsFile : Option String
deriving DecidableEq, Repr

end Command

/-- What the program is asked to do. -/
inductive Command where
  | showHelp (grammar : Grammar)
  | showVersion
  | compile (options : Command.CompileOptions)
  | assemble (options : Command.AssembleOptions)
  | tokens (template : String)
deriving DecidableEq, Repr

namespace Command

/-! ## Grammars -/

/-- The switch that asks for help. -/
def helpSwitch : Switch :=
  { names := ["-h", "--help"], purpose := "Show this help message and exit"
    takesValue := false, decisive := true }

/-- The switch that asks for the version. -/
def versionSwitch : Switch :=
  { names := ["--version"], purpose := "Show the version and exit"
    takesValue := false, decisive := true }

/-- The switch for the file to write to. -/
def outputSwitch : Switch :=
  { names := ["-o", "--output"], purpose := "Output file path (default: stdout)" }

/-- The switch for the settings file. -/
def settingsSwitch : Switch :=
  { names := ["--config"], purpose := "Settings YAML file (default: ./stache.yaml when present)" }

/-- The names of the two formats. -/
def formatNames : List String := ["module", "json"]

/-- The arguments of a compilation. -/
def compileGrammar : Grammar :=
  { program := "stache compile"
    purpose := "Compile a template"
    switches :=
      [ helpSwitch,
        { names := ["-m", "--model"]
          purpose := "Data type the template binds to, as package.module:ClassName"
          required := true },
        { names := ["--layout"], purpose := "Compile header and footer around the yield marker"
          takesValue := false },
        outputSwitch,
        { names := ["--format"]
          purpose := "Output format: module (default) or json (compile result)"
          choices := formatNames },
        { names := ["--prefix"]
          purpose := "Prefix for generated function names (render_<prefix>...)" },
        settingsSwitch,
        { names := ["--log-level"]
          purpose := "Log verbosity level (default: info, or STACHE_LOG_LEVEL env var)"
          choices := ["silent", "info", "verbose", "debug"] },
        { names := ["--log-channel"]
          purpose := "Comma-separated log channels to show (default: all)" } ]
    operandLabel := "template"
    operands := .one }

/-- The arguments of an assembly. -/
def assembleGrammar : Grammar :=
  { program := "stache assemble"
    purpose := "Build one render module from results saved with --format json"
    switches := [helpSwitch, outputSwitch, settingsSwitch]
    operandLabel := "results"
    operands := .many }

/-- The arguments for showing tokens. -/
def tokensGrammar : Grammar :=
  { program := "stache tokens"
    purpose := "Print the token stream of a template"
    switches := [helpSwitch]
    operandLabel := "template"
    operands := .one }

/-- The arguments of a compilation as options. -/
def ofCompile (reading : Reading) : Command :=
  .compile
    { template := reading.operands.headD ""
      model := (reading.value? "--model").getD ""
      layout := reading.has "--layout"
      output := reading.value? "--output"
      format := if reading.value? "--format" = some "json" then .result else .code
      label := reading.value? "--prefix"
      settingsFile := reading.value? "--config"
      logLevel := reading.value? "--log-level"
      logChannels := reading.value? "--log-channel" }

/-- The arguments of an assembly as options. -/
def ofAssemble (reading : Reading) : Command :=
  .assemble
    { results := reading.operands
      output := reading.value? "--output"
      settingsFile := reading.value? "--config" }

/-- The arguments for showing tokens. -/
def ofTokens (reading : Reading) : Command :=
  .tokens (reading.operands.headD "")

/-- The names of the commands, with their arguments. -/
def table : List (String × Grammar × (Reading → Command)) :=
  [("compile", compileGrammar, ofCompile), ("assemble", assembleGrammar, ofAssemble),
    ("tokens", tokensGrammar, ofTokens)]

/-- The arguments of the program. -/
def mainGrammar : Grammar :=
  { program := "stache"
    purpose := "Compile Mustache templates into typed render functions"
    switches := [helpSwitch, versionSwitch]
    operandLabel := "command"
    operands := .command (table.map (·.1)) }

/-! ## Parsing -/

/-- Arguments that are not accepted. -/
structure Rejection where
  /-- What the arguments should have been. -/
  grammar : Grammar
  complaint : Complaint
deriving DecidableEq, Repr

/-- What an early end of reading means. -/
def ofHalt (grammar : Grammar) : Halt → Except Rejection Command
  | .complaint complaint => .error { grammar, complaint }
  | .decisive switch => if switch = versionSwitch then .ok .showVersion else .ok (.showHelp grammar)

/-- Accept a command if nothing was set aside. -/
def accept (extras : List String) (command : Command) : Except Rejection Command :=
  if extras.isEmpty then .ok command
  else .error { grammar := mainGrammar, complaint := .unrecognized extras }

/-- Read a command from the arguments of a call. -/
def parse (arguments : List String) : Except Rejection Command :=
  match mainGrammar.read arguments with
  | .error halt => ofHalt mainGrammar halt
  | .ok reading =>
    match reading.operands with
    | [] => accept reading.extras (.showHelp mainGrammar)
    | name :: rest =>
      match table.lookup name with
      | none => accept reading.operands (.showHelp mainGrammar)
      | some (grammar, ofReading) =>
        match grammar.read rest with
        | .error halt => ofHalt grammar halt
        | .ok inner => accept (reading.extras ++ inner.extras) (ofReading inner)

end Command

end TypedMustache
