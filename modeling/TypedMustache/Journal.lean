import TypedMustache.Datum
import TypedMustache.Json.Writer
import TypedMustache.Text.CharacterClass
import TypedMustache.Text.LetterCase
import TypedMustache.Workspace

/-!
# The journal

Every stage of a compilation gives notices on a channel of its own.  A `Journal`
keeps those that its configuration asks for, and adds the fields that are bound
to the current request to each of them.

Notices of the verbosities info, verbose and debug are kept when their channel is
enabled and the level is high enough.  Warnings and errors are kept unless the
level is silent.  What is kept is handed to an output that has a threshold of its
own, which is set by the level too.
-/

namespace TypedMustache

/-- Named values. -/
abbrev Fields := List (String × Datum)

namespace Fields

/-- Set a field: an earlier value is replaced in its place. -/
def put (fields : Fields) (field : String × Datum) : Fields :=
  if fields.any (·.1 == field.1) then
    fields.map fun earlier => if earlier.1 == field.1 then field else earlier
  else fields ++ [field]

/-- Set several fields, later ones over earlier ones. -/
def merge (fields others : Fields) : Fields :=
  others.foldl put fields

/-- The first of some names that a field has. -/
def clash? (fields : Fields) (names : List String) : Option String :=
  (fields.find? fun field => names.contains field.1).map (·.1)

end Fields

namespace Journal

/-! ## Channels and levels -/

/-- The stage that a notice comes from. -/
inductive Channel where
  /-- Variant runs, sections and yields. -/
  | compile
  /-- Members looked up in data classes. -/
  | resolve
  /-- Reading templates. -/
  | tokenize
  /-- Assembling modules. -/
  | codegen
  /-- Failures and status. -/
  | system
deriving DecidableEq, Repr

/-- The word that names a channel. -/
def Channel.label : Channel → String
  | compile => "COMPILE"
  | resolve => "RESOLVE"
  | tokenize => "TOKENIZE"
  | codegen => "CODEGEN"
  | system => "SYSTEM"

/-- All channels, in the order of their labels. -/
def Channel.all : List Channel :=
  [codegen, compile, resolve, system, tokenize]

/-- The channel that a word names, in any case and with white space around it. -/
def Channel.ofWord? (word : String) : Option Channel :=
  let label := String.ofList (Text.upperCase (Text.trim word.toList))
  Channel.all.find? (·.label == label)

/-- The name under which notices of a channel are recorded. -/
def Channel.logger (channel : Channel) : String :=
  "stache." ++ Text.lowerCase channel.label

/-- How much is recorded. -/
inductive Level where
  | silent
  | info
  | verbose
  | debug
deriving DecidableEq, Repr

/-- The word that names a level. -/
def Level.label : Level → String
  | silent => "SILENT"
  | info => "INFO"
  | verbose => "VERBOSE"
  | debug => "DEBUG"

/-- The place of a level among the others. -/
def Level.rank : Level → Nat
  | silent => 0
  | info => 1
  | verbose => 2
  | debug => 3

/-- The level that a word names, in any case; info for every other word. -/
def Level.ofWord (word : String) : Level :=
  let label := String.ofList (Text.upperCase word.toList)
  ([silent, info, verbose, debug].find? (·.label == label)).getD info

/-! ## Notices -/

/-- How important a notice is. -/
inductive Severity where
  | info
  | verbose
  | debug
  | warning
  | error
deriving DecidableEq, Repr

/-- The severity that a word names. -/
def Severity.ofWord? (word : String) : Option Severity :=
  match word with
  | "info" => some info
  | "verbose" => some verbose
  | "debug" => some debug
  | "warning" => some warning
  | "error" => some error
  | _ => none

/-- The word under which a severity is recorded. -/
def Severity.recorded : Severity → String
  | info => "info"
  | verbose | debug => "debug"
  | warning => "warning"
  | error => "error"

/-- The word that tells apart the severities recorded as the same. -/
def Severity.verbosity? : Severity → Option String
  | verbose => some "verbose"
  | debug => some "debug"
  | info | warning | error => none

/-- The level that a notice of a severity needs, for those that channels can hide. -/
def Severity.level? : Severity → Option Level
  | info => some .info
  | verbose => some .verbose
  | debug => some .debug
  | warning | error => none

/-- The weight with which a severity is handed to the output. -/
def Severity.weight : Severity → Nat
  | verbose | debug => 10
  | info => 20
  | warning => 30
  | error => 40

/-- The weight from which on the output takes what it is handed. -/
def Level.threshold : Level → Nat
  | verbose | debug => 10
  | info => 20
  | silent => 60

/-- Something that a stage reports. -/
structure Notice where
  channel : Channel
  severity : Severity
  event : String
  fields : Fields

/-! ## Configuration -/

/-- What is recorded, and how. -/
structure Configuration where
  level : Level
  /-- The form of the records; `json` or a form for people. -/
  format : String
  channels : List Channel

/-- The channels that words name; all channels if no word names one. -/
def channelsOf (words : List String) : List Channel :=
  match Channel.all.filter fun channel =>
      words.any fun word => Channel.ofWord? word == some channel with
  | [] => Channel.all
  | enabled => enabled

/-- What was asked for explicitly; the environment decides about the rest. -/
structure Options where
  level : Option String := none
  format : Option String := none
  channels : Option (List String) := none

/-- The configuration for options in an environment. -/
def Configuration.ofOptions (environment : Environment) (options : Options) : Configuration :=
  { level := .ofWord (options.level.getD ((environment.get? "STACHE_LOG_LEVEL").getD "info"))
    format :=
      match options.format.filter (!·.isEmpty) with
      | some format => format
      | none => (environment.get? "STACHE_LOG_FORMAT").getD "console"
    channels :=
      match options.channels with
      | some words => channelsOf words
      | none =>
        match environment.nonempty? "STACHE_LOG_CHANNELS" with
        | some words => channelsOf (Text.splitString ',' words)
        | none => Channel.all }

/-- Whether a notice is handed to the output. -/
def Configuration.keeps (configuration : Configuration) (notice : Notice) : Bool :=
  match notice.severity.level? with
  | some level =>
    configuration.channels.contains notice.channel && level.rank ≤ configuration.level.rank
  | none => configuration.level != .silent

/-- Whether the output takes a notice that it is handed. -/
def Configuration.takes (configuration : Configuration) (notice : Notice) : Bool :=
  configuration.level.threshold ≤ notice.severity.weight

/-- Whether a notice is recorded. -/
def Configuration.admits (configuration : Configuration) (notice : Notice) : Bool :=
  configuration.keeps notice && configuration.takes notice

/-- The configuration as a record. -/
def Configuration.toDatum (configuration : Configuration) : Datum :=
  .record
    [("level", .text configuration.level.label), ("format", .text configuration.format),
      ("channels", .sequence (configuration.channels.map fun channel => .text channel.label))]

/-! ## Records -/

/-- A notice as it was recorded. -/
structure Record where
  /-- The form it was recorded in. -/
  format : String
  fields : Fields

/-- A field has a name that records keep for themselves. -/
inductive Refusal where
  | reservedField (name : String)
deriving DecidableEq, Repr

/-- The names of fields that notices cannot have. -/
def reservedNames : List String := ["self", "event"]

end Journal

/-- What was recorded so far, and what is bound to the current request. -/
structure Journal where
  configuration : Journal.Configuration
  context : Fields := []
  records : List Journal.Record := []

namespace Journal

/-- The record of a notice; `bound` are fields bound to the one who gives the notice. -/
def record (journal : Journal) (bound : Fields) (notice : Notice) : Record :=
  let verbosity : Fields :=
    match notice.severity.verbosity? with
    | some word => [("verbosity", .text word)]
    | none => []
  let given : Fields :=
    (((Fields.merge [("channel", .text notice.channel.label)] verbosity).merge notice.fields).merge
      journal.context)
  { format := journal.configuration.format
    fields := (bound.merge given).merge
      [("event", .text notice.event), ("level", .text notice.severity.recorded),
        ("logger", .text notice.channel.logger)] }

/-- Record a notice if the configuration asks for it. -/
def emit (journal : Journal) (notice : Notice) : Journal :=
  if journal.configuration.admits notice then
    { journal with records := journal.records ++ [journal.record [] notice] }
  else journal

/-- Record several notices. -/
def emitAll (journal : Journal) (notices : List Notice) : Journal :=
  notices.foldl emit journal

/-- What keeps a notice with freely chosen fields from being given. -/
def refusal? (journal : Journal) (bound : Fields) (notice : Notice) : Option Refusal :=
  let inNotice := (notice.fields.clash? reservedNames).or (bound.clash? ["self"])
  let inRecord :=
    if journal.configuration.keeps notice then
      (journal.context.clash? ("method_name" :: reservedNames)).or <|
        (notice.fields.clash? ["method_name"]).or <|
          if notice.severity.verbosity?.isSome then notice.fields.clash? ["verbosity"] else none
    else none
  (inNotice.or inRecord).map .reservedField

/-- Record a notice with freely chosen fields, some of them bound to the one who gives it. -/
def report (journal : Journal) (bound : Fields) (notice : Notice) : Except Refusal Journal :=
  match journal.refusal? bound notice with
  | some refusal => .error refusal
  | none =>
    .ok <|
      if journal.configuration.admits notice then
        { journal with records := journal.records ++ [journal.record bound notice] }
      else journal

/-- Bind fields to the current request. -/
def bind (journal : Journal) (fields : Fields) : Journal :=
  { journal with context := journal.context.merge fields }

/-- Forget the fields bound to the current request. -/
def clear (journal : Journal) : Journal :=
  { journal with context := [] }

end Journal

/-! ## Printed records -/

namespace Journal.Record

/-- The fields that are printed in places of their own. -/
def placedNames : List String := ["event", "level"]

/-- The value of a field in a form for people. -/
def shown : Datum → String
  | .text value => value
  | other => Json.compact other

/-- The fields of a record in a form for people. -/
def readable (record : Record) : String :=
  let placed := placedNames.filterMap fun name => (record.fields.lookup name).map shown
  let others := record.fields.filter fun field => !placedNames.contains field.1
  Text.join " " (placed ++ others.map fun field => field.1 ++ "=" ++ shown field.2)

/-- A record on one line. -/
def line (record : Record) : String :=
  if record.format == "json" then Json.compact (.record record.fields) else record.readable

end Journal.Record

end TypedMustache
