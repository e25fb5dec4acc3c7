import TypedMustache.Compilation
import TypedMustache.CompileResult

/-!
# Compile requests

A request asks for a template to be compiled against a data type.  A plain
template is compiled once.  A layout is compiled twice, for its header and for
its footer; unless the settings say otherwise it has to yield.

The variants are run one after the other, each over the whole text and into the
same sink, which is drained between them.  The first failure ends the request.
-/

namespace TypedMustache

open Journal (Notice)

/-- A template to be compiled against a data type. -/
structure CompileRequest where
  text : String
  dataType : DataType
  source : String := "<template>"
  layout : Bool := false
  requestId : String

/-- What came of a request, and the notices given on the way. -/
structure CompileOutcome where
  notices : List Notice
  result : Except Failure CompileResult

namespace CompileRequest

/-- The variants that a request needs. -/
def variants (request : CompileRequest) : List Variant :=
  if request.layout then [.header, .footer] else [.full]

/-- What came of one variant; `ε` are the reasons for which it can fail. -/
structure VariantOutcome (ε : Type) where
  sink : Sink
  notices : List Notice
  foundYield : Except ε Bool

/-- Run one variant. -/
def runVariant (request : CompileRequest) (catalog : Catalog) (settings : Settings)
    (sink : Sink) (variant : Variant) : VariantOutcome Failure :=
  let compiler : Compiler := { catalog, settings, variant }
  match compiler.runText request.source request.text (.start request.dataType sink) with
  | .error failure run => { sink := run.sink, notices := run.notices, foundYield := .error failure }
  | .ok stop run =>
    let foundYield :=
      if variant.expectsYield && !run.foundYield && settings.requireYield then
        .error <| .diagnosed
          { fault := .missingYield settings.yieldMarker, position := some stop }
      else .ok run.foundYield
    { sink := run.sink, notices := run.notices, foundYield }

/-- The number of line feeds in a text. -/
def countLines (text : String) : Nat :=
  text.toList.count '\n'

/-- The fragment that a variant came to. -/
abbrev VariantOutcome.fragment {ε : Type} (outcome : VariantOutcome ε) (variant : Variant)
    (foundYield : Bool) : Fragment :=
  { variant := variant.name, code := outcome.sink.value, foundYield }

/-- The notice given when a fragment is complete. -/
abbrev compiledNotice (fragment : Fragment) : Notice :=
  .variantCompiled fragment.variant
    [("lines", .integer (countLines fragment.code)), ("found_yield", .boolean fragment.foundYield)]

/-- What came of several variants. -/
structure VariantsOutcome where
  notices : List Notice
  fragments : Except Failure (List Fragment)

/-- Run variants one after the other into a sink, up to the first failure. -/
def runVariants (request : CompileRequest) (catalog : Catalog) (settings : Settings) :
    Sink → List Variant → VariantsOutcome
  | _, [] => { notices := [], fragments := .ok [] }
  | sink, variant :: rest =>
    let outcome := request.runVariant catalog settings sink variant
    let begun := Notice.variantStarted variant.name :: outcome.notices
    match outcome.foundYield with
    | .error failure =>
      { notices := begun ++ [.variantFailed variant.name failure.format failure.label]
        fragments := .error failure }
    | .ok foundYield =>
      let fragment := outcome.fragment variant foundYield
      let later := request.runVariants catalog settings outcome.sink.drained rest
      { notices := begun ++ compiledNotice fragment :: later.notices
        fragments := later.fragments.map (fragment :: ·) }

/-- The notice given when all fragments of a request are complete. -/
abbrev completeNotice (request : CompileRequest) (fragments : List Fragment) : Notice :=
  .compileComplete [("variants", .integer fragments.length), ("layout", .boolean request.layout)]

/-- The result of a request with its fragments. -/
abbrev resultOf (request : CompileRequest) (fragments : List Fragment) : CompileResult :=
  { requestId := request.requestId
    template := request.source
    dataModule := request.dataType.moduleName
    dataName := request.dataType.qualifiedName
    layout := request.layout
    fragments }

/-- Carry out a request. -/
def compile (request : CompileRequest) (catalog : Catalog) (settings : Settings) :
    CompileOutcome :=
  let outcome :=
    request.runVariants catalog settings (.fresh settings.indent 1) request.variants
  match outcome.fragments with
  | .error failure => { notices := outcome.notices, result := .error failure }
  | .ok fragments =>
    { notices := outcome.notices ++ [request.completeNotice fragments]
      result := .ok (request.resultOf fragments) }

end CompileRequest

end TypedMustache
