import TypedMustache.CompileRequest

/-!
# Carrying out requests while a journal is kept

A `Worker` carries out compile requests.  While it works on one, the id of the
request and the name of its template are bound in the journal, and every stage
records its notices as it goes.  What is bound is forgotten after the report of a
failed variant, after the last variant, and in any case when the worker is done
with the request, whichever way it ends.

How a variant is run is left open, and so is what can go wrong on the way: names
may be resolved in a catalog, or by other means that fail for reasons of their
own, which may not even be fit to be reported.  `Worker.ofCatalog` is the worker
that compiles with a catalog.
-/

namespace TypedMustache

open Journal (Notice)

/-- Work for which a journal is kept; what was recorded before a failure stays. -/
abbrev RecordM (ε : Type) := EStateM ε Journal

namespace RecordM

variable {ε : Type}

/-- Record notices. -/
def tell (notices : List Notice) : RecordM ε Unit :=
  modify (·.emitAll notices)

/-- Bind fields to the current request. -/
def bindFields (fields : Fields) : RecordM ε Unit :=
  modify (·.bind fields)

/-- Forget the fields bound to the current request. -/
def forget : RecordM ε Unit :=
  modify (·.clear)

end RecordM

/-- The fields that tell the notices of a request from those of others. -/
def CompileRequest.boundFields (request : CompileRequest) : Fields :=
  [("request_id", .text request.requestId), ("template", .text request.source)]

/-- What carries out requests; `ε` are the reasons for which it can fail. -/
structure Worker (ε : Type) where
  /-- One level of indentation of the code. -/
  indent : String
  /-- Run a variant of a request into a sink. -/
  runVariant : CompileRequest → Sink → Variant → CompileRequest.VariantOutcome ε
  /-- The words for a failure and its class, or what the work ends with instead of a report. -/
  describe : ε → Except ε (String × String)

namespace Worker

open RecordM

/-- The worker that compiles with the classes of a catalog. -/
def ofCatalog (catalog : Catalog) (settings : Settings) : Worker Failure :=
  { indent := settings.indent
    runVariant := fun request => request.runVariant catalog settings
    describe := fun failure => .ok (failure.format, failure.label) }

variable {ε : Type}

/-- Run a variant; it gives its notices before it ends or fails. -/
def perform (worker : Worker ε) (request : CompileRequest) (sink : Sink) (variant : Variant) :
    RecordM ε (Sink × Fragment) := do
  let outcome := worker.runVariant request sink variant
  tell outcome.notices
  match outcome.foundYield with
  | .error failure => throw failure
  | .ok foundYield => return (outcome.sink.drained, outcome.fragment variant foundYield)

/-- Report that a variant failed. -/
def reportFailure (worker : Worker ε) (variant : Variant) (failure : ε) : RecordM ε Unit :=
  match worker.describe failure with
  | .error other => throw other
  | .ok (message, kind) => do
    tell [.variantFailed variant.name message kind]
    forget

/-- Compile a variant, and report how it went. -/
def compileVariant (worker : Worker ε) (request : CompileRequest) (sink : Sink)
    (variant : Variant) : RecordM ε (Sink × Fragment) := do
  tell [.variantStarted variant.name]
  let done ← tryCatch (worker.perform request sink variant) fun failure => do
    worker.reportFailure variant failure
    throw failure
  tell [CompileRequest.compiledNotice done.2]
  return done

/-- Compile variants one after the other, up to the first failure. -/
def compileVariants (worker : Worker ε) (request : CompileRequest) :
    Sink → List Variant → RecordM ε (List Fragment)
  | _, [] => return []
  | sink, variant :: rest => do
    let (drained, fragment) ← worker.compileVariant request sink variant
    let later ← worker.compileVariants request drained rest
    return fragment :: later

/-- Compile all variants of a request, and report that they are complete. -/
def compileAll (worker : Worker ε) (request : CompileRequest) : RecordM ε (List Fragment) := do
  let fragments ← worker.compileVariants request (.fresh worker.indent 1) request.variants
  tell [request.completeNotice fragments]
  forget
  return fragments

/-- Carry out a request. -/
def compile (worker : Worker ε) (request : CompileRequest) : RecordM ε CompileResult := do
  bindFields request.boundFields
  let fragments ← tryFinally (worker.compileAll request) forget
  return request.resultOf fragments

/-- The journal after a request, and what came of it. -/
def carryOut (worker : Worker ε) (request : CompileRequest) (journal : Journal) :
    Journal × Except ε CompileResult :=
  match worker.compile request journal with
  | .ok result after => (after, .ok result)
  | .error failure after => (after, .error failure)

end Worker

/-- Carry out a request, and record its notices in a journal. -/
def CompileRequest.compileIn (request : CompileRequest) (journal : Journal) (catalog : Catalog)
    (settings : Settings) : Journal × Except Failure CompileResult :=
  (Worker.ofCatalog catalog settings).carryOut request journal

end TypedMustache
