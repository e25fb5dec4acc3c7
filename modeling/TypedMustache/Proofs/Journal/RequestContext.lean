import TypedMustache.Proofs.Attempt
import TypedMustache.Proofs.Journal.Records
import TypedMustache.Worker

/-!
# What is bound to a request stays with it

While a worker carries out a request, the journal adds the id of the request and
the name of its template to everything that is recorded.  These fields are bound
in one place and forgotten in three, and what is recorded comes from every stage
of the work, up to a failure that nothing is known about.

An `Account` is what a worker says and comes to when no journal is kept.
`RecordM.Gives` relates work in a journal to its account, one part of the work
after the other.  It follows that a request leaves a journal with the records of
its own account and with nothing bound, and by induction that the records of
requests that are carried out one after the other are those of each of them
alone.  Nothing is assumed about the workers.
-/

namespace TypedMustache

/-! ## Accounts -/

open Journal (Notice)

/-- What some work says on the way, and what it comes to. -/
structure Account (ε α : Type) where
  notices : List Notice
  answer : Except ε α

/-- The account of work that goes on where other work ended. -/
def Account.bind {ε α β : Type} (account : Account ε α) (next : α → Account ε β) : Account ε β :=
  match account.answer with
  | .error failure => { notices := account.notices, answer := .error failure }
  | .ok answer =>
    { notices := account.notices ++ (next answer).notices, answer := (next answer).answer }

namespace RecordM

variable {ε α β : Type}

@[simp]
theorem tell_apply (notices : List Notice) (journal : Journal) :
    (tell notices : RecordM ε Unit) journal = .ok () (journal.emitAll notices) := rfl

@[simp]
theorem bindFields_apply (fields : Fields) (journal : Journal) :
    (bindFields fields : RecordM ε Unit) journal = .ok () (journal.bind fields) := rfl

@[simp]
theorem forget_apply (journal : Journal) :
    (forget : RecordM ε Unit) journal = .ok () journal.clear := rfl

/-- A failure is handled in the journal that the work left behind. -/
@[simp]
theorem tryCatch_apply (work : RecordM ε α) (handle : ε → RecordM ε α) (journal : Journal) :
    tryCatch work handle journal =
      match work journal with
      | .ok answer after => .ok answer after
      | .error failure after => handle failure after := by
  change EStateM.tryCatch work handle journal = _
  rw [EStateM.tryCatch]
  cases work journal <;> rfl

/-- What is bound is forgotten whichever way the work ended. -/
@[simp]
theorem tryFinally_forget_apply (work : RecordM ε α) (journal : Journal) :
    tryFinally work forget journal =
      match work journal with
      | .ok answer after => .ok answer after.clear
      | .error failure after => .error failure after.clear := by
  change (Prod.fst <$> (tryFinally' work fun _ => forget : RecordM ε (α × Unit))) journal = _
  rw [Attempt.map_apply]
  cases done : work journal with
  | ok answer after =>
      simp [tryFinally', done]
  | error failure after =>
      simp [tryFinally', done]

/--
In every journal, work gives the notices of an account and comes to its answer.
Where it fails, it may have forgotten what was bound.
-/
def Gives (work : RecordM ε α) : Account ε α → Prop
  | ⟨notices, .ok answer⟩ => ∀ journal, work journal = .ok answer (journal.emitAll notices)
  | ⟨notices, .error failure⟩ =>
    ∀ journal, ∃ after, work journal = .error failure after ∧
      after.clear = (journal.emitAll notices).clear

theorem gives_pure (answer : α) :
    Gives (pure answer : RecordM ε α) { notices := [], answer := .ok answer } :=
  fun _ => rfl

theorem Gives.bind
    {work : RecordM ε α} {next : α → RecordM ε β}
    {account : Account ε α} {later : α → Account ε β}
    (first : Gives work account) (second : ∀ answer, Gives (next answer) (later answer)) :
    Gives (work >>= next) (account.bind later) := by
  rcases account with ⟨notices, failure | answer⟩
  · intro journal
    rcases first journal with ⟨after, failed, cleared⟩
    refine ⟨after, ?_, cleared⟩
    rw [Attempt.bind_apply, failed]
  · have goesOn (journal : Journal) :
        (work >>= next) journal = next answer (journal.emitAll notices) := by
      rw [Attempt.bind_apply, first journal]
    have second := second answer
    cases reached : later answer with
    | mk said result =>
        rw [reached] at second
        simp only [Account.bind, reached]
        cases result with
        | error failure =>
            intro journal
            rw [goesOn, Journal.emitAll_append]
            exact second _
        | ok answer =>
            intro journal
            rw [goesOn, Journal.emitAll_append]
            exact second _

end RecordM

namespace Worker

open RecordM

variable {ε : Type} (worker : Worker ε) (request : CompileRequest)

/-- What a worker says and comes to on a variant. -/
def variantAccount (sink : Sink) (variant : Variant) : Account ε (Sink × Fragment) :=
  let outcome := worker.runVariant request sink variant
  let begun := Notice.variantStarted variant.name :: outcome.notices
  match outcome.foundYield with
  | .ok foundYield =>
    let fragment := outcome.fragment variant foundYield
    { notices := begun ++ [CompileRequest.compiledNotice fragment]
      answer := .ok (outcome.sink.drained, fragment) }
  | .error failure =>
    match worker.describe failure with
    | .ok (message, kind) =>
      { notices := begun ++ [.variantFailed variant.name message kind], answer := .error failure }
    | .error other => { notices := begun, answer := .error other }

/-- What a worker says and comes to on variants one after the other. -/
def variantsAccount : Sink → List Variant → Account ε (List Fragment)
  | _, [] => { notices := [], answer := .ok [] }
  | sink, variant :: rest =>
    (worker.variantAccount request sink variant).bind fun done =>
      (variantsAccount done.1 rest).bind fun later =>
        { notices := [], answer := .ok (done.2 :: later) }

/-- What a worker says and comes to on a request. -/
def account : Account ε CompileResult :=
  (worker.variantsAccount request (.fresh worker.indent 1) request.variants).bind fun fragments =>
    { notices := [request.completeNotice fragments], answer := .ok (request.resultOf fragments) }

theorem gives_compileVariant (sink : Sink) (variant : Variant) :
    Gives (worker.compileVariant request sink variant)
      (worker.variantAccount request sink variant) := by
  cases ended : (worker.runVariant request sink variant).foundYield with
  | ok foundYield =>
      simp only [variantAccount, ended]
      intro journal
      simp [compileVariant, perform, ended]
  | error failure =>
      cases described : worker.describe failure with
      | ok report =>
          simp only [variantAccount, ended, described]
          intro journal
          simp [compileVariant, perform, reportFailure, ended, described, Journal.clear_clear]
      | error other =>
          simp only [variantAccount, ended, described]
          intro journal
          simp [compileVariant, perform, reportFailure, ended, described]

theorem gives_compileVariants (sink : Sink) (variants : List Variant) :
    Gives (worker.compileVariants request sink variants)
      (worker.variantsAccount request sink variants) := by
  induction variants generalizing sink with
  | nil =>
      exact gives_pure []
  | cons variant rest ih =>
      apply (worker.gives_compileVariant request sink variant).bind
      intro done
      apply (ih done.1).bind
      intro later
      exact gives_pure _

/-- A request records its account with what is bound to it, and leaves nothing bound. -/
theorem carryOut_eq (journal : Journal) :
    worker.carryOut request journal =
      (((journal.bind request.boundFields).emitAll (worker.account request).notices).clear,
        (worker.account request).answer) := by
  have all := worker.gives_compileVariants request (.fresh worker.indent 1) request.variants
  unfold carryOut compile compileAll account Account.bind
  cases reached : worker.variantsAccount request (.fresh worker.indent 1) request.variants with
  | mk notices answer =>
      rw [reached] at all
      cases answer with
      | ok fragments =>
          simp [all _, Journal.clear_clear]
      | error failure =>
          rcases all (journal.bind request.boundFields) with ⟨after, failed, cleared⟩
          simp [failed, cleared]

theorem variantsAccount_ofCatalog
    (catalog : Catalog) (settings : Settings) (sink : Sink) (variants : List Variant) :
    (ofCatalog catalog settings).variantsAccount request sink variants =
      { notices := (request.runVariants catalog settings sink variants).notices
        answer := (request.runVariants catalog settings sink variants).fragments } := by
  induction variants generalizing sink with
  | nil =>
      rfl
  | cons variant rest ih =>
      have runs :
          (ofCatalog catalog settings).runVariant request sink variant =
            request.runVariant catalog settings sink variant := rfl
      rw [variantsAccount, variantAccount, CompileRequest.runVariants, runs]
      cases ended : (request.runVariant catalog settings sink variant).foundYield with
      | error failure =>
          rfl
      | ok foundYield =>
          simp only [Account.bind, ih]
          cases later : (request.runVariants catalog settings
              (request.runVariant catalog settings sink variant).sink.drained rest).fragments with
          | error failure =>
              simp [Except.map]
          | ok fragments =>
              simp [Except.map]

/-- The account of the worker with a catalog is what compiling comes to. -/
theorem account_ofCatalog (catalog : Catalog) (settings : Settings) :
    (ofCatalog catalog settings).account request =
      { notices := (request.compile catalog settings).notices
        answer := (request.compile catalog settings).result } := by
  have same : (ofCatalog catalog settings).indent = settings.indent := rfl
  rw [account, variantsAccount_ofCatalog, Account.bind, CompileRequest.compile, same]
  cases (request.runVariants catalog settings (.fresh settings.indent 1)
      request.variants).fragments with
  | error failure =>
      rfl
  | ok fragments =>
      rfl

end Worker

/-! ## Requests one after the other -/

/-- A request, and the worker that carries it out. -/
structure Assignment where
  {ε : Type}
  worker : Worker ε
  request : CompileRequest

namespace Assignment

variable (assignment : Assignment)

/-- A journal after the request was carried out, whichever way that ended. -/
def carriedOut (journal : Journal) : Journal :=
  (assignment.worker.carryOut assignment.request journal).1

/-- What the request alone has recorded under a configuration. -/
def records (configuration : Journal.Configuration) : List Journal.Record :=
  configuration.recordsOf assignment.request.boundFields
    (assignment.worker.account assignment.request).notices

/-- A request adds its own records to a journal in which nothing is bound. -/
theorem carriedOut_eq {journal : Journal} (unbound : journal.context = []) :
    assignment.carriedOut journal =
      { journal with
        records := journal.records ++ assignment.records journal.configuration } := by
  have bound : Fields.merge [] assignment.request.boundFields = assignment.request.boundFields :=
    rfl
  rw [carriedOut, Worker.carryOut_eq, Journal.emitAll_eq, Journal.bind, unbound, bound]
  simp [Journal.clear, records]

end Assignment

namespace Journal

/-- A record carries what is bound to a request, and gives no name to two fields. -/
structure Record.BelongsTo (record : Record) (request : CompileRequest) : Prop where
  requestId : record.fields.lookup "request_id" = some (.text request.requestId)
  template : record.fields.lookup "template" = some (.text request.source)
  distinct : (record.fields.map (·.1)).Nodup

theorem belongsTo_of_mem_recordsOf
    {configuration : Configuration} {request : CompileRequest} {notices : List Notice}
    {record : Record} (member : record ∈ configuration.recordsOf request.boundFields notices) :
    record.BelongsTo request := by
  rcases List.mem_map.mp member with ⟨notice, -, rfl⟩
  constructor
  · rw [lookup_record _ _ (by decide)]
    rfl
  · rw [lookup_record _ _ (by decide)]
    rfl
  · apply Fields.nodup_merge
    exact Fields.nodup_merge _ List.nodup_nil

/-- The journal after requests were carried out one after the other. -/
def afterAll (journal : Journal) (assignments : List Assignment) : Journal :=
  assignments.foldl (fun reached assignment => assignment.carriedOut reached) journal

/-- What is recorded for requests is what is recorded for each of them alone. -/
theorem afterAll_eq
    {journal : Journal} (assignments : List Assignment) (unbound : journal.context = []) :
    journal.afterAll assignments =
      { journal with
        records := journal.records ++
          assignments.flatMap (·.records journal.configuration) } := by
  unfold afterAll
  induction assignments generalizing journal with
  | nil =>
      simp
  | cons assignment rest ih =>
      rw [List.foldl_cons, assignment.carriedOut_eq unbound, ih]
      · simp
      · exact unbound

/--
If nothing is bound at first, nothing is bound after each of several requests,
and what a request adds to the journal carries its id and the name of its
template, whatever was carried out before it and however it ends.
-/
theorem belongsTo_of_afterAll
    {journal : Journal} (unbound : journal.context = [])
    (earlier : List Assignment) (assignment : Assignment) :
    (journal.afterAll (earlier ++ [assignment])).context = [] ∧
      (journal.afterAll (earlier ++ [assignment])).records =
        (journal.afterAll earlier).records ++ assignment.records journal.configuration ∧
      ∀ record ∈ assignment.records journal.configuration,
        record.BelongsTo assignment.request := by
  rw [afterAll_eq _ unbound, afterAll_eq _ unbound]
  refine ⟨unbound, ?_, ?_⟩
  · simp
  · intro record member
    exact belongsTo_of_mem_recordsOf member

/-- A journal in which everything is recorded. -/
def ofAll : Journal :=
  { configuration := { level := .debug, format := "json", channels := Channel.all } }

/-- A request that ends with a failure that cannot be reported, after a name was looked up. -/
def brokenOff : Assignment :=
  { worker :=
      { indent := "    "
        runVariant := fun _ sink _ =>
          { sink, notices := [.memberResolved "Page" "title"], foundYield := .error "broken off" }
        describe := .error }
    request :=
      { text := "{{title}}", dataType := .ofClass (.builtin "str"), requestId := "first" } }

/-- A layout that never yields. -/
def unyielding : Assignment :=
  { worker := .ofCatalog .empty {}
    request :=
      { text := "x", dataType := .ofClass (.builtin "str"), source := "page", layout := true
        requestId := "second" } }

theorem belongsTo_of_afterAll_unyielding :
    ofAll.context = [] ∧
      (unyielding.records ofAll.configuration).length = 3 ∧
      (ofAll.afterAll ([brokenOff] ++ [unyielding])).context = [] ∧
      (ofAll.afterAll ([brokenOff] ++ [unyielding])).records =
        (ofAll.afterAll [brokenOff]).records ++ unyielding.records ofAll.configuration ∧
      ∀ record ∈ unyielding.records ofAll.configuration,
        record.BelongsTo unyielding.request := by
  have recorded : (unyielding.records ofAll.configuration).length = 3 := by
    decide +kernel
  exact ⟨rfl, recorded, belongsTo_of_afterAll rfl [brokenOff] unyielding⟩

end Journal

end TypedMustache
