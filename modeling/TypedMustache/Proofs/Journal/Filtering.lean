import TypedMustache.Proofs.Compilation.RunChange
import TypedMustache.Proofs.Journal.RequestContext

/-!
# A configuration only filters what is recorded

A journal is configured by a level and a set of channels, and every stage of a
compilation gives its notices in the middle of its work.  What comes of a request
is nevertheless the same under every configuration.  Its records are those of the
configuration that asks for everything, less the ones that were not asked for.

`Configuration.wants` says which ones were asked for.  It reads nothing but what
is written in a record, so that it can be applied to records that were made under
another configuration.  That a record says there what its notice was about rests
on `isOrdinary_of_mem_compile`: no notice of a compilation has a field that would
hide its channel or its verbosity.
-/

namespace TypedMustache

namespace Journal

/-! ## Reading records -/

namespace Record

variable (record : Record)

/-- The text that a record has under a name. -/
def word? (name : String) : Option String :=
  match record.fields.lookup name with
  | some (.text word) => some word
  | _ => none

/-- The channel that a record names. -/
def channel? : Option Channel :=
  Channel.all.find? fun channel => record.word? "channel" == some channel.label

/-- The level that a record belongs to; none for those that are no matter of a level. -/
def level? : Option Level :=
  match record.word? "level", record.word? "verbosity" with
  | some "info", _ => some .info
  | some "debug", some "verbose" => some .verbose
  | some "debug", some "debug" => some .debug
  | _, _ => none

/-- Whether a record is a warning or an error. -/
def isAlarm : Bool :=
  record.word? "level" == some "warning" || record.word? "level" == some "error"

end Record

namespace Configuration

variable (configuration : Configuration)

/--
Whether a record is asked for.  Warnings and errors are unless the level is
silent, and others if their channel is enabled and their level is not too high.
-/
def wants (record : Record) : Bool :=
  if record.isAlarm then configuration.level != .silent
  else
    match record.channel?, record.level? with
    | some channel, some level =>
      configuration.channels.contains channel && level.rank ≤ configuration.level.rank
    | _, _ => false

/-- The configuration that asks for everything, in the same form. -/
def asksForAll : Configuration :=
  { configuration with level := .debug, channels := Channel.all }

/-- The output takes everything that it is handed. -/
theorem takes_of_keeps {notice : Notice} (kept : configuration.keeps notice = true) :
    configuration.takes notice = true := by
  unfold keeps at kept
  unfold takes
  generalize notice.severity = severity at kept ⊢
  generalize configuration.level = level at kept ⊢
  cases severity <;> cases level <;>
    simp_all [Severity.level?, Severity.weight, Level.threshold, Level.rank]

theorem admits_eq_keeps (notice : Notice) :
    configuration.admits notice = configuration.keeps notice := by
  unfold admits
  cases kept : configuration.keeps notice with
  | true =>
      rw [configuration.takes_of_keeps kept, Bool.and_true]
  | false =>
      rw [Bool.false_and]

theorem admits_asksForAll (notice : Notice) : configuration.asksForAll.admits notice = true := by
  rw [admits_eq_keeps]
  unfold keeps asksForAll
  generalize notice.severity = severity
  generalize notice.channel = channel
  cases severity <;> cases channel <;> rfl

end Configuration

/-! ## Records of ordinary notices -/

variable (configuration : Configuration) (request : CompileRequest) {notice : Notice}

/-- The record of a notice that is given for a request. -/
abbrev recordFor (notice : Notice) : Record :=
  record { configuration, context := request.boundFields } [] notice

theorem lookup_recordFor
    (ordinary : notice.IsOrdinary) {name : String} (own : name ∈ ["channel", "verbosity"]) :
    (recordFor configuration request notice).fields.lookup name = notice.ownFields.lookup name := by
  have silent : notice.fields.reverse.lookup name = none := by
    rw [List.lookup_eq_none_iff]
    intro field member
    have other := ordinary field (List.mem_reverse.mp member)
    rw [bne_iff_ne]
    rintro rfl
    exact other own
  have fixed :
      request.boundFields.reverse.lookup name = none ∧ name ∉ ["event", "level", "logger"] := by
    rcases List.mem_pair.mp own with rfl | rfl
    · exact ⟨rfl, by decide⟩
    · exact ⟨rfl, by decide⟩
  rw [lookup_record _ _ fixed.2, fixed.1, silent, Option.none_or, Option.none_or]

theorem word?_channel (ordinary : notice.IsOrdinary) :
    (recordFor configuration request notice).word? "channel" = some notice.channel.label := by
  rw [Record.word?, lookup_recordFor configuration request ordinary (by decide),
    Notice.ownFields, Fields.lookup_merge]
  cases notice.severity <;> rfl

theorem word?_verbosity (ordinary : notice.IsOrdinary) :
    (recordFor configuration request notice).word? "verbosity" = notice.severity.verbosity? := by
  rw [Record.word?, lookup_recordFor configuration request ordinary (by decide),
    Notice.ownFields, Fields.lookup_merge]
  cases notice.severity <;> rfl

theorem word?_level :
    (recordFor configuration request notice).word? "level" = some notice.severity.recorded := by
  rw [Record.word?, recordFor, record, Fields.lookup_merge]
  rfl

/-- A record tells which severity its notice had. -/
theorem isAlarm_recordFor :
    (recordFor configuration request notice).isAlarm = notice.severity.level?.isNone := by
  rw [Record.isAlarm, word?_level]
  cases notice.severity <;> rfl

theorem level?_recordFor (ordinary : notice.IsOrdinary) :
    (recordFor configuration request notice).level? = notice.severity.level? := by
  rw [Record.level?, word?_level, word?_verbosity configuration request ordinary]
  cases notice.severity <;> rfl

/-- A record tells which channel its notice came from. -/
theorem channel?_recordFor (ordinary : notice.IsOrdinary) :
    (recordFor configuration request notice).channel? = some notice.channel := by
  rw [Record.channel?, word?_channel configuration request ordinary]
  cases notice.channel <;> rfl

/-- Whether a record is asked for can be told from the record. -/
theorem wants_recordFor (ordinary : notice.IsOrdinary) (other : Configuration) :
    other.wants (recordFor configuration request notice) = other.keeps notice := by
  rw [Configuration.wants, Configuration.keeps, isAlarm_recordFor,
    channel?_recordFor configuration request ordinary,
    level?_recordFor configuration request ordinary]
  cases notice.severity.level? with
  | none =>
      rfl
  | some level =>
      rfl

/-- Of the records of everything, those that were asked for are the records of a configuration. -/
theorem recordsOf_eq_filter
    {notices : List Notice} (ordinary : ∀ notice ∈ notices, notice.IsOrdinary) :
    configuration.recordsOf request.boundFields notices =
      (configuration.asksForAll.recordsOf request.boundFields notices).filter
        configuration.wants := by
  have everything : notices.filter configuration.asksForAll.admits = notices := by
    rw [List.filter_eq_self]
    intro notice _
    exact configuration.admits_asksForAll notice
  rw [Configuration.recordsOf, Configuration.recordsOf, everything, List.filter_map]
  have same :
      notices.filter configuration.admits =
        notices.filter
          (configuration.wants ∘ recordFor configuration.asksForAll request) := by
    apply List.filter_congr
    intro notice member
    rw [Function.comp_apply, wants_recordFor _ request (ordinary notice member),
      configuration.admits_eq_keeps]
  rw [same]
  rfl

end Journal

/-! ## The notices of a compilation -/

namespace Run

/-- A later state has nothing but ordinary notices if an earlier one has. -/
def KeepsOrdinary (earlier later : Run) : Prop :=
  (∀ notice ∈ earlier.notices, notice.IsOrdinary) → ∀ notice ∈ later.notices, notice.IsOrdinary

instance : Std.Refl KeepsOrdinary :=
  ⟨fun _ ordinary => ordinary⟩

instance : IsTrans Run KeepsOrdinary :=
  ⟨fun _ _ _ earlier later ordinary => later (earlier ordinary)⟩

theorem keepsOrdinary_of_change
    {run after : Run} (changed : Change Journal.Notice.IsOrdinary run after) :
    KeepsOrdinary run after := by
  intro ordinary
  cases changed with
  | note notices fit =>
      intro notice member
      rcases List.mem_append.mp member with earlier | later
      · exact ordinary notice earlier
      · exact fit notice later
  | write | endLine | toggle | openBlock | closeBlock | leave =>
      exact ordinary

end Run

namespace Compiler

open Run

theorem keepsOrdinary_processNoting
    (compiler : Compiler) (source : String) (tokens : Nat) (token : Token) :
    Relates KeepsOrdinary
      (compiler.processNoting [.templateTokenized source tokens] token) := by
  apply Relates.of_proceeds fun _ _ => keepsOrdinary_of_change
  apply compiler.proceeds_processNoting fun _ ordinary => ordinary
  intro notice member
  rw [List.mem_singleton.mp member]
  exact Journal.Notice.isOrdinary_templateTokenized source tokens

/-- A run over a text gives ordinary notices only, however it ends. -/
theorem keepsOrdinary_runText (compiler : Compiler) (source text : String) :
    Relates KeepsOrdinary (compiler.runText source text) := by
  intro start
  have fed := relates_feedFrom
    (compiler.keepsOrdinary_processNoting source (scan source text).tokens.length)
    source (scan source text).stream none
    { start with
      foundYield := false
      sink := start.sink.suppress compiler.variant.initiallySuppressed }
  unfold runText run TokenStream.feed
  dsimp only
  split
  · rename_i failure after broke
    rw [broke] at fed
    exact fed
  · rename_i position after done
    rw [done] at fed
    exact fed

end Compiler

namespace CompileRequest

variable (request : CompileRequest) (catalog : Catalog) (settings : Settings)

theorem isOrdinary_of_mem_runVariant (sink : Sink) (variant : Variant) :
    ∀ notice ∈ (request.runVariant catalog settings sink variant).notices,
      notice.IsOrdinary := by
  have ordinary :=
    Compiler.keepsOrdinary_runText { catalog, settings, variant } request.source request.text
      (.start request.dataType sink) (fun _ member => nomatch member)
  unfold runVariant
  dsimp only
  split
  · rename_i failure after broke
    rw [broke] at ordinary
    exact ordinary
  · rename_i position after done
    rw [done] at ordinary
    exact ordinary

theorem isOrdinary_of_mem_runVariants (sink : Sink) (variants : List Variant) :
    ∀ notice ∈ (request.runVariants catalog settings sink variants).notices,
      notice.IsOrdinary := by
  induction variants generalizing sink with
  | nil =>
      intro notice member
      cases member
  | cons variant rest ih =>
      have begun :
          ∀ notice ∈ Journal.Notice.variantStarted variant.name ::
              (request.runVariant catalog settings sink variant).notices,
            notice.IsOrdinary := by
        rw [List.forall_mem_cons]
        constructor
        · simp [Journal.Notice.IsOrdinary, Journal.Notice.variantStarted]
        · exact request.isOrdinary_of_mem_runVariant catalog settings sink variant
      rw [runVariants]
      cases (request.runVariant catalog settings sink variant).foundYield with
      | error failure =>
          dsimp only
          rw [List.forall_mem_append, List.forall_mem_singleton]
          refine ⟨begun, ?_⟩
          simp [Journal.Notice.IsOrdinary, Journal.Notice.variantFailed]
      | ok foundYield =>
          dsimp only
          rw [List.forall_mem_append]
          refine ⟨begun, ?_⟩
          rw [List.forall_mem_cons]
          refine ⟨?_, ih _⟩
          simp [Journal.Notice.IsOrdinary, Journal.Notice.variantCompiled]

/-- No notice of a compilation hides where it comes from. -/
theorem isOrdinary_of_mem_compile :
    ∀ notice ∈ (request.compile catalog settings).notices, notice.IsOrdinary := by
  have ordinary :=
    request.isOrdinary_of_mem_runVariants catalog settings (.fresh settings.indent 1)
      request.variants
  unfold compile
  dsimp only
  split
  · exact ordinary
  · dsimp only
    rw [List.forall_mem_append, List.forall_mem_singleton]
    refine ⟨ordinary, ?_⟩
    simp [Journal.Notice.IsOrdinary, Journal.Notice.compileComplete]

/--
Under every configuration a request comes to the same, and its records are those
that the configuration asks for among the records of everything, in their order.
-/
theorem records_eq_filter_wants (configuration : Journal.Configuration) :
    (request.compileIn { configuration } catalog settings).2 =
        (request.compileIn { configuration := configuration.asksForAll } catalog settings).2 ∧
      (request.compileIn { configuration } catalog settings).1.records =
        (request.compileIn { configuration := configuration.asksForAll } catalog
          settings).1.records.filter configuration.wants := by
  have answers (journal : Journal) :
      (request.compileIn journal catalog settings).2 =
        (request.compile catalog settings).result := by
    rw [compileIn, Worker.carryOut_eq, Worker.account_ofCatalog]
  have records (other : Journal.Configuration) :
      (request.compileIn { configuration := other } catalog settings).1.records =
        other.recordsOf request.boundFields (request.compile catalog settings).notices := by
    rw [compileIn, Worker.carryOut_eq, Worker.account_ofCatalog, Journal.emitAll_eq]
    rfl
  constructor
  · rw [answers, answers]
  · rw [records, records]
    exact Journal.recordsOf_eq_filter configuration request
      (request.isOrdinary_of_mem_compile catalog settings)

end CompileRequest

end TypedMustache
