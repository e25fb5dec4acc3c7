import TypedMustache.Command.Execution
import TypedMustache.Proofs.Compilation.LocatedFailure
import TypedMustache.Proofs.CompileResult.SavedResult
import TypedMustache.Proofs.Journal.RequestContext
import TypedMustache.Proofs.Settings.LoadedFields
import TypedMustache.Proofs.Token.Printing
import TypedMustache.Proofs.Token.Tiling

/-!
# How commands end

A command that compiles a template or assembles results makes one text, and has
many ways to fail before it can deliver it.  Three relations say what there is to
expect, without mention of how the command is carried out: `Command.Yields` gives
the text, `Command.Refuses` the exit code and the words for what is wrong, and
`Command.Overlooks` what the program is aborted for.  `Command.Ends` puts them
together as the ways to end.

A compilation imports the module of its data class.  A module that is imported for
the first time is run, and may print and change files before anything else is done.
`Command.imported` is what there is afterwards, and everything here is said relative
to it.  Without modules to be run it is what there was at the start
(`Command.imported_of_imports_eq_nil`).

`Command.ending_of_call` shows that every call ends in exactly one of these ways,
and that only a call that yields a text leaves a trace outside of the error output:
the whole text is in the file that was named, or else printed, and nothing else is
changed.  A call that refuses reports one error.  A call that is aborted reports
nothing.  A compilation is aborted for a reference to a relative module, for an
error in a module that is no error of importing or of a value, for settings or a
template that cannot be read, and for an annotation that is no type; an assembly
only for a path with the character zero in it.
-/

namespace TypedMustache

/-! ## Files -/

namespace Workspace

variable {workspace : Workspace} {names others : List String} {path : Path} {text : String}

/-- A file has a text, and nothing else is different from before. -/
structure GainsOnly (before : Workspace) (path : Path) (text : String) (after : Workspace) :
    Prop where
  files : ∃ names, (before.find path).Takes names ∧ after.find path = .file names text ∧
    ∀ others, others ≠ names → after.files.lookup others = before.files.lookup others
  location : after.location = before.location
  directories : after.directories = before.directories
  barred : after.barred = before.barred

/-- Writing a file changes that file and nothing else. -/
theorem gainsOnly_put (takes : (workspace.find path).Takes names) :
    workspace.GainsOnly path text (workspace.put names text) := by
  constructor
  · refine ⟨names, takes, find_put takes, ?_⟩
    intro others different
    rw [lookup_put, if_neg different]
  · rfl
  · rfl
  · rfl

/-- A text can be put at a path: there is a file that may be opened, or room for a new one. -/
def Admits (workspace : Workspace) (path : Path) : Prop :=
  ∃ names, (workspace.find path).Takes names ∧ workspace.barred.contains names = false

/-- Writing to a path that admits a text puts it there. -/
theorem Admits.exists_gainsOnly (admits : workspace.Admits path) (text : String) :
    ∃ after, workspace.write path text = .ok after ∧ workspace.GainsOnly path text after := by
  rcases admits with ⟨names, takes, opens⟩
  refine ⟨workspace.put names text, ?_, gainsOnly_put takes⟩
  rw [write]
  generalize workspace.find path = place at takes
  cases takes <;> simp only [opens, Bool.false_eq_true, if_false]

end Workspace

/-! ## Settings -/

namespace Settings

/-- If there is a settings file, it is YAML, and the entries of a mapping are named by texts. -/
def Legible (reader : Reader) (workspace : Workspace) (path : Path) : Prop :=
  ∀ text, workspace.read path = .ok text →
    ∃ document, reader text = some document ∧ ∀ entries, document = .mapping entries → Named entries

variable {reader : Reader} {workspace : Workspace} {path : Option Path}

/-- A settings file that cannot be read stops the loading with its problem. -/
theorem loadWith_of_unreadable {problem : Workspace.Problem} (environment : Environment)
    (holds : Holds reader workspace (path.getD defaultFile) (.unreadable problem)) :
    loadWith reader workspace environment path = .error (.unreadable problem) := by
  rcases applicableEntries_cases holds with
    ⟨entries, supplied, -⟩ | ⟨nothing, -⟩ | ⟨other, same, failed⟩
  · cases supplied
  · cases nothing
  · cases same
    rw [loadWith, failed]

/-- Settings that are legible are found or refused, unless what is in their place is unreadable. -/
theorem loadWith_cases (environment : Environment)
    (legible : Legible reader workspace (path.getD defaultFile)) :
    (∃ settings, loadWith reader workspace environment path = .ok settings) ∨
      (∃ fault, loadWith reader workspace environment path = .error (.refused fault)) ∨
      ∃ problem, Holds reader workspace (path.getD defaultFile) (.unreadable problem) := by
  rcases exists_holds reader workspace (path.getD defaultFile) with
    ⟨content, holds⟩ | ⟨text, isRead, unparsed⟩
  · rcases applicableEntries_cases holds with
      ⟨entries, supplied, found⟩ | ⟨-, fault, -, failed⟩ | ⟨problem, rfl, -⟩
    · have named : Named entries := by
        cases supplied with
        | absent => simp [Named]
        | null => simp [Named]
        | mapping =>
            rcases holds with _ | _ | _ | ⟨isRead, parsed⟩
            rcases legible _ isRead with ⟨document, alsoParsed, named⟩
            rw [parsed] at alsoParsed
            cases alsoParsed
            exact named entries rfl
      rcases (loadWith_iff_of_named environment found named).2.2 with done | ⟨fault, -, failed⟩
      · exact Or.inl done
      · exact Or.inr (Or.inl ⟨fault, failed⟩)
    · exact Or.inr (Or.inl ⟨fault, by rw [loadWith, failed]⟩)
    · exact Or.inr (Or.inr ⟨problem, holds⟩)
  · rcases legible text isRead with ⟨document, parsed, -⟩
    rw [unparsed] at parsed
    cases parsed

/-- It is the system that has the problem with a settings file. -/
theorem isOfSystem_of_holds {path : Path} {problem : Workspace.Problem}
    (holds : Holds reader workspace path (.unreadable problem)) : problem.isOfSystem = true := by
  cases holds with
  | unsearchable unknown =>
      rw [Workspace.hasPath] at unknown
      split at unknown <;> cases unknown <;> rfl
  | unreadable present failed =>
      rw [Workspace.hasPath] at present
      rw [Workspace.read] at failed
      cases found : workspace.find path with
      | directory =>
          rw [found] at failed
          cases failed
          rfl
      | file names text =>
          simp only [found] at failed
          split at failed <;> cases failed
          rfl
      | _ =>
          rw [found] at present
          cases present

/-- Settings that could be loaded are legible. -/
theorem legible_of_loadWith
    {environment : Environment} {settings : Settings}
    (loaded : loadWith reader workspace environment path = .ok settings) :
    Legible reader workspace (path.getD defaultFile) := by
  intro text isRead
  cases parsed : reader text with
  | none =>
      have present := hasPath_of_read isRead
      simp only [loadWith, applicableEntries, present, fileEntries, isRead, parsed] at loaded
      cases loaded
  | some document =>
      have holds : Holds reader workspace (path.getD defaultFile) (.document document) :=
        .document isRead parsed
      refine ⟨document, rfl, ?_⟩
      rintro entries rfl
      by_contra unnamed
      rcases applicableEntries_cases holds with
        ⟨others, supplied, found⟩ | ⟨-, fault, -, failed⟩ | ⟨problem, same, -⟩
      · cases supplied with
        | mapping =>
            rw [loadWith_of_unnamed environment found unnamed] at loaded
            cases loaded
      · rw [loadWith, failed] at loaded
        cases loaded
      · cases same

end Settings

/-! ## Compiling -/

/-- The failures of compilations that have no place are those of annotations. -/
theorem CompileRequest.blamesType_of_failed_compile
    {request : CompileRequest} {catalog : Catalog} {settings : Settings} {failure : Failure}
    (failed : (request.compile catalog settings).result = .error failure) :
    failure.IsLocated ∨ failure.BlamesType catalog.texts := by
  simp only [compile] at failed
  split at failed
  · rename_i reason refused
    cases failed
    rcases failure_of_runVariants refused with located | ⟨token, -, scope, -, shapeless⟩
    · exact Or.inl located
    · exact Or.inr shapeless.blamesType
  · cases failed

/-! ## References -/

namespace Catalog

variable {modules : Modules}

/-- Importing the parts of a name one by one never finds the name relative. -/
theorem fault_importComponents_ne_relative (catalog : Catalog) (components : List String) :
    (catalog.importComponents modules components).fault ≠ some .relative := by
  induction components with
  | nil =>
      simp [importComponents]
  | cons component outer ih =>
      intro relative
      simp only [importComponents] at relative
      split at relative
      · cases relative
      · split at relative
        · exact ih relative
        · split at relative
          · simp [Import.andRun] at relative
          · cases relative
        · split at relative <;> cases relative

/-- A module is relative if its name begins with a dot. -/
theorem fault_importModule_eq_relative_iff {catalog : Catalog} {name : String} :
    (catalog.importModule modules name).fault = some .relative ↔
      name.toList.head? = some '.' := by
  rw [importModule]
  split
  · rename_i dotted
    exact iff_of_true rfl (by simpa using dotted)
  · rename_i undotted
    exact iff_of_false (catalog.fault_importComponents_ne_relative _) (by simpa using undotted)

theorem classBehind_ne_relative (catalog : Catalog) (reference moduleName name : String) :
    catalog.classBehind modules reference moduleName name ≠ .error .relative := by
  rw [classBehind]
  split
  · simp
  · split <;> simp

/-- A reference is relative if its module begins with a dot. -/
theorem resolveReference_eq_relative_iff {catalog : Catalog} {reference : String} :
    (catalog.resolveReference modules reference).outcome = .error .relative ↔
      ∃ moduleName name, reference.toList = '.' :: moduleName ++ ':' :: name ∧
        ':' ∉ moduleName ∧ name ≠ [] := by
  constructor
  · intro relative
    rw [resolveReference] at relative
    split at relative
    · cases relative
    · rename_i front back divided
      dsimp only at relative
      split at relative
      · cases relative
      · rename_i solid
        split at relative
        · rename_i fault failed
          cases relative
          rw [fault_importModule_eq_relative_iff, String.toList_ofList] at failed
          rcases List.head?_eq_some_iff.mp failed with ⟨moduleName, rfl⟩
          have whole := Text.append_of_cut divided
          have first := Text.not_infix_of_cut (List.cons_ne_nil ':' []) divided
          refine ⟨moduleName, back, by simpa using whole, ?_, ?_⟩
          · intro member
            apply first
            rw [List.dropLast_singleton, List.append_nil]
            exact (List.singleton_infix_iff _ _).mpr (List.mem_cons_of_mem '.' member)
          · intro unnamed
            simp [unnamed] at solid
        · exact absurd relative (catalog.classBehind_ne_relative _ _ _)
  · rintro ⟨moduleName, name, same, whole, named⟩
    have divided : Text.cut [':'] reference.toList = some ('.' :: moduleName, name) := by
      have found : Text.cut [':'] ('.' :: moduleName ++ [':'] ++ name) =
          some ('.' :: moduleName, name) :=
        Text.cut_of_not_mem (by simp [whole])
      simpa [same] using found
    have imported :
        (catalog.importModule modules (String.ofList ('.' :: moduleName))).fault =
          some .relative :=
      fault_importModule_eq_relative_iff.mpr (by simp)
    rw [resolveReference, divided]
    dsimp only
    rw [if_neg (by simp [named])]
    simp only [imported]

end Catalog

namespace Command

/-! ## What to expect of a command -/

/-- A command that makes a text out of a template or of results. -/
inductive Produces : Command → Prop where
  | compile (options : CompileOptions) : Produces (.compile options)
  | assemble (options : AssembleOptions) : Produces (.assemble options)

/-- The settings file that a command names. -/
def settingsFile? : Command → Option String
  | compile options => options.settingsFile
  | assemble options => options.settingsFile
  | showHelp _ | showVersion | tokens _ => none

/-- The path of the settings file of a command. -/
def settingsPath (command : Command) : Path :=
  (command.settingsFile?.map .ofString).getD Settings.defaultFile

/-- The file that a command names for what it makes. -/
def output? : Command → Option String
  | compile options => options.output.filter (!·.isEmpty)
  | assemble options => options.output.filter (!·.isEmpty)
  | showHelp _ | showVersion | tokens _ => none

variable (surroundings : Surroundings)

/-- The data class that a compilation is asked for. -/
abbrev resolved (options : CompileOptions) : Except Catalog.ReferenceFault ClassName :=
  (surroundings.catalog.resolveReference surroundings.modules options.model).outcome

/-- The modules that a command imports and that are run for that. -/
def imports : Command → List ModuleRun
  | compile options =>
    (surroundings.catalog.resolveReference surroundings.modules options.model).runs
  | showHelp _ | showVersion | assemble _ | tokens _ => []

/-- What there is when the modules have been run that a command imports. -/
def imported (command : Command) : Trace :=
  (command.imports surroundings).foldl Trace.afterRun
    (surroundings.trace command.journalOptions)

/-- Without modules to be run nothing is different. -/
theorem imported_of_imports_eq_nil {command : Command} (none : command.imports surroundings = []) :
    command.imported surroundings = surroundings.trace command.journalOptions := by
  rw [imported, none, List.foldl_nil]

/-- The settings that are loaded from a file, if one is named. -/
abbrev loadedSettings (command : Command) : Except Settings.LoadFailure Settings :=
  Settings.loadWith surroundings.reader (command.imported surroundings).workspace
    (command.imported surroundings).environment (command.settingsFile?.map .ofString)

/-- A compilation has all that it needs. -/
structure Prepares (options : CompileOptions) (name : ClassName) (settings : Settings)
    (text : String) : Prop where
  resolved : resolved surroundings options = .ok name
  settled : loadedSettings surroundings (.compile options) = .ok settings
  isRead : ((compile options).imported surroundings).workspace.read (.ofString options.template) =
    .ok text

/-- What the compilation of a template comes to. -/
abbrev compiled (options : CompileOptions) (name : ClassName) (settings : Settings)
    (text : String) : Except Failure CompileResult :=
  ((options.request surroundings (.ofClass name) text).compile surroundings.catalog
    settings).result

/-- The labels for the functions of a module with one result. -/
def CompileOptions.labels (options : CompileOptions) (result : CompileResult) :
    List (String × String) :=
  ((options.label.filter (!·.isEmpty)).map fun label => (result.template, label)).toList

/-- The results that are loaded from files. -/
abbrev loadedResults (options : AssembleOptions) :
    Except CompileResult.LoadFailure (List CompileResult) :=
  CompileResult.loadAll ((assemble options).imported surroundings).workspace
    (options.results.map .ofString)

/-- The text that a command makes. -/
inductive Yields : Command → String → Prop where
  | code {options : CompileOptions} {name : ClassName} {settings : Settings} {text : String}
      {result : CompileResult} (prepared : Prepares surroundings options name settings text)
      (done : compiled surroundings options name settings text = .ok result)
      (format : options.format = .code) :
      Yields (.compile options) (RenderModule.generate [result] settings (options.labels result))
  | document {options : CompileOptions} {name : ClassName} {settings : Settings} {text : String}
      {result : CompileResult} (prepared : Prepares surroundings options name settings text)
      (done : compiled surroundings options name settings text = .ok result)
      (format : options.format = .result) :
      Yields (.compile options) (result.toJson CompileResult.savedIndent)
  | assembly {options : AssembleOptions} {settings : Settings} {results : List CompileResult}
      {labels : List (String × String)}
      (settled : loadedSettings surroundings (.assemble options) = .ok settings)
      (loaded : loadedResults surroundings options = .ok results)
      (labelled : assemblyLabels? results = some labels) :
      Yields (.assemble options) (RenderModule.generate results settings labels)

/-- The exit code and the words with which a command is refused. -/
inductive Refuses : Command → Nat → String → Prop where
  | reference {options : CompileOptions} {fault : Catalog.ReferenceFault}
      (unresolved : resolved surroundings options = .error fault)
      (reported : fault.isReported = true) :
      Refuses (.compile options) 2 fault.message
  | settings {options : CompileOptions} {name : ClassName} {fault : Fault}
      (isResolved : resolved surroundings options = .ok name)
      (unsettled : loadedSettings surroundings (.compile options) = .error (.refused fault)) :
      Refuses (.compile options) 1 (Failure.ofFault fault).format
  | template {options : CompileOptions} {name : ClassName} {settings : Settings} {text : String}
      {diagnostic : Diagnostic} (prepared : Prepares surroundings options name settings text)
      (faulty : compiled surroundings options name settings text =
        .error (.diagnosed diagnostic)) :
      Refuses (.compile options) 1 diagnostic.format
  | assemblySettings {options : AssembleOptions} {fault : Fault}
      (unsettled : loadedSettings surroundings (.assemble options) = .error (.refused fault)) :
      Refuses (.assemble options) 1 (Failure.ofFault fault).format
  | settingsFile {options : AssembleOptions} {problem : Workspace.Problem}
      (unreadable : Settings.Holds surroundings.reader
        ((assemble options).imported surroundings).workspace (assemble options).settingsPath
        (.unreadable problem)) :
      Refuses (.assemble options) 1 problem.message
  | document {options : AssembleOptions} {settings : Settings} {fault : Fault}
      (settled : loadedSettings surroundings (.assemble options) = .ok settings)
      (unloaded : loadedResults surroundings options = .error (.refused fault)) :
      Refuses (.assemble options) 1 (Failure.ofFault fault).format
  | documentFile {options : AssembleOptions} {settings : Settings}
      {problem : Workspace.Problem}
      (settled : loadedSettings surroundings (.assemble options) = .ok settings)
      (unloaded : loadedResults surroundings options = .error (.unreadable problem))
      (nameable : problem ≠ .unnameable) :
      Refuses (.assemble options) 1 problem.message
  | fileNames {options : AssembleOptions} {settings : Settings} {results : List CompileResult}
      (settled : loadedSettings surroundings (.assemble options) = .ok settings)
      (loaded : loadedResults surroundings options = .ok results)
      (alike : assemblyLabels? results = none) :
      Refuses (.assemble options) 1 "assembled templates must have distinct file names"

/-- What the program is aborted for. -/
inductive Overlooks : Command → Abort → Prop where
  | relativeReference {options : CompileOptions} {moduleName name : List Char}
      (relative : options.model.toList = '.' :: moduleName ++ ':' :: name)
      (whole : ':' ∉ moduleName) (named : name ≠ []) :
      Overlooks (.compile options) (.reference .relative)
  /-- A module raises an error that is neither one of importing nor one of a value. -/
  | module {options : CompileOptions} {error : ModuleError}
      (raised : resolved surroundings options = .error (.raised error))
      (unexpected : error.isExpected = false) :
      Overlooks (.compile options) (.reference (.raised error))
  | settingsFile {options : CompileOptions} {name : ClassName} {problem : Workspace.Problem}
      (isResolved : resolved surroundings options = .ok name)
      (unreadable : Settings.Holds surroundings.reader
        ((compile options).imported surroundings).workspace (compile options).settingsPath
        (.unreadable problem)) :
      Overlooks (.compile options) (.settings (.unreadable problem))
  | template {options : CompileOptions} {name : ClassName} {settings : Settings}
      {problem : Workspace.Problem}
      (isResolved : resolved surroundings options = .ok name)
      (settled : loadedSettings surroundings (.compile options) = .ok settings)
      (unreadable : ((compile options).imported surroundings).workspace.read
        (.ofString options.template) = .error problem) :
      Overlooks (.compile options) (.file problem)
  | untypedName {options : CompileOptions} {name : ClassName} {settings : Settings}
      {text : String} {failure : Failure}
      (prepared : Prepares surroundings options name settings text)
      (failed : compiled surroundings options name settings text = .error failure)
      (blamesType : failure.BlamesType surroundings.catalog.texts) :
      Overlooks (.compile options) (.compiling failure)
  /-- The path of a result has the character zero in it, so the system is not asked for it. -/
  | documentName {options : AssembleOptions} {settings : Settings}
      (settled : loadedSettings surroundings (.assemble options) = .ok settings)
      (unloaded : loadedResults surroundings options = .error (.unreadable .unnameable)) :
      Overlooks (.assemble options) (.file .unnameable)

/-- How a command is to end. -/
inductive Ends (command : Command) : Except Abort Nat → Prop where
  | aborted {abort : Abort} (overlooked : command.Overlooks surroundings abort) :
      Ends command (.error abort)
  | failed {code : Nat} {message : String}
      (refused : command.Refuses surroundings code message) : Ends command (.ok code)
  | done {text : String} (yielded : command.Yields surroundings text) : Ends command (.ok 0)

section Ends

variable {surroundings : Surroundings} {command : Command} {abort : Abort} {code : Nat}
  {message : String}

/-- A refusal has a code of its own. -/
theorem Refuses.code_ne_zero (refused : command.Refuses surroundings code message) :
    code ≠ 0 := by
  cases refused <;> decide

/-- A command ends without a code exactly where it overlooks something. -/
theorem ends_error_iff :
    command.Ends surroundings (.error abort) ↔ command.Overlooks surroundings abort := by
  constructor
  · rintro ⟨overlooked⟩
    exact overlooked
  · exact .aborted

/-- It ends with a code other than zero exactly where it refuses. -/
theorem ends_ok_iff (positive : code ≠ 0) :
    command.Ends surroundings (.ok code) ↔
      ∃ message, command.Refuses surroundings code message := by
  constructor
  · intro ends
    cases ends with
    | failed refused => exact ⟨_, refused⟩
    | done yielded => exact absurd rfl positive
  · rintro ⟨message, refused⟩
    exact .failed refused

/-- It ends with zero exactly where it yields a text. -/
theorem ends_zero_iff :
    command.Ends surroundings (.ok 0) ↔ ∃ text, command.Yields surroundings text := by
  constructor
  · intro ends
    cases ends with
    | failed refused => exact absurd rfl refused.code_ne_zero
    | done yielded => exact ⟨_, yielded⟩
  · rintro ⟨text, yielded⟩
    exact .done yielded

end Ends

/-! ## Carrying out a command -/

section Work

variable {surroundings : Surroundings} {trace : Trace}

/-- The same with another journal. -/
def Trace.withJournal (trace : Trace) (journal : Journal) : Trace :=
  { trace with journal }

/-- A trace with the report of an error. -/
def Trace.reporting (trace : Trace) (message : String) : Trace :=
  { trace with errors := trace.errors ++ ("error: " ++ message ++ "\n") }

theorem fail_apply (code : Nat) (message : String) (trace : Trace) :
    fail code message trace = .ok code (trace.reporting message) := rfl

theorem readFile_apply (path : Path) (trace : Trace) :
    readFile path trace =
      match trace.workspace.read path with
      | .ok text => .ok text trace
      | .error problem => .error (.file problem) trace := by
  rw [readFile, Attempt.bind_apply, Attempt.get_apply]
  dsimp only
  cases trace.workspace.read path <;> rfl

theorem notify_apply (notice : Journal.Notice) (trace : Trace) :
    notify notice trace = .ok () (trace.withJournal (trace.journal.emit notice)) := rfl

/--
A text is in the file that is named for it, or else printed behind what there was, and nothing
else is changed.
-/
def Trace.Delivers (trace before : Trace) (output : Option String) (text : String) : Prop :=
  match output with
  | none => trace.output = before.output ++ text ∧ trace.workspace = before.workspace
  | some name =>
    trace.output = before.output ∧ before.workspace.GainsOnly (.ofString name) text trace.workspace

/-- Each file that is named can be written. -/
def Writable (workspace : Workspace) (output : Option String) : Prop :=
  ∀ name, output = some name → workspace.Admits (.ofString name)

/-- What can be delivered is delivered, and nothing is reported. -/
theorem deliver_of_writable {output : Option String}
    (writable : Writable trace.workspace (output.filter (!·.isEmpty)))
    (text : String) (journal : Journal) :
    ∃ after : Trace,
      deliver output text (trace.withJournal journal) = .ok () after ∧
        after.errors = trace.errors ∧ after.Delivers trace (output.filter (!·.isEmpty)) text := by
  cases named : output.filter (!·.isEmpty) with
  | none =>
      refine ⟨{ trace.withJournal journal with output := trace.output ++ text }, ?_, rfl, ?_⟩
      · rw [deliver, named]
        rfl
      · exact ⟨rfl, rfl⟩
  | some name =>
      rcases (writable name named).exists_gainsOnly text with ⟨workspace, written, gains⟩
      have writtenHere :
          (trace.withJournal journal).workspace.write (.ofString name) text = .ok workspace :=
        written
      refine ⟨{ trace.withJournal journal with workspace }, ?_, rfl, rfl, gains⟩
      rw [deliver, named]
      dsimp only
      rw [writeFile, Attempt.bind_apply, Attempt.get_apply]
      dsimp only
      rw [writtenHere]
      rfl

variable {options : CompileOptions} {assembly : AssembleOptions} {name : ClassName}
  {settings : Settings} {text : String}

/-- What is recorded on the way does not change what is compiled. -/
theorem result_compileIn
    (request : CompileRequest) (journal : Journal) (catalog : Catalog) (settings : Settings) :
    (request.compileIn journal catalog settings).2 = (request.compile catalog settings).result := by
  rw [CompileRequest.compileIn, Worker.carryOut_eq, Worker.account_ofCatalog]

/-- Only a diagnostic is reported; every other failure aborts the program. -/
theorem CompileOptions.conclude_of_blamesType {failure : Failure}
    (blamesType : failure.BlamesType surroundings.catalog.texts) :
    options.conclude settings (.error failure) = throw (.compiling failure) := by
  cases failure with
  | diagnosed diagnostic => exact absurd rfl (blamesType.ne_diagnosed diagnostic)
  | _ => rfl

/-- A compilation loads its settings from what the imports left, and leaves it as it is. -/
theorem loadSettings_compile (options : CompileOptions) :
    loadSettings surroundings options.settingsFile ((compile options).imported surroundings) =
      .ok (loadedSettings surroundings (compile options))
        ((compile options).imported surroundings) := rfl

/-- So does an assembly. -/
theorem loadSettings_assemble (options : AssembleOptions) :
    loadSettings surroundings options.settingsFile ((assemble options).imported surroundings) =
      .ok (loadedSettings surroundings (assemble options))
        ((assemble options).imported surroundings) := rfl

/-- A compilation begins with its imports, and then goes on with the class that it found. -/
theorem work_of_resolved (isResolved : resolved surroundings options = .ok name) :
    (compile options).work surroundings (surroundings.trace (compile options).journalOptions) =
      compileAgainst surroundings options name ((compile options).imported surroundings) := by
  simp only [work, runCompile, Attempt.bind_apply, isResolved]
  rfl

/-- A class that is not found ends the command before the settings are read. -/
theorem work_of_unresolved {fault : Catalog.ReferenceFault}
    (unresolved : resolved surroundings options = .error fault) :
    (compile options).work surroundings (surroundings.trace (compile options).journalOptions) =
      (if fault.isReported then fail 2 fault.message else throw (.reference fault) : CommandM Nat)
        ((compile options).imported surroundings) := by
  simp only [work, runCompile, Attempt.bind_apply, unresolved]
  rfl

/-- A compilation that has all it needs comes to its result. -/
theorem work_of_prepares (prepared : Prepares surroundings options name settings text) :
    ∃ journal : Journal,
      (compile options).work surroundings (surroundings.trace (compile options).journalOptions) =
        options.conclude settings (compiled surroundings options name settings text)
          (((compile options).imported surroundings).withJournal journal) := by
  refine ⟨((options.request surroundings (.ofClass name) text).compileIn
    ((compile options).imported surroundings).journal surroundings.catalog settings).1, ?_⟩
  rw [work_of_resolved prepared.resolved]
  simp only [compileAgainst, Attempt.bind_apply, loadSettings_compile, prepared.settled,
    readFile_apply, prepared.isRead, Attempt.get_apply, Attempt.modify_apply]
  rw [result_compileIn]
  rfl

theorem work_assemble :
    (assemble assembly).work surroundings
        (surroundings.trace (assemble assembly).journalOptions) =
      runAssemble surroundings assembly ((assemble assembly).imported surroundings) := rfl

variable {command : Command} {abort : Abort} {code : Nat} {message : String}

/-- What a command overlooks aborts it, and nothing is printed or reported. -/
theorem work_of_overlooks (overlooked : command.Overlooks surroundings abort) :
    ∃ journal : Journal,
      command.work surroundings (surroundings.trace command.journalOptions) =
        .error abort ((command.imported surroundings).withJournal journal) := by
  cases overlooked with
  | @relativeReference options moduleName name relative whole named =>
      have unresolved : resolved surroundings options = .error .relative :=
        Catalog.resolveReference_eq_relative_iff.mpr ⟨moduleName, name, relative, whole, named⟩
      refine ⟨((compile options).imported surroundings).journal, ?_⟩
      rw [work_of_unresolved unresolved]
      rfl
  | @module options error raised unexpected =>
      refine ⟨((compile options).imported surroundings).journal, ?_⟩
      rw [work_of_unresolved raised]
      simp only [Catalog.ReferenceFault.isReported, unexpected]
      rfl
  | @settingsFile options name problem isResolved unreadable =>
      have unsettled := Settings.loadWith_of_unreadable
        ((compile options).imported surroundings).environment unreadable
      refine ⟨((compile options).imported surroundings).journal, ?_⟩
      rw [work_of_resolved isResolved]
      simp only [compileAgainst, Attempt.bind_apply, loadSettings_compile, unsettled]
      rfl
  | @template options name settings problem isResolved settled unreadable =>
      refine ⟨((compile options).imported surroundings).journal, ?_⟩
      rw [work_of_resolved isResolved]
      simp only [compileAgainst, Attempt.bind_apply, loadSettings_compile, settled, readFile_apply,
        unreadable]
      rfl
  | untypedName prepared failed blamesType =>
      -- Here something was recorded before: the compilation itself.
      rcases work_of_prepares prepared with ⟨journal, same⟩
      refine ⟨journal, ?_⟩
      rw [same, failed, CompileOptions.conclude_of_blamesType blamesType]
      rfl
  | @documentName options settings settled unloaded =>
      refine ⟨((assemble options).imported surroundings).journal, ?_⟩
      rw [work_assemble]
      simp only [runAssemble, Attempt.bind_apply, loadSettings_assemble, settled, Attempt.get_apply,
        unloaded]
      rfl

/-- A command that is refused reports one error and ends with its code. -/
theorem work_of_refuses (refused : command.Refuses surroundings code message) :
    ∃ journal : Journal,
      command.work surroundings (surroundings.trace command.journalOptions) =
        .ok code (((command.imported surroundings).withJournal journal).reporting message) := by
  cases refused with
  | @reference options fault unresolved reported =>
      refine ⟨((compile options).imported surroundings).journal, ?_⟩
      rw [work_of_unresolved unresolved]
      simp only [reported, if_true, fail_apply]
      rfl
  | @settings options name fault isResolved unsettled =>
      refine ⟨((compile options).imported surroundings).journal, ?_⟩
      rw [work_of_resolved isResolved]
      simp only [compileAgainst, Attempt.bind_apply, loadSettings_compile, unsettled, fail_apply]
      rfl
  | template prepared faulty =>
      rcases work_of_prepares prepared with ⟨journal, same⟩
      refine ⟨journal, ?_⟩
      rw [same, faulty]
      rfl
  | @assemblySettings options fault unsettled =>
      refine ⟨((assemble options).imported surroundings).journal, ?_⟩
      rw [work_assemble]
      simp only [runAssemble, Attempt.bind_apply, loadSettings_assemble, unsettled, fail_apply]
      rfl
  | @settingsFile options problem unreadable =>
      have unsettled := Settings.loadWith_of_unreadable
        ((assemble options).imported surroundings).environment unreadable
      refine ⟨((assemble options).imported surroundings).journal, ?_⟩
      rw [work_assemble]
      simp only [runAssemble, Attempt.bind_apply, loadSettings_assemble, unsettled, failToRead,
        Settings.isOfSystem_of_holds unreadable, if_true, fail_apply]
      rfl
  | @document options settings fault settled unloaded =>
      refine ⟨((assemble options).imported surroundings).journal, ?_⟩
      rw [work_assemble]
      simp only [runAssemble, Attempt.bind_apply, loadSettings_assemble, settled, Attempt.get_apply,
        unloaded, fail_apply]
      rfl
  | @documentFile options settings problem settled unloaded nameable =>
      have isOfSystem : problem.isOfSystem = true := by
        cases problem with
        | unnameable => exact absurd rfl nameable
        | _ => rfl
      refine ⟨((assemble options).imported surroundings).journal, ?_⟩
      rw [work_assemble]
      simp only [runAssemble, Attempt.bind_apply, loadSettings_assemble, settled, Attempt.get_apply,
        unloaded, failToRead, isOfSystem, if_true, fail_apply]
      rfl
  | @fileNames options settings results settled loaded alike =>
      refine ⟨((assemble options).imported surroundings).journal, ?_⟩
      rw [work_assemble]
      simp only [runAssemble, Attempt.bind_apply, loadSettings_assemble, settled, Attempt.get_apply,
        loaded, alike, fail_apply]
      rfl

/-- A command that yields a text delivers it, and reports nothing. -/
theorem work_of_yields
    (yielded : command.Yields surroundings text)
    (writable : Writable (command.imported surroundings).workspace command.output?) :
    ∃ after : Trace,
      command.work surroundings (surroundings.trace command.journalOptions) = .ok 0 after ∧
        after.errors = (command.imported surroundings).errors ∧
          after.Delivers (command.imported surroundings) command.output? text := by
  cases yielded with
  | @code options name settings text result prepared done format =>
      rcases work_of_prepares prepared with ⟨journal, same⟩
      rcases deliver_of_writable writable
        (RenderModule.generate [result] settings (options.labels result))
        (journal.emit (RenderModule.notice [result])) with ⟨after, delivered, rest⟩
      refine ⟨after, ?_, rest⟩
      rw [same, done, CompileOptions.conclude]
      simp only [CompileOptions.deliverResult, format, Attempt.bind_apply, notify_apply]
      rw [← CompileOptions.labels]
      simp only [Trace.withJournal] at delivered ⊢
      rw [delivered]
      rfl
  | @document options name settings text result prepared done format =>
      rcases work_of_prepares prepared with ⟨journal, same⟩
      rcases deliver_of_writable writable (result.toJson CompileResult.savedIndent) journal with
        ⟨after, delivered, rest⟩
      refine ⟨after, ?_, rest⟩
      rw [same, done, CompileOptions.conclude]
      simp only [CompileOptions.deliverResult, format, Attempt.bind_apply]
      rw [delivered]
      rfl
  | @assembly options settings results labels settled loaded labelled =>
      rcases deliver_of_writable writable (RenderModule.generate results settings labels)
        (((assemble options).imported surroundings).journal.emit
          (RenderModule.notice results)) with ⟨after, delivered, rest⟩
      refine ⟨after, ?_, rest⟩
      rw [work_assemble]
      simp only [runAssemble, Attempt.bind_apply, loadSettings_assemble, settled, Attempt.get_apply,
        loaded, labelled, notify_apply]
      rw [delivered]
      rfl

/-- A compilation that has all it needs ends in some way. -/
theorem exists_ends_of_prepares
    (prepared : Prepares surroundings options name settings text) :
    ∃ exit, (compile options).Ends surroundings exit := by
  cases done : compiled surroundings options name settings text with
  | ok result =>
      cases format : options.format with
      | code => exact ⟨_, .done (.code prepared done format)⟩
      | result => exact ⟨_, .done (.document prepared done format)⟩
  | error failure =>
      rcases CompileRequest.blamesType_of_failed_compile done with
        ⟨fault, place, rfl, -⟩ | blamesType
      · exact ⟨_, .failed (.template prepared done)⟩
      · exact ⟨_, .aborted (.untypedName prepared done blamesType)⟩

/-- A compilation whose data class is not found is refused, or aborts the program. -/
theorem exists_ends_of_unresolved {fault : Catalog.ReferenceFault}
    (unresolved : resolved surroundings options = .error fault) :
    ∃ exit, (compile options).Ends surroundings exit := by
  by_cases reported : fault.isReported = true
  · exact ⟨_, .failed (.reference unresolved reported)⟩
  · cases fault with
    | relative =>
        rcases Catalog.resolveReference_eq_relative_iff.mp unresolved with
          ⟨moduleName, name, dotted, whole, named⟩
        exact ⟨_, .aborted (.relativeReference dotted whole named)⟩
    | raised error =>
        exact ⟨_, .aborted (.module unresolved (by
          simpa [Catalog.ReferenceFault.isReported] using reported))⟩
    | _ =>
        exact absurd rfl reported

/-- A command that makes a text does so, or is refused, or aborts the program. -/
theorem Produces.exists_ends
    (produces : command.Produces)
    (legible : Settings.Legible surroundings.reader (command.imported surroundings).workspace
      command.settingsPath) :
    ∃ exit, command.Ends surroundings exit := by
  cases produces with
  | compile options =>
      cases found : resolved surroundings options with
      | error fault => exact exists_ends_of_unresolved found
      | ok name =>
          rcases Settings.loadWith_cases
              ((Command.compile options).imported surroundings).environment legible with
            ⟨settings, settled⟩ | ⟨fault, unsettled⟩ | ⟨problem, unreadable⟩
          · cases isRead : ((Command.compile options).imported surroundings).workspace.read
                (.ofString options.template) with
            | ok text => exact exists_ends_of_prepares ⟨found, settled, isRead⟩
            | error problem => exact ⟨_, .aborted (.template found settled isRead)⟩
          · exact ⟨_, .failed (.settings found unsettled)⟩
          · exact ⟨_, .aborted (.settingsFile found unreadable)⟩
  | assemble options =>
      rcases Settings.loadWith_cases ((Command.assemble options).imported surroundings).environment
        legible with ⟨settings, settled⟩ | ⟨fault, unsettled⟩ | ⟨problem, unreadable⟩
      · cases loaded : loadedResults surroundings options with
        | ok results =>
            cases labelled : assemblyLabels? results with
            | some labels => exact ⟨_, .done (.assembly settled loaded labelled)⟩
            | none => exact ⟨_, .failed (.fileNames settled loaded labelled)⟩
        | error failure =>
            cases failure with
            | refused fault => exact ⟨_, .failed (.document settled loaded)⟩
            | unreadable problem =>
                by_cases unnameable : problem = .unnameable
                · rw [unnameable] at loaded
                  exact ⟨_, .aborted (.documentName settled loaded)⟩
                · exact ⟨_, .failed (.documentFile settled loaded unnameable)⟩
      · exact ⟨_, .failed (.assemblySettings unsettled)⟩
      · exact ⟨_, .failed (.settingsFile unreadable)⟩

end Work

/-! ## Calls -/

section Call

variable {surroundings : Surroundings} {arguments : List String} {command : Command}

/-- A call makes the records that were asked for and does the work of its command. -/
theorem call_eq (surroundings : Surroundings) (accepted : parse arguments = .ok command) :
    call arguments surroundings =
      match command.work surroundings (surroundings.trace command.journalOptions) with
      | .ok code trace => { trace, exit := .ok code }
      | .error abort trace => { trace, exit := .error abort } := by
  rw [call, accepted]
  rfl

variable (accepted : parse arguments = .ok command)

include accepted

/-- A call that is aborted leaves what its imports left. -/
theorem call_of_overlooks
    {abort : Abort} (overlooked : command.Overlooks surroundings abort) :
    ∃ journal : Journal,
      call arguments surroundings =
        { trace := (command.imported surroundings).withJournal journal, exit := .error abort } := by
  rcases work_of_overlooks overlooked with ⟨journal, worked⟩
  exact ⟨journal, by rw [call_eq surroundings accepted, worked]⟩

/-- A call that is refused leaves what its imports left, and the report. -/
theorem call_of_refuses
    {code : Nat} {message : String} (refused : command.Refuses surroundings code message) :
    ∃ journal : Journal,
      call arguments surroundings =
        { trace := ((command.imported surroundings).withJournal journal).reporting message
          exit := .ok code } := by
  rcases work_of_refuses refused with ⟨journal, worked⟩
  exact ⟨journal, by rw [call_eq surroundings accepted, worked]⟩

/-- A call that yields a text ends well, and the text is delivered. -/
theorem call_of_yields
    {text : String} (yielded : command.Yields surroundings text)
    (writable : Writable (command.imported surroundings).workspace command.output?) :
    ∃ trace : Trace,
      call arguments surroundings = { trace, exit := .ok 0 } ∧
        trace.errors = (command.imported surroundings).errors ∧
          trace.Delivers (command.imported surroundings) command.output? text := by
  rcases work_of_yields yielded writable with ⟨trace, worked, rest⟩
  exact ⟨trace, by rw [call_eq surroundings accepted, worked], rest⟩

/-- A call ends as its command does, if its output can be written. -/
theorem exit_of_ends
    {exit : Except Abort Nat} (ends : command.Ends surroundings exit)
    (writable : Writable (command.imported surroundings).workspace command.output?) :
    (call arguments surroundings).exit = exit := by
  cases ends with
  | aborted overlooked =>
      rcases call_of_overlooks accepted overlooked with ⟨journal, same⟩
      rw [same]
  | failed refused =>
      rcases call_of_refuses accepted refused with ⟨journal, same⟩
      rw [same]
  | done yielded =>
      rcases call_of_yields accepted yielded writable with ⟨trace, same, -⟩
      rw [same]

variable
  (produces : command.Produces)
  (legible : Settings.Legible surroundings.reader (command.imported surroundings).workspace
    command.settingsPath)
  (writable : Writable (command.imported surroundings).workspace command.output?)

include produces legible writable

/-- A call ends in the one way that is to be expected of its command. -/
theorem exit_eq_iff {exit : Except Abort Nat} :
    (call arguments surroundings).exit = exit ↔ command.Ends surroundings exit := by
  constructor
  · rintro rfl
    -- Some way to end is to be expected, and the call can take no other.
    rcases produces.exists_ends legible with ⟨expected, ends⟩
    rwa [exit_of_ends accepted ends writable]
  · intro ends
    exact exit_of_ends accepted ends writable

/-- A call that does not end well has printed nothing and changed nothing after its imports. -/
theorem untouched_of_exit (failed : (call arguments surroundings).exit ≠ .ok 0) :
    (call arguments surroundings).trace.output = (command.imported surroundings).output ∧
      (call arguments surroundings).trace.workspace =
        (command.imported surroundings).workspace := by
  rcases produces.exists_ends legible with ⟨exit, ends⟩
  cases ends with
  | aborted overlooked =>
      rcases call_of_overlooks accepted overlooked with ⟨journal, same⟩
      rw [same]
      exact ⟨rfl, rfl⟩
  | failed refused =>
      rcases call_of_refuses accepted refused with ⟨journal, same⟩
      rw [same]
      exact ⟨rfl, rfl⟩
  | done yielded =>
      exact absurd (exit_of_ends accepted (.done yielded) writable) failed

end Call

/-- A directory with a template and with settings that name the writer. -/
def publishedSite : Surroundings :=
  { workspace :=
      { location := ["work"]
        files :=
          [(["work", "stache.yaml"], "writer_name: out\n"),
            (["work", "page.html"], "<p>\x7b\x7btitle\x7d\x7d</p>\n")] }
    environment := {}
    catalog :=
      { models :=
          [{ name := { moduleName := "models", qualifiedName := "Page" }
             annotations := [("title", .ofClass (.builtin "str"))]
             attributes := []
             bases := [] }]
        constants := [] }
    requestId := "published" }

/-- The options to compile a template against the class of the site. -/
def pageOptions (template : String) (output : Option String) : CompileOptions :=
  { template
    model := "models:Page"
    layout := false
    output
    format := .code
    label := none
    settingsFile := none
    logLevel := none
    logChannels := none }

/-- The module of the class of the site is there already, so that nothing is run for it. -/
theorem imported_publishedSite (template : String) (output : Option String) :
    (compile (pageOptions template output)).imported publishedSite = publishedSite.trace {} := by
  have empty : (publishedSite.catalog.resolveReference publishedSite.modules
      "models:Page").runs.isEmpty = true := by
    decide +kernel
  exact imported_of_imports_eq_nil publishedSite (List.isEmpty_iff.mp empty)

/-- The settings of that site can be read, as there are none. -/
theorem legible_publishedSite (template : String) (output : Option String) :
    Settings.Legible publishedSite.reader
      ((compile (pageOptions template output)).imported publishedSite).workspace
      (compile (pageOptions template output)).settingsPath := by
  have loaded : (Settings.loadWith publishedSite.reader publishedSite.workspace
      publishedSite.environment none).isOk = true := by
    decide +kernel
  rcases Attempt.exists_of_isOk loaded with ⟨settings, settled⟩
  rw [imported_publishedSite]
  exact Settings.legible_of_loadWith settled

end Command

end TypedMustache
