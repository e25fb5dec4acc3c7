import TypedMustache.CompileResult
import TypedMustache.Journal.Notice
import TypedMustache.Scope.Statement
import TypedMustache.Text.LetterCase
import TypedMustache.Text.Split
import TypedMustache.Text.Word

/-!
# Render modules

The fragments of compile results are assembled into one module of generated
code.  Each fragment becomes a function that takes the data and a writer.  A
prefix tells the functions of several templates apart.
-/

namespace TypedMustache

namespace RenderModule

/-- The version that generated modules mention. -/
def version : String := "0.1.0"

/-- The module that generated code imports its helpers from. -/
def helperModule : String := "stache.runtime"

/-! ## Names of functions -/

/-- Turn every run of characters that cannot stand in a name into one underscore. -/
def underscored : List Char → List Char
  | [] => []
  | char :: rest =>
    if Text.isWord char then char :: underscored rest
    else
      match rest with
      | [] => ['_']
      | next :: _ => if Text.isWord next then '_' :: underscored rest else underscored rest

/-- Remove underscores from both ends. -/
def trimUnderscores (text : List Char) : List Char :=
  ((text.dropWhile (· == '_')).reverse.dropWhile (· == '_')).reverse

/-- The part of a function's name that comes from a prefix. -/
def namePart (text : String) : String :=
  Text.lowerCase (String.ofList (trimUnderscores (underscored text.toList)))

/-- The name of the function for a variant; `label` is the prefix of its template, if it has one. -/
def functionName (variant : String) (label : Option String) : String :=
  let labelled :=
    match label with
    | some label => if label.isEmpty then [] else [namePart label]
    | none => []
  let varied := if variant == "full" then [] else [variant]
  Text.join "_" ((["render"] ++ labelled ++ varied).filter (!·.isEmpty))

/-! ## Parts of a module -/

/-- The texts of a list in order, each once. -/
def sortedOnce (texts : List String) : List String :=
  (texts.mergeSort (fun text other => text ≤ other)).eraseReps

/-- The line that imports names from a module. -/
def importLine (moduleName : String) (names : List String) : String :=
  "from " ++ moduleName ++ " import " ++ Text.join ", " (sortedOnce names)

/-- The outermost class of a qualified name. -/
def outermost (name : String) : String :=
  (Text.splitString '.' name).headD ""

/-- The lines that import the helpers and the data types; some data types need no import. -/
def importLines (results : List CompileResult) (settings : Settings) : List String :=
  let imported := results.filter (·.dataModule != "builtins")
  importLine helperModule [escapingWriter, "Writer", settings.escapeFunction] ::
    (sortedOnce (imported.map (·.dataModule))).map fun moduleName =>
      importLine moduleName
        ((imported.filter (·.dataModule == moduleName)).map fun result =>
          outermost result.dataName)

/-- The line that starts the function for a variant. -/
def signature (variant : String) (result : CompileResult) (settings : Settings)
    (label : Option String) : String :=
  "def " ++ functionName variant label ++ "(" ++ settings.dataName ++ ": " ++ result.dataName
    ++ ", " ++ settings.writerName ++ ": Writer) -> None:"

/-- The line that documents the function for a variant. -/
def documentation (variant : String) (result : CompileResult) (settings : Settings) : String :=
  settings.indent ++ "\"\"\"Render " ++ result.template ++ " (" ++ variant ++ ").\"\"\""

/-- The code of a function: that of its fragment, or a statement that does nothing. -/
def body (fragment : Fragment) (settings : Settings) : String :=
  if fragment.isBlank then settings.indent ++ "pass" else Text.dropFinalNewlines fragment.code

/-- The lines of the function around a fragment, joined. -/
def renderFunction (fragment : Fragment) (result : CompileResult) (settings : Settings)
    (label : Option String) : String :=
  Text.join "\n"
    [signature fragment.variant result settings label,
      documentation fragment.variant result settings, body fragment settings] ++ "\n"

/-- The functions of a compile result. -/
def renderFunctions (settings : Settings) (labels : List (String × String))
    (result : CompileResult) : List String :=
  result.fragments.map fun fragment =>
    renderFunction fragment result settings (labels.lookup result.template)

/-- The comments at the head of a module. -/
def heading (results : List CompileResult) : List String :=
  ["# Generated by stache " ++ version ++ " from " ++ Text.join ", " (results.map (·.template))
    ++ ". Do not edit.", "# flake8: noqa"]

/-- The text of a module; `labels` are the prefixes of templates. -/
def generate (results : List CompileResult) (settings : Settings)
    (labels : List (String × String)) : String :=
  let functions := results.flatMap (renderFunctions settings labels)
  Text.join "\n" <|
    heading results ++ [""] ++ importLines results settings ++ [""]
      ++ functions.flatMap fun function => ["", function]

/-- The notice given when a module was assembled. -/
def notice (results : List CompileResult) : Journal.Notice :=
  .moduleGenerated results.length (results.flatMap (·.fragments)).length

end RenderModule

end TypedMustache
