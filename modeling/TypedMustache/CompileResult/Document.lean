import TypedMustache.CompileResult
import TypedMustache.Diagnostic
import TypedMustache.Json.Reader
import TypedMustache.Json.Writer
import TypedMustache.Settings

/-!
# Saved compile results

A compile result is saved as a JSON document and read back from one.  Reading is
lenient with truth values and ignores entries it does not know.  A document that
is no compile result is refused with the number of its problems.
-/

namespace TypedMustache

/-! ## Writing -/

/-- A fragment as a record. -/
def Fragment.toDatum (fragment : Fragment) : Datum :=
  .record
    [("variant", .text fragment.variant), ("code", .text fragment.code),
      ("found_yield", .boolean fragment.foundYield)]

/-- A compile result as a record. -/
def CompileResult.toDatum (result : CompileResult) : Datum :=
  .record
    [("request_id", .text result.requestId), ("template_name", .text result.template),
      ("data_module", .text result.dataModule), ("data_qualname", .text result.dataName),
      ("layout", .boolean result.layout),
      ("fragments", .sequence (result.fragments.map Fragment.toDatum))]

/-- A compile result as a JSON document. -/
def CompileResult.toJson (result : CompileResult) (indent : Nat) : String :=
  Json.render indent result.toDatum

/-! ## Reading -/

/-- A value that was read, or the number of problems met instead. -/
abbrev Checked := Except Nat

namespace Checked

/-- The number of problems met. -/
def problems {α : Type} : Checked α → Nat
  | .ok _ => 0
  | .error count => count

/-- The value of an entry that holds a text; it has to be there. -/
def text (entries : List (Datum × Datum)) (name : String) : Checked String :=
  match Datum.get? entries name with
  | some (.text value) => .ok value
  | _ => .error 1

/-- The value of an entry that holds a truth value, false if it is not there. -/
def flag (entries : List (Datum × Datum)) (name : String) : Checked Bool :=
  match Datum.get? entries name with
  | none => .ok false
  | some datum =>
    match datum.flag with
    | .ok value => .ok value
    | .error _ => .error 1

/-- All values of a list, or the number of problems in the whole list. -/
def all {α : Type} : List (Checked α) → Checked (List α)
  | [] => .ok []
  | first :: rest =>
    match first, all rest with
    | .ok value, .ok values => .ok (value :: values)
    | first, rest => .error (first.problems + rest.problems)

end Checked

/-- The fragment that a record describes. -/
def Fragment.ofDatum : Datum → Checked Fragment
  | .mapping entries =>
    let variant := Checked.text entries "variant"
    let code := Checked.text entries "code"
    let foundYield := Checked.flag entries "found_yield"
    match variant, code, foundYield with
    | .ok variant, .ok code, .ok foundYield => .ok { variant, code, foundYield }
    | _, _, _ => .error (variant.problems + code.problems + foundYield.problems)
  | _ => .error 1

/-- The fragments of a record; none if there is no entry for them. -/
def CompileResult.fragmentsOf (entries : List (Datum × Datum)) : Checked (List Fragment) :=
  match Datum.get? entries "fragments" with
  | none => .ok []
  | some (.sequence items) => .all (items.map Fragment.ofDatum)
  | some _ => .error 1

/-- The compile result that a record describes. -/
def CompileResult.ofDatum : Datum → Checked CompileResult
  | .mapping entries =>
    let requestId := Checked.text entries "request_id"
    let template := Checked.text entries "template_name"
    let dataModule := Checked.text entries "data_module"
    let dataName := Checked.text entries "data_qualname"
    let layout := Checked.flag entries "layout"
    let fragments := fragmentsOf entries
    match requestId, template, dataModule, dataName, layout, fragments with
    | .ok requestId, .ok template, .ok dataModule, .ok dataName, .ok layout, .ok fragments =>
      .ok { requestId, template, dataModule, dataName, layout, fragments }
    | _, _, _, _, _, _ =>
      .error (requestId.problems + template.problems + dataModule.problems + dataName.problems
        + layout.problems + fragments.problems)
  | _ => .error 1

/-- Read a JSON document; `source` says where it comes from. -/
def CompileResult.ofJson (document source : String) : Except Fault CompileResult :=
  match Json.parse document with
  | none => .error (.notAResult source 1)
  | some datum =>
    match CompileResult.ofDatum datum with
    | .ok result => .ok result
    | .error problems => .error (.notAResult source problems)

end TypedMustache
