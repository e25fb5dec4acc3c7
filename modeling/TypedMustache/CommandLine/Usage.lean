import TypedMustache.CommandLine.Grammar
import TypedMustache.Text.LetterCase

/-!
# Usage texts
-/

namespace TypedMustache.CommandLine

/-- Stands for the value of a switch in a usage text. -/
def Switch.placeholder (switch : Switch) : String :=
  if switch.choices.isEmpty then
    let name := (switch.names.getLastD "").toList.dropWhile (· == '-')
    String.ofList (Text.upperCase (name.map fun char => if char == '-' then '_' else char))
  else "\x7b" ++ Text.join "," switch.choices ++ "\x7d"

/-- A name of a switch, with its value. -/
def Switch.spelled (switch : Switch) (name : String) : String :=
  if switch.takesValue then name ++ " " ++ switch.placeholder else name

/-- A switch in a usage line. -/
def Switch.usage (switch : Switch) : String :=
  let spelled := switch.spelled (switch.names.headD "")
  if switch.required then spelled else "[" ++ spelled ++ "]"

namespace Grammar

/-- The operands in a usage line. -/
def operandUsage (grammar : Grammar) : String :=
  match grammar.operands with
  | .one => grammar.operandLabel
  | .many => grammar.operandLabel ++ " [" ++ grammar.operandLabel ++ " ...]"
  | .command names => "\x7b" ++ Text.join "," names ++ "\x7d ..."

/-- The line that shows how a program is called. -/
def usage (grammar : Grammar) : String :=
  "usage: "
    ++ Text.join " "
      (grammar.program :: grammar.switches.map Switch.usage ++ [grammar.operandUsage])
    ++ "\n"

/-- The text that explains all switches. -/
def help (grammar : Grammar) : String :=
  let lines := grammar.switches.map fun switch =>
    "  " ++ Text.join ", " (switch.names.map switch.spelled) ++ "\n      " ++ switch.purpose
  grammar.usage ++ "\n" ++ grammar.purpose ++ "\n\n" ++ Text.join "\n" lines ++ "\n"

/-- The text with which arguments are refused. -/
def refusal (grammar : Grammar) (complaint : Complaint) : String :=
  grammar.usage ++ grammar.program ++ ": error: " ++ complaint.message ++ "\n"

end Grammar

end TypedMustache.CommandLine
