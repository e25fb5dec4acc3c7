import TypedMustache.Text.CharacterClass
import TypedMustache.Text.Quoted
import TypedMustache.Text.Split

/-!
# Grammars of command lines

A program is called with switches, which start with a dash and have names, and
with operands, which are told apart by their places.  A `Grammar` says which
switches there are and how many operands.  A `Word` is an argument of which it
is known whether it is a switch.

A long name may be abbreviated as long as only one switch has a name that starts
so, and a value may be joined to it by an equals sign.  A value may directly
follow a short name.  What looks like a negative number, or has a space in it,
is an operand even if it starts with a dash.
-/

namespace TypedMustache.CommandLine

/-- An argument that starts with a dash and is known by name. -/
structure Switch where
  /-- All its names, short ones first. -/
  names : List String
  /-- What it is for. -/
  purpose : String
  /-- Whether a value goes with it. -/
  takesValue : Bool := true
  /-- The values it takes; every value if there are none. -/
  choices : List String := []
  /-- Whether it must be given. -/
  required : Bool := false
  /-- Whether nothing behind it is read. -/
  decisive : Bool := false
deriving DecidableEq, Repr

/-- How a complaint names a switch. -/
def Switch.label (switch : Switch) : String :=
  Text.join "/" switch.names

/-- Whether a switch has a name. -/
def Switch.isNamed (switch : Switch) (name : String) : Bool :=
  switch.names.contains name

/-- The operands of a program. -/
inductive Operands where
  /-- Exactly one. -/
  | one
  /-- At least one, side by side. -/
  | many
  /-- A command, with everything behind it as its own arguments; or nothing. -/
  | command (names : List String)
deriving DecidableEq, Repr

/-- What a program can be called with. -/
structure Grammar where
  program : String
  purpose : String
  switches : List Switch
  /-- How a complaint names the operands. -/
  operandLabel : String
  operands : Operands
deriving DecidableEq, Repr

/-! ## Complaints -/

/-- Why arguments are not accepted. -/
inductive Complaint where
  /-- Several names start like an abbreviated one. -/
  | ambiguous (argument : String) (names : List String)
  /-- A value is given for a switch that takes none. -/
  | unusedValue (label value : String)
  /-- The value of a switch is missing. -/
  | missingValue (label : String)
  /-- A value is none of those that can be chosen. -/
  | invalidChoice (label value : String) (choices : List String)
  /-- Something that must be given is missing. -/
  | missing (labels : List String)
  /-- Some arguments are neither switches nor operands. -/
  | unrecognized (arguments : List String)
deriving DecidableEq, Repr

/-- The complaint in words. -/
def Complaint.message : Complaint → String
  | ambiguous argument names =>
    "ambiguous option: " ++ argument ++ " could match " ++ Text.join ", " names
  | unusedValue label value =>
    "argument " ++ label ++ ": ignored explicit argument " ++ Text.quoted value
  | missingValue label => "argument " ++ label ++ ": expected one argument"
  | invalidChoice label value choices =>
    "argument " ++ label ++ ": invalid choice: " ++ Text.quoted value ++ " (choose from "
      ++ Text.join ", " (choices.map Text.quoted) ++ ")"
  | missing labels => "the following arguments are required: " ++ Text.join ", " labels
  | unrecognized arguments => "unrecognized arguments: " ++ Text.join " " arguments

/-! ## Words -/

/-- A value that is part of the same argument as the name of its switch. -/
structure Attached where
  /-- Whether an equals sign stands between them. -/
  joined : Bool
  value : List Char
deriving DecidableEq, Repr

/-- A switch as it was found in an argument. -/
structure Finding where
  name : String
  switch : Switch
  attached : Option Attached
deriving DecidableEq, Repr

/-- Whether the switch was found by a name with one dash. -/
def Finding.isShort (finding : Finding) : Bool :=
  finding.name.toList[1]? != some '-'

/-- An argument. -/
inductive Word where
  | operand (text : String)
  | switch (text : String) (finding : Finding)
  /-- An argument that looks like a switch that is not known. -/
  | unknown (text : String)
deriving DecidableEq, Repr

/-- The argument itself. -/
def Word.text : Word → String
  | operand text | switch text _ | unknown text => text

namespace Grammar

/-- All names of switches in order. -/
def namedSwitches (grammar : Grammar) : List (String × Switch) :=
  grammar.switches.flatMap fun switch => switch.names.map fun name => (name, switch)

/-- The switch of a name. -/
def switch? (grammar : Grammar) (name : String) : Option Switch :=
  grammar.namedSwitches.lookup name

/-- A name and the value joined to it. -/
def splitJoined (text : List Char) : List Char × Option Attached :=
  match Text.cut ['='] text with
  | some (name, value) => (name, some { joined := true, value })
  | none => (text, none)

/-- The switches that an argument with a dash in front may mean. -/
def candidates (grammar : Grammar) (text : List Char) : List Finding :=
  if text[1]? == some '-' then
    let (start, attached) := splitJoined text
    grammar.namedSwitches.filterMap fun (name, switch) =>
      if start.isPrefixOf name.toList then some { name, switch, attached } else none
  else
    grammar.namedSwitches.filterMap fun (name, switch) =>
      if name.toList == text.take 2 then
        some { name, switch, attached := some { joined := false, value := text.drop 2 } }
      else if text.isPrefixOf name.toList then some { name, switch, attached := none }
      else none

/-- Whether a text is a minus sign and a number; a line feed may follow. -/
def looksNegative (text : List Char) : Bool :=
  match text with
  | '-' :: number =>
    let number := if number.getLast? == some '\n' then number.dropLast else number
    match number.dropWhile Text.isDecimalDigit with
    | [] => !number.isEmpty
    | '.' :: fraction => !fraction.isEmpty && fraction.all Text.isDecimalDigit
    | _ => false
  | _ => false

/-- Find out whether an argument is a switch. -/
def classify (grammar : Grammar) (text : String) : Except Complaint Word :=
  let chars := text.toList
  if chars.head? != some '-' then .ok (.operand text)
  else
    match grammar.switch? text with
    | some switch => .ok (.switch text { name := text, switch, attached := none })
    | none =>
      if chars.length = 1 then .ok (.operand text)
      else
        let (start, attached) := splitJoined chars
        let name := String.ofList start
        match attached, grammar.switch? name with
        | some attached, some switch =>
          .ok (.switch text { name, switch, attached := some attached })
        | _, _ =>
          match grammar.candidates chars with
          | [finding] => .ok (.switch text finding)
          | [] =>
            if looksNegative chars || chars.contains ' ' then .ok (.operand text)
            else .ok (.unknown text)
          | several => .error (.ambiguous text (several.map (·.name)))

end Grammar

end TypedMustache.CommandLine
