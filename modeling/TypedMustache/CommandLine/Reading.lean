import TypedMustache.CommandLine.Grammar

/-!
# Reading command lines

Arguments are read from left to right.  The operands are the first ones that are
met; if there can be many, they stand side by side.  Behind a lone `--` there
are no switches.  What is no operand and no known switch is set aside.

The first complaint ends the reading, and so does a decisive switch.
-/

namespace TypedMustache.CommandLine

/-- How far the operands have been read. -/
inductive Progress where
  /-- There was none yet. -/
  | awaiting
  /-- Further ones may follow at once. -/
  | gathering
  /-- There are no further ones, but the mark for the end of switches may follow at once. -/
  | closing
  | complete
deriving DecidableEq, Repr

/-- Something else than an operand comes next. -/
def Progress.interrupted : Progress → Progress
  | awaiting => awaiting
  | gathering | closing | complete => complete

/-- What has been read. -/
structure Reading where
  /-- The switches, with their values. -/
  switches : List (Switch × Option String) := []
  operands : List String := []
  /-- What was set aside. -/
  extras : List String := []
  progress : Progress := .awaiting
deriving DecidableEq, Repr

/-- Why reading ended early. -/
inductive Halt where
  | complaint (complaint : Complaint)
  | decisive (switch : Switch)
deriving DecidableEq, Repr

namespace Reading

/-- Whether a switch was given. -/
def has (reading : Reading) (name : String) : Bool :=
  reading.switches.any (·.1.isNamed name)

/-- The value of a switch; the last one counts. -/
def value? (reading : Reading) (name : String) : Option String :=
  (reading.switches.reverse.find? (·.1.isNamed name)).bind (·.2)

/-- Set an argument aside. -/
def setAside (reading : Reading) (text : String) : Reading :=
  { reading with extras := reading.extras ++ [text], progress := reading.progress.interrupted }

/-- Take a switch. -/
def takeSwitch (reading : Reading) (taken : Switch × Option String) : Except Halt Reading :=
  let (switch, value) := taken
  match value with
  | none =>
    if switch.decisive then .error (.decisive switch)
    else
      .ok { reading with
        switches := reading.switches ++ [taken], progress := reading.progress.interrupted }
  | some value =>
    if switch.choices.isEmpty || switch.choices.contains value then
      .ok { reading with
        switches := reading.switches ++ [taken], progress := reading.progress.interrupted }
    else .error (.complaint (.invalidChoice switch.label value switch.choices))

/-- Take several switches in order. -/
def takeSwitches (reading : Reading) (taken : List (Switch × Option String)) :
    Except Halt Reading :=
  taken.foldlM takeSwitch reading

end Reading

/-! ## Short switches in one argument -/

/-- How the switches in an argument end. -/
inductive Ending where
  /-- A switch without a value; if it takes one, that is the next argument. -/
  | bare (switch : Switch)
  /-- A switch with its value. -/
  | valued (switch : Switch) (value : String)
  /-- Characters that are no switch. -/
  | leftover (text : String)
deriving DecidableEq, Repr

/-- The switches in one argument: some that take no value, and the last one. -/
structure Cluster where
  flags : List Switch := []
  ending : Ending
deriving DecidableEq, Repr

namespace Grammar

/--
The switches in an argument with a value attached to the first one.  What is
attached to a short switch that takes no value is further short switches.
-/
def cluster (grammar : Grammar) (switch : Switch) (isShort joined : Bool) (value : List Char) :
    Except Complaint Cluster :=
  if switch.takesValue then .ok { ending := .valued switch (String.ofList value) }
  else
    match value with
    | [] => .error (.unusedValue switch.label "")
    | char :: rest =>
      if !isShort || joined || char == '-' then
        .error (.unusedValue switch.label (String.ofList (char :: rest)))
      else
        match grammar.switch? (String.ofList ['-', char]) with
        | none =>
          .ok { flags := [switch], ending := .leftover (String.ofList ('-' :: char :: rest)) }
        | some next =>
          match rest with
          | [] => .ok { flags := [switch], ending := .bare next }
          | '=' :: later =>
            (grammar.cluster next true true later).map fun cluster =>
              { cluster with flags := switch :: cluster.flags }
          | following :: later =>
            (grammar.cluster next true false (following :: later)).map fun cluster =>
              { cluster with flags := switch :: cluster.flags }
termination_by value.length

/-- The switches in an argument. -/
def clusterOf (grammar : Grammar) (finding : Finding) : Except Complaint Cluster :=
  match finding.attached with
  | none => .ok { ending := .bare finding.switch }
  | some attached =>
    grammar.cluster finding.switch finding.isShort attached.joined attached.value

/-! ## All arguments -/

/-- The mark for the end of switches, and how the rest is read; `none` if there is no mark. -/
def readRest (grammar : Grammar) (reading : Reading) : Option (List String) → Except Halt Reading
  | none => .ok reading
  | some rest =>
    match reading.progress with
    | .gathering => .ok { reading with operands := reading.operands ++ rest }
    | .closing => .ok { reading with extras := reading.extras ++ rest }
    | .complete => .ok { reading with extras := reading.extras ++ "--" :: rest }
    | .awaiting =>
      match rest with
      | [] => .ok { reading with extras := reading.extras ++ ["--"] }
      | first :: others =>
        match grammar.operands with
        | .one =>
          .ok { reading with
            operands := [first], extras := reading.extras ++ others, progress := .complete }
        | .many => .ok { reading with operands := rest, progress := .complete }
        | .command names =>
          .error (.complaint (.invalidChoice grammar.operandLabel "--" names))

/-- Read words, and then what stands behind the mark for the end of switches. -/
def readWords (grammar : Grammar) (rest : Option (List String)) (reading : Reading) :
    List Word → Except Halt Reading
  | [] => grammar.readRest reading rest
  | .unknown text :: words => grammar.readWords rest (reading.setAside text) words
  | .operand text :: words =>
    match reading.progress with
    | .gathering =>
      grammar.readWords rest { reading with operands := reading.operands ++ [text] } words
    | .closing | .complete => grammar.readWords rest (reading.setAside text) words
    | .awaiting =>
      match grammar.operands with
      | .one =>
        grammar.readWords rest { reading with operands := [text], progress := .closing } words
      | .many =>
        grammar.readWords rest { reading with operands := [text], progress := .gathering } words
      | .command names =>
        if names.contains text then
          let marked := (rest.map ("--" :: ·)).getD []
          .ok { reading with
            operands := text :: (words.map Word.text ++ marked), progress := .complete }
        else .error (.complaint (.invalidChoice grammar.operandLabel text names))
  | .switch _ finding :: words =>
    match grammar.clusterOf finding with
    | .error complaint => .error (.complaint complaint)
    | .ok cluster =>
      let flags := cluster.flags.map fun flag => (flag, none)
      match cluster.ending with
      | .leftover text =>
        match (reading.setAside text).takeSwitches flags with
        | .error halt => .error halt
        | .ok reading => grammar.readWords rest reading words
      | .valued switch value =>
        match reading.takeSwitches (flags ++ [(switch, some value)]) with
        | .error halt => .error halt
        | .ok reading => grammar.readWords rest reading words
      | .bare switch =>
        if switch.takesValue then
          match words with
          | .operand value :: later =>
            match reading.takeSwitches (flags ++ [(switch, some value)]) with
            | .error halt => .error halt
            | .ok reading => grammar.readWords rest reading later
          | _ => .error (.complaint (.missingValue switch.label))
        else
          match reading.takeSwitches (flags ++ [(switch, none)]) with
          | .error halt => .error halt
          | .ok reading => grammar.readWords rest reading words

/-- What must be given and was not. -/
def missing (grammar : Grammar) (reading : Reading) : List String :=
  let operands :=
    match grammar.operands with
    | .command _ => []
    | .one | .many => if reading.operands.isEmpty then [grammar.operandLabel] else []
  let unset := grammar.switches.filter fun switch =>
    switch.required && !reading.switches.any (·.1 = switch)
  operands ++ unset.map Switch.label

/-- Read the arguments of a program. -/
def read (grammar : Grammar) (arguments : List String) : Except Halt Reading :=
  let front := arguments.takeWhile (· != "--")
  let rest :=
    match arguments.dropWhile (· != "--") with
    | [] => none
    | _ :: rest => some rest
  match front.mapM grammar.classify with
  | .error complaint => .error (.complaint complaint)
  | .ok words =>
    match grammar.readWords rest {} words with
    | .error halt => .error halt
    | .ok reading =>
      match grammar.missing reading with
      | [] => .ok reading
      | labels => .error (.complaint (.missing labels))

end Grammar

end TypedMustache.CommandLine
