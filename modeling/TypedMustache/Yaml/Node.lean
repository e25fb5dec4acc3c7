import TypedMustache.Yaml.Token

/-!
# Trees of YAML

The tokens of a document form a tree of scalars, sequences and mappings.  What is
left out between marks counts as an empty scalar.  The `fuel` argument of the
readers bounds their recursion by the number of tokens.
-/

namespace TypedMustache.Yaml

/-- A node of a YAML document. -/
inductive Node where
  | scalar (text : String) (plain : Bool)
  | sequence (items : List Node)
  | mapping (entries : List (Node × Node))
  /-- What was given before under a name. -/
  | repeated (name : String)
  | anchored (name : String) (node : Node)
  | tagged (tag : String) (node : Node)

namespace Node

/-- What is left out. -/
def empty : Node := scalar "" true

/-- Whether the next token is one of several. -/
def nextIs (marks : List Token) (tokens : List Token) : Bool :=
  match tokens.head? with
  | some token => marks.contains token
  | none => false

mutual

/-- Read a node; in a block it can be a block itself, and in some places a bare list of dashes. -/
def read (inBlock bareList : Bool) : Nat → List Token → Option (Node × List Token)
  | 0, _ => none
  | fuel + 1, tokens =>
    match tokens with
    | .repeated name :: rest => some (repeated name, rest)
    | .anchor name :: .tag tag :: rest => do
      let (node, after) ← readContent inBlock bareList true fuel rest
      return (anchored name (tagged tag node), after)
    | .anchor name :: rest => do
      let (node, after) ← readContent inBlock bareList true fuel rest
      return (anchored name node, after)
    | .tag tag :: .anchor name :: rest => do
      let (node, after) ← readContent inBlock bareList true fuel rest
      return (anchored name (tagged tag node), after)
    | .tag tag :: rest => do
      let (node, after) ← readContent inBlock bareList true fuel rest
      return (tagged tag node, after)
    | tokens => readContent inBlock bareList false fuel tokens

/-- Read a node without the marks before it; behind such marks it can be left out. -/
def readContent (inBlock bareList marked : Bool) : Nat → List Token → Option (Node × List Token)
  | 0, _ => none
  | fuel + 1, tokens =>
    match tokens with
    | .scalar text plain :: rest => some (scalar text plain, rest)
    | .flowSequenceStart :: rest => do
      let (items, after) ← readFlowItems true fuel rest
      return (sequence items, after)
    | .flowMappingStart :: rest => do
      let (entries, after) ← readFlowEntries true fuel rest
      return (mapping entries, after)
    | .blockEntry :: rest =>
      if bareList then do
        let (items, after) ← readBareItems fuel (.blockEntry :: rest)
        return (sequence items, after)
      else if marked then some (empty, tokens) else none
    | .blockSequenceStart :: rest =>
      if inBlock then do
        let (items, after) ← readBlockItems fuel rest
        return (sequence items, after)
      else if marked then some (empty, tokens) else none
    | .blockMappingStart :: rest =>
      if inBlock then do
        let (entries, after) ← readBlockEntries fuel rest
        return (mapping entries, after)
      else if marked then some (empty, tokens) else none
    | _ => if marked then some (empty, tokens) else none

/-- Read a node unless one of several marks says that it is left out. -/
def readUnless (marks : List Token) (inBlock bareList : Bool) :
    Nat → List Token → Option (Node × List Token)
  | 0, _ => none
  | fuel + 1, tokens =>
    if nextIs marks tokens then some (empty, tokens) else read inBlock bareList fuel tokens

/-- Read the items of a block sequence and its end. -/
def readBlockItems : Nat → List Token → Option (List Node × List Token)
  | 0, _ => none
  | fuel + 1, tokens =>
    match tokens with
    | .blockEntry :: rest => do
      let (item, after) ← readUnless [.blockEntry, .blockEnd] true false fuel rest
      let (items, last) ← readBlockItems fuel after
      return (item :: items, last)
    | .blockEnd :: rest => some ([], rest)
    | _ => none

/-- Read the items of a list of dashes that is not indented. -/
def readBareItems : Nat → List Token → Option (List Node × List Token)
  | 0, _ => none
  | fuel + 1, tokens =>
    match tokens with
    | .blockEntry :: rest => do
      let (item, after) ← readUnless [.blockEntry, .key, .value, .blockEnd] true false fuel rest
      let (items, last) ← readBareItems fuel after
      return (item :: items, last)
    | tokens => some ([], tokens)

/-- Read the entries of a block mapping and its end. -/
def readBlockEntries : Nat → List Token → Option (List (Node × Node) × List Token)
  | 0, _ => none
  | fuel + 1, tokens =>
    match tokens with
    | .blockEnd :: rest => some ([], rest)
    | .key :: rest => do
      let (key, after) ← readUnless [.key, .value, .blockEnd] true true fuel rest
      let (value, next) ← readBlockValue fuel after
      let (entries, last) ← readBlockEntries fuel next
      return ((key, value) :: entries, last)
    | _ => none

/-- Read the value of an entry of a block mapping. -/
def readBlockValue : Nat → List Token → Option (Node × List Token)
  | 0, _ => none
  | fuel + 1, tokens =>
    match tokens with
    | .value :: rest => readUnless [.key, .value, .blockEnd] true true fuel rest
    | tokens => some (empty, tokens)

/-- Read the items of a flow sequence and its end. -/
def readFlowItems (first : Bool) : Nat → List Token → Option (List Node × List Token)
  | 0, _ => none
  | fuel + 1, tokens =>
    match tokens with
    | .flowSequenceEnd :: rest => some ([], rest)
    | tokens => do
      let tokens ←
        if first then some tokens
        else
          match tokens with
          | .flowEntry :: rest => some rest
          | _ => none
      match tokens with
      | .flowSequenceEnd :: rest => return ([], rest)
      | .key :: rest => do
        let (key, after) ← readUnless [.value, .flowEntry, .flowSequenceEnd] false false fuel rest
        let (value, next) ← readFlowValue .flowSequenceEnd fuel after
        let (items, last) ← readFlowItems false fuel next
        return (mapping [(key, value)] :: items, last)
      | tokens => do
        let (item, after) ← read false false fuel tokens
        let (items, last) ← readFlowItems false fuel after
        return (item :: items, last)

/-- Read the entries of a flow mapping and its end. -/
def readFlowEntries (first : Bool) : Nat → List Token → Option (List (Node × Node) × List Token)
  | 0, _ => none
  | fuel + 1, tokens =>
    match tokens with
    | .flowMappingEnd :: rest => some ([], rest)
    | tokens => do
      let tokens ←
        if first then some tokens
        else
          match tokens with
          | .flowEntry :: rest => some rest
          | _ => none
      match tokens with
      | .flowMappingEnd :: rest => return ([], rest)
      | .key :: rest => do
        let (key, after) ← readUnless [.value, .flowEntry, .flowMappingEnd] false false fuel rest
        let (value, next) ← readFlowValue .flowMappingEnd fuel after
        let (entries, last) ← readFlowEntries false fuel next
        return ((key, value) :: entries, last)
      | tokens => do
        let (key, after) ← read false false fuel tokens
        let (entries, last) ← readFlowEntries false fuel after
        return ((key, empty) :: entries, last)

/-- Read the value of an entry inside a flow collection. -/
def readFlowValue (close : Token) : Nat → List Token → Option (Node × List Token)
  | 0, _ => none
  | fuel + 1, tokens =>
    match tokens with
    | .value :: rest => readUnless [.flowEntry, close] false false fuel rest
    | tokens => some (empty, tokens)

end

/-- Read the content of a document, which may be empty. -/
def readDocument (tokens : List Token) : Option (Node × List Token) :=
  match tokens with
  | [] => some (empty, [])
  | .directive :: _ | .documentStart :: _ | .documentEnd :: _ => some (empty, tokens)
  | tokens => read true false (4 * tokens.length + 4) tokens

/-- The node of the only document of a text; none if there is no document. -/
def ofTokens (tokens : List Token) : Option (Option Node) := do
  let (node, rest) ←
    match tokens with
    | [] => some (none, [])
    | .directive :: _ | .documentStart :: _ =>
      match tokens.dropWhile (· == .directive) with
      | .documentStart :: rest => (readDocument rest).map fun (node, rest) => (some node, rest)
      | _ => none
    | tokens =>
      (read true false (4 * tokens.length + 4) tokens).map fun (node, rest) => (some node, rest)
  if (rest.dropWhile (· == .documentEnd)).isEmpty then return node else none

end Node

end TypedMustache.Yaml
