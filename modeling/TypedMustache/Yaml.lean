import TypedMustache.Yaml.Node
import TypedMustache.Yaml.Scalar

/-!
# Reading YAML

`Yaml.parse` reads the one document of a YAML text.  Anchors name nodes that
aliases repeat later on or, for a collection, inside it.  An entry with the key
`<<` stands for the entries of other mappings, which explicit entries override.
Keys are data that can be looked up.
-/

namespace TypedMustache.Yaml

/-- The data that anchors name so far. -/
abbrev Anchors := List (String × Datum)

/-- What a node means depends on the anchors before it. -/
abbrev Meaning (α : Type) := StateT Anchors Option α

/-- The name of the tag for a kind of data. -/
def tagOf : Datum → String
  | .null => "!!null"
  | .boolean _ => "!!bool"
  | .integer _ => "!!int"
  | .number _ => "!!float"
  | .text _ | .brokenText _ => "!!str"
  | .bytes _ => "!!binary"
  | .moment _ => "!!timestamp"
  | .sequence _ | .tuple _ | .enclosing _ => "!!seq"
  | .set _ => "!!set"
  | .mapping _ => "!!map"

/-- The keys of entries, each once. -/
def distinctKeys (entries : List (Datum × Datum)) : List Datum :=
  entries.foldl (fun kept entry =>
    if kept.any (·.same entry.1) then kept else kept ++ [entry.1]) []

/-- The datum of a scalar with a tag, which can make something else of it or confirm what it is. -/
def taggedScalar? (tag text : String) : Option Datum :=
  match tag with
  | "!!str" => some (.text text)
  | "!!binary" => (bytes? text).map .bytes
  | "!!null" => some .null
  | "!" => plainMeaning? text
  | _ => (plainMeaning? text).filter (tagOf · == tag)

/-- The datum of a collection with a tag. -/
def taggedCollection? (tag : String) : Datum → Option Datum
  | .mapping entries =>
    match tag with
    | "!" | "!!map" => some (.mapping entries)
    | "!!set" => some (.set (distinctKeys entries))
    | _ => none
  | datum => if tag == "!" || tagOf datum == tag then some datum else none

/-- The sort of collection that a node is, if it is one. -/
def collectionOf? : Node → Option Datum.Collection
  | .sequence _ => some .sequence
  | .mapping _ => some .mapping
  | .tagged "!!set" (.mapping _) => some .set
  | .tagged _ node => collectionOf? node
  | _ => none

/-- Whether the items of a sequence with a tag are mappings that stand for pairs. -/
def holdsPairs (tag : String) : Bool :=
  tag == "!!omap" || tag == "!!pairs"

/-- The entries that merging a datum adds. -/
def merged? : Datum → Option (List (Datum × Datum))
  | .mapping entries => some entries
  | .sequence items =>
    items.reverse.foldlM (fun entries item =>
      match item with
      | .mapping more => some (entries ++ more)
      | _ => none) []
  | _ => none

/-- Whether a node is the key of entries to be merged. -/
def isMergeKey : Node → Bool
  | .scalar text plain => plain && text == "<<"
  | _ => false

mutual

/-- What a node means. -/
def meaning : Node → Meaning Datum
  | .scalar text plain => if plain then plainMeaning? text else some (.text text)
  | .sequence items => do return .sequence (← meanings items)
  | .mapping entries => do
    let (merged, own) ← entriesMeaning entries
    return .mapping (merged ++ own)
  | .repeated name => do
    match (← get).lookup name with
    | some datum => return datum
    | none => failure
  | .anchored name node => do
    let known ← get
    if (known.lookup name).isSome then failure
    else
      -- Inside a collection its name already means the collection.
      match collectionOf? node with
      | some collection => set ((name, .enclosing collection) :: known)
      | none => pure ()
      let datum ← meaning node
      modify ((name, datum) :: ·)
      return datum
  | .tagged tag (.scalar text _) => taggedScalar? tag text
  | .tagged tag (.sequence items) => do
    if holdsPairs tag then return .sequence (← pairsMeaning items)
    else
      let datum := Datum.sequence (← meanings items)
      taggedCollection? tag datum
  | .tagged tag node => do
    let datum ← meaning node
    taggedCollection? tag datum

/-- What the items of a sequence mean. -/
def meanings : List Node → Meaning (List Datum)
  | [] => return []
  | item :: rest => do
    let datum ← meaning item
    return datum :: (← meanings rest)

/-- What the items of a sequence of pairs mean. -/
def pairsMeaning : List Node → Meaning (List Datum)
  | [] => return []
  | .mapping [(key, value)] :: rest => do
    let first ← meaning key
    let second ← meaning value
    return .tuple [first, second] :: (← pairsMeaning rest)
  | _ => failure

/-- What the entries of a mapping mean: those that are merged, and its own. -/
def entriesMeaning : List (Node × Node) → Meaning (List (Datum × Datum) × List (Datum × Datum))
  | [] => return ([], [])
  | (key, value) :: rest => do
    if isMergeKey key then
      let datum ← meaning value
      let more ← (merged? datum : Option _)
      let (merged, own) ← entriesMeaning rest
      return (more ++ merged, own)
    else
      let name ← match key with
        | .scalar "=" true => pure (.text "=")
        | other => meaning other
      if name.unhashable?.isSome then failure
      else
        let datum ← meaning value
        let (merged, own) ← entriesMeaning rest
        return (merged, (name, datum) :: own)

end

/-- The datum of the one document of a text; no value if the text is empty. -/
def parse (text : String) : Option Datum := do
  let tokens ← tokens text.toList
  match ← Node.ofTokens tokens with
  | none => return .null
  | some node => (meaning node).run' []

end TypedMustache.Yaml
