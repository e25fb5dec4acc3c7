import TypedMustache.Number.Binary64
import TypedMustache.Text.Quoted
import TypedMustache.Text.Split

/-!
# Plain data

A `Datum` is what a JSON or YAML document denotes: a scalar, or a collection of
data.  Data also appear as values inside type annotations, where they are
displayed, compared and looked up.

A YAML document can repeat a collection inside itself.  Such a collection is
given as a tree that ends where the repetition begins.
-/

namespace TypedMustache

/-- What holds other data. -/
inductive Datum.Collection where
  | sequence
  | tuple
  | set
  | mapping
deriving DecidableEq, Repr

/-- A value of a JSON or YAML document. -/
inductive Datum where
  | null
  | boolean (value : Bool)
  | integer (value : Int)
  | number (value : Binary64)
  | text (value : String)
  /-- A text of code points some of which are surrogates, and no characters. -/
  | brokenText (codes : List Nat)
  | bytes (octets : List UInt8)
  /-- A date or a point in time, as it was written. -/
  | moment (written : String)
  | sequence (items : List Datum)
  /-- A sequence that cannot be changed. -/
  | tuple (items : List Datum)
  | set (items : List Datum)
  | mapping (entries : List (Datum × Datum))
  /-- A collection that this datum is a part of. -/
  | enclosing (collection : Datum.Collection)

namespace Datum

/-! ## Display -/

/-- One code point of a quoted display; surrogates are spelled by number. -/
def displayCode (quote : Char) (code : Nat) : List Char :=
  if code.isValidChar then Text.quotedChar quote (Char.ofNat code)
  else ['\\', 'u'] ++ Text.hexDigits 4 code

/-- Code points between quotes. -/
def displayCodes (codes : List Nat) : String :=
  let quote := Text.quoteFor (codes.map Char.ofNat)
  String.ofList (quote :: codes.flatMap (displayCode quote) ++ [quote])

/-- One byte of a quoted display. -/
def displayOctet (quote : Char) (octet : UInt8) : List Char :=
  let char := Char.ofNat octet.toNat
  if octet.toNat < 0x80 then Text.quotedChar quote char else Text.escapeByNumber char

/-- Bytes between quotes. -/
def displayBytes (octets : List UInt8) : String :=
  let quote := Text.quoteFor (octets.map fun octet => Char.ofNat octet.toNat)
  String.ofList ('b' :: quote :: octets.flatMap (displayOctet quote) ++ [quote])

/-- The display of items between the marks of a collection. -/
def displayCollection (collection : Collection) (items : List String) : String :=
  match collection, items with
  | .sequence, items => "[" ++ Text.join ", " items ++ "]"
  | .tuple, [single] => "(" ++ single ++ ",)"
  | .tuple, items => "(" ++ Text.join ", " items ++ ")"
  | .set, [] => "set()"
  | .set, items | .mapping, items => "\x7b" ++ Text.join ", " items ++ "\x7d"

/-- A collection that is not displayed once more. -/
def displayEnclosing : Collection → String
  | .set => "set(...)"
  | .tuple => "(...)"
  | collection => displayCollection collection ["..."]

mutual

/-- How a datum is displayed: texts are quoted, and the constants are capitalised. -/
def display : Datum → String
  | null => "None"
  | boolean true => "True"
  | boolean false => "False"
  | integer value => toString value
  | number value => value.display
  | text value => Text.quoted value
  | brokenText codes => displayCodes codes
  | bytes octets => displayBytes octets
  | moment written => written
  | sequence items => displayCollection .sequence (displayItems items)
  | tuple items => displayCollection .tuple (displayItems items)
  | set items => displayCollection .set (displayItems items)
  | mapping entries => displayCollection .mapping (displayEntries entries)
  | enclosing collection => displayEnclosing collection

/-- The displays of several data. -/
def displayItems : List Datum → List String
  | [] => []
  | item :: rest => display item :: displayItems rest

/-- The displays of the entries of a mapping. -/
def displayEntries : List (Datum × Datum) → List String
  | [] => []
  | (key, value) :: rest => (display key ++ ": " ++ display value) :: displayEntries rest

end

/-! ## Comparison -/

mutual

/--
Whether two data are equal.  Truth values count as the numbers one and zero, whole
and floating-point numbers are compared by value, and sets and mappings without
regard to order.
-/
def same : Datum → Datum → Bool
  | null, null => true
  | boolean a, other => sameInt (if a then 1 else 0) other
  | integer a, other => sameInt a other
  | number a, number b => a.equals b
  | number a, integer b => a.equalsInt b
  | number a, boolean b => a.equalsInt (if b then 1 else 0)
  | text a, text b => a == b
  | brokenText a, brokenText b => a == b
  | bytes a, bytes b => a == b
  | moment a, moment b => a == b
  | sequence items, sequence others | tuple items, tuple others => sameItems items others
  | set items, set others => items.length == others.length && allAmong items others
  | enclosing a, enclosing b => a == b
  | mapping entries, mapping others => entries.length == others.length && within entries others
  | _, _ => false
where
  /-- Whether a datum has the value of a whole number. -/
  sameInt (whole : Int) : Datum → Bool
    | boolean b => whole == (if b then 1 else 0)
    | integer b => whole == b
    | number b => b.equalsInt whole
    | _ => false

/-- Whether two sequences are equal item by item. -/
def sameItems : List Datum → List Datum → Bool
  | [], [] => true
  | item :: rest, other :: others => same item other && sameItems rest others
  | _, _ => false

/-- Whether every item has an equal one among the others. -/
def allAmong : List Datum → List Datum → Bool
  | [], _ => true
  | item :: rest, others => others.any (fun other => same item other) && allAmong rest others

/-- Whether every entry has an equal one among the others. -/
def within : List (Datum × Datum) → List (Datum × Datum) → Bool
  | [], _ => true
  | (key, value) :: rest, others =>
    others.any (fun other => same key other.1 && same value other.2) && within rest others

end

/-! ## Sorts -/

/-- The name of the sort of a collection. -/
def Collection.sort : Collection → String
  | sequence => "list"
  | tuple => "tuple"
  | set => "set"
  | mapping => "dict"

mutual

/-- The sort of the part of a datum that cannot be looked up in a table, and none if it can. -/
def unhashable? : Datum → Option String
  | sequence _ => some Collection.sequence.sort
  | tuple items => unhashableItem? items
  | set _ => some Collection.set.sort
  | mapping _ => some Collection.mapping.sort
  | enclosing collection => some collection.sort
  | _ => none

/-- The sort of the first part of several data that cannot be looked up in a table. -/
def unhashableItem? : List Datum → Option String
  | [] => none
  | item :: rest => (unhashable? item).or (unhashableItem? rest)

end

/-- Whether two data are of one sort. -/
def sameSort : Datum → Datum → Bool
  | null, null | boolean _, boolean _ | integer _, integer _ | number _, number _ => true
  | text _, text _ | brokenText _, brokenText _ => true
  | text _, brokenText _ | brokenText _, text _ => true
  | bytes _, bytes _ | moment _, moment _ => true
  | sequence _, sequence _ | tuple _, tuple _ | set _, set _ | mapping _, mapping _ => true
  | enclosing a, enclosing b => a == b
  | _, _ => false

/-- The value of the last entry whose key is a given text. -/
def get? (entries : List (Datum × Datum)) (key : String) : Option Datum :=
  (entries.reverse.find? fun entry =>
    match entry.1 with
    | text name => name == key
    | _ => false).map (·.2)

/-- A mapping with texts as keys. -/
def record (fields : List (String × Datum)) : Datum :=
  mapping (fields.map fun field => (text field.1, field.2))

end Datum

end TypedMustache
