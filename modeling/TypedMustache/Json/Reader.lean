import TypedMustache.Datum

/-!
# Reading JSON

`Json.parse` reads a JSON text.  Besides the grammar of the standard it accepts
`NaN`, `Infinity` and `-Infinity` for numbers.  Nesting is limited.  Whole
numbers have no bound, and other numbers are rounded to binary floating point.
-/

namespace TypedMustache.Json

/-- The white space of JSON. -/
def isSpace (char : Char) : Bool :=
  char == ' ' || char == '\t' || char == '\n' || char == '\r'

/-- Skip white space. -/
def skipSpace (text : List Char) : List Char :=
  text.dropWhile isSpace

/-- The value of a hexadecimal digit. -/
def hexValue? (char : Char) : Option Nat :=
  if '0' ≤ char && char ≤ '9' then some (char.toNat - 48)
  else if 'a' ≤ char && char ≤ 'f' then some (char.toNat - 87)
  else if 'A' ≤ char && char ≤ 'F' then some (char.toNat - 55)
  else none

/-- The number that four hexadecimal digits at the front of a text spell. -/
def fourDigits? : List Char → Option (Nat × List Char)
  | a :: b :: c :: d :: rest => do
    let a ← hexValue? a
    let b ← hexValue? b
    let c ← hexValue? c
    let d ← hexValue? d
    return (((a * 16 + b) * 16 + c) * 16 + d, rest)
  | _ => none

/-- The character that an escape denotes; the text starts after the backslash. -/
def escape? : List Char → Option (Char × List Char)
  | '"' :: rest => some ('"', rest)
  | '\\' :: rest => some ('\\', rest)
  | '/' :: rest => some ('/', rest)
  | 'b' :: rest => some (Char.ofNat 8, rest)
  | 'f' :: rest => some (Char.ofNat 12, rest)
  | 'n' :: rest => some ('\n', rest)
  | 'r' :: rest => some ('\r', rest)
  | 't' :: rest => some ('\t', rest)
  | 'u' :: rest =>
    match fourDigits? rest with
    | none => none
    | some (code, rest) =>
      if 0xD800 ≤ code && code < 0xDC00 then
        match rest with
        | '\\' :: 'u' :: more =>
          match fourDigits? more with
          | some (low, more) =>
            if 0xDC00 ≤ low && low < 0xE000 then
              some (Char.ofNat (0x10000 + (code - 0xD800) * 0x400 + (low - 0xDC00)), more)
            else none
          | none => none
        | _ => none
      else if 0xDC00 ≤ code && code < 0xE000 then none
      else some (Char.ofNat code, rest)
  | _ => none

/-- The rest of a string literal, after its opening quote. -/
def stringBody : Nat → List Char → Option (List Char × List Char)
  | 0, _ => none
  | _ + 1, [] => none
  | fuel + 1, char :: rest =>
    if char == '"' then some ([], rest)
    else if char == '\\' then
      match escape? rest with
      | none => none
      | some (denoted, rest) =>
        match stringBody fuel rest with
        | none => none
        | some (more, rest) => some (denoted :: more, rest)
    else if char.toNat < 0x20 then none
    else
      match stringBody fuel rest with
      | none => none
      | some (more, rest) => some (char :: more, rest)

/-- The whole number that decimal digits spell. -/
def digitsValue (digits : List Char) : Nat :=
  digits.foldl (fun value digit => value * 10 + (digit.toNat - 48)) 0

/-- The part of a number after its sign. -/
def unsigned? (negative : Bool) (text : List Char) : Option (Datum × List Char) :=
  let whole := text.takeWhile Char.isDigit
  let rest := text.dropWhile Char.isDigit
  if whole.isEmpty || (whole.head? == some '0' && 1 < whole.length) then none
  else
    let (places, afterPlaces) : Option (List Char) × List Char :=
      match rest with
      | '.' :: more => (some (more.takeWhile Char.isDigit), more.dropWhile Char.isDigit)
      | _ => (none, rest)
    let (power, afterPower) : Option (Bool × List Char) × List Char :=
      match afterPlaces with
      | mark :: more =>
        if mark == 'e' || mark == 'E' then
          let (down, more) : Bool × List Char :=
            match more with
            | '-' :: more => (true, more)
            | '+' :: more => (false, more)
            | _ => (false, more)
          (some (down, more.takeWhile Char.isDigit), more.dropWhile Char.isDigit)
        else (none, afterPlaces)
      | [] => (none, afterPlaces)
    match places, power with
    | none, none =>
      let value : Int := digitsValue whole
      some (.integer (if negative then -value else value), afterPower)
    | _, _ =>
      let fractional := places.getD []
      if places == some [] || (power.map (·.2)) == some [] then none
      else
        let exponent : Int :=
          match power with
          | none => 0
          | some (down, digits) =>
            if down then -(digitsValue digits : Int) else digitsValue digits
        let value :=
          Binary64.ofDecimal negative (digitsValue (whole ++ fractional))
            (exponent - fractional.length)
        some (.number value, afterPower)

/-- A constant at the front of a text, and the text after it. -/
def word? (word : String) (meaning : Datum) (text : List Char) : Option (Datum × List Char) :=
  if word.toList.isPrefixOf text then some (meaning, text.drop word.length) else none

/-- A scalar other than a string. -/
def scalar? (text : List Char) : Option (Datum × List Char) :=
  match text with
  | 't' :: _ => word? "true" (.boolean true) text
  | 'f' :: _ => word? "false" (.boolean false) text
  | 'n' :: _ => word? "null" .null text
  | 'N' :: _ => word? "NaN" (.number .notANumber) text
  | 'I' :: _ => word? "Infinity" (.number (.infinite false)) text
  | '-' :: 'I' :: _ => word? "-Infinity" (.number (.infinite true)) text
  | '-' :: rest => unsigned? true rest
  | _ => unsigned? false text

mutual

/-- A value at the front of a text; `depth` is how many collections may still be opened. -/
def value? : Nat → Nat → List Char → Option (Datum × List Char)
  | 0, _, _ => none
  | fuel + 1, depth, text =>
    match skipSpace text with
    | '"' :: rest =>
      (stringBody fuel rest).map fun (chars, rest) => (.text (String.ofList chars), rest)
    | '[' :: rest =>
      match depth with
      | 0 => none
      | depth + 1 =>
        match skipSpace rest with
        | ']' :: rest => some (.sequence [], rest)
        | rest => (items? fuel depth rest).map fun (items, rest) => (.sequence items, rest)
    | '\x7b' :: rest =>
      match depth with
      | 0 => none
      | depth + 1 =>
        match skipSpace rest with
        | '\x7d' :: rest => some (.mapping [], rest)
        | rest => (entries? fuel depth rest).map fun (entries, rest) => (.mapping entries, rest)
    | text => scalar? text

/-- The items of an array up to its closing bracket. -/
def items? : Nat → Nat → List Char → Option (List Datum × List Char)
  | 0, _, _ => none
  | fuel + 1, depth, text =>
    match value? fuel depth text with
    | none => none
    | some (item, rest) =>
      match skipSpace rest with
      | ',' :: rest => (items? fuel depth rest).map fun (items, rest) => (item :: items, rest)
      | ']' :: rest => some ([item], rest)
      | _ => none

/-- The entries of an object up to its closing brace. -/
def entries? : Nat → Nat → List Char → Option (List (Datum × Datum) × List Char)
  | 0, _, _ => none
  | fuel + 1, depth, text =>
    match skipSpace text with
    | '"' :: rest =>
      match stringBody fuel rest with
      | none => none
      | some (key, rest) =>
        match skipSpace rest with
        | ':' :: rest =>
          match value? fuel depth rest with
          | none => none
          | some (value, rest) =>
            let entry := (Datum.text (String.ofList key), value)
            match skipSpace rest with
            | ',' :: rest =>
              (entries? fuel depth rest).map fun (entries, rest) => (entry :: entries, rest)
            | '\x7d' :: rest => some ([entry], rest)
            | _ => none
        | _ => none
    | _ => none

end

/-- How deeply arrays and objects of a document may be nested. -/
def depthLimit : Nat := 200

/-- The value of a JSON text, or none if it is not one. -/
def parse (text : String) : Option Datum :=
  match value? (4 * text.length + 4) depthLimit text.toList with
  | some (value, rest) => if (skipSpace rest).isEmpty then some value else none
  | none => none

end TypedMustache.Json
