import TypedMustache.Datum
import TypedMustache.Json.Reader

/-!
# The meaning of plain scalars

A plain scalar is a truth value, a number, a date, no value at all, or a text,
according to how it looks.  Numbers may have underscores in them, and numbers to
the base of sixty have colons.
-/

namespace TypedMustache.Yaml

/-! ## Words -/

/-- The words for no value. -/
def nullWords : List String := ["", "~", "null", "Null", "NULL"]

/-- The words for a true value. -/
def trueWords : List String :=
  ["yes", "Yes", "YES", "true", "True", "TRUE", "on", "On", "ON"]

/-- The words for a false value. -/
def falseWords : List String :=
  ["no", "No", "NO", "false", "False", "FALSE", "off", "Off", "OFF"]

/-! ## Digits -/

/-- Whether a character is a decimal digit. -/
def isDigit (char : Char) : Bool := '0' ≤ char && char ≤ '9'

/-- Whether a character is a decimal digit or an underscore. -/
def isDigitOrLow (char : Char) : Bool := isDigit char || char == '_'

/-- The number that digits to a base spell; underscores are skipped. -/
def digitsValue (base : Nat) (digits : List Char) : Nat :=
  (digits.filterMap Json.hexValue?).foldl (fun number digit => number * base + digit) 0

/-- Whether a text is not empty and consists of characters of a class. -/
def isRun (belongs : Char → Bool) (text : List Char) : Bool :=
  !text.isEmpty && text.all belongs

/-- Whether a text is a part of a number to the base of sixty. -/
def isSixtieth (text : List Char) : Bool :=
  match text with
  | [digit] => isDigit digit
  | [ten, digit] => '0' ≤ ten && ten ≤ '5' && isDigit digit
  | _ => false

/-- The value of a number to the base of sixty. -/
def sixtiethsValue (parts : List (List Char)) : Nat :=
  parts.foldl (fun number part => number * 60 + digitsValue 10 part) 0

/-! ## Numbers -/

/-- The sign of a number, and the rest of it. -/
def signed : List Char → Bool × List Char
  | '-' :: rest => (true, rest)
  | '+' :: rest => (false, rest)
  | text => (false, text)

/-- The size of a whole number. -/
def wholeSize? (text : List Char) : Option Nat :=
  match text with
  | '0' :: 'b' :: digits =>
    if isRun (fun char => char == '0' || char == '1' || char == '_') digits then
      some (digitsValue 2 digits)
    else none
  | '0' :: 'x' :: digits =>
    if isRun (fun char => (Json.hexValue? char).isSome || char == '_') digits then
      some (digitsValue 16 digits)
    else none
  | ['0'] => some 0
  | '0' :: digits =>
    if digits.all fun char => ('0' ≤ char && char ≤ '7') || char == '_' then
      some (digitsValue 8 digits)
    else none
  | first :: _ =>
    if !isDigit first then none
    else if text.all isDigitOrLow then some (digitsValue 10 text)
    else
      match Text.splitOn ':' text with
      | whole :: part :: parts =>
        if whole.all isDigitOrLow && (part :: parts).all isSixtieth then
          some (sixtiethsValue (whole :: part :: parts))
        else none
      | _ => none
  | [] => none

/-- A whole number. -/
def whole? (text : List Char) : Option Int :=
  let (negative, digits) := signed text
  (wholeSize? digits).map fun size => if negative then -(size : Int) else size

/-- The exponent at the end of a number; its sign is written. -/
def exponent? : List Char → Option Int
  | [] => some 0
  | mark :: sign :: digits =>
    if (mark == 'e' || mark == 'E') && (sign == '-' || sign == '+') && isRun isDigit digits then
      let size := digitsValue 10 digits
      some (if sign == '-' then -(size : Int) else size)
    else none
  | _ => none

/-- A number with a point; the part before the point may need to be there. -/
def pointed? (negative needsWhole : Bool) (text : List Char) : Option Binary64 := do
  let whole := text.takeWhile isDigitOrLow
  let behind := text.drop whole.length
  match behind with
  | '.' :: rest =>
    let places := rest.takeWhile isDigitOrLow
    let exponent ← exponent? (rest.drop places.length)
    let wellFormed :=
      if needsWhole then (whole.head?.map isDigit).getD false
      else whole.isEmpty && (places.head?.map isDigit).getD false
    if wellFormed then
      let digits := (whole ++ places).filter isDigit
      let scale : Int := (places.filter isDigit).length
      return .ofDecimal negative (digitsValue 10 digits) (exponent - scale)
    else none
  | _ => none

/-- A number to the base of sixty with a point. -/
def pointedSixtieths? (negative : Bool) (text : List Char) : Option Binary64 :=
  match Text.splitOn '.' text with
  | [front, places] =>
    match Text.splitOn ':' front with
    | whole :: part :: parts =>
      if (whole.head?.map isDigit).getD false && whole.all isDigitOrLow
          && (part :: parts).all isSixtieth && places.all isDigitOrLow then
        let digits := places.filter isDigit
        let scaled :=
          sixtiethsValue (whole :: part :: parts) * Nat.pow 10 digits.length + digitsValue 10 digits
        some (.ofDecimal negative scaled (-(digits.length : Int)))
      else none
    | _ => none
  | _ => none

/-- A floating-point number. -/
def number? (text : List Char) : Option Binary64 :=
  let (negative, size) := signed text
  let word := String.ofList size
  if [".inf", ".Inf", ".INF"].contains word then some (.infinite negative)
  else if [".nan", ".NaN", ".NAN"].contains (String.ofList text) then some .notANumber
  else
    ((pointed? negative true size).or (pointed? false false text)).or
      (pointedSixtieths? negative size)

/-! ## Dates -/

/-- Whether a text is a number of so many digits. -/
def hasDigits (counts : List Nat) (text : List Char) : Bool :=
  counts.contains text.length && text.all isDigit

/-- Whether a text is the distance of a time zone. -/
def isZone (text : List Char) : Bool :=
  match text.dropWhile fun char => char == ' ' || char == '\t' with
  | [] => text.isEmpty
  | ['Z'] => true
  | sign :: distance =>
    (sign == '+' || sign == '-') &&
      match Text.splitOn ':' distance with
      | [hours] => hasDigits [1, 2] hours
      | [hours, minutes] => hasDigits [1, 2] hours && hasDigits [2] minutes
      | _ => false

/-- Whether a text is a time of day, with or without a zone. -/
def isTime (text : List Char) : Bool :=
  match Text.splitOn ':' text with
  | hours :: minutes :: rest =>
    let ending := Text.join ":" (rest.map String.ofList)
    let seconds := ending.toList.takeWhile isDigit
    let after := ending.toList.drop seconds.length
    let zone :=
      match after with
      | '.' :: places => places.dropWhile isDigit
      | other => other
    hasDigits [1, 2] hours && hasDigits [2] minutes && hasDigits [2] seconds && isZone zone
  | _ => false

/-- Whether a text is a date, or a date and a time of day. -/
def isMoment (text : List Char) : Bool :=
  match Text.cut ['-'] text with
  | none => false
  | some (year, afterYear) =>
    match Text.cut ['-'] afterYear with
    | none => false
    | some (month, afterMonth) =>
      let day := afterMonth.takeWhile isDigit
      let rest := afterMonth.drop day.length
      hasDigits [4] year &&
        match rest with
        | [] => hasDigits [2] month && hasDigits [2] day
        | mark :: time =>
          hasDigits [1, 2] month && hasDigits [1, 2] day &&
            if mark == 'T' || mark == 't' then isTime time
            else
              (mark == ' ' || mark == '\t') &&
                isTime (time.dropWhile fun char => char == ' ' || char == '\t')

/-! ## Plain scalars -/

/-- What a plain scalar means; the signs for merging and for a default value mean nothing alone. -/
def plainMeaning? (text : String) : Option Datum :=
  if trueWords.contains text then some (.boolean true)
  else if falseWords.contains text then some (.boolean false)
  else if nullWords.contains text then some .null
  else if text == "<<" || text == "=" then none
  else
    match number? text.toList, whole? text.toList with
    | some number, _ => some (.number number)
    | none, some whole => some (.integer whole)
    | none, none => some (if isMoment text.toList then .moment text else .text text)

/-! ## Bytes -/

/-- The value of a digit to the base of sixty-four. -/
def sixtyFourthValue? (char : Char) : Option Nat :=
  if 'A' ≤ char && char ≤ 'Z' then some (char.toNat - 'A'.toNat)
  else if 'a' ≤ char && char ≤ 'z' then some (char.toNat - 'a'.toNat + 26)
  else if '0' ≤ char && char ≤ '9' then some (char.toNat - '0'.toNat + 52)
  else if char == '+' then some 62
  else if char == '/' then some 63
  else none

/--
The bytes that digits to the base of sixty-four spell.  `place` is that of the next digit among
four, `left` the bits that are still to be used, and `pads` counts the signs for missing digits;
other characters are skipped.
-/
def bytesFrom (place left pads : Nat) : List Char → Option (List UInt8)
  | [] => if place = 0 then some [] else none
  | char :: rest =>
    if char == '=' then
      if 2 ≤ place && 4 ≤ place + pads + 1 then some []
      else bytesFrom place left (if 2 ≤ place then pads + 1 else pads) rest
    else
      match sixtyFourthValue? char with
      | none => bytesFrom place left pads rest
      | some digit =>
        let byte := UInt8.ofNat (left * 4 ^ place + digit / 4 ^ (3 - place))
        let later := bytesFrom ((place + 1) % 4) (digit % 4 ^ (3 - place)) 0 rest
        if place = 0 then later else later.map (byte :: ·)

/-- The bytes that a text spells, which must not hold other characters than those of ASCII. -/
def bytes? (text : String) : Option (List UInt8) :=
  if text.toList.all (·.toNat < 0x80) then bytesFrom 0 0 0 text.toList else none

end TypedMustache.Yaml
