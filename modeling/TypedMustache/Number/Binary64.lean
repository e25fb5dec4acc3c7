/-!
# Binary floating-point numbers

A `Binary64` is a number of the binary interchange format with 53 significant
bits, kept as a whole mantissa and an exponent.  `Binary64.ofDecimal` rounds a
decimal number to the nearest of them, a tie to the even mantissa, and
`Binary64.shortest` finds the fewest decimal digits that are rounded back.
Everything is computed exactly, on natural numbers.
-/

namespace TypedMustache

/-- A binary floating-point number; a finite one is `mantissa * 2 ^ exponent`. -/
inductive Binary64 where
  | finite (negative : Bool) (mantissa : Nat) (exponent : Int)
  | infinite (negative : Bool)
  | notANumber
deriving DecidableEq, Repr

namespace Binary64

/-- The number of significant bits. -/
def precision : Nat := 53

/-- The smallest exponent. -/
def leastExponent : Int := -1074

/-- The largest exponent. -/
def greatestExponent : Int := 971

/-- A quotient rounded to the nearest whole number, a tie to the even one. -/
def roundedQuotient (numerator denominator : Nat) : Nat :=
  let whole := numerator / denominator
  let twice := 2 * (numerator % denominator)
  if twice < denominator then whole
  else if denominator < twice then whole + 1
  else whole + whole % 2

/-- Numerator and denominator of `number * base ^ exponent`. -/
def fraction (base number : Nat) (exponent : Int) : Nat × Nat :=
  match exponent with
  | .ofNat power => (number * Nat.pow base power, 1)
  | .negSucc power => (number, Nat.pow base (power + 1))

/-- The floating-point number nearest to a positive fraction. -/
def ofFraction (negative : Bool) (numerator denominator : Nat) : Binary64 :=
  let scaled (exponent : Int) : Nat × Nat :=
    match exponent with
    | .ofNat power => (numerator, denominator * Nat.pow 2 power)
    | .negSucc power => (numerator * Nat.pow 2 (power + 1), denominator)
  let guess : Int := Nat.log2 numerator - Nat.log2 denominator - precision
  let tight : Int :=
    if (scaled guess).1 / (scaled guess).2 < Nat.pow 2 precision then guess else guess + 1
  let exponent := max leastExponent tight
  let mantissa := roundedQuotient (scaled exponent).1 (scaled exponent).2
  let (mantissa, exponent) :=
    if mantissa = Nat.pow 2 precision then (Nat.pow 2 (precision - 1), exponent + 1)
    else (mantissa, exponent)
  if greatestExponent < exponent then infinite negative
  else finite negative mantissa exponent

/-- The floating-point number nearest to the decimal number `digits * 10 ^ exponent`. -/
def ofDecimal (negative : Bool) (digits : Nat) (exponent : Int) : Binary64 :=
  if digits = 0 then finite negative 0 leastExponent
  else if 400 < exponent then infinite negative
  else if exponent + (Nat.toDigits 10 digits).length < -400 then finite negative 0 leastExponent
  else
    let value := fraction 10 digits exponent
    ofFraction negative value.1 value.2

/-- Whether a floating-point number equals a whole number. -/
def equalsInt : Binary64 → Int → Bool
  | finite negative mantissa exponent, whole =>
    let value := fraction 2 mantissa exponent
    let sign : Int := if negative then -1 else 1
    sign * value.1 == whole * value.2
  | _, _ => false

/-- Whether a floating-point number is a whole number of less than 64 bits. -/
def isWhole : Binary64 → Bool
  | finite _ mantissa exponent =>
    let value := fraction 2 mantissa exponent
    value.1 % value.2 == 0 && value.1 < Nat.pow 2 63 * value.2
  | _ => false

/-- Whether two floating-point numbers are equal; the zeros of either sign are. -/
def equals : Binary64 → Binary64 → Bool
  | finite n m e, finite n' m' e' => (m == 0 && m' == 0) || (n == n' && m == m' && e == e')
  | infinite n, infinite n' => n == n'
  | _, _ => false

/-- The whole number `k` with `10 ^ k ≤ numerator / denominator < 10 ^ (k + 1)`. -/
def decimalMagnitude (numerator denominator : Nat) : Int :=
  let reaches (power : Int) : Bool :=
    match power with
    | .ofNat n => denominator * Nat.pow 10 n ≤ numerator
    | .negSucc n => denominator ≤ numerator * Nat.pow 10 (n + 1)
  match (List.range 660).find? fun (index : Nat) => reaches (330 - (index : Int)) with
  | some index => 330 - (index : Int)
  | none => -330

/-- The distance of a fraction from a whole number, as a multiple of the fraction's unit. -/
def distance (numerator denominator whole : Nat) : Nat :=
  (numerator - whole * denominator) + (whole * denominator - numerator)

/--
The decimal number with `count` digits that is nearest to `mantissa * 2 ^ exponent`
among those that are rounded to it, with the exponent of its last digit.  Of two
that are equally near, it is the one with the even last digit.
-/
def nearestWith (mantissa : Nat) (exponent : Int) (count : Nat) : Option (Nat × Int) :=
  let value := fraction 2 mantissa exponent
  let last : Int := decimalMagnitude value.1 value.2 - (count - 1 : Nat)
  let scaled : Nat × Nat :=
    match last with
    | .ofNat power => (value.1, value.2 * Nat.pow 10 power)
    | .negSucc power => (value.1 * Nat.pow 10 (power + 1), value.2)
  let below := scaled.1 / scaled.2
  let good := [below, below + 1].filter fun digits =>
    ofDecimal false digits last == finite false mantissa exponent
  match good with
  | [] => none
  | [digits] => some (digits, last)
  | low :: high :: _ =>
    let toLow := distance scaled.1 scaled.2 low
    let toHigh := distance scaled.1 scaled.2 high
    if toHigh < toLow || (toHigh == toLow && high % 2 == 0) then some (high, last)
    else some (low, last)

/-- The fewest decimal digits that are rounded to a positive number. -/
def shortest (mantissa : Nat) (exponent : Int) : Nat × Int :=
  let tries := (List.range 17).filterMap fun index => nearestWith mantissa exponent (index + 1)
  tries.headD (mantissa, exponent)

/-- Drop zeros from the end of a decimal number, keeping its value. -/
def dropZeros : Nat → List Char → Int → List Char × Int
  | 0, digits, last => (digits, last)
  | steps + 1, digits, last =>
    if 1 < digits.length && digits.getLast? == some '0' then
      dropZeros steps digits.dropLast (last + 1)
    else (digits, last)

/--
The text of a positive number: positional from `0.0001` up to below `10 ^ 16`, and
otherwise with an exponent of at least two digits.
-/
def positiveText (mantissa : Nat) (exponent : Int) : String :=
  let found := shortest mantissa exponent
  let (digits, last) := dropZeros 20 (Nat.toDigits 10 found.1) found.2
  let magnitude : Int := last + (digits.length - 1 : Nat)
  let zeros (count : Int) : List Char := List.replicate count.toNat '0'
  if -4 ≤ magnitude && magnitude < 16 then
    if 0 ≤ last then String.ofList (digits ++ zeros last ++ ['.', '0'])
    else if 0 ≤ magnitude then
      let whole := (magnitude + 1).toNat
      String.ofList (digits.take whole ++ ['.'] ++ digits.drop whole)
    else String.ofList (['0', '.'] ++ zeros (-magnitude - 1) ++ digits)
  else
    let power := Nat.toDigits 10 magnitude.natAbs
    let sign := if magnitude < 0 then '-' else '+'
    let mark := ['e', sign] ++ List.replicate (2 - power.length) '0' ++ power
    match digits with
    | [] => ""
    | [digit] => String.ofList (digit :: mark)
    | digit :: more => String.ofList ([digit, '.'] ++ more ++ mark)

/-- The text of a floating-point number. -/
def display : Binary64 → String
  | finite negative mantissa exponent =>
    let sign := if negative then "-" else ""
    if mantissa = 0 then sign ++ "0.0" else sign ++ positiveText mantissa exponent
  | infinite negative => if negative then "-inf" else "inf"
  | notANumber => "nan"

end Binary64

end TypedMustache
