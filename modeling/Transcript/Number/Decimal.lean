import Transcript.Number.Binary

/-!
# Decimal text of a number

Three ways to write a number: with a fixed number of places, with a number of significant digits
and trailing zeros dropped, and with the fewest digits that read back as the same binary fraction.
Whole numbers are written digit by digit.
-/

namespace Transcript.Number

/-- The decimal digits of a natural number. -/
def digitsOf (n : Nat) : List Char :=
  Nat.toDigits 10 n

/-- A whole number, with a minus sign if it is negative. -/
def integerText (n : Int) : String :=
  if n < 0 then String.ofList ('-' :: digitsOf n.natAbs) else String.ofList (digitsOf n.natAbs)

/-- Puts zeros in front up to `width` characters. -/
def padZeros (width : Nat) (digits : List Char) : List Char :=
  List.replicate (width - digits.length) '0' ++ digits

/-- The number `units · 10 ^ (-places)` written with `places` digits behind the point. -/
def placed (places : Nat) (units : Nat) : List Char :=
  let digits := padZeros (places + 1) (digitsOf units)
  let whole := digits.length - places
  if places = 0 then digits else digits.take whole ++ '.' :: digits.drop whole

/-- A number with `places` digits behind the point, a half going to the even neighbour. -/
def fixedText (places : Nat) (q : Rat) : String :=
  let units := roundHalfEven (q * (Nat.pow 10 places : Nat))
  let digits := placed places units.natAbs
  String.ofList (if q < 0 then '-' :: digits else digits)

/-- Rounds to `places` digits behind the point. -/
def roundPlaces (places : Nat) (q : Rat) : Rat :=
  (roundHalfEven (q * (Nat.pow 10 places : Nat)) : Rat) / ((Nat.pow 10 places : Nat) : Rat)

/-- The exponent of the leading decimal digit of a positive number; `steps` bounds the corrections
of the first guess. -/
def leadingExponentFrom (q : Rat) : Nat → Int → Int
  | 0, e => e
  | steps + 1, e =>
    if q < powerOfTen e then leadingExponentFrom q steps (e - 1)
    else if powerOfTen (e + 1) ≤ q then leadingExponentFrom q steps (e + 1)
    else e

/-- The exponent of the leading decimal digit of a positive number. -/
def leadingExponent (q : Rat) : Int :=
  leadingExponentFrom q 4 ((digitsOf q.num.toNat).length - (digitsOf q.den).length)

/-- A positive number rounded to `count` significant digits: the digits as one number, and the
exponent of the leading one. -/
def significant (count : Nat) (q : Rat) : Nat × Int :=
  let e := leadingExponent q
  let units := (roundHalfEven (q / powerOfTen (e - (count - 1 : Nat)))).toNat
  -- Rounding up to the next power of ten moves the leading digit.
  if Nat.pow 10 count ≤ units then (units / 10, e + 1) else (units, e)

/-- Drops zeros from the end. -/
def dropEndZeros (digits : List Char) : List Char :=
  (digits.reverse.dropWhile (· = '0')).reverse

/-- An exponent with its sign and at least two digits. -/
def exponentText (e : Int) : List Char :=
  'e' :: (if e < 0 then '-' else '+') :: padZeros 2 (digitsOf e.natAbs)

/-- Digits written positionally, the first of them standing at exponent `e`. -/
def positional (digits : List Char) (e : Int) : List Char :=
  if e < 0 then '0' :: '.' :: (List.replicate ((-e).toNat - 1) '0' ++ digits)
  else
    let whole := e.toNat + 1
    let padded := digits ++ List.replicate (whole - digits.length) '0'
    if padded.length ≤ whole then padded else padded.take whole ++ '.' :: padded.drop whole

/-- Digits written with an exponent. -/
def scientific (digits : List Char) (e : Int) : List Char :=
  match digits with
  | [] => []
  | [d] => d :: exponentText e
  | d :: rest => d :: '.' :: (rest ++ exponentText e)

/-- A positive number with at most `count` significant digits, trailing zeros dropped; positional
from `10 ^ (-4)` up to `10 ^ count`. -/
def generalDigits (count : Nat) (q : Rat) : List Char :=
  let (units, e) := significant count q
  let digits := dropEndZeros (digitsOf units)
  if -4 ≤ e ∧ e < count then positional digits e else scientific digits e

/-- A number with at most `count` significant digits. -/
def generalText (count : Nat) (q : Rat) : String :=
  if q = 0 then "0"
  else if q < 0 then String.ofList ('-' :: generalDigits count (-q))
  else String.ofList (generalDigits count q)

/-- The numbers with `count` significant digits just below and just above a positive number, each as
its digits and the exponent of the leading one; the nearer number comes first. -/
def neighbours (count : Nat) (q : Rat) : List (Nat × Int) :=
  let e := leadingExponent q
  let scaled := q / powerOfTen (e - (count - 1 : Nat))
  let below := scaled.floor.toNat
  let above := below + 1
  -- The next power of ten has one digit more.
  let upper := if Nat.pow 10 count ≤ above then (above / 10, e + 1) else (above, e)
  if roundHalfEven scaled = below then [(below, e), upper] else [upper, (below, e)]

/-- Whether digits read back as a positive binary fraction. -/
def readsBack (count : Nat) (q : Rat) (digits : Nat × Int) : Bool :=
  nearestBinary (digits.1 * powerOfTen (digits.2 - (count - 1 : Nat))) = q

/-- The fewest digits, from `count` on, that read back as the positive binary fraction `q`, and of
several such numbers the nearest one; after `fuel` attempts the digits are rounded. -/
def shortestFrom (q : Rat) : Nat → Nat → Nat × Int
  | 0, count => significant count q
  | fuel + 1, count =>
    match (neighbours count q).find? (readsBack count q) with
    | some digits => digits
    | none => shortestFrom q fuel (count + 1)

/-- A positive binary fraction with the fewest digits that read back, positional from `10 ^ (-4)` up
to `10 ^ 16`; a positional one keeps a place behind the point. -/
def shortestDigits (q : Rat) : List Char :=
  let (units, e) := shortestFrom q 16 1
  let digits := dropEndZeros (digitsOf units)
  if -4 ≤ e ∧ e < 16 then
    let text := positional digits e
    if text.contains '.' then text else text ++ ['.', '0']
  else scientific digits e

/-- A binary fraction with the fewest digits that read back. -/
def shortestText (q : Rat) : String :=
  if q = 0 then "0.0"
  else if q < 0 then String.ofList ('-' :: shortestDigits (-q))
  else String.ofList (shortestDigits q)

namespace Quantity

/-- A quantity with a fixed number of places. -/
def fixedText (places : Nat) : Quantity → String
  | finite q => Number.fixedText places q
  | negativeZero => "-" ++ Number.fixedText places 0
  | infinite => "inf"
  | negativeInfinite => "-inf"
  | undefined => "nan"

/-- A quantity with six significant digits at most. -/
def generalText : Quantity → String
  | finite q => Number.generalText 6 q
  | negativeZero => "-0"
  | infinite => "inf"
  | negativeInfinite => "-inf"
  | undefined => "nan"

/-- A quantity with the fewest digits that read back. -/
def shortestText : Quantity → String
  | finite q => Number.shortestText q
  | negativeZero => "-0.0"
  | infinite => "inf"
  | negativeInfinite => "-inf"
  | undefined => "nan"

end Quantity

end Transcript.Number
