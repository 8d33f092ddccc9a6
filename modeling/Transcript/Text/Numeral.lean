import Transcript.Number.Binary
import Transcript.Text.Case
import Transcript.Text.Digit

/-!
# Reading measured quantities

A quantity is written with digits of any script, single underscores between digits, a point, an
exponent, a sign in front and blanks around it; or it is one of the words for infinity and for no
number.
-/

namespace Transcript

namespace Chars

/-- Reads as many digits as there are, with single underscores between them: their values, and what
follows. -/
def readDigits (afterDigit : Bool) : List Char → List Nat × List Char
  | [] => ([], [])
  | '_' :: c :: rest =>
    match digitValue? c with
    | some d =>
      if afterDigit then
        let (digits, rest) := readDigits true rest
        (d :: digits, rest)
      else ([], '_' :: c :: rest)
    | none => ([], '_' :: c :: rest)
  | c :: rest =>
    match digitValue? c with
    | some d =>
      let (digits, rest) := readDigits true rest
      (d :: digits, rest)
    | none => ([], c :: rest)

/-- Reads an exponent, if there is one; `none` if the letter stands without digits. -/
def readExponent? : List Char → Option (Int × List Char)
  | c :: rest =>
    if c = 'e' || c = 'E' then
      let (negative, rest) := readSign rest
      match readDigits false rest with
      | ([], _) => none
      | (digits, rest) =>
        let value : Int := ofDigits digits
        some (if negative then -value else value, rest)
    else some (0, c :: rest)
  | [] => some (0, [])

/-- The number of digits, in front of the point or behind it, beyond which every number overflows or
vanishes. -/
def sizeBound : Int := 400

/-- The number that digits with an exponent make. One beyond every bound is cut off there, so that
no huge power has to be computed. -/
def scaled (digits : List Nat) (e : Int) : Rat :=
  let counted := digits.dropWhile (· = 0)
  let size : Int := counted.length + e
  if counted.isEmpty || size < -sizeBound then 0
  else if sizeBound < size then Number.powerOfTen sizeBound
  else ofDigits counted * Number.powerOfTen e

/-- Reads a number without a sign, up to the end of the text. -/
def readMagnitude? (s : List Char) : Option Rat :=
  let (whole, rest) := readDigits false s
  let (places, rest) :=
    match rest with
    | '.' :: rest => readDigits false rest
    | rest => ([], rest)
  if whole.isEmpty && places.isEmpty then none
  else
    match readExponent? rest with
    | some (e, []) => some (scaled (whole ++ places) (e - places.length))
    | _ => none

/-- The blanks that may stand around a number: all but the information separators. -/
def isNumberBlank (c : Char) : Bool :=
  isBlank c && !(28 ≤ c.toNat && c.toNat ≤ 31)

/-- Cuts off the blanks around a number. -/
def trimNumber (s : List Char) : List Char :=
  dropEndWhile isNumberBlank (s.dropWhile isNumberBlank)

end Chars

namespace Text

open Number

/-- Reads a quantity; `none` if the text is not one. -/
def readQuantity? (s : String) : Option Quantity :=
  let (negative, rest) := Chars.readSign (Chars.trimNumber s.toList)
  match String.ofList (rest.map Chars.asciiLower) with
  | "inf" | "infinity" => some (if negative then .negativeInfinite else .infinite)
  | "nan" => some .undefined
  | _ =>
    (Chars.readMagnitude? rest).map (Quantity.ofSize negative)

end Text

end Transcript
