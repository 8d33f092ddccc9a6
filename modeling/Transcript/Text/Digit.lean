import Transcript.Text.Blank

/-!
# Reading whole numbers

A whole number is written with decimal digits of any script, single underscores between digits, a
sign in front and blanks around it. Numbers of more than 4300 digits are refused.

Unicode gives every script its ten decimal digits as a run of ten consecutive code points, zero
first.
-/

namespace Transcript

namespace Text

/-- The code point of the zero of every run of decimal digits beyond ASCII, ascending. -/
def digitZeros : List Nat := [
  1632, 1776, 1984, 2406, 2534, 2662, 2790, 2918, 3046, 3174, 3302, 3430, 3558, 3664,
  3792, 3872, 4160, 4240, 6112, 6160, 6470, 6608, 6784, 6800, 6992, 7088, 7232, 7248,
  42528, 43216, 43264, 43472, 43504, 43600, 44016, 65296, 66720, 68912, 69734, 69872, 69942, 70096,
  70384, 70736, 70864, 71248, 71360, 71472, 71904, 72016, 72784, 73040, 73120, 92768, 92864, 93008,
  120782, 120792, 120802, 120812, 120822, 123200, 123632, 125264, 130032]

end Text

namespace Chars

open Transcript.Text (digitZeros)

/-- The value of a decimal digit of any script. -/
def digitValue? (c : Char) : Option Nat :=
  if c.toNat < 128 then
    if c.isDigit then some (c.toNat - '0'.toNat) else none
  else
    (digitZeros.find? fun first => first ≤ c.toNat && c.toNat < first + 10).map (c.toNat - ·)

/-- Reads digits, with single underscores between them, up to the end of the text. `afterDigit`
says whether the last character read was a digit. -/
def digitsFrom? (afterDigit : Bool) : List Char → Option (List Nat)
  | [] => if afterDigit then some [] else none
  | '_' :: rest => if afterDigit then digitsFrom? false rest else none
  | c :: rest =>
    match digitValue? c with
    | some d => (digitsFrom? true rest).map (d :: ·)
    | none => none

/-- The number written by a list of decimal digits. -/
def ofDigits (digits : List Nat) : Nat :=
  digits.foldl (fun value d => 10 * value + d) 0

/-- Reads a sign: whether the number is negative, and what follows. -/
def readSign : List Char → Bool × List Char
  | '-' :: rest => (true, rest)
  | '+' :: rest => (false, rest)
  | s => (false, s)

end Chars

namespace Text

/-- Most digits of a number that can be read from or written to text. -/
def maxIntegerDigits : Nat := 4300

/-- Reads a whole number; `none` if the text is not one or has too many digits. -/
def readInteger? (s : String) : Option Int :=
  let (negative, rest) := Chars.readSign (Chars.trim s.toList)
  match Chars.digitsFrom? false rest with
  | none => none
  | some digits =>
    if digits.length ≤ maxIntegerDigits then
      let value : Int := Chars.ofDigits digits
      some (if negative then -value else value)
    else none

end Text

end Transcript
