import Transcript.Text.Blank
import Transcript.Text.UnseenTable
import Transcript.Text.Word

/-!
# Quoted text

How a text is shown inside a message: between single quotes, or between double quotes if it has a
single quote inside and no double one. Characters that cannot be seen are escaped.

## Main definitions

- `Chars.isUnseen`: whether a character cannot be seen
- `Text.quoted`: a text between quotes
-/

namespace Transcript

namespace Chars

open Transcript.Text (inRuns unseenBoundaries)

/-- Whether a character cannot be seen. -/
def isUnseen (c : Char) : Bool :=
  inRuns unseenBoundaries c.toNat

/-- The last `count` hexadecimal digits of a number, in lower case. -/
def hexDigits (n : Nat) : (count : Nat) → List Char
  | 0 => []
  | count + 1 => hexDigits (n / 16) count ++ [Nat.digitChar (n % 16)]

/-- The escape of a character by its number. -/
def numberEscape (n : Nat) : List Char :=
  if n < 0x100 then '\\' :: 'x' :: hexDigits n 2
  else if n < 0x10000 then '\\' :: 'u' :: hexDigits n 4
  else '\\' :: 'U' :: hexDigits n 8

/-- A character between the given quotes. -/
def quoteChar (quote c : Char) : List Char :=
  if c = quote || c = '\\' then ['\\', c]
  else if c = '\n' then ['\\', 'n']
  else if c = '\r' then ['\\', 'r']
  else if c = '\t' then ['\\', 't']
  else if isUnseen c then numberEscape c.toNat
  else [c]

/-- The quotes of a text: double ones only where they save escapes. -/
def quoteFor (s : List Char) : Char :=
  if s.contains '\x27' && !s.contains '\x22' then '\x22' else '\x27'

/-- A text between quotes. -/
def quoted (s : List Char) : List Char :=
  quoteFor s :: s.flatMap (quoteChar (quoteFor s)) ++ [quoteFor s]

/-- A text between quotes, given by its code points; those that are no characters are escaped. -/
def quotedPoints (points : List Nat) : List Char :=
  let quote := quoteFor (points.map Char.ofNat)
  let one (n : Nat) : List Char :=
    if n.isValidChar then quoteChar quote (Char.ofNat n) else numberEscape n
  quote :: points.flatMap one ++ [quote]

end Chars

namespace Text

/-- A text between quotes. -/
def quoted : String → String := onChars Chars.quoted

end Text

end Transcript
