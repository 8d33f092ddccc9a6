import Transcript.Text.Blank
import Transcript.Text.CaseTable
import Transcript.Text.Word

/-!
# Upper and lower case

Full lower-casing and upper-casing after Unicode, and the plain ASCII lower-casing used where only
ASCII letters are folded.

Lower-casing looks at the neighbours of a capital sigma: after a cased character, and with no cased
character behind it, it becomes the final form. Characters that are ignorable for case are passed
over on both sides.
-/

namespace Transcript

open Transcript.Text (inRuns)

namespace Text

/-- The image of `n` under a run, if it belongs to it. -/
def CaseRun.apply? (run : CaseRun) (n : Nat) : Option Nat :=
  if run.first ≤ n ∧ n ≤ run.last ∧ (n - run.first) % run.step = 0 then
    some (n + run.shift).toNat
  else none

/-- The image of a code point: the several characters of an expansion, the image under a run, or
the code point itself. -/
def mapCase (runs : List CaseRun) (expansions : List (Nat × List Nat)) (n : Nat) : List Nat :=
  match expansions.lookup n with
  | some image => image
  | none => [(runs.findSome? fun run => run.apply? n).getD n]

end Text

namespace Chars

open Text

/-- Lower-cases an ASCII letter and keeps any other character. -/
def asciiLower (c : Char) : Char := c.toLower

/-- Characters that have case and are not passed over. -/
def isCased (c : Char) : Bool := inRuns casedBoundaries c.toNat

/-- Characters that are passed over when the neighbours of a sigma are looked at. -/
def isCaseIgnorable (c : Char) : Bool := inRuns caseIgnorableBoundaries c.toNat

/-- Whether the first character that is not passed over has case. -/
def meetsCased (s : List Char) : Bool :=
  match s.dropWhile isCaseIgnorable with
  | [] => false
  | c :: _ => isCased c

/-- The lower-case form of a character other than the capital sigma. -/
def lowerChar (c : Char) : List Char :=
  if c.toNat < 128 then [c.toLower]
  else (mapCase lowerRuns lowerExpansions c.toNat).map Char.ofNat

/-- The upper-case form of a character. -/
def upperChar (c : Char) : List Char :=
  if c.toNat < 128 then [c.toUpper]
  else (mapCase upperRuns upperExpansions c.toNat).map Char.ofNat

/-- Lower-cases a text, `before` being what precedes it, nearest first. -/
def lowerFrom (before : List Char) : List Char → List Char
  | [] => []
  | c :: rest =>
    let image :=
      if c = 'Σ' then
        -- Final behind a letter and in front of none.
        if meetsCased before && !meetsCased rest then ['ς'] else ['σ']
      else lowerChar c
    image ++ lowerFrom (c :: before) rest

/-- Lower-cases a text. -/
def lower (s : List Char) : List Char := lowerFrom [] s

/-- Upper-cases a text. -/
def upper (s : List Char) : List Char := s.flatMap upperChar

end Chars

namespace Text

/-- Lower-cases a text. -/
def lower : String → String := onChars Chars.lower

/-- Upper-cases a text. -/
def upper : String → String := onChars Chars.upper

/-- Lower-cases the ASCII letters of a text. -/
def asciiLower : String → String := onChars (List.map Chars.asciiLower)

end Text

end Transcript
