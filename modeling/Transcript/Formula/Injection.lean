import Transcript.Text.Blank
import Transcript.Text.Word

/-!
# Marks of injected script

A recovered formula is not to carry script into the document. Three marks betray it: the start of
a script element, the scheme for script in a link, and the name of an event handler with its
equals sign. Letters are compared without regard to case; some letters beyond ASCII fold to ASCII
ones, and these are caught too.

## Main definitions

- `foldLetter`: a letter as it is compared
- `findInjection?`: the first mark found in a text
-/

namespace Transcript.Formula

/-- A letter as it is compared without regard to case: ASCII letters are lowered, and the long s,
the Kelvin sign and the i with or without its dot count as the ASCII letters they resemble. -/
def foldLetter (c : Char) : Char :=
  if c.toNat = 0x17F then 's'
  else if c.toNat = 0x212A then 'k'
  else if c.toNat = 0x130 || c.toNat = 0x131 then 'i'
  else c.toLower

/-- Whether a character folds to a letter from a to z. -/
def isFoldedLetter (c : Char) : Bool :=
  let f := foldLetter c
  'a' ≤ f && f ≤ 'z'

/-- The beginning of a text that folds to `mark`, and what follows it. -/
def takeFolded? : List Char → List Char → Option (List Char × List Char)
  | [], s => some ([], s)
  | _ :: _, [] => none
  | m :: ms, c :: cs =>
    if foldLetter c = m then (takeFolded? ms cs).map fun (taken, rest) => (c :: taken, rest)
    else none

/-- The name of an event handler at the beginning of a text, with blanks and its equals sign. -/
def takeHandler? (s : List Char) : Option (List Char) :=
  match takeFolded? ['o', 'n'] s with
  | none => none
  | some (start, rest) =>
    -- At least three letters follow, then blanks, then the equals sign.
    let (letters, rest) := rest.span isFoldedLetter
    let (blanks, rest) := rest.span Chars.isBlank
    match rest with
    | '=' :: _ => if letters.length < 3 then none else some (start ++ letters ++ blanks ++ ['='])
    | _ => none

/-- The first place where `find`, given the character in front and the text from there on,
succeeds. -/
def firstMatch? (find : Option Char → List Char → Option (List Char)) (before : Option Char) :
    List Char → Option (List Char)
  | [] => find before []
  | c :: rest =>
    match find before (c :: rest) with
    | some found => some found
    | none => firstMatch? find (some c) rest

/-- The first occurrence of `mark` without regard to case. -/
def findFolded? (mark : List Char) (s : List Char) : Option (List Char) :=
  firstMatch? (fun _ s => (takeFolded? mark s).map Prod.fst) none s

/-- The first event handler that no word character precedes. -/
def findHandler? (s : List Char) : Option (List Char) :=
  firstMatch? (fun before s => if before.any Chars.isWord then none else takeHandler? s) none s

/-- The first mark of injected script in a text: a script element, else the scheme for script, else
an event handler. -/
def findInjection? (s : String) : Option String :=
  let chars := s.toList
  ((findFolded? "<script".toList chars <|> findFolded? "javascript:".toList chars) <|>
    findHandler? chars).map String.ofList

/-- Whether a text is acceptable as a formula: it is not blank, not too long, and carries no
script. -/
def isAcceptable (maxLength : Nat) (s : String) : Bool :=
  !Text.isAllBlank s && s.length ≤ maxLength && (findInjection? s).isNone

/-- The longest formula accepted by default. -/
def defaultMaxLength : Nat := 10000

end Transcript.Formula
