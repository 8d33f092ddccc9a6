import Transcript.Number.Decimal

/-!
# Places in a file

Reading goes along a text and keeps count of lines and columns. The end of the text is seen as a
character of its own, which cannot occur inside.

## Main definitions

- `Place`: a position with its line and column
- `Spot`: what is left of a text from a place on
- `Place.words`: a place as it is shown, with the line that it stands on
-/

namespace Transcript.Yaml

/-- A position in a text. -/
structure Place where
  /-- The number of characters in front of it. -/
  index : Nat := 0
  /-- Its line, counted from zero. -/
  line : Nat := 0
  /-- Its column, counted from zero. -/
  column : Nat := 0
  deriving DecidableEq, Inhabited

/-- The character that is seen at the end. -/
def endMark : Char := '\x00'

/-- The mark of byte order. -/
def byteOrderMark : Char := '\ufeff'

/-! ## Characters -/

/-- Whether a character ends a line. -/
def isBreak (c : Char) : Bool :=
  c = '\n' || c = '\x85' || c = '\u2028' || c = '\u2029'

/-- Whether a line ends here. -/
def endsLine (c : Char) : Bool :=
  c = endMark || isBreak c

/-- Whether a line ends here or a space stands here. -/
def endsWord (c : Char) : Bool :=
  c = ' ' || endsLine c

/-- Whether a line ends here or a blank stands here. -/
def isBlank (c : Char) : Bool :=
  c = '\t' || endsWord c

/-- Whether a character may stand in a name: an ASCII letter or digit, a hyphen or an underscore. -/
def isNameChar (c : Char) : Bool :=
  c.isAlphanum || c = '-' || c = '_'

/-! ## Spots -/

/-- The place behind a character. A mark of byte order takes no column. -/
def Place.after (p : Place) (c : Char) : Place :=
  if isBreak c then ⟨p.index + 1, p.line + 1, 0⟩
  else if c = byteOrderMark then { p with index := p.index + 1 }
  else { p with index := p.index + 1, column := p.column + 1 }

/-- What is left of a text, and where it begins. -/
structure Spot where
  /-- What is left. -/
  rest : List Char
  /-- Where it begins. -/
  place : Place := {}
  deriving Inhabited

namespace Spot

/-- The character that stands `n` characters further on. -/
def at? (s : Spot) (n : Nat) : Char := s.rest.getD n endMark

/-- The character that comes next. -/
def peek (s : Spot) : Char := s.rest.headD endMark

/-- The spot behind the next character. -/
def next (s : Spot) : Spot :=
  match s.rest with
  | [] => s
  | c :: rest => ⟨rest, s.place.after c⟩

/-- The spot behind some characters. -/
def skip (s : Spot) : Nat → Spot
  | 0 => s
  | n + 1 => s.next.skip n

/-- The spot behind the characters that satisfy a test. -/
def skipFrom (test : Char → Bool) (p : Place) : List Char → Spot
  | [] => ⟨[], p⟩
  | c :: rest => if test c then skipFrom test (p.after c) rest else ⟨c :: rest, p⟩

/-- The characters that satisfy a test, and the spot behind them. -/
def span (s : Spot) (test : Char → Bool) : List Char × Spot :=
  (s.rest.takeWhile test, skipFrom test s.place s.rest)

/-- Skips spaces. -/
def skipSpaces (s : Spot) : Spot := (s.span (· = ' ')).2

/-- Skips spaces and a comment behind them. -/
def skipComment (s : Spot) : Spot :=
  let s := s.skipSpaces
  if s.peek = '#' then (s.span fun c => !isBreak c).2 else s

/-- The end of a line, if it is here, and the spot behind it. The next-line character counts as a
line feed. -/
def break? (s : Spot) : Option (Char × Spot) :=
  let c := s.peek
  if isBreak c then some (if c = '\x85' then '\n' else c, s.next) else none

/-- The spot behind the end of a line, if it is here. -/
def skipBreak (s : Spot) : Spot := (s.break?.map Prod.snd).getD s

/-- Whether three of a character and a blank behind them are here. -/
def isMark (s : Spot) (c : Char) : Bool :=
  s.rest.take 3 == [c, c, c] && isBlank (s.at? 3)

/-- Whether the mark in front of a document or the one behind it is here. -/
def isDocumentMark (s : Spot) : Bool :=
  s.isMark '-' || s.isMark '.'

end Spot

/-! ## Showing places -/

/-- The most characters shown on one side of a place; of a longer line fewer are shown. -/
def widestSide : Nat := 36

/-- The characters of a longer line that are shown on one side of a place. -/
def shownSide : Nat := 32

/-- The part of a line on one side of a place, the nearest character first, and what stands for the
rest of it. -/
def side (s : List Char) : List Char × List Char :=
  let line := s.takeWhile (!endsLine ·)
  if line.length ≤ widestSide then (line, []) else (line.take shownSide, " ... ".toList)

/-- The line that a place stands on, and a mark below the place. -/
def Place.snippet (text : List Char) (p : Place) : String :=
  let (before, head) := side (text.take p.index).reverse
  let (after, tail) := side (text.drop p.index)
  let start := head ++ before.reverse
  String.ofList ("    ".toList ++ start ++ after ++ tail ++ '\n' ::
    List.replicate (4 + start.length) ' ' ++ ['^'])

/-- A place as it is shown. -/
def Place.words (text : List Char) (p : Place) : String :=
  "  in \"<unicode string>\", line " ++ Number.integerText (p.line + 1 : Nat) ++ ", column " ++
    Number.integerText (p.column + 1 : Nat) ++ ":\n" ++ p.snippet text

end Transcript.Yaml
