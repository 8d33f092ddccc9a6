import Transcript.Text.Blank

/-!
# Lines

Three ways to look at a text as lines. A *line break* proper is a line feed; the *line boundaries*
of a text also include the carriage return, the vertical tabulator, the form feed, the file, group
and record separators, the next-line character and the two Unicode separators, a carriage return
followed by a line feed counting as one; and *normalised* text has no carriage return left.
-/

namespace Transcript

namespace Chars

/-- Splits at every occurrence of `separator`; there is one piece more than separators. -/
def splitAt (separator : Char) : List Char → List (List Char)
  | [] => [[]]
  | c :: rest =>
    if c = separator then [] :: splitAt separator rest
    else
      match splitAt separator rest with
      | [] => [[c]]
      | piece :: pieces => (c :: piece) :: pieces

/-- The characters that end a line. -/
def isLineBoundary (c : Char) : Bool :=
  let n := c.toNat
  (10 ≤ n && n ≤ 13) || (28 ≤ n && n ≤ 30) || n == 0x85 || n == 0x2028 || n == 0x2029

/-- The lines of a text, `line` being the line read so far, in reverse. A boundary at the very end
opens no further line. -/
def linesFrom (line : List Char) : List Char → List (List Char)
  | [] => if line.isEmpty then [] else [line.reverse]
  | '\r' :: '\n' :: rest => line.reverse :: linesFrom [] rest
  | c :: rest =>
    if isLineBoundary c then line.reverse :: linesFrom [] rest
    else linesFrom (c :: line) rest

/-- The lines of a text, without their boundaries. -/
def lines (s : List Char) : List (List Char) :=
  linesFrom [] s

/-- Turns a carriage return followed by a line feed into a line feed. -/
def joinCrLf : List Char → List Char
  | [] => []
  | '\r' :: '\n' :: rest => '\n' :: joinCrLf rest
  | c :: rest => c :: joinCrLf rest

/-- Turns every carriage return, with a following line feed if there is one, into a line feed. -/
def normalizeNewlines (s : List Char) : List Char :=
  (joinCrLf s).map fun c => if c = '\r' then '\n' else c

end Chars

namespace Text

/-- Splits at every occurrence of `separator`. -/
def splitAt (separator : Char) (s : String) : List String :=
  (Chars.splitAt separator s.toList).map String.ofList

/-- The lines of a text, without their boundaries. -/
def lines (s : String) : List String :=
  (Chars.lines s.toList).map String.ofList

end Text

end Transcript
