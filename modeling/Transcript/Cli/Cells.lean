import Transcript.Cli.CellTable
import Transcript.Text.Lines
import Transcript.Text.Search
import Transcript.Text.Word

/-!
# Text in the cells of a console

A console shows text in cells. Characters that would move the cursor are dropped, and a tabulator
fills its line up to the next multiple of eight cells.

## Main definitions

- `cellWidth`: the cells that a character takes
- `spreadTabs`: a line with its tabulators spread out
- `consoleLines`: a text as it stands on the console
-/

namespace Transcript.Cli

/-- The cells that a character takes. -/
def cellWidth (c : Char) : Nat :=
  if Text.inRuns narrowBoundaries c.toNat then 0
  else if Text.inRuns wideBoundaries c.toNat then 2
  else 1

/-- The distance of the tabulator stops. -/
def tabDistance : Nat := 8

/-- A line with its tabulators spread out, `cells` of it being taken already. -/
def spreadTabs (cells : Nat) : List Char → List Char
  | [] => []
  | '\t' :: rest =>
    let next := (cells / tabDistance + 1) * tabDistance
    List.replicate (next - cells) ' ' ++ spreadTabs next rest
  | c :: rest => c :: spreadTabs (cells + cellWidth c) rest

/-- Characters that would ring or move the cursor. -/
def movesCursor (c : Char) : Bool :=
  c = '\x07' || c = '\x08' || c = '\x0b' || c = '\x0c' || c = '\r'

/-- A text as it stands on the console: line by line, without blanks at the ends of lines. -/
def consoleLines (text : String) : List String :=
  let shown := text.toList.filter fun c => !movesCursor c
  (Chars.splitAt '\n' shown).map fun line => Text.trimEnd (String.ofList (spreadTabs 0 line))

end Transcript.Cli
