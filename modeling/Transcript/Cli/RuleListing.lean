import Transcript.Render.Builtin

/-!
# The list of rules

The rules of a table, printed as a boxed table with a title.
-/

namespace Transcript.Cli

/-- How the cells of a column are aligned. -/
inductive Justify where
  /-- To the left. -/
  | left
  /-- To the right. -/
  | right
  deriving DecidableEq

/-- The title of the list. -/
def listingTitle : String := "Conversion Rules"

/-- The columns of the list: their heads, and how they are aligned. -/
def listingColumns : List (String × Justify) :=
  [("#", .right), ("Priority", .right), ("Name", .left), ("Filter", .left), ("Matches", .left)]

/-- The cells of a rule. -/
def listingCells (e : RuleEntry) : List String :=
  [Number.integerText e.order, Number.integerText e.priority, e.name, e.kind, e.description]

/-- Repeats a character. -/
def repeated (n : Nat) (c : Char) : String :=
  String.ofList (List.replicate n c)

/-- A cell filled up to a width. -/
def filled (justify : Justify) (width : Nat) (s : String) : String :=
  let padding := repeated (width - s.length) ' '
  match justify with
  | .left => s ++ padding
  | .right => padding ++ s

/-- A rule between rows: dashes over every column, with a cross at each border. -/
def borderLine (left cross right : String) (widths : List Nat) : String :=
  left ++ Text.join cross (widths.map fun w => repeated (w + 2) '─') ++ right

/-- A row of cells. -/
def cellLine (widths : List Nat) (cells : List String) : String :=
  let columns := (listingColumns.map Prod.snd).zip (widths.zip cells)
  "│" ++ Text.join "│" (columns.map fun (j, w, s) => " " ++ filled j w s ++ " ") ++ "│"

/-- A title in the middle of a line. -/
def centered (width : Nat) (s : String) : String :=
  let space := width - s.length
  repeated (space / 2) ' ' ++ s ++ repeated (space - space / 2) ' '

/-- The width of each column: that of its widest cell. -/
def columnWidths (rows : List (List String)) : List Nat :=
  rows.foldl (fun widths row => List.zipWith (fun w s => max w s.length) widths row)
    (listingColumns.map fun _ => 0)

/-- The list of rules. -/
def ruleListing (entries : List RuleEntry) : String :=
  let head := listingColumns.map Prod.fst
  let rows := entries.map listingCells
  let widths := columnWidths (head :: rows)
  let lines :=
    borderLine "┌" "┬" "┐" widths :: cellLine widths head :: borderLine "├" "┼" "┤" widths ::
      rows.map (cellLine widths) ++ [borderLine "└" "┴" "┘" widths]
  let width := (lines.head?.getD "").length
  Text.join "\n" (centered width listingTitle :: lines) ++ "\n"

end Transcript.Cli
