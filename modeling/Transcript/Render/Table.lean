import Transcript.Conversion.Rendering
import Transcript.Formula.Injection
import Transcript.Render.Markers
import Transcript.Text.Lines

/-!
# Tables

A table is rendered with pipes: a header line, a line of delimiters that shows the alignment of the
columns, and a line for each remaining row. Rows belong to the innermost table around them. The
first row sets the number of columns; shorter rows are padded.

## Main definitions

- `ownedRows`, `rowCells`: the rows of a table, and the cells of a row
- `headerRow?`: the row that heads the table
- `Alignment`, `cellAlignment`: how a column is aligned
- `tableText`: the text of a table
- `table`: the replacement
-/

namespace Transcript.Render

open Markup

/-! ## Rows and cells -/

/-- The rows of a table, without those of tables inside it. -/
def ownedRows (table : Cursor) : List Cursor :=
  (table.findAll "tr").filter fun row => (row.findParent? "table").any table.isSame

/-- The cells of a row. -/
def rowCells (row : Cursor) : List Cursor :=
  row.elementChildren.filter fun c => c.node.name == "th" || c.node.name == "td"

/-- The rows of a table that have cells. -/
def filledRows (table : Cursor) : List Cursor :=
  (ownedRows table).filter fun row => !(rowCells row).isEmpty

/-- Whether a row stands directly in the head section of a table. -/
def inHead (table row : Cursor) : Bool :=
  match row.parent? with
  | none => false
  | some part =>
    part.node.tagName == "thead" && (part.findParent? "table").any table.isSame

/-- The row that heads a table: the first one in its head section, or else the first row, if it has
a header cell. -/
def headerRow? (table : Cursor) (rows : List Cursor) : Option Cursor :=
  match rows.find? (inHead table) with
  | some row => some row
  | none =>
    match rows with
    | [] => none
    | first :: _ =>
      if (rowCells first).any fun cell => cell.node.tagName == "th" then some first else none

/-! ## Alignment -/

/-- How a column is aligned. -/
inductive Alignment where
  /-- To the left. -/
  | left
  /-- In the middle. -/
  | center
  /-- To the right. -/
  | right
  deriving DecidableEq

/-- The word for an alignment. -/
def Alignment.word : Alignment → String
  | left => "left"
  | center => "center"
  | right => "right"

/-- The alignment named by a word. -/
def Alignment.ofWord? (s : String) : Option Alignment :=
  [left, center, right].find? fun a => a.word == s

/-- The delimiter of a column. -/
def delimiter : Option Alignment → String
  | none => "---"
  | some .left => ":---"
  | some .center => ":---:"
  | some .right => "---:"

/-- The value of the text alignment at the beginning of a style, as it is written. -/
def takeTextAlign? (s : List Char) : Option (List Char) :=
  match Formula.takeFolded? "text-align".toList s with
  | none => none
  | some (_, rest) =>
    match rest.dropWhile Chars.isBlank with
    | ':' :: rest =>
      let value := rest.dropWhile Chars.isBlank
      [Alignment.left, .center, .right].findSome? fun a =>
        (Formula.takeFolded? a.word.toList value).map Prod.fst
    | _ => none

/-- The value of the text alignment in a style, as it is written. -/
def textAlign? (style : String) : Option String :=
  (Formula.firstMatch? (fun _ s => takeTextAlign? s) none style.toList).map String.ofList

/-- How a cell is aligned: by its style, or else by its attribute. -/
def cellAlignment (cell : Node) : Option Alignment :=
  match textAlign? ((cell.attributeText? "style").getD "") with
  | some value => Alignment.ofWord? (Text.lower value)
  | none => Alignment.ofWord? (Text.lower (cell.trimmedAttribute "align"))

/-! ## Text -/

/-- The text of a cell on one line, its pipes being escaped. -/
def cellText (markdown : String) : String :=
  Text.join " " (Text.lines (Text.replace "|" "\\|" (Text.trim markdown)))

/-- A line of cells. -/
def rowLine (values : List String) : String :=
  "| " ++ Text.join " | " values ++ " |"

/-- Pads the values of a row with empty ones. -/
def padRow (width : Nat) (values : List String) : List String :=
  values ++ List.replicate (width - values.length) ""

/-- The text of a table. -/
def tableText (header : List String) (alignments : List (Option Alignment))
    (body : List (List String)) : String :=
  let lines := rowLine header :: rowLine (alignments.map delimiter) :: body.map rowLine
  Text.join "\n" lines ++ "\n\n"

/-! ## Replacement -/

/-- Converts the cells of a row. -/
def convertCells : List Cursor → Rendering (List String)
  | [] => return []
  | cell :: rest => do
    let markdown ← Rendering.convertedChildren cell
    let others ← convertCells rest
    return cellText markdown :: others

/-- Converts a row, padded to the width of the table. -/
def convertRow (width : Nat) (row : Cursor) : Rendering (List String) := do
  let values ← convertCells (rowCells row)
  return padRow width values

/-- Converts rows, one after another. -/
def convertRows (width : Nat) : List Cursor → Rendering (List (List String))
  | [] => return []
  | row :: rest => do
    let values ← convertRow width row
    let others ← convertRows width rest
    return values :: others

/-- Renders a table. -/
def table : Replacement := fun scene _ =>
  if !scene.node.node.isElement then .raise Cursor.notAnElement
  else
    let rows := filledRows scene.node
    match rows with
    | [] => return ""
    | first :: _ => do
      -- The first row sets the width and the alignments, whether it heads the table or not.
      let cells := rowCells first
      let width := cells.length
      let alignments := cells.map fun cell => cellAlignment cell.node
      match headerRow? scene.node rows with
      | none =>
        let body ← convertRows width rows
        -- A table without a header row gets an empty one.
        return tableText (List.replicate width "") alignments body
      | some header =>
        let values ← convertRow width header
        let body ← convertRows width (rows.filter fun row => !row.isSame header)
        return tableText values alignments body

end Transcript.Render
