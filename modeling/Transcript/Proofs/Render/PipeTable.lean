import Transcript.Proofs.Render.Standard
import Transcript.Proofs.Text.Pipes

/-!
# Tables, read back

The text of a table is read line by line, each line is cut at the pipes that are not escaped, each
piece loses one space on each side, and its pipes lose their backslashes. Whatever the cells are
converted to, this gives the values back, each on one line: no cell opens a column or a line of its
own.

## Main definitions

- `readRow?`, `readTable?`: reading lines and tables, strictly
- `oneLine`: the lines of a text with single spaces between them
- `tableContent`: the values of a table: those of its header, the delimiters, and those of the
  remaining rows, short rows being padded

## Main results

- `cellText_eq`: the text of a cell is its value, escaped
- `readRow?_escapedLine`, `readTable?_join`: lines of escaped values are read back
- `outcome_table`: a table is rendered as such lines
- `readTable?_table`: what is read back from a rendered table
-/

namespace Transcript.Render

open Markup

/-! ## Reading -/

section

variable {α β : Type}

/-- Drops the last element, which has to be `x`. -/
def dropFinal? [DecidableEq α] (x : α) (l : List α) : Option (List α) :=
  if l.getLast? = some x then some l.dropLast else none

@[simp] theorem dropFinal?_concat [DecidableEq α] (x : α) (l : List α) :
    dropFinal? x (l ++ [x]) = some l := by
  simp [dropFinal?]

/-- A list is read back if each of its elements is. -/
theorem mapM_map_of_forall {write : α → β} {read? : β → Option α} {l : List α}
    (h : ∀ x ∈ l, read? (write x) = some x) : (l.map write).mapM read? = some l := by
  induction l with
  | nil => rfl
  | cons x rest ih =>
    obtain ⟨hx, hrest⟩ := List.forall_mem_cons.mp h
    simp [List.mapM_cons, hx, ih hrest]

end

/-- Reads a piece of a line: one space is dropped on each side, and the backslashes in front of
pipes are dropped. -/
def readCell? : List Char → Option String
  | ' ' :: rest =>
    (dropFinal? ' ' rest).map fun text => Text.replace "\\|" "|" (String.ofList text)
  | _ => none

/-- Reads a line of cells, which starts and ends with a pipe. -/
def readRow? (line : String) : Option (List String) :=
  match Chars.pieces line.toList with
  | [] :: rest => (dropFinal? [] rest).bind (List.mapM readCell?)
  | _ => none

/-- Reads the lines of a table, an empty line being behind them. -/
def readTable? (text : String) : Option (List (List String)) :=
  (dropFinal? "" (Text.lines text)).bind (List.mapM readRow?)

/-! ## Escaped values -/

/-- A value with its pipes escaped. -/
def escaped (value : String) : String :=
  Text.replace "|" "\\|" value

@[simp] theorem toList_escaped (value : String) :
    (escaped value).toList = value.toList.flatMap Chars.escapePipe := by
  rw [escaped, Text.replace, Text.toList_onChars]
  exact Chars.replace_pipe value.toList

/-- A value as it stands between two pipes. -/
def padded (value : String) : List Char :=
  ' ' :: ((escaped value).toList ++ [' '])

theorem readCell?_padded (value : String) : readCell? (padded value) = some value := by
  have hreplace : Text.replace "\\|" "|" (escaped value) = value := by
    rw [← String.toList_inj, Text.replace, Text.toList_onChars, toList_escaped]
    exact Chars.replace_escaped value.toList
  simp only [padded, readCell?, dropFinal?_concat, Option.map_some, String.ofList_toList, hreplace]

theorem unbroken_padded {value : String} (h : Chars.Unbroken value.toList) :
    Chars.Unbroken (padded value) := by
  have hescaped := Chars.sparesBoundaries_escapePipe.flatMap_unbroken h
  rw [padded, toList_escaped, Chars.unbroken_cons, Chars.unbroken_append]
  exact ⟨rfl, hescaped, Chars.unbroken_iff_any.mpr rfl⟩

/-! ## Lines of values -/

/-- A line of escaped values. -/
def escapedLine (values : List String) : String :=
  rowLine (values.map escaped)

theorem toList_escapedLine {values : List String} (h : values ≠ []) :
    (escapedLine values).toList = '|' :: values.flatMap fun value => padded value ++ ['|'] := by
  simp only [escapedLine, rowLine, String.toList_append, Text.toList_join]
  show '|' :: ' ' :: ([' ', '|', ' '].intercalate _ ++ [' ', '|']) = _
  induction values with
  | nil => contradiction
  | cons first others ih =>
    cases others with
    | nil => simp [padded]
    | cons second others =>
      have hrest := (List.cons.inj (ih (by simp))).2
      rw [List.flatMap_cons, ← hrest]
      simp [padded, List.intercalate_cons_cons]

/-- Each value is a piece, and nothing is left behind the last pipe. -/
theorem pieces_values (values : List String) :
    Chars.pieces (values.flatMap fun value => padded value ++ ['|']) =
      values.map padded ++ [[]] := by
  induction values with
  | nil => rfl
  | cons value rest ih =>
    rw [List.flatMap_cons, List.map_cons, List.cons_append, ← ih]
    simpa [padded] using Chars.pieces_padded value.toList _

theorem pieces_escapedLine {values : List String} (h : values ≠ []) :
    Chars.pieces (escapedLine values).toList = [] :: (values.map padded ++ [[]]) := by
  rw [toList_escapedLine h, ← pieces_values]
  exact Chars.piecesFrom_pipe (by simp) _

/-- A line of escaped values is read back. -/
theorem readRow?_escapedLine {values : List String} (h : values ≠ []) :
    readRow? (escapedLine values) = some values := by
  rw [readRow?, pieces_escapedLine h]
  dsimp only
  rw [dropFinal?_concat, Option.bind_some]
  apply mapM_map_of_forall
  intro value _
  exact readCell?_padded value

/-! ## Lines of a table -/

/-- The values of a row: there is one, and none is broken into lines. -/
structure IsRow (values : List String) : Prop where
  /-- There is a value. -/
  ne_nil : values ≠ []
  /-- The values are on one line. -/
  unbroken : ∀ value ∈ values, Chars.Unbroken value.toList

/-- Escaped values make up one line. -/
theorem IsRow.unbroken_escapedLine {values : List String} (h : IsRow values) :
    Chars.Unbroken (escapedLine values).toList := by
  rw [toList_escapedLine h.ne_nil, Chars.unbroken_cons]
  refine ⟨by decide, fun c hc => ?_⟩
  obtain ⟨value, hvalue, hc⟩ := List.mem_flatMap.mp hc
  rcases List.mem_append.mp hc with hc | hc
  · exact unbroken_padded (h.unbroken value hvalue) c hc
  · rw [List.mem_singleton.mp hc]
    decide

theorem lines_join_escapedLine {rows : List (List String)} (hne : rows ≠ [])
    (h : ∀ values ∈ rows, IsRow values) :
    Text.lines (Text.join "\n" (rows.map escapedLine) ++ "\n\n") =
      rows.map escapedLine ++ [""] := by
  apply Text.lines_join
  · simpa using hne
  · exact List.forall_mem_map.mpr fun values hvalues => (h values hvalues).unbroken_escapedLine

/-- Lines of escaped values are read back, with an empty line behind them. -/
theorem readTable?_join {rows : List (List String)} (hne : rows ≠ [])
    (h : ∀ values ∈ rows, IsRow values) :
    readTable? (Text.join "\n" (rows.map escapedLine) ++ "\n\n") = some rows := by
  rw [readTable?, lines_join_escapedLine hne h, dropFinal?_concat, Option.bind_some]
  apply mapM_map_of_forall
  intro values hvalues
  exact readRow?_escapedLine (h values hvalues).ne_nil

theorem map_escaped_replicate (n : Nat) :
    (List.replicate n "").map escaped = List.replicate n "" := by
  rw [List.map_replicate]
  rfl

theorem unbroken_of_mem_replicate {n : Nat} {value : String} (h : value ∈ List.replicate n "") :
    Chars.Unbroken value.toList := by
  rw [(List.mem_replicate.mp h).2]
  exact Chars.unbroken_nil

theorem escaped_delimiter (alignment : Option Alignment) :
    escaped (delimiter alignment) = delimiter alignment := by
  rcases alignment with _ | _ | _ | _ <;> rfl

theorem unbroken_delimiter (alignment : Option Alignment) :
    Chars.Unbroken (delimiter alignment).toList := by
  rw [Chars.unbroken_iff_any]
  rcases alignment with _ | _ | _ | _ <;> rfl

/-- The text of a table consists of its lines. -/
theorem tableText_escaped (header : List String) (alignments : List (Option Alignment))
    (body : List (List String)) :
    tableText (header.map escaped) alignments (body.map fun values => values.map escaped) =
      Text.join "\n" ((header :: alignments.map delimiter :: body).map escapedLine) ++ "\n\n" := by
  have hdelimiters : (alignments.map delimiter).map escaped = alignments.map delimiter := by
    rw [List.map_map]
    exact List.map_congr_left fun alignment _ => escaped_delimiter alignment
  simp only [tableText, List.map_cons, List.map_map, escapedLine, hdelimiters]
  rfl

/-! ## Cells -/

/-- The lines of a text, without the blanks around it, with single spaces between them. -/
def oneLine (text : String) : String :=
  Text.join " " (Text.lines (Text.trim text))

theorem toList_oneLine (text : String) :
    (oneLine text).toList = [' '].intercalate (Chars.lines (Chars.trim text.toList)) := by
  simp [oneLine, Text.lines, Text.trim, Function.comp_def]

theorem unbroken_oneLine (text : String) : Chars.Unbroken (oneLine text).toList := by
  rw [toList_oneLine]
  apply Chars.unbroken_intercalate
  · exact Chars.unbroken_iff_any.mpr rfl
  · exact fun l hl => Chars.unbroken_of_mem_lines hl

/-- It makes no difference that pipes are escaped before the lines are put together. -/
theorem cellText_eq (markdown : String) : cellText markdown = escaped (oneLine markdown) := by
  have hlines := Chars.lines_flatMap Chars.sparesBoundaries_escapePipe
    (Chars.trim markdown.toList)
  rw [← String.toList_inj, toList_escaped, toList_oneLine,
    Chars.flatMap_intercalate (by decide), ← hlines, ← Chars.replace_pipe]
  simp [cellText, Text.lines, Text.trim, Text.replace, Function.comp_def]

/-- What the children of a cell are converted to, on one line. -/
def cellValue (ask : Option Cursor → String) (cell : Cursor) : String :=
  oneLine (String.join (cell.children.map fun d => ask (some d)))

/-- The values of a row, padded to the width of the table. -/
def rowValues (ask : Option Cursor → String) (width : Nat) (row : Cursor) : List String :=
  padRow width ((rowCells row).map (cellValue ask))

section

variable {ask : Option Cursor → String}

theorem outcome_convertCells (cells : List Cursor) :
    (convertCells cells).outcome ask = .ok ((cells.map (cellValue ask)).map escaped) := by
  induction cells with
  | nil => rfl
  | cons cell rest ih =>
    simp only [convertCells, Rendering.outcome_bind, Rendering.convertedChildren,
      Rendering.outcome_convertedAll, ih, Rendering.outcome_pure, cellText_eq, List.map_cons]
    rfl

theorem outcome_convertRow (width : Nat) (row : Cursor) :
    (convertRow width row).outcome ask = .ok ((rowValues ask width row).map escaped) := by
  simp only [convertRow, Rendering.outcome_bind, outcome_convertCells, Rendering.outcome_pure,
    rowValues, padRow, List.map_append, List.length_map, map_escaped_replicate]

theorem outcome_convertRows (width : Nat) (rows : List Cursor) :
    (convertRows width rows).outcome ask =
      .ok ((rows.map (rowValues ask width)).map fun values => values.map escaped) := by
  induction rows with
  | nil => rfl
  | cons row rest ih =>
    simp only [convertRows, Rendering.outcome_bind, outcome_convertRow, ih, Rendering.outcome_pure,
      List.map_cons]

/-- A row with cells has values, on one line each. -/
theorem isRow_rowValues {width : Nat} {row : Cursor} (h : rowCells row ≠ []) :
    IsRow (rowValues ask width row) where
  ne_nil := by simp [rowValues, padRow, h]
  unbroken := by
    intro value hvalue
    rcases List.mem_append.mp hvalue with hcell | hpadding
    · obtain ⟨cell, -, rfl⟩ := List.mem_map.mp hcell
      exact unbroken_oneLine _
    · exact unbroken_of_mem_replicate hpadding

end

/-! ## Tables -/

/-- The rows besides the one that heads the table. -/
def remainingRows (table : Cursor) (rows : List Cursor) : List Cursor :=
  match headerRow? table rows with
  | none => rows
  | some header => rows.filter fun row => !row.isSame header

/-- The values of the row that heads the table, or empty ones if there is none. -/
def headerValues (ask : Option Cursor → String) (width : Nat) (table : Cursor)
    (rows : List Cursor) : List String :=
  match headerRow? table rows with
  | none => List.replicate width ""
  | some header => rowValues ask width header

/-- The values of a table: those of its header, the delimiters, and those of the remaining rows. The
first row sets the width and the delimiters. -/
def tableContent (ask : Option Cursor → String) (table : Cursor) : List (List String) :=
  match filledRows table with
  | [] => []
  | first :: rest =>
    let width := (rowCells first).length
    headerValues ask width table (first :: rest) ::
      ((rowCells first).map fun cell => delimiter (cellAlignment cell.node)) ::
      (remainingRows table (first :: rest)).map (rowValues ask width)

theorem mem_of_mem_remainingRows {table row : Cursor} {rows : List Cursor}
    (h : row ∈ remainingRows table rows) : row ∈ rows := by
  unfold remainingRows at h
  split at h
  · exact h
  · exact List.mem_of_mem_filter h

section

variable {ask : Option Cursor → String}

theorem isRow_headerValues {width : Nat} {table : Cursor} {rows : List Cursor} (hwidth : width ≠ 0)
    (hcells : ∀ row ∈ rows, rowCells row ≠ []) :
    IsRow (headerValues ask width table rows) := by
  unfold headerValues
  split
  · exact ⟨by simpa using hwidth, fun value hvalue => unbroken_of_mem_replicate hvalue⟩
  · rename_i header hheader
    exact isRow_rowValues (hcells header (mem_of_headerRow? hheader))

theorem isRow_delimiters {cells : List Cursor} (h : cells ≠ []) :
    IsRow (cells.map fun cell => delimiter (cellAlignment cell.node)) where
  ne_nil := by simpa using h
  unbroken := List.forall_mem_map.mpr fun _ _ => unbroken_delimiter _

theorem tableContent_ne_nil {table : Cursor} (h : filledRows table ≠ []) :
    tableContent ask table ≠ [] := by
  unfold tableContent
  split
  · contradiction
  · nofun

theorem isRow_of_mem_tableContent {table : Cursor} :
    ∀ values ∈ tableContent ask table, IsRow values := by
  unfold tableContent
  split
  · nofun
  · rename_i first rest hfilled
    have hcells : ∀ row ∈ first :: rest, rowCells row ≠ [] := by
      intro row hrow
      rw [← hfilled] at hrow
      simpa using (List.mem_filter.mp hrow).2
    have hfirst := hcells first List.mem_cons_self
    refine List.forall_mem_cons.mpr ⟨?_, List.forall_mem_cons.mpr ⟨?_, ?_⟩⟩
    · exact isRow_headerValues (by simpa using hfirst) hcells
    · exact isRow_delimiters hfirst
    · refine List.forall_mem_map.mpr fun row hrow => ?_
      exact isRow_rowValues (hcells row (mem_of_mem_remainingRows hrow))

/-- A table with rows is rendered as the lines of its values. -/
theorem outcome_table {scene : Scene} (helement : scene.node.node.isElement = true)
    (hrows : filledRows scene.node ≠ []) (content : String) :
    (table scene content).outcome ask =
      .ok (Text.join "\n" ((tableContent ask scene.node).map escapedLine) ++ "\n\n") := by
  unfold table tableContent headerValues remainingRows
  rw [helement, if_neg (by simp)]
  cases hfilled : filledRows scene.node with
  | nil => contradiction
  | cons first rest =>
    cases hheader : headerRow? scene.node (first :: rest) with
    | none =>
      simp only [hheader, Rendering.outcome_bind, outcome_convertRows, Rendering.outcome_pure]
      rw [← map_escaped_replicate, tableText_escaped, map_escaped_replicate, List.map_map]
      rfl
    | some header =>
      simp only [hheader, Rendering.outcome_bind, outcome_convertRow, outcome_convertRows,
        Rendering.outcome_pure]
      rw [tableText_escaped, List.map_map]
      rfl

end

/-- What a rendered table says. It is empty if no row has cells. Otherwise it is read back line by
line: whatever the children of the cells are converted to, this gives the values of the header, the
delimiters, and the values of the remaining rows, each on one line and short rows padded. -/
theorem readTable?_table {scene : Scene} (helement : scene.node.node.isElement = true)
    (content : String) (ask : Option Cursor → String) :
    ∃ text, (table scene content).outcome ask = .ok text ∧
      (text = "" ↔ filledRows scene.node = []) ∧
      (text ≠ "" → readTable? text = some (tableContent ask scene.node)) := by
  by_cases hrows : filledRows scene.node = []
  · refine ⟨"", ?_, by simpa using hrows, fun hne => absurd rfl hne⟩
    simp [table, helement, hrows]
  · have hcontent : tableContent ask scene.node ≠ [] := tableContent_ne_nil hrows
    have hread := readTable?_join hcontent isRow_of_mem_tableContent
    refine ⟨_, outcome_table helement hrows content, ?_, fun _ => hread⟩
    -- Nothing can be read from the empty text.
    refine iff_of_false (fun hnone => ?_) hrows
    rw [hnone] at hread
    cases hread

/-- A table with pipes in its header, one of them behind a backslash, and a short row with a line
break. -/
def pipedTable : Scene where
  node := .root 0 (.element "table" [] [
    .element "tr" [] [
      .element "th" [] [.leaf .plain "a|b"],
      .element "th" [⟨"align", .text "center"⟩] [.leaf .plain "c\\|d "]],
    .element "tr" [] [.element "td" [] [.leaf .plain "e\r\nf"]]])
  depth := 0
  adapter := .generic
  options := {}

theorem readTable?_table_piped :
    pipedTable.node.node.isElement = true ∧
      ∃ text, (table pipedTable "").outcome
          (fun c => (c.map fun d => d.node.textContent).getD "") = .ok text ∧
        readTable? text = some [["a|b", "c\\|d"], ["---", ":---:"], ["e f", ""]] := by
  have helement : pipedTable.node.node.isElement = true := rfl
  have hrows : filledRows pipedTable.node ≠ [] := by decide
  obtain ⟨text, houtcome, hempty, hread⟩ := readTable?_table helement ""
    fun c => (c.map fun d => d.node.textContent).getD ""
  refine ⟨helement, text, houtcome, ?_⟩
  rw [hread fun hnone => hrows (hempty.mp hnone)]
  rfl

end Transcript.Render
