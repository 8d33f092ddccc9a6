import Transcript.Proofs.Render.ContentModel
import Transcript.Proofs.Render.PipeTable

/-!
# The lines of a table

A rendered table has a line for each of its rows and one line of delimiters, and an empty line of
cells in front if no row heads it. The rows of a table are those that have it as the closest table
above them, however deeply tables are nested; the row that heads it comes first, and the others keep
their order.

The first row sets the number of delimiters. Shorter rows are padded and longer ones stay as they
are, so there are as many delimiters as cells in the head, unless the row that heads the table is
longer than the first one.

## Main definitions

- `cellCount`: the number of cells on a line
- `BelongsTo`: the rows of a table
- `Heads`: the row that heads a table

## Main results

- `mem_filledRows_iff`: the rows that are rendered
- `heads_of_headerRow?`, `not_heads_of_headerRow?`: the row that is put first
- `cellCount_table`: how many cells stand on each line of a table
- `lines_table`: the lines of a table
-/

namespace Transcript.Render

open Markup

/-! ## Cells on a line -/

/-- The number of cells on a line. It is cut into pieces at the pipes that do not stand right behind
a backslash; what is in front of the first pipe and behind the last one is no cell. -/
def cellCount (line : String) : Nat :=
  (Chars.pieces line.toList).length - 2

theorem cellCount_escapedLine {values : List String} (h : values ≠ []) :
    cellCount (escapedLine values) = values.length := by
  simp [cellCount, pieces_escapedLine h]

theorem length_padRow (width : Nat) (values : List String) :
    (padRow width values).length = max width values.length := by
  simp only [padRow, List.length_append, List.length_replicate]
  omega

section

variable {ask : Option Cursor → String}

theorem length_rowValues (width : Nat) (row : Cursor) :
    (rowValues ask width row).length = max width (rowCells row).length := by
  rw [rowValues, length_padRow, List.length_map]

/-- The row that heads a table is padded, but not cut. -/
theorem length_headerValues (width : Nat) (t : Cursor) (rows : List Cursor) :
    (headerValues ask width t rows).length =
      match headerRow? t rows with
      | none => width
      | some header => max width (rowCells header).length := by
  unfold headerValues
  cases headerRow? t rows with
  | none => exact List.length_replicate
  | some header => exact length_rowValues width header

theorem lines_of_outcome_table {scene : Scene} (helement : scene.node.node.isElement = true)
    (hrows : filledRows scene.node ≠ []) (content : String) (ask : Option Cursor → String) :
    ∃ text, (table scene content).outcome ask = .ok text ∧
      Text.lines text = (tableContent ask scene.node).map escapedLine ++ [""] :=
  ⟨_, outcome_table helement hrows content,
    lines_join_escapedLine (tableContent_ne_nil hrows) isRow_of_mem_tableContent⟩

end

/-- The number of columns that the first row of a table sets. -/
def columnCount (t : Cursor) : Nat :=
  ((filledRows t).head?.map fun first => (rowCells first).length).getD 0

/-- A table with rows starts with its head and its delimiters. There is a delimiter for each cell of
the first row, and no other line has fewer cells. The head has as many cells as there are delimiters
exactly if the row that heads the table, where there is one, is not longer than the first row. -/
theorem cellCount_table {scene : Scene} (helement : scene.node.node.isElement = true)
    (hrows : filledRows scene.node ≠ []) (content : String) (ask : Option Cursor → String) :
    ∃ text head delimiters body, (table scene content).outcome ask = .ok text ∧
      Text.lines text = head :: delimiters :: (body ++ [""]) ∧
      cellCount delimiters = columnCount scene.node ∧
      cellCount delimiters ≤ cellCount head ∧
      (∀ line ∈ body, cellCount delimiters ≤ cellCount line) ∧
      (cellCount head = cellCount delimiters ↔
        ∀ header, headerRow? scene.node (filledRows scene.node) = some header →
          (rowCells header).length ≤ columnCount scene.node) := by
  obtain ⟨text, houtcome, hlines⟩ := lines_of_outcome_table helement hrows content ask
  have hrow : ∀ values ∈ tableContent ask scene.node, IsRow values := isRow_of_mem_tableContent
  cases hfilled : filledRows scene.node with
  | nil => contradiction
  | cons first rest =>
    simp only [tableContent, hfilled] at hlines hrow
    obtain ⟨hhead, hmore⟩ := List.forall_mem_cons.mp hrow
    obtain ⟨hdelimiters, hbody⟩ := List.forall_mem_cons.mp hmore
    have hcolumns : columnCount scene.node = (rowCells first).length := by
      simp [columnCount, hfilled]
    refine ⟨text, _, _, _, houtcome, hlines, ?_, ?_, ?_, ?_⟩
    all_goals simp only [hcolumns, cellCount_escapedLine hhead.ne_nil,
      cellCount_escapedLine hdelimiters.ne_nil, length_headerValues, List.length_map]
    · split
      · exact Nat.le_refl _
      · exact Nat.le_max_left _ _
    · refine List.forall_mem_map.mpr fun values hvalues => ?_
      rw [cellCount_escapedLine (hbody values hvalues).ne_nil]
      obtain ⟨row, -, rfl⟩ := List.mem_map.mp hvalues
      rw [length_rowValues]
      exact Nat.le_max_left _ _
    · cases headerRow? scene.node (first :: rest) with
      | none => simp
      | some header =>
        simp only [Option.some.injEq, forall_eq']
        omega

/-- A table whose first row is shorter than the one in its head section. -/
def wideHead : Scene where
  node := .root 0 (.element "table" [] [
    .element "tr" [] [.element "td" [] [.leaf .plain "a"]],
    .element "thead" [] [.element "tr" [] [
      .element "th" [] [.leaf .plain "b"], .element "th" [] [.leaf .plain "c"]]]])
  depth := 0
  adapter := .generic
  options := {}

/-- Its head has more cells than there are delimiters. -/
theorem cellCount_table_wideHead :
    wideHead.node.node.isElement = true ∧ filledRows wideHead.node ≠ [] ∧
      ∃ text head delimiters body, (table wideHead "").outcome
          (fun c => (c.map fun d => d.node.textContent).getD "") = .ok text ∧
        Text.lines text = head :: delimiters :: (body ++ [""]) ∧
        cellCount delimiters = 1 ∧ cellCount head ≠ cellCount delimiters := by
  have helement : wideHead.node.node.isElement = true := rfl
  have hrows : filledRows wideHead.node ≠ [] := by decide
  obtain ⟨text, head, delimiters, body, houtcome, hlines, hcolumns, -, -, hequal⟩ :=
    cellCount_table helement hrows "" fun c => (c.map fun d => d.node.textContent).getD ""
  refine ⟨helement, hrows, text, head, delimiters, body, houtcome, hlines, hcolumns, ?_⟩
  rw [Ne, hequal]
  intro hshort
  exact absurd (hshort _ rfl) (by decide)

/-! ## The rows of a table -/

/-- A row with cells that has the table as the closest table above it. -/
structure BelongsTo (row t : Cursor) : Prop where
  /-- The row stands below the table. -/
  below : row ∈ t.descendants
  /-- It is a row. -/
  name : row.node.tagName = "tr"
  /-- It has a cell. -/
  cell : ∃ cell ∈ row.children, cell.node.tagName = "th" ∨ cell.node.tagName = "td"
  /-- No table stands between the two. -/
  closest : ∃ between, row.ancestors = between ++ t :: t.ancestors ∧
    ∀ a ∈ between, a.node.tagName ≠ "table"

/-- Names are written in lower case. -/
def LowerCase (cs : List Cursor) : Prop :=
  ∀ c ∈ cs, c.node.tagName = c.node.name

section

variable {t row : Cursor} (ht : t.node.tagName = "table") (hlower : LowerCase t.subtree)
include ht hlower

/-- The closest table above a node is this one if no table stands between them. -/
theorem findParent?_isSame_iff (hrow : row ∈ t.descendants) :
    ((row.findParent? "table").any t.isSame = true ↔
      ∃ between, row.ancestors = between ++ t :: t.ancestors ∧
        ∀ a ∈ between, a.node.tagName ≠ "table") := by
  have hname : t.node.name = "table" := by
    rw [← hlower t (Cursor.self_mem_subtree t), ht]
  obtain ⟨between, hchain, hbelow⟩ := Cursor.exists_ancestors_eq_of_mem_descendants hrow
  have hnames : ∀ a ∈ between, a.node.tagName = a.node.name := fun a ha =>
    hlower a (Cursor.mem_subtree_of_mem_descendants (hbelow a ha))
  rw [Cursor.findParent?, hchain, List.find?_append]
  constructor
  · intro hfound
    refine ⟨between, rfl, fun a ha htable => ?_⟩
    -- A table between them would be found first, and stands at another place.
    cases hfind : between.find? fun a => a.node.name == "table" with
    | none =>
      rw [List.find?_eq_none] at hfind
      exact hfind a ha (by rw [← hnames a ha, htable]; rfl)
    | some inner =>
      have hplace : t.place = inner.place := by
        simpa [hfind, Cursor.isSame] using hfound
      exact Cursor.place_ne_of_mem_descendants (hbelow inner (List.mem_of_find?_eq_some hfind))
        hplace
  · rintro ⟨others, heq, hnone⟩
    obtain rfl : between = others := List.append_cancel_right heq
    have hfind : between.find? (fun a => a.node.name == "table") = none := by
      rw [List.find?_eq_none]
      intro a ha htable
      refine hnone a ha ?_
      rw [hnames a ha]
      exact beq_iff_eq.mp htable
    simp [hfind, hname, Cursor.isSame]

omit ht in
theorem rowCells_ne_nil_iff (hrow : row ∈ t.descendants) :
    rowCells row ≠ [] ↔
      ∃ cell ∈ row.children, cell.node.tagName = "th" ∨ cell.node.tagName = "td" := by
  have hsub := Cursor.mem_subtree_of_mem_descendants hrow
  have hnames : ∀ cell ∈ row.children, cell.node.tagName = cell.node.name := fun cell hcell =>
    hlower cell (Cursor.mem_subtree_of_child hsub hcell)
  constructor
  · intro hne
    obtain ⟨cell, hcell⟩ := List.exists_mem_of_ne_nil _ hne
    simp only [rowCells, Cursor.elementChildren, List.mem_filter, Bool.or_eq_true,
      beq_iff_eq] at hcell
    obtain ⟨⟨hchild, -⟩, hname⟩ := hcell
    exact ⟨cell, hchild, by rwa [hnames cell hchild]⟩
  · rintro ⟨cell, hchild, hname⟩
    have helement : cell.node.isElement = true := by
      rcases hname with hname | hname
      · exact Cursor.isElement_of_tagName hname (by decide)
      · exact Cursor.isElement_of_tagName hname (by decide)
    rw [hnames cell hchild] at hname
    have hcell : cell ∈ rowCells row := by
      simpa [rowCells, Cursor.elementChildren, hchild, helement] using hname
    exact List.ne_nil_of_mem hcell

/-- The rows that are rendered are those that belong to the table. -/
theorem mem_filledRows_iff : row ∈ filledRows t ↔ BelongsTo row t := by
  simp only [filledRows, ownedRows, Cursor.findAll, List.mem_filter, Bool.and_eq_true, beq_iff_eq,
    Bool.not_eq_true', List.isEmpty_eq_false_iff]
  constructor
  · rintro ⟨⟨⟨hbelow, -, hname⟩, howner⟩, hcells⟩
    refine ⟨hbelow, ?_, (rowCells_ne_nil_iff hlower hbelow).mp hcells,
      (findParent?_isSame_iff ht hlower hbelow).mp howner⟩
    rw [hlower row (Cursor.mem_subtree_of_mem_descendants hbelow), hname]
  · rintro ⟨hbelow, hname, hcell, hclosest⟩
    have helement : row.node.isElement = true := Cursor.isElement_of_tagName hname (by decide)
    refine ⟨⟨⟨hbelow, helement, ?_⟩, (findParent?_isSame_iff ht hlower hbelow).mpr hclosest⟩,
      (rowCells_ne_nil_iff hlower hbelow).mpr hcell⟩
    rw [← hlower row (Cursor.mem_subtree_of_mem_descendants hbelow), hname]

end

/-! ## The row that heads a table -/

/-- A row stands directly in a head section. -/
def StandsInHead (row : Cursor) : Prop :=
  ∃ part, row.parent? = some part ∧ part.node.tagName = "thead"

/-- A row heads the rows around it: it is the first of them that stands in a head section, or none
does, and it is the very first and has a header cell. -/
def Heads (before : List Cursor) (header : Cursor) (after : List Cursor) : Prop :=
  (StandsInHead header ∧ ∀ row ∈ before, ¬StandsInHead row) ∨
    before = [] ∧ (∃ cell ∈ header.children, cell.node.tagName = "th") ∧
      ∀ row ∈ header :: after, ¬StandsInHead row

section

variable {t : Cursor} (ht : t.node.tagName = "table") (hlower : LowerCase t.subtree)
include ht hlower

/-- A row that belongs to the table stands in its head section if it stands in any. -/
theorem inHead_iff {row : Cursor} (hrow : BelongsTo row t) :
    inHead t row = true ↔ StandsInHead row := by
  obtain ⟨part, hpart, hchild⟩ := Cursor.mem_descendants_iff.mp hrow.below
  have hparent : row.parent? = some part := Cursor.parent?_of_mem_children hchild
  have howner := (findParent?_isSame_iff ht hlower hrow.below).mpr hrow.closest
  simp only [inHead, StandsInHead, hparent, Bool.and_eq_true, beq_iff_eq, Option.some.injEq,
    exists_eq_left', and_iff_left_iff_imp]
  intro hhead
  -- The section is no table, so the search for one goes on above it.
  have hname : (part.node.name == "table") = false := by
    rw [← hlower part hpart, hhead]
    rfl
  rwa [Cursor.findParent?_of_mem_children hchild, hname] at howner

omit ht in
theorem any_th_iff {row : Cursor} (hrow : BelongsTo row t) :
    ((rowCells row).any fun cell => cell.node.tagName == "th") = true ↔
      ∃ cell ∈ row.children, cell.node.tagName = "th" := by
  have hsub := Cursor.mem_subtree_of_mem_descendants hrow.below
  simp only [rowCells, Cursor.elementChildren, List.any_eq_true, List.mem_filter, Bool.or_eq_true,
    beq_iff_eq]
  constructor
  · rintro ⟨cell, ⟨⟨hchild, -⟩, -⟩, hname⟩
    exact ⟨cell, hchild, hname⟩
  · rintro ⟨cell, hchild, hname⟩
    have helement : cell.node.isElement = true := Cursor.isElement_of_tagName hname (by decide)
    have hwritten : cell.node.name = "th" := by
      rw [← hlower cell (Cursor.mem_subtree_of_child hsub hchild), hname]
    exact ⟨cell, ⟨⟨hchild, helement⟩, .inl hwritten⟩, hname⟩

variable {rows : List Cursor} (hrows : ∀ row ∈ rows, BelongsTo row t)
include hrows

theorem heads_of_headerRow? {header : Cursor} (h : headerRow? t rows = some header) :
    ∃ before after, rows = before ++ header :: after ∧ Heads before header after := by
  unfold headerRow? at h
  cases hfind : rows.find? (inHead t) with
  | some row =>
    obtain rfl : row = header := by simpa [hfind] using h
    obtain ⟨hhead, before, after, rfl, hnone⟩ := List.find?_eq_some_iff_append.mp hfind
    refine ⟨before, after, rfl, .inl ⟨?_, fun other hother hstands => ?_⟩⟩
    · exact (inHead_iff ht hlower (hrows row (by simp))).mp hhead
    · have hin := (inHead_iff ht hlower (hrows other (by simp [hother]))).mpr hstands
      simpa [hin] using hnone other hother
  | none =>
    rw [List.find?_eq_none] at hfind
    cases rows with
    | nil => simp at h
    | cons first rest =>
      have hnone : (first :: rest).find? (inHead t) = none := List.find?_eq_none.mpr hfind
      simp only [hnone, Option.ite_none_right_eq_some, Option.some.injEq] at h
      obtain ⟨hth, rfl⟩ := h
      refine ⟨[], rest, rfl, .inr ⟨rfl, ?_, fun row hrow hstands => ?_⟩⟩
      · exact (any_th_iff hlower (hrows first List.mem_cons_self)).mp hth
      · exact hfind row hrow ((inHead_iff ht hlower (hrows row hrow)).mpr hstands)

/-- Where no row is put first, none heads the table. -/
theorem not_heads_of_headerRow? (h : headerRow? t rows = none) {before after : List Cursor}
    {header : Cursor} (hsplit : rows = before ++ header :: after) :
    ¬Heads before header after := by
  have hmem : header ∈ rows := by simp [hsplit]
  unfold headerRow? at h
  cases hfind : rows.find? (inHead t) with
  | some row => simp [hfind] at h
  | none =>
    rintro (⟨hstands, -⟩ | ⟨rfl, hth, -⟩)
    · rw [List.find?_eq_none] at hfind
      exact hfind header hmem ((inHead_iff ht hlower (hrows header hmem)).mpr hstands)
    · rw [List.nil_append] at hsplit
      subst hsplit
      simp [hfind, (any_th_iff hlower (hrows header hmem)).mpr hth] at h

end

/-! ## The lines of a table -/

/-- Leaving out one of several nodes at different places. -/
theorem filter_not_isSame {before after : List Cursor} {c : Cursor}
    (h : (before ++ c :: after).Pairwise fun a b => a.place ≠ b.place) :
    (before ++ c :: after).filter (fun d => !d.isSame c) = before ++ after := by
  obtain ⟨-, hrest, happart⟩ := List.pairwise_append.mp h
  obtain ⟨hbehind, -⟩ := List.pairwise_cons.mp hrest
  have hbefore : before.filter (fun d => !d.isSame c) = before := by
    rw [List.filter_eq_self]
    intro d hd
    simpa [Cursor.isSame] using happart d hd c List.mem_cons_self
  have hafter : after.filter (fun d => !d.isSame c) = after := by
    rw [List.filter_eq_self]
    intro d hd
    simpa [Cursor.isSame] using (hbehind d hd).symm
  rw [List.filter_append, List.filter_cons, hbefore, hafter]
  simp [Cursor.isSame]

theorem escapedLine_delimiters (cells : List Cursor) :
    escapedLine (cells.map fun cell => delimiter (cellAlignment cell.node)) =
      rowLine ((cells.map fun cell => cellAlignment cell.node).map delimiter) := by
  simp [escapedLine, escaped_delimiter, Function.comp_def]

/-- The line of a row. -/
def rowText (ask : Option Cursor → String) (t row : Cursor) : String :=
  escapedLine (rowValues ask (columnCount t) row)

theorem map_escapedLine_rowValues (ask : Option Cursor → String) (t : Cursor)
    (rows : List Cursor) :
    (rows.map (rowValues ask (columnCount t))).map escapedLine = rows.map (rowText ask t) :=
  List.map_map

theorem nodup_filledRows (t : Cursor) : (filledRows t).Nodup :=
  (pairwise_place_filledRows t).imp fun hne heq => hne (congrArg Cursor.place heq)

/-- The lines of a table in a tree with lower-case names. Each row that belongs to the table has
exactly one line, and rows of other tables have none. If a row heads the table, its line comes
first; otherwise there is a line of empty cells in its place. One line of delimiters follows, one
for each column, and then the other rows in document order. -/
theorem lines_table {scene : Scene} (ht : scene.node.node.tagName = "table")
    (hlower : LowerCase scene.node.subtree) (hrow : ∃ row, BelongsTo row scene.node)
    (content : String) (ask : Option Cursor → String) :
    ∃ (text : String) (rows : List Cursor) (alignments : List (Option Alignment)),
      (table scene content).outcome ask = .ok text ∧
      rows.Sublist scene.node.descendants ∧ rows.Nodup ∧
      (∀ row, row ∈ rows ↔ BelongsTo row scene.node) ∧
      alignments.length = columnCount scene.node ∧
      ((∃ before header after, rows = before ++ header :: after ∧ Heads before header after ∧
          Text.lines text = rowText ask scene.node header ::
            rowLine (alignments.map delimiter) ::
            ((before ++ after).map (rowText ask scene.node) ++ [""])) ∨
        (∀ before header after, rows = before ++ header :: after → ¬Heads before header after) ∧
          Text.lines text = rowLine (List.replicate (columnCount scene.node) "") ::
            rowLine (alignments.map delimiter) ::
            (rows.map (rowText ask scene.node) ++ [""])) := by
  have helement : scene.node.node.isElement = true := Cursor.isElement_of_tagName ht (by decide)
  have hmem : ∀ row, row ∈ filledRows scene.node ↔ BelongsTo row scene.node := fun row =>
    mem_filledRows_iff ht hlower
  have hfilled : filledRows scene.node ≠ [] := by
    obtain ⟨row, hbelongs⟩ := hrow
    exact List.ne_nil_of_mem ((hmem row).mpr hbelongs)
  have hsublist : (filledRows scene.node).Sublist scene.node.descendants :=
    List.filter_sublist.trans (List.filter_sublist.trans List.filter_sublist)
  obtain ⟨text, houtcome, hlines⟩ := lines_of_outcome_table helement hfilled content ask
  obtain ⟨first, rest, hcons⟩ := List.exists_cons_of_ne_nil hfilled
  have hcolumns : (rowCells first).length = columnCount scene.node := by
    simp [columnCount, hcons]
  simp only [tableContent, hcons, hcolumns, List.map_cons, escapedLine_delimiters] at hlines
  rw [← hcons] at hlines
  refine ⟨text, filledRows scene.node, (rowCells first).map fun cell => cellAlignment cell.node,
    houtcome, hsublist, nodup_filledRows _, hmem, ?_, ?_⟩
  · rw [List.length_map, hcolumns]
  cases hheader : headerRow? scene.node (filledRows scene.node) with
  | some header =>
    obtain ⟨before, after, hsplit, hheads⟩ :=
      heads_of_headerRow? ht hlower (fun row => (hmem row).mp) hheader
    have hothers : remainingRows scene.node (filledRows scene.node) = before ++ after := by
      have hplaces := pairwise_place_filledRows scene.node
      rw [hsplit] at hplaces
      simp only [remainingRows, hheader]
      rw [hsplit]
      exact filter_not_isSame hplaces
    refine .inl ⟨before, header, after, hsplit, hheads, ?_⟩
    rw [hlines, hothers, map_escapedLine_rowValues]
    simp only [headerValues, hheader]
    rfl
  | none =>
    refine .inr ⟨fun before header after hsplit => ?_, ?_⟩
    · exact not_heads_of_headerRow? ht hlower (fun row => (hmem row).mp) hheader hsplit
    · rw [hlines]
      simp only [headerValues, remainingRows, hheader]
      rw [map_escapedLine_rowValues, escapedLine, map_escaped_replicate]
      rfl

/-- A table with another one in a cell, and with a row in its head section that is equal to the
first one. -/
def tableInTable : Scene where
  node := .root 0 (.element "table" [] [
    .element "tr" [] [.element "td" [] [.leaf .plain "a"]],
    .element "tr" [] [.element "td" [] [
      .element "table" [] [.element "tr" [] [.element "td" [] [.leaf .plain "n"]]]]],
    .element "thead" [] [.element "tr" [] [.element "td" [] [.leaf .plain "a"]]]])
  depth := 0
  adapter := .generic
  options := {}

/-- Three rows belong to it, and it has a line for each of them besides the delimiters. -/
theorem lines_table_nested :
    tableInTable.node.node.tagName = "table" ∧ LowerCase tableInTable.node.subtree ∧
      (∃ row, BelongsTo row tableInTable.node) ∧
      ∃ (text : String) (rows : List Cursor), (table tableInTable "").outcome
          (fun c => (c.map fun d => d.node.textContent).getD "") = .ok text ∧
        (∀ row, row ∈ rows ↔ BelongsTo row tableInTable.node) ∧ rows.length = 3 ∧
        Text.lines text = ["| a |", "| --- |", "| a |", "| n |", ""] := by
  have ht : tableInTable.node.node.tagName = "table" := by decide
  have hlower : LowerCase tableInTable.node.subtree := by
    unfold LowerCase
    decide
  have hfilled : (filledRows tableInTable.node).length = 3 := by decide
  have hrow : ∃ row, BelongsTo row tableInTable.node := by
    obtain ⟨row, hrow⟩ := List.exists_mem_of_ne_nil (filledRows tableInTable.node) (by decide)
    exact ⟨row, (mem_filledRows_iff ht hlower).mp hrow⟩
  obtain ⟨text, rows, alignments, houtcome, -, hnodup, hmem, -, hlines⟩ :=
    lines_table ht hlower hrow "" fun c => (c.map fun d => d.node.textContent).getD ""
  have hsame : rows.Perm (filledRows tableInTable.node) := by
    rw [List.perm_ext_iff_of_nodup hnodup (nodup_filledRows _)]
    exact fun row => (hmem row).trans (mem_filledRows_iff ht hlower).symm
  have htext : (table tableInTable "").outcome
      (fun c => (c.map fun d => d.node.textContent).getD "") =
        .ok "| a |\n| --- |\n| a |\n| n |\n\n" := by rfl
  obtain rfl := Except.ok.inj (htext.symm.trans houtcome)
  exact ⟨ht, hlower, hrow, _, rows, houtcome, hmem, hsame.length_eq.trans hfilled, by rfl⟩

end Transcript.Render
