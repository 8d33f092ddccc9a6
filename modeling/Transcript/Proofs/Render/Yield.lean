import Transcript.Proofs.Render.ContentModel
import Transcript.Proofs.Render.Standard

/-!
# What replacements yield

A replacement puts markers around text and rearranges it, but makes up no text of its own: a kept
character occurs in what it yields as often as in the content, or, for lists and tables, as often as
in the answers for the children of the items or cells.

## Main definitions

- `answered`: how often a character occurs in the answers for the children of a node

## Main results

- `yields_heading`, `yields_blockquote`, `yields_link` and so on: the replacements of content
- `yields_list`, `yields_table`: the replacements that have children converted again
-/

namespace Transcript.Render

open Markup

section

variable {k : Char} (hk : Chars.isKept k = true) {ask : Option Cursor → String}
include hk

/-! ## Markers -/

theorem tally_replicate {c : Char} (hc : Chars.isKept c = false) (n : Nat) :
    Text.tally k (String.ofList (List.replicate n c)) = 0 := by
  have hne : k ≠ c := by
    rintro rfl
    rw [hk] at hc
    cases hc
  -- The repeated character is another one, so it counts nothing.
  rw [Text.tally_ofList, List.count_replicate]
  simp [hne.symm]

/-- Numbers consist of digits and a sign. -/
theorem tally_integerText (n : Int) : Text.tally k (Number.integerText n) = 0 := by
  have hdigits : (Number.digitsOf n.natAbs).any Chars.isKept = false := by
    rw [List.any_eq_false]
    intro c hc
    have hdigit : c.isDigit = true := Nat.isDigit_of_mem_toDigits (by decide) (by decide) hc
    simp [Chars.not_isKept_of_isDigit hdigit]
  have hsign : Chars.isKept '-' = false := by decide
  apply Text.tally_eq_zero hk
  unfold Number.integerText
  split
  · simp only [String.toList_ofList, List.any_cons, hsign, hdigits, Bool.or_false]
  · simp only [String.toList_ofList, hdigits]

theorem tally_itemMarker {start : Option Int} {offset : Nat} {marker : String}
    (h : itemMarker start offset = .ok marker) : Text.tally k marker = 0 := by
  cases start with
  | none =>
    obtain rfl : "-" = marker := by simpa [itemMarker] using h
    exact Text.tally_eq_zero hk (by decide)
  | some start =>
    simp only [itemMarker, itemNumber] at h
    split at h
    · obtain rfl : Number.integerText (start + offset) ++ "." = marker := by
        simpa [Except.map] using h
      rw [Text.tally_append, tally_integerText hk, Text.tally_eq_zero hk (by decide)]
    · simp [Except.map] at h

theorem tally_delimiter (alignment : Option Alignment) :
    Text.tally k (delimiter alignment) = 0 := by
  apply Text.tally_eq_zero hk
  rcases alignment with _ | _ | _ | _ <;> decide

/-! ## Replacements of content -/

/-- A heading keeps the words of its content. -/
theorem yields_heading (scene : Scene) (content : String) :
    (heading scene content).Yields ask fun text => Text.tally k text = Text.tally k content := by
  have hwords : Text.tally k (Text.join " " (Text.words content)) = Text.tally k content := by
    rw [Text.tally_join (Text.tally_eq_zero hk (by decide)), Text.sum_tally_words hk]
  unfold heading
  extract_lets text
  split
  -- No words, no heading: then the content has no kept character either.
  · rename_i hempty
    have hnone : text = "" := by simpa using hempty
    exact Rendering.yields_pure (by rw [← hwords, ← hnone])
  · refine Rendering.yields_bind (Rendering.yields_ofExcept fun _ _ => trivial) fun level _ => ?_
    apply Rendering.yields_pure
    have hmarker := tally_replicate hk (show Chars.isKept '#' = false by decide) level
    simp (disch := decide) only [Text.tally_append, hmarker, Text.tally_eq_zero hk]
    rw [← hwords]
    simp [text]

theorem tally_quotedLine (line : String) : Text.tally k (quotedLine line) = Text.tally k line := by
  unfold quotedLine
  split
  · rename_i hblank
    rw [Text.tally_of_isAllBlank hk hblank, Text.tally_eq_zero hk (by decide)]
  · rw [Text.tally_append, Text.tally_eq_zero hk (by decide), Nat.zero_add]

omit hk in
/-- Nothing is yielded for an empty text, and nothing is lost by that. -/
theorem tally_unless_empty {text other : String} (h : Text.tally k other = Text.tally k text) :
    Text.tally k (if text == "" then "" else other) = Text.tally k text := by
  split
  · rename_i hempty
    have hnone : text = "" := by simpa using hempty
    rw [hnone]
  · exact h

/-- A quotation keeps the lines of its content. -/
theorem yields_blockquote (scene : Scene) (content : String) :
    (blockquote scene content).Yields ask fun text => Text.tally k text = Text.tally k content := by
  have hlines : ∀ text, ((Text.splitAt '\n' text).map quotedLine).map (Text.tally k) =
      (Text.splitAt '\n' text).map (Text.tally k) := by
    intro text
    rw [List.map_map]
    exact List.map_congr_left fun line _ => tally_quotedLine hk line
  unfold blockquote
  extract_lets text
  apply Rendering.yields_pure
  rw [← Text.tally_trim hk content]
  apply tally_unless_empty
  rw [Text.tally_append, Text.tally_join (Text.tally_eq_zero hk (by decide)), hlines,
    Text.sum_tally_splitAt hk (by decide)]
  exact Nat.add_eq_left.mpr (Text.tally_eq_zero hk (by decide))

theorem yields_paragraph (scene : Scene) (content : String) :
    (paragraph scene content).Yields ask fun text => Text.tally k text = Text.tally k content := by
  unfold paragraph
  extract_lets text
  apply Rendering.yields_pure
  rw [← Text.tally_trim hk content]
  apply tally_unless_empty
  rw [Text.tally_append]
  exact Nat.add_eq_left.mpr (Text.tally_eq_zero hk (by decide))

/-- The blanks around an emphasised text stay, and so does the text. -/
theorem count_emphasized {marker : List Char} (hmarker : marker.any Chars.isKept = false)
    (content : List Char) : (emphasized marker content).count k = content.count k := by
  have hlacks : marker.count k = 0 := by
    refine List.count_eq_zero_of_not_mem fun hmem => ?_
    rw [List.any_eq_false] at hmarker
    exact hmarker k hmem hk
  have hblank := Chars.not_isBlank_of_isKept hk
  unfold emphasized
  extract_lets inner leading trailing
  split
  · rfl
  · have hleading : leading.count k = 0 := Chars.count_takeWhile hblank content
    have htrailing : trailing.count k = 0 := by
      rw [List.count_reverse, Chars.count_takeWhile hblank]
    have hinner : inner.count k = content.count k := Chars.count_trim hk content
    simp only [List.count_append, hleading, hlacks, hinner, htrailing, Nat.zero_add, Nat.add_zero]

theorem tally_emphasized {marker : List Char} (hmarker : marker.any Chars.isKept = false)
    (content : String) :
    Text.tally k (Text.onChars (emphasized marker) content) = Text.tally k content := by
  rw [Text.onChars, Text.tally_ofList, count_emphasized hk hmarker]
  rfl

theorem tally_inlineCode (content : String) :
    Text.tally k (inlineCode content) = Text.tally k content := by
  have hdelimiter : Text.tally k (backticks (longestBacktickRun content + 1)) = 0 :=
    tally_replicate hk (by decide) _
  unfold inlineCode
  extract_lets delimiter touches
  have hdelimiter : Text.tally k delimiter = 0 := hdelimiter
  split
  · simp (disch := decide) only [Text.tally_append, hdelimiter, Text.tally_eq_zero hk]
    omega
  · simp only [Text.tally_append, hdelimiter]
    omega

theorem yields_codeInline (scene : Scene) (content : String) :
    (codeInline scene content).Yields ask fun text => Text.tally k text = Text.tally k content :=
  Rendering.yields_pure (tally_unless_empty (tally_inlineCode hk content))

/-- A link keeps its text, and shows its target besides. -/
theorem yields_link (scene : Scene) (content : String) :
    (link scene content).Yields ask fun text => Text.tally k content ≤ Text.tally k text := by
  unfold link
  extract_lets href text
  clear_value href
  have htext : Text.tally k text = Text.tally k content := Text.tally_trim hk content
  have hshown : Text.tally k text ≤ Text.tally k (orElse text href) := by
    unfold orElse
    split
    · rename_i hempty
      have hnone : text = "" := by simpa using hempty
      rw [hnone]
      exact Nat.zero_le _
    · exact Nat.le_refl _
  split
  · exact Rendering.yields_pure (Nat.le_of_eq htext.symm)
  · cases isSafeHref href with
    | true =>
      apply Rendering.yields_pure
      simp only [Text.tally_append]
      omega
    -- An unsafe target is dropped with a warning, and the text stays.
    | false =>
      intro value hvalue
      obtain rfl : text = value := Except.ok.inj hvalue
      exact Nat.le_of_eq htext.symm

end

/-! ## Lists -/

/-- How often a character occurs in the answers for the children of a node. -/
def answered (k : Char) (ask : Option Cursor → String) (c : Cursor) : Nat :=
  (c.children.map fun d => Text.tally k (ask (some d))).sum

section

variable {k : Char} (hk : Chars.isKept k = true) {ask : Option Cursor → String}
include hk

/-- What is behind the text so far is made of the answers, character data answering for itself. -/
theorem yields_itemContentFrom {cs : List Cursor}
    (hleaf : ∀ d ∈ cs, d.node.isElement = false → ask (some d) = d.node.textContent)
    (text : String) :
    (itemContentFrom text cs).Yields ask fun result =>
      Text.tally k result = Text.tally k text +
        (cs.map fun d => Text.tally k (ask (some d))).sum := by
  -- Induction on the children, for every text in front of them.
  induction cs generalizing text with
  | nil => exact Rendering.yields_pure (by simp)
  | cons child rest ih =>
    have hrest := ih fun d hd => hleaf d (by simp [hd])
    rw [List.map_cons, List.sum_cons, ← Nat.add_assoc]
    unfold itemContentFrom
    split
    · rename_i kind content hnode
      have hanswer : ask (some child) = child.node.textContent :=
        hleaf child (by simp) (by simp [hnode, Node.isElement])
      rw [hanswer, ← Text.tally_append]
      exact hrest _
    · refine Rendering.yields_bind (Rendering.yields_converted _) fun inner hinner => ?_
      subst hinner
      split
      · -- A nested list: the blanks in front of it are dropped, and it starts on a new line.
        have hbefore : Text.tally k (Text.trimEnd text ++ "\n" ++ ask (some child)) =
            Text.tally k text + Text.tally k (ask (some child)) := by
          rw [Text.tally_append, Text.tally_append, Text.tally_trimEnd hk,
            Text.tally_eq_zero hk (show "\n".toList.any Chars.isKept = false by decide),
            Nat.add_zero]
        rw [← hbefore]
        exact hrest _
      · rw [← Text.tally_append]
        exact hrest _

theorem yields_itemContent {item : Cursor}
    (hleaf : ∀ d ∈ item.children, d.node.isElement = false → ask (some d) = d.node.textContent) :
    (itemContent item).Yields ask fun text => Text.tally k text = answered k ask item := by
  refine Rendering.yields_bind (yields_itemContentFrom hk hleaf "") fun text htext => ?_
  apply Rendering.yields_pure
  rw [Text.tally_trim hk, htext, Text.tally_empty, Nat.zero_add]
  rfl

theorem yields_itemLines {indent : String} (hindent : Text.tally k indent = 0)
    (start : Option Int) (offset : Nat) {items : List Cursor}
    (hleaf : ∀ item ∈ items, ∀ d ∈ item.children, d.node.isElement = false →
      ask (some d) = d.node.textContent) :
    (itemLines indent start offset items).Yields ask fun text =>
      Text.tally k text = (items.map (answered k ask)).sum := by
  induction items generalizing offset with
  | nil => exact Rendering.yields_pure rfl
  | cons item rest ih =>
    refine Rendering.yields_bind (Rendering.yields_ofExcept fun marker hmarker =>
      tally_itemMarker hk hmarker) fun marker hmarker => ?_
    refine Rendering.yields_bind (yields_itemContent hk (hleaf item (by simp)))
      fun content hcontent => ?_
    have hrest := ih (offset + 1) fun other hother => hleaf other (by simp [hother])
    refine Rendering.yields_bind hrest fun others hothers => ?_
    apply Rendering.yields_pure
    simp (disch := decide) only [Text.tally_append, hindent, hmarker, hcontent, hothers,
      Text.tally_eq_zero hk, List.map_cons, List.sum_cons]
    omega

/-- A list keeps the answers for the children of its items. -/
theorem yields_list {scene : Scene} (content : String)
    (hleaf : ∀ item ∈ scene.node.children, ∀ d ∈ item.children, d.node.isElement = false →
      ask (some d) = d.node.textContent) :
    (list scene content).Yields ask fun text => Text.tally k text =
      ((scene.node.children.filter fun c => c.node.isElement && c.node.tagName == "li").map
        (answered k ask)).sum := by
  unfold list
  split
  · intro text htext
    cases htext
  · have hindent := tally_replicate hk (show Chars.isKept ' ' = false by decide)
    refine Rendering.yields_bind (yields_itemLines hk (hindent _) _ 0 fun item hitem =>
      hleaf item (List.mem_of_mem_filter hitem)) fun lines hlines => ?_
    apply Rendering.yields_pure
    split
    · rw [Text.tally_append, Text.tally_eq_zero hk (show "\n".toList.any Chars.isKept = false
        by decide), Nat.add_zero, hlines]
    · exact hlines

/-! ## Tables -/

theorem tally_cellText (markdown : String) :
    Text.tally k (cellText markdown) = Text.tally k markdown := by
  rw [cellText, Text.tally_join (Text.tally_eq_zero hk (by decide)), Text.sum_tally_lines hk,
    Text.tally_replace hk (by decide) (by decide) (by decide), Text.tally_trim hk]

theorem yields_convertCells (cells : List Cursor) :
    (convertCells cells).Yields ask fun values =>
      (values.map (Text.tally k)).sum = (cells.map (answered k ask)).sum := by
  induction cells with
  | nil => exact Rendering.yields_pure rfl
  | cons cell rest ih =>
    refine Rendering.yields_bind (Rendering.yields_convertedAll _) fun markdown hmarkdown => ?_
    refine Rendering.yields_bind ih fun others hothers => ?_
    apply Rendering.yields_pure
    have hcell : Text.tally k markdown = answered k ask cell := by
      rw [hmarkdown, Text.tally_joined, List.map_map]
      rfl
    rw [List.map_cons, List.sum_cons, List.map_cons, List.sum_cons, tally_cellText hk, hcell,
      hothers]

omit hk in
/-- Padding a row adds nothing. -/
theorem sum_tally_padRow (width : Nat) (values : List String) :
    ((padRow width values).map (Text.tally k)).sum = (values.map (Text.tally k)).sum := by
  simp [padRow]

theorem yields_convertRow (width : Nat) (row : Cursor) :
    (convertRow width row).Yields ask fun values =>
      (values.map (Text.tally k)).sum = ((rowCells row).map (answered k ask)).sum := by
  refine Rendering.yields_bind (yields_convertCells hk _) fun values hvalues => ?_
  exact Rendering.yields_pure (by rw [sum_tally_padRow, hvalues])

theorem yields_convertRows (width : Nat) (rows : List Cursor) :
    (convertRows width rows).Yields ask fun body =>
      (body.map fun values => (values.map (Text.tally k)).sum).sum =
        (rows.map fun row => ((rowCells row).map (answered k ask)).sum).sum := by
  induction rows with
  | nil => exact Rendering.yields_pure rfl
  | cons row rest ih =>
    refine Rendering.yields_bind (yields_convertRow hk width row) fun values hvalues => ?_
    refine Rendering.yields_bind ih fun others hothers => ?_
    apply Rendering.yields_pure
    rw [List.map_cons, List.sum_cons, List.map_cons, List.sum_cons, hvalues, hothers]

theorem tally_rowLine (values : List String) :
    Text.tally k (rowLine values) = (values.map (Text.tally k)).sum := by
  rw [rowLine, Text.tally_append, Text.tally_append,
    Text.tally_join (Text.tally_eq_zero hk (by decide))]
  simp (disch := decide) only [Text.tally_eq_zero hk, Nat.zero_add, Nat.add_zero]

/-- The text of a table holds its cells, and delimiters. -/
theorem tally_tableText (header : List String) (alignments : List (Option Alignment))
    (body : List (List String)) :
    Text.tally k (tableText header alignments body) =
      (header.map (Text.tally k)).sum +
        (body.map fun values => (values.map (Text.tally k)).sum).sum := by
  have hdelimiters : ((alignments.map delimiter).map (Text.tally k)).sum = 0 := by
    rw [List.map_map]
    exact List.sum_eq_zero (by simp [tally_delimiter hk])
  have hbody : (body.map rowLine).map (Text.tally k) =
      body.map fun values => (values.map (Text.tally k)).sum := by
    rw [List.map_map]
    exact List.map_congr_left fun values _ => tally_rowLine hk values
  unfold tableText
  extract_lets lines
  rw [Text.tally_append, Text.tally_join (Text.tally_eq_zero hk (by decide)),
    Text.tally_eq_zero hk (show "\n\n".toList.any Chars.isKept = false by decide)]
  simp only [lines, List.map_cons, List.sum_cons, hbody, tally_rowLine hk, hdelimiters]
  omega

omit hk in
/-- Taking one row out of the rows of a table, by its place, leaves the others. -/
theorem sum_map_others {rows : List Cursor} (hrows : rows.Pairwise fun a b => a.place ≠ b.place)
    {header : Cursor} (hheader : header ∈ rows) (f : Cursor → Nat) :
    f header + ((rows.filter fun row => !row.isSame header).map f).sum = (rows.map f).sum := by
  induction rows with
  | nil => simp at hheader
  | cons row rest ih =>
    obtain ⟨hne, hrest⟩ := List.pairwise_cons.mp hrows
    rcases List.mem_cons.mp hheader with rfl | hmem
    · -- No other row stands at the place of the header.
      have hothers : rest.filter (fun row => !row.isSame header) = rest := by
        rw [List.filter_eq_self]
        intro other hother
        simpa [Cursor.isSame] using (hne other hother).symm
      have hself : header.isSame header = true := by simp [Cursor.isSame]
      rw [List.filter_cons, hself, hothers]
      simp
    · have hkeep : row.isSame header = false := by
        simpa [Cursor.isSame] using hne header hmem
      simp only [List.filter_cons, hkeep, Bool.not_false, if_true, List.map_cons, List.sum_cons]
      rw [← ih hrest hmem]
      omega

/-- A table keeps the answers for the children of its cells. -/
theorem yields_table {scene : Scene} (content : String)
    (hrows : (filledRows scene.node).Pairwise fun a b => a.place ≠ b.place) :
    (table scene content).Yields ask fun text => Text.tally k text =
      ((filledRows scene.node).map fun row => ((rowCells row).map (answered k ask)).sum).sum := by
  unfold table
  split
  · intro text htext
    cases htext
  · cases hfilled : filledRows scene.node with
    | nil => exact Rendering.yields_pure rfl
    | cons first rest =>
      rw [hfilled] at hrows
      dsimp only
      cases hheader : headerRow? scene.node (first :: rest) with
      -- No header row: an empty one is put in front of all rows.
      | none =>
        refine Rendering.yields_bind (yields_convertRows hk _ _) fun body hbody => ?_
        apply Rendering.yields_pure
        rw [tally_tableText hk, hbody]
        simp
      -- The header is moved to the front, and is left out of the other rows.
      | some header =>
        refine Rendering.yields_bind (yields_convertRow hk _ _) fun values hvalues => ?_
        refine Rendering.yields_bind (yields_convertRows hk _ _) fun body hbody => ?_
        apply Rendering.yields_pure
        rw [tally_tableText hk, hvalues, hbody]
        exact sum_map_others hrows (mem_of_headerRow? hheader) fun row =>
          ((rowCells row).map (answered k ask)).sum

end

end Transcript.Render
