import Transcript.Proofs.Platform.Motion
import Transcript.Proofs.Render.Wrapper

/-!
# What the built-in rules see

The filters of the built-in rules look at a node and below it, and so do the programs by which the
rules render a node. Above a node they ask for little: whether it stands in a formula or in a
wrapper of code, how many list items it stands in, and what the adapter says of it. Below a node
most of them go by names in lower case, but rows, cells, tables, code and preformatted text are
looked for by names as they are written. So where the answers are the same before and after a motion,
or in a likeness, the same rule applies, and its program goes the same way, asking for the moved
nodes.

## Main definitions

- `Rendering.redirect`: the program that asks for moved nodes
- `Vista`: what a rule sees above a node is the same after a motion
- `soughtBelow`, `KeepsNames`: the names looked for as they are written, which are kept

## Main results

- `Rendering.run_redirect`: with the same answers for moved nodes a program comes to the same
- `accepts_move`: the filters say the same in a likeness
- `outcome_move`, `run_move`: the replacements come to the same
-/

namespace Transcript

open Markup Cursor

/-! ## Programs -/

namespace Rendering

variable {α β : Type} {f : Cursor → Cursor}

/-- The program that asks for the moved nodes. -/
def redirect (f : Cursor → Cursor) : Rendering α → Rendering α
  | done value => done value
  | raise fault => raise fault
  | report diagnostic next => report diagnostic (next.redirect f)
  | warn message next => warn message (next.redirect f)
  | process node next => process (node.map f) fun text => (next text).redirect f
  | plant tree next => plant tree fun root => (next root).redirect f

theorem redirect_andThen (program : Rendering α) (next : α → Rendering β) :
    (program.andThen next).redirect f =
      (program.redirect f).andThen fun value => (next value).redirect f := by
  induction program with
  | done value => rfl
  | raise fault => rfl
  | report diagnostic next ih => exact congrArg (report diagnostic) ih
  | warn message next ih => exact congrArg (warn message) ih
  | process node next ih => exact congrArg (process _) (funext ih)
  | plant tree next ih => exact congrArg (plant tree) (funext ih)

theorem redirect_bind (program : Rendering α) (next : α → Rendering β) :
    (program >>= next).redirect f = program.redirect f >>= fun value => (next value).redirect f :=
  redirect_andThen program next

theorem redirect_ofExcept (e : Except Fault α) : (ofExcept e).redirect f = ofExcept e := by
  cases e <;> rfl

theorem redirect_convertedAll (cs : List Cursor) :
    (convertedAll cs).redirect f = convertedAll (cs.map f) := by
  induction cs with
  | nil => rfl
  | cons c rest ih =>
    rw [convertedAll, redirect, List.map_cons, convertedAll, Option.map_some]
    congr 1
    funext first
    rw [redirect_andThen, ih]
    rfl

/-- A program that asks for moved nodes, and is answered as it was for the nodes themselves, has the
same outcome and leaves the same notes. -/
theorem run_redirect {may : Conduct} {program : Rendering α} {ask asked : Option Cursor → String}
    (h : program.Keeps may) (hask : ∀ node, may.asks node → asked (node.map f) = ask node) :
    (program.redirect f).outcome asked = program.outcome ask ∧
      (program.redirect f).notes asked = program.notes ask := by
  induction program with
  | done value => exact ⟨rfl, rfl⟩
  | raise fault => exact ⟨rfl, rfl⟩
  | report diagnostic next ih =>
    obtain ⟨houtcome, hnotes⟩ := ih h.2
    exact ⟨houtcome, congrArg (Note.reported diagnostic :: ·) hnotes⟩
  | warn message next ih =>
    obtain ⟨houtcome, hnotes⟩ := ih h
    exact ⟨houtcome, congrArg (Note.warned message :: ·) hnotes⟩
  | process node next ih =>
    have hnext := ih (ask node) (h.2 (ask node))
    simp only [redirect, outcome, notes, hask node h.1]
    exact hnext
  | plant tree next ih => exact ih _ h.2

theorem notes_ofTraced_bind (ask : Option Cursor → String) (t : Traced α)
    (next : α → Rendering β) :
    (ofTraced t >>= next).notes ask = t.trace.map Note.reported ++
      match t.outcome with
      | .ok value => (next value).notes ask
      | .error _ => [] := by
  obtain ⟨outcome, trace⟩ := t
  induction trace with
  | nil => cases outcome <;> rfl
  | cons diagnostic rest ih => exact congrArg (Note.reported diagnostic :: ·) ih

end Rendering

/-! ## What is above -/

namespace Render

/-- What a rule at a node looks for above it is the same after a motion. -/
structure Vista (a : Adapter) (f : Cursor → Cursor) (c : Cursor) : Prop where
  /-- How deeply a list is nested. -/
  level : isList c.node = true → listLevel (f c) = listLevel c
  /-- Whether a formula stands in another one. -/
  math : c.node.hasClass mathClasses = true → insideMath (f c) = insideMath c
  /-- Whether code stands in a wrapper. -/
  wrapper : c.node.tagName = "code" → insideCodeWrapper (f c) = insideCodeWrapper c
  /-- The language of the code in a block. -/
  language : isCodeBlock c = true → ∀ code, codeElement? c = some code →
    a.codeLanguage (f code) = a.codeLanguage code

variable {p : Cursor → Prop} {f : Cursor → Cursor} {a : Adapter} {c d : Cursor}

/-! ## Names as they are written -/

/-- The names, as they are written, that are looked for below a node: by its adapter if it is a
formula, and by the rules for code and tables. -/
def soughtBelow (c : Cursor) : List String :=
  (if (isDisplayMath c || isInlineMath c) && c.node.tagName != "math" then ["math"] else []) ++
    (if isCodeWrapper c.node then ["code"] else []) ++
    (if isCodeWrapper c.node && c.node.tagName != "pre" then ["pre"] else []) ++
    if c.node.tagName == "table" then ["table", "tr", "th", "td"] else []

/-- The names that are looked for as they are written are borne by the same nodes. Nodes with the name
of documents are told from elements, and a table is looked for itself, from its rows. -/
structure KeepsNames (f : Cursor → Cursor) (c : Cursor) : Prop where
  document : NamedAlike f documentName c
  below : ∀ name ∈ soughtBelow c, ∀ d ∈ c.descendants, NamedAlike f name d
  table : c.node.tagName = "table" → NamedAlike f "table" c

theorem keepsNames_of_motion (hm : Motion p f) (h : p c) : KeepsNames f c where
  document := hm.namedAlike h documentName
  below name _ _ hd := hm.namedAlike (hm.of_mem_descendants h hd) name
  table _ := hm.namedAlike h "table"

namespace KeepsNames

theorem code (hnames : KeepsNames f c) (hwrapper : isCodeWrapper c.node = true) :
    ∀ name ∈ ["code"], ∀ d ∈ c.descendants, NamedAlike f name d :=
  fun name hname => hnames.below name (by simp_all [soughtBelow])

theorem preformatted (hnames : KeepsNames f c) (hwrapper : isCodeWrapper c.node = true)
    (hpre : (c.node.tagName == "pre") = false) :
    ∀ name ∈ ["code", "pre"], ∀ d ∈ c.descendants, NamedAlike f name d := by
  refine fun name hname => hnames.below name ?_
  simp only [List.mem_cons, List.not_mem_nil, or_false] at hname
  rcases hname with rfl | rfl <;> simp [soughtBelow, hwrapper, bne, hpre]

theorem inTable (hnames : KeepsNames f c) (htable : c.node.tagName = "table") :
    ∀ name ∈ ["table", "tr", "th", "td"], ∀ d ∈ c.descendants, NamedAlike f name d :=
  fun name hname => hnames.below name (by simp_all [soughtBelow])

end KeepsNames

/-! ## Filters -/

theorem isCodeBlock_move (hl : Likeness p f) (h : p c) (hnames : KeepsNames f c) :
    isCodeBlock (f c) = isCodeBlock c := by
  rw [isCodeBlock, (hl.reads h).tagName, (hl.reads h).hasClass, isCodeBlock]
  cases hpre : c.node.tagName == "pre" with
  | true =>
    have hwrapper : isCodeWrapper c.node = true := by rw [isCodeWrapper, hpre, Bool.true_or]
    rw [if_pos rfl, if_pos rfl, hl.find? h (hnames.code hwrapper), Option.isSome_map]
  | false =>
    cases hclass : c.node.hasClass codeWrapperClasses with
    | false => rfl
    | true =>
      have hwrapper : isCodeWrapper c.node = true := by rw [isCodeWrapper, hclass, Bool.or_true]
      rw [hl.find? h (hnames.preformatted hwrapper hpre), Option.isSome_map]
      rfl

theorem isDisplayMath_move (hl : Likeness p f) (h : p c) (hvista : Vista a f c) :
    isDisplayMath (f c) = isDisplayMath c := by
  rw [isDisplayMath, (hl.reads h).hasClass, isDisplayMath]
  cases hclass : c.node.hasClass displayMathClasses with
  | false => rfl
  | true => rw [hvista.math (Node.hasClass_mono (by decide) hclass)]

theorem isInlineMath_move (hl : Likeness p f) (h : p c) (hvista : Vista a f c) :
    isInlineMath (f c) = isInlineMath c := by
  rw [isInlineMath, (hl.reads h).hasClass, isInlineMath]
  cases hclass : c.node.hasClass inlineMathClasses with
  | false => rw [Bool.and_false, Bool.false_and, Bool.false_and]
  | true => rw [hvista.math (Node.hasClass_mono (by decide) hclass)]

theorem isInlineCode_move (hl : Likeness p f) (h : p c) (hvista : Vista a f c) :
    isInlineCode (f c) = isInlineCode c := by
  rw [isInlineCode, (hl.reads h).tagName, isInlineCode]
  cases htag : c.node.tagName == "code" with
  | false => rfl
  | true => rw [hvista.wrapper (eq_of_beq htag)]

end Render

open Render

variable {p : Cursor → Prop} {f : Cursor → Cursor} {a : Adapter} {c d : Cursor}

/-- The filters of the built-in rules say the same in a likeness. -/
theorem accepts_move (hl : Likeness p f) (h : p c) (hvista : Vista a f c)
    (hnames : KeepsNames f c) {rule : Rule} (hrule : rule ∈ standardRules) :
    rule.filter.accepts (f c) = rule.filter.accepts c := by
  rcases filter_of_mem_standardRules hrule with ⟨names, hfilter⟩ | ⟨name, test, htest, hfilter⟩
  · rw [hfilter, RuleFilter.accepts, (hl.reads h).isElement, (hl.reads h).tagName, bne,
      hnames.document.beq, RuleFilter.accepts, bne]
  · have hsame : test (f c) = test c := by
      simp only [standardTests, List.mem_cons, List.not_mem_nil, or_false] at htest
      rcases htest with rfl | rfl | rfl | rfl
      · exact isDisplayMath_move hl h hvista
      · exact isInlineMath_move hl h hvista
      · exact isCodeBlock_move hl h hnames
      · exact isInlineCode_move hl h hvista
    rw [hfilter]
    exact congrArg Except.ok hsame

/-! ## Replacements -/

/-- The scene after a motion. -/
def Scene.move (f : Cursor → Cursor) (scene : Scene) : Scene :=
  { scene with node := f scene.node }

namespace Render

variable {scene : Scene}

/-! ### Headings, links and images -/

theorem heading_move (hl : Likeness p f) (h : p scene.node) (content : String) :
    heading (scene.move f) content = (heading scene content).redirect f := by
  simp only [heading, Scene.move, (hl.reads h).tagName]
  split
  · rfl
  · rw [Rendering.redirect_bind, Rendering.redirect_ofExcept]
    rfl

theorem link_move (hl : Likeness p f) (h : p scene.node) (content : String) :
    link (scene.move f) content = (link scene content).redirect f := by
  simp only [link, Scene.move, (hl.reads h).trimmedAttribute]
  split
  · rfl
  · split <;> rfl

theorem image_move (hl : Likeness p f) (h : p scene.node) (content : String) :
    image (scene.move f) content = (image scene content).redirect f := by
  simp only [image, Scene.move, (hl.reads h).trimmedAttribute]
  rfl

/-! ### Lists -/

theorem isList_of_reads {new old : Node} (h : new.ReadsAs old) : isList new = isList old := by
  rw [isList, h.tagName, isList]

theorem listStart_of_reads {new old : Node} (h : new.ReadsAs old) :
    listStart new = listStart old := by
  simp only [listStart, Node.attributeInteger, Node.attributeText?, h.tagName, h.attribute?]

/-- Character data stays in the text of an item, and everything else is converted. -/
theorem itemContentFrom_cons (text : String) (child : Cursor) (rest : List Cursor) :
    itemContentFrom text (child :: rest) =
      if child.node.isElement then do
        let inner ← Rendering.converted (some child)
        if isList child.node then itemContentFrom (Text.trimEnd text ++ "\n" ++ inner) rest
        else itemContentFrom (text ++ inner) rest
      else itemContentFrom (text ++ child.node.textContent) rest := by
  rw [itemContentFrom]
  cases child.node <;> rfl

theorem itemContentFrom_move (hl : Likeness p f) {cs : List Cursor} (h : ∀ child ∈ cs, p child)
    (text : String) :
    itemContentFrom text (cs.map f) = (itemContentFrom text cs).redirect f := by
  induction cs generalizing text with
  | nil => rfl
  | cons child rest ih =>
    have hrest := ih fun other hother => h other (List.mem_cons_of_mem _ hother)
    have hreads := hl.reads (h child List.mem_cons_self)
    rw [List.map_cons, itemContentFrom_cons, itemContentFrom_cons, hreads.isElement,
      hreads.textContent, isList_of_reads hreads]
    split
    · rw [Rendering.redirect_bind]
      congr 1
      funext inner
      split
      · exact hrest _
      · exact hrest _
    · exact hrest _

theorem itemContent_move (hl : Likeness p f) (h : p c) :
    itemContent (f c) = (itemContent c).redirect f := by
  rw [itemContent, hl.children h, itemContentFrom_move hl fun d hd => hl.child h hd, itemContent,
    Rendering.redirect_bind]
  rfl

theorem itemLines_move (hl : Likeness p f) {items : List Cursor} (h : ∀ item ∈ items, p item)
    (indent : String) (start : Option Int) (offset : Nat) :
    itemLines indent start offset (items.map f) =
      (itemLines indent start offset items).redirect f := by
  induction items generalizing offset with
  | nil => rfl
  | cons item rest ih =>
    have hrest := ih fun other hother => h other (List.mem_cons_of_mem _ hother)
    simp only [List.map_cons, itemLines, itemContent_move hl (h item List.mem_cons_self), hrest,
      Rendering.redirect_bind, Rendering.redirect_ofExcept]
    rfl

theorem list_move (hl : Likeness p f) (h : p scene.node)
    (hlevel : listLevel (f scene.node) = listLevel scene.node) (content : String) :
    Render.list (scene.move f) content = (Render.list scene content).redirect f := by
  have hitems : ((f scene.node).children.filter fun c =>
      c.node.isElement && c.node.tagName == "li") =
        (scene.node.children.filter fun c => c.node.isElement && c.node.tagName == "li").map f := by
    rw [hl.children h]
    refine filter_map_of_eq fun d hd => ?_
    have hreads := hl.reads (hl.child h hd)
    rw [hreads.isElement, hreads.tagName]
  have hbelow : ∀ item ∈ scene.node.children.filter fun c =>
      c.node.isElement && c.node.tagName == "li", p item := fun item hitem =>
    hl.child h (List.mem_of_mem_filter hitem)
  simp only [Render.list, Scene.move, (hl.reads h).isElement, listStart_of_reads (hl.reads h),
    hlevel, hitems, itemLines_move hl hbelow]
  split
  · rfl
  · rw [Rendering.redirect_bind]
    rfl

/-! ### Tables -/

theorem cellAlignment_of_reads {new old : Node} (h : new.ReadsAs old) :
    cellAlignment new = cellAlignment old := by
  simp only [cellAlignment, Node.attributeText?, h.attribute?, h.trimmedAttribute]

theorem rowCells_move (hl : Likeness p f) (h : p c)
    (hcells : ∀ name ∈ ["th", "td"], ∀ d ∈ c.children, NamedAlike f name d) :
    rowCells (f c) = (rowCells c).map f := by
  rw [rowCells, hl.elementChildren h]
  refine filter_map_of_eq fun d hd => ?_
  have hchild : d ∈ c.children := List.mem_of_mem_filter hd
  rw [(hcells "th" (by simp) d hchild).beq, (hcells "td" (by simp) d hchild).beq]

theorem child_of_mem_rowCells (hd : d ∈ rowCells c) : d ∈ c.children :=
  List.mem_of_mem_filter (List.mem_of_mem_filter hd)

theorem mem_descendants_of_mem_filledRows (hd : d ∈ filledRows c) : d ∈ c.descendants :=
  List.mem_of_mem_filter (List.mem_of_mem_filter (List.mem_of_mem_filter hd))

/-- The parts of a table are known under the same names. -/
structure TableKept (f : Cursor → Cursor) (c : Cursor) : Prop where
  table : ∀ d ∈ c.subtree, NamedAlike f "table" d
  row : ∀ d ∈ c.descendants, NamedAlike f "tr" d
  cell : ∀ name ∈ ["th", "td"], ∀ d ∈ c.descendants, NamedAlike f name d

theorem KeepsNames.tableKept (hnames : KeepsNames f c) (htable : c.node.tagName = "table") :
    TableKept f c where
  table d hd := by
    rcases mem_subtree_iff.mp hd with rfl | hbelow
    · exact hnames.table htable
    · exact hnames.inTable htable "table" (by simp) d hbelow
  row := hnames.inTable htable "tr" (by simp)
  cell name hname := hnames.inTable htable name (by simp_all)

/-- The cells of a row below a table. -/
theorem TableKept.rowCells_move (hkept : TableKept f c) (hl : Likeness p f) (h : p c)
    (hd : d ∈ c.descendants) : rowCells (f d) = (rowCells d).map f := by
  refine Render.rowCells_move hl (hl.of_mem_descendants h hd) fun name hname e he => ?_
  refine hkept.cell name hname e ?_
  exact mem_descendants_iff.mpr ⟨d, mem_subtree_of_mem_descendants hd, he⟩

theorem filledRows_move (hl : Likeness p f) (h : p c) (hkept : TableKept f c) :
    filledRows (f c) = (filledRows c).map f := by
  -- Rows are told from those of inner tables by the nearest table above, which is taken along.
  have howned : ownedRows (f c) = (ownedRows c).map f := by
    rw [ownedRows, hl.findAll h hkept.row]
    refine filter_map_of_eq fun d hd => ?_
    exact hl.findParent?_isSame h hkept.table d
      (mem_subtree_of_mem_descendants (List.mem_of_mem_filter hd))
  rw [filledRows, howned]
  refine filter_map_of_eq fun d hd => ?_
  have hbelow := List.mem_of_mem_filter (List.mem_of_mem_filter hd)
  rw [hkept.rowCells_move hl h hbelow, List.isEmpty_map]

theorem inHead_move (hl : Likeness p f) (h : p c) (hkept : TableKept f c)
    (hd : d ∈ c.descendants) : inHead (f c) (f d) = inHead c d := by
  obtain ⟨part, hpart, hparent, hmoved⟩ := hl.parent? h hd
  rw [inHead, hmoved, inHead, hparent]
  dsimp only
  rw [(hl.reads (hl.of_mem_subtree h hpart)).tagName,
    hl.findParent?_isSame h hkept.table part hpart]

theorem headerRow?_move (hl : Likeness p f) (h : p c) (hkept : TableKept f c)
    {rows : List Cursor} (hrows : ∀ row ∈ rows, row ∈ c.descendants) :
    headerRow? (f c) (rows.map f) = (headerRow? c rows).map f := by
  have hfind : (rows.map f).find? (inHead (f c)) = (rows.find? (inHead c)).map f :=
    find?_map_of_eq fun row hrow => inHead_move hl h hkept (hrows row hrow)
  unfold headerRow?
  rw [hfind]
  cases rows.find? (inHead c) with
  | some row => rfl
  | none =>
    cases rows with
    | nil => rfl
    | cons first rest =>
      have hbelow := hrows first List.mem_cons_self
      have hcells : (rowCells (f first)).any (fun cell => cell.node.tagName == "th") =
          (rowCells first).any fun cell => cell.node.tagName == "th" := by
        rw [hkept.rowCells_move hl h hbelow]
        refine any_map_of_eq fun cell hcell => ?_
        have hfirst : p first := hl.of_mem_descendants h hbelow
        rw [(hl.reads (hl.child hfirst (child_of_mem_rowCells hcell))).tagName]
      simp only [List.map_cons, Option.map_none, hcells]
      split <;> rfl

theorem convertCells_move (hl : Likeness p f) {cells : List Cursor} (h : ∀ cell ∈ cells, p cell) :
    convertCells (cells.map f) = (convertCells cells).redirect f := by
  induction cells with
  | nil => rfl
  | cons cell rest ih =>
    have hrest := ih fun other hother => h other (List.mem_cons_of_mem _ hother)
    simp only [List.map_cons, convertCells, Rendering.convertedChildren,
      hl.children (h cell List.mem_cons_self), hrest, Rendering.redirect_bind,
      Rendering.redirect_convertedAll]
    rfl

theorem convertRow_move (hl : Likeness p f) (h : p c) (hkept : TableKept f c)
    (hd : d ∈ c.descendants) (width : Nat) :
    convertRow width (f d) = (convertRow width d).redirect f := by
  have hrow : p d := hl.of_mem_descendants h hd
  rw [convertRow, hkept.rowCells_move hl h hd,
    convertCells_move hl fun cell hcell => hl.child hrow (child_of_mem_rowCells hcell), convertRow,
    Rendering.redirect_bind]
  rfl

theorem convertRows_move (hl : Likeness p f) (h : p c) (hkept : TableKept f c)
    {rows : List Cursor} (hrows : ∀ row ∈ rows, row ∈ c.descendants) (width : Nat) :
    convertRows width (rows.map f) = (convertRows width rows).redirect f := by
  induction rows with
  | nil => rfl
  | cons row rest ih =>
    have hrest := ih fun other hother => hrows other (List.mem_cons_of_mem _ hother)
    have hfirst := convertRow_move hl h hkept (hrows row List.mem_cons_self)
    simp only [List.map_cons, convertRows, hfirst, hrest, Rendering.redirect_bind]
    rfl

theorem table_move (hl : Likeness p f) (h : p scene.node) (hkept : TableKept f scene.node)
    (content : String) : table (scene.move f) content = (table scene content).redirect f := by
  have hdescendants : ∀ row ∈ filledRows scene.node, row ∈ scene.node.descendants :=
    fun row hrow => mem_descendants_of_mem_filledRows hrow
  simp only [table, Scene.move, (hl.reads h).isElement, filledRows_move hl h hkept]
  split
  · rfl
  cases hrows : filledRows scene.node with
  | nil => rfl
  | cons first rest =>
    rw [hrows] at hdescendants
    have hbelow : ∀ row ∈ first :: rest, p row := fun row hrow =>
      hl.of_mem_descendants h (hdescendants row hrow)
    have hfirst : p first := hbelow first List.mem_cons_self
    have hheader : headerRow? (f scene.node) ((first :: rest).map f) =
        (headerRow? scene.node (first :: rest)).map f := headerRow?_move hl h hkept hdescendants
    -- Alignments are read off the attributes of the cells.
    have halignments : ((rowCells first).map f).map (fun cell => cellAlignment cell.node) =
        (rowCells first).map fun cell => cellAlignment cell.node := by
      rw [List.map_map]
      refine List.map_congr_left fun cell hcell => ?_
      exact cellAlignment_of_reads (hl.reads (hl.child hfirst (child_of_mem_rowCells hcell)))
    rw [List.map_cons] at hheader ⊢
    dsimp only
    rw [hheader, hkept.rowCells_move hl h (hdescendants first List.mem_cons_self), halignments,
      List.length_map]
    cases hfound : headerRow? scene.node (first :: rest) with
    | none =>
      dsimp only [Option.map_none]
      rw [Rendering.redirect_bind, ← List.map_cons, convertRows_move hl h hkept hdescendants]
      rfl
    | some header =>
      have hmem : header ∈ first :: rest := mem_of_headerRow? hfound
      -- The other rows are told from the header by identity.
      have hothers : ((first :: rest).map f).filter (fun row => !row.isSame (f header)) =
          ((first :: rest).filter fun row => !row.isSame header).map f :=
        filter_map_of_eq fun row hrow => by
          rw [hl.isSame (hbelow row hrow) (hbelow header hmem)]
      have hothersBelow : ∀ row ∈ (first :: rest).filter fun row => !row.isSame header,
          row ∈ scene.node.descendants :=
        fun row hrow => hdescendants row (List.mem_of_mem_filter hrow)
      dsimp only [Option.map_some]
      rw [← List.map_cons, hothers, convertRow_move hl h hkept (hdescendants header hmem),
        convertRows_move hl h hkept hothersBelow, Rendering.redirect_bind]
      simp only [Rendering.redirect_bind]
      rfl

/-! ### Formulas and code -/

/-- A formula asks for no node, so what it comes to depends on what is recovered. -/
theorem outcome_formula_move
    (hrecovers : scene.adapter.RecoversAlike scene.node (f scene.node)) (wrap : String → String)
    (content : String) (ask asked : Option Cursor → String) :
    (formula wrap (scene.move f) content).outcome asked =
      (formula wrap scene content).outcome ask := by
  have hwritten := hrecovers.outcome
  simp only [formula, Scene.extractLatex, Scene.move, Rendering.outcome_bind,
    Rendering.outcome_ofTraced]
  generalize (scene.adapter.extractLatex (f scene.node)).outcome = moved at hwritten ⊢
  generalize (scene.adapter.extractLatex scene.node).outcome = found at hwritten ⊢
  obtain ⟨fault, rfl, rfl⟩ | ⟨rfl, rfl⟩ | ⟨result, other, rfl, rfl, hcounted⟩ :=
    Adapter.cases_of_alike hwritten
  · rfl
  -- The content is kept in both cases, whatever the warnings say.
  · rfl
  · obtain ⟨hlatex, hmarkup⟩ := Prod.mk.inj hcounted
    simp only [hlatex, hmarkup]
    split
    · rfl
    · rfl

/-- The notes on a formula name its node. -/
theorem notes_formula_move (hm : Motion p f) (h : p scene.node)
    (hrecovers : scene.adapter.RecoversAlike scene.node (f scene.node)) (wrap : String → String)
    (content : String) (ask asked : Option Cursor → String) :
    (formula wrap (scene.move f) content).notes asked = (formula wrap scene content).notes ask := by
  have hkeep : formula.keepContent (scene.move f) content = formula.keepContent scene content := by
    simp only [formula.keepContent, Scene.move, hm.node h]
  obtain ⟨htrace, hwritten⟩ := hrecovers
  simp only [formula, Scene.extractLatex, Rendering.notes_ofTraced_bind, hkeep]
  simp only [Scene.move, htrace]
  generalize (scene.adapter.extractLatex (f scene.node)).outcome = moved at hwritten ⊢
  generalize (scene.adapter.extractLatex scene.node).outcome = found at hwritten ⊢
  obtain ⟨fault, rfl, rfl⟩ | ⟨rfl, rfl⟩ | ⟨result, other, rfl, rfl, hcounted⟩ :=
    Adapter.cases_of_alike hwritten
  · rfl
  · rfl
  · obtain ⟨hlatex, hmarkup⟩ := Prod.mk.inj hcounted
    simp only [hlatex, hmarkup]
    split
    · rfl
    · rfl

theorem codeElement?_move (hl : Likeness p f) (h : p c) (hnames : KeepsNames f c)
    (hwrapper : isCodeWrapper c.node = true) : codeElement? (f c) = (codeElement? c).map f := by
  unfold codeElement?
  rw [(hl.reads h).tagName, hl.find? h (hnames.code hwrapper)]
  split
  · rfl
  · cases c.find? ["code"] with
    | some code => rfl
    | none =>
      dsimp only [Option.map_none]
      split
      · rfl
      · rename_i hpre
        have hpre : (c.node.tagName == "pre") = false := Bool.not_eq_true _ ▸ hpre
        exact hl.find? h fun name hname =>
          hnames.preformatted hwrapper hpre name (List.mem_cons_of_mem _ hname)

theorem mem_subtree_of_codeElement? (hd : codeElement? c = some d) : d ∈ c.subtree := by
  have hfind : ∀ names e, c.find? names = some e → e ∈ c.subtree := fun names e he =>
    mem_subtree_of_mem_descendants (List.mem_of_find?_eq_some he)
  unfold codeElement? at hd
  split at hd
  · obtain rfl : c = d := Option.some.inj hd
    exact self_mem_subtree c
  · cases hcode : c.find? ["code"] with
    | some code =>
      rw [hcode] at hd
      obtain rfl : code = d := Option.some.inj hd
      exact hfind _ _ hcode
    | none =>
      rw [hcode] at hd
      dsimp only at hd
      split at hd
      · obtain rfl : c = d := Option.some.inj hd
        exact self_mem_subtree c
      · exact hfind _ _ hd

theorem codeBlock_move (hl : Likeness p f) (h : p scene.node) (hnames : KeepsNames f scene.node)
    (hwrapper : isCodeWrapper scene.node.node = true)
    (hlanguage : ∀ code, codeElement? scene.node = some code →
      scene.adapter.codeLanguage (f code) = scene.adapter.codeLanguage code) (content : String) :
    codeBlock (scene.move f) content = (codeBlock scene content).redirect f := by
  simp only [codeBlock, Scene.move, codeElement?_move hl h hnames hwrapper]
  cases hfound : codeElement? scene.node with
  | none => rfl
  | some code =>
    have hreads := hl.reads (hl.of_mem_subtree h (mem_subtree_of_codeElement? hfound))
    simp only [Option.map_some, Scene.codeLanguage, hlanguage code hfound, hreads.flatText,
      Rendering.redirect_bind, Rendering.redirect_ofExcept]
    rfl

end Render

/-- A built-in rule is one of the two for formulas, or its program at a node goes on as the program
at the node in a likeness does, asking for the nodes there. -/
theorem formula_or_redirect (hl : Likeness p f) {rule : Rule} (hrule : rule ∈ standardRules)
    {scene : Scene} (h : p scene.node) (haccepts : rule.filter.accepts scene.node = .ok true)
    (hvista : Vista scene.adapter f scene.node) (hnames : KeepsNames f scene.node)
    (content : String) :
    ((isDisplayMath scene.node || isInlineMath scene.node) = true ∧
        ∃ wrap, rule.replacement = formula wrap) ∨
      rule.replacement (scene.move f) content = (rule.replacement scene content).redirect f := by
  rcases mem_standardRules_iff.mp hrule with hrule | hrule
  · cases hrule with
    | display =>
      exact .inl ⟨Bool.or_eq_true_iff.mpr (.inl (Except.ok.inj haccepts)), displayMath, rfl⟩
    | inline =>
      exact .inl ⟨Bool.or_eq_true_iff.mpr (.inr (Except.ok.inj haccepts)), inlineMath, rfl⟩
    | codeBlock =>
      have hblock := Except.ok.inj haccepts
      exact .inr (codeBlock_move hl h hnames (isCodeWrapper_of_isCodeBlock hblock)
        (hvista.language hblock) content)
  · cases hrule with
    | table =>
      have htable : scene.node.node.tagName = "table" :=
        List.mem_singleton.mp (of_accepts_tags haccepts).2
      exact .inr (table_move hl h (hnames.tableKept htable) content)
    | heading => exact .inr (heading_move hl h content)
    | list =>
      have hlist : isList scene.node.node = true := by
        simpa [isList, or_comm] using (of_accepts_tags haccepts).2
      exact .inr (list_move hl h (hvista.level hlist) content)
    | link =>
      dsimp only [linkRule, ruleForTags]
      exact .inr (link_move hl h content)
    | image =>
      dsimp only [imageRule, ruleForTags]
      exact .inr (image_move hl h content)
    | _ => exact .inr rfl

section

variable {rule : Rule} {scene : Scene} {ask asked : Option Cursor → String}

/-- With the same answers a program that asks for the moved nodes comes to the same and leaves the
same notes. -/
theorem run_of_redirect (hrule : rule ∈ standardRules) (hadapter : scene.adapter.overrides = {})
    {content : String}
    (hsame : rule.replacement (scene.move f) content =
      (rule.replacement scene content).redirect f)
    (hask : ∀ d ∈ scene.node.descendants, asked (some (f d)) = ask (some d)) :
    (rule.replacement (scene.move f) content).outcome asked =
        (rule.replacement scene content).outcome ask ∧
      (rule.replacement (scene.move f) content).notes asked =
        (rule.replacement scene content).notes ask := by
  rw [hsame]
  refine Rendering.run_redirect (keeps_of_mem_standardRules hrule scene hadapter content) ?_
  rintro node ⟨d, hd, rfl⟩
  exact hask d hd

/-- With the same answers for the nodes below, a built-in rule comes to the same in a likeness. -/
theorem outcome_move (hl : Likeness p f) (hrule : rule ∈ standardRules) (h : p scene.node)
    (haccepts : rule.filter.accepts scene.node = .ok true)
    (hadapter : scene.adapter.overrides = {}) (hvista : Vista scene.adapter f scene.node)
    (hnames : KeepsNames f scene.node)
    (hrecovers : (isDisplayMath scene.node || isInlineMath scene.node) = true →
      scene.adapter.RecoversAlike scene.node (f scene.node)) (content : String)
    (hask : ∀ d ∈ scene.node.descendants, asked (some (f d)) = ask (some d)) :
    (rule.replacement (scene.move f) content).outcome asked =
      (rule.replacement scene content).outcome ask := by
  rcases formula_or_redirect hl hrule h haccepts hvista hnames content with
    ⟨hformula, wrap, hwrap⟩ | hsame
  · rw [hwrap]
    exact outcome_formula_move (hrecovers hformula) wrap content ask asked
  · exact (run_of_redirect hrule hadapter hsame hask).1

/-- With the same answers for moved nodes, a built-in rule at a moved node comes to the same, and
leaves the same notes. -/
theorem run_move (hm : Motion p f) (hrule : rule ∈ standardRules) (h : p scene.node)
    (haccepts : rule.filter.accepts scene.node = .ok true)
    (hadapter : scene.adapter.overrides = {}) (hvista : Vista scene.adapter f scene.node)
    (hrecovers : scene.adapter.RecoversAlike scene.node (f scene.node)) (content : String)
    (hask : ∀ d ∈ scene.node.descendants, asked (some (f d)) = ask (some d)) :
    (rule.replacement (scene.move f) content).outcome asked =
        (rule.replacement scene content).outcome ask ∧
      (rule.replacement (scene.move f) content).notes asked =
        (rule.replacement scene content).notes ask := by
  have hnames := keepsNames_of_motion hm h
  refine ⟨outcome_move hm.likeness hrule h haccepts hadapter hvista hnames (fun _ => hrecovers)
    content hask, ?_⟩
  -- Only the recovery of a formula may differ, in what is not written down.
  rcases formula_or_redirect hm.likeness hrule h haccepts hvista hnames content with
    ⟨-, wrap, hwrap⟩ | hsame
  · rw [hwrap]
    exact notes_formula_move hm h hrecovers wrap content ask asked
  · exact (run_of_redirect hrule hadapter hsame hask).2

end

end Transcript
