import Mathlib.Algebra.BigOperators.Group.List.Basic
import Mathlib.Data.List.Flatten
import Transcript.Markup.Flatten
import Transcript.Proofs.Markup.Subtree
import Transcript.Proofs.Text.Tally
import Transcript.Render.Block
import Transcript.Render.Table

/-!
# The content model of lists and tables

In an orderly tree the elements of lists and tables hold what they are made for: lists hold items,
tables hold sections and rows, sections hold rows, rows hold cells, and rows and sections stand
nowhere else. Blank text and comments may stand anywhere.

The rows that a table of an orderly tree owns are then its row children and the row children of its
sections, and what its text nodes spell stands in the cells of these rows.

Lists are often written with further lists, or with text, beside their items. A tree that follows
the content model but for that is loosely orderly. What stands beside items is told apart from what
is listed, and the rest is as before.

## Main definitions

- `Cursor.spelled`: what the text nodes of a subtree spell
- `Cursor.listed`, `Cursor.unlisted`: what they spell in the items of lists, and beside them
- `mayHold`: which nodes may stand directly in which
- `Orderly`, `LooselyOrderly`: a node that follows the content model, altogether or but for lists

## Main results

- `LooselyOrderly.sum_listed_items`: what a list has listed stands in its items
- `ownedRows_perm`: the rows of a table
- `sum_listed_cells`: what a table has listed stands in its cells
- `tally_listed_of_orderly`: in an orderly tree nothing that is kept stands beside items
-/

namespace Transcript

open Markup Render

/-! ## Sums over lists -/

/-- A sum over a list made of lists is the sum of their sums. -/
theorem sum_map_flatMap {α β : Type} (cs : List α) (g : α → List β) (f : β → Nat) :
    ((cs.flatMap g).map f).sum = (cs.map fun c => ((g c).map f).sum).sum := by
  rw [List.map_flatMap, List.flatMap_def, List.sum_flatten, List.map_map]
  rfl

/-- Leaving out what counts nothing changes no sum. -/
theorem sum_map_filter {α : Type} {cs : List α} {p : α → Bool} {f : α → Nat}
    (h : ∀ c ∈ cs, p c = false → f c = 0) : ((cs.filter p).map f).sum = (cs.map f).sum := by
  induction cs with
  | nil => rfl
  | cons c rest ih =>
    have hrest := ih fun d hd => h d (by simp [hd])
    cases hc : p c with
    | true => simp [hc, hrest]
    | false => simp [hc, hrest, h c (by simp) hc]

/-- What counts nothing may as well be left out. -/
theorem sum_map_ite {α : Type} (cs : List α) (p : α → Bool) (f : α → Nat) :
    (cs.map fun c => if p c then 0 else f c).sum = ((cs.filter fun c => !p c).map f).sum := by
  induction cs with
  | nil => rfl
  | cons c rest ih =>
    cases hc : p c with
    | true => simp [hc, ih]
    | false => simp [hc, ih]

/-! ## Spelled text -/

namespace Markup.Cursor

/-- What the text nodes of a subtree spell, in document order. -/
def spelled (c : Cursor) : String :=
  String.join ((c.subtree.filter fun d => d.node.isText).map fun d => d.node.textContent)

/-- Character data that shows nothing: blank text, or no text at all. -/
def isPadding (c : Cursor) : Bool :=
  !c.node.isElement && Text.isAllBlank c.node.textContent

variable {k : Char} {c : Cursor}

/-- A subtree spells what its root spells and what the subtrees of the root's children spell. -/
theorem tally_spelled (k : Char) (c : Cursor) :
    Text.tally k c.spelled =
      (if c.node.isText then Text.tally k c.node.textContent else 0) +
        (c.children.map fun d => Text.tally k d.spelled).sum := by
  simp only [spelled, Text.tally_joined, List.map_map]
  -- Both sides are sums over the text nodes of the subtree, the root in front.
  rw [← sum_map_flatMap, ← List.filter_flatMap, subtree_eq, List.filter_cons]
  cases c.node.isText with
  | true => simp
  | false => simp

theorem tally_spelled_of_leaf (h : c.node.isElement = false) :
    Text.tally k c.spelled = Text.tally k c.node.textContent := by
  rw [tally_spelled, children_of_not_isElement h]
  cases hnode : c.node with
  | leaf kind text => cases kind <;> simp [Node.isText, Node.textContent]
  | element name attributes children => simp [hnode, Node.isElement] at h
  | document children => simp [hnode, Node.isElement] at h

theorem tally_spelled_of_isElement (h : c.node.isElement = true) :
    Text.tally k c.spelled = (c.children.map fun d => Text.tally k d.spelled).sum := by
  rw [tally_spelled]
  cases hnode : c.node with
  | leaf kind text => simp [hnode, Node.isElement] at h
  | element name attributes children => simp [Node.isText]
  | document children => simp [Node.isText]

theorem name_of_isPadding (h : c.isPadding = true) : c.node.name = "" := by
  simp only [isPadding, Bool.and_eq_true, Bool.not_eq_true'] at h
  cases hnode : c.node with
  | leaf kind text => rfl
  | element name attributes children => simp [hnode, Node.isElement] at h
  | document children => simp [hnode, Node.isElement] at h

/-- Padding spells nothing that is kept. -/
theorem tally_spelled_of_isPadding (hk : Chars.isKept k = true) (h : c.isPadding = true) :
    Text.tally k c.spelled = 0 := by
  simp only [isPadding, Bool.and_eq_true, Bool.not_eq_true'] at h
  rw [tally_spelled_of_leaf h.1, Text.tally_of_isAllBlank hk h.2]

end Markup.Cursor

/-! ## Beside the items of lists -/

/-- A child of a list that is a list as well, or no element: what stands beside items. -/
def Render.isLoose (parent child : Node) : Bool :=
  isList parent && (!child.isElement || isList child)

namespace Markup.Cursor

/-- What the text nodes of a subtree spell, less what stands beside the items of lists. -/
def listed (c : Cursor) : String :=
  if c.node.isElement then
    String.join (c.children.attach.map fun d =>
      if isLoose c.node d.val.node then "" else listed d.val)
  else c.node.textContent
termination_by sizeOf c.node
decreasing_by exact sizeOf_lt_of_mem_children d.property

/-- What the text nodes of a subtree spell beside the items of lists. -/
def unlisted (c : Cursor) : String :=
  if c.node.isElement then
    String.join (c.children.attach.map fun d =>
      if isLoose c.node d.val.node then d.val.spelled else unlisted d.val)
  else ""
termination_by sizeOf c.node
decreasing_by exact sizeOf_lt_of_mem_children d.property

variable {k : Char} {c : Cursor}

theorem listed_of_leaf (h : c.node.isElement = false) : c.listed = c.node.textContent := by
  rw [listed, h, if_neg Bool.false_ne_true]

theorem listed_of_isElement (h : c.node.isElement = true) :
    c.listed =
      String.join (c.children.map fun d => if isLoose c.node d.node then "" else d.listed) := by
  rw [listed, if_pos h]
  conv_rhs => rw [← List.attach_map_subtype_val c.children, List.map_map]
  rfl

theorem unlisted_of_isElement (h : c.node.isElement = true) :
    c.unlisted = String.join
      (c.children.map fun d => if isLoose c.node d.node then d.spelled else d.unlisted) := by
  rw [unlisted, if_pos h]
  conv_rhs => rw [← List.attach_map_subtype_val c.children, List.map_map]
  rfl

/-- An element has listed what its children have listed, less what stands beside items. -/
theorem tally_listed_of_isElement (h : c.node.isElement = true) :
    Text.tally k c.listed =
      (c.children.map fun d =>
        if isLoose c.node d.node then 0 else Text.tally k d.listed).sum := by
  rw [listed_of_isElement h, Text.tally_joined, List.map_map]
  refine congrArg List.sum (List.map_congr_left fun d _ => ?_)
  rw [Function.comp_apply, apply_ite (Text.tally k), Text.tally_empty]

theorem tally_listed_of_not_isList (h : c.node.isElement = true) (hlist : isList c.node = false) :
    Text.tally k c.listed = (c.children.map fun d => Text.tally k d.listed).sum := by
  simp [tally_listed_of_isElement h, isLoose, hlist]

/-- Padding has nothing listed that is kept. -/
theorem tally_listed_of_isPadding (hk : Chars.isKept k = true) (h : c.isPadding = true) :
    Text.tally k c.listed = 0 := by
  simp only [isPadding, Bool.and_eq_true, Bool.not_eq_true'] at h
  rw [listed_of_leaf h.1, Text.tally_of_isAllBlank hk h.2]

/-- What is spelled is listed, or stands beside items. -/
theorem tally_listed_add_unlisted (k : Char) (c : Cursor) :
    Text.tally k c.listed + Text.tally k c.unlisted = Text.tally k c.spelled := by
  induction c using children_induction with
  | step c ih =>
    cases hc : c.node.isElement with
    | false =>
      rw [listed_of_leaf hc, tally_spelled_of_leaf hc, unlisted, hc, if_neg Bool.false_ne_true]
      rfl
    | true =>
      rw [listed_of_isElement hc, unlisted_of_isElement hc, tally_spelled_of_isElement hc,
        Text.tally_joined, Text.tally_joined, List.map_map, List.map_map, ← List.sum_map_add]
      refine congrArg List.sum (List.map_congr_left fun d hd => ?_)
      dsimp only [Function.comp]
      split
      · exact Nat.zero_add _
      · exact ih d hd

end Markup.Cursor

/-! ## The content model -/

namespace Render

/-- The sections of a table. -/
def isSection (node : Node) : Bool :=
  node.name == "thead" || node.name == "tbody" || node.name == "tfoot"

/-- Whether a node may stand directly in another one, padding aside. -/
def mayHold (parent child : Node) : Bool :=
  match parent.name with
  | "ul" | "ol" => child.name == "li"
  | "table" => isSection child || child.name == "tr"
  | "thead" | "tbody" | "tfoot" => child.name == "tr"
  | "tr" => child.name == "th" || child.name == "td"
  -- Rows and sections stand nowhere else.
  | _ => !isSection child && child.name != "tr"

/-- A node that follows the content model, and is neither a formula nor code of a block. -/
structure Orderly (c : Cursor) : Prop where
  lowerCase : c.node.tagName = c.node.name
  noFormula : isMathMarker c.node = false
  noCodeBlock : isCodeWrapper c.node = false
  void : ["hr", "br", "img"].contains c.node.name = true → c.node.children = []
  holds : ∀ d ∈ c.children, d.isPadding = true ∨ mayHold c.node d.node = true

instance (c : Cursor) : Decidable (Orderly c) :=
  decidable_of_iff
    (c.node.tagName = c.node.name ∧ isMathMarker c.node = false ∧ isCodeWrapper c.node = false ∧
      (["hr", "br", "img"].contains c.node.name = true → c.node.children = []) ∧
      ∀ d ∈ c.children, d.isPadding = true ∨ mayHold c.node d.node = true)
    ⟨fun h => ⟨h.1, h.2.1, h.2.2.1, h.2.2.2.1, h.2.2.2.2⟩,
      fun h => ⟨h.lowerCase, h.noFormula, h.noCodeBlock, h.void, h.holds⟩⟩

/-- A node that follows the content model but for what stands beside the items of a list. -/
structure LooselyOrderly (c : Cursor) : Prop where
  lowerCase : c.node.tagName = c.node.name
  noFormula : isMathMarker c.node = false
  noCodeBlock : isCodeWrapper c.node = false
  void : ["hr", "br", "img"].contains c.node.name = true → c.node.children = []
  holds : ∀ d ∈ c.children,
    isLoose c.node d.node = true ∨ d.isPadding = true ∨ mayHold c.node d.node = true

instance (c : Cursor) : Decidable (LooselyOrderly c) :=
  decidable_of_iff
    (c.node.tagName = c.node.name ∧ isMathMarker c.node = false ∧ isCodeWrapper c.node = false ∧
      (["hr", "br", "img"].contains c.node.name = true → c.node.children = []) ∧
      ∀ d ∈ c.children,
        isLoose c.node d.node = true ∨ d.isPadding = true ∨ mayHold c.node d.node = true)
    ⟨fun h => ⟨h.1, h.2.1, h.2.2.1, h.2.2.2.1, h.2.2.2.2⟩,
      fun h => ⟨h.lowerCase, h.noFormula, h.noCodeBlock, h.void, h.holds⟩⟩

theorem Orderly.loosely {c : Cursor} (h : Orderly c) : LooselyOrderly c :=
  ⟨h.lowerCase, h.noFormula, h.noCodeBlock, h.void, fun d hd => .inr (h.holds d hd)⟩

theorem isList_of_name {node : Node} {name : String} (h : node.name = name)
    (hname : Text.lower name ≠ "ul" ∧ Text.lower name ≠ "ol") : isList node = false := by
  simp [isList, Node.tagName, h, hname.1, hname.2]

theorem isList_of_isSection {node : Node} (h : isSection node = true) : isList node = false := by
  simp only [isSection, Bool.or_eq_true, beq_iff_eq] at h
  rcases h with (h | h) | h
  · exact isList_of_name h (by decide)
  · exact isList_of_name h (by decide)
  · exact isList_of_name h (by decide)

/-- What stands in a node and is neither padding nor a list is allowed there. -/
theorem LooselyOrderly.mayHold_of_name {c d : Cursor} (h : LooselyOrderly c) (hd : d ∈ c.children)
    (hname : d.node.name ≠ "") (hlist : isList d.node = false) :
    mayHold c.node d.node = true := by
  have helement := Cursor.isElement_of_name rfl hname
  have hplaced := (h.holds d hd).resolve_left (by simp [isLoose, helement, hlist])
  exact hplaced.resolve_left fun hpadding => hname (Cursor.name_of_isPadding hpadding)

/-- Outside of lists, what is allowed or padding stands in a node. -/
theorem LooselyOrderly.holds_of_not_isList {c d : Cursor} (h : LooselyOrderly c)
    (hd : d ∈ c.children) (hlist : isList c.node = false) :
    d.isPadding = true ∨ mayHold c.node d.node = true :=
  (h.holds d hd).resolve_left (by simp [isLoose, hlist])

theorem isElement_of_isList {c : Cursor} (h : isList c.node = true) : c.node.isElement = true := by
  simp only [isList, Bool.or_eq_true, beq_iff_eq] at h
  rcases h with htag | htag
  · exact Cursor.isElement_of_tagName htag (by decide)
  · exact Cursor.isElement_of_tagName htag (by decide)

/-- A list may hold items. -/
theorem name_of_mayHold {parent child : Node} (hlist : isList parent = true)
    (hcase : parent.tagName = parent.name) (h : mayHold parent child = true) :
    child.name = "li" := by
  simp only [isList, hcase, Bool.or_eq_true, beq_iff_eq] at hlist
  rcases hlist with hname | hname
  · simpa [mayHold, hname] using h
  · simpa [mayHold, hname] using h

theorem not_isLoose_of_name {parent : Node} {d : Cursor} (h : d.node.name = "li") :
    isLoose parent d.node = false := by
  simp [isLoose, Cursor.isElement_of_name h (by decide), isList_of_name h (by decide)]

theorem Orderly.isPadding_of_isLoose {c d : Cursor} (h : Orderly c) (hd : d ∈ c.children)
    (hloose : isLoose c.node d.node = true) : d.isPadding = true := by
  have hlist : isList c.node = true := by
    simp only [isLoose, Bool.and_eq_true] at hloose
    exact hloose.1
  -- An item would not be loose.
  refine (h.holds d hd).resolve_right fun hheld => ?_
  rw [not_isLoose_of_name (name_of_mayHold hlist h.lowerCase hheld)] at hloose
  cases hloose

/-- What stands in a list is an item, or stands beside the items. -/
theorem LooselyOrderly.isItem_eq {c d : Cursor} (h : LooselyOrderly c)
    (hlist : isList c.node = true) (hd : d ∈ c.children) (hchild : LooselyOrderly d) :
    (d.node.isElement && d.node.tagName == "li") = !isLoose c.node d.node := by
  rcases h.holds d hd with hloose | hpadding | hheld
  · rw [hloose]
    simp only [isLoose, Bool.and_eq_true, Bool.or_eq_true, Bool.not_eq_true', isList,
      beq_iff_eq] at hloose
    rcases hloose.2 with hleaf | htag | htag
    · simp [hleaf]
    · simp [htag]
    · simp [htag]
  · simp only [Cursor.isPadding, Bool.and_eq_true, Bool.not_eq_true'] at hpadding
    simp [isLoose, hlist, hpadding.1]
  · have hname := name_of_mayHold hlist h.lowerCase hheld
    simp [not_isLoose_of_name hname, Cursor.isElement_of_name hname (by decide), hchild.lowerCase,
      hname]

theorem name_ne_table {node : Node} (h : isSection node = true) : node.name ≠ "table" := by
  intro heq
  simp [isSection, heq] at h

theorem name_ne_empty {node : Node} (h : isSection node = true) : node.name ≠ "" := by
  intro heq
  simp [isSection, heq] at h

theorem holder_of_row {parent child : Node} (h : mayHold parent child = true)
    (hchild : child.name = "tr") : parent.name = "table" ∨ isSection parent = true := by
  unfold mayHold at h
  split at h <;> simp_all [isSection]

theorem row_of_section {parent child : Node} (h : mayHold parent child = true)
    (hparent : isSection parent = true) : child.name = "tr" := by
  unfold mayHold at h
  split at h <;> simp_all [isSection]

theorem holder_of_section {parent child : Node} (h : mayHold parent child = true)
    (hchild : isSection child = true) : parent.name = "table" := by
  have hnames : child.name = "thead" ∨ child.name = "tbody" ∨ child.name = "tfoot" := by
    simpa [isSection, or_assoc] using hchild
  unfold mayHold at h
  rcases hnames with heq | heq | heq <;> split at h <;> simp_all [isSection]

/-! ## The rows of a table -/

/-- The rows that a part of a table brings along: those of a section, or a row itself. -/
def partRows (part : Cursor) : List Cursor :=
  if isSection part.node then part.children.filter fun d => d.node.name == "tr"
  else if part.node.name == "tr" then [part]
  else []

theorem name_of_mem_partRows {part row : Cursor} (h : row ∈ partRows part) :
    row.node.name = "tr" := by
  unfold partRows at h
  split at h
  · simpa using (List.mem_filter.mp h).2
  · split at h
    · rename_i hname
      obtain rfl := List.mem_singleton.mp h
      simpa using hname
    · simp at h

section

variable {t row : Cursor} (ht : t.node.name = "table")
  (horderly : ∀ d ∈ t.subtree, LooselyOrderly d)
include ht horderly

/-- A row that belongs to a table stands in it directly, or in one of its sections. -/
theorem exists_part_of_mem_ownedRows (hrow : row ∈ ownedRows t) :
    ∃ part ∈ t.children, row ∈ partRows part := by
  simp only [ownedRows, Cursor.findAll, List.mem_filter, Bool.and_eq_true, beq_iff_eq] at hrow
  obtain ⟨⟨hbelow, -, hname⟩, howner⟩ := hrow
  obtain ⟨holder, hholder, hchild⟩ := Cursor.mem_descendants_iff.mp hbelow
  have hheld := (horderly holder hholder).mayHold_of_name hchild (by simp [hname])
    (isList_of_name hname (by decide))
  rw [Cursor.findParent?_of_mem_children hchild] at howner
  rcases holder_of_row hheld hname with htable | hsection
  · -- The row stands in a table directly, and this is the table it belongs to.
    have hplace : t.place = holder.place := by
      simpa [htable, Cursor.isSame] using howner
    obtain rfl := Cursor.eq_of_place_eq (Cursor.self_mem_subtree t) hholder hplace
    exact ⟨row, hchild, by simp [partRows, isSection, hname]⟩
  · -- The row stands in a section, and the section stands in the table it belongs to.
    have hne : holder.node.name ≠ "table" := name_ne_table hsection
    have hholder' : holder ∈ t.descendants := by
      rcases Cursor.mem_subtree_iff.mp hholder with rfl | hdescendant
      · exact absurd ht hne
      · exact hdescendant
    obtain ⟨owner, hmem, hpart⟩ := Cursor.mem_descendants_iff.mp hholder'
    have hheld' := (horderly owner hmem).mayHold_of_name hpart (name_ne_empty hsection)
      (isList_of_isSection hsection)
    have hplace : t.place = owner.place := by
      simpa [hne, Cursor.findParent?_of_mem_children hpart, holder_of_section hheld' hsection,
        Cursor.isSame] using howner
    obtain rfl := Cursor.eq_of_place_eq (Cursor.self_mem_subtree t) hmem hplace
    exact ⟨holder, hpart, by simp [partRows, hsection, hchild, hname]⟩

omit horderly in
/-- The rows that the parts of a table bring along belong to the table. -/
theorem mem_ownedRows_of_part {part : Cursor} (hpart : part ∈ t.children)
    (hrow : row ∈ partRows part) : row ∈ ownedRows t := by
  simp only [ownedRows, Cursor.findAll, List.mem_filter, Bool.and_eq_true, beq_iff_eq]
  have hname : row.node.name = "tr" := name_of_mem_partRows hrow
  have helement := Cursor.isElement_of_name hname (by decide)
  unfold partRows at hrow
  split at hrow
  · rename_i hsection
    have hchild : row ∈ part.children := List.mem_of_mem_filter hrow
    have hbelow := Cursor.mem_descendants_of_subtree_child hpart
      (Cursor.mem_subtree_of_mem_children hchild)
    refine ⟨⟨hbelow, helement, hname⟩, ?_⟩
    simp [Cursor.findParent?_of_mem_children hchild, name_ne_table hsection,
      Cursor.findParent?_of_mem_children hpart, ht, Cursor.isSame]
  · split at hrow
    · obtain rfl := List.mem_singleton.mp hrow
      refine ⟨⟨Cursor.mem_descendants_of_mem_children hpart, helement, hname⟩, ?_⟩
      simp [Cursor.findParent?_of_mem_children hpart, ht, Cursor.isSame]
    · simp at hrow

omit ht horderly in
/-- The rows that the parts bring along are among what lies below the table, in this order. -/
theorem partRows_sublist : (t.children.flatMap partRows).Sublist t.descendants := by
  rw [Cursor.descendants_eq]
  refine List.Sublist.flatMap_right _ fun part _ => ?_
  unfold partRows
  split
  · refine List.Sublist.trans List.filter_sublist ?_
    rw [Cursor.subtree_eq]
    refine List.Sublist.cons _ ?_
    have hchildren : part.children = part.children.flatMap fun d => [d] := by simp
    conv_lhs => rw [hchildren]
    exact List.Sublist.flatMap_right _ fun d _ => by simp [Cursor.subtree_eq d]
  · split
    · simp [Cursor.subtree_eq part]
    · simp

omit ht horderly in
/-- No two rows of a table stand at the same place. -/
theorem pairwise_place_filledRows (t : Cursor) :
    (filledRows t).Pairwise fun a b => a.place ≠ b.place := by
  have hbelow := Cursor.pairwise_place_descendants t
  rw [← Cursor.descendants_eq] at hbelow
  exact hbelow.sublist
    (List.filter_sublist.trans (List.filter_sublist.trans List.filter_sublist))

/-- The rows of a table are the rows that its parts bring along. -/
theorem ownedRows_perm : (ownedRows t).Perm (t.children.flatMap partRows) := by
  -- Both lists are taken from the nodes below the table, each of which is there once.
  have hnodup := Cursor.nodup_descendants t
  have hrows : (ownedRows t).Sublist t.descendants :=
    List.filter_sublist.trans List.filter_sublist
  rw [List.perm_ext_iff_of_nodup (hnodup.sublist hrows) (hnodup.sublist partRows_sublist)]
  intro row
  rw [List.mem_flatMap]
  constructor
  · exact exists_part_of_mem_ownedRows ht horderly
  · rintro ⟨part, hpart, hrow⟩
    exact mem_ownedRows_of_part ht hpart hrow

end

/-! ## Where the text stands -/

section

variable {k : Char} (hk : Chars.isKept k = true)
include hk

/-- Where only padding is left out, the children that remain have everything listed. -/
theorem sum_listed_filter {c : Cursor} (hc : c.node.isElement = true)
    (hlist : isList c.node = false) {p : Cursor → Bool}
    (h : ∀ d ∈ c.children, p d = false → d.isPadding = true) :
    ((c.children.filter p).map fun d => Text.tally k d.listed).sum = Text.tally k c.listed := by
  rw [Cursor.tally_listed_of_not_isList hc hlist]
  refine sum_map_filter fun d hd hout => ?_
  exact Cursor.tally_listed_of_isPadding hk (h d hd hout)

omit hk in
/-- What a list has listed stands in its items. -/
theorem LooselyOrderly.sum_listed_items {c : Cursor} (h : LooselyOrderly c)
    (hchildren : ∀ d ∈ c.children, LooselyOrderly d) (hlist : isList c.node = true) :
    ((c.children.filter fun d => d.node.isElement && d.node.tagName == "li").map
      fun item => Text.tally k item.listed).sum = Text.tally k c.listed := by
  have hitems : (c.children.filter fun d => d.node.isElement && d.node.tagName == "li") =
      c.children.filter fun d => !isLoose c.node d.node :=
    List.filter_congr fun d hd => h.isItem_eq hlist hd (hchildren d hd)
  rw [Cursor.tally_listed_of_isElement (isElement_of_isList hlist), sum_map_ite, hitems]

/-- What a row has listed stands in its cells. -/
theorem LooselyOrderly.sum_listed_rowCells {row : Cursor} (h : LooselyOrderly row)
    (hname : row.node.name = "tr") :
    ((rowCells row).map fun cell => Text.tally k cell.listed).sum = Text.tally k row.listed := by
  have hc := Cursor.isElement_of_name hname (by decide)
  have hlist := isList_of_name hname (by decide)
  rw [rowCells, Cursor.elementChildren, List.filter_filter]
  refine sum_listed_filter hk hc hlist fun d hd hout =>
    (h.holds_of_not_isList hd hlist).resolve_right fun hheld => ?_
  have hcell : d.node.name = "th" ∨ d.node.name = "td" := by
    simpa [mayHold, hname] using hheld
  have helement : d.node.isElement = true := by
    rcases hcell with hcell | hcell
    · exact Cursor.isElement_of_name hcell (by decide)
    · exact Cursor.isElement_of_name hcell (by decide)
  rcases hcell with hcell | hcell
  · simp [helement, hcell] at hout
  · simp [helement, hcell] at hout

/-- What a part of a table has listed stands in the rows that it brings along. -/
theorem LooselyOrderly.sum_listed_partRows {t part : Cursor} (h : LooselyOrderly t)
    (hpart : LooselyOrderly part) (ht : t.node.name = "table") (hmem : part ∈ t.children) :
    ((partRows part).map fun row => Text.tally k row.listed).sum = Text.tally k part.listed := by
  unfold partRows
  split
  -- A section has listed what its rows have listed.
  · rename_i hsection
    have hc : part.node.isElement = true :=
      Cursor.isElement_of_name rfl (name_ne_empty hsection)
    have hlist := isList_of_isSection hsection
    refine sum_listed_filter hk hc hlist fun d hd hout =>
      (hpart.holds_of_not_isList hd hlist).resolve_right fun hheld => ?_
    simp [row_of_section hheld hsection] at hout
  -- A row stands for itself; anything else is padding.
  · rename_i hsection
    split
    · simp
    · rename_i hrow
      have hpadding : part.isPadding = true :=
        (h.holds_of_not_isList hmem (isList_of_name ht (by decide))).resolve_right fun hheld => by
          simp_all [mayHold]
      simp [Cursor.tally_listed_of_isPadding hk hpadding]

/-- What a table has listed stands in the cells of its rows. -/
theorem sum_listed_cells {t : Cursor} (ht : t.node.name = "table")
    (horderly : ∀ d ∈ t.subtree, LooselyOrderly d) :
    ((filledRows t).map fun row =>
      ((rowCells row).map fun cell => Text.tally k cell.listed).sum).sum =
        Text.tally k t.listed := by
  have hrow : ∀ row ∈ ownedRows t,
      ((rowCells row).map fun cell => Text.tally k cell.listed).sum =
        Text.tally k row.listed := by
    intro row hmem
    obtain ⟨part, hpart, hmem'⟩ := exists_part_of_mem_ownedRows ht horderly hmem
    have hbelow : row ∈ t.descendants := List.mem_of_mem_filter (List.mem_of_mem_filter hmem)
    have hsub := Cursor.mem_subtree_of_mem_descendants hbelow
    exact (horderly row hsub).sum_listed_rowCells hk (name_of_mem_partRows hmem')
  -- Rows without cells are left out, and show nothing.
  have hfilled : ((filledRows t).map fun row =>
        ((rowCells row).map fun cell => Text.tally k cell.listed).sum).sum =
      ((ownedRows t).map fun row =>
        ((rowCells row).map fun cell => Text.tally k cell.listed).sum).sum := by
    refine sum_map_filter fun row _ hempty => ?_
    have hnone : rowCells row = [] := by simpa using hempty
    simp [hnone]
  rw [hfilled]
  calc _ = ((ownedRows t).map fun row => Text.tally k row.listed).sum := by
        rw [List.map_congr_left hrow]
    _ = ((t.children.flatMap partRows).map fun row => Text.tally k row.listed).sum :=
        ((ownedRows_perm ht horderly).map _).sum_eq
    _ = (t.children.map fun part => Text.tally k part.listed).sum := by
        rw [sum_map_flatMap]
        congr 1
        refine List.map_congr_left fun part hpart => ?_
        exact (horderly t (Cursor.self_mem_subtree t)).sum_listed_partRows hk
          (horderly part (Cursor.mem_subtree_of_mem_children hpart)) ht hpart
    _ = Text.tally k t.listed :=
        (Cursor.tally_listed_of_not_isList (Cursor.isElement_of_name ht (by decide))
          (isList_of_name ht (by decide))).symm

/-- In an orderly tree only padding stands beside items. -/
theorem tally_listed_of_orderly {c : Cursor} (horderly : ∀ d ∈ c.subtree, Orderly d) :
    Text.tally k c.listed = Text.tally k c.spelled := by
  induction c using Cursor.children_induction with
  | step c ih =>
    cases hc : c.node.isElement with
    | false => rw [Cursor.listed_of_leaf hc, Cursor.tally_spelled_of_leaf hc]
    | true =>
      rw [Cursor.tally_listed_of_isElement hc, Cursor.tally_spelled_of_isElement hc]
      refine congrArg List.sum (List.map_congr_left fun d hd => ?_)
      have hsub := Cursor.mem_subtree_of_mem_children hd
      split
      · rename_i hloose
        have hpadding := (horderly c (Cursor.self_mem_subtree c)).isPadding_of_isLoose hd hloose
        exact (Cursor.tally_spelled_of_isPadding hk hpadding).symm
      · exact ih d hd fun e he => horderly e (Cursor.mem_subtree_trans hsub he)

end

end Render

end Transcript
