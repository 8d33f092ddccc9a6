import Mathlib.Data.List.Basic
import Mathlib.Data.List.Find
import Mathlib.Data.List.TakeWhile
import Transcript.Markup.Flatten
import Transcript.Markup.Query
import Transcript.Proofs.Markup.Ancestry
import Transcript.Proofs.Markup.Subtree

/-!
# Likenesses

A likeness takes each node to one that reads alike: an element with the same attributes, the same
text and the same name in lower case, and with the children that the node has, taken along. Different
nodes stay different. So a search by anything that is read finds afterwards what it found before; a
search for a name as it is written does so as long as the same nodes are written so.

## Main definitions

- `Node.ReadsAs`: a node reads like another one
- `Likeness`: a map that takes the nodes with a property to nodes that read alike
- `NamedAlike`: a node bears a name before and after, or neither
- `MovesTo`: a search finds what it found, taken along

## Main results

- `Likeness.subtree`, `Likeness.descendants`: what lies below is taken along
- `Likeness.find?`, `Likeness.findAll`, `Likeness.findParent?_isSame`: searches by names
- `MovesTo.searchText?`, `MovesTo.findText?`: searches by written selectors
-/

namespace Transcript.Markup

/-! ## Nodes that read alike -/

/-- A node reads like another one, whatever its name is written like. -/
structure Node.ReadsAs (new old : Node) : Prop where
  isElement : new.isElement = old.isElement
  tagName : new.tagName = old.tagName
  attributes : new.attributes = old.attributes
  flatText : new.flatText = old.flatText
  textContent : new.textContent = old.textContent

namespace Node.ReadsAs

variable {new old : Node}

theorem refl (node : Node) : node.ReadsAs node :=
  ⟨rfl, rfl, rfl, rfl, rfl⟩

theorem attribute? (h : new.ReadsAs old) : new.attribute? = old.attribute? := by
  funext name
  rw [Node.attribute?, h.attributes, Node.attribute?]

theorem trimmedAttribute (h : new.ReadsAs old) :
    new.trimmedAttribute = old.trimmedAttribute := by
  funext name
  rw [Node.trimmedAttribute, Node.attributeText?, h.attribute?, Node.trimmedAttribute,
    Node.attributeText?]

theorem classes (h : new.ReadsAs old) : new.classes = old.classes := by
  rw [Node.classes, h.attribute?, Node.classes]

theorem hasClass (h : new.ReadsAs old) : new.hasClass = old.hasClass := by
  funext wanted
  simp only [Node.hasClass, h.classes]

end Node.ReadsAs

/-! ## Likenesses -/

/-- The nodes with the property `p` are taken by `f` to nodes that read alike. -/
structure Likeness (p : Cursor → Prop) (f : Cursor → Cursor) : Prop where
  /-- A node still reads as it did. -/
  reads {c : Cursor} : p c → (f c).node.ReadsAs c.node
  /-- Its children are taken along. -/
  children {c : Cursor} : p c → (f c).children = c.children.map f
  /-- They have the property too. -/
  child {c d : Cursor} : p c → d ∈ c.children → p d
  /-- Different nodes stay different. -/
  isSame {c d : Cursor} : p c → p d → (f c).isSame (f d) = c.isSame d

/-- A node bears this name, as it is written, before and after, or neither. -/
def NamedAlike (f : Cursor → Cursor) (name : String) (c : Cursor) : Prop :=
  (f c).node.name = name ↔ c.node.name = name

theorem NamedAlike.beq {f : Cursor → Cursor} {name : String} {c : Cursor}
    (h : NamedAlike f name c) : ((f c).node.name == name) = (c.node.name == name) := by
  rw [Bool.eq_iff_iff, beq_iff_eq, beq_iff_eq]
  exact h

/-- Two searches, from a node and from the same node taken along: the second finds what the first
does, taken along, and this is one of the nodes with the property. -/
structure MovesTo (p : Cursor → Prop) (f : Cursor → Cursor)
    (found moved : Except Fault (Option Cursor)) : Prop where
  eq : moved = found.map (Option.map f)
  inside : ∀ d, found = .ok (some d) → p d

namespace MovesTo

variable {p : Cursor → Prop} {f : Cursor → Cursor} {c : Cursor} {text : String}

/-- Where a search by the selector that is written moves along, so does the search by its text. -/
theorem searchText? {search : Selector → Cursor → Option Cursor}
    (helement : (f c).node.isElement = c.node.isElement)
    (hmoved : ∀ s, Selector.parse text = .ok s → search s (f c) = (search s c).map f)
    (hinside : ∀ s, Selector.parse text = .ok s → ∀ d, search s c = some d → p d) :
    MovesTo p f (c.searchText? text search) ((f c).searchText? text search) := by
  unfold Cursor.searchText?
  rw [helement]
  split
  · cases hparse : Selector.parse text with
    | error fault => exact ⟨rfl, fun d hd => by cases hd⟩
    | ok s =>
      refine ⟨congrArg Except.ok (hmoved s hparse), fun d hd => ?_⟩
      exact hinside s hparse d (Except.ok.inj hd)
  · exact ⟨rfl, fun d hd => by cases hd⟩

/-- A search below a node that has to be an element does as the search below any node. -/
theorem findText? (helement : (f c).node.isElement = c.node.isElement)
    (h : MovesTo p f (c.selectOneText? text) ((f c).selectOneText? text)) :
    MovesTo p f (c.findText? text) ((f c).findText? text) := by
  unfold Cursor.findText?
  rw [helement]
  split
  · exact h
  · exact ⟨rfl, fun d hd => by cases hd⟩

end MovesTo

/-! ## Searches among nodes that are taken along together -/

section

variable {f : Cursor → Cursor} {p q : Cursor → Bool} {l : List Cursor}

theorem find?_map_of_eq (h : ∀ a ∈ l, p (f a) = q a) :
    (l.map f).find? p = (l.find? q).map f := by
  rw [List.find?_map]
  exact congrArg (Option.map f) (List.find?_congr h)

theorem any_map_of_eq (h : ∀ a ∈ l, p (f a) = q a) : (l.map f).any p = l.any q := by
  rw [← List.isSome_find?, find?_map_of_eq h, Option.isSome_map, List.isSome_find?]

theorem filter_map_of_eq (h : ∀ a ∈ l, p (f a) = q a) :
    (l.map f).filter p = (l.filter q).map f := by
  rw [List.filter_map]
  exact congrArg (List.map f) (List.filter_congr h)

theorem takeWhile_congr (h : ∀ a ∈ l, p a = q a) : l.takeWhile p = l.takeWhile q := by
  induction l with
  | nil => rfl
  | cons a l ih =>
    have hrest := ih fun b hb => h b (List.mem_cons_of_mem _ hb)
    rw [List.takeWhile_cons, List.takeWhile_cons, h a List.mem_cons_self, hrest]

theorem takeWhile_map_of_eq (h : ∀ a ∈ l, p (f a) = q a) :
    (l.map f).takeWhile p = (l.takeWhile q).map f := by
  rw [List.takeWhile_map]
  exact congrArg (List.map f) (takeWhile_congr h)

end

/-- What holds of a node, and of the children of each node that it holds of, holds of the whole
subtree. -/
theorem Cursor.subtree_induction {t : Cursor} {P : Cursor → Prop} (self : P t)
    (step : ∀ x ∈ t.subtree, P x → ∀ d ∈ x.children, P d) : ∀ d ∈ t.subtree, P d := by
  induction t using Cursor.children_induction with
  | step t ih =>
    intro d hd
    rcases Cursor.mem_subtree_iff.mp hd with rfl | hbelow
    · exact self
    -- The node lies in the subtree of a child, where the induction starts again from this child.
    · rw [Cursor.descendants_eq] at hbelow
      obtain ⟨x, hx, hdx⟩ := List.mem_flatMap.mp hbelow
      refine ih x hx (step t (Cursor.self_mem_subtree t) self x hx) (fun y hy => ?_) d hdx
      exact step y (Cursor.mem_subtree_trans (Cursor.mem_subtree_of_mem_children hx) hy)

theorem Cursor.mem_ancestors_of_parent? {c d : Cursor} (h : c.parent? = some d) :
    d ∈ c.ancestors := by
  obtain ⟨tree, node, above⟩ := c
  cases above with
  | nil => cases h
  | cons step above =>
    obtain rfl := Option.some.inj h
    exact List.mem_cons_self

namespace Likeness

open Cursor

variable {p : Cursor → Prop} {f : Cursor → Cursor} {c d t : Cursor}

/-! ## Downwards -/

theorem of_mem_subtree (hl : Likeness p f) (h : p c) (hd : d ∈ c.subtree) : p d := by
  induction c using children_induction with
  | step c ih =>
    rcases mem_subtree_iff.mp hd with rfl | hbelow
    · exact h
    · rw [descendants_eq] at hbelow
      obtain ⟨x, hx, hdx⟩ := List.mem_flatMap.mp hbelow
      exact ih x hx (hl.child h hx) hdx

theorem of_mem_descendants (hl : Likeness p f) (h : p c) (hd : d ∈ c.descendants) : p d :=
  hl.of_mem_subtree h (mem_subtree_of_mem_descendants hd)

theorem mem_children (hl : Likeness p f) (h : p c) (hd : d ∈ c.children) :
    f d ∈ (f c).children := by
  rw [hl.children h]
  exact List.mem_map_of_mem hd

theorem subtree (hl : Likeness p f) (h : p c) : (f c).subtree = c.subtree.map f := by
  induction c using children_induction with
  | step c ih =>
    -- The children are taken along, and by induction each with its subtree.
    rw [subtree_eq, subtree_eq c, List.map_cons, hl.children h, List.flatMap_map,
      List.map_flatMap]
    congr 1
    exact List.flatMap_congr fun d hd => ih d hd (hl.child h hd)

theorem descendants (hl : Likeness p f) (h : p c) : (f c).descendants = c.descendants.map f := by
  rw [Cursor.descendants, hl.subtree h, Cursor.descendants, List.map_tail]

theorem mem_descendants (hl : Likeness p f) (h : p c) (hd : d ∈ c.descendants) :
    f d ∈ (f c).descendants := by
  rw [hl.descendants h]
  exact List.mem_map_of_mem hd

theorem elementChildren (hl : Likeness p f) (h : p c) :
    (f c).elementChildren = c.elementChildren.map f := by
  rw [Cursor.elementChildren, hl.children h]
  exact filter_map_of_eq fun d hd => (hl.reads (hl.child h hd)).isElement

theorem find? (hl : Likeness p f) (h : p c) {names : List String}
    (hnames : ∀ name ∈ names, ∀ d ∈ c.descendants, NamedAlike f name d) :
    (f c).find? names = (c.find? names).map f := by
  rw [Cursor.find?, hl.descendants h]
  refine find?_map_of_eq fun d hd => ?_
  have hcontains : names.contains (f d).node.name = names.contains d.node.name := by
    rw [Bool.eq_iff_iff, List.contains_iff_mem, List.contains_iff_mem]
    constructor
    · exact fun hmem => (hnames _ hmem d hd).mp rfl ▸ hmem
    · exact fun hmem => (hnames _ hmem d hd).mpr rfl ▸ hmem
  rw [(hl.reads (hl.of_mem_descendants h hd)).isElement, hcontains]

theorem findAll (hl : Likeness p f) (h : p c) {name : String}
    (hname : ∀ d ∈ c.descendants, NamedAlike f name d) :
    (f c).findAll name = (c.findAll name).map f := by
  rw [Cursor.findAll, hl.descendants h]
  refine filter_map_of_eq fun d hd => ?_
  rw [(hl.reads (hl.of_mem_descendants h hd)).isElement, (hname d hd).beq]

/-! ## Upwards, no higher than to a node that is taken along -/

theorem parent? (hl : Likeness p f) (h : p t) (hd : d ∈ t.descendants) :
    ∃ x ∈ t.subtree, d.parent? = some x ∧ (f d).parent? = some (f x) := by
  obtain ⟨x, hx, hdx⟩ := mem_descendants_iff.mp hd
  have hpx := hl.of_mem_subtree h hx
  exact ⟨x, hx, parent?_of_mem_children hdx, parent?_of_mem_children (hl.mem_children hpx hdx)⟩

/-- No node is above itself, whatever is looked for. -/
theorem findParent?_isSame_self (t : Cursor) (name : String) :
    (t.findParent? name).any t.isSame = false := by
  cases hfound : t.findParent? name with
  | none => rfl
  | some above =>
    have hlength := length_above_lt_of_mem_ancestors (List.mem_of_find?_eq_some hfound)
    rw [Option.any_some, Cursor.isSame, beq_eq_false_iff_ne]
    intro hplace
    have hequal := length_above_eq_of_place_eq hplace
    omega

/-- Whether a node is the closest one of a name above another does not change. -/
theorem findParent?_isSame (hl : Likeness p f) (h : p t) {name : String}
    (hname : ∀ d ∈ t.subtree, NamedAlike f name d) :
    ∀ d ∈ t.subtree,
      ((f d).findParent? name).any (f t).isSame = (d.findParent? name).any t.isSame := by
  refine subtree_induction ?_ fun x hx ih d hd => ?_
  · rw [findParent?_isSame_self, findParent?_isSame_self]
  -- The parent is the closest one, or the search goes on from it.
  · have hpx := hl.of_mem_subtree h hx
    rw [findParent?_of_mem_children (hl.mem_children hpx hd), findParent?_of_mem_children hd,
      (hname x hx).beq]
    split
    · exact hl.isSame h hpx
    · exact ih

end Likeness

end Transcript.Markup
