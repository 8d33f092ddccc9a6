import Transcript.Proofs.Markup.Motion

/-!
# Moving a child of a document

A node may stand among other siblings, at another index, in another document. Everything below it is
then the same, and everything above it too, up to the document; only the last step of the way up is
another one. Whatever looks from a node upwards or downwards commutes with the move.

## Main definitions

- `Slot`: a place among the children of a document
- `Cursor.Under`: the node stands in the slot, or below
- `Cursor.Within`: the same, or the node is the document itself
- `Cursor.relocate`: the node in another slot

## Main results

- `Cursor.motion_relocate`: what lies below moves along, and different nodes stay different
- `Cursor.ancestors_relocate`, `Cursor.findAncestor?_relocate`: what stands above
-/

namespace Transcript.Markup

/-- A place among the children of a document. -/
structure Slot where
  /-- The children of the document. -/
  siblings : List Node
  /-- The index among them. -/
  index : Nat

namespace Slot

/-- The document. -/
def document (s : Slot) : Node :=
  .document s.siblings

/-- The step from the slot up to the document. -/
def step (s : Slot) : Step :=
  ⟨s.document, s.index⟩

end Slot

namespace Cursor

variable {old new : Slot} {c d : Cursor}

/-- The node stands in the slot, or below. -/
def Under (old : Slot) (c : Cursor) : Prop :=
  ∃ steps, c.above = steps ++ [old.step]

/-- The node stands in the slot or below, or is the document. -/
def Within (old : Slot) (c : Cursor) : Prop :=
  c.Under old ∨ c = root c.tree old.document

/-- The node in another slot; the document becomes the other document. -/
def relocate (new : Slot) (c : Cursor) : Cursor :=
  if c.above.isEmpty then root c.tree new.document
  else ⟨c.tree, c.node, c.above.dropLast ++ [new.step]⟩

theorem relocate_concat (tree : Nat) (node : Node) (steps : List Step) :
    (⟨tree, node, steps ++ [old.step]⟩ : Cursor).relocate new =
      ⟨tree, node, steps ++ [new.step]⟩ := by
  simp [relocate]

/-! ## The node itself -/

theorem node_relocate (h : c.Under old) : (c.relocate new).node = c.node := by
  obtain ⟨steps, habove⟩ := h
  simp [relocate, habove]

theorem length_above_relocate (h : c.Under old) :
    (c.relocate new).above.length = c.above.length := by
  obtain ⟨steps, habove⟩ := h
  simp [relocate, habove]

/-- The move keeps the name and the attributes even of the document. -/
theorem head_relocate (new : Slot) (h : c.Within old) :
    (c.relocate new).node.name = c.node.name ∧
      (c.relocate new).node.attributes = c.node.attributes ∧
      (c.relocate new).node.isElement = c.node.isElement ∧
      (c.relocate new).node.isDocument = c.node.isDocument := by
  rcases h with hunder | hroot
  · rw [node_relocate hunder]
    exact ⟨rfl, rfl, rfl, rfl⟩
  · rw [hroot]
    exact ⟨rfl, rfl, rfl, rfl⟩

theorem under_of_within (h : c.Within old) (hname : c.node.name ≠ documentName) :
    c.Under old := by
  rcases h with hunder | hroot
  · exact hunder
  · rw [hroot] at hname
    exact absurd rfl hname

/-- Different nodes in or below a slot stay different. -/
theorem isSame_relocate (hc : c.Under old) (hd : d.Under old) :
    (c.relocate new).isSame (d.relocate new) = c.isSame d := by
  obtain ⟨tree, node, above⟩ := c
  obtain ⟨other, content, way⟩ := d
  obtain ⟨steps, rfl⟩ := hc
  obtain ⟨ways, rfl⟩ := hd
  -- The last index is the same for both, before the move and after it.
  rw [relocate_concat, relocate_concat, Bool.eq_iff_iff]
  simp [isSame, place]

/-! ## Downwards -/

theorem childrenFrom_relocate (tree : Nat) (node : Node) (steps : List Step) (index : Nat)
    (nodes : List Node) :
    childrenFrom tree node (steps ++ [new.step]) index nodes =
      (childrenFrom tree node (steps ++ [old.step]) index nodes).map (relocate new) := by
  induction nodes generalizing index with
  | nil => rfl
  | cons child rest ih =>
    have hchild : (⟨tree, child, ⟨node, index⟩ :: (steps ++ [old.step])⟩ : Cursor).relocate new =
        ⟨tree, child, ⟨node, index⟩ :: (steps ++ [new.step])⟩ :=
      relocate_concat tree child (⟨node, index⟩ :: steps)
    rw [childrenFrom, childrenFrom, List.map_cons, ih, hchild]

theorem children_relocate (h : c.Under old) :
    (c.relocate new).children = c.children.map (relocate new) := by
  obtain ⟨tree, node, above⟩ := c
  obtain ⟨steps, rfl⟩ := h
  rw [relocate_concat]
  exact childrenFrom_relocate tree node steps 0 node.children

theorem under_of_mem_children (h : c.Under old) (hd : d ∈ c.children) : d.Under old := by
  obtain ⟨steps, habove⟩ := h
  obtain ⟨i, node, -, rfl⟩ := mem_children_iff.mp hd
  exact ⟨⟨c.node, i⟩ :: steps, by simp [habove]⟩

/-- Everything in or below a slot moves to another slot. -/
theorem motion_relocate (old new : Slot) : Motion (Under old) (relocate new) where
  node h := node_relocate h
  children h := children_relocate h
  child h hd := under_of_mem_children h hd
  isSame hc hd := isSame_relocate hc hd

theorem under_of_mem_descendants (h : c.Under old) (hd : d ∈ c.descendants) : d.Under old :=
  (motion_relocate old old).of_mem_descendants h hd

/-! ## Upwards -/

theorem ancestorsOf_relocate (tree : Nat) (steps : List Step) :
    ancestorsOf tree (steps ++ [new.step]) =
      (ancestorsOf tree (steps ++ [old.step])).map (relocate new) := by
  induction steps with
  | nil => rfl
  | cons step steps ih =>
    rw [List.cons_append, List.cons_append, ancestorsOf, ancestorsOf, List.map_cons, ih,
      relocate_concat]

theorem ancestors_relocate (h : c.Under old) :
    (c.relocate new).ancestors = c.ancestors.map (relocate new) := by
  obtain ⟨tree, node, above⟩ := c
  obtain ⟨steps, rfl⟩ := h
  rw [relocate_concat]
  exact ancestorsOf_relocate tree steps

theorem within_of_mem_ancestors (h : c.Under old) (hd : d ∈ c.ancestors) : d.Within old := by
  obtain ⟨tree, node, above⟩ := c
  obtain ⟨steps, rfl⟩ := h
  -- On the way up, the document comes last.
  have hmem : d ∈ ancestorsOf tree (steps ++ [old.step]) := hd
  clear hd
  induction steps with
  | nil =>
    have hroot : d = root tree old.document := List.mem_singleton.mp hmem
    rw [hroot]
    exact .inr rfl
  | cons step steps ih =>
    rw [List.cons_append, ancestorsOf] at hmem
    rcases List.mem_cons.mp hmem with rfl | hmem
    · exact .inl ⟨steps, rfl⟩
    · exact ih hmem

theorem parent?_relocate (h : c.Under old) :
    (c.relocate new).parent? = c.parent?.map (relocate new) := by
  obtain ⟨tree, node, above⟩ := c
  obtain ⟨steps, rfl⟩ := h
  rw [relocate_concat]
  cases steps with
  | nil => rfl
  | cons step steps =>
    show some ⟨tree, step.parent, steps ++ [new.step]⟩ =
      some ((⟨tree, step.parent, steps ++ [old.step]⟩ : Cursor).relocate new)
    rw [relocate_concat]

theorem within_of_parent? (h : c.Under old) (hd : c.parent? = some d) : d.Within old :=
  within_of_mem_ancestors h (mem_ancestors_of_parent? hd)

/-- The document is the only node above that a move changes, and it is none of the elements above. -/
theorem elementAncestors_relocate (h : c.Under old) :
    (c.relocate new).elementAncestors = c.elementAncestors.map (relocate new) := by
  rw [elementAncestors, ancestors_relocate h]
  refine takeWhile_map_of_eq fun a ha => ?_
  rw [(head_relocate new (within_of_mem_ancestors h ha)).1]

theorem under_of_mem_elementAncestors (h : c.Under old) (hd : d ∈ c.elementAncestors) :
    d.Under old := by
  have hmem : d ∈ c.ancestors := (List.takeWhile_sublist _).subset hd
  refine under_of_within (within_of_mem_ancestors h hmem) ?_
  simpa using List.mem_takeWhile_imp hd

theorem findAncestor?_relocate (h : c.Under old) {p : Cursor → Bool}
    (hp : ∀ a : Cursor, a.Under old → p (a.relocate new) = p a) :
    (c.relocate new).findAncestor? p = (c.findAncestor? p).map (relocate new) := by
  rw [findAncestor?, elementAncestors_relocate h]
  exact find?_map_of_eq fun a ha => hp a (under_of_mem_elementAncestors h ha)

end Cursor

end Transcript.Markup
