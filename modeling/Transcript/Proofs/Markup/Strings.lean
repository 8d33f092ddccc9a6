import Mathlib.Data.List.Flatten
import Transcript.Markup.Flatten
import Transcript.Proofs.Markup.Subtree

/-!
# The strings of a tree

The strings of an element are those of its children, one after another. So elements that do not
stand in each other have disjoint shares of the strings of whatever they all stand in, and these
shares come in document order.

## Main results

- `Cursor.strings_of_isElement`: strings of an element and of its children
- `Cursor.strings_findAll_sublist`: strings of elements apart from each other
- `Node.toList_flatText`: the flattened text, character by character
-/

namespace Transcript.Markup

namespace Node

theorem stringsAll_eq (keep : LeafKind → Bool) (nodes : List Node) :
    stringsAll keep nodes = nodes.flatMap (strings keep) := by
  induction nodes with
  | nil => rfl
  | cons node rest ih => rw [stringsAll, ih, List.flatMap_cons]

theorem toList_flatText (node : Node) :
    node.flatText.toList = (node.strings (countsAsText node.name)).flatMap String.toList := by
  rw [flatText, String.toList_join, List.flatMap_def]

/-- Elements that do not keep their text apart all count the same character data as text. -/
theorem countsAsText_congr {name other : String} (hname : name ∉ reservedOwners)
    (hother : other ∉ reservedOwners) : countsAsText name = countsAsText other := by
  funext kind
  simp [countsAsText, hname, hother]

end Node

namespace Cursor

variable {c : Cursor} {keep : LeafKind → Bool} {p : Cursor → Bool}

theorem flatMap_childrenFrom {α : Type} (f : Node → List α) (tree : Nat) (parent : Node)
    (above : List Step) (index : Nat) (nodes : List Node) :
    ((childrenFrom tree parent above index nodes).flatMap fun d => f d.node) =
      nodes.flatMap f := by
  induction nodes generalizing index with
  | nil => rfl
  | cons node rest ih => rw [childrenFrom, List.flatMap_cons, ih, List.flatMap_cons]

/-- The strings of an element are those of its children, one after another. -/
theorem strings_of_isElement (h : c.node.isElement = true) :
    c.node.strings keep = c.children.flatMap fun d => d.node.strings keep := by
  rw [children, flatMap_childrenFrom]
  cases hnode : c.node with
  | leaf kind text => simp [hnode, Node.isElement] at h
  | element name attributes children => rw [Node.strings, Node.stringsAll_eq, Node.children]
  | document children => rw [Node.strings, Node.stringsAll_eq, Node.children]

/-- What is known of the subtrees of the children holds of everything below a node. -/
theorem strings_descendants_sublist
    (h : ∀ d ∈ c.children, ((d.subtree.filter p).flatMap fun e => e.node.strings keep).Sublist
      (d.node.strings keep)) :
    ((c.descendants.filter p).flatMap fun e => e.node.strings keep).Sublist
      (c.node.strings keep) := by
  cases helement : c.node.isElement with
  | false =>
    rw [descendants_eq, children_of_not_isElement helement]
    exact List.nil_sublist _
  | true =>
    rw [strings_of_isElement helement, descendants_eq, List.filter_flatMap, List.flatMap_assoc]
    exact List.Sublist.flatMap_right _ h

/-- The strings of elements that do not stand in each other are strings of the subtree in which they
stand, in the same order. -/
theorem strings_subtree_sublist
    (h : ∀ d ∈ c.subtree, p d = true → ∀ e ∈ d.descendants, p e = false) :
    ((c.subtree.filter p).flatMap fun d => d.node.strings keep).Sublist (c.node.strings keep) := by
  induction c using children_induction with
  | step c ih =>
    have hbelow : ((c.descendants.filter p).flatMap fun d => d.node.strings keep).Sublist
        (c.node.strings keep) := by
      apply strings_descendants_sublist
      intro d hd
      apply ih d hd
      intro e he
      exact h e (mem_subtree_trans (mem_subtree_of_mem_children hd) he)
    rw [subtree_eq, ← descendants_eq, List.filter_cons]
    cases hc : p c with
    | false => exact hbelow
    -- Nothing that counts stands below an element that counts.
    | true =>
      have hnone : c.descendants.filter p = [] := by
        simpa [List.filter_eq_nil_iff] using h c (self_mem_subtree c) hc
      simp [hnone]

theorem mem_findAll_iff {d : Cursor} {name : String} :
    d ∈ c.findAll name ↔ d ∈ c.descendants ∧ d.node.isElement = true ∧ d.node.name = name := by
  simp [findAll]

/-- The first of all elements of a name below a node. -/
theorem head?_findAll (c : Cursor) (name : String) : (c.findAll name).head? = c.find? [name] := by
  rw [findAll, find?, List.head?_filter]
  congr 1
  funext d
  rw [List.contains_cons, List.contains_nil, Bool.or_false]

/-- If no two elements of a name stand in each other, their strings are strings of the node above
them, in the same order. -/
theorem strings_findAll_sublist {name : String}
    (h : ∀ d ∈ c.findAll name, ∀ e ∈ c.findAll name, e ∉ d.descendants) :
    ((c.findAll name).flatMap fun d => d.node.strings keep).Sublist (c.node.strings keep) := by
  apply strings_descendants_sublist
  intro x hx
  apply strings_subtree_sublist
  intro d hd hcounts e he
  rw [← Bool.not_eq_true]
  intro hecounts
  have hbelow : d ∈ c.descendants := mem_descendants_of_subtree_child hx hd
  have hebelow : e ∈ c.descendants :=
    mem_descendants_of_subtree_child hx (mem_subtree_trans hd (mem_subtree_of_mem_descendants he))
  exact h d (List.mem_filter.mpr ⟨hbelow, hcounts⟩) e (List.mem_filter.mpr ⟨hebelow, hecounts⟩) he

end Cursor

end Transcript.Markup
