import Mathlib.Data.List.Nodup
import Transcript.Markup.Attributes
import Transcript.Markup.Cursor

/-!
# Subtrees and places

A node is reached from its children, and a subtree consists of its root and of the subtrees of the
root's children. Within one subtree a place belongs to one node only, so what is filed under places
is filed under nodes.

## Main results

- `Cursor.children_induction`, `Cursor.descendants_induction`: what passes from the children of a
  node, or from everything below it, to the node holds of all nodes
- `Cursor.subtree_eq`: a subtree is its root followed by the subtrees of the children
- `Cursor.pairwise_place_subtree`: the nodes of a subtree have different places
- `Cursor.mem_descendants_iff`: what lies below a node is a child of something in its subtree
- `Cursor.mem_descendants_of_mem_ancestors`: what stands above a node has the node below it
-/

namespace Transcript.Markup.Cursor

/-! ## Children -/

/-- Siblings are numbered one after another. -/
theorem mem_childrenFrom {tree : Nat} {parent : Node} {above : List Step} {index : Nat}
    {nodes : List Node} {d : Cursor} :
    d ∈ childrenFrom tree parent above index nodes ↔
      ∃ i node, nodes[i]? = some node ∧ d = ⟨tree, node, ⟨parent, index + i⟩ :: above⟩ := by
  induction nodes generalizing index with
  | nil => simp [childrenFrom]
  | cons head rest ih =>
    simp only [childrenFrom, List.mem_cons, ih]
    constructor
    · rintro (rfl | ⟨i, node, hi, rfl⟩)
      · exact ⟨0, head, by simp, by simp⟩
      · exact ⟨i + 1, node, by simpa using hi, by rw [Nat.add_assoc, Nat.add_comm 1]⟩
    · rintro ⟨i, node, hi, rfl⟩
      cases i with
      | zero => left; simp_all
      | succ i => right; exact ⟨i, node, by simpa using hi, by rw [Nat.add_assoc, Nat.add_comm 1]⟩

/-- A child is one of the parent's nodes, with the parent as the first step up. -/
theorem mem_children_iff {c d : Cursor} :
    d ∈ c.children ↔
      ∃ i node, c.node.children[i]? = some node ∧ d = ⟨c.tree, node, ⟨c.node, i⟩ :: c.above⟩ := by
  simp [children, mem_childrenFrom]

theorem node_mem_of_mem_children {c d : Cursor} (h : d ∈ c.children) :
    d.node ∈ c.node.children := by
  obtain ⟨i, node, hi, rfl⟩ := mem_children_iff.mp h
  exact List.mem_of_getElem? hi

theorem length_above_of_mem_children {c d : Cursor} (h : d ∈ c.children) :
    d.above.length = c.above.length + 1 := by
  obtain ⟨i, node, -, rfl⟩ := mem_children_iff.mp h
  rfl

theorem parent?_of_mem_children {c d : Cursor} (h : d ∈ c.children) : d.parent? = some c := by
  obtain ⟨i, node, -, rfl⟩ := mem_children_iff.mp h
  rfl

/-- What stands above a child is its parent and what stands above the parent. -/
theorem ancestors_of_mem_children {c d : Cursor} (h : d ∈ c.children) :
    d.ancestors = c :: c.ancestors := by
  obtain ⟨i, node, -, rfl⟩ := mem_children_iff.mp h
  rfl

/-- Seen from a child, the closest node of a name above is the parent or one above the parent. -/
theorem findParent?_of_mem_children {c d : Cursor} (h : d ∈ c.children) (name : String) :
    d.findParent? name = if c.node.name == name then some c else c.findParent? name := by
  rw [findParent?, ancestors_of_mem_children h, List.find?_cons]
  cases c.node.name == name <;> rfl

theorem isElement_of_mem_children {c d : Cursor} (h : d ∈ c.children) :
    c.node.isElement = true := by
  have hmem := node_mem_of_mem_children h
  cases hc : c.node with
  | leaf kind text => simp [hc, Node.children] at hmem
  | element name attributes children => rfl
  | document children => rfl

theorem isElement_of_name {c : Cursor} {name : String} (h : c.node.name = name)
    (hne : name ≠ "") : c.node.isElement = true := by
  cases hnode : c.node with
  | leaf kind text => exact absurd (by simpa [hnode, Node.name] using h.symm) hne
  | element name attributes children => rfl
  | document children => rfl

theorem isElement_of_tagName {c : Cursor} {name : String} (h : c.node.tagName = name)
    (hne : name ≠ "") : c.node.isElement = true := by
  refine isElement_of_name rfl fun hempty => hne ?_
  rw [← h, Node.tagName, hempty]
  rfl

theorem isElement_of_hasClass {c : Cursor} {wanted : List String}
    (h : c.node.hasClass wanted = true) : c.node.isElement = true := by
  cases hnode : c.node with
  | leaf kind text => simp [hnode, Node.hasClass, Node.classes, Node.attribute?, Node.attributes] at h
  | element name attributes children => rfl
  | document children => rfl

theorem children_of_not_isElement {c : Cursor} (h : c.node.isElement = false) :
    c.children = [] := by
  rw [List.eq_nil_iff_forall_not_mem]
  intro d hd
  simp [isElement_of_mem_children hd] at h

theorem children_eq_nil_of_node {c : Cursor} (h : c.node.children = []) : c.children = [] := by
  simp [children, h, childrenFrom]

/-- A child is smaller than its parent. -/
theorem sizeOf_lt_of_mem_children {c d : Cursor} (h : d ∈ c.children) :
    sizeOf d.node < sizeOf c.node := by
  have hmem := node_mem_of_mem_children h
  cases hc : c.node with
  | leaf kind text => simp [hc, Node.children] at hmem
  | element name attributes children =>
    have hlt : sizeOf d.node < sizeOf children :=
      List.sizeOf_lt_of_mem (by simpa [hc, Node.children] using hmem)
    simp only [Node.element.sizeOf_spec]
    omega
  | document children =>
    have hlt : sizeOf d.node < sizeOf children :=
      List.sizeOf_lt_of_mem (by simpa [hc, Node.children] using hmem)
    simp only [Node.document.sizeOf_spec]
    omega

/-- Induction from the children of a node to the node. -/
theorem children_induction {P : Cursor → Prop} (step : ∀ c : Cursor, (∀ d ∈ c.children, P d) → P c)
    (c : Cursor) : P c :=
  step c fun d _hd => children_induction step d
termination_by sizeOf c.node
decreasing_by exact sizeOf_lt_of_mem_children _hd

/-! ## Subtrees -/

theorem walkAll_eq (tree : Nat) (parent : Node) (above : List Step) (index : Nat)
    (nodes : List Node) :
    walkAll tree parent above index nodes =
      (childrenFrom tree parent above index nodes).flatMap subtree := by
  induction nodes generalizing index with
  | nil => simp [walkAll, childrenFrom]
  | cons node rest ih => simp [walkAll, childrenFrom, ih, subtree]

/-- A subtree is its root followed by the subtrees of the root's children. -/
theorem subtree_eq (c : Cursor) : c.subtree = c :: c.children.flatMap subtree := by
  obtain ⟨tree, node, above⟩ := c
  cases node with
  | leaf kind text => simp [subtree, walk, children, childrenFrom, Node.children]
  | element name attributes children =>
    simp [subtree, walk, walkAll_eq, Cursor.children, Node.children]
  | document children => simp [subtree, walk, walkAll_eq, Cursor.children, Node.children]

theorem descendants_eq (c : Cursor) : c.descendants = c.children.flatMap subtree := by
  simp [descendants, subtree_eq c]

theorem self_mem_subtree (c : Cursor) : c ∈ c.subtree := by
  simp [subtree_eq c]

theorem mem_subtree_iff {c d : Cursor} : d ∈ c.subtree ↔ d = c ∨ d ∈ c.descendants := by
  rw [subtree_eq, descendants_eq, List.mem_cons]

theorem mem_subtree_of_mem_descendants {c d : Cursor} (h : d ∈ c.descendants) : d ∈ c.subtree :=
  mem_subtree_iff.mpr (.inr h)

theorem mem_descendants_of_mem_children {c d : Cursor} (h : d ∈ c.children) :
    d ∈ c.descendants := by
  rw [descendants_eq]
  exact List.mem_flatMap.mpr ⟨d, h, self_mem_subtree d⟩

theorem mem_subtree_of_mem_children {c d : Cursor} (h : d ∈ c.children) : d ∈ c.subtree :=
  mem_subtree_of_mem_descendants (mem_descendants_of_mem_children h)

/-- What lies in the subtree of a child lies below the parent. -/
theorem mem_descendants_of_subtree_child {c d e : Cursor} (hd : d ∈ c.children)
    (he : e ∈ d.subtree) : e ∈ c.descendants := by
  rw [descendants_eq]
  exact List.mem_flatMap.mpr ⟨d, hd, he⟩

/-- Subtrees of a subtree's nodes lie inside it. -/
theorem mem_subtree_trans {c d e : Cursor} (hd : d ∈ c.subtree) (he : e ∈ d.subtree) :
    e ∈ c.subtree := by
  -- Induction on the upper node: the middle one is it, or lies below one of its children.
  induction c using children_induction with
  | step c ih =>
    rcases mem_subtree_iff.mp hd with rfl | hbelow
    · exact he
    · rw [descendants_eq] at hbelow
      obtain ⟨x, hx, hdx⟩ := List.mem_flatMap.mp hbelow
      have hex : e ∈ x.subtree := ih x hx hdx
      exact mem_subtree_of_mem_descendants (mem_descendants_of_subtree_child hx hex)

theorem mem_subtree_of_child {c d e : Cursor} (hd : d ∈ c.subtree) (he : e ∈ d.children) :
    e ∈ c.subtree :=
  mem_subtree_trans hd (mem_subtree_of_mem_children he)

/-- What lies below a node is a child of something in its subtree. -/
theorem mem_descendants_iff {c e : Cursor} :
    e ∈ c.descendants ↔ ∃ p ∈ c.subtree, e ∈ p.children := by
  constructor
  · intro h
    induction c using children_induction with
    | step c ih =>
      rw [descendants_eq] at h
      obtain ⟨x, hx, hex⟩ := List.mem_flatMap.mp h
      rcases mem_subtree_iff.mp hex with rfl | hbelow
      · exact ⟨c, self_mem_subtree c, hx⟩
      · obtain ⟨p, hp, hep⟩ := ih x hx hbelow
        exact ⟨p, mem_subtree_trans (mem_subtree_of_mem_children hx) hp, hep⟩
  · rintro ⟨p, hp, hep⟩
    rcases mem_subtree_iff.mp hp with rfl | hbelow
    · exact mem_descendants_of_mem_children hep
    · rw [descendants_eq] at hbelow
      obtain ⟨x, hx, hpx⟩ := List.mem_flatMap.mp hbelow
      exact mem_descendants_of_subtree_child hx (mem_subtree_of_child hpx hep)

/-- What stands above a node below another one: first nodes below that one, then it, and then what
stands above it. -/
theorem exists_ancestors_eq_of_mem_descendants {c d : Cursor} (h : d ∈ c.descendants) :
    ∃ between, d.ancestors = between ++ c :: c.ancestors ∧ ∀ a ∈ between, a ∈ c.descendants := by
  induction c using children_induction with
  | step c ih =>
    rw [descendants_eq] at h
    obtain ⟨x, hx, hdx⟩ := List.mem_flatMap.mp h
    rcases mem_subtree_iff.mp hdx with rfl | hbelow
    · exact ⟨[], ancestors_of_mem_children hx, nofun⟩
    · obtain ⟨between, hchain, hbetween⟩ := ih x hx hbelow
      refine ⟨between ++ [x], by simp [hchain, ancestors_of_mem_children hx], fun a ha => ?_⟩
      rcases List.mem_append.mp ha with ha | ha
      · exact mem_descendants_of_subtree_child hx (mem_subtree_of_mem_descendants (hbetween a ha))
      · rw [List.mem_singleton.mp ha]
        exact mem_descendants_of_mem_children hx

/-- A node below another one is below everything that stands above it, up to the upper one. -/
theorem mem_ancestors_or_mem_descendants {r c d : Cursor} (hc : c ∈ r.descendants)
    (hd : d ∈ c.ancestors) : d ∈ r.ancestors ∨ c ∈ d.descendants := by
  induction r using children_induction with
  | step r ih =>
    obtain ⟨x, hx, hcx⟩ := List.mem_flatMap.mp (descendants_eq r ▸ hc)
    have habove : d ∈ x.ancestors ∨ c ∈ d.descendants := by
      rcases mem_subtree_iff.mp hcx with rfl | hcx
      · exact .inl hd
      · exact ih x hx hcx
    rcases habove with habove | hbelow
    · rw [ancestors_of_mem_children hx] at habove
      rcases List.mem_cons.mp habove with rfl | habove
      · exact .inr hc
      · exact .inl habove
    · exact .inr hbelow

/-- In a tree, a node is below everything that stands above it. -/
theorem mem_descendants_of_mem_ancestors {tree : Nat} {node : Node} {c d : Cursor}
    (hc : c ∈ (root tree node).subtree) (hd : d ∈ c.ancestors) : c ∈ d.descendants := by
  rcases mem_subtree_iff.mp hc with rfl | hc
  · cases hd
  · rcases mem_ancestors_or_mem_descendants hc hd with habove | hbelow
    · cases habove
    · exact hbelow

/-- What lies below a node is smaller. -/
theorem sizeOf_lt_of_mem_descendants {c d : Cursor} (h : d ∈ c.descendants) :
    sizeOf d.node < sizeOf c.node := by
  induction c using children_induction with
  | step c ih =>
    rw [descendants_eq] at h
    obtain ⟨x, hx, hdx⟩ := List.mem_flatMap.mp h
    have hlt := sizeOf_lt_of_mem_children hx
    rcases mem_subtree_iff.mp hdx with rfl | hbelow
    · exact hlt
    · exact Nat.lt_trans (ih x hx hbelow) hlt

/-- Induction from everything below a node to the node. -/
theorem descendants_induction {P : Cursor → Prop}
    (step : ∀ c : Cursor, (∀ d ∈ c.descendants, P d) → P c) (c : Cursor) : P c :=
  step c fun d _hd => descendants_induction step d
termination_by sizeOf c.node
decreasing_by exact sizeOf_lt_of_mem_descendants _hd

/-! ## Places -/

/-- The way up from a node of a subtree passes the root of the subtree. -/
theorem above_of_mem_subtree {c d : Cursor} (h : d ∈ c.subtree) :
    d.tree = c.tree ∧ ∃ steps, d.above = steps ++ c.above := by
  induction c using children_induction with
  | step c ih =>
    rcases mem_subtree_iff.mp h with rfl | hbelow
    · exact ⟨rfl, [], rfl⟩
    · rw [descendants_eq] at hbelow
      obtain ⟨x, hx, hdx⟩ := List.mem_flatMap.mp hbelow
      obtain ⟨htree, steps, hsteps⟩ := ih x hx hdx
      obtain ⟨i, node, -, rfl⟩ := mem_children_iff.mp hx
      exact ⟨htree, steps ++ [⟨c.node, i⟩], by simp [hsteps]⟩

theorem length_above_le_of_mem_subtree {c d : Cursor} (h : d ∈ c.subtree) :
    c.above.length ≤ d.above.length := by
  obtain ⟨-, steps, hsteps⟩ := above_of_mem_subtree h
  simp [hsteps]

theorem length_above_lt_of_mem_descendants {c d : Cursor} (h : d ∈ c.descendants) :
    c.above.length < d.above.length := by
  rw [descendants_eq] at h
  obtain ⟨x, hx, hdx⟩ := List.mem_flatMap.mp h
  have hle := length_above_le_of_mem_subtree hdx
  have hstep := length_above_of_mem_children hx
  omega

theorem length_above_eq_of_place_eq {c d : Cursor} (h : c.place = d.place) :
    c.above.length = d.above.length := by
  have hindexes : c.above.map Step.index = d.above.map Step.index := congrArg Place.indexes h
  simpa using congrArg List.length hindexes

theorem place_ne_of_mem_descendants {c d : Cursor} (h : d ∈ c.descendants) : c.place ≠ d.place := by
  intro hplace
  have hlt := length_above_lt_of_mem_descendants h
  have heq := length_above_eq_of_place_eq hplace
  omega

/-- Subtrees of different children share no place. -/
theorem place_ne_of_children {tree : Nat} {parent : Node} {above : List Step} {i j : Nat}
    {m n : Node} (hij : i ≠ j) {d e : Cursor}
    (hd : d ∈ subtree ⟨tree, m, ⟨parent, i⟩ :: above⟩)
    (he : e ∈ subtree ⟨tree, n, ⟨parent, j⟩ :: above⟩) : d.place ≠ e.place := by
  intro hplace
  obtain ⟨-, p, hp⟩ := above_of_mem_subtree hd
  obtain ⟨-, q, hq⟩ := above_of_mem_subtree he
  -- Both ways up end alike but for the index of the child, where they differ.
  have hindexes : d.above.map Step.index = e.above.map Step.index := congrArg Place.indexes hplace
  rw [hp, hq, List.map_append, List.map_append] at hindexes
  have hends := List.append_inj_right' hindexes (by simp)
  simp only [List.map_cons, List.cons.injEq] at hends
  exact hij hends.1

theorem pairwise_place_childrenFrom {tree : Nat} {parent : Node} {above : List Step} {index : Nat}
    {nodes : List Node} :
    (childrenFrom tree parent above index nodes).Pairwise fun a b =>
      ∀ d ∈ a.subtree, ∀ e ∈ b.subtree, d.place ≠ e.place := by
  induction nodes generalizing index with
  | nil => simp [childrenFrom]
  | cons node rest ih =>
    refine List.pairwise_cons.mpr ⟨?_, ih⟩
    intro b hb d hd e he
    obtain ⟨i, other, -, rfl⟩ := mem_childrenFrom.mp hb
    exact place_ne_of_children (by omega) hd he

/-- The nodes of a subtree have different places. -/
theorem pairwise_place_subtree (c : Cursor) :
    c.subtree.Pairwise fun a b => a.place ≠ b.place := by
  induction c using children_induction with
  | step c ih =>
    rw [subtree_eq]
    -- The root lies higher than everything below it, and the children share no place.
    refine List.pairwise_cons.mpr ⟨?_, List.pairwise_flatMap.mpr ⟨ih, pairwise_place_childrenFrom⟩⟩
    intro d hd hplace
    rw [← descendants_eq] at hd
    have hlt := length_above_lt_of_mem_descendants hd
    have heq := length_above_eq_of_place_eq hplace
    omega

/-- The nodes below a node have different places. -/
theorem pairwise_place_descendants (c : Cursor) :
    (c.children.flatMap subtree).Pairwise fun a b => a.place ≠ b.place := by
  have h := pairwise_place_subtree c
  rw [subtree_eq] at h
  exact (List.pairwise_cons.mp h).2

theorem nodup_descendants (c : Cursor) : c.descendants.Nodup := by
  rw [descendants_eq]
  exact (pairwise_place_descendants c).imp fun hne heq => hne (congrArg place heq)

/-- Within a subtree a place belongs to one node. -/
theorem eq_of_place_eq {c d e : Cursor} (hd : d ∈ c.subtree) (he : e ∈ c.subtree)
    (hplace : d.place = e.place) : d = e :=
  List.inj_on_of_nodup_map (List.pairwise_map.mpr (pairwise_place_subtree c)) hd he hplace

end Transcript.Markup.Cursor
