import Transcript.Proofs.Formula.Nesting
import Transcript.Proofs.Markup.Likeness

/-!
# Formulas that read alike

The conversion of a formula goes by names in lower case and by the text of its elements. So a formula
and its likeness go on to the same elements, and come to the same LaTeX.

## Main results

- `exists_reachedFrom_eq`: the elements that are reached are taken along
- `latexOfMathMl_likeness`: a formula in a likeness comes to the same
-/

namespace Transcript.Formula

open Markup

variable {p : Cursor → Prop} {f : Cursor → Cursor} {c : Cursor}

theorem map_node_childrenFrom (tree : Nat) (parent : Node) (above : List Step) (index : Nat)
    (nodes : List Node) :
    (Cursor.childrenFrom tree parent above index nodes).map Cursor.node = nodes := by
  induction nodes generalizing index with
  | nil => rfl
  | cons node rest ih => rw [Cursor.childrenFrom, List.map_cons, ih]

theorem elementChildren_node (c : Cursor) :
    elementChildren c.node = c.elementChildren.map Cursor.node := by
  have hchildren := map_node_childrenFrom c.tree c.node c.above 0 c.node.children
  rw [elementChildren, ← hchildren, List.filter_map]
  rfl

/-- How many nodes count, and which, does not depend on what the nodes are. -/
theorem exists_firstIfComplete_map (count : Nat) (cs : List Cursor) :
    ∃ reached : List Cursor, reached.Sublist cs ∧
      ∀ g : Cursor → Node, firstIfComplete count (cs.map g) = reached.map g := by
  by_cases hfew : cs.length < count
  · exact ⟨[], List.nil_sublist cs, fun g => by simp [firstIfComplete, hfew]⟩
  · exact ⟨cs.take count, List.take_sublist count cs,
      fun g => by simp [firstIfComplete, hfew]⟩

/-- A formula and its likeness go on to the same elements. -/
theorem exists_reachedFrom_eq (hl : Likeness p f) (h : p c) :
    ∃ reached : List Cursor, (∀ d ∈ reached, d ∈ c.children) ∧
      reachedFrom c.node = reached.map Cursor.node ∧
      reachedFrom (f c).node = (reached.map f).map Cursor.node := by
  have hparts : elementChildren (f c).node = c.elementChildren.map (Cursor.node ∘ f) := by
    rw [elementChildren_node, hl.elementChildren h, List.map_map]
  obtain ⟨reached, hsub, hnode, hlike⟩ : ∃ reached : List Cursor,
      reached.Sublist c.elementChildren ∧ reachedFrom c.node = reached.map Cursor.node ∧
        reachedFrom (f c).node = reached.map (Cursor.node ∘ f) := by
    have hpair := exists_firstIfComplete_map 2 c.elementChildren
    have htriple := exists_firstIfComplete_map 3 c.elementChildren
    unfold reachedFrom
    rw [(hl.reads h).tagName, hparts, elementChildren_node]
    split
    · exact ⟨[], List.nil_sublist _, rfl, rfl⟩
    · split
      · obtain ⟨reached, hsub, hmap⟩ := hpair
        exact ⟨reached, hsub, hmap _, hmap _⟩
      · split
        · obtain ⟨reached, hsub, hmap⟩ := htriple
          exact ⟨reached, hsub, hmap _, hmap _⟩
        · exact ⟨_, List.Sublist.refl _, rfl, rfl⟩
  refine ⟨reached, fun d hd => List.mem_of_mem_filter (hsub.subset hd), hnode, ?_⟩
  rw [hlike, List.map_map]

theorem loggedEach_fst_cons (limit : Int) (depth : Nat) (node : Node) (rest : List Node) :
    (loggedEach limit depth (node :: rest)).1 =
      match convertNode limit depth node with
      | .error fault => .error fault
      | .ok part => (loggedEach limit depth rest).1.map (part :: ·) := by
  rw [loggedEach, ← loggedNode_fst]
  rcases loggedNode limit depth node with ⟨fault | part, calls⟩ <;> rfl

/-- Nodes that are converted alike one by one are converted alike one after another. -/
theorem loggedEach_fst_congr {limit : Int} {depth : Nat} {cs : List Cursor}
    (h : ∀ d ∈ cs, convertNode limit depth (f d).node = convertNode limit depth d.node) :
    (loggedEach limit depth ((cs.map f).map Cursor.node)).1 =
      (loggedEach limit depth (cs.map Cursor.node)).1 := by
  induction cs with
  | nil => rfl
  | cons d rest ih =>
    have hrest := ih fun e he => h e (List.mem_cons_of_mem _ he)
    simp only [List.map_cons, loggedEach_fst_cons, h d List.mem_cons_self, hrest]

/-- An element of a formula and its likeness are put together alike. -/
theorem assemble_likeness (hl : Likeness p f) (h : p c) :
    assemble (f c).node = assemble c.node := by
  have hcount : (elementChildren (f c).node).length = (elementChildren c.node).length := by
    rw [elementChildren_node, elementChildren_node, hl.elementChildren h, List.length_map,
      List.length_map, List.length_map]
  unfold assemble
  rw [(hl.reads h).tagName, (hl.reads h).flatText, hcount]

/-- An element of a formula in a likeness comes to the same, at whatever depth. -/
theorem convertNode_likeness (hl : Likeness p f) (h : p c) (limit : Int) (depth : Nat) :
    convertNode limit depth (f c).node = convertNode limit depth c.node := by
  induction c using Cursor.children_induction generalizing depth with
  | step c ih =>
    obtain ⟨reached, hbelow, hnode, hlike⟩ := exists_reachedFrom_eq hl h
    have hparts := @loggedEach_fst_congr f limit (depth + 1) reached fun d hd =>
      ih d (hbelow d hd) (hl.child h (hbelow d hd)) (depth + 1)
    rw [convertNode_eq, convertNode_eq, hnode, hlike, hparts, assemble_likeness hl h]

/-- A formula in a likeness comes to the same. -/
theorem latexOfMathMl_likeness (hl : Likeness p f) (h : p c) (limit : Int) :
    latexOfMathMl limit (f c).node = latexOfMathMl limit c.node := by
  rw [latexOfMathMl, convertNode_likeness hl h, latexOfMathMl]

end Transcript.Formula
