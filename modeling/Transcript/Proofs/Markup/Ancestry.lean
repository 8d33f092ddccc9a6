import Transcript.Markup.Cursor

/-!
# What stands above a node

The nodes above a node form a chain, nearest first: behind each of them comes what stands above it.
Searches for elements above a node walk along this chain and stop at the first node that bears the
name of documents, so they see an initial part of it.

## Main definitions

- `Cursor.BeyondDocument`: standing where such a search does not come
- `Cursor.outermost?`: the farthest element above that satisfies a test

## Main results

- `Cursor.mem_elementAncestors_or`: a node above is seen by the search, or stands beyond it
- `Cursor.mem_elementAncestors_iff`: the search sees what does not stand beyond the document
- `Cursor.outermost?_eq_some_iff`: the outermost one is the one with none above it
-/

namespace Transcript.Markup.Cursor

variable {c d : Cursor}

/-! ## The chain -/

theorem elementAncestors_root (tree : Nat) (node : Node) :
    (⟨tree, node, []⟩ : Cursor).elementAncestors = [] := rfl

theorem elementAncestors_step (tree : Nat) (node : Node) (step : Step) (above : List Step) :
    (⟨tree, node, step :: above⟩ : Cursor).elementAncestors =
      if step.parent.name = documentName then []
      else
        ⟨tree, step.parent, above⟩ :: (⟨tree, step.parent, above⟩ : Cursor).elementAncestors := by
  by_cases h : step.parent.name = documentName
  · simp [elementAncestors, ancestors, ancestorsOf, h]
  · simp [elementAncestors, ancestors, ancestorsOf, h]

/-- Behind an element of the chain comes what stands above it. -/
theorem elementAncestors_eq_of_append {before behind : List Cursor}
    (h : c.elementAncestors = before ++ d :: behind) : d.elementAncestors = behind := by
  obtain ⟨tree, node, above⟩ := c
  induction above generalizing node before with
  | nil => simp [elementAncestors_root] at h
  | cons step above ih =>
    rw [elementAncestors_step] at h
    split at h
    · simp at h
    · cases before with
      | nil =>
        obtain ⟨rfl, hbehind⟩ := List.cons.inj h
        exact hbehind
      | cons first before => exact ih step.parent (List.cons.inj h).2

theorem exists_elementAncestors_eq (h : d ∈ c.elementAncestors) :
    ∃ before, c.elementAncestors = before ++ d :: d.elementAncestors := by
  obtain ⟨before, behind, hsplit⟩ := List.append_of_mem h
  rw [elementAncestors_eq_of_append hsplit]
  exact ⟨before, hsplit⟩

/-! ## Beyond the document -/

/-- A node that bears the name of documents is `d`, or stands above `c` and below `d`. -/
def BeyondDocument (c d : Cursor) : Prop :=
  ∃ e ∈ c.ancestors, e.node.name = documentName ∧ (e = d ∨ d ∈ e.ancestors)

theorem mem_elementAncestors_or (h : d ∈ c.ancestors) :
    d ∈ c.elementAncestors ∨ c.BeyondDocument d := by
  obtain ⟨tree, node, above⟩ := c
  induction above generalizing node with
  | nil => cases h
  | cons step above ih =>
    have hmem : d = ⟨tree, step.parent, above⟩ ∨
        d ∈ (⟨tree, step.parent, above⟩ : Cursor).ancestors :=
      List.mem_cons.mp h
    rw [elementAncestors_step]
    by_cases hname : step.parent.name = documentName
    -- The parent bears the name, so it ends the search, whether it is `d` or not.
    · refine .inr ⟨⟨tree, step.parent, above⟩, List.mem_cons_self, hname, ?_⟩
      exact hmem.imp Eq.symm id
    · rw [if_neg hname]
      rcases hmem with rfl | hmem
      · exact .inl List.mem_cons_self
      · rcases ih step.parent hmem with hseen | ⟨e, he, hname, hd⟩
        · exact .inl (List.mem_cons_of_mem _ hseen)
        · exact .inr ⟨e, List.mem_cons_of_mem _ he, hname, hd⟩

/-- What stands above a node is nearer to the root. -/
theorem length_above_lt_of_mem_ancestors (h : d ∈ c.ancestors) :
    d.above.length < c.above.length := by
  obtain ⟨tree, node, above⟩ := c
  induction above generalizing node with
  | nil => cases h
  | cons step above ih =>
    rcases List.mem_cons.mp h with rfl | hmem
    · exact Nat.lt_succ_self _
    · exact Nat.lt_trans (ih step.parent hmem) (Nat.lt_succ_self _)

theorem not_beyondDocument_of_mem (h : d ∈ c.elementAncestors) : ¬c.BeyondDocument d := by
  rintro ⟨e, he, hname, hd⟩
  obtain ⟨tree, node, above⟩ := c
  induction above generalizing node with
  | nil => cases he
  | cons step above ih =>
    have hmem : e = ⟨tree, step.parent, above⟩ ∨
        e ∈ (⟨tree, step.parent, above⟩ : Cursor).ancestors :=
      List.mem_cons.mp he
    rw [elementAncestors_step] at h
    split at h
    · cases h
    · rename_i hparent
      rcases hmem with rfl | habove
      · exact hparent hname
      · rcases List.mem_cons.mp h with rfl | h
        -- The parent is `d` and farther from the root than everything above it.
        · have hnearer := length_above_lt_of_mem_ancestors habove
          rcases hd with rfl | hd
          · exact Nat.lt_irrefl _ hnearer
          · exact Nat.lt_asymm hnearer (length_above_lt_of_mem_ancestors hd)
        · exact ih step.parent h habove

/-- The search for elements above a node sees everything that does not stand beyond the document. -/
theorem mem_elementAncestors_iff :
    d ∈ c.elementAncestors ↔ d ∈ c.ancestors ∧ ¬c.BeyondDocument d := by
  constructor
  · intro h
    exact ⟨(List.takeWhile_sublist _).subset h, not_beyondDocument_of_mem h⟩
  · rintro ⟨h, hnear⟩
    exact (mem_elementAncestors_or h).resolve_right hnear

/-! ## The outermost element -/

/-- The farthest element above the node that satisfies `p`. -/
def outermost? (c : Cursor) (p : Cursor → Bool) : Option Cursor :=
  c.elementAncestors.reverse.find? p

theorem outermost?_eq_none_iff {p : Cursor → Bool} :
    c.outermost? p = none ↔ c.findAncestor? p = none := by
  simp [outermost?, findAncestor?]

theorem outermost?_eq_some_iff {p : Cursor → Bool} :
    c.outermost? p = some d ↔
      d ∈ c.elementAncestors ∧ p d = true ∧ d.findAncestor? p = none := by
  constructor
  · intro h
    obtain ⟨hp, outer, inner, hsplit, houter⟩ := List.find?_eq_some_iff_append.mp h
    have hchain : c.elementAncestors = inner.reverse ++ d :: outer.reverse := by
      rw [← List.reverse_reverse c.elementAncestors, hsplit]
      simp
    refine ⟨by simp [hchain], hp, ?_⟩
    rw [findAncestor?, elementAncestors_eq_of_append hchain]
    simpa using houter
  · rintro ⟨hd, hp, hnone⟩
    obtain ⟨before, hchain⟩ := exists_elementAncestors_eq hd
    have houter : d.elementAncestors.reverse.find? p = none := by
      simpa [findAncestor?] using hnone
    rw [outermost?, hchain, List.reverse_append, List.reverse_cons, List.append_assoc,
      List.find?_append, houter]
    simp [hp]

end Transcript.Markup.Cursor
