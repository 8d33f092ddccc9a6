import Transcript.Proofs.Markup.Motion

/-!
# Detached elements

An element can be taken out of its document, into a tree of its own. Everything below it comes
along, and nothing that stood above. A search upwards from a node below then ends at the element, so
it finds what it found in the document as long as it did not go beyond the element.

## Main definitions

- `Cursor.detach`: a node in the tree of an element that has been taken out

## Main results

- `Cursor.motion_detach`: taking an element out is a motion
- `Cursor.exists_elementAncestors_detach`: what stands above a node, up to the element and beyond
- `Cursor.isSome_findAncestor?_detach`, `Cursor.countP_elementAncestors_detach`: searches that pass
  over everything above the element
-/

namespace Transcript.Markup.Cursor

variable {c d : Cursor}

/-- A node below an element, or the element itself, in the tree of this element taken out. -/
def detach (c d : Cursor) : Cursor :=
  ⟨d.tree, d.node, d.above.take (d.above.length - c.above.length)⟩

theorem detach_append (c : Cursor) (tree : Nat) (node : Node) (steps : List Step) :
    c.detach ⟨tree, node, steps ++ c.above⟩ = ⟨tree, node, steps⟩ := by
  simp [detach]

theorem detach_self (c : Cursor) : c.detach c = root c.tree c.node := by
  simp [detach, root]

theorem childrenFrom_detach (c : Cursor) (tree : Nat) (node : Node) (steps : List Step)
    (index : Nat) (nodes : List Node) :
    childrenFrom tree node steps index nodes =
      (childrenFrom tree node (steps ++ c.above) index nodes).map c.detach := by
  induction nodes generalizing index with
  | nil => rfl
  | cons child rest ih =>
    have hchild : c.detach ⟨tree, child, ⟨node, index⟩ :: (steps ++ c.above)⟩ =
        ⟨tree, child, ⟨node, index⟩ :: steps⟩ :=
      detach_append c tree child (⟨node, index⟩ :: steps)
    rw [childrenFrom, childrenFrom, List.map_cons, ih, hchild]

/-- Taking an element out moves everything in it. -/
theorem motion_detach (c : Cursor) : Motion (· ∈ c.subtree) c.detach where
  node _ := rfl
  children {d} h := by
    obtain ⟨tree, node, above⟩ := d
    obtain ⟨-, steps, rfl⟩ := above_of_mem_subtree h
    rw [detach_append]
    exact childrenFrom_detach c tree node steps 0 node.children
  child h hd := mem_subtree_of_child h hd
  isSame {d e} hd he := by
    obtain ⟨tree, node, above⟩ := d
    obtain ⟨other, content, way⟩ := e
    obtain ⟨-, steps, rfl⟩ := above_of_mem_subtree hd
    obtain ⟨-, ways, rfl⟩ := above_of_mem_subtree he
    -- Both ways end alike, above the element.
    rw [detach_append, detach_append, Bool.eq_iff_iff]
    simp [isSame, place]

theorem length_above_detach (c d : Cursor) :
    (c.detach d).above.length = d.above.length - c.above.length := by
  simp [detach]

/-! ## Upwards -/

/-- What stands above a node in an element: what stands in the element, which comes along, and what
stands above the element. -/
theorem exists_ancestors_detach : ∀ d ∈ c.subtree, ∃ between, (∀ a ∈ between, a ∈ c.subtree) ∧
    d.ancestors = between ++ c.ancestors ∧ (c.detach d).ancestors = between.map c.detach := by
  refine subtree_induction ⟨[], List.forall_mem_nil _, rfl, by rw [detach_self]; rfl⟩ ?_
  -- Each step down puts the parent in front, in the document and in the detached element alike.
  rintro x hx ⟨between, hbetween, hancestors, hdetached⟩ d hd
  refine ⟨x :: between, List.forall_mem_cons.mpr ⟨hx, hbetween⟩, ?_, ?_⟩
  · rw [ancestors_of_mem_children hd, hancestors, List.cons_append]
  · rw [ancestors_of_mem_children ((motion_detach c).mem_children hx hd), hdetached, List.map_cons]

/-- Up to the document it is the same, and nothing more stands above than what stands above the
element. -/
theorem exists_elementAncestors_detach (h : d ∈ c.subtree) : ∃ between beyond,
    d.elementAncestors = between ++ beyond ∧
      (c.detach d).elementAncestors = between.map c.detach ∧ ∀ a ∈ beyond, a ∈ c.ancestors := by
  obtain ⟨between, -, hancestors, hdetached⟩ := exists_ancestors_detach d h
  have hmoved : (c.detach d).elementAncestors =
      (between.takeWhile fun a => a.node.name != documentName).map c.detach := by
    rw [elementAncestors, hdetached]
    exact takeWhile_map_of_eq fun a _ => rfl
  rw [elementAncestors, hancestors, List.takeWhile_append, hmoved]
  split
  -- The search goes on above the element only if nothing stops it in the element.
  · rename_i hall
    have hwhole :=
      (List.takeWhile_prefix fun a : Cursor => a.node.name != documentName).eq_of_length hall
    exact ⟨_, _, rfl, congrArg _ hwhole, fun a ha => (List.takeWhile_sublist _).subset ha⟩
  · exact ⟨_, [], (List.append_nil _).symm, rfl, List.forall_mem_nil _⟩

theorem isSome_findAncestor?_detach (h : d ∈ c.subtree) {test : Node → Bool}
    (hquiet : ∀ a ∈ c.ancestors, test a.node = false) :
    ((c.detach d).findAncestor? fun a => test a.node).isSome =
      (d.findAncestor? fun a => test a.node).isSome := by
  obtain ⟨between, beyond, hancestors, hdetached, hbeyond⟩ := exists_elementAncestors_detach h
  have hnone : beyond.find? (fun a => test a.node) = none :=
    List.find?_eq_none.mpr fun a ha => by simp [hquiet a (hbeyond a ha)]
  rw [findAncestor?, hdetached, findAncestor?, hancestors, List.find?_append, hnone, Option.or_none,
    List.find?_map, Option.isSome_map]
  rfl

theorem countP_elementAncestors_detach (h : d ∈ c.subtree) {test : Node → Bool}
    (hquiet : ∀ a ∈ c.ancestors, test a.node = false) :
    ((c.detach d).elementAncestors.countP fun a => test a.node) =
      d.elementAncestors.countP fun a => test a.node := by
  obtain ⟨between, beyond, hancestors, hdetached, hbeyond⟩ := exists_elementAncestors_detach h
  have hnone : (beyond.countP fun a => test a.node) = 0 :=
    List.countP_eq_zero.mpr fun a ha => by simp [hquiet a (hbeyond a ha)]
  rw [hdetached, hancestors, List.countP_append, hnone, Nat.add_zero, List.countP_map]
  rfl

end Transcript.Markup.Cursor
