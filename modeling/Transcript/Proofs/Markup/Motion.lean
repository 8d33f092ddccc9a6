import Transcript.Proofs.Markup.Likeness

/-!
# Motions

A motion takes nodes to other places, each with everything that stands below it. The nodes
themselves stay as they are, and different nodes come to different places. So whatever looks from a
node downwards finds after the motion what it found before, moved; what stands above may be another
world.

## Main definitions

- `Motion`: a map that moves the nodes with a property

## Main results

- `Motion.likeness`: a motion is a likeness, under which every node keeps its name
- `Motion.subtree`, `Motion.descendants`: what lies below moves along
- `Motion.node_find?`: searches below
- `Motion.parent?`: looking up no higher than to a node that moves too
-/

namespace Transcript.Markup

/-- The nodes with the property `p` are moved by `f`. -/
structure Motion (p : Cursor → Prop) (f : Cursor → Cursor) : Prop where
  /-- A node stays as it is. -/
  node {c : Cursor} : p c → (f c).node = c.node
  /-- Its children move along. -/
  children {c : Cursor} : p c → (f c).children = c.children.map f
  /-- They have the property too. -/
  child {c d : Cursor} : p c → d ∈ c.children → p d
  /-- Different nodes stay different. -/
  isSame {c d : Cursor} : p c → p d → (f c).isSame (f d) = c.isSame d

namespace Motion

open Cursor

variable {p : Cursor → Prop} {f : Cursor → Cursor} {c d t : Cursor}

/-- Nodes that stay as they are read alike. -/
theorem likeness (hm : Motion p f) : Likeness p f where
  reads {c} h := by
    rw [hm.node h]
    exact .refl c.node
  children := hm.children
  child := hm.child
  isSame := hm.isSame

theorem namedAlike (hm : Motion p f) (h : p c) (name : String) : NamedAlike f name c := by
  rw [NamedAlike, hm.node h]

/-! ## Downwards -/

theorem of_mem_subtree (hm : Motion p f) (h : p c) (hd : d ∈ c.subtree) : p d :=
  hm.likeness.of_mem_subtree h hd

theorem of_mem_descendants (hm : Motion p f) (h : p c) (hd : d ∈ c.descendants) : p d :=
  hm.likeness.of_mem_descendants h hd

theorem mem_children (hm : Motion p f) (h : p c) (hd : d ∈ c.children) :
    f d ∈ (f c).children :=
  hm.likeness.mem_children h hd

theorem subtree (hm : Motion p f) (h : p c) : (f c).subtree = c.subtree.map f :=
  hm.likeness.subtree h

theorem descendants (hm : Motion p f) (h : p c) : (f c).descendants = c.descendants.map f :=
  hm.likeness.descendants h

/-- What is found below has the same content. -/
theorem node_find? (hm : Motion p f) (h : p c) (names : List String) :
    ((f c).find? names).map Cursor.node = (c.find? names).map Cursor.node := by
  rw [hm.likeness.find? h fun name _ d hd => hm.namedAlike (hm.of_mem_descendants h hd) name]
  cases hfound : c.find? names with
  | none => rfl
  | some d =>
    exact congrArg some (hm.node (hm.of_mem_descendants h (List.mem_of_find?_eq_some hfound)))

/-! ## Upwards, no higher than to a node that moves -/

theorem parent? (hm : Motion p f) (h : p t) (hd : d ∈ t.descendants) :
    ∃ x ∈ t.subtree, d.parent? = some x ∧ (f d).parent? = some (f x) :=
  hm.likeness.parent? h hd

end Motion

end Transcript.Markup
