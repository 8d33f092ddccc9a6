import Transcript.Markup.Query
import Transcript.Proofs.Markup.Relocation

/-!
# What selectors see

A selector that asks for no siblings looks at a node, at what stands above it, and at nothing else.
What it says of a node in or below a slot does not depend on the slot.

## Main definitions

- `Selector.isVertical`, `Selector.isVerticalText`: selectors that ask for no siblings

## Main results

- `Selector.accepts_relocate`: such a selector says the same after a move
- `Cursor.closestText?_relocate`, `Cursor.findText?_relocate`: searches by such selectors
-/

namespace Transcript

open Markup Cursor

variable {old new : Slot} {c d : Cursor}

namespace Selector

/-- The selector asks for no siblings. -/
def isVertical : Selector → Bool
  | any => true
  | named _ => true
  | hasClass _ => true
  | hasId _ => true
  | attr _ _ _ => true
  | both left right => left.isVertical && right.isVertical
  | either left right => left.isVertical && right.isVertical
  | except excluded => excluded.isVertical
  | parent outer => outer.isVertical
  | ancestor outer => outer.isVertical
  | previous _ => false
  | preceding _ => false

/-- The text is a selector that asks for no siblings. -/
def isVerticalText (text : String) : Bool :=
  match parse text with
  | .ok s => s.isVertical
  | .error _ => false

/-! ## Single nodes -/

theorem attributeValue?_relocate (h : c.Within old) (name : String) :
    attributeValue? (c.relocate new).node name = attributeValue? c.node name := by
  obtain ⟨-, hattributes, -, -⟩ := head_relocate new h
  rw [attributeValue?, hattributes, attributeValue?]

/-- A selector that asks for no siblings holds of a node wherever its top-level ancestor stands. -/
theorem holds_relocate {s : Selector} (hs : s.isVertical = true) (h : c.Within old) :
    s.holds (c.relocate new) = s.holds c := by
  induction s generalizing c with
  | any => rfl
  | named name =>
    obtain ⟨hname, -, -, -⟩ := head_relocate new h
    rw [holds, hname, holds]
  | hasClass name =>
    rw [holds, classesOf, attributeValue?_relocate h, holds, classesOf]
  | hasId name =>
    rw [holds, hasIdentifier, attributeValue?_relocate h, holds, hasIdentifier]
  | attr name folded test =>
    rw [holds, attributePasses, attributeValue?_relocate h, holds, attributePasses]
  | both left right ihl ihr =>
    obtain ⟨hl, hr⟩ := Bool.and_eq_true_iff.mp hs
    rw [holds, ihl hl h, ihr hr h, holds]
  | either left right ihl ihr =>
    obtain ⟨hl, hr⟩ := Bool.and_eq_true_iff.mp hs
    rw [holds, ihl hl h, ihr hr h, holds]
  | except excluded ih => rw [holds, ih hs h, holds]
  | parent outer ih =>
    rcases h with hunder | hroot
    · rw [holds, parent?_relocate hunder, holds]
      cases hparent : c.parent? with
      | none => rfl
      | some above =>
        show outer.holds (above.relocate new) = outer.holds above
        exact ih hs (within_of_parent? hunder hparent)
    -- Nothing stands above a document.
    · rw [hroot]
      rfl
  | ancestor outer ih =>
    rcases h with hunder | hroot
    · rw [holds, ancestors_relocate hunder, holds]
      exact any_map_of_eq fun a ha => ih hs (within_of_mem_ancestors hunder ha)
    · rw [hroot]
      rfl
  | previous sibling ih => cases hs
  | preceding sibling ih => cases hs

theorem accepts_relocate {s : Selector} (hs : s.isVertical = true) (h : c.Within old) :
    s.accepts (c.relocate new) = s.accepts c := by
  obtain ⟨-, -, helement, hdocument⟩ := head_relocate new h
  rw [accepts, helement, hdocument, holds_relocate hs h, accepts]

/-! ## Searches -/

theorem closest?_relocate {s : Selector} (hs : s.isVertical = true) (h : c.Under old) :
    s.closest? (c.relocate new) = (s.closest? c).map (relocate new) := by
  have hwithin : ∀ a ∈ c :: c.ancestors, a.Within old := by
    intro a ha
    rcases List.mem_cons.mp ha with rfl | ha
    · exact .inl h
    · exact within_of_mem_ancestors h ha
  rw [closest?, ancestors_relocate h, ← List.map_cons]
  exact find?_map_of_eq fun a ha => accepts_relocate hs (hwithin a ha)

/-- What is found above is an element, and no document is one. -/
theorem under_of_closest? {s : Selector} (h : c.Under old) (hd : s.closest? c = some d) :
    d.Under old := by
  have haccepts : s.accepts d = true := List.find?_some hd
  rcases List.mem_cons.mp (List.mem_of_find?_eq_some hd) with rfl | hmem
  · exact h
  · rcases within_of_mem_ancestors h hmem with hunder | hroot
    · exact hunder
    · rw [hroot] at haccepts
      cases haccepts

theorem selectOne?_relocate {s : Selector} (hs : s.isVertical = true) (h : c.Under old) :
    s.selectOne? (c.relocate new) = (s.selectOne? c).map (relocate new) := by
  rw [selectOne?, (motion_relocate old new).descendants h]
  exact find?_map_of_eq fun d hd => accepts_relocate hs (.inl (under_of_mem_descendants h hd))

theorem under_of_selectOne? {s : Selector} (h : c.Under old) (hd : s.selectOne? c = some d) :
    d.Under old :=
  under_of_mem_descendants h (List.mem_of_find?_eq_some hd)

theorem parse_of_isVerticalText {text : String} (h : isVerticalText text = true) :
    ∃ s, parse text = .ok s ∧ s.isVertical = true := by
  unfold isVerticalText at h
  cases hparse : parse text with
  | ok s => exact ⟨s, rfl, by rwa [hparse] at h⟩
  | error fault =>
    rw [hparse] at h
    cases h

theorem isVertical_of_parse {text : String} (h : isVerticalText text = true) {s : Selector}
    (hparse : parse text = .ok s) : s.isVertical = true := by
  rwa [isVerticalText, hparse] at h

end Selector

/-! ## Searches by written selectors -/

namespace Markup.Cursor

theorem closestText?_relocate (new : Slot) {selector : String}
    (hs : Selector.isVerticalText selector = true) (h : c.Under old) :
    MovesTo (Under old) (relocate new) (c.closestText? selector)
      ((c.relocate new).closestText? selector) := by
  apply MovesTo.searchText? (congrArg Node.isElement (node_relocate h))
  · intro s hparse
    exact Selector.closest?_relocate (Selector.isVertical_of_parse hs hparse) h
  · exact fun s _ d hd => Selector.under_of_closest? h hd

theorem selectOneText?_relocate (new : Slot) {selector : String}
    (hs : Selector.isVerticalText selector = true) (h : c.Under old) :
    MovesTo (Under old) (relocate new) (c.selectOneText? selector)
      ((c.relocate new).selectOneText? selector) := by
  apply MovesTo.searchText? (congrArg Node.isElement (node_relocate h))
  · intro s hparse
    exact Selector.selectOne?_relocate (Selector.isVertical_of_parse hs hparse) h
  · exact fun s _ d hd => Selector.under_of_selectOne? h hd

theorem findText?_relocate (new : Slot) {selector : String}
    (hs : Selector.isVerticalText selector = true) (h : c.Under old) :
    MovesTo (Under old) (relocate new) (c.findText? selector)
      ((c.relocate new).findText? selector) :=
  .findText? (congrArg Node.isElement (node_relocate h)) (selectOneText?_relocate new hs h)

end Markup.Cursor

end Transcript
