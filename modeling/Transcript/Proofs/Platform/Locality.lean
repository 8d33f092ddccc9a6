import Transcript.Proofs.Markup.Outlook
import Transcript.Proofs.Platform.Motion

/-!
# What adapters see

The methods computed from a profile look at a node, at what lies below it, and at the elements above
it. As long as the selectors of the profile ask for no siblings, all of these are the same wherever
the top-level ancestor of the node stands.

## Main definitions

- `Profile.lookups`: the selectors by which an adapter looks around in a formula or code
- `Adapter.IsLocal`: an adapter that replaces no method and asks for no siblings

## Main results

- `Adapter.seesAlike_relocate`, `Adapter.codeLanguage_relocate`: nothing changes with a move
- `isLocal_of_mem_builtin`: the built-in adapters are local
-/

namespace Transcript

open Markup Cursor Formula

/-- The selectors by which an adapter looks around in a formula or in code. -/
def Profile.lookups (p : Profile) : List String :=
  p.innerDisplay.toList ++ p.glyphSelector.toList ++ p.codeWrapperSelectors ++
    p.codeLabelSelectors.flatMap fun (container, label) => [container, label]

namespace Adapter

/-- The adapter replaces no method, and its selectors ask for no siblings. -/
structure IsLocal (a : Adapter) : Prop where
  overrides : a.overrides = {}
  lookups : ∀ selector ∈ a.profile.lookups, Selector.isVerticalText selector = true

namespace IsLocal

variable {a : Adapter} {selector label : String}

theorem innerDisplay (ha : a.IsLocal) (h : a.profile.innerDisplay = some selector) :
    Selector.isVerticalText selector = true :=
  ha.lookups selector (by simp [Profile.lookups, h])

theorem glyphSelector (ha : a.IsLocal) (h : a.profile.glyphSelector = some selector) :
    Selector.isVerticalText selector = true :=
  ha.lookups selector (by simp [Profile.lookups, h])

theorem codeWrapper (ha : a.IsLocal) (h : selector ∈ a.profile.codeWrapperSelectors) :
    Selector.isVerticalText selector = true :=
  ha.lookups selector (by simp [Profile.lookups, h])

theorem codeLabel (ha : a.IsLocal) (h : (selector, label) ∈ a.profile.codeLabelSelectors) :
    Selector.isVerticalText selector = true ∧ Selector.isVerticalText label = true := by
  constructor
  · refine ha.lookups selector (List.mem_append_right _ ?_)
    exact List.mem_flatMap.mpr ⟨_, h, by simp⟩
  · refine ha.lookups label (List.mem_append_right _ ?_)
    exact List.mem_flatMap.mpr ⟨_, h, by simp⟩

end IsLocal

variable {a : Adapter} {old new : Slot} {c : Cursor}

/-! ## Formulas -/

theorem isBlockMath_relocate (ha : a.IsLocal) (h : c.Under old) :
    a.isBlockMath (c.relocate new) = a.isBlockMath c := by
  have hmarked : a.isMarkedDisplay (c.relocate new) = a.isMarkedDisplay c := by
    have habove : (c.relocate new).findAncestor?
        (fun x => x.node.hasClass a.profile.displayClasses) =
          (c.findAncestor? fun x => x.node.hasClass a.profile.displayClasses).map
            (relocate new) := findAncestor?_relocate h fun x hx => by rw [node_relocate hx]
    rw [isMarkedDisplay, node_relocate h, habove, Option.isSome_map, isMarkedDisplay]
  simp only [isBlockMath, ha.overrides, hmarked]
  split
  · rfl
  · split
    · rfl
    · rename_i selector hselector
      rw [(findText?_relocate new (ha.innerDisplay hselector) h).eq]
      cases c.findText? selector with
      | error fault => rfl
      | ok found => cases found <;> rfl

theorem isVerticalText_texSource : Selector.isVerticalText texSource = true := by
  decide

theorem isVerticalText_placeholder : Selector.isVerticalText ("." ++ placeholderClass) = true := by
  decide

/-- From a node that has moved an adapter reads the same. -/
theorem seesAlike_relocate (ha : a.IsLocal) (h : c.Under old) (new : Slot) :
    a.SeesAlike c (c.relocate new) where
  node := node_relocate h
  display := by rw [isBlockMath_relocate ha h]
  source selector hselector := by
    have hvertical : Selector.isVerticalText selector = true := by
      simp only [sourceSelectors, List.cons_append, List.nil_append, List.mem_cons,
        Option.mem_toList] at hselector
      rcases hselector with rfl | rfl | hglyph
      · exact isVerticalText_texSource
      · exact isVerticalText_placeholder
      · exact ha.glyphSelector hglyph
    exact content_moves (motion_relocate old new) (findText?_relocate new hvertical h)
  formula := (motion_relocate old new).node_find? h ["math"]

/-! ## Code -/

/-- The language of code is found alike after a move. -/
theorem codeLanguage_relocate (ha : a.IsLocal) (h : c.Under old) :
    a.codeLanguage (c.relocate new) = a.codeLanguage c := by
  exact codeLanguage_move (motion_relocate old new).likeness ha.overrides h
    (fun selector hselector => closestText?_relocate new (ha.codeWrapper hselector) h)
    (fun pair hpair => closestText?_relocate new (ha.codeLabel hpair).1 h)
    fun pair hpair d hd => selectOneText?_relocate new (ha.codeLabel hpair).2 hd

end Adapter

/-- The built-in adapters replace no method and ask for no siblings. -/
theorem isLocal_of_mem_builtin {a : Adapter} (h : a ∈ builtinAdapters) : a.IsLocal := by
  refine ⟨overrides_of_mem_builtin h, ?_⟩
  cases isBuiltinAdapter_of_mem h <;> decide

end Transcript
