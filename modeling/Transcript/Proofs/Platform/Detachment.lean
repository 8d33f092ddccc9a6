import Transcript.Proofs.Markup.Detachment
import Transcript.Proofs.Platform.Locality
import Transcript.Proofs.Platform.Script

/-!
# What adapters see in detached elements

What an adapter reads to recover a formula stands at its node or below it, so it recovers alike in a
detached element. For the language of code it looks above the code as well. As long as nothing above
the element is a part of what its selectors ask for, it finds the same language.

## Main definitions

- `Selector.outers`: what a selector asks for above a node
- `Selector.disregards`: a node is no part of what a selector asks for

## Main results

- `Selector.holds_detach`: such a selector says the same in a detached element
- `Adapter.recoversAlike_detach`, `Adapter.codeLanguage_detach`
-/

namespace Transcript

open Markup Cursor

variable {c d : Cursor}

namespace Selector

/-- The descriptions of what has to stand above a node. -/
def outers : Selector → List Selector
  | both left right => left.outers ++ right.outers
  | either left right => left.outers ++ right.outers
  | except excluded => excluded.outers
  | parent outer => outer :: outer.outers
  | ancestor outer => outer :: outer.outers
  | _ => []

/-- Where nothing above an element is described as an outer node, a selector that asks for no
siblings holds of the same nodes in the detached element. -/
theorem holds_detach {s : Selector} (hs : s.isVertical = true)
    (houters : ∀ outer ∈ s.outers, ∀ a ∈ c.ancestors, outer.holds a = false) (h : d ∈ c.subtree) :
    s.holds (c.detach d) = s.holds d := by
  induction s generalizing d with
  | any => rfl
  | named name => rfl
  | hasClass name => rfl
  | hasId name => rfl
  | attr name folded test => rfl
  | both left right ihl ihr =>
    obtain ⟨hl, hr⟩ := Bool.and_eq_true_iff.mp hs
    rw [holds, ihl hl (fun o ho => houters o (List.mem_append_left _ ho)) h,
      ihr hr (fun o ho => houters o (List.mem_append_right _ ho)) h, holds]
  | either left right ihl ihr =>
    obtain ⟨hl, hr⟩ := Bool.and_eq_true_iff.mp hs
    rw [holds, ihl hl (fun o ho => houters o (List.mem_append_left _ ho)) h,
      ihr hr (fun o ho => houters o (List.mem_append_right _ ho)) h, holds]
  | except excluded ih => rw [holds, ih hs houters h, holds]
  | parent outer ih =>
    have hquiet := houters outer List.mem_cons_self
    have hbelow := fun o ho => houters o (List.mem_cons_of_mem _ ho)
    rw [holds, holds]
    rcases mem_subtree_iff.mp h with rfl | hd
    -- The element has lost its parent, which was not described as one; other parents come along.
    · rw [detach_self]
      cases hparent : d.parent? with
      | none => rfl
      | some a => exact (hquiet a (mem_ancestors_of_parent? hparent)).symm
    · obtain ⟨x, hx, hparent, hmoved⟩ := (motion_detach c).parent? (self_mem_subtree c) hd
      rw [hparent, hmoved]
      exact ih hs hbelow hx
  | ancestor outer ih =>
    have hquiet := houters outer List.mem_cons_self
    have hbelow := fun o ho => houters o (List.mem_cons_of_mem _ ho)
    obtain ⟨between, hbetween, hancestors, hdetached⟩ := exists_ancestors_detach d h
    -- Above the element nothing is described, so only what comes along can count.
    have hnone : c.ancestors.any outer.holds = false :=
      List.any_eq_false.mpr fun a ha => by simp [hquiet a ha]
    rw [holds, hdetached, holds, hancestors, List.any_append, hnone, Bool.or_false]
    exact any_map_of_eq fun a ha => ih hs hbelow (hbetween a ha)
  | previous sibling ih => cases hs
  | preceding sibling ih => cases hs

theorem accepts_detach {s : Selector} (hs : s.isVertical = true)
    (houters : ∀ outer ∈ s.outers, ∀ a ∈ c.ancestors, outer.holds a = false) (h : d ∈ c.subtree) :
    s.accepts (c.detach d) = s.accepts d := by
  rw [accepts, holds_detach hs houters h, accepts]
  rfl

theorem closest?_detach {s : Selector} (hs : s.isVertical = true)
    (houters : ∀ outer ∈ s.outers, ∀ a ∈ c.ancestors, outer.holds a = false)
    (hself : ∀ a ∈ c.ancestors, s.holds a = false) (h : d ∈ c.subtree) :
    s.closest? (c.detach d) = (s.closest? d).map c.detach ∧
      ∀ e, s.closest? d = some e → e ∈ c.subtree := by
  obtain ⟨between, hbetween, hancestors, hdetached⟩ := exists_ancestors_detach d h
  have hinside : ∀ a ∈ d :: between, a ∈ c.subtree := List.forall_mem_cons.mpr ⟨h, hbetween⟩
  have hnone : c.ancestors.find? s.accepts = none :=
    List.find?_eq_none.mpr fun a ha => by simp [accepts, hself a ha]
  -- The search ends below the element, or nowhere.
  have hclosest : s.closest? d = (d :: between).find? s.accepts := by
    rw [closest?, hancestors, ← List.cons_append, List.find?_append, hnone, Option.or_none]
  constructor
  · rw [hclosest, closest?, hdetached, ← List.map_cons]
    exact find?_map_of_eq fun a ha => accepts_detach hs houters (hinside a ha)
  · intro e he
    rw [hclosest] at he
    exact hinside e (List.mem_of_find?_eq_some he)

theorem selectOne?_detach {s : Selector} (hs : s.isVertical = true)
    (houters : ∀ outer ∈ s.outers, ∀ a ∈ c.ancestors, outer.holds a = false) (h : d ∈ c.subtree) :
    s.selectOne? (c.detach d) = (s.selectOne? d).map c.detach := by
  rw [selectOne?, (motion_detach c).descendants h]
  exact find?_map_of_eq fun e he =>
    accepts_detach hs houters ((motion_detach c).of_mem_descendants h he)

/-! ## Written selectors -/

/-- A node is no part of what a written selector asks for: neither as described, nor as one of the
outer nodes. -/
def disregards (text : String) (a : Cursor) : Bool :=
  match parse text with
  | .ok s => (s :: s.outers).all fun part => !part.holds a
  | .error _ => true

theorem holds_of_disregards {text : String} {s : Selector} (hparse : parse text = .ok s)
    (h : ∀ a ∈ c.ancestors, disregards text a = true) :
    (∀ a ∈ c.ancestors, s.holds a = false) ∧
      ∀ outer ∈ s.outers, ∀ a ∈ c.ancestors, outer.holds a = false := by
  have hparts : ∀ part ∈ s :: s.outers, ∀ a ∈ c.ancestors, part.holds a = false := by
    intro part hpart a ha
    have hall := h a ha
    rw [disregards, hparse] at hall
    simpa using List.all_eq_true.mp hall part hpart
  exact ⟨hparts s List.mem_cons_self, fun outer ho => hparts outer (List.mem_cons_of_mem _ ho)⟩

theorem closestText?_detach {text : String} (hs : isVerticalText text = true)
    (hquiet : ∀ a ∈ c.ancestors, disregards text a = true) (h : d ∈ c.subtree) :
    MovesTo (· ∈ c.subtree) c.detach (d.closestText? text) ((c.detach d).closestText? text) := by
  have hclosest : ∀ s, parse text = .ok s →
      s.closest? (c.detach d) = (s.closest? d).map c.detach ∧
        ∀ e, s.closest? d = some e → e ∈ c.subtree := by
    intro s hparse
    obtain ⟨hself, houters⟩ := holds_of_disregards hparse hquiet
    exact closest?_detach (isVertical_of_parse hs hparse) houters hself h
  exact MovesTo.searchText? rfl (fun s hparse => (hclosest s hparse).1)
    fun s hparse => (hclosest s hparse).2

/-- Below a node only the outer nodes of the selector matter. -/
theorem selectOneText?_detach {text : String} (hs : isVerticalText text = true)
    (houters : ∀ s, parse text = .ok s → ∀ outer ∈ s.outers, ∀ a ∈ c.ancestors,
      outer.holds a = false) (h : d ∈ c.subtree) :
    MovesTo (· ∈ c.subtree) c.detach (d.selectOneText? text)
      ((c.detach d).selectOneText? text) := by
  apply MovesTo.searchText? rfl
  · intro s hparse
    exact selectOne?_detach (isVertical_of_parse hs hparse) (houters s hparse) h
  · exact fun s _ e he => (motion_detach c).of_mem_descendants h (List.mem_of_find?_eq_some he)

/-- The text is a selector that looks at the node alone. -/
def isFlatText (text : String) : Bool :=
  match parse text with
  | .ok s => s.isVertical && s.outers.isEmpty
  | .error _ => false

theorem findText?_detach {text : String} (hs : isFlatText text = true) (h : d ∈ c.subtree) :
    MovesTo (· ∈ c.subtree) c.detach (d.findText? text) ((c.detach d).findText? text) := by
  have hvertical : isVerticalText text = true ∧ ∀ s, parse text = .ok s → s.outers = [] := by
    unfold isFlatText at hs
    cases hparse : parse text with
    | ok s =>
      simp only [hparse, Bool.and_eq_true, List.isEmpty_iff] at hs
      refine ⟨by simp [isVerticalText, hparse, hs.1], fun other hother => ?_⟩
      obtain rfl := Except.ok.inj hother
      exact hs.2
    | error fault => simp [hparse] at hs
  refine .findText? rfl (selectOneText?_detach hvertical.1 (fun s hparse outer ho => ?_) h)
  rw [hvertical.2 s hparse] at ho
  cases ho

end Selector

/-! ## Adapters -/

namespace Adapter

variable {a : Adapter}

theorem isFlatText_of_mem_sourceSelectors (ha : a ∈ builtinAdapters) :
    ∀ text ∈ a.sourceSelectors, Selector.isFlatText text = true := by
  cases isBuiltinAdapter_of_mem ha <;> decide

/-- A built-in adapter recovers a formula alike in a detached element. -/
theorem recoversAlike_detach (ha : a ∈ builtinAdapters) (h : d ∈ c.subtree) :
    a.RecoversAlike d (c.detach d) := by
  have hoverrides := overrides_of_mem_builtin ha
  cases helement : d.node.isElement with
  | false =>
    have hnone : ∀ e : Cursor, e.node.isElement = false → a.extractLatex e = ⟨.ok none, []⟩ := by
      intro e he
      simp only [extractLatex, hoverrides, he]
      rfl
    have hmoved := hnone (c.detach d) helement
    exact ⟨by rw [hmoved, hnone d helement], by rw [hmoved, hnone d helement]⟩
  | true =>
    obtain ⟨isBlock, hblock⟩ := isBlockMath_ok ha helement
    obtain ⟨other, hother⟩ := @isBlockMath_ok a (c.detach d) ha helement
    have hsees : a.SeesAlike d (c.detach d) := {
      node := rfl
      display := by rw [hother, hblock]; rfl
      source := fun text htext => content_moves (motion_detach c)
        (Selector.findText?_detach (isFlatText_of_mem_sourceSelectors ha text htext) h)
      formula := (motion_detach c).node_find? h ["math"] }
    exact hsees.recovers hoverrides

/-- The selectors by which an adapter looks around in code. -/
def codeLookups (a : Adapter) : List String :=
  a.profile.codeWrapperSelectors ++
    a.profile.codeLabelSelectors.flatMap fun (container, label) => [container, label]

/-- The language of code is found alike in a detached element, as long as nothing above the element
is a part of what the adapter looks for. -/
theorem codeLanguage_detach (ha : a.IsLocal)
    (hquiet : ∀ x ∈ c.ancestors, ∀ text ∈ a.codeLookups, Selector.disregards text x = true)
    (h : d ∈ c.subtree) : a.codeLanguage (c.detach d) = a.codeLanguage d := by
  have hpair : ∀ pair ∈ a.profile.codeLabelSelectors,
      pair.1 ∈ a.codeLookups ∧ pair.2 ∈ a.codeLookups := fun pair hpair =>
    ⟨List.mem_append_right _ (List.mem_flatMap.mpr ⟨pair, hpair, by simp⟩),
      List.mem_append_right _ (List.mem_flatMap.mpr ⟨pair, hpair, by simp⟩)⟩
  refine codeLanguage_move (motion_detach c).likeness ha.overrides h
    (fun text htext => ?_) (fun pair hlabel => ?_) fun pair hlabel e he => ?_
  · exact Selector.closestText?_detach (ha.codeWrapper htext)
      (fun x hx => hquiet x hx text (List.mem_append_left _ htext)) h
  · exact Selector.closestText?_detach (ha.codeLabel hlabel).1
      (fun x hx => hquiet x hx pair.1 (hpair pair hlabel).1) h
  · refine Selector.selectOneText?_detach (ha.codeLabel hlabel).2 (fun s hparse => ?_) he
    exact (Selector.holds_of_disregards hparse
      fun x hx => hquiet x hx pair.2 (hpair pair hlabel).2).2

end Adapter

end Transcript
