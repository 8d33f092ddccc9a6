import Transcript.Proofs.Markup.Ancestry
import Transcript.Proofs.Render.Standard
import Transcript.Proofs.Rule.Search

/-!
# Nested formulas

The two rules for formulas share one condition: the element carries a class of formulas, and no
element above it is marked as a formula. So a formula inside a formula is not rendered again. Marks
are more than classes, though: an element may be marked by an attribute alone. Such an element is
no formula itself, and hides the formulas below it.

## Main definitions

- `RenderedBy`, `IsFormula`: the nodes rendered by a rule, and those rendered by one of these two

## Main results

- `isFormula_iff`: the condition that both rules share
- `formulas_antichain`: formulas do not stand above each other
- `formula_covered_iff`: which formulas are rendered, by themselves or as part of another one
-/

namespace Transcript.Render

open Markup

variable {c d : Cursor} {rule : Rule}

/-! ## The rules for formulas -/

/-- The built-in rule of this name renders the node. -/
def RenderedBy (name : String) (c : Cursor) : Prop :=
  ∃ rule, RuleTable.standard.find c = .ok (some rule) ∧ rule.name = name

/-- One of the two rules for formulas renders the node. -/
def IsFormula (c : Cursor) : Prop :=
  RenderedBy "math-block" c ∨ RenderedBy "math-inline" c

theorem find_standard (c : Cursor) :
    RuleTable.standard.find c = RuleTable.findIn c standardRules := by
  rw [RuleTable.find, rules_standard]

theorem find_of_isDisplayMath (h : isDisplayMath c = true) :
    RuleTable.standard.find c = .ok (some displayRule) := by
  have haccepts : displayRule.filter.accepts c = .ok true := congrArg Except.ok h
  rw [find_standard]
  show RuleTable.findIn c (displayRule :: _) = _
  rw [RuleTable.findIn, haccepts]

theorem not_isDisplayMath_of_isInlineMath (h : isInlineMath c = true) :
    isDisplayMath c = false := by
  simp only [isInlineMath, Bool.and_eq_true, Bool.not_eq_true'] at h
  simp [isDisplayMath, h.1.1]

theorem find_of_isInlineMath (h : isInlineMath c = true) :
    RuleTable.standard.find c = .ok (some inlineRule) := by
  have hrefuses : displayRule.filter.accepts c = .ok false :=
    congrArg Except.ok (not_isDisplayMath_of_isInlineMath h)
  have haccepts : inlineRule.filter.accepts c = .ok true := congrArg Except.ok h
  rw [find_standard]
  show RuleTable.findIn c (displayRule :: inlineRule :: _) = _
  rw [RuleTable.findIn, hrefuses]
  show RuleTable.findIn c (inlineRule :: _) = _
  rw [RuleTable.findIn, haccepts]

/-- A rule found under the name of a built-in rule is that rule, and accepts the node. -/
theorem eq_of_find {wanted : Rule} (hwanted : wanted ∈ standardRules)
    (hfind : RuleTable.standard.find c = .ok (some rule)) (hname : rule.name = wanted.name) :
    rule = wanted ∧ wanted.filter.accepts c = .ok true := by
  rw [find_standard] at hfind
  obtain ⟨hmem, haccepts⟩ := RuleTable.accepts_of_findIn hfind
  obtain rfl := eq_of_name_eq hmem hwanted hname
  exact ⟨rfl, haccepts⟩

/-- With the built-in rules, the rule that renders a node is the rule of the node. -/
theorem ruleOf?_of_renderedBy {setting : Setting} (hrules : setting.rules.rules = standardRules)
    {name : String} (h : RenderedBy name c) :
    ∃ rule ∈ standardRules, rule.name = name ∧ setting.ruleOf? c = some rule ∧
      rule.filter.accepts c = .ok true := by
  obtain ⟨rule, hfind, hname⟩ := h
  rw [find_standard] at hfind
  obtain ⟨hmem, haccepts⟩ := RuleTable.accepts_of_findIn hfind
  refine ⟨rule, hmem, hname, ?_, haccepts⟩
  simp [Setting.ruleOf?, RuleTable.find, hrules, hfind]

theorem eq_displayRule_of_find (hfind : RuleTable.standard.find c = .ok (some rule))
    (hname : rule.name = "math-block") : rule = displayRule ∧ isDisplayMath c = true := by
  have hmem : displayRule ∈ standardRules := mem_standardRules_iff.mpr (.inl .display)
  exact (eq_of_find hmem hfind hname).imp_right Except.ok.inj

theorem eq_inlineRule_of_find (hfind : RuleTable.standard.find c = .ok (some rule))
    (hname : rule.name = "math-inline") : rule = inlineRule ∧ isInlineMath c = true := by
  have hmem : inlineRule ∈ standardRules := mem_standardRules_iff.mpr (.inl .inline)
  exact (eq_of_find hmem hfind hname).imp_right Except.ok.inj

theorem renderedBy_mathBlock_iff : RenderedBy "math-block" c ↔ isDisplayMath c = true := by
  constructor
  · rintro ⟨rule, hfind, hname⟩
    exact (eq_displayRule_of_find hfind hname).2
  · intro h
    exact ⟨displayRule, find_of_isDisplayMath h, rfl⟩

theorem renderedBy_mathInline_iff : RenderedBy "math-inline" c ↔ isInlineMath c = true := by
  constructor
  · rintro ⟨rule, hfind, hname⟩
    exact (eq_inlineRule_of_find hfind hname).2
  · intro h
    exact ⟨inlineRule, find_of_isInlineMath h, rfl⟩

/-- A class of formulas is one of display formulas or one of inline formulas. -/
theorem hasClass_mathClasses (node : Node) :
    node.hasClass mathClasses =
      (node.hasClass displayMathClasses || node.hasClass inlineMathClasses) := by
  simp only [Node.hasClass, mathClasses, displayMathClasses, inlineMathClasses, List.any_cons,
    List.any_nil, Bool.or_false]
  cases node.classes.contains "katex" <;> cases node.classes.contains "math-inline" <;> simp

/-- Both rules leave out what stands inside a formula, and outside of formulas every class of
formulas belongs to one of them. -/
theorem isFormula_iff :
    IsFormula c ↔ c.node.hasClass mathClasses = true ∧ insideMath c = false := by
  rw [IsFormula, renderedBy_mathBlock_iff, renderedBy_mathInline_iff, hasClass_mathClasses,
    isDisplayMath, isInlineMath]
  cases c.node.hasClass displayMathClasses <;> cases c.node.hasClass inlineMathClasses <;>
    cases insideMath c <;> simp

/-! ## Marked elements -/

theorem isMathMarker_of_hasClass (h : c.node.hasClass mathClasses = true) :
    isMathMarker c.node = true := by
  simp [isMathMarker, h]

theorem insideMath_eq_false_iff :
    insideMath c = false ↔ c.findAncestor? (fun a => isMathMarker a.node) = none := by
  simp [insideMath]

theorem insideMath_of_mem (h : d ∈ c.elementAncestors) (hmark : isMathMarker d.node = true) :
    insideMath c = true := by
  rw [insideMath, Cursor.findAncestor?, List.find?_isSome]
  exact ⟨d, h, hmark⟩

/-- What stands below a marked element is no formula. -/
theorem not_isFormula_of_mem (h : d ∈ c.elementAncestors) (hmark : isMathMarker d.node = true) :
    ¬IsFormula c := by
  intro hc
  have hinside := insideMath_of_mem h hmark
  rw [(isFormula_iff.mp hc).2] at hinside
  cases hinside

/-- A formula is the outermost marked element above whatever stands in it. -/
theorem outermost?_of_isFormula (h : d ∈ c.elementAncestors) (hd : IsFormula d) :
    c.outermost? (fun a => isMathMarker a.node) = some d := by
  obtain ⟨hclass, hinside⟩ := isFormula_iff.mp hd
  rw [Cursor.outermost?_eq_some_iff]
  exact ⟨h, isMathMarker_of_hasClass hclass, insideMath_eq_false_iff.mp hinside⟩

/-! ## Formulas above formulas -/

/-- No node satisfies the conditions of both rules for formulas, and of two nodes, one above the
other, at most one is rendered as a formula, unless the search for elements above the lower one ends
before it comes to the upper one, at a node that bears the name of documents. -/
theorem formulas_antichain :
    (∀ c : Cursor, ¬(isDisplayMath c = true ∧ isInlineMath c = true)) ∧
      ∀ c d : Cursor, d ∈ c.ancestors → IsFormula d → ¬IsFormula c ∨ c.BeyondDocument d := by
  refine ⟨?_, fun c d habove hd => ?_⟩
  · rintro c ⟨hdisplay, hinline⟩
    rw [not_isDisplayMath_of_isInlineMath hinline] at hdisplay
    cases hdisplay
  · rcases Cursor.mem_elementAncestors_or habove with hseen | hbeyond
    · left
      apply not_isFormula_of_mem hseen
      exact isMathMarker_of_hasClass (isFormula_iff.mp hd).1
    · exact .inr hbeyond

/-- An element of a class of formulas. -/
def katexSpan : Node :=
  .element "span" [⟨"class", .words ["katex"]⟩] [.leaf .plain "x"]

/-- An element of a class of display formulas around a node. -/
def displayAround (content : Node) : Node :=
  .element "span" [⟨"class", .words ["katex-display"]⟩] [content]

/-- A formula in a display formula. -/
def nestedKatex : Cursor :=
  ⟨0, katexSpan, [⟨displayAround katexSpan, 0⟩]⟩

/-- A display formula is rendered, and the formula in it is not rendered by itself. -/
theorem formulas_antichain_display :
    Cursor.root 0 (displayAround katexSpan) ∈ nestedKatex.ancestors ∧
      IsFormula (Cursor.root 0 (displayAround katexSpan)) ∧ ¬IsFormula nestedKatex := by
  have habove : Cursor.root 0 (displayAround katexSpan) ∈ nestedKatex.ancestors :=
    List.mem_singleton_self _
  have hformula : IsFormula (Cursor.root 0 (displayAround katexSpan)) :=
    isFormula_iff.mpr ⟨by decide, by decide⟩
  refine ⟨habove, hformula, ?_⟩
  rcases formulas_antichain.2 nestedKatex _ habove hformula with hinner | ⟨e, he, hname, -⟩
  · exact hinner
  -- The only node above is the display formula, which is no document.
  · obtain rfl : e = Cursor.root 0 (displayAround katexSpan) := List.mem_singleton.mp he
    exact absurd hname (by decide)

/-- A formula in an element that bears the name of documents. -/
def documentAround : Node :=
  .element documentName [] [katexSpan]

/-- The same inside a display formula. -/
def sealedKatex : Cursor :=
  ⟨0, katexSpan, [⟨documentAround, 0⟩, ⟨displayAround documentAround, 0⟩]⟩

/-- With an element between them that bears the name of documents, both of two nested formulas are
rendered. -/
theorem formulas_nested_around_document :
    sealedKatex ∈ (Cursor.root 0 (displayAround documentAround)).descendants ∧
      Cursor.root 0 (displayAround documentAround) ∈ sealedKatex.ancestors ∧
      IsFormula (Cursor.root 0 (displayAround documentAround)) ∧ IsFormula sealedKatex := by
  refine ⟨?_, ?_, ?_, ?_⟩
  · exact List.mem_cons_of_mem _ List.mem_cons_self
  · exact List.mem_cons_of_mem _ List.mem_cons_self
  · exact isFormula_iff.mpr ⟨by decide, by decide⟩
  · exact isFormula_iff.mpr ⟨by decide, by decide⟩

/-! ## Formulas that are left out -/

/-- Which formulas are rendered, by themselves or as part of one above them: those for which the
outermost marked element above, if there is one, carries a class of formulas. An outermost element
that is marked by its attribute alone is not rendered as a formula, and neither is anything below
it. -/
theorem formula_covered_iff (h : c.node.hasClass mathClasses = true) :
    (IsFormula c ∨ ∃ d ∈ c.elementAncestors, IsFormula d) ↔
      ∀ d, c.outermost? (fun a => isMathMarker a.node) = some d →
        d.node.hasClass mathClasses = true := by
  constructor
  · rintro hcovered d houtermost
    obtain ⟨hd, hmark, -⟩ := Cursor.outermost?_eq_some_iff.mp houtermost
    rcases hcovered with hc | ⟨e, he, hformula⟩
    · exact absurd hc (not_isFormula_of_mem hd hmark)
    -- The formula above is the outermost marked element.
    · have heq := outermost?_of_isFormula he hformula
      rw [houtermost] at heq
      obtain rfl : d = e := Option.some.inj heq
      exact (isFormula_iff.mp hformula).1
  · intro hmarked
    cases houtermost : c.outermost? (fun a => isMathMarker a.node) with
    | none =>
      left
      rw [Cursor.outermost?_eq_none_iff] at houtermost
      exact isFormula_iff.mpr ⟨h, insideMath_eq_false_iff.mpr houtermost⟩
    | some d =>
      right
      obtain ⟨hd, -, hnone⟩ := Cursor.outermost?_eq_some_iff.mp houtermost
      exact ⟨d, hd, isFormula_iff.mpr ⟨hmarked d houtermost, insideMath_eq_false_iff.mpr hnone⟩⟩

/-- An element that is marked as a formula by its attribute alone, around a node. -/
def attributeAround (content : Node) : Node :=
  .element "span" [⟨"data-math", .text "x"⟩] [content]

/-- A formula in such an element. -/
def hiddenKatex : Cursor :=
  ⟨0, katexSpan, [⟨attributeAround katexSpan, 0⟩]⟩

/-- A formula in an element that is marked by its attribute alone is left out. -/
theorem formula_covered_iff_attribute :
    hiddenKatex.node.hasClass mathClasses = true ∧
      ¬(IsFormula hiddenKatex ∨ ∃ d ∈ hiddenKatex.elementAncestors, IsFormula d) := by
  have hclass : hiddenKatex.node.hasClass mathClasses = true := by decide
  have houtermost : hiddenKatex.outermost? (fun a => isMathMarker a.node) =
      some (Cursor.root 0 (attributeAround katexSpan)) := by rfl
  refine ⟨hclass, fun hcovered => ?_⟩
  have hmarked := (formula_covered_iff hclass).mp hcovered _ houtermost
  exact absurd hmarked (by decide)

end Transcript.Render
