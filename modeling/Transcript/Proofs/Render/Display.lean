import Transcript.Proofs.Platform.Script
import Transcript.Proofs.Render.Nesting

/-!
# Display formulas

Whether a formula stands on its own is decided twice. The rules look at the classes of the element
alone. The adapter looks at its own display classes, on the element and above it, and the one for
Gemini also looks inside; besides, an environment in a placeholder makes a display. Above a formula
that the rules render nothing counts, since no marked element stands there. What is left are three
ways in which the two may differ.

## Main results

- `isBlockMath_iff`: what the adapter says of an element outside of formulas
- `outcome_formula`: what a rule for formulas renders
- `formula_display`: when a formula is rendered in the way that the adapter says
-/

namespace Transcript.Render

open Markup

variable {a : Adapter} {c : Cursor}

/-! ## The adapter's answer -/

/-- An element of a class of display formulas, as selectors see it, stands inside. -/
def HoldsDisplay (c : Cursor) : Prop :=
  ∃ d ∈ c.descendants, (Selector.hasClass "katex-display").accepts d = true

theorem parse_innerDisplay :
    Selector.parse ".katex-display" = .ok (.hasClass "katex-display") := by
  rfl

theorem findText?_innerDisplay (helement : c.node.isElement = true) :
    ∃ found, c.findText? ".katex-display" = .ok found ∧ (found.isSome = true ↔ HoldsDisplay c) := by
  refine ⟨_, Cursor.findText?_of_parse helement parse_innerDisplay, ?_⟩
  simp [Selector.selectOne?, HoldsDisplay]

/-- Only the adapter for Gemini has display classes of its own, and looks inside. -/
theorem gemini_or (ha : a ∈ builtinAdapters) :
    a = .gemini ∨ a ≠ .gemini ∧ a.profile.displayClasses = ["katex-display"] ∧
      a.profile.innerDisplay = none := by
  have hname : ∀ {b : Adapter}, b.name ≠ Adapter.gemini.name → b ≠ .gemini := fun h heq =>
    h (congrArg Adapter.name heq)
  cases isBuiltinAdapter_of_mem ha with
  | gemini => exact .inl rfl
  | _ => exact .inr ⟨hname (by decide), rfl, rfl⟩

theorem displayClasses_subset (ha : a ∈ builtinAdapters) :
    ∀ name ∈ a.profile.displayClasses, name ∈ mathClasses := by
  rcases gemini_or ha with rfl | ⟨-, hclasses, -⟩
  · decide
  · rw [hclasses]
    decide

/-- Outside of formulas, an adapter goes by the classes of the element itself. -/
theorem isMarkedDisplay_eq (ha : a ∈ builtinAdapters) (houtside : insideMath c = false) :
    a.isMarkedDisplay c = c.node.hasClass a.profile.displayClasses := by
  have habove : c.findAncestor? (fun x => x.node.hasClass a.profile.displayClasses) = none := by
    rw [Cursor.findAncestor?, List.find?_eq_none]
    intro x hx hclass
    have hmath := Node.hasClass_mono (displayClasses_subset ha) hclass
    rw [insideMath_of_mem hx (isMathMarker_of_hasClass hmath)] at houtside
    cases houtside
  rw [Adapter.isMarkedDisplay, habove, Option.isSome_none, Bool.or_false]

theorem isMarkedDisplay_iff (ha : a ∈ builtinAdapters) (houtside : insideMath c = false) :
    a.isMarkedDisplay c = true ↔
      c.node.hasClass ["katex-display"] = true ∨
        a = .gemini ∧ c.node.hasClass ["math-block"] = true := by
  rw [isMarkedDisplay_eq ha houtside]
  rcases gemini_or ha with rfl | ⟨hother, hclasses, -⟩
  · show c.node.hasClass ["math-block", "katex-display"] = true ↔ _
    simp [Node.hasClass, or_comm]
  · simp [hclasses, hother]

/-- A mark makes a display, and so does, for Gemini, a display inside. -/
theorem exists_isBlockMath_eq (ha : a ∈ builtinAdapters) (helement : c.node.isElement = true) :
    ∃ inner, a.isBlockMath c = .ok (a.isMarkedDisplay c || inner) ∧
      (inner = true ↔ a = .gemini ∧ HoldsDisplay c) := by
  simp only [Adapter.isBlockMath, overrides_of_mem_builtin ha]
  rcases gemini_or ha with rfl | ⟨hother, -, hinner⟩
  · obtain ⟨found, hfound, hholds⟩ := findText?_innerDisplay helement
    have hinner : Adapter.gemini.profile.innerDisplay = some ".katex-display" := rfl
    refine ⟨found.isSome, ?_, by simpa using hholds⟩
    simp only [hinner, hfound]
    cases Adapter.gemini.isMarkedDisplay c <;> rfl
  · refine ⟨false, ?_, by simp [hother]⟩
    rw [hinner]
    cases a.isMarkedDisplay c <;> rfl

/-- What a built-in adapter says of an element outside of formulas. -/
theorem isBlockMath_iff (ha : a ∈ builtinAdapters) (helement : c.node.isElement = true)
    (houtside : insideMath c = false) {isBlock : Bool} (h : a.isBlockMath c = .ok isBlock) :
    isBlock = true ↔
      c.node.hasClass ["katex-display"] = true ∨
        a = .gemini ∧ (c.node.hasClass ["math-block"] = true ∨ HoldsDisplay c) := by
  obtain ⟨inner, heq, hinner⟩ := exists_isBlockMath_eq ha helement
  obtain rfl := Except.ok.inj (heq.symm.trans h)
  rw [Bool.or_eq_true, isMarkedDisplay_iff ha houtside, hinner, and_or_left, or_assoc]

/-! ## What is rendered -/

/-- A candidate that is taken is offered by a strategy, and accepted. -/
theorem exists_offer (ha : a ∈ builtinAdapters) {result : LatexResult}
    (hresult : (a.extractLatex c).outcome = .ok (some result)) (hsource : result.isMarkup = false) :
    ∃ source, a.Offers c source result ∧ a.validateLatex result.latex = .ok true := by
  have hoverrides := overrides_of_mem_builtin ha
  have hkeeps := Adapter.keepsChain_of_overrides hoverrides
  cases helement : c.node.isElement with
  | false => simp [Adapter.extractLatex, hoverrides, helement] at hresult
  | true =>
    rcases Adapter.exists_first_or (Adapter.checks_of_overrides hoverrides) c Adapter.chain with
      ⟨before, source, behind, found, horder, hbefore, hoffer, haccepted⟩ | hpassed
    · have hfound : a.FoundBy c before source behind found :=
        ⟨horder, hbefore, hoffer, haccepted⟩
      rw [hfound.extractLatex_eq hkeeps helement] at hresult
      obtain rfl : found = result := Option.some.inj (Except.ok.inj hresult)
      exact ⟨source, Adapter.offers_of_strategy hoverrides hoffer, haccepted⟩
    -- What is kept when all strategies pass over the element is markup.
    · obtain ⟨kept, reports, hfallback, hkept, -⟩ :=
        Adapter.exists_kept hkeeps (Adapter.isBlockMath_ok ha helement)
      rw [Adapter.extractLatex_of_passesOver hkeeps helement hpassed, hfallback] at hresult
      obtain rfl : kept = result := Option.some.inj (Except.ok.inj hresult)
      simp [LatexResult.isMarkup, hkept.source_eq] at hsource

/-- A formula with a source is put between the marks of its rule. -/
theorem outcome_formula {wrap : String → String} {scene : Scene} {content : String}
    {ask : Option Cursor → String} {result : LatexResult}
    (hresult : (scene.adapter.extractLatex scene.node).outcome = .ok (some result))
    (hsource : result.isMarkup = false) (hlatex : result.latex ≠ "") :
    (formula wrap scene content).outcome ask = .ok (wrap result.latex) := by
  unfold formula
  rw [Rendering.outcome_bind, Scene.extractLatex, Rendering.outcome_ofTraced, hresult]
  simp [hlatex, hsource]

/-! ## The rules and the adapter -/

/-- What the recovery of a formula from a source says of it. -/
theorem isBlock_iff (ha : a ∈ builtinAdapters) {result : LatexResult}
    (hresult : (a.extractLatex c).outcome = .ok (some result)) (hsource : result.isMarkup = false)
    (hformula : IsFormula c) :
    result.isBlock = true ↔
      Adapter.holdsEnvironment result = true ∨ c.node.hasClass ["katex-display"] = true ∨
        a = .gemini ∧ (c.node.hasClass ["math-block"] = true ∨ HoldsDisplay c) := by
  obtain ⟨hclass, houtside⟩ := isFormula_iff.mp hformula
  obtain ⟨source, hoffers, -⟩ := exists_offer ha hresult hsource
  cases hoffers with
  | environment _ henvironment hblock => simp [henvironment, hblock]
  | asked _ hplain hblock =>
    rw [isBlockMath_iff ha (Cursor.isElement_of_hasClass hclass) houtside hblock]
    simp [hplain]

theorem hasClass_displayMathClasses (node : Node) :
    node.hasClass displayMathClasses =
      (node.hasClass ["katex-display"] || node.hasClass ["math-block"]) := by
  simp [Node.hasClass, displayMathClasses]

/-- A formula with a source is rendered as its rule says. The adapter says otherwise of a display
exactly if it is not the one for Gemini, the element is a display only by the class `math-block`,
and the source is no placeholder with an environment; of an inline formula exactly if the source is
such a placeholder, or the adapter is the one for Gemini and a display stands inside. -/
theorem formula_display (ha : a ∈ builtinAdapters) {rule : Rule}
    (hfind : RuleTable.standard.find c = .ok (some rule))
    (hname : rule.name = "math-block" ∨ rule.name = "math-inline") {result : LatexResult}
    (hresult : (a.extractLatex c).outcome = .ok (some result)) (hsource : result.isMarkup = false) :
    (∀ depth options content ask,
        (rule.replacement ⟨c, depth, a, options⟩ content).outcome ask =
          .ok (if rule.name = "math-block" then displayMath result.latex
            else inlineMath result.latex)) ∧
      (rule.name = "math-block" →
        (result.isBlock = false ↔
          a ≠ .gemini ∧ c.node.hasClass ["katex-display"] = false ∧
            Adapter.holdsEnvironment result = false)) ∧
      (rule.name = "math-inline" →
        (result.isBlock = true ↔
          Adapter.holdsEnvironment result = true ∨ a = .gemini ∧ HoldsDisplay c)) := by
  obtain ⟨source, -, haccepted⟩ := exists_offer ha hresult hsource
  have hlatex : result.latex ≠ "" := Adapter.latex_ne_empty ha haccepted
  have hformula : IsFormula c := by
    rcases hname with hname | hname
    · exact .inl ⟨rule, hfind, hname⟩
    · exact .inr ⟨rule, hfind, hname⟩
  have hblock := isBlock_iff ha hresult hsource hformula
  rcases hname with hname | hname
  · obtain ⟨rfl, hdisplay⟩ := eq_displayRule_of_find hfind hname
    have hclass : c.node.hasClass ["katex-display"] = true ∨
        c.node.hasClass ["math-block"] = true := by
      simp only [isDisplayMath, hasClass_displayMathClasses, Bool.and_eq_true,
        Bool.or_eq_true] at hdisplay
      exact hdisplay.1
    refine ⟨fun depth options content ask => ?_, fun _ => ?_,
      fun hinline => absurd hinline (by decide)⟩
    · exact outcome_formula hresult hsource hlatex
    · rw [← Bool.not_eq_true, hblock, ← Bool.not_eq_true, ← Bool.not_eq_true]
      constructor
      · intro hnone
        have hother : a ≠ .gemini := fun heq =>
          hnone (.inr (hclass.imp_right fun hmathBlock => ⟨heq, .inl hmathBlock⟩))
        exact ⟨hother, fun hkatex => hnone (.inr (.inl hkatex)), fun hheld => hnone (.inl hheld)⟩
      · rintro ⟨hother, hkatex, hplain⟩ (hheld | hmarked | ⟨heq, -⟩)
        · exact hplain hheld
        · exact hkatex hmarked
        · exact hother heq
  · obtain ⟨rfl, hinline⟩ := eq_inlineRule_of_find hfind hname
    -- An inline formula carries none of the classes that make a display.
    have hclass : c.node.hasClass ["katex-display"] = false ∧
        c.node.hasClass ["math-block"] = false := by
      simp only [isInlineMath, hasClass_displayMathClasses, Bool.and_eq_true, Bool.not_eq_true',
        Bool.or_eq_false_iff] at hinline
      exact hinline.1.1
    refine ⟨fun depth options content ask => ?_,
      fun hblock => absurd hblock (by decide), fun _ => ?_⟩
    · exact outcome_formula hresult hsource hlatex
    · rw [hblock, hclass.1, hclass.2]
      simp

/-- A display formula with its source in an annotation. -/
def annotatedDisplay : Cursor :=
  .root 0 (.element "span" [⟨"class", .words ["katex-display"]⟩]
    [.element "annotation" [⟨"encoding", .text "application/x-tex"⟩] [.leaf .plain "E=mc^2"]])

theorem formula_display_annotated :
    Adapter.chatGPT ∈ builtinAdapters ∧
      RuleTable.standard.find annotatedDisplay = .ok (some displayRule) ∧
      (Adapter.chatGPT.extractLatex annotatedDisplay).outcome =
        .ok (some ⟨"E=mc^2", true, .annotated⟩) ∧
      (mathBlock ⟨annotatedDisplay, 0, .chatGPT, {}⟩ "").outcome (fun _ => "") =
        .ok "$$\nE=mc^2\n$$\n\n" := by
  have ha : Adapter.chatGPT ∈ builtinAdapters := by simp [builtinAdapters]
  have hfind : RuleTable.standard.find annotatedDisplay = .ok (some displayRule) :=
    find_of_isDisplayMath (by decide)
  have hresult : (Adapter.chatGPT.extractLatex annotatedDisplay).outcome =
      .ok (some ⟨"E=mc^2", true, .annotated⟩) := by rfl
  refine ⟨ha, hfind, hresult, ?_⟩
  exact (formula_display ha hfind (.inl rfl) hresult rfl).1 0 {} "" _

/-- A display formula by its class only. -/
def plainBlock : Cursor :=
  .root 0 (.element "div" [⟨"class", .words ["math-block"]⟩] [.leaf .plain "x"])

/-- The rules make a display of it, and the adapter does not. -/
theorem inline_result_of_display_rule :
    Adapter.chatGPT ∈ builtinAdapters ∧ RenderedBy "math-block" plainBlock ∧
      ∃ result, (Adapter.chatGPT.extractLatex plainBlock).outcome = .ok (some result) ∧
        result.isMarkup = false ∧ result.isBlock = false := by
  refine ⟨by simp [builtinAdapters], ?_, ⟨"x", false, .text⟩, by rfl, rfl, rfl⟩
  exact ⟨displayRule, find_of_isDisplayMath (by decide), rfl⟩

end Transcript.Render
