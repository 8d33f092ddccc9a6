import Transcript.Proofs.Formula.Escape
import Transcript.Proofs.Platform.Chain
import Transcript.Proofs.Platform.Conduct

/-!
# Script in recovered formulas

There are three ways out of the recovery of a formula. A candidate has been checked, and markup is
kept only if no mark of injected script is found in it. The text that is kept in place of such markup
is escaped but not looked at again: it starts no script element, but carries the other marks wherever
the text of the formula does.

## Main results

- `Adapter.offers_of_strategy`: what candidates are, so that they are told from what is kept
- `Adapter.extractLatex_script`: which marks a recovered formula carries
-/

namespace Transcript.Adapter

open Markup Formula

variable {a : Adapter} {c : Cursor}

/-! ## Built-in adapters -/

theorem keepsChain_of_overrides (h : a.overrides = {}) : a.KeepsChain := by
  constructor <;> rw [h]

theorem checks_of_overrides (h : a.overrides = {}) (latex : String) :
    ∃ accepted, a.validateLatex latex = .ok accepted := by
  simp [validateLatex, h]

theorem findText?_ok {selector : String} (hselector : (Selector.parse selector).isOk = true)
    (helement : c.node.isElement = true) : ∃ found, c.findText? selector = .ok found := by
  cases hparse : Selector.parse selector with
  | error fault => simp [hparse, Except.isOk, Except.toBool] at hselector
  | ok parsed => exact ⟨_, Cursor.findText?_of_parse helement hparse⟩

/-- What a built-in adapter looks for inside a formula is written as a selector. -/
theorem parses_innerDisplay (ha : a ∈ builtinAdapters) {selector : String}
    (h : a.profile.innerDisplay = some selector) : (Selector.parse selector).isOk = true := by
  cases isBuiltinAdapter_of_mem ha with
  | gemini =>
    obtain rfl : ".katex-display" = selector := by simpa [gemini] using h
    decide
  | _ => cases h

theorem isBlockMath_ok (ha : a ∈ builtinAdapters) (helement : c.node.isElement = true) :
    ∃ isBlock, a.isBlockMath c = .ok isBlock := by
  simp only [isBlockMath, overrides_of_mem_builtin ha]
  split
  · exact ⟨true, rfl⟩
  · split
    · exact ⟨false, rfl⟩
    · rename_i selector hselector
      obtain ⟨found, hfound⟩ := findText?_ok (parses_innerDisplay ha hselector) helement
      exact ⟨found.isSome, by rw [hfound]; rfl⟩

/-- A built-in adapter accepts no blank formula. -/
theorem latex_ne_empty (ha : a ∈ builtinAdapters) {latex : String}
    (h : a.validateLatex latex = .ok true) : latex ≠ "" := by
  have hoverride : a.overrides.validateLatex = none := by rw [overrides_of_mem_builtin ha]
  obtain ⟨hblank, -, -⟩ := (validateLatex_iff hoverride latex).mp h
  rintro rfl
  cases hblank

/-! ## Candidates -/

/-- The source is a placeholder with an environment in it. -/
def holdsEnvironment (result : LatexResult) : Bool :=
  result.source == .katexError && Text.contains "\\begin\x7b" result.latex

/-- What a strategy may offer: a formula of which the adapter was asked whether it is a display, or
a placeholder with an environment, which is one without asking. -/
inductive Offers (a : Adapter) (c : Cursor) (source : LatexSource) (result : LatexResult) : Prop where
  | asked (hsource : result.source = source) (hplain : holdsEnvironment result = false)
      (hblock : a.isBlockMath c = .ok result.isBlock)
  | environment (hsource : result.source = source) (henvironment : holdsEnvironment result = true)
      (hblock : result.isBlock = true)

theorem offers_of_candidate {source : LatexSource} {latex : String} {result : LatexResult}
    (hplain : source = .katexError → Text.contains "\\begin\x7b" latex = false)
    (h : a.candidate c source latex = .ok (some result)) : a.Offers c source result := by
  unfold candidate at h
  cases hblock : a.isBlockMath c with
  | error fault => simp [hblock, Except.map] at h
  | ok isBlock =>
    obtain rfl : ⟨latex, isBlock, source⟩ = result := by simpa [hblock, Except.map] using h
    refine .asked rfl ?_ hblock
    by_cases hsource : source = .katexError
    · simp [holdsEnvironment, hplain hsource]
    · simp [holdsEnvironment, hsource]

/-- A candidate carries the source of its strategy, and what the adapter says of it. -/
theorem offers_of_strategy (hoverrides : a.overrides = {}) {source : LatexSource}
    {result : LatexResult} (h : a.strategy source c = .ok (some result)) :
    a.Offers c source result := by
  simp only [strategy, hoverrides] at h
  cases source with
  | annotated =>
    simp only [fromAnnotated] at h
    split at h
    · cases h
    · cases h
    · split at h
      · cases h
      · exact offers_of_candidate (fun hsource => by cases hsource) h
  | attr =>
    simp only [fromAttribute] at h
    split at h
    · cases h
    · exact offers_of_candidate (fun hsource => by cases hsource) h
  | katexError =>
    simp only [fromKatexError] at h
    split at h
    · cases h
    · cases h
    · split at h
      · cases h
      -- An environment is offered without asking whether the formula is a display.
      · split at h
        · rename_i hbegin
          simp only [Except.ok.injEq, Option.some.injEq] at h
          subst h
          refine .environment rfl ?_ rfl
          simp [holdsEnvironment, hbegin]
        · rename_i hbegin
          exact offers_of_candidate (fun _ => Bool.eq_false_iff.mpr hbegin) h
  | mathMl =>
    simp only [fromMathMl] at h
    split at h
    · cases h
    · split at h
      · cases h
      · split at h
        · cases h
        · exact offers_of_candidate (fun hsource => by cases hsource) h
  | text =>
    simp only [fromText] at h
    split at h
    · cases h
    · split at h
      · cases h
      · exact offers_of_candidate (fun hsource => by cases hsource) h
  | markup => cases h

theorem source_of_strategy (hoverrides : a.overrides = {}) {source : LatexSource}
    {result : LatexResult} (h : a.strategy source c = .ok (some result)) :
    result.source = source := by
  cases offers_of_strategy hoverrides h with
  | asked hsource => exact hsource
  | environment hsource => exact hsource

/-! ## Marks in what is recovered -/

/-- An accepted candidate carries no mark. -/
theorem findInjection?_of_accepted (hoverrides : a.overrides = {}) {latex : String}
    (h : a.validateLatex latex = .ok true) : findInjection? latex = none :=
  ((validateLatex_iff (by rw [hoverrides]) latex).mp h).2.2

/-- A mark in what is kept of a node comes from its text, and the markup carries a mark too. -/
theorem Kept.findInjection?_eq {result : LatexResult} {reports : List Diagnostic}
    (h : a.Kept c result reports) (mark : String) :
    findInjection? result.latex = some mark ↔
      findInjection? c.node.markup ≠ none ∧ otherMark? c.node.flatText = some mark := by
  cases h with
  | asMarkup isBlock hclean => simp [hclean]
  | asEscapedText isBlock found hfound => simp [hfound, findInjection?_encode]

/-- A text without a mark starts no script element. -/
theorem findFolded?_of_findInjection? {s : String} (h : findInjection? s = none) :
    findFolded? "<script".toList s.toList = none := by
  simp only [findInjection?] at h
  cases hscript : findFolded? "<script".toList s.toList with
  | none => rfl
  | some found =>
    rw [hscript] at h
    simp at h

theorem Kept.starts_no_script {result : LatexResult} {reports : List Diagnostic}
    (h : a.Kept c result reports) :
    findFolded? "<script".toList result.latex.toList = none := by
  cases h with
  | asMarkup isBlock hclean => exact findFolded?_of_findInjection? hclean
  | asEscapedText isBlock found hfound =>
    rw [toList_encode]
    exact findFolded?_script_encode _

/-- What a built-in adapter recovers at an element never starts a script element. It carries the
scheme for script or an event handler in one case only: no candidate was acceptable, the markup of
the element carries a mark, and the text of the element carries this one. -/
theorem extractLatex_script (ha : a ∈ builtinAdapters) (helement : c.node.isElement = true) :
    ∃ result, (a.extractLatex c).outcome = .ok (some result) ∧
      findFolded? "<script".toList result.latex.toList = none ∧
      ∀ mark, findInjection? result.latex = some mark ↔
        result.isMarkup = true ∧ findInjection? c.node.markup ≠ none ∧
          otherMark? c.node.flatText = some mark := by
  have hoverrides := overrides_of_mem_builtin ha
  have hkeeps := keepsChain_of_overrides hoverrides
  rcases exists_first_or (checks_of_overrides hoverrides) c chain with
    ⟨before, source, behind, result, horder, hbefore, hoffer, haccepted⟩ | hpassed
  · have hfound : a.FoundBy c before source behind result := ⟨horder, hbefore, hoffer, haccepted⟩
    have hclean := findInjection?_of_accepted hoverrides haccepted
    -- None of the five sources is the markup.
    have hsource : result.source ≠ .markup := by
      have hchain : ∀ source ∈ chain, source ≠ .markup := by decide
      rw [source_of_strategy hoverrides hoffer]
      exact hchain source (by simp [horder])
    refine ⟨result, by rw [hfound.extractLatex_eq hkeeps helement],
      findFolded?_of_findInjection? hclean, fun mark => ?_⟩
    simp [hclean, LatexResult.isMarkup, hsource]
  · obtain ⟨result, reports, hfallback, hkept, -⟩ := exists_kept hkeeps (isBlockMath_ok ha helement)
    refine ⟨result, ?_, hkept.starts_no_script, fun mark => ?_⟩
    · rw [extractLatex_of_passesOver hkeeps helement hpassed, hfallback]
      rfl
    · simp [hkept.findInjection?_eq, LatexResult.isMarkup, hkept.source_eq]

/-- A formula whose text is a link to script. -/
def scriptLink : Cursor :=
  Cursor.root 0 (.element "span" [⟨"class", .words ["katex"]⟩] [.leaf .plain "javascript:alert(1)"])

/-- The text of a formula is refused as a candidate for the scheme in it, and is then kept with that
scheme. -/
theorem extractLatex_script_link :
    chatGPT ∈ builtinAdapters ∧ scriptLink.node.isElement = true ∧
      ∃ result, (chatGPT.extractLatex scriptLink).outcome = .ok (some result) ∧
        findInjection? result.latex = some "javascript:" := by
  have hmem : chatGPT ∈ builtinAdapters := by simp [builtinAdapters]
  refine ⟨hmem, rfl, ?_⟩
  obtain ⟨result, houtcome, -, hmarks⟩ := extractLatex_script hmem (c := scriptLink) rfl
  have hkept : (chatGPT.extractLatex scriptLink).outcome.toOption.join.map LatexResult.isMarkup =
      some true := by decide
  have hmarkup : findInjection? scriptLink.node.markup ≠ none := by decide +kernel
  have htext : otherMark? scriptLink.node.flatText = some "javascript:" := by decide
  rw [houtcome] at hkept
  have hresult : result.isMarkup = true := by simpa [Except.toOption] using hkept
  exact ⟨result, houtcome, (hmarks "javascript:").mpr ⟨hresult, hmarkup, htext⟩⟩

end Transcript.Adapter
