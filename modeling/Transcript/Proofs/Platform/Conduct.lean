import Transcript.Platform.Builtin
import Transcript.Platform.Extraction
import Transcript.Platform.Language

/-!
# The conduct of adapters

The methods computed from a profile fail where a selector of the profile is none, or where something
other than an element is asked. None of these faults gives up a conversion, and nothing that an
adapter reports claims that a conversion was given up.

## Main definitions

- `Harmless`: a computation whose faults do not give up the conversion
- `Diagnostic.announcesAbort`: what a conversion reports when it is given up
- `builtinAdapters`, `IsBuiltinAdapter`: the built-in adapters, and one of them by cases

## Main results

- `Adapter.harmless_codeLanguage`, `Adapter.harmless_extractLatex`
- `Adapter.quiet_extractLatex`
- `isBuiltinAdapter_of_mem`: the cases of a built-in adapter
- `overrides_of_mem_builtin`: the built-in adapters replace no method
-/

namespace Transcript

open Markup

/-- A computation whose faults do not give up the conversion. -/
def Harmless {α : Type} (e : Except Fault α) : Prop :=
  ∀ fault, e = .error fault → fault.isAbort = false

/-- Whether a diagnostic tells that a conversion was given up. -/
def Diagnostic.announcesAbort : Diagnostic → Bool
  | .event e => e.name == "parse_aborted"
  | _ => false

namespace Harmless

variable {α β : Type}

theorem ok (value : α) : Harmless (.ok value : Except Fault α) := by
  intro fault h
  cases h

theorem error {fault : Fault} (h : fault.isAbort = false) :
    Harmless (.error fault : Except Fault α) := by
  intro other hother
  cases hother
  exact h

theorem ite {p : Prop} [Decidable p] {e f : Except Fault α} (he : Harmless e) (hf : Harmless f) :
    Harmless (if p then e else f) := by
  split
  · exact he
  · exact hf

theorem map {e : Except Fault α} (h : Harmless e) (f : α → β) : Harmless (e.map f) := by
  intro fault hfault
  cases e with
  | ok value => cases hfault
  | error other =>
    obtain rfl : other = fault := by simpa [Except.map] using hfault
    exact h other rfl

end Harmless

theorem Selector.harmless_parse (text : String) : Harmless (Selector.parse text) := by
  unfold Selector.parse
  split
  · exact .ok _
  · rename_i e _
    refine .error ?_
    cases e.flaw.isUnsupported <;> rfl

namespace Markup.Cursor

theorem harmless_searchText? (c : Cursor) (selector : String)
    (search : Selector → Cursor → Option Cursor) : Harmless (c.searchText? selector search) := by
  unfold searchText?
  split
  · exact (Selector.harmless_parse selector).map _
  · exact .ok none

theorem harmless_findText? (c : Cursor) (selector : String) : Harmless (c.findText? selector) := by
  unfold findText?
  split
  · exact harmless_searchText? c selector Selector.selectOne?
  · exact .error rfl

end Markup.Cursor

namespace Adapter

variable {a : Adapter}

/-! ## Code -/

theorem harmless_wrappersFrom (code : Cursor) (found : List Cursor) (selectors : List String) :
    Harmless (wrappersFrom code found selectors) := by
  induction selectors generalizing found with
  | nil => exact .ok found
  | cons selector rest ih =>
    unfold wrappersFrom
    split
    · rename_i fault hfault
      exact .error (Cursor.harmless_searchText? code selector Selector.closest? fault hfault)
    · exact ih found
    · split
      · exact ih found
      · exact ih _

theorem harmless_labelLanguage (code : Cursor) (selectors : List (String × String)) :
    Harmless (labelLanguage code selectors) := by
  induction selectors with
  | nil => exact .ok ""
  | cons pair rest ih =>
    obtain ⟨container, label⟩ := pair
    unfold labelLanguage
    split
    · rename_i fault hfault
      exact .error (Cursor.harmless_searchText? code container Selector.closest? fault hfault)
    · exact ih
    · rename_i found _
      split
      · rename_i fault hfault
        exact .error (Cursor.harmless_searchText? found label Selector.selectOne? fault hfault)
      · -- Whatever the label says, it names a language or leaves the search to go on.
        exact Harmless.ite ih (Harmless.ok _)

/-- Finding the language of code does not give up the conversion. -/
theorem harmless_codeLanguage (h : a.overrides = {}) (code : Cursor) :
    Harmless (a.codeLanguage code) := by
  have hwrappers : Harmless (a.codeWrappers code) := by
    simp only [codeWrappers, h]
    exact harmless_wrappersFrom code [] _
  simp only [codeLanguage, h]
  split
  · rename_i fault hfault
    exact .error (hwrappers fault hfault)
  · split
    · exact .error rfl
    · split
      · exact harmless_labelLanguage code _
      · exact .ok _

/-! ## Formulas -/

theorem harmless_isBlockMath (h : a.overrides = {}) (c : Cursor) : Harmless (a.isBlockMath c) := by
  simp only [isBlockMath, h]
  split
  · exact .ok true
  · split
    · exact .ok false
    · exact (Cursor.harmless_findText? c _).map _

/-- Strategies that fail are passed over, so the search itself never fails. -/
theorem harmless_firstAcceptable (h : a.overrides = {}) (c : Cursor)
    (strategies : List (LatexSource × LatexStrategy)) :
    Harmless (a.firstAcceptable c strategies).outcome := by
  induction strategies with
  | nil => exact .ok none
  | cons pair rest ih =>
    obtain ⟨source, strategy⟩ := pair
    unfold firstAcceptable
    -- A strategy that fails or finds nothing is passed over; what is found has to be accepted.
    split
    · exact ih
    · exact ih
    · simp only [validateLatex, h]
      split
      · rename_i hfault
        cases hfault
      · exact .ok _
      · exact ih

/-- Recovering a formula does not give up the conversion. -/
theorem harmless_extractLatex (h : a.overrides = {}) (c : Cursor) :
    Harmless (a.extractLatex c).outcome := by
  simp only [extractLatex, strategies, h]
  split
  · split
    · simp only [Traced.after, markupFallback, h]
      exact ((harmless_isBlockMath h c).map _).map _
    · exact harmless_firstAcceptable h c _
  · exact .ok none

theorem quiet_firstAcceptable (h : a.overrides = {}) (c : Cursor)
    (strategies : List (LatexSource × LatexStrategy)) :
    ∀ d ∈ (a.firstAcceptable c strategies).trace, d.announcesAbort = false := by
  induction strategies with
  | nil => simp [firstAcceptable]
  | cons pair rest ih =>
    obtain ⟨source, strategy⟩ := pair
    unfold firstAcceptable
    split
    · rename_i fault _
      intro d hd
      -- A strategy that failed is reported by an event of its own name.
      rcases List.mem_cons.mp hd with rfl | hrest
      · rfl
      · exact ih d hrest
    · exact ih
    · simp only [validateLatex, h]
      split
      · simp
      · simp
      · exact ih

theorem quiet_keptMarkup (node : Node) :
    ∀ d ∈ (a.keptMarkup node).2.2, d.announcesAbort = false := by
  intro d hd
  simp only [keptMarkup] at hd
  cases hmark : Formula.findInjection? node.markup with
  | none => simp [hmark] at hd
  | some mark =>
    simp only [hmark, List.mem_singleton] at hd
    subst hd
    rfl

theorem quiet_markupFallback (h : a.overrides = {}) (c : Cursor) :
    ∀ d ∈ (a.markupFallback c).trace, d.announcesAbort = false := by
  intro d hd
  simp only [markupFallback, h, List.mem_append, List.mem_singleton] at hd
  rcases hd with hreport | rfl
  · exact quiet_keptMarkup c.node d hreport
  · simp [Diagnostic.announcesAbort, Event.latexFallback]

/-- Nothing that is reported while a formula is recovered tells of a conversion given up. -/
theorem quiet_extractLatex (h : a.overrides = {}) (c : Cursor) :
    ∀ d ∈ (a.extractLatex c).trace, d.announcesAbort = false := by
  simp only [extractLatex, strategies, h]
  split
  · split
    · intro d hd
      rcases List.mem_append.mp hd with hfound | hkept
      · exact quiet_firstAcceptable h c _ d hfound
      · exact quiet_markupFallback h c d hkept
    · exact quiet_firstAcceptable h c _
  · simp

end Adapter

/-- The adapters of the known platforms, and of unknown ones. -/
def builtinAdapters : List Adapter :=
  [.generic, .chatGPT, .claude, .deepseek, .gemini]

/-- One of these adapters, by cases. -/
inductive IsBuiltinAdapter : Adapter → Prop where
  | generic : IsBuiltinAdapter .generic
  | chatGPT : IsBuiltinAdapter .chatGPT
  | claude : IsBuiltinAdapter .claude
  | deepseek : IsBuiltinAdapter .deepseek
  | gemini : IsBuiltinAdapter .gemini

theorem isBuiltinAdapter_of_mem {a : Adapter} (h : a ∈ builtinAdapters) : IsBuiltinAdapter a := by
  simp only [builtinAdapters, List.mem_cons, List.not_mem_nil, or_false] at h
  rcases h with rfl | rfl | rfl | rfl | rfl <;> constructor

/-- The built-in adapters differ in data only. -/
theorem overrides_of_mem_builtin {a : Adapter} (h : a ∈ builtinAdapters) : a.overrides = {} := by
  cases isBuiltinAdapter_of_mem h <;> rfl

end Transcript
