import Transcript.Proofs.Conversion.Tempered
import Transcript.Proofs.Render.Display
import Transcript.Proofs.Render.Outline

/-!
# Conversions of nested lists

The rule for lists renders nested lists to their outline. A conversion by the built-in rules
remembers the outline of each such list, as long as nothing was recovered from: a number with too
many digits makes a list fail, and the values of its children stand in. The rules for formulas and
for blocks of code come before the one for lists, so a list that one of them accepts has no outline.

## Main results

- `convertCounted_outline`: conversions render nested lists to their outlines
- `formulaList_not_outline`: a list that is a formula as well is not rendered to its outline
-/

namespace Transcript

open Markup Render

variable {c d item : Cursor}

/-! ## The rule for lists -/

theorem isList_of_accepts (h : listRule.filter.accepts c = .ok true) : isList c.node = true := by
  rw [isList_iff]
  simpa [or_comm] using (of_accepts_tags h).2

theorem ruleOf?_of_renderedBy_list {setting : Setting}
    (hrules : setting.rules.rules = standardRules) (h : RenderedBy "list" c) :
    setting.ruleOf? c = some listRule ∧ isList c.node = true := by
  have hmem : listRule ∈ standardRules := mem_standardRules_iff.mpr (.inr .list)
  obtain ⟨rule, hrule, hname, hfound, haccepts⟩ := ruleOf?_of_renderedBy hrules h
  obtain rfl := eq_of_name_eq hrule hmem hname
  exact ⟨hfound, isList_of_accepts haccepts⟩

theorem plainText_of_leaf (setting : Setting) (base : Nat) :
    ∀ d, d.node.isElement = false → plainText setting base d = d.node.textContent :=
  fun _ hleaf => (plain_of_leaf setting base hleaf).1

/-- A list asks for what stands in its items, and gets the values. -/
theorem answered_plainAnswer (setting : Setting) (base : Nat) (hitem : item ∈ listItems c)
    (hd : d ∈ item.children) :
    Answered (plainAnswer setting base c) (plainText setting base) d := by
  refine ⟨plainText_of_leaf setting base d, fun _ => plainAnswer_of_mem ?_⟩
  exact Cursor.mem_descendants_of_subtree_child (mem_listItems hitem).1
    (Cursor.mem_subtree_of_mem_children hd)

/-! ## Nested lists in a conversion -/

/-- A conversion by the built-in rules that is not given up and records no issue renders nested
lists to their outline, as long as the rule for lists renders each of them. -/
theorem convertCounted_outline {setting : Setting} {root : Cursor} {result : Conversion}
    (hrules : setting.rules.rules = RuleTable.standard.rules)
    (hresult : convertCounted setting (some root) = .ok result)
    (hdone : result.abortReason = none) (hissues : result.issues = [])
    (hc : c ∈ root.subtree)
    (houtline : IsOutline (RenderedBy "list") (plainText setting root.above.length) c) :
    ∃ s, traverse setting (some root) (Session.start setting (some root)) =
        (.ok result.markdown, s) ∧
      (∀ d ∈ root.subtree,
        s.textAt? (some d.place) = some (plainText setting root.above.length d)) ∧
      s.textAt? (some c.place) = some (outline (plainText setting root.above.length) c) ∧
      (∀ line ∈ outlineLines (plainText setting root.above.length) c, '\n' ∉ line.toList) ∧
      (c = root → setting.adapter.cleanText (outline (plainText setting root.above.length) c) =
        .ok result.markdown) := by
  rw [rules_standard] at hrules
  obtain ⟨s, htraverse, hclean, htexts, houtcome⟩ := converted_of_builtin hrules hresult hdone
  have hsub : ∀ {d}, d ∈ c.subtree → d ∈ root.subtree := fun hd => Cursor.mem_subtree_trans hc hd
  -- Nothing was recovered from, so the value of each list is what the rule for lists made of it.
  have hlists : ∀ d ∈ c.subtree, RenderedBy "list" d → isList d.node = true ∧
      plainText setting root.above.length d =
        listText (plainText setting root.above.length) d := by
    intro d hd hrendered
    obtain ⟨hrule, hlist⟩ := ruleOf?_of_renderedBy_list hrules hrendered
    have htext := houtcome hissues d (hsub hd) (isElement_of_isList hlist) listRule hrule
    have hyields := yields_listText (setting.sceneAt root.above.length d)
      (plainContent setting root.above.length d) (isElement_of_isList hlist)
      fun item hitem e he => answered_plainAnswer setting root.above.length hitem he
    exact ⟨hlist, hyields _ htext⟩
  have hvalue := houtline.value_eq hlists fun d _ =>
    plainText_of_leaf setting root.above.length d
  refine ⟨s, htraverse, htexts, ?_, fun line hline => (houtline.lines line hline).2, ?_⟩
  · rw [htexts c hc, hvalue]
  · rintro rfl
    rw [← hvalue]
    exact hclean

/-- A numbered list. -/
def numberedList : Node :=
  .element "ol" [⟨"start", .text "9"⟩]
    [.element "li" [] [.leaf .plain "y"], .element "li" [] [.leaf .plain "z"]]

/-- An item with this list behind its text. -/
def numberedItem : Node :=
  .element "li" [] [.leaf .plain "x\n ", numberedList, .leaf .comment "c"]

/-- A list with this item. -/
def numberedInList : Cursor :=
  .root 0 (.element "ul" [] [numberedItem])

/-- The list in the item. -/
def innerList : Cursor :=
  ⟨0, numberedList, [⟨numberedItem, 1⟩, ⟨.element "ul" [] [numberedItem], 0⟩]⟩

theorem renderedBy_numberedInList (h : c ∈ [numberedInList, innerList]) : RenderedBy "list" c := by
  refine ⟨listRule, ?_, rfl⟩
  rw [find_standard]
  simp only [List.mem_cons, List.not_mem_nil, or_false] at h
  rcases h with rfl | rfl
  · rfl
  · rfl

theorem outline_numberedInList {value : Cursor → String}
    (hvalue : ∀ d, d.node.isElement = false → value d = d.node.textContent) :
    IsOutline (RenderedBy "list") value numberedInList ∧
      outline value numberedInList = "- x\n  9. y\n  10. z\n\n" := by
  have hplain : ∀ c ∈ [numberedInList, innerList], ∀ item ∈ listItems c, IsPlainItem item := by
    decide
  have hlead : ∀ c ∈ [numberedInList, innerList], ∀ item ∈ listItems c,
      Text.trim (leadText (·.node.textContent) item) ≠ "" ∧
        '\n' ∉ (Text.trim (leadText (·.node.textContent) item)).toList := by decide
  have hpadding : ∀ c ∈ [numberedInList, innerList], ∀ item ∈ listItems c,
      ∀ d ∈ item.children.dropWhile fun d => !isList d.node,
        isList d.node = false → d.isPadding = true := by decide
  have hform : ∀ c ∈ [numberedInList, innerList],
      (∀ d ∈ (listItems c).flatMap nestedLists, IsOutline (RenderedBy "list") value d) →
        IsOutline (RenderedBy "list") value c := fun c hc =>
    .of_isPlainItem hvalue (renderedBy_numberedInList hc) (hplain c hc) (hlead c hc) (hpadding c hc)
  constructor
  · have hinner : IsOutline (RenderedBy "list") value innerList :=
      hform innerList (by simp) fun d hd => by cases hd
    refine hform numberedInList (by simp) fun d hd => ?_
    obtain rfl : d = innerList := List.mem_singleton.mp hd
    exact hinner
  · have hinner : outlineLines value innerList = ["  9. y", "  10. z"] := by
      rw [outlineLines_eq]
      refine (itemLines_of_isPlainItem hvalue (hplain innerList (by simp))).trans ?_
      decide
    have houter : outlineLines value numberedInList = ["- x", "  9. y", "  10. z"] := by
      rw [outlineLines_eq]
      show itemLine value _ _ _ :: (outlineLines value innerList ++ []) ++ [] = _
      rw [hinner, itemLine_of_isPlainItem hvalue
        (hplain numberedInList (by simp) _ List.mem_cons_self)]
      decide
    rw [outline, houter]
    decide

theorem convertCounted_outline_numbered :
    ∃ result, convertCounted builtinSetting (some numberedInList) = .ok result ∧
      result.abortReason = none ∧ result.issues = [] ∧
      IsOutline (RenderedBy "list") (plainText builtinSetting numberedInList.above.length)
        numberedInList ∧
      result.markdown = "- x\n  9. y\n  10. z\n\n" := by
  have htame : ∀ d ∈ numberedInList.subtree, Tame builtinSetting numberedInList.above.length d :=
    fun d _ => tame_of_standard rules_standard rfl _ d
  have hviolation : violation? builtinSetting numberedInList = none :=
    violation?_eq_none_of_still rfl (fun _ => rfl) (by decide) (by decide)
  obtain ⟨result, hresult, hdone, -⟩ :=
    convertCounted_of_no_violation htame (by decide) hviolation rfl
  -- Only the two lists have a rule, and their numbers are small enough to be written.
  have hissues : result.issues = [] := by
    refine issues_eq_nil htame hresult hdone fun d hd helement rule hrule => ?_
    have hruled : d ∈ numberedInList.subtree.filter fun d => (builtinSetting.ruleOf? d).isSome :=
      List.mem_filter.mpr ⟨hd, by simp [hrule]⟩
    have hlists : (numberedInList.subtree.filter fun d => (builtinSetting.ruleOf? d).isSome) =
        [numberedInList, innerList] := rfl
    rw [hlists] at hruled
    have hlist : rule = listRule := by
      have hrules : builtinSetting.rules.rules = standardRules := rules_standard
      obtain ⟨hfound, -⟩ :=
        ruleOf?_of_renderedBy_list hrules (renderedBy_numberedInList hruled)
      exact Option.some.inj (hrule.symm.trans hfound)
    subst hlist
    refine exists_outcome_list (plainContent builtinSetting numberedInList.above.length d) helement
      (fun item hitem e he => answered_plainAnswer builtinSetting _ hitem he) fun i hi => ?_
    simp only [List.mem_cons, List.not_mem_nil, or_false] at hruled
    rcases hruled with rfl | rfl
    · exact ⟨"-", rfl⟩
    · have hfew : i < 2 := hi
      have hsmall : ((9 : Int) + i).natAbs < 11 := by omega
      have hbound : ∀ digits, 2 ≤ digits → 11 < Nat.pow 10 digits := fun digits h =>
        (by decide : 11 < Nat.pow 10 2).trans_le (Nat.pow_le_pow_right (by decide) h)
      exact ⟨_, itemMarker_of_lt (hsmall.trans (hbound _ (by decide)))⟩
  obtain ⟨houtline, htext⟩ :=
    outline_numberedInList (plainText_of_leaf builtinSetting numberedInList.above.length)
  obtain ⟨s, -, -, -, -, hmarkdown⟩ := convertCounted_outline rfl hresult hdone hissues
    (Cursor.self_mem_subtree numberedInList) houtline
  refine ⟨result, hresult, hdone, hissues, houtline, ?_⟩
  have hclean := hmarkdown rfl
  rw [htext] at hclean
  exact (Except.ok.inj hclean).symm

/-- A list that is marked as a formula. -/
def formulaList : Cursor :=
  .root 0 (.element "ul" [⟨"class", .words ["katex"]⟩] [.element "li" [] [.leaf .plain "a"]])

theorem outline_formulaList {value : Cursor → String}
    (hvalue : ∀ d, d.node.isElement = false → value d = d.node.textContent) :
    IsOutline (fun d => isList d.node = true) value formulaList ∧
      outline value formulaList = "- a\n\n" := by
  have hplain : ∀ item ∈ listItems formulaList, IsPlainItem item := by decide
  constructor
  · exact .of_isPlainItem hvalue rfl hplain (by decide) (by decide) fun d hd => by cases hd
  · have hlines : outlineLines value formulaList = ["- a"] := by
      rw [outlineLines_eq]
      refine (itemLines_of_isPlainItem hvalue hplain).trans ?_
      decide
    rw [outline, hlines]
    decide

theorem outcome_formulaList (content : String) (ask : Option Cursor → String) :
    (inlineRule.replacement (builtinSetting.sceneAt formulaList.above.length formulaList)
      content).outcome ask = .ok "$a$" := by
  have hresult : (Adapter.generic.extractLatex formulaList).outcome =
      .ok (some ⟨"a", false, .text⟩) := by rfl
  show (formula inlineMath (builtinSetting.sceneAt formulaList.above.length formulaList)
    content).outcome ask = .ok (inlineMath (LatexResult.latex ⟨"a", false, .text⟩))
  exact outcome_formula hresult rfl (by decide)

/-- The rules for formulas come first, so such a list is not rendered to its outline. -/
theorem formulaList_not_outline :
    ∃ result, convertCounted builtinSetting (some formulaList) = .ok result ∧
      result.abortReason = none ∧ result.issues = [] ∧
      IsOutline (fun d => isList d.node = true)
        (plainText builtinSetting formulaList.above.length) formulaList ∧
      outline (plainText builtinSetting formulaList.above.length) formulaList = "- a\n\n" ∧
      result.markdown = "$a$" := by
  have htame : ∀ d ∈ formulaList.subtree, Tame builtinSetting formulaList.above.length d :=
    fun d _ => tame_of_standard rules_standard rfl _ d
  have hrule : builtinSetting.ruleOf? formulaList = some inlineRule := by
    have hfind : builtinSetting.rules.find formulaList = .ok (some inlineRule) :=
      find_of_isInlineMath (by decide)
    rw [Setting.ruleOf?, hfind]
  have hclean : builtinSetting.adapter.cleanText (plainDocument builtinSetting formulaList) =
      .ok "$a$" := by
    rw [plainDocument, (plain_of_rule formulaList.above.length rfl hrule).1, outcome_formulaList]
    rfl
  have hviolation : violation? builtinSetting formulaList = none :=
    violation?_eq_none_of_still rfl (fun _ => rfl) (by decide) (by decide)
  obtain ⟨result, hresult, hdone, hmarkdown⟩ :=
    convertCounted_of_no_violation htame (by decide) hviolation hclean
  have hruled : (formulaList.subtree.filter fun d => (builtinSetting.ruleOf? d).isSome) =
      [formulaList] := rfl
  -- The item has no rule, and the one of the list comes to a text.
  have hissues : result.issues = [] := by
    refine issues_eq_nil htame hresult hdone fun d hd helement rule hfound => ?_
    have hmem : d ∈ formulaList.subtree.filter fun d => (builtinSetting.ruleOf? d).isSome :=
      List.mem_filter.mpr ⟨hd, by simp [hfound]⟩
    rw [hruled, List.mem_singleton] at hmem
    subst hmem
    obtain rfl := Option.some.inj (hfound.symm.trans hrule)
    exact ⟨"$a$", outcome_formulaList _ _⟩
  obtain ⟨houtline, htext⟩ :=
    outline_formulaList (plainText_of_leaf builtinSetting formulaList.above.length)
  exact ⟨result, hresult, hdone, hissues, houtline, htext, hmarkdown⟩

end Transcript
