import Transcript.Document.Reader
import Transcript.Proofs.Conversion.Motion
import Transcript.Proofs.Conversion.Outline
import Transcript.Proofs.Document.Noise
import Transcript.Proofs.Platform.Detachment

/-!
# Noise in clean elements

Stripping an element of noise gives a copy of it in a tree of its own. Where there is no noise, this
copy is the element, but nothing stands above it any more: a list loses the indentation that it had
from the list items around the element, and code the language that is named outside. So the copy
converts as the element does in its document, as long as the rules find above their nodes what they
found there; and they do if nothing above the element is of the kind that they look for.

## Main definitions

- `Adapter.passesOver`: nothing that rules or adapter look for above a node

## Main results

- `convertCounted_detach`: an element converts alike on its own
- `vista_detach`: when all rules see the same
- `convertCounted_stripNoise`: stripping a clean element changes nothing
- `stripping_noticed`: where it does, as what stood above or a mark is missed
-/

namespace Transcript

open Markup Cursor Render

variable {setting : Setting} {c d : Cursor}

/-! ## Detached elements -/

/-- Where every rule finds above its node what it found in the document, taking an element out is
not noticed. -/
theorem unnoticed_detach (hadapter : setting.adapter ∈ builtinAdapters)
    (hvista : ∀ d ∈ c.subtree, Vista setting.adapter c.detach d) :
    Unnoticed setting (· ∈ c.subtree) c.detach c.above.length 0 where
  motion := motion_detach c
  vista h := hvista _ h
  recovers h := Adapter.recoversAlike_detach hadapter h
  depth {d} _ := by rw [depthFrom, length_above_detach, Nat.sub_zero, depthFrom]

/-- An element that is taken out of its document converts as it does there. -/
theorem convertCounted_detach (hrules : setting.rules.rules = standardRules)
    (hadapter : setting.adapter ∈ builtinAdapters)
    (hvista : ∀ d ∈ c.subtree, Vista setting.adapter c.detach d) :
    (convertCounted setting (some (c.detach c))).map Conversion.gist =
      (convertCounted setting (some c)).map Conversion.gist := by
  have hu := unnoticed_detach hadapter hvista
  have hbase : (c.detach c).above.length = 0 := by rw [length_above_detach, Nat.sub_self]
  rw [← hbase] at hu
  exact hu.indifferent.convertCounted hrules (overrides_of_mem_builtin hadapter)

/-! ## Quiet surroundings -/

/-- Neither the rules nor the adapter look for a node of this kind above another one. -/
def Adapter.passesOver (a : Adapter) (x : Cursor) : Bool :=
  x.node.tagName != "li" && !isMathMarker x.node && !isCodeWrapper x.node &&
    a.codeLookups.all fun text => Selector.disregards text x

/-- Where nothing above an element is looked for, every rule in it finds the same on its own. -/
theorem vista_detach {a : Adapter} (ha : a.IsLocal)
    (hquiet : ∀ x ∈ c.ancestors, a.passesOver x = true) (h : d ∈ c.subtree) :
    Vista a c.detach d := by
  have hparts : ∀ x ∈ c.ancestors, (x.node.tagName == "li") = false ∧
      isMathMarker x.node = false ∧ isCodeWrapper x.node = false ∧
        ∀ text ∈ a.codeLookups, Selector.disregards text x = true := by
    intro x hx
    have hall := hquiet x hx
    simp only [Adapter.passesOver, Bool.and_eq_true, Bool.not_eq_true', List.all_eq_true,
      bne, Bool.not_eq_true'] at hall
    exact ⟨hall.1.1.1, hall.1.1.2, hall.1.2, hall.2⟩
  have hlevel : listLevel (c.detach d) = listLevel d :=
    @countP_elementAncestors_detach c d h (fun node => node.tagName == "li") fun x hx =>
      (hparts x hx).1
  exact {
    level := fun _ => hlevel
    math := fun _ => isSome_findAncestor?_detach h fun x hx => (hparts x hx).2.1
    wrapper := fun _ => isSome_findAncestor?_detach h fun x hx => (hparts x hx).2.2.1
    language := fun _ code hcode => Adapter.codeLanguage_detach ha
      (fun x hx => (hparts x hx).2.2.2) (mem_subtree_trans h (mem_subtree_of_codeElement? hcode)) }

/-! ## Selected elements -/

theorem exists_selectOne?_of_findText? {text : String} (h : c.findText? text = .ok (some d)) :
    ∃ s : Selector, s.selectOne? c = some d := by
  unfold Cursor.findText? at h
  split at h
  · exact exists_search_of_searchText? h
  · cases h

/-- What is selected is an element of the page. -/
theorem isElement_of_selectRoot {page : Cursor} (hpage : page.node.isElement = true)
    {selector : Option String} (h : selectRoot page selector = .ok c) :
    c ∈ page.subtree ∧ c.node.isElement = true := by
  unfold selectRoot at h
  split at h
  · obtain rfl := Except.ok.inj h
    cases hbody : page.find? ["body"] with
    | none => exact ⟨self_mem_subtree page, hpage⟩
    | some body =>
      have hfound := List.find?_some hbody
      simp only [Bool.and_eq_true] at hfound
      exact ⟨mem_subtree_of_mem_descendants (List.mem_of_find?_eq_some hbody), hfound.1⟩
  · rcases hfind : page.findText? (selector.getD "") with fault | _ | d
    · rw [hfind] at h
      cases h
    · rw [hfind] at h
      cases h
    · rw [hfind] at h
      obtain rfl := Except.ok.inj h
      obtain ⟨s, hs⟩ := exists_selectOne?_of_findText? hfind
      have haccepts : s.accepts d = true := List.find?_some hs
      simp only [Selector.accepts, Bool.and_eq_true] at haccepts
      exact ⟨mem_subtree_of_mem_descendants (List.mem_of_find?_eq_some hs), haccepts.1.1⟩

/-- An element without noise is its own copy. -/
theorem stripNoiseAt_of_clean {rules : List NoiseRule} {node : Node}
    (helement : node.isElement = true)
    (hclean : ∀ other ∈ node.contents, ∀ rule ∈ rules, rule.names other = false)
    (hvalues : ∀ other ∈ node :: node.contents, other.attributes.all Attribute.hasValue = true) :
    stripNoiseAt rules node = .ok node := by
  rw [stripNoiseAt_of_isElement helement, Node.copy_eq_self node hvalues]
  exact congrArg Except.ok
    (Node.treated_of_contents node fun other hother =>
      treatment?_eq_none_iff.mpr (hclean other hother))

/-- Stripping a clean element changes nothing, as long as no rule misses what stood above it. Let an
element be selected in a page, let no default noise rule name anything below it, and let all its
attributes have values. Then it is not changed by stripping, and by the built-in rules and a
built-in adapter it converts alike in its page and on its own, if every rule finds above each of its
nodes what it found in the page; and so it is if nothing above the element is looked for. -/
theorem convertCounted_stripNoise (hrules : setting.rules.rules = RuleTable.standard.rules)
    (hadapter : setting.adapter ∈ builtinAdapters) {page : Node} (hpage : page.isElement = true)
    {selector : Option String} (hselect : selectRoot (root 0 page) selector = .ok c)
    (hclean : ∀ other ∈ c.node.contents, ∀ rule ∈ defaultNoise, rule.names other = false)
    (hvalues : ∀ other ∈ c.node :: c.node.contents,
      other.attributes.all Attribute.hasValue = true) :
    ∃ clean, stripNoiseAt defaultNoise c.node = .ok clean ∧
      ((∀ d ∈ c.subtree, Vista setting.adapter c.detach d) →
        (convertCounted setting (some (root 0 clean))).map Conversion.gist =
          (convertCounted setting (some c)).map Conversion.gist) ∧
      ((∀ x ∈ c.ancestors, setting.adapter.passesOver x = true) →
        ∀ d ∈ c.subtree, Vista setting.adapter c.detach d) := by
  obtain ⟨hmem, helement⟩ := isElement_of_selectRoot hpage hselect
  have htree : c.tree = 0 := (above_of_mem_subtree hmem).1
  have hown : c.detach c = root 0 c.node := by rw [detach_self, htree]
  -- The copy is the root of a tree of its own, and this tree is the detached element.
  refine ⟨c.node, stripNoiseAt_of_clean helement hclean hvalues, fun hvista => ?_,
    fun hquiet d hd => vista_detach (isLocal_of_mem_builtin hadapter) hquiet hd⟩
  rw [← hown]
  exact convertCounted_detach (hrules.trans rules_standard) hadapter hvista

/-- A list with one item. -/
def plainList : Node :=
  .element "ul" [] [.element "li" [] [.leaf .plain "a"]]

/-- The list in a block of a page. -/
def listInBlock : Cursor :=
  ⟨0, plainList,
    [⟨.element "div" [] [plainList], 0⟩, ⟨.document [.element "div" [] [plainList]], 0⟩]⟩

theorem convertCounted_stripNoise_block :
    ∃ clean, stripNoiseAt defaultNoise listInBlock.node = .ok clean ∧
      (convertCounted builtinSetting (some (root 0 clean))).map Conversion.gist =
        (convertCounted builtinSetting (some listInBlock)).map Conversion.gist := by
  have hadapter : builtinSetting.adapter ∈ builtinAdapters := List.mem_cons_self
  have hselect : selectRoot (root 0 (.document [.element "div" [] [plainList]]))
      (some "div > ul") = .ok listInBlock := rfl
  obtain ⟨clean, hclean, hsame, hvistas⟩ := convertCounted_stripNoise rfl hadapter rfl hselect
    (by decide) (by decide)
  -- Neither a block nor a page is looked for.
  have hquiet : ∀ x ∈ listInBlock.ancestors, Adapter.generic.passesOver x = true := by
    decide
  exact ⟨clean, hclean, hsame (hvistas hquiet)⟩

/-! ## What the copy has lost -/

/-- A clean element that is selected in a page, its copy without noise, and what both come to by the
built-in rules. -/
structure Stripping (page : Node) (selector : String) (c : Cursor) (clean : Node)
    (inPage onOwn : String) : Prop where
  selected : selectRoot (root 0 page) (some selector) = .ok c
  noiseless : ∀ other ∈ c.node.contents, ∀ rule ∈ defaultNoise, rule.names other = false
  stripped : stripNoiseAt defaultNoise c.node = .ok clean
  converted : (convertCounted builtinSetting (some c)).map Conversion.markdown = .ok inPage
  convertedAlone :
    (convertCounted builtinSetting (some (root 0 clean))).map Conversion.markdown = .ok onOwn

theorem convertCounted_builtin {text : String} (hviolation : violation? builtinSetting c = none)
    (hplain : plainDocument builtinSetting c = text) :
    (convertCounted builtinSetting (some c)).map Conversion.markdown = .ok text := by
  have htame : ∀ d ∈ c.subtree, Tame builtinSetting c.above.length d :=
    fun d _ => tame_of_standard rules_standard rfl _ d
  have hclean : builtinSetting.adapter.cleanText (plainDocument builtinSetting c) = .ok text :=
    congrArg Except.ok hplain
  obtain ⟨result, hresult, -, hmarkdown⟩ :=
    convertCounted_of_no_violation htame (by decide) hviolation hclean
  rw [hresult]
  exact congrArg Except.ok hmarkdown

/-- The list in an item of another one. -/
def listInItem : Cursor :=
  ⟨0, plainList,
    [⟨.element "li" [] [plainList], 0⟩, ⟨.element "ul" [] [.element "li" [] [plainList]], 0⟩,
      ⟨.document [.element "ul" [] [.element "li" [] [plainList]]], 0⟩]⟩

theorem plainDocument_plainList (h : c ∈ [listInItem, root 0 plainList]) :
    plainDocument builtinSetting c = listText (·.node.textContent) c := by
  have hshape : ∀ c ∈ [listInItem, root 0 plainList], c.node.isElement = true ∧
      listStart c.node = none ∧
      ∀ item ∈ listItems c, ∀ d ∈ item.children, d.node.isElement = false := by decide
  obtain ⟨helement, hstart, hitems⟩ := hshape c h
  have hrule : builtinSetting.ruleOf? c = some listRule := by
    have hfind : RuleTable.standard.find c = .ok (some listRule) := by
      rw [find_standard]
      simp only [List.mem_cons, List.not_mem_nil, or_false] at h
      rcases h with rfl | rfl
      · rfl
      · rfl
    simp [Setting.ruleOf?, builtinSetting, hfind]
  -- There are only texts in the item, so the rule asks for nothing.
  have hanswered : ∀ item ∈ listItems c, ∀ d ∈ item.children,
      Answered (plainAnswer builtinSetting c.above.length c) (·.node.textContent) d := by
    intro item hitem d hd
    exact ⟨fun _ => rfl, fun htag => by rw [hitems item hitem d hd] at htag; cases htag⟩
  have hmarkers : ∀ i < (listItems c).length, ∃ marker, itemMarker (listStart c.node) i =
      .ok marker := by
    intro i _
    rw [hstart]
    exact ⟨"-", rfl⟩
  obtain ⟨text, htext⟩ :
      ∃ text, (list (builtinSetting.sceneAt c.above.length c)
        (plainContent builtinSetting c.above.length c)).outcome
          (plainAnswer builtinSetting c.above.length c) = .ok text :=
    exists_outcome_list _ helement hanswered hmarkers
  have hreplacement : listRule.replacement = list := rfl
  have hvalue := yields_listText (builtinSetting.sceneAt c.above.length c)
    (plainContent builtinSetting c.above.length c) helement hanswered text htext
  rw [plainDocument, (plain_of_rule c.above.length helement hrule).1, hreplacement, htext]
  exact hvalue

theorem stripping_listInItem :
    Stripping (.document [.element "ul" [] [.element "li" [] [plainList]]]) "ul ul" listInItem
      plainList "  - a\n" "- a\n\n" := by
  have hshallow : ∀ c ∈ [listInItem, root 0 plainList],
      ∀ d ∈ c.subtree, d.depthFrom c.above.length ≤ builtinSetting.options.maxDepth := by decide
  have hsmall : ∀ c ∈ [listInItem, root 0 plainList],
      c.subtree.length ≤ builtinSetting.options.maxVisits := by decide
  have hconverted : ∀ c ∈ [listInItem, root 0 plainList],
      (convertCounted builtinSetting (some c)).map Conversion.markdown =
        .ok (listText (·.node.textContent) c) := fun c hc =>
    convertCounted_builtin
      (violation?_eq_none_of_still rfl (fun _ => rfl) (hshallow c hc) (hsmall c hc))
      (plainDocument_plainList hc)
  have hinItem : listText (·.node.textContent) listInItem = "  - a\n" := by decide
  have halone : listText (·.node.textContent) (root 0 plainList) = "- a\n\n" := by decide
  have hclean : ∀ other ∈ plainList.contents, ∀ rule ∈ defaultNoise,
      rule.names other = false := by decide
  exact {
    selected := rfl
    noiseless := hclean
    stripped := stripNoiseAt_of_clean rfl hclean (by decide)
    converted := hinItem ▸ hconverted listInItem (by simp)
    convertedAlone := halone ▸ hconverted (root 0 plainList) (by simp) }

/-- A formula in a block with these attributes. -/
def formulaBlock (attributes : List Attribute) : Node :=
  .element "div" attributes
    [.element "span" [⟨"class", .words ["katex"]⟩] [.leaf .plain "a"]]

/-- The block in a page, marked as a formula by an attribute without a value. -/
def markedBlock : Cursor :=
  ⟨0, formulaBlock [⟨"data-math", .bare⟩],
    [⟨.document [formulaBlock [⟨"data-math", .bare⟩]], 0⟩]⟩

theorem plainText_of_child {base : Nat} {d : Cursor} {text : String}
    (helement : c.node.isElement = true) (hrule : builtinSetting.ruleOf? c = none)
    (hchild : c.children = [d]) (htext : plainText builtinSetting base d = text) :
    plainText builtinSetting base c = text := by
  rw [(plain_of_no_rule base helement hrule).1, plainContent, hchild, List.map_singleton, htext,
    String.join_cons, String.join_nil, String.append_empty]

theorem plainDocument_markedBlock : plainDocument builtinSetting markedBlock = "a" :=
  plainText_of_child rfl rfl rfl
    (plainText_of_child rfl rfl rfl (plain_of_leaf builtinSetting _ rfl).1)

theorem plainDocument_unmarkedBlock :
    plainDocument builtinSetting (root 0 (formulaBlock [])) = "$a$" := by
  obtain ⟨span, hchild, helement, hmath, hlatex⟩ : ∃ d, (root 0 (formulaBlock [])).children = [d] ∧
      d.node.isElement = true ∧ isInlineMath d = true ∧
      (Adapter.generic.extractLatex d).outcome = .ok (some ⟨"a", false, .text⟩) :=
    ⟨_, rfl, rfl, rfl, rfl⟩
  have hrule : builtinSetting.ruleOf? span = some inlineRule := by
    have hfind : RuleTable.standard.find span = .ok (some inlineRule) := find_of_isInlineMath hmath
    simp [Setting.ruleOf?, builtinSetting, hfind]
  refine plainText_of_child rfl rfl hchild ?_
  have hrun : (inlineRule.replacement (builtinSetting.sceneAt 0 span)
      (plainContent builtinSetting 0 span)).outcome (plainAnswer builtinSetting 0 span) =
        .ok (inlineMath (LatexResult.latex ⟨"a", false, .text⟩)) :=
    outcome_formula hlatex rfl (by decide)
  show plainText builtinSetting 0 span = "$a$"
  rw [(plain_of_rule 0 helement hrule).1, hrun]
  rfl

/-- In the marked block the formula is taken for a part of a larger one, and in the copy, which has
lost the mark, it is not. -/
theorem stripping_markedBlock :
    Stripping (.document [markedBlock.node]) "div" markedBlock (formulaBlock []) "a" "$a$" where
  selected := rfl
  noiseless := by decide
  stripped := rfl
  converted := convertCounted_builtin
    (violation?_eq_none_of_still rfl (fun _ => rfl) (by decide) (by decide))
    plainDocument_markedBlock
  convertedAlone := convertCounted_builtin
    (violation?_eq_none_of_still rfl (fun _ => rfl) (by decide) (by decide))
    plainDocument_unmarkedBlock

/-- A copy has lost what stood above it, such as the item that indents a list, and the attributes
without a value. -/
theorem stripping_noticed :
    Stripping (.document [.element "ul" [] [.element "li" [] [plainList]]]) "ul ul" listInItem
        plainList "  - a\n" "- a\n\n" ∧
      Stripping (.document [markedBlock.node]) "div" markedBlock (formulaBlock []) "a" "$a$" :=
  ⟨stripping_listInItem, stripping_markedBlock⟩

end Transcript
