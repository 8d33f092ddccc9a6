import Transcript.Proofs.Conversion.Outline
import Transcript.Proofs.Render.Conservation

/-!
# Lists beside the items of lists

The rule for lists goes through the items, and has their children converted. A list that stands in
another one directly, beside its items, is not asked for, and neither is text that stands there. So
of a tree that follows the content model but for that, a list shows what is listed in items, at
every depth, and nothing of what stands beside them.

## Main definitions

- `Cursor.spelledByElements`: what the elements in a list spell
- `Cursor.dropped`: what of it stands beside items, in the list itself or in lists further below

## Main results

- `tally_plainText_list`: the text of a list is made of the texts in its items
- `convertCounted_shows_listed`: what of the text of a list is in its Markdown
-/

namespace Transcript

open Markup Render

variable {c d : Cursor} {k : Char}

namespace Markup.Cursor

/-- What the elements in a node spell. -/
def spelledByElements (c : Cursor) : String :=
  String.join (c.elementChildren.map spelled)

/-- What the elements in a node spell beside the items of lists, the node itself being one of
them. -/
def dropped (c : Cursor) : String :=
  String.join (c.elementChildren.map fun d =>
    if isLoose c.node d.node then d.spelled else d.unlisted)

/-- What the elements in a list spell is listed, or dropped. -/
theorem tally_spelledByElements (hlist : isList c.node = true) :
    Text.tally k c.spelledByElements = Text.tally k c.listed + Text.tally k c.dropped := by
  -- Character data in a list stands beside the items, and is listed by none of them.
  have hlisted : Text.tally k c.listed =
      (c.elementChildren.map fun d =>
        if isLoose c.node d.node then 0 else Text.tally k d.listed).sum := by
    rw [tally_listed_of_isElement (isElement_of_isList hlist), elementChildren]
    refine (sum_map_filter fun d _ hleaf => ?_).symm
    have hloose : isLoose c.node d.node = true := by
      simp [isLoose, hlist, show d.node.isElement = false from hleaf]
    rw [if_pos hloose]
  rw [hlisted, spelledByElements, dropped, Text.tally_joined, Text.tally_joined, List.map_map,
    List.map_map, ← List.sum_map_add]
  refine congrArg List.sum (List.map_congr_left fun d _ => ?_)
  rw [Function.comp_apply, Function.comp_apply]
  split
  · exact (Nat.zero_add _).symm
  · exact (tally_listed_add_unlisted k d).symm

end Markup.Cursor

/-! ## Conversions -/

theorem accepts_listRule (hlist : isList c.node = true) :
    listRule.filter.accepts c = .ok true := by
  have hname : c.node.name ≠ documentName := name_ne_documentName_of_isList hlist
  have htag : c.node.tagName = "ol" ∨ c.node.tagName = "ul" := ((isList_iff c.node).mp hlist).symm
  simp [listRule, ruleForTags, RuleFilter.accepts, isElement_of_isList hlist, hname, htag]

/-- Where the rule of a node, if there is one, has not failed, the node is settled: every list has a
rule, and elsewhere nothing stands beside items. -/
theorem settled_of_outcome {setting : Setting} (hrules : setting.rules.rules = standardRules)
    {base : Nat}
    (houtcome : c.node.isElement = true → ∀ rule, setting.ruleOf? c = some rule →
      (rule.replacement (setting.sceneAt base c) (plainContent setting base c)).outcome
        (plainAnswer setting base c) = .ok (plainText setting base c)) :
    Settled setting base k c := by
  cases hlist : isList c.node with
  | false =>
    refine .inl fun d _ hloose => ?_
    simp [isLoose, hlist] at hloose
  | true =>
    have hmem : listRule ∈ standardRules := mem_standardRules_iff.mpr (.inr .list)
    obtain ⟨rule, hfound⟩ := RuleTable.exists_findIn
      (fun rule hrule => answers_of_mem_standardRules hrule c) hmem (accepts_listRule hlist)
    have hrule : setting.ruleOf? c = some rule := by
      simp [Setting.ruleOf?, RuleTable.find, hrules, hfound]
    exact .inr ⟨rule, _, hrule, houtcome (isElement_of_isList hlist) rule hrule⟩

/-- The text of a list holds what the texts of the children of its items hold, whatever these are. -/
theorem tally_plainText_list {setting : Setting} (hrules : setting.rules.rules = standardRules)
    {base : Nat} (hlist : RenderedBy "list" c) (hk : Chars.isKept k = true)
    (houtcome : ∀ rule, setting.ruleOf? c = some rule →
      (rule.replacement (setting.sceneAt base c) (plainContent setting base c)).outcome
        (plainAnswer setting base c) = .ok (plainText setting base c)) :
    Text.tally k (plainText setting base c) =
      ((listItems c).map fun item =>
        (item.children.map fun d => Text.tally k (plainText setting base d)).sum).sum := by
  obtain ⟨hrule, -⟩ := ruleOf?_of_renderedBy_list hrules hlist
  have hbelow : ∀ item ∈ c.children, ∀ d ∈ item.children, d ∈ c.descendants := by
    intro item hitem d hd
    exact Cursor.mem_descendants_of_subtree_child hitem (Cursor.mem_subtree_of_mem_children hd)
  have hleaf : ∀ item ∈ c.children, ∀ d ∈ item.children, d.node.isElement = false →
      plainAnswer setting base c (some d) = d.node.textContent := by
    intro item hitem d hd hleaf
    rw [plainAnswer_of_mem (hbelow item hitem d hd), plainText_of_leaf setting base d hleaf]
  have hyields : (Render.list (setting.sceneAt base c) (plainContent setting base c)).Yields
      (plainAnswer setting base c) fun text =>
        Text.tally k text = ((listItems c).map (answered k (plainAnswer setting base c))).sum :=
    yields_list hk _ hleaf
  rw [hyields _ (houtcome listRule hrule)]
  -- The items ask for their children, and get their texts.
  refine congrArg List.sum (List.map_congr_left fun item hitem => ?_)
  refine congrArg List.sum (List.map_congr_left fun d hd => ?_)
  rw [plainAnswer_of_mem (hbelow item (mem_listItems hitem).1 d hd)]

/-- A conversion by the built-in rules that is not given up shows the items of a list, and nothing
of what stands beside them. If nothing was recovered from, a character that is neither blank nor a
digit nor punctuation occurs in the text of the list exactly as often as in the texts of the children
of its items. In a loosely orderly tree it occurs there at least as often as in what is listed. So
nothing is lost if nothing stands beside items, and if there is no link and no image either, only
then. -/
theorem convertCounted_shows_listed {setting : Setting} {root : Cursor} {result : Conversion}
    (hrules : setting.rules.rules = RuleTable.standard.rules)
    (hresult : convertCounted setting (some root) = .ok result)
    (hdone : result.abortReason = none) (hc : c ∈ root.subtree) (hlist : RenderedBy "list" c)
    (hk : Chars.isKept k = true) :
    ∃ (s : Session) (value : Cursor → String),
      traverse setting (some root) (Session.start setting (some root)) =
        (.ok result.markdown, s) ∧
      (∀ d ∈ root.subtree, s.textAt? (some d.place) = some (value d)) ∧
      (result.issues = [] →
        Text.tally k (value c) = ((listItems c).map fun item =>
          (item.children.map fun d => Text.tally k (value d)).sum).sum) ∧
      ((∀ d ∈ c.subtree, LooselyOrderly d) →
        Text.tally k c.listed ≤ Text.tally k (value c) ∧
        (Text.tally k c.dropped = 0 →
          Text.tally k c.spelledByElements ≤ Text.tally k (value c)) ∧
        (result.issues = [] → (∀ d ∈ c.subtree, d.node.name ≠ "a" ∧ d.node.name ≠ "img") →
          Text.tally k (value c) + Text.tally k c.dropped = Text.tally k c.spelledByElements ∧
          (Text.tally k c.spelledByElements ≤ Text.tally k (value c) ↔
            Text.tally k c.dropped = 0))) := by
  rw [rules_standard] at hrules
  obtain ⟨s, htraverse, -, htexts, houtcome⟩ := converted_of_builtin hrules hresult hdone
  have htag := (ruleOf?_of_renderedBy_list hrules hlist).2
  refine ⟨s, plainText setting root.above.length, htraverse, htexts, ?_, ?_⟩
  · intro hissues
    exact tally_plainText_list hrules hlist hk (houtcome hissues c hc (isElement_of_isList htag))
  · intro horderly
    have hconserves : Conserves
        (result.issues = [] ∧ ∀ d ∈ c.subtree, d.node.name ≠ "a" ∧ d.node.name ≠ "img")
        (Text.tally k c.listed) (Text.tally k (plainText setting root.above.length c)) := by
      refine conserves_listed hk hrules horderly (fun d hd htight => htight.2 d hd)
        fun d hd htight => settled_of_outcome hrules ?_
      exact houtcome htight.1 d (Cursor.mem_subtree_trans hc hd)
    have hsplit := Cursor.tally_spelledByElements (k := k) htag
    have hle := hconserves.le
    refine ⟨hle, ?_, ?_⟩
    · intro hnone
      omega
    · intro hissues hplain
      have heq := hconserves.eq ⟨hissues, hplain⟩
      omega

/-- A list with an item, and with other nodes beside it. -/
def itemList (text : String) (others : List Node) : Node :=
  .element "ul" [] (.element "li" [] [.leaf .plain text] :: others)

/-- A list beside the item of a list. -/
def listBesideItem : Cursor :=
  .root 0 (itemList "a" [itemList "b" []])

/-- The list beside the item. -/
def besideItem : Cursor :=
  ⟨0, itemList "b" [], [⟨listBesideItem.node, 1⟩]⟩

/-- The item. -/
def firstItem : Cursor :=
  ⟨0, .element "li" [] [.leaf .plain "a"], [⟨listBesideItem.node, 0⟩]⟩

theorem renderedBy_listBesideItem (h : c ∈ [listBesideItem, besideItem]) : RenderedBy "list" c := by
  refine ⟨listRule, ?_, rfl⟩
  rw [find_standard]
  simp only [List.mem_cons, List.not_mem_nil, or_false] at h
  rcases h with rfl | rfl
  · rfl
  · rfl

/-- The list beside the item is lost. -/
theorem convertCounted_shows_listed_besideItem :
    ∃ result s text, convertCounted builtinSetting (some listBesideItem) = .ok result ∧
      result.abortReason = none ∧ RenderedBy "list" listBesideItem ∧
      (∀ d ∈ listBesideItem.subtree, LooselyOrderly d) ∧
      traverse builtinSetting (some listBesideItem)
          (Session.start builtinSetting (some listBesideItem)) = (.ok result.markdown, s) ∧
      s.textAt? (some listBesideItem.place) = some text ∧
      Text.tally 'b' listBesideItem.spelledByElements = 1 ∧ Text.tally 'b' text = 0 := by
  have htame : ∀ d ∈ listBesideItem.subtree, Tame builtinSetting listBesideItem.above.length d :=
    fun d _ => tame_of_standard rules_standard rfl _ d
  have hviolation : violation? builtinSetting listBesideItem = none :=
    violation?_eq_none_of_still rfl (fun _ => rfl) (by decide) (by decide)
  obtain ⟨result, hresult, hdone, -⟩ :=
    convertCounted_of_no_violation htame (by decide) hviolation rfl
  have horderly : ∀ d ∈ listBesideItem.subtree, LooselyOrderly d := by decide
  -- Only the two lists have a rule, and their items need no numbers.
  have hissues : result.issues = [] := by
    refine issues_eq_nil htame hresult hdone fun d hd helement rule hrule => ?_
    have hruled : d ∈ listBesideItem.subtree.filter fun d => (builtinSetting.ruleOf? d).isSome :=
      List.mem_filter.mpr ⟨hd, by simp [hrule]⟩
    have hlists : (listBesideItem.subtree.filter fun d => (builtinSetting.ruleOf? d).isSome) =
        [listBesideItem, besideItem] := rfl
    rw [hlists] at hruled
    have hrules : builtinSetting.rules.rules = standardRules := rules_standard
    obtain ⟨hfound, -⟩ := ruleOf?_of_renderedBy_list hrules (renderedBy_listBesideItem hruled)
    obtain rfl := Option.some.inj (hrule.symm.trans hfound)
    refine exists_outcome_list (plainContent builtinSetting listBesideItem.above.length d) helement
      (fun item hitem e he => answered_plainAnswer builtinSetting _ hitem he) fun i _ => ⟨"-", ?_⟩
    simp only [List.mem_cons, List.not_mem_nil, or_false] at hruled
    rcases hruled with rfl | rfl
    · rfl
    · rfl
  have hrendered : RenderedBy "list" listBesideItem := renderedBy_listBesideItem List.mem_cons_self
  obtain ⟨s, value, htraverse, htexts, -, hlisted⟩ :=
    convertCounted_shows_listed rfl hresult hdone (Cursor.self_mem_subtree listBesideItem) hrendered
      (show Chars.isKept 'b' = true by decide)
  obtain ⟨hsum, -⟩ := (hlisted horderly).2.2 hissues (by decide)
  have hspelled : Text.tally 'b' listBesideItem.spelledByElements = 1 := by decide
  have hdropped : Text.tally 'b' besideItem.spelled ≤ Text.tally 'b' listBesideItem.dropped := by
    have hchildren : listBesideItem.dropped =
        String.join [firstItem.unlisted, besideItem.spelled] := rfl
    rw [hchildren, Text.tally_joined]
    simp
  have hbeside : Text.tally 'b' besideItem.spelled = 1 := by decide
  refine ⟨result, s, value listBesideItem, hresult, hdone, hrendered, horderly, htraverse,
    htexts _ (Cursor.self_mem_subtree listBesideItem), hspelled, ?_⟩
  omega

end Transcript
