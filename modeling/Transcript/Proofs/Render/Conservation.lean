import Transcript.Proofs.Conversion.Document
import Transcript.Proofs.Render.Yield

/-!
# Conservation of text

In an orderly tree no visible text is lost by the built-in rules, and none is doubled: every kept
character occurs in the Markdown at least as often as in the text nodes, and exactly as often if no
link or image adds its target or its description.

The proof goes by induction on the tree, along the plain evaluation. Each rule conserves the text of
its node, given that the content and the answers for the nodes below conserve theirs.

## Main definitions

- `Conserves`: a count that does not fall, and stays the same where it is tight

## Main results

- `conserves_of_rule`: the step, for a node with a built-in rule
- `conserves_plainText`: the plain value of an orderly tree
- `convertCounted_conserves`: a whole conversion
-/

namespace Transcript

open Markup Render

/-! ## Counts -/

/-- As much comes out as goes in, or more; exactly as much if the count is tight. -/
structure Conserves (tight : Prop) (before after : Nat) : Prop where
  le : before ≤ after
  eq : tight → after = before

namespace Conserves

variable {tight : Prop}

theorem of_eq {before after : Nat} (h : after = before) : Conserves tight before after :=
  ⟨Nat.le_of_eq h.symm, fun _ => h⟩

theorem sum {α : Type} {cs : List α} {f g : α → Nat} (h : ∀ c ∈ cs, Conserves tight (f c) (g c)) :
    Conserves tight (cs.map f).sum (cs.map g).sum := by
  induction cs with
  | nil => exact of_eq rfl
  | cons c rest ih =>
    obtain ⟨hle, heq⟩ := h c (by simp)
    obtain ⟨hle', heq'⟩ := ih fun d hd => h d (by simp [hd])
    constructor
    · rw [List.map_cons, List.sum_cons, List.map_cons, List.sum_cons]
      omega
    · intro htight
      rw [List.map_cons, List.sum_cons, List.map_cons, List.sum_cons, heq htight, heq' htight]

end Conserves

/-! ## Orderly nodes and their rules -/

/-- A loosely orderly node is accepted by no rule that turns to the adapter. -/
theorem mem_contentRules_of_orderly {c : Cursor} (hc : LooselyOrderly c) {rule : Rule}
    (h : rule ∈ standardRules) (haccepts : rule.filter.accepts c = .ok true) :
    rule ∈ contentRules := by
  refine (List.mem_append.mp h).resolve_left fun hmem => ?_
  have hformula := hc.noFormula
  have hcode := hc.noCodeBlock
  simp only [isMathMarker, isCodeWrapper, Bool.or_eq_false_iff] at hformula hcode
  -- Each of these rules wants a marker that an orderly node does not have.
  cases mem_adapterRules_iff.mp hmem with
  | display =>
    have hdisplay : isDisplayMath c = true := Except.ok.inj haccepts
    have hmarker := hformula.1
    simp_all [isDisplayMath, Node.hasClass, displayMathClasses, mathClasses]
  | inline =>
    have hinline : isInlineMath c = true := Except.ok.inj haccepts
    simp_all [isInlineMath, Node.hasClass, inlineMathClasses, mathClasses]
  | codeBlock =>
    have hblock : isCodeBlock c = true := Except.ok.inj haccepts
    simp_all [isCodeBlock]

theorem name_of_accepts {c : Cursor} (hc : LooselyOrderly c) {names : List String}
    (h : (RuleFilter.tags names).accepts c = .ok true) : c.node.name ∈ names := by
  simp only [RuleFilter.accepts, Except.ok.injEq, Bool.and_eq_true, List.contains_eq_mem,
    decide_eq_true_eq, hc.lowerCase] at h
  exact h.2

/-- With every adapter the built-in rules are tame at an orderly node. -/
theorem tame_of_orderly {setting : Setting} (hrules : setting.rules.rules = standardRules)
    (base : Nat) {c : Cursor} (hc : Orderly c) : Tame setting base c where
  answers _ _ hrule := answers_of_mem_standardRules (hrules ▸ hrule) c
  keeps _ _ hrule haccepts content :=
    Rendering.keeps_mono
      ((isQuiet_of_mem_contentRules
        (mem_contentRules_of_orderly hc.loosely (hrules ▸ hrule) haccepts)).keeps
          (setting.sceneAt base c) content)
      (fun _ hasks => hasks) (fun _ _ => trivial) (fun _ hraises => hraises)

/-! ## One node -/

/-- The answers for the nodes below a node conserve what these have listed, and character data
answers for itself. -/
structure Faithful (tight : Prop) (k : Char) (ask : Option Cursor → String) (c : Cursor) :
    Prop where
  conserves : ∀ d ∈ c.descendants,
    Conserves tight (Text.tally k d.listed) (Text.tally k (ask (some d)))
  leaf : ∀ d ∈ c.descendants, d.node.isElement = false → ask (some d) = d.node.textContent

section

variable {tight : Prop} {k : Char} {ask : Option Cursor → String} {scene : Scene} {content : String}

/-- The answers for the children of an element conserve what it has listed. -/
theorem Faithful.answered {c d : Cursor} (h : Faithful tight k ask c)
    (hd : d.node.isElement = true) (hlist : isList d.node = false)
    (hbelow : ∀ e ∈ d.children, e ∈ c.descendants) :
    Conserves tight (Text.tally k d.listed) (answered k ask d) := by
  rw [Cursor.tally_listed_of_not_isList hd hlist]
  exact Conserves.sum fun e he => h.conserves e (hbelow e he)

variable (hk : Chars.isKept k = true)
include hk

/-- A list conserves what is listed: it stands in the items, and each item is made of its
children. -/
theorem conserves_list (horderly : ∀ d ∈ scene.node.subtree, LooselyOrderly d)
    (hlist : isList scene.node.node = true) (hask : Faithful tight k ask scene.node) :
    (Render.list scene content).Yields ask fun text =>
      Conserves tight (Text.tally k scene.node.listed) (Text.tally k text) := by
  intro text htext
  have hbelow : ∀ item ∈ scene.node.children, ∀ d ∈ item.children, d ∈ scene.node.descendants :=
    fun item hitem d hd =>
      Cursor.mem_descendants_of_subtree_child hitem (Cursor.mem_subtree_of_mem_children hd)
  have hself := horderly scene.node (Cursor.self_mem_subtree _)
  have hchildren : ∀ d ∈ scene.node.children, LooselyOrderly d := fun d hd =>
    horderly d (Cursor.mem_subtree_of_mem_children hd)
  rw [yields_list hk content (fun item hitem d hd => hask.leaf d (hbelow item hitem d hd)) text
    htext, ← hself.sum_listed_items hchildren hlist]
  refine Conserves.sum fun item hitem => ?_
  obtain ⟨hmem, hitem⟩ := List.mem_filter.mp hitem
  simp only [Bool.and_eq_true, beq_iff_eq] at hitem
  have hother : isList item.node = false := by simp [isList, hitem.2]
  exact hask.answered hitem.1 hother (hbelow item hmem)

/-- A table conserves what is listed: it stands in the cells of its rows, and each cell is made of
its children. -/
theorem conserves_table (horderly : ∀ d ∈ scene.node.subtree, LooselyOrderly d)
    (hname : scene.node.node.name = "table") (hask : Faithful tight k ask scene.node) :
    (table scene content).Yields ask fun text =>
      Conserves tight (Text.tally k scene.node.listed) (Text.tally k text) := by
  intro text htext
  rw [yields_table hk content (pairwise_place_filledRows _) text htext,
    ← sum_listed_cells hk hname horderly]
  refine Conserves.sum fun row hrow => Conserves.sum fun cell hcell => ?_
  have hname : cell.node.name = "th" ∨ cell.node.name = "td" := by
    simpa using (List.mem_filter.mp hcell).2
  have helement : cell.node.isElement = true :=
    (List.mem_filter.mp (List.mem_of_mem_filter hcell)).2
  have hother : isList cell.node = false := by
    rcases hname with hname | hname
    · exact isList_of_name hname (by decide)
    · exact isList_of_name hname (by decide)
  exact hask.answered helement hother fun d hd => mem_descendants_of_cell hrow hcell hd

omit hk in
/-- Nothing is listed where nothing may stand. -/
theorem listed_of_void {c : Cursor} (hc : LooselyOrderly c)
    (hname : ["hr", "br", "img"].contains c.node.name = true) : Text.tally k c.listed = 0 := by
  have hne : c.node.name ≠ "" := by
    intro hempty
    simp [hempty] at hname
  rw [Cursor.tally_listed_of_isElement (Cursor.isElement_of_name rfl hne),
    Cursor.children_eq_nil_of_node (hc.void hname)]
  rfl

omit hk in
/-- Of the rules that make do with the content, only the one for lists accepts lists. -/
theorem replacement_of_isList {c : Cursor} (hc : LooselyOrderly c) (hlist : isList c.node = true)
    {rule : Rule} (h : rule ∈ contentRules) (haccepts : rule.filter.accepts c = .ok true) :
    rule.replacement = Render.list := by
  have hname : c.node.name = "ul" ∨ c.node.name = "ol" := by
    simpa [isList, hc.lowerCase] using hlist
  have hother : ∀ {names}, "ul" ∉ names ∧ "ol" ∉ names →
      (RuleFilter.tags names).accepts c ≠ .ok true := by
    intro names hnames haccepts
    have hmem := name_of_accepts hc haccepts
    rcases hname with hname | hname
    · exact hnames.1 (hname ▸ hmem)
    · exact hnames.2 (hname ▸ hmem)
  cases mem_contentRules_iff.mp h with
  | list => rfl
  | codeInline =>
    -- Inline code goes by the name as well.
    have hcode : isInlineCode c = true := Except.ok.inj haccepts
    simp only [isInlineCode, hc.lowerCase, Bool.and_eq_true, beq_iff_eq] at hcode
    rcases hname with hname | hname
    · exact absurd (hname.symm.trans hcode.1) (by decide)
    · exact absurd (hname.symm.trans hcode.1) (by decide)
  | _ => exact absurd haccepts (hother (by decide))

/-- The rules that make do with the content conserve what is listed, given that the content does.
Lists do without the content. -/
theorem conserves_of_rule (horderly : ∀ d ∈ scene.node.subtree, LooselyOrderly d)
    (htight : tight → scene.node.node.name ≠ "a" ∧ scene.node.node.name ≠ "img")
    (hcontent : isList scene.node.node = false →
      Conserves tight (Text.tally k scene.node.listed) (Text.tally k content))
    (hask : Faithful tight k ask scene.node) {rule : Rule} (h : rule ∈ contentRules)
    (haccepts : rule.filter.accepts scene.node = .ok true) :
    (rule.replacement scene content).Yields ask fun text =>
      Conserves tight (Text.tally k scene.node.listed) (Text.tally k text) := by
  have hself := horderly scene.node (Cursor.self_mem_subtree _)
  cases hlist : isList scene.node.node with
  | true =>
    rw [replacement_of_isList hself hlist h haccepts]
    exact conserves_list hk horderly hlist hask
  | false =>
    have hsame : ∀ text, Text.tally k text = Text.tally k content →
        Conserves tight (Text.tally k scene.node.listed) (Text.tally k text) := by
      intro text htext
      rw [htext]
      exact hcontent hlist
    cases mem_contentRules_iff.mp h with
    | table =>
      have hname := name_of_accepts hself haccepts
      dsimp only [tableRule, ruleForTags]
      exact conserves_table hk horderly (by simpa using hname) hask
    | heading => exact fun text htext => hsame text (yields_heading hk scene content text htext)
    | blockquote =>
      exact fun text htext => hsame text (yields_blockquote hk scene content text htext)
    | list =>
      have hname := name_of_accepts hself haccepts
      have htag : isList scene.node.node = true := by
        simpa [isList, hself.lowerCase, or_comm] using hname
      rw [hlist] at htag
      cases htag
    | strong | emphasis =>
      exact Rendering.yields_pure (hsame _ (tally_emphasized hk (by decide) content))
    | codeInline =>
      exact fun text htext => hsame text (yields_codeInline hk scene content text htext)
    | paragraph =>
      exact fun text htext => hsame text (yields_paragraph hk scene content text htext)
    | link =>
      -- Links add their target, where the count is not tight.
      have hname := name_of_accepts hself haccepts
      intro text htext
      refine ⟨Nat.le_trans (hcontent hlist).le (yields_link hk scene content text htext),
        fun hexact => ?_⟩
      exact absurd (by simpa using hname) (htight hexact).1
    | image =>
      -- Images hold nothing, and add their description where the count is not tight.
      have hname := name_of_accepts hself haccepts
      intro text htext
      rw [listed_of_void hself (by simp_all)]
      exact ⟨Nat.zero_le _, fun hexact => absurd (by simpa using hname) (htight hexact).2⟩
    | horizontalRule | lineBreak =>
      -- So do horizontal rules and line breaks, and add nothing that counts.
      have hname := name_of_accepts hself haccepts
      apply Rendering.yields_pure
      rw [listed_of_void hself (by simp_all)]
      exact Conserves.of_eq (Text.tally_eq_zero hk (by decide))

/-! ## The whole tree -/

omit hk in
/-- The answers of the plain evaluation are the values of the nodes below. -/
theorem faithful_plainAnswer {setting : Setting} {base : Nat} {c : Cursor}
    (h : ∀ d ∈ c.descendants,
      Conserves tight (Text.tally k d.listed) (Text.tally k (plainText setting base d))) :
    Faithful tight k (plainAnswer setting base c) c := by
  constructor
  · intro d hd
    rw [plainAnswer_of_mem hd]
    exact h d hd
  · intro d hd hleaf
    rw [plainAnswer_of_mem hd]
    exact (plain_of_leaf setting base hleaf).1

omit hk in
/-- The content conserves what is listed: exactly if nothing that counts stands beside items. -/
theorem conserves_plainContent {setting : Setting} {base : Nat} {c : Cursor}
    (hc : c.node.isElement = true)
    (h : ∀ d ∈ c.descendants,
      Conserves tight (Text.tally k d.listed) (Text.tally k (plainText setting base d)))
    (hloose : tight → ∀ d ∈ c.children, isLoose c.node d.node = true →
      Text.tally k d.listed = 0) :
    Conserves tight (Text.tally k c.listed) (Text.tally k (plainContent setting base c)) := by
  rw [Cursor.tally_listed_of_isElement hc, plainContent, Text.tally_joined, List.map_map]
  refine Conserves.sum fun d hd => ?_
  have hbelow := h d (Cursor.mem_descendants_of_mem_children hd)
  dsimp only [Function.comp]
  split
  · rename_i hbeside
    exact ⟨Nat.zero_le _, fun hexact => (hbelow.eq hexact).trans (hloose hexact d hd hbeside)⟩
  · exact hbelow

/-- The rule of a node comes to a text, or nothing that counts stands beside items in it. Otherwise
the content stands in, and shows what a list drops. -/
def Settled (setting : Setting) (base : Nat) (k : Char) (c : Cursor) : Prop :=
  (∀ d ∈ c.children, isLoose c.node d.node = true → Text.tally k d.listed = 0) ∨
    ∃ rule text, setting.ruleOf? c = some rule ∧
      (rule.replacement (setting.sceneAt base c) (plainContent setting base c)).outcome
        (plainAnswer setting base c) = .ok text

/-- The plain value of a loosely orderly tree conserves what is listed. -/
theorem conserves_listed {setting : Setting} (hrules : setting.rules.rules = standardRules)
    {base : Nat} {c : Cursor} (horderly : ∀ d ∈ c.subtree, LooselyOrderly d)
    (htight : ∀ d ∈ c.subtree, tight → d.node.name ≠ "a" ∧ d.node.name ≠ "img")
    (hsettled : ∀ d ∈ c.subtree, tight → Settled setting base k d) :
    Conserves tight (Text.tally k c.listed) (Text.tally k (plainText setting base c)) := by
  induction c using Cursor.descendants_induction with
  | step c ih =>
    -- Everything below is orderly too, so the induction hypothesis applies to it.
    have hbelow : ∀ d ∈ c.descendants,
        Conserves tight (Text.tally k d.listed) (Text.tally k (plainText setting base d)) := by
      intro d hd
      have hsub := Cursor.mem_subtree_of_mem_descendants hd
      exact ih d hd (fun e he => horderly e (Cursor.mem_subtree_trans hsub he))
        (fun e he => htight e (Cursor.mem_subtree_trans hsub he))
        (fun e he => hsettled e (Cursor.mem_subtree_trans hsub he))
    have hself := Cursor.self_mem_subtree c
    cases hc : c.node.isElement with
    | false =>
      rw [(plain_of_leaf setting base hc).1, Cursor.listed_of_leaf hc]
      exact Conserves.of_eq rfl
    | true =>
      have hcontent := conserves_plainContent hc hbelow
      cases hrule : setting.ruleOf? c with
      | none =>
        rw [(plain_of_no_rule base hc hrule).1]
        refine hcontent fun hexact => (hsettled c hself hexact).resolve_right ?_
        rintro ⟨rule, text, hfound, -⟩
        cases hrule.symm.trans hfound
      | some rule =>
        rw [(plain_of_rule base hc hrule).1]
        split
        · rename_i text htext
          obtain ⟨hmem, haccepts⟩ := accepts_of_ruleOf? hrule
          have hcontentRule :=
            mem_contentRules_of_orderly (horderly c hself) (hrules ▸ hmem) haccepts
          refine @conserves_of_rule tight k (plainAnswer setting base c) (setting.sceneAt base c)
            (plainContent setting base c) hk horderly (htight c hself) (fun hother => ?_)
            (faithful_plainAnswer hbelow) rule hcontentRule haccepts text htext
          -- Outside of lists nothing stands beside items.
          refine hcontent fun _ d _ hloose => ?_
          simp [isLoose, show isList c.node = false from hother] at hloose
        · -- The rule fails, and the content stands in.
          rename_i fault hfault
          refine hcontent fun hexact => (hsettled c hself hexact).resolve_right ?_
          rintro ⟨other, text, hfound, htext⟩
          obtain rfl := Option.some.inj (hrule.symm.trans hfound)
          cases hfault.symm.trans htext

/-- The plain value of an orderly tree conserves its text. -/
theorem conserves_plainText {setting : Setting} (hrules : setting.rules.rules = standardRules)
    {base : Nat} {c : Cursor} (horderly : ∀ d ∈ c.subtree, Orderly d)
    (htight : ∀ d ∈ c.subtree, tight → d.node.name ≠ "a" ∧ d.node.name ≠ "img") :
    Conserves tight (Text.tally k c.spelled) (Text.tally k (plainText setting base c)) := by
  rw [← tally_listed_of_orderly hk horderly]
  refine conserves_listed hk hrules (fun d hd => (horderly d hd).loosely) htight
    fun d hd _ => .inl fun e he hloose => ?_
  exact Cursor.tally_listed_of_isPadding hk ((horderly d hd).isPadding_of_isLoose he hloose)

end

/-- A conversion that is not given up loses no visible text of an orderly tree: every character
that is neither blank nor a digit nor punctuation occurs in the Markdown at least as often as in
the text nodes, and exactly as often if there is no link and no image. -/
theorem convertCounted_conserves {setting : Setting} {c : Cursor} {result : Conversion} {k : Char}
    (hrules : setting.rules.rules = RuleTable.standard.rules)
    (hclean : ∀ text, setting.adapter.cleanText text = .ok text)
    (horderly : ∀ d ∈ c.subtree, Orderly d)
    (hresult : convertCounted setting (some c) = .ok result) (hdone : result.abortReason = none)
    (hk : Chars.isKept k = true) :
    Text.tally k c.spelled ≤ Text.tally k result.markdown ∧
      ((∀ d ∈ c.subtree, d.node.name ≠ "a" ∧ d.node.name ≠ "img") →
        Text.tally k result.markdown = Text.tally k c.spelled) := by
  rw [rules_standard] at hrules
  have htame : ∀ d ∈ c.subtree, Tame setting c.above.length d := fun d hd =>
    tame_of_orderly hrules _ (horderly d hd)
  obtain rfl := eq_convert_of_convertCounted hresult
  obtain ⟨markdown, s, hmarkdown, hconvert, -⟩ := converted_of_not_aborted htame hdone
  -- Cleaning changes nothing, so the Markdown is the plain value of the root.
  have hplain : (convert setting (some c)).markdown = plainDocument setting c := by
    rw [hclean] at hmarkdown
    rw [hconvert, Except.ok.inj hmarkdown]
    rfl
  have hconserves : Conserves (∀ d ∈ c.subtree, d.node.name ≠ "a" ∧ d.node.name ≠ "img")
      (Text.tally k c.spelled) (Text.tally k (plainDocument setting c)) :=
    conserves_plainText hk hrules horderly fun d hd htight => htight d hd
  rw [hplain]
  exact ⟨hconserves.le, hconserves.eq⟩

/-- A document with a table, whose second row holds a list. -/
def listInTable : Cursor :=
  Cursor.root 0 (.document [.element "table" [] [
    .element "thead" [] [.element "tr" [] [.element "th" [] [.leaf .plain "x"]]],
    .element "tbody" [] [.leaf .plain "\n", .element "tr" [] [.element "td" []
      [.element "ul" [] [.element "li" [] [.leaf .plain "xy"], .leaf .comment "x"]]]]]])

theorem convertCounted_listInTable :
    (∀ d ∈ listInTable.subtree, Orderly d) ∧
      ∃ result, convertCounted builtinSetting (some listInTable) = .ok result ∧
        result.abortReason = none ∧ Text.tally 'x' listInTable.spelled = 2 ∧
        Text.tally 'x' result.markdown = 2 := by
  have horderly : ∀ d ∈ listInTable.subtree, Orderly d := by decide
  have htame : ∀ d ∈ listInTable.subtree, Tame builtinSetting listInTable.above.length d :=
    fun d hd => tame_of_orderly rules_standard _ (horderly d hd)
  have hviolation : violation? builtinSetting listInTable = none :=
    violation?_eq_none_of_still rfl (fun _ => rfl) (by decide) (by decide)
  obtain ⟨result, hresult, hdone, -⟩ :=
    convertCounted_of_no_violation htame (by decide) hviolation rfl
  have hconserves := convertCounted_conserves rfl (fun _ => rfl) horderly hresult hdone
    (show Chars.isKept 'x' = true by decide)
  have hspelled : Text.tally 'x' listInTable.spelled = 2 := by decide
  refine ⟨horderly, result, hresult, hdone, hspelled, ?_⟩
  rw [hconserves.2 (by decide), hspelled]

end Transcript
