import Mathlib.Data.List.Nodup
import Transcript.Proofs.Conversion.Refinement
import Transcript.Proofs.Platform.Conduct
import Transcript.Render.Builtin

/-!
# The conduct of the built-in rules

The built-in rules ask for nodes below their own only: lists and tables convert what is below them
again, and no other rule asks for anything. Their filters always answer, and with an adapter that
replaces no method their faults do not give up the conversion.

## Main definitions

- `adapterRules`, `contentRules`, `standardRules`: the built-in rules, in the order in which they
  are tried
- `IsAdapterRule`, `IsContentRule`: these rules by cases
- `Conduct.quiet`: asking for nodes below only, and failing without giving up the conversion
- `Conduct.downward`: asking for nodes below only

## Main results

- `rules_standard`: the table of the built-in rules holds these rules
- `mem_standardRules_iff`: the cases of a built-in rule
- `keeps_of_mem_standardRules`: each replacement keeps this conduct
- `tame_of_standard`: the built-in rules are tame everywhere
-/

namespace Transcript

open Markup Render

/-! ## The rules -/

/-- A rule for elements with these names. -/
def ruleForTags (name : String) (priority : Int) (tags : List String)
    (replacement : Replacement) : Rule :=
  ⟨name, priority, .tags tags, replacement⟩

/-- A rule for the nodes that satisfy a test. -/
def ruleForTest (name : String) (priority : Int) (testName : String) (test : Cursor → Bool)
    (replacement : Replacement) : Rule :=
  ⟨name, priority, .predicate ⟨testName, fun c => .ok (test c)⟩, replacement⟩

namespace Render

/-- The rule for display formulas. -/
def displayRule : Rule :=
  ruleForTest "math-block" 1 "is_display_math" isDisplayMath mathBlock

/-- The rule for inline formulas. -/
def inlineRule : Rule :=
  ruleForTest "math-inline" 2 "is_inline_math" isInlineMath mathInline

/-- The rule for code blocks. -/
def codeBlockRule : Rule :=
  ruleForTest "code-block" 3 "is_code_block" isCodeBlock codeBlock

/-- The rule for tables. -/
def tableRule : Rule :=
  ruleForTags "table" 4 ["table"] table

/-- The rule for headings. -/
def headingRule : Rule :=
  ruleForTags "heading" 5 ["h1", "h2", "h3", "h4", "h5", "h6"] heading

/-- The rule for quotations. -/
def blockquoteRule : Rule :=
  ruleForTags "blockquote" 6 ["blockquote"] blockquote

/-- The rule for lists. -/
def listRule : Rule :=
  ruleForTags "list" 6 ["ol", "ul"] list

/-- The rule for strong text. -/
def strongRule : Rule :=
  ruleForTags "strong" 7 ["b", "strong"] strong

/-- The rule for emphasised text. -/
def emphasisRule : Rule :=
  ruleForTags "emphasis" 8 ["em", "i"] emphasis

/-- The rule for inline code. -/
def codeInlineRule : Rule :=
  ruleForTest "code-inline" 9 "is_inline_code" isInlineCode codeInline

/-- The rule for paragraphs. -/
def paragraphRule : Rule :=
  ruleForTags "paragraph" 10 ["p"] paragraph

/-- The rule for links. -/
def linkRule : Rule :=
  ruleForTags "link" 10 ["a"] link

/-- The rule for horizontal rules. -/
def horizontalRuleRule : Rule :=
  ruleForTags "horizontal-rule" 11 ["hr"] horizontalRule

/-- The rule for images. -/
def imageRule : Rule :=
  ruleForTags "image" 11 ["img"] image

/-- The rule for line breaks. -/
def lineBreakRule : Rule :=
  ruleForTags "line-break" 12 ["br"] lineBreak

end Render

/-- The built-in rules that turn to the adapter: those for formulas and for code blocks. -/
def adapterRules : List Rule :=
  [displayRule, inlineRule, codeBlockRule]

/-- The built-in rules that make do with the tree and with the text of the children. -/
def contentRules : List Rule :=
  [tableRule, headingRule, blockquoteRule, listRule, strongRule, emphasisRule, codeInlineRule,
    paragraphRule, linkRule, horizontalRuleRule, imageRule, lineBreakRule]

/-- The built-in rules in the order in which they are tried. -/
def standardRules : List Rule :=
  adapterRules ++ contentRules

/-- Registration puts the built-in rules into this order. -/
theorem rules_standard : RuleTable.standard.rules = standardRules := by
  rfl

theorem nodup_names_standardRules : (standardRules.map Rule.name).Nodup := by
  decide

/-- No two of the built-in rules bear the same name. -/
theorem eq_of_name_eq {rule other : Rule} (h : rule ∈ standardRules)
    (hother : other ∈ standardRules) (hname : rule.name = other.name) : rule = other :=
  List.inj_on_of_nodup_map nodup_names_standardRules h hother hname

/-- One of the built-in rules that turn to the adapter, by cases. -/
inductive IsAdapterRule : Rule → Prop where
  | display : IsAdapterRule displayRule
  | inline : IsAdapterRule inlineRule
  | codeBlock : IsAdapterRule codeBlockRule

/-- One of the other built-in rules, by cases. -/
inductive IsContentRule : Rule → Prop where
  | table : IsContentRule tableRule
  | heading : IsContentRule headingRule
  | blockquote : IsContentRule blockquoteRule
  | list : IsContentRule listRule
  | strong : IsContentRule strongRule
  | emphasis : IsContentRule emphasisRule
  | codeInline : IsContentRule codeInlineRule
  | paragraph : IsContentRule paragraphRule
  | link : IsContentRule linkRule
  | horizontalRule : IsContentRule horizontalRuleRule
  | image : IsContentRule imageRule
  | lineBreak : IsContentRule lineBreakRule

theorem mem_adapterRules_iff {rule : Rule} : rule ∈ adapterRules ↔ IsAdapterRule rule := by
  constructor
  · intro h
    simp only [adapterRules, List.mem_cons, List.not_mem_nil, or_false] at h
    rcases h with rfl | rfl | rfl <;> constructor
  · rintro (_ | _ | _) <;> simp [adapterRules]

theorem mem_contentRules_iff {rule : Rule} : rule ∈ contentRules ↔ IsContentRule rule := by
  constructor
  · intro h
    simp only [contentRules, List.mem_cons, List.not_mem_nil, or_false] at h
    rcases h with rfl | rfl | rfl | rfl | rfl | rfl | rfl | rfl | rfl | rfl | rfl | rfl <;>
      constructor
  · rintro (_ | _ | _ | _ | _ | _ | _ | _ | _ | _ | _ | _) <;> simp [contentRules]

/-- What is to be shown of every built-in rule is shown by these cases. -/
theorem mem_standardRules_iff {rule : Rule} :
    rule ∈ standardRules ↔ IsAdapterRule rule ∨ IsContentRule rule := by
  rw [standardRules, List.mem_append, mem_adapterRules_iff, mem_contentRules_iff]

/-- The tests among the filters of the built-in rules. -/
def standardTests : List (Cursor → Bool) :=
  [isDisplayMath, isInlineMath, isCodeBlock, isInlineCode]

/-- A built-in rule is for elements with some names, or for the nodes that satisfy a test. -/
theorem filter_of_mem_standardRules {rule : Rule} (h : rule ∈ standardRules) :
    (∃ names, rule.filter = .tags names) ∨
      ∃ name, ∃ test ∈ standardTests, rule.filter = .predicate ⟨name, fun c => .ok (test c)⟩ := by
  rcases mem_standardRules_iff.mp h with h | h
  · cases h with
    | display => exact .inr ⟨_, isDisplayMath, by simp [standardTests], rfl⟩
    | inline => exact .inr ⟨_, isInlineMath, by simp [standardTests], rfl⟩
    | codeBlock => exact .inr ⟨_, isCodeBlock, by simp [standardTests], rfl⟩
  · cases h with
    | codeInline => exact .inr ⟨_, isInlineCode, by simp [standardTests], rfl⟩
    | _ => exact .inl ⟨_, rfl⟩

theorem answers_of_mem_standardRules {rule : Rule} (h : rule ∈ standardRules) (c : Cursor) :
    ∃ accepted, rule.filter.accepts c = .ok accepted := by
  rcases filter_of_mem_standardRules h with ⟨names, hfilter⟩ | ⟨name, test, -, hfilter⟩
  · exact ⟨_, by rw [hfilter, RuleFilter.accepts]⟩
  · exact ⟨test c, by rw [hfilter, RuleFilter.accepts]⟩

/-- A filter by names accepts the elements that bear one of the names. -/
theorem of_accepts_tags {names : List String} {c : Cursor}
    (h : (RuleFilter.tags names).accepts c = .ok true) :
    c.node.isElement = true ∧ c.node.tagName ∈ names := by
  have hall := Except.ok.inj h
  simp only [Bool.and_eq_true, List.contains_eq_mem, decide_eq_true_eq] at hall
  exact ⟨hall.1.1, hall.2⟩

/-! ## Programs -/

/-- A program at a node asks for nodes below it only, fails without giving up, and does not report
that it gave up. -/
def Conduct.quiet (c : Cursor) : Conduct where
  asks node := ∃ d ∈ c.descendants, node = some d
  reports diagnostic := diagnostic.announcesAbort = false
  raises fault := fault.isAbort = false

/-- A program at a node asks for nodes below it only, whatever else it does. -/
def Conduct.downward (c : Cursor) : Conduct where
  asks node := ∃ d ∈ c.descendants, node = some d
  reports _ := True
  raises _ := True

/-- A replacement that is quiet at every node. -/
structure Replacement.IsQuiet (r : Replacement) : Prop where
  keeps : ∀ scene content, (r scene content).Keeps (.quiet scene.node)

namespace Render

variable {c : Cursor} {may : Conduct}

/-- An item lacks its marker only where its number has too many digits. -/
theorem fault_of_itemMarker {start : Option Int} {offset : Nat} {fault : Fault}
    (h : itemMarker start offset = .error fault) : fault = tooManyDigits := by
  cases start with
  | none => simp [itemMarker] at h
  | some start =>
    simp only [itemMarker, itemNumber] at h
    split at h
    · simp [Except.map] at h
    · simpa [Except.map, eq_comm] using h

theorem harmless_headingLevel (tagName : String) : Harmless (headingLevel tagName) := by
  unfold headingLevel
  split
  · split
    · exact .ok _
    · exact .error rfl
  · exact .error rfl

theorem keeps_itemContentFrom {text : String} {cs : List Cursor}
    (h : ∀ d ∈ cs, may.asks (some d)) : (itemContentFrom text cs).Keeps may := by
  induction cs generalizing text with
  | nil => trivial
  | cons child rest ih =>
    have hrest : ∀ text, (itemContentFrom text rest).Keeps may := fun text =>
      ih fun d hd => h d (by simp [hd])
    unfold itemContentFrom
    -- Character data is taken as it is; any other child is asked for.
    split
    · exact hrest _
    · refine ⟨h child (by simp), fun inner => ?_⟩
      show Rendering.Keeps may (Rendering.andThen (Rendering.done inner) _)
      simp only [Rendering.andThen]
      split
      · exact hrest _
      · exact hrest _

theorem keeps_itemLines {indent : String} {start : Option Int} {offset : Nat}
    {items : List Cursor} (h : ∀ item ∈ items, ∀ d ∈ item.children, may.asks (some d))
    (hraises : may.raises tooManyDigits) : (itemLines indent start offset items).Keeps may := by
  induction items generalizing offset with
  | nil => trivial
  | cons item rest ih =>
    unfold itemLines
    refine Rendering.keeps_bind (Rendering.keeps_ofExcept fun fault hfault => ?_) fun marker => ?_
    · rw [fault_of_itemMarker hfault]
      exact hraises
    · refine Rendering.keeps_bind ?_ fun content => ?_
      · exact Rendering.keeps_bind (keeps_itemContentFrom (h item (by simp)))
          fun text => Rendering.keeps_pure _ _
      · exact Rendering.keeps_bind (ih fun other hother => h other (by simp [hother]))
          fun others => Rendering.keeps_pure _ _

theorem keeps_convertCells {cells : List Cursor}
    (h : ∀ cell ∈ cells, ∀ d ∈ cell.children, may.asks (some d)) :
    (convertCells cells).Keeps may := by
  induction cells with
  | nil => trivial
  | cons cell rest ih =>
    refine Rendering.keeps_bind (Rendering.keeps_convertedAll (h cell (by simp))) fun markdown => ?_
    exact Rendering.keeps_bind (ih fun other hother => h other (by simp [hother]))
      fun others => Rendering.keeps_pure _ _

theorem keeps_convertRow {width : Nat} {row : Cursor}
    (h : ∀ cell ∈ rowCells row, ∀ d ∈ cell.children, may.asks (some d)) :
    (convertRow width row).Keeps may :=
  Rendering.keeps_bind (keeps_convertCells h) fun _ => Rendering.keeps_pure _ _

theorem keeps_convertRows {width : Nat} {rows : List Cursor}
    (h : ∀ row ∈ rows, ∀ cell ∈ rowCells row, ∀ d ∈ cell.children, may.asks (some d)) :
    (convertRows width rows).Keeps may := by
  induction rows with
  | nil => trivial
  | cons row rest ih =>
    refine Rendering.keeps_bind (keeps_convertRow (h row (by simp))) fun values => ?_
    exact Rendering.keeps_bind (ih fun other hother => h other (by simp [hother]))
      fun others => Rendering.keeps_pure _ _

/-! ## Replacements -/

variable {scene : Scene}

theorem keeps_formula {wrap : String → String} {content : String}
    (hextract : (scene.extractLatex scene.node).Keeps may) :
    (formula wrap scene content).Keeps may := by
  have hkeep : (formula.keepContent scene content).Keeps may := trivial
  refine Rendering.keeps_bind hextract fun found => ?_
  cases found with
  | none => exact hkeep
  | some result => exact Rendering.keeps_ite hkeep (Rendering.keeps_pure _ _)

theorem keeps_codeBlock {content : String}
    (hlanguage : ∀ code, (scene.codeLanguage code).Keeps may) :
    (codeBlock scene content).Keeps may := by
  unfold codeBlock
  split
  · exact Rendering.keeps_pure _ _
  · rename_i code _
    exact Rendering.keeps_bind (hlanguage code) fun language => Rendering.keeps_pure _ _

theorem isQuiet_heading : Replacement.IsQuiet heading := by
  refine ⟨fun scene content => ?_⟩
  unfold heading
  have hlevel := harmless_headingLevel scene.node.node.tagName
  generalize headingLevel scene.node.node.tagName = level at hlevel
  refine Rendering.keeps_ite (Rendering.keeps_pure _ _) ?_
  exact Rendering.keeps_bind (Rendering.keeps_ofExcept hlevel) fun level =>
    Rendering.keeps_pure _ _

/-- A replacement that only computes a text is quiet. -/
theorem isQuiet_of_pure {r : Replacement} (f : Scene → String → String)
    (h : ∀ scene content, r scene content = pure (f scene content)) : r.IsQuiet := by
  refine ⟨fun scene content => ?_⟩
  rw [h]
  exact Rendering.keeps_pure _ _

/-- A list asks for the children of its items. -/
theorem isQuiet_list : Replacement.IsQuiet Render.list := by
  refine ⟨fun scene content => ?_⟩
  unfold Render.list
  split
  · exact rfl
  · refine Rendering.keeps_bind (keeps_itemLines ?_ rfl) fun lines => Rendering.keeps_pure _ _
    intro item hitem d hd
    have hchild : item ∈ scene.node.children := List.mem_of_mem_filter hitem
    exact ⟨d, Cursor.mem_descendants_of_subtree_child hchild
      (Cursor.mem_subtree_of_mem_children hd), rfl⟩

/-- What stands in a cell of a row of a table stands below the table. -/
theorem mem_descendants_of_cell {t row cell d : Cursor} (hrow : row ∈ filledRows t)
    (hcell : cell ∈ rowCells row) (hd : d ∈ cell.children) : d ∈ t.descendants := by
  have hbelow : row ∈ t.descendants :=
    List.mem_of_mem_filter (List.mem_of_mem_filter (List.mem_of_mem_filter hrow))
  have hchild : cell ∈ row.children :=
    List.mem_of_mem_filter (List.mem_of_mem_filter hcell)
  refine Cursor.mem_descendants_iff.mpr ⟨cell, ?_, hd⟩
  exact Cursor.mem_subtree_of_child (Cursor.mem_subtree_of_mem_descendants hbelow) hchild

theorem mem_of_headerRow? {t header : Cursor} {rows : List Cursor}
    (h : headerRow? t rows = some header) : header ∈ rows := by
  unfold headerRow? at h
  cases hfind : rows.find? (inHead t) with
  | some row =>
    obtain rfl : row = header := by simpa [hfind] using h
    exact List.mem_of_find?_eq_some hfind
  -- Without a row in the head the first row is taken, if any.
  | none =>
    cases rows with
    | nil => simp at h
    | cons first rest =>
      simp only [hfind, Option.ite_none_right_eq_some, Option.some.injEq] at h
      simp [← h.2]

/-- A table asks for the children of its cells. -/
theorem isQuiet_table : Replacement.IsQuiet table := by
  refine ⟨fun scene content => ?_⟩
  have hasks : ∀ row ∈ filledRows scene.node, ∀ cell ∈ rowCells row, ∀ d ∈ cell.children,
      (Conduct.quiet scene.node).asks (some d) := fun row hrow cell hcell d hd =>
    ⟨d, mem_descendants_of_cell hrow hcell hd, rfl⟩
  unfold table
  split
  · exact rfl
  -- The header is one of the rows, so its cells may be asked for too.
  · cases hrows : filledRows scene.node with
    | nil => exact Rendering.keeps_pure _ _
    | cons first rest =>
      rw [hrows] at hasks
      dsimp only
      cases hheader : headerRow? scene.node (first :: rest) with
      | none =>
        exact Rendering.keeps_bind (keeps_convertRows hasks) fun body => Rendering.keeps_pure _ _
      | some header =>
        refine Rendering.keeps_bind (keeps_convertRow (hasks header (mem_of_headerRow? hheader)))
          fun values => Rendering.keeps_bind (keeps_convertRows fun row hrow => ?_)
            fun body => Rendering.keeps_pure _ _
        exact hasks row (List.mem_of_mem_filter hrow)

theorem isQuiet_link : Replacement.IsQuiet link := by
  refine ⟨fun scene content => ?_⟩
  unfold link
  extract_lets href text
  clear_value href text
  split
  · exact Rendering.keeps_pure _ _
  · cases isSafeHref href with
    | true => exact Rendering.keeps_pure _ _
    | false =>
      exact Rendering.keeps_bind (Rendering.keeps_warning _ _) fun _ => Rendering.keeps_pure _ _

end Render

/-- Without overrides, the rules that turn to the adapter keep the conduct. -/
theorem keeps_of_mem_adapterRules {rule : Rule} (h : rule ∈ adapterRules) (scene : Scene)
    (hadapter : scene.adapter.overrides = {}) (content : String) :
    (rule.replacement scene content).Keeps (.quiet scene.node) := by
  have hextract : (scene.extractLatex scene.node).Keeps (.quiet scene.node) :=
    Rendering.keeps_ofTraced (Adapter.quiet_extractLatex hadapter scene.node)
      (Adapter.harmless_extractLatex hadapter scene.node)
  cases mem_adapterRules_iff.mp h with
  | display => exact keeps_formula hextract
  | inline => exact keeps_formula hextract
  | codeBlock =>
    exact keeps_codeBlock fun code =>
      Rendering.keeps_ofExcept (Adapter.harmless_codeLanguage hadapter code)

/-- The other rules keep it with every adapter. -/
theorem isQuiet_of_mem_contentRules {rule : Rule} (h : rule ∈ contentRules) :
    rule.replacement.IsQuiet := by
  cases mem_contentRules_iff.mp h with
  | table => exact isQuiet_table
  | heading => exact isQuiet_heading
  | list => exact isQuiet_list
  | link =>
    -- The equation of the rule is opened first, so that the program of links stays closed.
    dsimp only [linkRule, ruleForTags]
    exact isQuiet_link
  | _ => exact isQuiet_of_pure _ fun _ _ => rfl

/-- The replacements of the built-in rules keep their conduct. -/
theorem keeps_of_mem_standardRules {rule : Rule} (h : rule ∈ standardRules) (scene : Scene)
    (hadapter : scene.adapter.overrides = {}) (content : String) :
    (rule.replacement scene content).Keeps (.quiet scene.node) := by
  rcases List.mem_append.mp h with hmem | hmem
  · exact keeps_of_mem_adapterRules hmem scene hadapter content
  · exact (isQuiet_of_mem_contentRules hmem).keeps scene content

/-- With any adapter the built-in rules ask for nodes below only. -/
theorem keepsDownward_of_mem_standardRules {rule : Rule} (h : rule ∈ standardRules) (scene : Scene)
    (content : String) : (rule.replacement scene content).Keeps (.downward scene.node) := by
  rcases List.mem_append.mp h with hmem | hmem
  · have hextract : (scene.extractLatex scene.node).Keeps (.downward scene.node) :=
      Rendering.keeps_ofTraced (fun _ _ => trivial) fun _ _ => trivial
    cases mem_adapterRules_iff.mp hmem with
    | display => exact keeps_formula hextract
    | inline => exact keeps_formula hextract
    | codeBlock => exact keeps_codeBlock fun code => Rendering.keeps_ofExcept fun _ _ => trivial
  · exact Rendering.keeps_mono ((isQuiet_of_mem_contentRules hmem).keeps scene content)
      (fun _ hasks => hasks) (fun _ _ => trivial) fun _ _ => trivial

/-- The built-in rules are tame everywhere. -/
theorem tame_of_standard {setting : Setting} (hrules : setting.rules.rules = standardRules)
    (hadapter : setting.adapter.overrides = {}) (base : Nat) (c : Cursor) :
    Tame setting base c where
  answers _ _ hrule := answers_of_mem_standardRules (hrules ▸ hrule) c
  keeps _ _ hrule _ content :=
    Rendering.keeps_mono
      (keeps_of_mem_standardRules (hrules ▸ hrule) (setting.sceneAt base c) hadapter content)
      (fun _ hasks => hasks) (fun _ _ => trivial) (fun _ hraises => hraises)

end Transcript
