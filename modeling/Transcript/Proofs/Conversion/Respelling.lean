import Transcript.Proofs.Conversion.Likeness
import Transcript.Proofs.Platform.Respelling
import Transcript.Proofs.Render.Nesting

/-!
# The case of names

The names of elements may be written in capitals or not. The filters of the rules go by names in
lower case, and selectors ignore the case of ASCII letters, so the rules apply to the same elements
however names are written. Within an element, though, some of them look for names as they are
written: the rule for tables for `table`, `tr`, `th` and `td`, the one for blocks of code for `code`
and `pre`, and the adapters for the `math` of a formula; and the name of documents ends every search
upwards. As long as the same elements are found under these names, a tree and the tree with names
written anew convert alike. Where such a name is written in another way the element is overlooked.

## Main definitions

- `Overlooks`: what the rules make of elements under names that they do not look for
- `lookedForNames`: the names that are looked for as they are written

## Main results

- `keepsNames_of_spell`: a spelling that leaves these names alone
- `convertCounted_respell`: a tree with names written anew converts alike
-/

namespace Transcript

open Markup Cursor Render

variable {setting : Setting} {s : Spelling} {tree : Nat} {page : Node} {c d : Cursor}

/-! ## Names that are left alone -/

/-- The names that are looked for as they are written. -/
def lookedForNames : List String :=
  [documentName, "math", "code", "pre", "table", "tr", "th", "td"]

theorem mem_lookedForNames {name : String} (h : name ∈ soughtBelow c) : name ∈ lookedForNames := by
  simp only [soughtBelow, List.mem_append, List.mem_ite_nil_right, List.mem_cons,
    List.not_mem_nil, or_false] at h
  rcases h with ((⟨-, rfl⟩ | ⟨-, rfl⟩) | ⟨-, rfl⟩) | ⟨-, rfl | rfl | rfl | rfl⟩ <;>
    simp [lookedForNames]

/-- Names that are left alone in every case are borne by the same nodes. -/
theorem namedAlike_of_spell
    (hspell : ∀ indexes name, Text.asciiLower name ∈ lookedForNames → s.spell indexes name = name)
    {name : String} (hname : name ∈ lookedForNames) (d : Cursor) :
    NamedAlike (respell s) name d := by
  have hlower : ∀ name ∈ lookedForNames, Text.asciiLower name = name := by decide
  have hsame := @Node.asciiLower_name_respell s d.place.indexes d.node
  show (d.node.respell s d.place.indexes).name = name ↔ d.node.name = name
  cases hnode : d.node with
  | leaf kind text => exact Iff.rfl
  | document children => exact Iff.rfl
  | element written attributes children =>
    rw [hnode] at hsame
    constructor
    · intro h
      rw [h, hlower name hname] at hsame
      exact (hspell _ written (hsame ▸ hname)).symm.trans h
    · rintro rfl
      exact hspell _ written ((hlower written hname).symm ▸ hname)

theorem keepsNames_of_spell
    (hspell : ∀ indexes name, Text.asciiLower name ∈ lookedForNames → s.spell indexes name = name)
    (d : Cursor) : KeepsNames (respell s) d where
  document := namedAlike_of_spell hspell (by simp [lookedForNames]) d
  below _ hname e _ := namedAlike_of_spell hspell (mem_lookedForNames hname) e
  table _ := namedAlike_of_spell hspell (by simp [lookedForNames]) d

/-! ## What the rules find -/

theorem isMathMarker_of_reads {new old : Node} (h : new.ReadsAs old) :
    isMathMarker new = isMathMarker old := by
  rw [isMathMarker, h.hasClass, Node.hasAttribute, h.attribute?, isMathMarker, Node.hasAttribute]

theorem isCodeWrapper_of_reads {new old : Node} (h : new.ReadsAs old) :
    isCodeWrapper new = isCodeWrapper old := by
  rw [isCodeWrapper, h.tagName, h.hasClass, isCodeWrapper]

section

variable (hl : Likeness (· ∈ (root tree page).subtree) (respell s))
  (h : d ∈ (root tree page).subtree)
  (hdocument : ∀ a ∈ d.ancestors, NamedAlike (respell s) documentName a)

include hl h hdocument

/-- Every test of nodes that read alike finds the same above. -/
theorem isSome_findAncestor?_respell {test : Node → Bool}
    (htest : ∀ new old : Node, new.ReadsAs old → test new = test old) :
    ((d.respell s).findAncestor? fun a => test a.node).isSome =
      (d.findAncestor? fun a => test a.node).isSome := by
  have hfound : (d.respell s).findAncestor? (fun a => test a.node) =
      (d.findAncestor? fun a => test a.node).map (respell s) :=
    findAncestor?_respell hdocument fun a ha => by
      have habove : a ∈ d.ancestors := (List.takeWhile_sublist _).subset ha
      exact htest _ _ (hl.reads (mem_subtree_of_mem_ancestors h habove))
  rw [hfound, Option.isSome_map]

theorem listLevel_respell : listLevel (d.respell s) = listLevel d := by
  rw [listLevel, elementAncestors_respell hdocument, List.countP_map, listLevel]
  refine List.countP_congr fun a ha => ?_
  have habove : a ∈ d.ancestors := (List.takeWhile_sublist _).subset ha
  rw [Function.comp_apply, (hl.reads (mem_subtree_of_mem_ancestors h habove)).tagName]

/-- A rule looks above its node by names in lower case, classes and selectors. -/
theorem vista_respell {a : Adapter} (ha : a.overrides = {}) : Vista a (respell s) d where
  level _ := listLevel_respell hl h hdocument
  math _ := isSome_findAncestor?_respell hl h hdocument fun _ _ => isMathMarker_of_reads
  wrapper _ := isSome_findAncestor?_respell hl h hdocument fun _ _ => isCodeWrapper_of_reads
  language _ _ hcode := Adapter.codeLanguage_respell ha hl
    (mem_subtree_trans h (mem_subtree_of_codeElement? hcode))

end

theorem isFormula_of_tests (h : (isDisplayMath d || isInlineMath d) = true) : IsFormula d :=
  (Bool.or_eq_true_iff.mp h).imp renderedBy_mathBlock_iff.mpr renderedBy_mathInline_iff.mpr

theorem isElement_of_isFormula (h : IsFormula d) : d.node.isElement = true :=
  isElement_of_hasClass (isFormula_iff.mp h).1

/-- A formula that is no formula element itself looks for one below. -/
theorem math_mem_soughtBelow (h : (isDisplayMath d || isInlineMath d) = true)
    (hname : d.node.tagName ≠ "math") : "math" ∈ soughtBelow d := by
  simp [soughtBelow, h, hname]

/-- Where names are found again, every rule finds in a respelled tree what it found. -/
theorem indifferent_respell (hadapter : setting.adapter ∈ builtinAdapters)
    (hc : c ∈ (root tree page).subtree)
    (hreserved : ∀ d ∈ (root tree page).subtree, d.node.tagName ∉ reservedOwners)
    (hmarkup : ∀ d ∈ c.subtree, IsFormula d → setting.adapter.keepsMarkup d = false)
    (hnames : ∀ d ∈ c.subtree, KeepsNames (respell s) d)
    (habove : ∀ a ∈ c.ancestors, NamedAlike (respell s) documentName a) :
    Indifferent setting (· ∈ c.subtree) (respell s) c.above.length (c.respell s).above.length := by
  have hl : Likeness (· ∈ (root tree page).subtree) (respell s) := likeness_respell hreserved
  have hpage : ∀ d ∈ c.subtree, d ∈ (root tree page).subtree := fun d hd =>
    mem_subtree_trans hc hd
  have hdocument : ∀ d ∈ c.subtree, ∀ a ∈ d.ancestors, NamedAlike (respell s) documentName a := by
    intro d hd a ha
    rcases mem_subtree_or_of_mem_ancestors d hd a ha with hmem | hup
    · exact (hnames a hmem).document
    · exact habove a hup
  exact {
    likeness := likeness_respell fun d hd => hreserved d (hpage d hd)
    vista := fun {d} hd =>
      vista_respell hl (hpage d hd) (hdocument d hd) (overrides_of_mem_builtin hadapter)
    names := fun {d} hd => hnames d hd
    recovers := fun {d} hd htests => by
      have hformula := isFormula_of_tests htests
      exact Adapter.recoversAlike_respell hadapter hl (hpage d hd) (isElement_of_isFormula hformula)
        (hdocument d hd)
        (fun hname => (hnames d hd).below "math" (math_mem_soughtBelow htests hname))
        (hmarkup d hd hformula)
    depth := fun {d} _ => by
      rw [depthFrom, length_above_respell, length_above_respell, depthFrom] }

/-! ## What the rules overlook -/

/-- A table whose own name is written in another way is none of the tables that rows look for. -/
theorem findParent?_isSame_of_name_ne {row : Cursor} (hrow : row ∈ d.descendants)
    (hname : d.node.name ≠ "table") : (row.findParent? "table").any d.isSame = false := by
  obtain ⟨between, hchain, hbetween⟩ := exists_ancestors_eq_of_mem_descendants hrow
  cases hfound : row.findParent? "table" with
  | none => rfl
  | some above =>
    have htable : (above.node.name == "table") = true :=
      List.find?_some (p := fun a : Cursor => a.node.name == "table") hfound
    have hmem : above ∈ between ++ d :: d.ancestors := hchain ▸ List.mem_of_find?_eq_some hfound
    rw [Option.any_some, Cursor.isSame, beq_eq_false_iff_ne]
    -- The table that is found stands below this one or above it.
    rcases List.mem_append.mp hmem with hbelow | hup
    · exact place_ne_of_mem_descendants (hbetween above hbelow)
    · rcases List.mem_cons.mp hup with rfl | hup
      · exact absurd (beq_iff_eq.mp htable) hname
      · intro hplace
        have hshorter := length_above_lt_of_mem_ancestors hup
        have hequal := length_above_eq_of_place_eq hplace
        omega

theorem filledRows_eq_nil
    (h : d.node.name ≠ "table" ∨ ∀ e ∈ d.descendants, e.node.name ≠ "tr") :
    filledRows d = [] := by
  have howned : ownedRows d = [] := by
    rw [ownedRows, List.filter_eq_nil_iff]
    intro row hrow
    obtain ⟨hbelow, hnamed⟩ := List.mem_filter.mp hrow
    rcases h with hname | hrows
    · simp [findParent?_isSame_of_name_ne hbelow hname]
    · simp [hrows row hbelow] at hnamed
  rw [filledRows, howned, List.filter_nil]

theorem outcome_table_of_no_rows {scene : Scene} (helement : scene.node.node.isElement = true)
    (hrows : filledRows scene.node = []) (content : String) (ask : Option Cursor → String) :
    (table scene content).outcome ask = .ok "" := by
  simp only [table, helement, hrows]
  rfl

/-- No rule is for preformatted text in which no code is found. -/
theorem ruleOf?_of_pre (hrules : setting.rules.rules = standardRules)
    (hpre : d.node.tagName = "pre") (hformula : ¬IsFormula d) (hcode : d.find? ["code"] = none) :
    setting.ruleOf? d = none := by
  have hdisplay : isDisplayMath d = false := Bool.eq_false_iff.mpr fun hdisplay =>
    hformula (.inl (renderedBy_mathBlock_iff.mpr hdisplay))
  have hinline : isInlineMath d = false := Bool.eq_false_iff.mpr fun hinline =>
    hformula (.inr (renderedBy_mathInline_iff.mpr hinline))
  have hrefused : ∀ rule ∈ standardRules, rule.filter.accepts d = .ok false := by
    intro rule hrule
    rcases mem_standardRules_iff.mp hrule with h | h
    · cases h with
      | display => exact congrArg Except.ok hdisplay
      | inline => exact congrArg Except.ok hinline
      | codeBlock => exact congrArg Except.ok (by simp [isCodeBlock, hpre, hcode])
    · cases h with
      | codeInline => exact congrArg Except.ok (by simp [isInlineCode, hpre])
      | _ => exact congrArg Except.ok (by simp [hpre])
  rw [Setting.ruleOf?, RuleTable.find, hrules, RuleTable.findIn_eq_none hrefused]

/-- What the rules make of elements whose names are not written as they are looked for. -/
structure Overlooks (setting : Setting) (base : Nat) (d : Cursor) : Prop where
  /-- A table comes to nothing if it is not named `table` or no row is named `tr`. -/
  table : RenderedBy "table" d →
    (d.node.name ≠ "table" ∨ ∀ e ∈ d.descendants, e.node.name ≠ "tr") →
      plainText setting base d = ""
  /-- Preformatted text in which nothing is named `code` is no block of code, but plain content. -/
  code : d.node.tagName = "pre" → ¬IsFormula d → (∀ e ∈ d.descendants, e.node.name ≠ "code") →
    plainText setting base d = plainContent setting base d
  /-- Of a formula in which nothing is named `math` the presentation markup is not read. -/
  formula : d.node.tagName ≠ "math" → (∀ e ∈ d.descendants, e.node.name ≠ "math") →
    setting.adapter.strategy .mathMl d = .ok none

theorem find?_eq_none {name : String} (h : ∀ e ∈ d.descendants, e.node.name ≠ name) :
    d.find? [name] = none := by
  rw [Cursor.find?, List.find?_eq_none]
  intro e he
  simp [h e he]

theorem overlooks (hrules : setting.rules.rules = standardRules)
    (hadapter : setting.adapter.overrides = {}) (base : Nat) (d : Cursor) :
    Overlooks setting base d where
  table hrendered hname := by
    obtain ⟨rule, hmem, hrule, hof, haccepts⟩ := ruleOf?_of_renderedBy hrules hrendered
    have htable : tableRule ∈ standardRules := mem_standardRules_iff.mpr (.inr .table)
    obtain rfl := eq_of_name_eq hmem htable hrule
    have helement : d.node.isElement = true := (of_accepts_tags haccepts).1
    have houtcome : (Render.table (setting.sceneAt base d)
        (plainContent setting base d)).outcome (plainAnswer setting base d) = .ok "" :=
      outcome_table_of_no_rows helement (filledRows_eq_nil hname) _ _
    rw [(plain_of_rule base helement hof).1]
    dsimp only [tableRule, ruleForTags]
    rw [houtcome]
  code hpre hformula hcode := by
    have helement := isElement_of_tagName hpre (by decide)
    exact (plain_of_no_rule base helement
      (ruleOf?_of_pre hrules hpre hformula (find?_eq_none hcode))).1
  formula hname hmath := by
    simp [Adapter.strategy, hadapter, Adapter.fromMathMl, hname, find?_eq_none hmath]

/-! ## Conversions -/

/-- The case of names does not matter as long as what is looked for by names as they are written is
found again. Let a node of a tree be converted by the built-in rules and a built-in adapter, let no
element of the tree keep its text apart, and let no formula keep its markup. If the names of the
elements are written anew, so that the same elements are found under the names that rules look for as
they are written, then the conversion comes to the same. What is looked for under another spelling of
these names is overlooked. -/
theorem convertCounted_respell (hrules : setting.rules.rules = RuleTable.standard.rules)
    (hadapter : setting.adapter ∈ builtinAdapters) (hc : c ∈ (root tree page).subtree)
    (hreserved : ∀ d ∈ (root tree page).subtree, d.node.tagName ∉ reservedOwners)
    (hmarkup : ∀ d ∈ c.subtree, IsFormula d → setting.adapter.keepsMarkup d = false)
    (hnames : ∀ d ∈ c.subtree, KeepsNames (respell s) d)
    (habove : ∀ a ∈ c.ancestors, NamedAlike (respell s) documentName a) :
    (convertCounted setting (some (c.respell s))).map Conversion.gist =
        (convertCounted setting (some c)).map Conversion.gist ∧
      ∀ base d, Overlooks setting base d := by
  have hstandard := hrules.trans rules_standard
  have hplain := overrides_of_mem_builtin hadapter
  have hindifferent := @indifferent_respell setting s tree page c hadapter hc hreserved hmarkup
    hnames habove
  exact ⟨hindifferent.convertCounted hstandard hplain, overlooks hstandard hplain⟩

/-- A page with strong text, a formula and a table. -/
def mixedPage : Node :=
  .document [.element "div" [] [
    .element "p" [] [.element "b" [] [.leaf .plain "a"]],
    .element "span" [⟨"class", .words ["katex"]⟩] [.leaf .plain "x"],
    .element "table" [] [.element "tr" [] [.element "td" [] [.leaf .plain "y"]]]]]

/-- Some names in capitals. -/
def someCapitals : Spelling where
  spell _ name :=
    if name = "div" then "DIV" else if name = "b" then "B" else if name = "span" then "Span"
    else name
  same _ name := by
    split
    · subst name
      decide
    · split
      · subst name
        decide
      · split
        · subst name
          decide
        · rfl

theorem convertCounted_respell_someCapitals :
    mixedPage.respell someCapitals [] = .document [.element "DIV" [] [
        .element "p" [] [.element "B" [] [.leaf .plain "a"]],
        .element "Span" [⟨"class", .words ["katex"]⟩] [.leaf .plain "x"],
        .element "table" [] [.element "tr" [] [.element "td" [] [.leaf .plain "y"]]]]] ∧
      (convertCounted builtinSetting (some (root 0 (mixedPage.respell someCapitals [])))).map
          Conversion.gist =
        (convertCounted builtinSetting (some (root 0 mixedPage))).map Conversion.gist := by
  have hmarkup : ∀ d ∈ (root 0 mixedPage).subtree, Adapter.generic.keepsMarkup d = false := by
    decide
  have hspell : ∀ indexes name, Text.asciiLower name ∈ lookedForNames →
      someCapitals.spell indexes name = name := by
    intro indexes name hname
    have hothers : ∀ other ∈ ["div", "b", "span"], Text.asciiLower other ∉ lookedForNames := by
      decide
    have hne : ∀ other ∈ ["div", "b", "span"], name ≠ other := by
      rintro other hother rfl
      exact hothers name hother hname
    simp [someCapitals, hne "div" (by simp), hne "b" (by simp), hne "span" (by simp)]
  have hadapter : builtinSetting.adapter ∈ builtinAdapters := List.mem_cons_self
  exact ⟨rfl, (convertCounted_respell rfl hadapter (self_mem_subtree (root 0 mixedPage))
    (by decide) (fun d hd _ => hmarkup d hd) (fun d _ => keepsNames_of_spell hspell d)
    (List.forall_mem_nil _)).1⟩

end Transcript
