import Mathlib.Data.List.Flatten
import Transcript.Proofs.Conversion.Tempered
import Transcript.Proofs.Render.Display
import Transcript.Proofs.Render.LineEnd

/-!
# Where the text of a node stands

Elements without a rule leave no trace in a document: what is joined are the texts of the nodes that
are reached through them. So the text in front of a node that no rule encloses is made of the texts
of such nodes, and whether the node begins a line depends on the last one of them that has a text.
Blocks come to whole lines, and begin a line behind each other. Behind text, formulas and inline
formatting they begin where these end.

## Main definitions

- `pieces`: the nodes whose texts make up a document

## Main results

- `plainText_eq_join_pieces`: a document is joined from its pieces
- `mem_pieces`: a node that no rule encloses is a piece
- `convertCounted_begins_line_iff`: when the text of a block begins a line
-/

namespace Transcript

open Markup Render

variable {setting : Setting} {c d : Cursor}

/-! ## Pieces -/

/-- Whether a node is an element for which there is no rule. -/
def Setting.passesThrough (setting : Setting) (c : Cursor) : Bool :=
  c.node.isElement && (setting.ruleOf? c).isNone

/-- The closest nodes that are no elements without a rule, in document order: the node itself, or
those below it. -/
def pieces (setting : Setting) (c : Cursor) : List Cursor :=
  if setting.passesThrough c then
    c.children.attach.flatMap fun d => pieces setting d.val
  else [c]
termination_by sizeOf c.node
decreasing_by exact Cursor.sizeOf_lt_of_mem_children d.property

theorem pieces_eq (setting : Setting) (c : Cursor) :
    pieces setting c =
      if setting.passesThrough c then c.children.flatMap (pieces setting) else [c] := by
  rw [pieces, ← List.flatMap_map, List.attach_map_subtype_val]

/-- Pieces stand in document order. -/
theorem pieces_sublist_subtree (setting : Setting) (c : Cursor) :
    (pieces setting c).Sublist c.subtree := by
  induction c using Cursor.children_induction with
  | step c ih =>
    rw [pieces_eq, Cursor.subtree_eq]
    split
    · exact (List.Sublist.flatMap_right _ ih).cons _
    · exact (List.nil_sublist _).cons_cons _

theorem nodup_pieces (setting : Setting) (c : Cursor) : (pieces setting c).Nodup := by
  apply List.Nodup.sublist (pieces_sublist_subtree setting c)
  exact (Cursor.pairwise_place_subtree c).imp fun hne heq => hne (congrArg Cursor.place heq)

/-- What stands in a subtree is a piece if everything that it stands in has no rule, and it has one
itself or is no element. -/
theorem mem_pieces (hd : d ∈ c.subtree) (hself : setting.passesThrough d = false)
    (habove : ∀ a ∈ c.subtree, d ∈ a.descendants → setting.passesThrough a = true) :
    d ∈ pieces setting c := by
  induction c using Cursor.children_induction with
  | step c ih =>
    rw [pieces_eq]
    rcases Cursor.mem_subtree_iff.mp hd with rfl | hbelow
    · rw [hself, if_neg Bool.false_ne_true]
      exact List.mem_singleton_self d
    · rw [if_pos (habove c (Cursor.self_mem_subtree c) hbelow)]
      rw [Cursor.descendants_eq] at hbelow
      obtain ⟨x, hx, hdx⟩ := List.mem_flatMap.mp hbelow
      have hsub := Cursor.mem_subtree_of_mem_children hx
      exact List.mem_flatMap.mpr ⟨x, hx,
        ih x hx hdx fun a ha hda => habove a (Cursor.mem_subtree_trans hsub ha) hda⟩

/-- To join what has been joined is to join all at once. -/
theorem join_map_join {α : Type} (f : α → List String) (xs : List α) :
    String.join (xs.map fun x => String.join (f x)) = String.join (xs.flatMap f) := by
  induction xs with
  | nil => rfl
  | cons x rest ih =>
    rw [List.map_cons, String.join_cons, ih, List.flatMap_cons, String.join_append]

/-- A document is joined from the texts of its pieces. -/
theorem plainText_eq_join_pieces (setting : Setting) (base : Nat) (c : Cursor) :
    plainText setting base c = String.join ((pieces setting c).map (plainText setting base)) := by
  induction c using Cursor.children_induction with
  | step c ih =>
    rw [pieces_eq]
    split
    · rename_i hpasses
      simp only [Setting.passesThrough, Bool.and_eq_true, Option.isNone_iff_eq_none] at hpasses
      rw [(plain_of_no_rule base hpasses.1 hpasses.2).1, plainContent, List.map_congr_left ih,
        List.map_flatMap, join_map_join]
    · simp

/-! ## Ends of lines in a conversion -/

/-- The rules for blocks. -/
def blockNames : List String :=
  ["heading", "code-block", "table", "blockquote", "list"]

/-- The tests of the built-in rules hold of elements only. -/
theorem isElement_of_mem_standardTests {test : Cursor → Bool} (h : test ∈ standardTests)
    (hholds : test c = true) : c.node.isElement = true := by
  simp only [standardTests, List.mem_cons, List.not_mem_nil, or_false] at h
  rcases h with rfl | rfl | rfl | rfl
  · simp only [isDisplayMath, Bool.and_eq_true] at hholds
    exact Cursor.isElement_of_hasClass hholds.1
  · simp only [isInlineMath, Bool.and_eq_true] at hholds
    exact Cursor.isElement_of_hasClass hholds.1.2
  · unfold isCodeBlock at hholds
    split at hholds
    · rename_i hpre
      exact Cursor.isElement_of_tagName (by simpa using hpre) (by decide)
    · rw [Bool.and_eq_true] at hholds
      exact Cursor.isElement_of_hasClass hholds.1
  · simp only [isInlineCode, Bool.and_eq_true, beq_iff_eq] at hholds
    exact Cursor.isElement_of_tagName hholds.1 (by decide)

/-- The built-in rules accept elements only. -/
theorem isElement_of_mem_standardRules {rule : Rule} (h : rule ∈ standardRules)
    (haccepts : rule.filter.accepts c = .ok true) : c.node.isElement = true := by
  rcases filter_of_mem_standardRules h with ⟨names, hfilter⟩ | ⟨name, test, htest, hfilter⟩
  · rw [hfilter] at haccepts
    exact (of_accepts_tags haccepts).1
  · rw [hfilter] at haccepts
    exact isElement_of_mem_standardTests htest (Except.ok.inj haccepts)

/-- A conversion by the built-in rules that is not given up joins the texts of the pieces. The text
of a block that no rule encloses begins a line exactly if there is no text in front of it, or the
last piece in front of it that has a text ends a line. As long as nothing was recovered from, blocks
do, and so do paragraphs, horizontal rules and line breaks. -/
theorem convertCounted_begins_line_iff {setting : Setting} {root d : Cursor} {result : Conversion}
    (hrules : setting.rules.rules = RuleTable.standard.rules)
    (hresult : convertCounted setting (some root) = .ok result)
    (hdone : result.abortReason = none) (hd : d ∈ root.subtree)
    (hblock : ∃ name ∈ blockNames, RenderedBy name d)
    (habove : ∀ a ∈ root.subtree, d ∈ a.descendants → setting.ruleOf? a = none) :
    ∃ (s : Session) (value : Cursor → String) (before after : List Cursor),
      traverse setting (some root) (Session.start setting (some root)) =
        (.ok result.markdown, s) ∧
      value = plainText setting root.above.length ∧
      (∀ e ∈ root.subtree, s.textAt? (some e.place) = some (value e)) ∧
      setting.adapter.cleanText (value root) = .ok result.markdown ∧
      pieces setting root = before ++ d :: after ∧ d ∉ before ∧
      value root =
        String.join (before.map value) ++ value d ++ String.join (after.map value) ∧
      (EndsLine (String.join (before.map value)) ↔
        ∀ e ∈ (before.filter (value · ≠ "")).getLast?, EndsLine (value e)) ∧
      (result.issues = [] → ∀ e ∈ before ++ d :: after,
        (∃ name ∈ lineRuleNames, RenderedBy name e) → EndsLine (value e)) := by
  rw [rules_standard] at hrules
  obtain ⟨s, htraverse, hclean, htexts, houtcome⟩ := converted_of_builtin hrules hresult hdone
  -- The block has a rule, and nothing above it has one.
  have hself : setting.passesThrough d = false := by
    obtain ⟨name, -, hrendered⟩ := hblock
    obtain ⟨rule, -, -, hrule, -⟩ := ruleOf?_of_renderedBy hrules hrendered
    simp [Setting.passesThrough, hrule]
  have hpiece : d ∈ pieces setting root := by
    refine mem_pieces hd hself fun a ha hda => ?_
    have helement : a.node.isElement = true := by
      rw [Cursor.descendants_eq] at hda
      obtain ⟨x, hx, -⟩ := List.mem_flatMap.mp hda
      exact Cursor.isElement_of_mem_children hx
    simp [Setting.passesThrough, helement, habove a ha hda]
  obtain ⟨before, after, hsplit⟩ := List.append_of_mem hpiece
  have hapart : d ∉ before := by
    have hnodup := nodup_pieces setting root
    rw [hsplit] at hnodup
    intro hmem
    exact (List.nodup_append.mp hnodup).2.2 d hmem d List.mem_cons_self rfl
  refine ⟨s, plainText setting root.above.length, before, after, htraverse, rfl, htexts, hclean,
    hsplit, hapart, ?_, ?_, ?_⟩
  · rw [plainText_eq_join_pieces, hsplit, List.map_append, List.map_cons, String.join_append,
      String.join_cons, String.append_assoc]
  · rw [endsLine_join_iff, List.filter_map, List.getLast?_map]
    simp only [Option.mem_def, Option.map_eq_some_iff, forall_exists_index, and_imp,
      forall_apply_eq_imp_iff₂]
    rfl
  · rintro hissues e he ⟨name, hname, hrendered⟩
    obtain ⟨rule, hmem, rfl, hrule, haccepts⟩ := ruleOf?_of_renderedBy hrules hrendered
    have helement := isElement_of_mem_standardRules hmem haccepts
    have hsub : e ∈ root.subtree := (pieces_sublist_subtree setting root).subset (hsplit ▸ he)
    exact endsLine_of_mem_standardRules hmem hname _ _ _
      (houtcome hissues e hsub helement rule hrule)

/-- A heading. -/
def plainHeading : Node :=
  .element "h1" [] [.leaf .plain "t"]

/-- A heading with text in front of it. -/
def headingBehindText : Cursor :=
  .root 0 (.element "div" [] [.leaf .plain "x", plainHeading])

/-- The heading in it. -/
def innerHeading : Cursor :=
  ⟨0, plainHeading, [⟨headingBehindText.node, 1⟩]⟩

/-- The text in front of it. -/
def leadingText : Cursor :=
  ⟨0, .leaf .plain "x", [⟨headingBehindText.node, 0⟩]⟩

/-- The text of the heading. -/
def headingText : Cursor :=
  ⟨0, .leaf .plain "t", [⟨plainHeading, 0⟩, ⟨headingBehindText.node, 1⟩]⟩

theorem plainText_innerHeading (base : Nat) :
    plainText builtinSetting base innerHeading = "# t\n\n" := by
  have hrule : builtinSetting.ruleOf? innerHeading = some headingRule := rfl
  have hchildren : innerHeading.children = [headingText] := rfl
  have hcontent : plainContent builtinSetting base innerHeading = "t" := by
    rw [plainContent, hchildren, List.map_singleton, (plain_of_leaf builtinSetting base rfl).1]
    rfl
  have hlevel : headingLevel innerHeading.node.tagName = .ok 1 := rfl
  have hword : (Text.join " " (Text.words "t") == "") = false := by decide
  rw [(plain_of_rule base rfl hrule).1, hcontent]
  simp only [headingRule, ruleForTags, heading, Setting.sceneAt, hlevel, hword]
  rfl

/-- The heading does not begin a line. -/
theorem convertCounted_begins_line_iff_behindText :
    ∃ result, convertCounted builtinSetting (some headingBehindText) = .ok result ∧
      result.abortReason = none ∧ innerHeading ∈ headingBehindText.subtree ∧
      RenderedBy "heading" innerHeading ∧
      (∀ a ∈ headingBehindText.subtree, innerHeading ∈ a.descendants →
        builtinSetting.ruleOf? a = none) ∧
      pieces builtinSetting headingBehindText = [leadingText, innerHeading] ∧
      ¬EndsLine (plainText builtinSetting headingBehindText.above.length leadingText) ∧
      result.markdown = "x# t\n\n" := by
  have htame : ∀ d ∈ headingBehindText.subtree,
      Tame builtinSetting headingBehindText.above.length d :=
    fun d _ => tame_of_standard rules_standard rfl _ d
  have hviolation : violation? builtinSetting headingBehindText = none :=
    violation?_eq_none_of_still rfl (fun _ => rfl) (by decide) (by decide)
  obtain ⟨result, hresult, hdone, -⟩ :=
    convertCounted_of_no_violation htame (by decide) hviolation rfl
  have hsubtree : headingBehindText.subtree =
      [headingBehindText, leadingText, innerHeading, headingText] := rfl
  have hmem : innerHeading ∈ headingBehindText.subtree := by
    rw [hsubtree]
    simp
  have hrendered : RenderedBy "heading" innerHeading :=
    ⟨_, (find_standard innerHeading).trans rfl, rfl⟩
  -- Only the root stands higher than the heading.
  have habove : ∀ a ∈ headingBehindText.subtree, innerHeading ∈ a.descendants →
      builtinSetting.ruleOf? a = none := by
    intro a ha hbelow
    have hhigher := Cursor.length_above_lt_of_mem_descendants hbelow
    simp only [hsubtree, List.mem_cons, List.not_mem_nil, or_false] at ha
    rcases ha with rfl | rfl | rfl | rfl
    · rfl
    · exact absurd hhigher (by decide)
    · exact absurd hhigher (by decide)
    · exact absurd hhigher (by decide)
  obtain ⟨s, value, before, after, -, rfl, -, hclean, -⟩ :=
    convertCounted_begins_line_iff rfl hresult hdone hmem ⟨"heading", by decide, hrendered⟩ habove
  have hpieces : pieces builtinSetting headingBehindText = [leadingText, innerHeading] := by
    rw [pieces_eq]
    show pieces builtinSetting leadingText ++ (pieces builtinSetting innerHeading ++ []) = _
    rw [pieces_eq, pieces_eq]
    rfl
  have hlead : plainText builtinSetting headingBehindText.above.length leadingText = "x" :=
    (plain_of_leaf builtinSetting _ rfl).1
  refine ⟨result, hresult, hdone, hmem, hrendered, habove, hpieces, ?_, ?_⟩
  · rw [hlead]
    decide
  · rw [plainText_eq_join_pieces, hpieces, List.map_cons, List.map_cons, hlead,
      plainText_innerHeading] at hclean
    exact (Except.ok.inj hclean).symm

end Transcript
