import Mathlib.Data.List.Pairwise
import Transcript.Proofs.Rule.Registration
import Transcript.Proofs.Rule.Search

/-!
# The order of registration

Which rules an empty table accepts all together is a matter of pairs: no two of them may clash. The
order in which they are offered plays no part in it. Nor does it play a part in what is found for a
node, unless rules of one priority *contend* for the node: the table is sorted by priority, and only
the order of ties depends on the registration.

## Main definitions

- `Uncontended`: of the rules that react to a node, one alone has the lowest priority

## Main results

- `RuleTable.addAll_eq_none_iff`: when a table accepts rules all together
- `RuleTable.Holds.find?_eq`: tables that hold the same rules have the same first rule that reacts
- `RuleTable.addAll_perm`: the order of registration plays no part
- `RuleTable.order_matters_of_failing_filter`: but it does where a filter fails beside one that
  accepts
-/

namespace Transcript

open Markup

/-- Of the rules that react to a node, by accepting it or by failing on it, no two share the lowest
priority. -/
def Uncontended (rules : List Rule) (c : Cursor) : Prop :=
  ∀ a ∈ rules, ∀ b ∈ rules, a.priority = b.priority → a.reactsTo c = true → b.reactsTo c = true →
    (∀ rule ∈ rules, rule.reactsTo c = true → a.priority ≤ rule.priority) → a = b

namespace RuleTable

/-! ## Accepting rules all together -/

/-- An open table accepts rules all together if none of them clashes with a rule of the table, and
no two of them clash. -/
theorem addAll_eq_none_iff {t : RuleTable} {rules : List Rule} (hopen : t.isClosed = false) :
    (t.addAll rules).2 = none ↔
      (∀ existing ∈ t.rules, ∀ rule ∈ rules, ¬ existing.Clashes rule) ∧
        rules.Pairwise fun a b => ¬ a.Clashes b := by
  induction rules generalizing t with
  | nil => simp [addAll]
  | cons rule rest ih =>
    by_cases hclashes : ∀ existing ∈ t.rules, ¬ existing.Clashes rule
    -- The rule is accepted, and the others have to go together with it too.
    · have hadd : t.add rule = .ok { t with rules := insert rule t.rules } :=
        add_eq_ok_iff.mpr ⟨hopen, hclashes, rfl⟩
      have hrest := ih (t := { t with rules := insert rule t.rules }) hopen
      simp only [addAll, hadd, hrest, mem_insert, List.pairwise_cons, List.mem_cons]
      constructor
      · rintro ⟨hexisting, hpairs⟩
        refine ⟨fun existing hmem other hother => ?_, fun other hother => ?_, hpairs⟩
        · rcases hother with rfl | hother
          · exact hclashes existing hmem
          · exact hexisting existing (.inr hmem) other hother
        · exact hexisting rule (.inl rfl) other hother
      · rintro ⟨hexisting, hfirst, hpairs⟩
        refine ⟨fun existing hmem other hother => ?_, hpairs⟩
        rcases hmem with rfl | hmem
        · exact hfirst other hother
        · exact hexisting existing hmem other (.inr hother)
    -- The rule is refused.
    · cases hadd : t.add rule with
      | ok t' => exact absurd (add_eq_ok_iff.mp hadd).2.1 hclashes
      | error fault =>
        simp only [addAll, hadd, reduceCtorEq, false_iff]
        intro h
        exact hclashes fun existing hmem => h.1 existing hmem rule List.mem_cons_self

/-- An empty table accepts rules all together if no two of them clash. -/
theorem addAll_empty_eq_none_iff {rules : List Rule} :
    (({} : RuleTable).addAll rules).2 = none ↔ rules.Pairwise fun a b => ¬ a.Clashes b := by
  rw [addAll_eq_none_iff rfl]
  simp

/-- Rules that an empty table accepts all together become its history. -/
theorem holds_addAll_empty {rules : List Rule} (h : (({} : RuleTable).addAll rules).2 = none) :
    (({} : RuleTable).addAll rules).1.Holds rules := by
  have hholds := holds_empty.addAll rules
  rcases addAll_cases {} rules with ⟨t', -, haccepted⟩ |
    ⟨t', fault, before, offending, later, -, -, -, -, hall⟩
  · rwa [haccepted, List.nil_append] at hholds
  · rw [hall] at h
    cases h

/-! ## The first rule that reacts -/

/-- The first rule that reacts has the lowest priority of those that do. -/
theorem Holds.first_le {t : RuleTable} {rules : List Rule} {c : Cursor} {first : Rule}
    (h : t.Holds rules) (hfirst : t.rules.find? (·.reactsTo c) = some first) :
    first ∈ rules ∧ first.reactsTo c = true ∧
      ∀ rule ∈ rules, rule.reactsTo c = true → first.priority ≤ rule.priority := by
  obtain ⟨hreacts, before, later, hsplit, hbefore⟩ := List.find?_eq_some_iff_append.mp hfirst
  have hmem : first ∈ t.rules := by simp [hsplit]
  refine ⟨h.perm.mem_iff.mp hmem, hreacts, fun rule hrule hrulereacts => ?_⟩
  have hin : rule ∈ before ++ first :: later := hsplit ▸ h.perm.mem_iff.mpr hrule
  rcases List.mem_append.mp hin with hearlier | hrest
  -- No rule in front reacts.
  · have hquiet := hbefore rule hearlier
    simp [hrulereacts] at hquiet
  · rcases List.mem_cons.mp hrest with rfl | hlater
    · exact Int.le_refl _
    · have hsorted : (first :: later).Pairwise fun a b => a.priority ≤ b.priority :=
        (hsplit ▸ h.sorted).sublist (List.sublist_append_right _ _)
      exact (List.pairwise_cons.mp hsorted).1 rule hlater

/-- Two tables that hold the same rules have the same first rule that reacts to a node for which no
rules contend. -/
theorem Holds.find?_eq {t u : RuleTable} {rules order : List Rule} {c : Cursor}
    (ht : t.Holds rules) (hu : u.Holds order) (hperm : rules.Perm order)
    (halone : Uncontended rules c) :
    t.rules.find? (·.reactsTo c) = u.rules.find? (·.reactsTo c) := by
  have htables : t.rules.Perm u.rules := ht.perm.trans (hperm.trans hu.perm.symm)
  cases hfirst : t.rules.find? (·.reactsTo c) with
  | none =>
    have hquiet := List.find?_eq_none.mp hfirst
    exact (List.find?_eq_none.mpr fun rule hrule => hquiet rule (htables.mem_iff.mpr hrule)).symm
  | some a =>
    obtain ⟨ha, hareacts, haleast⟩ := ht.first_le hfirst
    cases hother : u.rules.find? (·.reactsTo c) with
    | none =>
      have hquiet := List.find?_eq_none.mp hother a (hu.perm.mem_iff.mpr (hperm.mem_iff.mp ha))
      exact absurd hareacts hquiet
    -- Both have the lowest priority, and there is only one such rule.
    | some b =>
      obtain ⟨hb, hbreacts, hbleast⟩ := hu.first_le hother
      have hb' : b ∈ rules := hperm.mem_iff.mpr hb
      have hpriority : a.priority = b.priority :=
        Int.le_antisymm (haleast b hb' hbreacts) (hbleast a (hperm.mem_iff.mp ha) hareacts)
      rw [halone a ha b hb' hpriority hareacts hbreacts haleast]

/-! ## Nodes for which no rules contend -/

theorem reactsTo_of_answers {rule : Rule} {c : Cursor}
    (h : ∃ accepted, rule.filter.accepts c = .ok accepted) (hreacts : rule.reactsTo c = true) :
    rule.filter.accepts c = .ok true := by
  obtain ⟨accepted, haccepts⟩ := h
  cases accepted with
  | true => exact haccepts
  | false => simp [Rule.reactsTo, haccepts] at hreacts

/-- Where no filter fails, rules contend by accepting the node. -/
theorem uncontended_of_answers {rules : List Rule} {c : Cursor}
    (hanswers : ∀ rule ∈ rules, ∃ accepted, rule.filter.accepts c = .ok accepted)
    (happart : ∀ a ∈ rules, ∀ b ∈ rules, a.priority = b.priority →
      a.filter.accepts c = .ok true → b.filter.accepts c = .ok true → a = b) :
    Uncontended rules c := by
  intro a ha b hb hpriority hareacts hbreacts _
  exact happart a ha b hb hpriority (reactsTo_of_answers (hanswers a ha) hareacts)
    (reactsTo_of_answers (hanswers b hb) hbreacts)

/-- Two different rules of a list without clashes do not clash. -/
theorem not_clashes_of_pairwise {rules : List Rule} (h : rules.Pairwise fun a b => ¬ a.Clashes b)
    {a b : Rule} (ha : a ∈ rules) (hb : b ∈ rules) (hab : a ≠ b) : ¬ a.Clashes b := by
  have : Std.Symm fun a b : Rule => ¬ a.Clashes b := ⟨fun _ _ hxy hyx => hxy hyx.symm⟩
  exact h.forall ha hb hab

/-- Rules for sets of names that do not clash contend for no node: what would let two of them react
is a name that their sets share. -/
theorem uncontended_of_tags {rules : List Rule} (hpairs : rules.Pairwise fun a b => ¬ a.Clashes b)
    (htags : ∀ rule ∈ rules, ∃ names, rule.filter = .tags names) (c : Cursor) :
    Uncontended rules c := by
  intro a ha b hb hpriority hareacts hbreacts _
  by_contra hab
  obtain ⟨names, hnames⟩ := htags a ha
  obtain ⟨others, hothers⟩ := htags b hb
  -- The name of the node, in lower case, is in both sets.
  have hoverlaps : a.filter.overlaps b.filter = true := by
    rw [hnames, hothers]
    simp only [RuleFilter.overlaps, List.any_eq_true, List.contains_iff_mem]
    exact ⟨c.node.tagName, Rule.mem_of_reactsTo hnames hareacts,
      Rule.mem_of_reactsTo hothers hbreacts⟩
  exact not_clashes_of_pairwise hpairs ha hb hab (.inr ⟨hpriority, hoverlaps⟩)

/-! ## The order plays no part -/

/-- Whether an empty table accepts rules all together does not depend on their order. If it does
accept them, the order plays no part in what is found for a node for which no rules contend. In
particular, where no filter fails and no two rules of one priority accept a node, and for every node
if all filters are sets of names, the same rule is found, or the lack of one. -/
theorem addAll_perm {rules order : List Rule} (hperm : rules.Perm order) :
    ((({} : RuleTable).addAll rules).2 = none ↔ (({} : RuleTable).addAll order).2 = none) ∧
    ((({} : RuleTable).addAll rules).2 = none →
      (∀ c : Cursor, Uncontended rules c →
        (({} : RuleTable).addAll rules).1.find c = (({} : RuleTable).addAll order).1.find c) ∧
      (∀ c : Cursor, (∀ rule ∈ rules, ∃ accepted, rule.filter.accepts c = .ok accepted) →
        (∀ a ∈ rules, ∀ b ∈ rules, a.priority = b.priority →
          a.filter.accepts c = .ok true → b.filter.accepts c = .ok true → a = b) →
        ∃ found, (({} : RuleTable).addAll rules).1.find c = .ok found ∧
          (({} : RuleTable).addAll order).1.find c = .ok found) ∧
      ((∀ rule ∈ rules, ∃ names, rule.filter = .tags names) → ∀ c : Cursor,
        ∃ found, (({} : RuleTable).addAll rules).1.find c = .ok found ∧
          (({} : RuleTable).addAll order).1.find c = .ok found)) := by
  have hsymm : ∀ {a b : Rule}, ¬ a.Clashes b → ¬ b.Clashes a := fun hab hba => hab hba.symm
  have hsame : (({} : RuleTable).addAll rules).2 = none ↔
      (({} : RuleTable).addAll order).2 = none := by
    rw [addAll_empty_eq_none_iff, addAll_empty_eq_none_iff]
    exact hperm.pairwise_iff hsymm
  refine ⟨hsame, fun hall => ?_⟩
  have hrules := holds_addAll_empty hall
  have horder := holds_addAll_empty (hsame.mp hall)
  have hfind : ∀ c : Cursor, Uncontended rules c →
      (({} : RuleTable).addAll rules).1.find c = (({} : RuleTable).addAll order).1.find c := by
    intro c halone
    rw [find, find, findIn_eq, findIn_eq, hrules.find?_eq horder hperm halone]
  -- Where all filters answer, the search comes to something.
  have hfound : ∀ c : Cursor, (∀ rule ∈ rules, ∃ accepted, rule.filter.accepts c = .ok accepted) →
      Uncontended rules c → ∃ found, (({} : RuleTable).addAll rules).1.find c = .ok found ∧
        (({} : RuleTable).addAll order).1.find c = .ok found := by
    intro c hanswers halone
    obtain ⟨found, hfound⟩ := findIn_of_answers
      fun rule hrule => hanswers rule (hrules.perm.mem_iff.mp hrule)
    exact ⟨found, hfound, hfind c halone ▸ hfound⟩
  refine ⟨hfind, fun c hanswers happart => ?_, fun htags c => ?_⟩
  · exact hfound c hanswers (uncontended_of_answers hanswers happart)
  · refine hfound c (fun rule hrule => ?_)
      (uncontended_of_tags (addAll_empty_eq_none_iff.mp hall) htags c)
    obtain ⟨names, hnames⟩ := htags rule hrule
    exact ⟨_, by rw [hnames]; rfl⟩

/-! ## Filters that fail -/

/-- A rule for paragraphs. -/
def paragraphRule : Rule :=
  ⟨"named", 1, .tags ["p"], fun _ => .done⟩

/-- A rule whose filter fails on every node. -/
def failingRule (priority : Int) : Rule :=
  ⟨"failing", priority, .predicate ⟨"raise:boom", fun _ => .error (.of .badValue "boom")⟩,
    fun _ => .done⟩

/-- A paragraph. -/
def loneParagraph : Cursor :=
  Cursor.root 0 (.element "p" [] [])

theorem not_accepts_failingRule (priority : Int) (c : Cursor) :
    (failingRule priority).filter.accepts c ≠ .ok true := by
  intro h
  cases h

/-- Behind the rule that accepts a paragraph, a filter that fails does no harm in either order. -/
theorem addAll_perm_paragraph :
    [failingRule 2, paragraphRule].Perm [paragraphRule, failingRule 2] ∧
      (({} : RuleTable).addAll [failingRule 2, paragraphRule]).2 = none ∧
      Uncontended [failingRule 2, paragraphRule] loneParagraph ∧
      (({} : RuleTable).addAll [failingRule 2, paragraphRule]).1.find loneParagraph =
        .ok (some paragraphRule) ∧
      (({} : RuleTable).addAll [paragraphRule, failingRule 2]).1.find loneParagraph =
        .ok (some paragraphRule) := by
  have hperm : [failingRule 2, paragraphRule].Perm [paragraphRule, failingRule 2] :=
    .swap paragraphRule (failingRule 2) []
  have hall : (({} : RuleTable).addAll [failingRule 2, paragraphRule]).2 = none := by rfl
  have halone : Uncontended [failingRule 2, paragraphRule] loneParagraph := by
    intro a ha b hb hpriority _ _ _
    have hdiffer : (failingRule 2).priority ≠ paragraphRule.priority := by decide
    simp only [List.mem_cons, List.not_mem_nil, or_false] at ha hb
    rcases ha with rfl | rfl
    · rcases hb with rfl | rfl
      · rfl
      · exact absurd hpriority hdiffer
    · rcases hb with rfl | rfl
      · exact absurd hpriority.symm hdiffer
      · rfl
  have hfind := ((addAll_perm hperm).2 hall).1 loneParagraph halone
  have hfirst : (({} : RuleTable).addAll [failingRule 2, paragraphRule]).1.find loneParagraph =
      .ok (some paragraphRule) := by rfl
  exact ⟨hperm, hall, halone, hfirst, hfind ▸ hfirst⟩

/-- It is not enough that no two rules of one priority accept a node: where the filter of one fails
and another of its priority accepts, the rule registered first decides between the failure and the
rule. -/
theorem order_matters_of_failing_filter :
    ¬ ∀ rules order : List Rule, rules.Perm order →
      (({} : RuleTable).addAll rules).2 = none → (({} : RuleTable).addAll order).2 = none →
      ∀ c : Cursor,
        (∀ a ∈ rules, ∀ b ∈ rules, a.priority = b.priority →
          a.filter.accepts c = .ok true → b.filter.accepts c = .ok true → a = b) →
        (({} : RuleTable).addAll rules).1.find c = (({} : RuleTable).addAll order).1.find c := by
  intro h
  have happart : ∀ a ∈ [failingRule 1, paragraphRule], ∀ b ∈ [failingRule 1, paragraphRule],
      a.priority = b.priority → a.filter.accepts loneParagraph = .ok true →
        b.filter.accepts loneParagraph = .ok true → a = b := by
    -- Only one of the two accepts anything.
    intro a ha b hb _ haccepts hbccepts
    simp only [List.mem_cons, List.not_mem_nil, or_false] at ha hb
    rcases ha with rfl | rfl
    · exact absurd haccepts (not_accepts_failingRule 1 loneParagraph)
    · rcases hb with rfl | rfl
      · exact absurd hbccepts (not_accepts_failingRule 1 loneParagraph)
      · rfl
  have hsame := h [failingRule 1, paragraphRule] [paragraphRule, failingRule 1]
    (.swap paragraphRule (failingRule 1) []) rfl rfl loneParagraph happart
  have hfails : (({} : RuleTable).addAll [failingRule 1, paragraphRule]).1.find loneParagraph =
      .error (.of .badValue "boom") := by rfl
  have hfinds : (({} : RuleTable).addAll [paragraphRule, failingRule 1]).1.find loneParagraph =
      .ok (some paragraphRule) := by rfl
  rw [hfails, hfinds] at hsame
  cases hsame

end RuleTable

end Transcript
