import Transcript.Rule.Table

/-!
# Searching the rules

A search asks the filters of the rules one after another. It ends at the first rule that *reacts* to
the node, by accepting it or by failing on it: an accepting rule is what is found, and a failing one
makes the search fail.

## Main definitions

- `Rule.reactsTo`: whether a filter accepts a node or fails on it

## Main results

- `RuleTable.findIn_of_answers`, `RuleTable.accepts_of_findIn`: the outcome of a search
- `RuleTable.findIn_eq`: the first rule that reacts settles the outcome
-/

namespace Transcript

open Markup

/-- Whether the filter of a rule accepts a node or fails on it. -/
def Rule.reactsTo (rule : Rule) (c : Cursor) : Bool :=
  match rule.filter.accepts c with
  | .ok false => false
  | _ => true

/-- A set of names never fails, so it reacts to the nodes whose name it holds. -/
theorem Rule.mem_of_reactsTo {rule : Rule} {names : List String} {c : Cursor}
    (hrule : rule.filter = .tags names) (h : rule.reactsTo c = true) : c.node.tagName ∈ names := by
  by_cases hmem : c.node.tagName ∈ names
  · exact hmem
  · have haccepts : rule.filter.accepts c = .ok false := by simp [hrule, RuleFilter.accepts, hmem]
    simp [reactsTo, haccepts] at h

namespace RuleTable

theorem findIn_of_answers {c : Cursor} {rules : List Rule}
    (h : ∀ rule ∈ rules, ∃ accepted, rule.filter.accepts c = .ok accepted) :
    ∃ found, findIn c rules = .ok found := by
  induction rules with
  | nil => exact ⟨none, rfl⟩
  | cons rule rest ih =>
    obtain ⟨accepted, haccepts⟩ := h rule (by simp)
    simp only [findIn, haccepts]
    cases accepted with
    | true => exact ⟨some rule, rfl⟩
    | false => exact ih fun other hother => h other (by simp [hother])

theorem findIn_eq_none {c : Cursor} {rules : List Rule}
    (h : ∀ rule ∈ rules, rule.filter.accepts c = .ok false) : findIn c rules = .ok none := by
  induction rules with
  | nil => rfl
  | cons rule rest ih =>
    have hrest := ih fun other hother => h other (List.mem_cons_of_mem _ hother)
    rw [findIn, h rule List.mem_cons_self, hrest]

theorem accepts_of_findIn {c : Cursor} {rules : List Rule} {rule : Rule}
    (h : findIn c rules = .ok (some rule)) :
    rule ∈ rules ∧ rule.filter.accepts c = .ok true := by
  induction rules with
  | nil => simp [findIn] at h
  | cons other rest ih =>
    simp only [findIn] at h
    split at h
    · simp at h
    · rename_i haccepts
      obtain rfl : other = rule := by simpa using h
      exact ⟨List.mem_cons_self, haccepts⟩
    · exact ⟨List.mem_cons_of_mem _ (ih h).1, (ih h).2⟩

/-- The outcome of a search is settled by the first rule that reacts. -/
theorem findIn_eq (c : Cursor) (rules : List Rule) :
    findIn c rules =
      match rules.find? (·.reactsTo c) with
      | none => .ok none
      | some rule => (rule.filter.accepts c).map fun _ => some rule := by
  induction rules with
  | nil => rfl
  | cons rule rest ih =>
    rw [List.find?_cons, findIn]
    cases haccepts : rule.filter.accepts c with
    | error fault =>
      have hreacts : rule.reactsTo c = true := by simp [Rule.reactsTo, haccepts]
      simp [hreacts, haccepts, Except.map]
    | ok accepted =>
      cases accepted with
      | true =>
        have hreacts : rule.reactsTo c = true := by simp [Rule.reactsTo, haccepts]
        simp [hreacts, haccepts, Except.map]
      -- A rule that does not react is passed over.
      | false =>
        have hreacts : rule.reactsTo c = false := by simp [Rule.reactsTo, haccepts]
        simp [hreacts, ih]

/-- Where all filters answer, a node that some rule accepts has a rule. -/
theorem exists_findIn {c : Cursor} {rules : List Rule} {rule : Rule}
    (h : ∀ other ∈ rules, ∃ accepted, other.filter.accepts c = .ok accepted) (hrule : rule ∈ rules)
    (haccepts : rule.filter.accepts c = .ok true) : ∃ found, findIn c rules = .ok (some found) := by
  obtain ⟨found, hfound⟩ := findIn_of_answers h
  cases found with
  | some found => exact ⟨found, hfound⟩
  | none =>
    rw [findIn_eq] at hfound
    split at hfound
    · rename_i hnone
      have hreacts := List.find?_eq_none.mp hnone rule hrule
      simp [Rule.reactsTo, haccepts] at hreacts
    · rename_i other hother
      cases hanswer : other.filter.accepts c with
      | ok accepted => simp [hanswer, Except.map] at hfound
      | error fault => simp [hanswer, Except.map] at hfound

end RuleTable

end Transcript
