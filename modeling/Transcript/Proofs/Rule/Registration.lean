import Mathlib.Data.List.Sort
import Mathlib.Data.String.Basic
import Transcript.Rule.Table

/-!
# Registration

A rule table is built by registrations, of which some fail. Whatever their order, the table stays
sorted by priority, with the rules of a priority in the order of their registration, and no two of
its rules clash. The invariant speaks of the table together with the *history*: the rules that were
accepted, in order.

## Main definitions

- `Rule.Clashes`: two rules that no table holds together
- `RuleTable.Holds`: the invariant, for a table and a history
- `RuleTable.Operation`, `RuleTable.step`, `RuleTable.run`: operations on a table
- `RuleTable.history`: the rules accepted on the way

## Main results

- `RuleTable.add_eq_ok_iff`: when a rule is accepted
- `RuleTable.addAll_cases`: rules are accepted up to the first that is not
- `RuleTable.holds_step`, `RuleTable.holds_run`: the invariant along a step and a run
- `RuleTable.run_invariant`: the invariant, and what failures leave behind
-/

namespace Transcript

/-! ## Clashes -/

/-- Two rules clash if they share their name, or if they have one priority and provably share a
node. -/
def Rule.Clashes (rule other : Rule) : Prop :=
  rule.name = other.name ∨
    (rule.priority = other.priority ∧ rule.filter.overlaps other.filter = true)

theorem RuleFilter.overlaps_comm (f g : RuleFilter) : f.overlaps g = g.overlaps f := by
  cases f with
  | selector a =>
    cases g with
    | selector b => exact Bool.beq_comm
    | tags b => rfl
    | predicate q => rfl
  | predicate p => cases g <;> rfl
  | tags a =>
    cases g with
    | selector b => rfl
    | predicate q => rfl
    | tags b =>
      -- Either side says that some name is in both lists.
      rw [Bool.eq_iff_iff]
      simp only [overlaps, List.any_eq_true, List.contains_iff_mem]
      exact exists_congr fun name => And.comm

theorem Rule.Clashes.symm {rule other : Rule} (h : rule.Clashes other) : other.Clashes rule := by
  rcases h with hname | ⟨hpriority, hoverlaps⟩
  · exact .inl hname.symm
  · exact .inr ⟨hpriority.symm, by rw [RuleFilter.overlaps_comm, hoverlaps]⟩

namespace RuleTable

theorem conflict?_eq_none_iff {rule existing : Rule} :
    conflict? rule existing = none ↔ ¬ existing.Clashes rule := by
  unfold conflict? Rule.Clashes
  by_cases hname : existing.name = rule.name
  · simp [hname]
  by_cases hoverlaps : existing.priority = rule.priority ∧
      existing.filter.overlaps rule.filter = true
  · simp [hname, hoverlaps]
  · simp [hname, hoverlaps]

/-- A rule is accepted by an open table none of whose rules clashes with it. -/
theorem add_eq_ok_iff {t t' : RuleTable} {rule : Rule} :
    t.add rule = .ok t' ↔
      t.isClosed = false ∧ (∀ existing ∈ t.rules, ¬ existing.Clashes rule) ∧
        t' = { t with rules := insert rule t.rules } := by
  have hconflict : t.rules.findSome? (conflict? rule) = none ↔
      ∀ existing ∈ t.rules, ¬ existing.Clashes rule := by
    simp only [List.findSome?_eq_none_iff, conflict?_eq_none_iff]
  unfold add
  cases t.isClosed with
  | true => simp
  | false =>
    rw [← hconflict]
    cases t.rules.findSome? (conflict? rule) with
    | some fault => simp
    | none => simp [eq_comm]

/-! ## The place of a rule -/

theorem insert_perm (rule : Rule) (rules : List Rule) :
    (insert rule rules).Perm (rule :: rules) := by
  induction rules with
  | nil => exact .refl _
  | cons other rest ih =>
    simp only [insert]
    split
    · exact (ih.cons other).trans (.swap rule other rest)
    · exact .refl _

theorem mem_insert {rule other : Rule} {rules : List Rule} :
    other ∈ insert rule rules ↔ other = rule ∨ other ∈ rules := by
  rw [(insert_perm rule rules).mem_iff, List.mem_cons]

theorem insert_sorted {rules : List Rule} (rule : Rule)
    (h : rules.Pairwise fun a b => a.priority ≤ b.priority) :
    (insert rule rules).Pairwise fun a b => a.priority ≤ b.priority := by
  induction rules with
  | nil => exact List.pairwise_singleton _ rule
  | cons other rest ih =>
    obtain ⟨hother, hrest⟩ := List.pairwise_cons.mp h
    simp only [insert]
    split
    -- The rule goes behind the first one.
    · rename_i hbehind
      refine List.pairwise_cons.mpr ⟨fun later hlater => ?_, ih hrest⟩
      rcases mem_insert.mp hlater with rfl | hmem
      · exact hbehind
      · exact hother later hmem
    -- The rule goes in front of all of them.
    · rename_i hfront
      have hle : rule.priority ≤ other.priority := Int.le_of_lt (Int.not_le.mp hfront)
      refine List.pairwise_cons.mpr ⟨fun later hlater => ?_, h⟩
      rcases List.mem_cons.mp hlater with rfl | hmem
      · exact hle
      · exact Int.le_trans hle (hother later hmem)

/-- Among the rules of its priority, the new one is the last. -/
theorem filter_insert {rules : List Rule} (rule : Rule) (priority : Int)
    (h : rules.Pairwise fun a b => a.priority ≤ b.priority) :
    (insert rule rules).filter (·.priority == priority) =
      (rules ++ [rule]).filter (·.priority == priority) := by
  induction rules with
  | nil => rfl
  | cons other rest ih =>
    obtain ⟨hother, hrest⟩ := List.pairwise_cons.mp h
    simp only [insert]
    split
    · rw [List.filter_cons, ih hrest, List.cons_append, List.filter_cons]
    · rename_i hfront
      rw [List.filter_append, List.filter_cons]
      split
      -- All the others come later than the rule does, so none has its priority.
      · rename_i hpriority
        have hnone : (other :: rest).filter (·.priority == priority) = [] := by
          refine List.filter_eq_nil_iff.mpr fun later hlater => ?_
          have hpriority : rule.priority = priority := by simpa using hpriority
          have hlater : other.priority ≤ later.priority := by
            rcases List.mem_cons.mp hlater with rfl | hmem
            · exact Int.le_refl _
            · exact hother later hmem
          simp only [beq_iff_eq]
          omega
        simp [hnone, hpriority]
      · rename_i hdiffers
        simp [hdiffers]

/-! ## The invariant -/

/-- The table holds the rules of a history: sorted by priority, those of a priority in the order of
the history, and without any clash. -/
structure Holds (t : RuleTable) (history : List Rule) : Prop where
  perm : t.rules.Perm history
  sorted : t.rules.Pairwise fun a b => a.priority ≤ b.priority
  ties : ∀ priority : Int, t.rules.filter (·.priority == priority) =
    history.filter (·.priority == priority)
  names : (t.rules.map Rule.name).Nodup
  apart : t.rules.Pairwise fun a b => a.priority = b.priority → a.filter.overlaps b.filter = false

theorem holds_empty : Holds {} [] :=
  ⟨.nil, .nil, fun _ => rfl, .nil, .nil⟩

/-- The two parts of the invariant that speak of names and filters say that no two rules clash. -/
theorem pairwise_not_clashes_iff {rules : List Rule} :
    rules.Pairwise (fun a b => ¬ a.Clashes b) ↔
      (rules.map Rule.name).Nodup ∧
        rules.Pairwise fun a b => a.priority = b.priority → a.filter.overlaps b.filter = false := by
  unfold List.Nodup
  rw [List.pairwise_map, ← List.pairwise_and_iff]
  refine List.Pairwise.iff fun a b => ?_
  unfold Rule.Clashes
  simp only [not_or, not_and, Bool.not_eq_true]

/-- An accepted rule is the last one of the history. -/
theorem Holds.add {t t' : RuleTable} {history : List Rule} {rule : Rule} (h : t.Holds history)
    (hadd : t.add rule = .ok t') : t'.Holds (history ++ [rule]) := by
  obtain ⟨-, hclashes, rfl⟩ := add_eq_ok_iff.mp hadd
  have hperm : (insert rule t.rules).Perm (history ++ [rule]) :=
    (insert_perm rule t.rules).trans
      ((h.perm.cons rule).trans (List.perm_append_singleton rule history).symm)
  have hpairs : (insert rule t.rules).Pairwise fun a b => ¬ a.Clashes b := by
    have hsymm : ∀ a b : Rule, ¬ a.Clashes b → ¬ b.Clashes a := fun a b hab hba => hab hba.symm
    rw [(insert_perm rule t.rules).pairwise_iff (fun {a b} => hsymm a b)]
    refine List.pairwise_cons.mpr ⟨fun other hother => hsymm _ _ (hclashes other hother), ?_⟩
    exact pairwise_not_clashes_iff.mpr ⟨h.names, h.apart⟩
  refine ⟨hperm, insert_sorted rule h.sorted, fun priority => ?_,
    (pairwise_not_clashes_iff.mp hpairs).1, (pairwise_not_clashes_iff.mp hpairs).2⟩
  change (insert rule t.rules).filter _ = _
  rw [filter_insert rule priority h.sorted, List.filter_append, List.filter_append, h.ties]

/-! ## Several rules -/

/-- The rules that a table accepts, one after another, before it refuses one. -/
def accepted (t : RuleTable) : List Rule → List Rule
  | [] => []
  | rule :: rest =>
    match t.add rule with
    | .error _ => []
    | .ok t => rule :: t.accepted rest

/-- Rules are accepted up to the first that is refused. -/
theorem addAll_cases (t : RuleTable) (rules : List Rule) :
    (∃ t', t.addAll rules = (t', none) ∧ t.accepted rules = rules) ∨
    ∃ t' fault before offending later, rules = before ++ offending :: later ∧
      t.accepted rules = before ∧ t.addAll before = (t', none) ∧
      t'.add offending = .error fault ∧ t.addAll rules = (t', some fault) := by
  induction rules generalizing t with
  | nil => exact .inl ⟨t, rfl, rfl⟩
  | cons rule rest ih =>
    cases hadd : t.add rule with
    | error fault =>
      exact .inr ⟨t, fault, [], rule, rest, rfl, by simp [accepted, hadd], rfl, hadd,
        by simp [addAll, hadd]⟩
    | ok u =>
      rcases ih u with ⟨t', hall, haccepted⟩ |
        ⟨t', fault, before, offending, later, rfl, haccepted, hbefore, hrefused, hall⟩
      · exact .inl ⟨t', by simp [addAll, hadd, hall], by simp [accepted, hadd, haccepted]⟩
      · exact .inr ⟨t', fault, rule :: before, offending, later, rfl,
          by simp [accepted, hadd, haccepted], by simp [addAll, hadd, hbefore], hrefused,
          by simp [addAll, hadd, hall]⟩

theorem Holds.addAll {t : RuleTable} {history : List Rule} (h : t.Holds history)
    (rules : List Rule) : (t.addAll rules).1.Holds (history ++ t.accepted rules) := by
  induction rules generalizing t history with
  | nil => simpa [RuleTable.addAll, accepted] using h
  | cons rule rest ih =>
    cases hadd : t.add rule with
    | error fault => simpa [RuleTable.addAll, accepted, hadd] using h
    | ok u =>
      have hrest := ih (h.add hadd)
      rw [List.append_assoc] at hrest
      simpa [RuleTable.addAll, accepted, hadd] using hrest

/-- A closed table accepts nothing. -/
theorem accepted_of_closed {t : RuleTable} (h : t.isClosed = true) (rules : List Rule) :
    t.accepted rules = [] := by
  cases rules with
  | nil => rfl
  | cons rule rest => simp [accepted, add, h]

theorem addAll_of_closed {t : RuleTable} (h : t.isClosed = true) (rules : List Rule) :
    (t.addAll rules).1 = t := by
  cases rules with
  | nil => rfl
  | cons rule rest => simp [addAll, add, h]

/-! ## Declared rules in order -/

theorem precedes_iff {a b : Rule} :
    precedes a b = true ↔ a.priority < b.priority ∨ a.priority = b.priority ∧ a.name ≤ b.name := by
  simp [precedes]

instance : Std.Total fun a b : Rule => precedes a b = true where
  total a b := by
    simp only [precedes_iff]
    rcases Int.lt_trichotomy a.priority b.priority with hlt | heq | hgt
    · exact .inl (.inl hlt)
    · rcases le_total a.name b.name with hle | hge
      · exact .inl (.inr ⟨heq, hle⟩)
      · exact .inr (.inr ⟨heq.symm, hge⟩)
    · exact .inr (.inl hgt)

instance : IsTrans Rule fun a b => precedes a b = true where
  trans a b c := by
    simp only [precedes_iff]
    rintro (hab | ⟨hab, hnames⟩) (hbc | ⟨hbc, hnames'⟩)
    · exact .inl (Int.lt_trans hab hbc)
    · exact .inl (by omega)
    · exact .inl (by omega)
    · exact .inr ⟨hab.trans hbc, le_trans hnames hnames'⟩

theorem inOrder_eq_insertionSort (rules : List Rule) :
    inOrder rules = rules.insertionSort fun a b => precedes a b = true := by
  have hinsert : ∀ (rule : Rule) (rest : List Rule),
      insertDeclared rule rest = rest.orderedInsert (fun a b => precedes a b = true) rule := by
    intro rule rest
    induction rest with
    | nil => rfl
    | cons other later ih => simp only [insertDeclared, List.orderedInsert_cons, ih]
  induction rules with
  | nil => rfl
  | cons rule rest ih =>
    rw [List.insertionSort_cons, ← ih, ← hinsert]
    rfl

theorem inOrder_perm (rules : List Rule) : (inOrder rules).Perm rules := by
  rw [inOrder_eq_insertionSort]
  exact List.perm_insertionSort _ rules

theorem inOrder_sorted (rules : List Rule) :
    (inOrder rules).Pairwise fun a b => precedes a b = true := by
  rw [inOrder_eq_insertionSort]
  exact List.pairwise_insertionSort _ rules

/-- Rules of the same priority and name keep their order. -/
theorem inOrder_ties (rules : List Rule) (priority : Int) (name : String) :
    (inOrder rules).filter (fun r => r.priority == priority && r.name == name) =
      rules.filter (fun r => r.priority == priority && r.name == name) := by
  have htied : (rules.filter fun r => r.priority == priority && r.name == name).Pairwise
      fun a b => precedes a b = true := by
    refine List.pairwise_of_forall_mem_list fun a ha b hb => precedes_iff.mpr (.inr ?_)
    obtain ⟨hpriority, hname⟩ : a.priority = priority ∧ a.name = name := by
      simpa using (List.mem_filter.mp ha).2
    obtain ⟨hpriority', hname'⟩ : b.priority = priority ∧ b.name = name := by
      simpa using (List.mem_filter.mp hb).2
    exact ⟨hpriority.trans hpriority'.symm, le_of_eq (hname.trans hname'.symm)⟩
  -- The tied rules are in order already, so sorting leaves them as they are, and adds none.
  have hsublist := List.sublist_insertionSort htied List.filter_sublist
  rw [← inOrder_eq_insertionSort] at hsublist
  have hfiltered := hsublist.filter fun r => r.priority == priority && r.name == name
  rw [List.filter_filter] at hfiltered
  simp only [Bool.and_self] at hfiltered
  exact (hfiltered.eq_of_length ((inOrder_perm rules).filter _).length_eq.symm).symm

/-- The rules that declarations describe, one for each, or the fault of the first that describes
none. -/
theorem rulesOf_cases (declared : List Declared) :
    (∃ rules, rulesOf declared = .ok rules ∧
      List.Forall₂ (fun d rule => d.rule = .ok rule) declared rules) ∨
    ∃ fault, rulesOf declared = .error fault ∧ ∃ d ∈ declared, d.rule = .error fault := by
  induction declared with
  | nil => exact .inl ⟨[], rfl, .nil⟩
  | cons d rest ih =>
    cases hrule : d.rule with
    | error fault =>
      exact .inr ⟨fault, by simp [rulesOf, hrule], d, List.mem_cons_self .., hrule⟩
    | ok rule =>
      rcases ih with ⟨rules, hrest, hdescribed⟩ | ⟨fault, hrest, d', hmem, hfault⟩
      · exact .inl ⟨rule :: rules, by simp [rulesOf, hrule, hrest, Except.map],
          .cons hrule hdescribed⟩
      · exact .inr ⟨fault, by simp [rulesOf, hrule, hrest, Except.map], d',
          List.mem_cons_of_mem _ hmem, hfault⟩

/-! ## Operations -/

/-- An operation on a rule table. -/
inductive Operation where
  /-- Adds a rule. -/
  | add (rule : Rule)
  /-- Adds the rule of a replacement, which may carry no declaration. -/
  | register (declared : Option Declared)
  /-- Adds the rules of several declared replacements. -/
  | collect (declared : List Declared)
  /-- Closes the table. -/
  | close

/-- The fault of registering a replacement without a declaration. -/
def undeclared : Fault :=
  .of .badType "Replacement must be decorated with @converts"

/-- The table after an operation that failed or succeeded, and the fault if it failed. -/
def settle (t : RuleTable) : Except Fault RuleTable → RuleTable × Option Fault
  | .error fault => (t, some fault)
  | .ok t' => (t', none)

/-- One operation. -/
def step (t : RuleTable) : Operation → RuleTable × Option Fault
  | .add rule => settle t (t.add rule)
  | .register none => (t, some undeclared)
  | .register (some d) => settle t (t.register d)
  | .collect declared => t.collect declared
  | .close => (t.close, none)

/-- Operations one after another, whether they fail or not. -/
def run (t : RuleTable) (ops : List Operation) : RuleTable :=
  ops.foldl (fun t op => (step t op).1) t

/-- The rules that an operation offers to the table, in order. -/
def Operation.offered : Operation → List Rule
  | add rule => [rule]
  | register none => []
  | register (some d) => d.rule.toOption.toList
  | collect declared => ((rulesOf declared).map inOrder).toOption.getD []
  | close => []

/-- The rules accepted along the operations, in the order of their registration. -/
def history (t : RuleTable) : List Operation → List Rule
  | [] => []
  | op :: rest => t.accepted op.offered ++ history (step t op).1 rest

theorem settle_add (t : RuleTable) (rule : Rule) : settle t (t.add rule) = t.addAll [rule] := by
  cases hadd : t.add rule <;> simp [settle, addAll, hadd]

/-- An operation other than closing adds what it offers, up to the first rule that is refused. -/
theorem step_eq_addAll (t : RuleTable) (op : Operation) (hop : op ≠ .close) :
    (step t op).1 = (t.addAll op.offered).1 := by
  cases op with
  | add rule => exact congrArg Prod.fst (settle_add t rule)
  | register declared =>
    cases declared with
    | none => rfl
    | some d =>
      cases hrule : d.rule with
      | error fault =>
        simp [step, Operation.offered, RuleTable.register, hrule, settle, addAll, Except.toOption]
      | ok rule =>
        simp only [step, Operation.offered, RuleTable.register, hrule, Except.toOption,
          Option.toList]
        exact congrArg Prod.fst (settle_add t rule)
  | collect declared =>
    cases hrules : rulesOf declared with
    | error fault =>
      simp [step, Operation.offered, RuleTable.collect, hrules, addAll, Except.toOption, Except.map]
    | ok rules =>
      simp [step, Operation.offered, RuleTable.collect, hrules, Except.toOption, Except.map]
  | close => exact absurd rfl hop

/-- What one operation preserves. -/
theorem holds_step {t : RuleTable} {before : List Rule} (h : t.Holds before) (op : Operation) :
    (step t op).1.Holds (before ++ t.accepted op.offered) := by
  by_cases hop : op = .close
  · subst hop
    rw [Operation.offered, accepted, List.append_nil]
    exact ⟨h.perm, h.sorted, h.ties, h.names, h.apart⟩
  · rw [step_eq_addAll t op hop]
    exact h.addAll op.offered

/-- What operations preserve, one after another. -/
theorem holds_run {t : RuleTable} {before : List Rule} (h : t.Holds before)
    (ops : List Operation) : (run t ops).Holds (before ++ history t ops) := by
  induction ops generalizing t before with
  | nil => simpa [run, history] using h
  | cons op rest ih =>
    have hrest := ih (holds_step h op)
    rwa [List.append_assoc] at hrest

theorem step_of_closed {t : RuleTable} (h : t.isClosed = true) (op : Operation) :
    (step t op).1 = t := by
  by_cases hop : op = .close
  · subst hop
    simp [step, RuleTable.close, ← h]
  · rw [step_eq_addAll t op hop, addAll_of_closed h]

theorem run_of_closed {t : RuleTable} (h : t.isClosed = true) (ops : List Operation) :
    run t ops = t := by
  induction ops with
  | nil => rfl
  | cons op rest ih =>
    change run (step t op).1 rest = t
    rw [step_of_closed h, ih]

theorem step_add_eq_none_iff (t : RuleTable) (rule : Rule) :
    (step t (.add rule)).2 = none ↔
      t.isClosed = false ∧ ∀ existing ∈ t.rules, ¬ existing.Clashes rule := by
  simp only [step]
  cases hadd : t.add rule with
  | ok t' =>
    obtain ⟨hopen, hclashes, -⟩ := add_eq_ok_iff.mp hadd
    exact ⟨fun _ => ⟨hopen, hclashes⟩, fun _ => rfl⟩
  | error fault =>
    refine ⟨fun h => (Option.some_ne_none fault h).elim, fun ⟨hopen, hclashes⟩ => ?_⟩
    rw [add_eq_ok_iff.mpr ⟨hopen, hclashes, rfl⟩] at hadd
    cases hadd

theorem settle_of_failed {t : RuleTable} {result : Except Fault RuleTable}
    (h : (settle t result).2 ≠ none) : (settle t result).1 = t := by
  cases result with
  | error fault => rfl
  | ok t' => exact absurd rfl h

/-- A failing collection stops at a declaration that describes no rule, before any rule is added, or
at the first of the rules in order that the table refuses, with those before it added. -/
theorem collect_of_failed {t : RuleTable} {before : List Rule} (h : t.Holds before)
    {declared : List Declared} {fault : Fault} (hfault : (t.collect declared).2 = some fault) :
    ((t.collect declared).1 = t ∧ ∃ d ∈ declared, d.rule = .error fault) ∨
    ∃ rules added offending later,
      List.Forall₂ (fun d rule => d.rule = .ok rule) declared rules ∧
      inOrder rules = added ++ offending :: later ∧ (t.isClosed = true → added = []) ∧
      t.addAll added = ((t.collect declared).1, none) ∧
      (t.collect declared).1.add offending = .error fault ∧
      (t.collect declared).1.Holds (before ++ added) := by
  rcases rulesOf_cases declared with ⟨rules, hrules, hdescribed⟩ | ⟨fault', hrules, hmem⟩
  · have hcollect : t.collect declared = t.addAll (inOrder rules) := by
      simp only [RuleTable.collect, hrules]
    rw [hcollect] at hfault ⊢
    rcases addAll_cases t (inOrder rules) with ⟨t', hall, -⟩ |
      ⟨t', fault', added, offending, later, horder, haccepted, hadded, hrefused, hall⟩
    -- If all of them are accepted, the collection does not fail.
    · rw [hall] at hfault
      cases hfault
    · have hholds := h.addAll (inOrder rules)
      rw [hall, haccepted] at hholds
      rw [hall] at hfault ⊢
      obtain rfl := Option.some.inj hfault
      refine .inr ⟨rules, added, offending, later, hdescribed, horder, fun hclosed => ?_, hadded,
        hrefused, hholds⟩
      rw [← haccepted, accepted_of_closed hclosed]
  · have hcollect : t.collect declared = (t, some fault') := by
      simp only [RuleTable.collect, hrules]
    rw [hcollect] at hfault ⊢
    obtain rfl := Option.some.inj hfault
    exact .inl ⟨rfl, hmem⟩

/-- Whatever operations made the table, failing ones among them, it holds the accepted rules in
order and without clashes. An open table accepts every rule that clashes with none of its own. An
operation for one rule that fails leaves the table as it is. One for several rules that fails adds
those that come before the offending one by priority and name, and none if a declaration describes
no rule or the table is closed. Once it is closed, no operation changes the table. -/
theorem run_invariant (ops : List Operation) :
    (run {} ops).Holds (history {} ops) ∧
    (∀ rule, (step (run {} ops) (.add rule)).2 = none ↔ (run {} ops).isClosed = false ∧
      ∀ existing ∈ (run {} ops).rules, ¬ existing.Clashes rule) ∧
    (∀ rule, (step (run {} ops) (.add rule)).2 ≠ none →
      (step (run {} ops) (.add rule)).1 = run {} ops) ∧
    (∀ declared, (step (run {} ops) (.register declared)).2 ≠ none →
      (step (run {} ops) (.register declared)).1 = run {} ops) ∧
    (∀ declared fault t', step (run {} ops) (.collect declared) = (t', some fault) →
      (t' = run {} ops ∧ ∃ d ∈ declared, d.rule = .error fault) ∨
      ∃ rules added offending later,
        List.Forall₂ (fun d rule => d.rule = .ok rule) declared rules ∧
        (added ++ offending :: later).Perm rules ∧
        (added ++ offending :: later).Pairwise (fun a b =>
          a.priority < b.priority ∨ a.priority = b.priority ∧ a.name ≤ b.name) ∧
        (∀ (priority : Int) (name : String),
          (added ++ offending :: later).filter
              (fun r => r.priority == priority && r.name == name) =
            rules.filter (fun r => r.priority == priority && r.name == name)) ∧
        ((run {} ops).isClosed = true → added = []) ∧
        (run {} ops).addAll added = (t', none) ∧ t'.add offending = .error fault ∧
        t'.Holds (history {} ops ++ added)) ∧
    (∀ later, run {} (ops ++ .close :: later) = (run {} ops).close) := by
  have hholds : (run {} ops).Holds (history {} ops) := by
    simpa using holds_run holds_empty ops
  refine ⟨hholds, step_add_eq_none_iff _, fun rule hfailed => ?_, fun declared hfailed => ?_,
    fun declared fault t' hstep => ?_, fun later => ?_⟩
  · exact settle_of_failed hfailed
  · cases declared with
    | none => rfl
    | some d => exact settle_of_failed hfailed
  · have hcollect : (run {} ops).collect declared = (t', some fault) := hstep
    have hfailed := collect_of_failed hholds (congrArg Prod.snd hcollect)
    rw [hcollect] at hfailed
    rcases hfailed with hunchanged |
      ⟨rules, added, offending, later, hdescribed, horder, hclosed, hadded, hrefused, hextended⟩
    · exact .inl hunchanged
    · refine .inr ⟨rules, added, offending, later, hdescribed, ?_, ?_, ?_, hclosed, hadded,
        hrefused, hextended⟩
      · rw [← horder]
        exact inOrder_perm rules
      · rw [← horder]
        exact (inOrder_sorted rules).imp precedes_iff.mp
      · rw [← horder]
        exact inOrder_ties rules
  · unfold run
    rw [List.foldl_append, List.foldl_cons]
    exact run_of_closed rfl later

-- A second rule of the same name is refused, and ties stay in the order of their registration.
example :
    let ops := [("late", 10), ("early", 1), ("tie-a", 5), ("tie-b", 5), ("early", 3)].map
      fun (name, priority) => Operation.add ⟨name, priority, .tags [name], fun _ => .done⟩
    (run {} ops).rules.map Rule.name = ["early", "tie-a", "tie-b", "late"] := by
  decide

end RuleTable

end Transcript
