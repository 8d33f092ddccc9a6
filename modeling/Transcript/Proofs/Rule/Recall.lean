import Transcript.Proofs.Conversion.Memory
import Transcript.Proofs.Markup.Subtree
import Transcript.Proofs.Rule.Order

/-!
# Recalled rules

A table is asked for the rules of many nodes, in any order and again and again, and what it finds is
remembered. That a node has no rule is remembered just like a rule: it is an entry, and no missing
one. So every answer is the answer of a search, which is the rule of lowest priority among those
that accept the node, and of these the one registered first; and no filter is asked twice about a
node.

Searches are written once more, with the questions to the filters as effects: without effects they
are the searches of the table, and with a log they tell which filters they ask.

## Main definitions

- `Rule.IsFirst`: the rule that comes first for a node, or that there is none
- `RuleTable.findInBy`, `RuleTable.findRememberedBy`: searches with their questions as effects
- `RuleTable.answers`, `RuleTable.questions`: what a table answers, and what it asks, along many uses

## Main results

- `RuleTable.Holds.isFirst_of_find`: a search finds the rule that comes first
- `RuleTable.findRememberedBy_id`, `RuleTable.run_findRememberedBy_logged`: without effects, and
  with a log, the search with effects is the search of the table
- `RuleTable.recall_first`: remembered rules are those of a search, and no filter is asked twice
-/

namespace Transcript

open Markup

/-! ## The rule that comes first -/

/-- A rule comes first for a node if it accepts the node and has, of all that do, the lowest
priority, and the first position within this priority. No rule comes first if none accepts the
node. -/
def Rule.IsFirst (rules : List Rule) (c : Cursor) : Option Rule → Prop
  | none => ∀ rule ∈ rules, rule.filter.accepts c = .ok false
  | some rule =>
    rule.filter.accepts c = .ok true ∧
      ∃ i : Nat, rules[i]? = some rule ∧
        ∀ (j : Nat) (other : Rule), rules[j]? = some other → other.filter.accepts c = .ok true →
          rule.priority < other.priority ∨ rule.priority = other.priority ∧ i ≤ j

theorem Rule.reactsTo_of_accepts {rule : Rule} {c : Cursor} (h : rule.filter.accepts c = .ok true) :
    rule.reactsTo c = true := by
  simp [reactsTo, h]

theorem Rule.accepts_of_not_reactsTo {rule : Rule} {c : Cursor} (h : rule.reactsTo c = false) :
    rule.filter.accepts c = .ok false := by
  unfold reactsTo at h
  split at h
  · assumption
  · cases h

namespace RuleTable

/-- The first rule of a table that reacts to a node is, within its priority, the first one
registered. -/
theorem Holds.find?_priority {t : RuleTable} {rules : List Rule} {c : Cursor} {first : Rule}
    (h : t.Holds rules) (hfirst : t.rules.find? (·.reactsTo c) = some first) :
    (rules.filter (·.priority == first.priority)).find? (·.reactsTo c) = some first := by
  obtain ⟨hreacts, before, later, hsplit, hbefore⟩ := List.find?_eq_some_iff_append.mp hfirst
  -- Those of its priority stand in the table as they stand in the history.
  rw [← h.ties first.priority, List.find?_filter]
  apply List.find?_eq_some_iff_append.mpr
  refine ⟨by simp [hreacts], before, later, hsplit, fun rule hrule => ?_⟩
  have hquiet : rule.reactsTo c = false := by simpa using hbefore rule hrule
  simp [hquiet]

/-- A search among filters that answer finds the rule that comes first. -/
theorem Holds.isFirst_of_find {t : RuleTable} {rules : List Rule} {c : Cursor}
    {found : Option Rule} (h : t.Holds rules)
    (hanswers : ∀ rule ∈ rules, ∃ accepted, rule.filter.accepts c = .ok accepted)
    (hfind : t.find c = .ok found) : Rule.IsFirst rules c found := by
  rw [find, findIn_eq] at hfind
  cases hfirst : t.rules.find? (·.reactsTo c) with
  | none =>
    simp only [hfirst, Except.ok.injEq] at hfind
    subst hfind
    intro rule hrule
    have hquiet := List.find?_eq_none.mp hfirst rule (h.perm.mem_iff.mpr hrule)
    exact Rule.accepts_of_not_reactsTo (by simpa using hquiet)
  | some first =>
    obtain ⟨hmem, hreacts, hleast⟩ := h.first_le hfirst
    have haccepts := reactsTo_of_answers (hanswers first hmem) hreacts
    simp only [hfirst, haccepts, Except.map, Except.ok.injEq] at hfind
    subst hfind
    have htied := h.find?_priority hfirst
    rw [List.find?_filter] at htied
    obtain ⟨-, i, hi, hget, hbefore⟩ := List.find?_eq_some_iff_getElem.mp htied
    refine ⟨haccepts, i, by rw [List.getElem?_eq_getElem hi, hget], fun j other hj hother => ?_⟩
    have hotherreacts := Rule.reactsTo_of_accepts hother
    have hle := hleast other (List.mem_of_getElem? hj) hotherreacts
    rcases Int.lt_or_eq_of_le hle with hlt | heq
    · exact .inl hlt
    -- A rule of the same priority in front of it would have been found in its place.
    · refine .inr ⟨heq, Nat.le_of_not_lt fun hlt => ?_⟩
      obtain ⟨hj', hgetj⟩ := List.getElem?_eq_some_iff.mp hj
      have hquiet := hbefore j hlt
      simp [hgetj, heq, hotherreacts] at hquiet

/-! ## Searches with effects -/

section Effects

variable {m : Type → Type} [Monad m] (ask : Rule → Cursor → m (Except Fault Bool))

/-- The first of some rules that accepts a node, where a filter answers with an effect. -/
def findInBy (c : Cursor) : List Rule → m (Except Fault (Option Rule))
  | [] => pure (.ok none)
  | rule :: rest => do
    match ← ask rule c with
    | .error fault => pure (.error fault)
    | .ok true => pure (.ok (some rule))
    | .ok false => findInBy c rest

/-- The first rule that accepts a node, remembered or else looked for, where a filter answers with
an effect. -/
def findRememberedBy (t : RuleTable) (arena : Arena) (memo : Memo (Option Rule)) (c : Cursor) :
    m (Except Fault (Option Rule) × Arena × Memo (Option Rule)) :=
  match memo.lookup arena (nodeKey (some c)) with
  | (some rule, arena) => pure (.ok rule, arena, memo)
  | (none, arena) => do
    match ← findInBy ask c t.rules with
    | .error fault => pure (.error fault, arena, memo)
    | .ok rule =>
      let (memo, arena) := memo.store arena (nodeKey (some c)) rule
      pure (.ok rule, arena, memo)

end Effects

/-- Without effects, the search is the search of the table. -/
theorem findInBy_id (c : Cursor) (rules : List Rule) :
    findInBy (m := Id) (fun rule c => rule.filter.accepts c) c rules = findIn c rules := by
  induction rules with
  | nil => rfl
  | cons rule rest ih =>
    simp only [findInBy, findIn, ih]
    rfl

theorem findRememberedBy_id (t : RuleTable) (arena : Arena) (memo : Memo (Option Rule))
    (c : Cursor) :
    findRememberedBy (m := Id) (fun rule c => rule.filter.accepts c) t arena memo c =
      t.findRemembered arena memo c := by
  simp only [findRememberedBy, findRemembered, findInBy_id, find]
  rfl

/-- A question to a filter: the name of its rule, and the node it is asked about. -/
abbrev Question := String × Place

/-- A filter's answer, with the question written down. -/
def logged (rule : Rule) (c : Cursor) : StateM (List Question) (Except Fault Bool) := do
  modify (· ++ [(rule.name, c.place)])
  return rule.filter.accepts c

@[simp] theorem run_logged (rule : Rule) (c : Cursor) (log : List Question) :
    (logged rule c).run log = (rule.filter.accepts c, log ++ [(rule.name, c.place)]) := rfl

/-- A search comes to the same with the questions written down, and asks about its node only, and
no rule twice. -/
theorem run_findInBy_logged (c : Cursor) (rules : List Rule) (log : List Question) :
    ∃ asked : List String, asked.Sublist (rules.map Rule.name) ∧
      (findInBy logged c rules).run log =
        (findIn c rules, log ++ asked.map fun name => (name, c.place)) := by
  induction rules generalizing log with
  | nil => exact ⟨[], .slnil, by simp only [List.map_nil, List.append_nil]; rfl⟩
  | cons rule rest ih =>
    simp only [findInBy, findIn, StateT.run_bind, run_logged]
    cases rule.filter.accepts c with
    | error fault => exact ⟨[rule.name], by simp, rfl⟩
    | ok accepted =>
      cases accepted with
      | true => exact ⟨[rule.name], by simp, rfl⟩
      | false =>
        obtain ⟨asked, hsub, hrun⟩ := ih (log ++ [(rule.name, c.place)])
        refine ⟨rule.name :: asked, by simpa using hsub, ?_⟩
        exact hrun.trans (by simp)

/-- The questions written down, an answer and what is remembered of it are those of the table. -/
theorem run_findRememberedBy_logged (t : RuleTable) (arena : Arena) (memo : Memo (Option Rule))
    (c : Cursor) (log : List Question) :
    ((findRememberedBy logged t arena memo c).run log).1 = t.findRemembered arena memo c := by
  obtain ⟨asked, -, hrun⟩ := run_findInBy_logged c t.rules log
  simp only [findRememberedBy, findRemembered, find]
  rcases memo.lookup arena (nodeKey (some c)) with ⟨_ | rule, arena⟩
  · simp only [StateT.run_bind, hrun]
    cases findIn c t.rules with
    | error fault => rfl
    | ok found => rfl
  · rfl

/-! ## Many uses of one table -/

/-- A use of the numbered nodes: the rule of a node is asked for, or something else gives a node its
number. -/
inductive Use where
  /-- The rule of a node is asked for. -/
  | find (c : Cursor)
  /-- A node gets its number. -/
  | number (key : NodeKey)

/-- The node whose rule is asked for. -/
def Use.node? : Use → Option Cursor
  | find c => some c
  | number _ => none

/-- The answers of a table along many uses. -/
def answers (t : RuleTable) (arena : Arena) (memo : Memo (Option Rule)) :
    List Use → List (Except Fault (Option Rule))
  | [] => []
  | .number key :: rest => t.answers (arena.number key).2 memo rest
  | .find c :: rest =>
    let (answer, arena, memo) := t.findRemembered arena memo c
    answer :: t.answers arena memo rest

/-- The questions to the filters of a table along many uses, behind those of a log. -/
def questions (t : RuleTable) (arena : Arena) (memo : Memo (Option Rule)) (log : List Question) :
    List Use → List Question
  | [] => log
  | .number key :: rest => t.questions (arena.number key).2 memo log rest
  | .find c :: rest =>
    let ((_, arena, memo), log) := (findRememberedBy logged t arena memo c).run log
    t.questions arena memo log rest

/-- A node of a forest, whose trees are numbered. -/
def InForest (forest : Nat → Node) (c : Cursor) : Prop :=
  c ∈ (Cursor.root c.tree (forest c.tree)).subtree

theorem InForest.eq_of_place {forest : Nat → Node} {c d : Cursor} (hc : InForest forest c)
    (hd : InForest forest d) (hplace : c.place = d.place) : c = d := by
  have htree : c.tree = d.tree := congrArg Place.tree hplace
  have hd' : d ∈ (Cursor.root c.tree (forest c.tree)).subtree := htree ▸ hd
  exact Cursor.eq_of_place_eq hc hd' hplace

/-- What is remembered of the nodes of a forest is what a search finds, and questions were asked
about remembered nodes only, none of them twice. -/
structure Recalls (t : RuleTable) (forest : Nat → Node) (arena : Arena)
    (memo : Memo (Option Rule)) (log : List Question) : Prop where
  sound : arena.Sound
  within : memo.Within arena
  found : ∀ (c : Cursor) (found : Option Rule), InForest forest c →
    memo.read arena (some c.place) = some found → t.find c = .ok found
  asked : ∀ q ∈ log, (memo.read arena (some q.2)).isSome = true
  nodup : log.Nodup

section Uses

variable {t : RuleTable} {forest : Nat → Node} {arena : Arena} {memo : Memo (Option Rule)}
  {log : List Question}

theorem recalls_empty (ha : arena.Sound) : Recalls t forest arena {} [] :=
  ⟨ha, Memo.within_empty arena, fun c found _ h => by simp at h, by simp, .nil⟩

/-- Giving out a number changes nothing. -/
theorem Recalls.number (h : Recalls t forest arena memo log) (key : NodeKey) :
    Recalls t forest (arena.number key).2 memo log where
  sound := Arena.sound_number h.sound key
  within := Memo.within_number h.within key
  found c rule hc hread := h.found c rule hc (by rwa [Memo.read_number h.within] at hread)
  asked q hq := by
    rw [Memo.read_number h.within]
    exact h.asked q hq
  nodup := h.nodup

/-- What a search found is remembered together with its questions. -/
theorem Recalls.store (h : Recalls t forest arena memo log)
    (hnames : (t.rules.map Rule.name).Nodup) {c : Cursor} {found : Option Rule}
    {asked : List String} (hc : InForest forest c) (hfresh : memo.read arena (some c.place) = none)
    (hfind : t.find c = .ok found) (hasked : asked.Sublist (t.rules.map Rule.name)) :
    Recalls t forest (arena.number (some c.place)).2 (memo.store arena (some c.place) found).1
      (log ++ asked.map fun name => (name, c.place)) where
  sound := Arena.sound_number h.sound _
  within := Memo.within_store h.sound h.within _ found
  found d other hd hread := by
    rw [Memo.read_store h.sound h.within] at hread
    split at hread
    · rename_i hplace
      obtain rfl : c = d := hc.eq_of_place hd (Option.some.inj hplace)
      rw [hfind, Option.some.inj hread]
    · exact h.found d other hd hread
  asked q hq := by
    rw [Memo.read_store h.sound h.within]
    split
    · rfl
    · rename_i hplace
      rcases List.mem_append.mp hq with hold | hnew
      · exact h.asked q hold
      · obtain ⟨name, -, rfl⟩ := List.mem_map.mp hnew
        exact absurd rfl hplace
  nodup := by
    refine List.nodup_append.mpr ⟨h.nodup, ?_, fun q hold q' hnew heq => ?_⟩
    · exact (hasked.nodup hnames).map fun name other heq => congrArg Prod.fst heq
    -- The node was not remembered, so nothing was asked about it.
    · obtain ⟨name, -, rfl⟩ := List.mem_map.mp hnew
      have hknown := h.asked q hold
      simp [heq, hfresh] at hknown

/-- Asking for the rule of a node comes to what a search finds. -/
theorem Recalls.findRemembered (h : Recalls t forest arena memo log)
    (hnames : (t.rules.map Rule.name).Nodup) {c : Cursor} {found : Option Rule}
    (hc : InForest forest c) (hfind : t.find c = .ok found) :
    ∃ arena' memo' log',
      (findRememberedBy logged t arena memo c).run log = ((.ok found, arena', memo'), log') ∧
        Recalls t forest arena' memo' log' := by
  have hnumber := h.number (some c.place)
  simp only [findRememberedBy, nodeKey_some, Memo.lookup_eq h.within]
  cases hread : memo.read arena (some c.place) with
  | some rule =>
    obtain rfl : rule = found := by simpa [hfind, eq_comm] using h.found c rule hc hread
    exact ⟨_, memo, log, rfl, hnumber⟩
  | none =>
    obtain ⟨asked, hasked, hrun⟩ := run_findInBy_logged c t.rules log
    have hfresh : memo.read (arena.number (some c.place)).2 (some c.place) = none := by
      rw [Memo.read_number h.within, hread]
    have hstore := hnumber.store hnames hc hfresh hfind hasked
    refine ⟨_, _, _, ?_, hstore⟩
    rw [find] at hfind
    simp only [StateT.run_bind, hrun, hfind]
    rfl

/-- Along many uses, every answer is what a search finds, and no question is asked twice. -/
theorem Recalls.answers (h : Recalls t forest arena memo log)
    (hnames : (t.rules.map Rule.name).Nodup) {found : Cursor → Option Rule} {uses : List Use}
    (hforest : ∀ c ∈ uses.filterMap Use.node?, InForest forest c)
    (hfind : ∀ c ∈ uses.filterMap Use.node?, t.find c = .ok (found c)) :
    t.answers arena memo uses = (uses.filterMap Use.node?).map (fun c => .ok (found c)) ∧
      (t.questions arena memo log uses).Nodup := by
  induction uses generalizing arena memo log with
  | nil => exact ⟨rfl, h.nodup⟩
  | cons use rest ih =>
    cases use with
    | number key => exact ih (h.number key) hforest hfind
    | find c =>
      simp only [List.filterMap_cons, Use.node?, List.mem_cons, forall_eq_or_imp] at hforest hfind
      obtain ⟨arena', memo', log', hlogged, hrecalls⟩ := h.findRemembered hnames hforest.1 hfind.1
      have hremembered : t.findRemembered arena memo c = (.ok (found c), arena', memo') := by
        rw [← run_findRememberedBy_logged t arena memo c log, hlogged]
      -- The memo that is left recalls again, so the induction goes on with it.
      obtain ⟨hanswers, hquestions⟩ := ih hrecalls hforest.2 hfind.2
      simp only [RuleTable.answers, questions, hremembered, hlogged, hanswers]
      exact ⟨rfl, hquestions⟩

end Uses

/-- However a table came about and whichever nodes were numbered before, let it be asked for the
rules of nodes of a forest, in any order and again and again, with one memo, while other nodes get
their numbers in between. If the filters answer about these nodes, each answer is the one of a
search, which is the rule that comes first for the node among those registered, or that there is
none. No filter is asked twice about a node. The questions are those of the search of the table: it
is the search with effects, done without any, and writing the questions down changes neither its
answers nor what it remembers. -/
theorem recall_first (ops : List Operation) (forest : Nat → Node) (numbered : List NodeKey)
    (uses : List Use) (hforest : ∀ c ∈ uses.filterMap Use.node?, InForest forest c)
    (hanswers : ∀ c ∈ uses.filterMap Use.node?, ∀ rule ∈ history {} ops,
      ∃ accepted, rule.filter.accepts c = .ok accepted) :
    (∀ (arena : Arena) (memo : Memo (Option Rule)) (c : Cursor),
      findRememberedBy (m := Id) (fun rule c => rule.filter.accepts c) (run {} ops) arena memo c =
          (run {} ops).findRemembered arena memo c ∧
        ∀ log, ((findRememberedBy logged (run {} ops) arena memo c).run log).1 =
          (run {} ops).findRemembered arena memo c) ∧
    ∃ found : Cursor → Option Rule,
      (∀ c ∈ uses.filterMap Use.node?,
        (run {} ops).find c = .ok (found c) ∧ Rule.IsFirst (history {} ops) c (found c)) ∧
      (run {} ops).answers (Arena.ofNodes numbered) {} uses =
        (uses.filterMap Use.node?).map (fun c => .ok (found c)) ∧
      ((run {} ops).questions (Arena.ofNodes numbered) {} [] uses).Nodup := by
  have hholds : (run {} ops).Holds (history {} ops) := by simpa using holds_run holds_empty ops
  let found : Cursor → Option Rule := fun c => ((run {} ops).find c).toOption.getD none
  have hfind : ∀ c ∈ uses.filterMap Use.node?, (run {} ops).find c = .ok (found c) := by
    intro c hc
    obtain ⟨rule, hrule⟩ := findIn_of_answers
      fun other hother => hanswers c hc other (hholds.perm.mem_iff.mp hother)
    have hrule : (run {} ops).find c = .ok rule := hrule
    simp [found, hrule, Except.toOption]
  have hrecalls : Recalls (run {} ops) forest (Arena.ofNodes numbered) {} [] :=
    recalls_empty (Arena.sound_foldl_number Arena.sound_empty numbered)
  refine ⟨fun arena memo c => ⟨findRememberedBy_id _ arena memo c, fun log => ?_⟩, found,
    fun c hc => ⟨hfind c hc, ?_⟩, hrecalls.answers hholds.names hforest hfind⟩
  · exact run_findRememberedBy_logged _ arena memo c log
  · exact hholds.isFirst_of_find (hanswers c hc) (hfind c hc)

/-- A rule for all elements, of the priority of the rule for paragraphs. -/
def elementRule : Rule :=
  ⟨"element", 1, .predicate ⟨"is_element", fun c => .ok c.node.isElement⟩, fun _ => .done⟩

/-- A paragraph with a text in it. -/
def filledParagraph : Cursor :=
  Cursor.root 0 (.element "p" [] [.leaf .plain "x"])

/-- The text in the paragraph. -/
def paragraphText : Cursor :=
  ⟨0, .leaf .plain "x", [⟨filledParagraph.node, 0⟩]⟩

/-- Of two rules of one priority for the paragraph, the one registered first is found both times;
the text in it has no rule, both times. -/
theorem recall_first_paragraph :
    let t := run {} [.add elementRule, .add paragraphRule]
    let uses : List Use := [.find paragraphText, .find filledParagraph, .number none,
      .find filledParagraph, .find paragraphText]
    t.rules = [elementRule, paragraphRule] ∧
      t.answers (Arena.ofNodes []) {} uses =
        [.ok none, .ok (some elementRule), .ok (some elementRule), .ok none] ∧
      (t.questions (Arena.ofNodes []) {} [] uses).Nodup := by
  intro t uses
  have hnodes : ∀ c ∈ uses.filterMap Use.node?, c = paragraphText ∨ c = filledParagraph := by
    intro c hc
    simp only [uses, List.filterMap_cons, List.filterMap_nil, Use.node?, List.mem_cons,
      List.not_mem_nil, or_false] at hc
    tauto
  have hforest : ∀ c ∈ uses.filterMap Use.node?, InForest (fun _ => filledParagraph.node) c := by
    intro c hc
    rcases hnodes c hc with rfl | rfl
    · exact Cursor.mem_subtree_of_mem_children (List.mem_singleton.mpr rfl)
    · exact Cursor.self_mem_subtree _
  have hanswers : ∀ c ∈ uses.filterMap Use.node?,
      ∀ rule ∈ history {} [.add elementRule, .add paragraphRule],
        ∃ accepted, rule.filter.accepts c = .ok accepted := by
    intro c _ rule hrule
    have hrule : rule ∈ [elementRule, paragraphRule] := hrule
    simp only [List.mem_cons, List.not_mem_nil, or_false] at hrule
    rcases hrule with rfl | rfl
    · exact ⟨_, rfl⟩
    · exact ⟨_, rfl⟩
  obtain ⟨-, found, hfound, hall, hnodup⟩ :=
    recall_first [.add elementRule, .add paragraphRule] (fun _ => filledParagraph.node) [] uses hforest
      hanswers
  have htext : found paragraphText = none := by
    have hsearch : (.ok none : Except Fault (Option Rule)) = .ok (found paragraphText) :=
      (hfound paragraphText (by simp [uses, Use.node?])).1
    exact (Except.ok.inj hsearch).symm
  have hparagraph : found filledParagraph = some elementRule := by
    have hsearch : (.ok (some elementRule) : Except Fault (Option Rule)) =
        .ok (found filledParagraph) :=
      (hfound filledParagraph (by simp [uses, Use.node?])).1
    exact (Except.ok.inj hsearch).symm
  refine ⟨rfl, ?_, hnodup⟩
  rw [hall]
  simp [uses, List.filterMap_cons, Use.node?, htext, hparagraph]

end RuleTable

end Transcript
