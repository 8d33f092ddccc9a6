import Transcript.Proofs.Conversion.AbortLaw
import Transcript.Proofs.Conversion.Relocation

/-!
# Documents put together

The children of a document are the messages of a transcript. A message converts alike wherever it
stands among others, so the conversion of a document is that of its messages, one after another, and
the two parts of a document may be converted apart. They keep to the budgets if the whole does: their
nodes stand at the same levels, and there are no more of them.

## Main definitions

- `levels`: the levels at which the nodes of a subtree stand
- `Conversion.IsPlain`: a conversion that came to the plain value

## Main results

- `map_children_append`: the children of two documents put together
- `plainDocument_append`, `documentNotes_append`, `levels_append`: the parts of a document
- `violation?_first_of_append`, `violation?_second_of_append`: the parts keep to the budgets
- `convertCounted_append`: messages are converted independently
-/

namespace Transcript

open Markup Cursor

variable {setting : Setting} {old new : Slot} {c d : Cursor}

/-! ## Levels -/

/-- The levels at which the nodes of a subtree stand, in document order. -/
def levels (c : Cursor) : List Nat :=
  c.subtree.map fun d => d.above.length

theorem levels_relocate (h : c.Under old) : levels (c.relocate new) = levels c := by
  rw [levels, (motion_relocate old new).subtree h, List.map_map, levels]
  exact List.map_congr_left fun d hd =>
    length_above_relocate ((motion_relocate old new).of_mem_subtree h hd)

/-! ## Children put together -/

theorem childrenFrom_append (tree : Nat) (parent : Node) (above : List Step) (index : Nat)
    (first second : List Node) :
    childrenFrom tree parent above index (first ++ second) =
      childrenFrom tree parent above index first ++
        childrenFrom tree parent above (index + first.length) second := by
  induction first generalizing index with
  | nil => rfl
  | cons node rest ih =>
    rw [List.cons_append, childrenFrom, ih, childrenFrom, List.cons_append, List.length_cons,
      Nat.add_assoc, Nat.add_comm 1]

section

variable {β : Type} {whole first second : Cursor → β}

/-- What moves along with each of some children is the same at other indexes of another document. -/
theorem map_childrenFrom_relocate
    (h : ∀ (old new : Slot) (c : Cursor), c.Under old → first (c.relocate new) = whole c)
    (tree : Nat) (all part : List Node) (offset index : Nat) (nodes : List Node) :
    (childrenFrom tree (.document all) [] (offset + index) nodes).map whole =
      (childrenFrom tree (.document part) [] index nodes).map first := by
  induction nodes generalizing index with
  | nil => rfl
  | cons node rest ih =>
    have hnode : first (⟨tree, node, [⟨.document part, index⟩]⟩ : Cursor) =
        whole ⟨tree, node, [⟨.document all, offset + index⟩]⟩ :=
      h ⟨all, offset + index⟩ ⟨part, index⟩ ⟨tree, node, [⟨.document all, offset + index⟩]⟩
        ⟨[], rfl⟩
    rw [childrenFrom, List.map_cons, childrenFrom, List.map_cons, hnode, Nat.add_assoc, ih]

theorem map_children_append
    (hfirst : ∀ (old new : Slot) (c : Cursor), c.Under old → first (c.relocate new) = whole c)
    (hsecond : ∀ (old new : Slot) (c : Cursor), c.Under old → second (c.relocate new) = whole c)
    (tree : Nat) (xs ys : List Node) :
    (root tree (.document (xs ++ ys))).children.map whole =
      (root tree (.document xs)).children.map first ++
        (root tree (.document ys)).children.map second := by
  show (childrenFrom tree (.document (xs ++ ys)) [] 0 (xs ++ ys)).map whole =
    (childrenFrom tree (.document xs) [] 0 xs).map first ++
      (childrenFrom tree (.document ys) [] 0 ys).map second
  -- The second part has been moved by the length of the first.
  rw [childrenFrom_append, List.map_append]
  congr 1
  · exact map_childrenFrom_relocate hfirst tree _ _ 0 0 xs
  · rw [Nat.zero_add]
    exact map_childrenFrom_relocate hsecond tree _ _ xs.length 0 ys

end

/-! ## Budgets -/

/-- Whether the budgets are kept can be read off the levels where time does not run out. -/
theorem violation?_eq_none_of_budgets
    (hdepth : ∀ level ∈ levels c, level - c.above.length ≤ setting.options.maxDepth)
    (hvisits : (levels c).length ≤ setting.options.maxVisits)
    (htime : ∀ n, setting.options.timeBudget.exceededBy (timeAt setting n) = false) :
    violation? setting c = none := by
  have hlength : (levels c).length = c.subtree.length := List.length_map _
  refine violation?_eq_none_of_within (fun d hd => ?_) (hlength ▸ hvisits) htime
  exact hdepth _ (List.mem_map.mpr ⟨d, hd, rfl⟩)

theorem budgets_of_no_violation (h : violation? setting c = none) :
    (∀ level ∈ levels c, level - c.above.length ≤ setting.options.maxDepth) ∧
      (levels c).length ≤ setting.options.maxVisits := by
  have hbreach := violation?_eq_none_iff.mp h
  constructor
  · intro level hlevel
    obtain ⟨d, hd, rfl⟩ := List.mem_map.mp hlevel
    obtain ⟨i, hi, rfl⟩ := List.getElem_of_mem hd
    exact (breachAt?_eq_none_iff.mp (hbreach ⟨i, hi⟩)).1
  · have hlength : (levels c).length = c.subtree.length := List.length_map _
    have hpos : 0 < c.subtree.length := List.length_pos_of_mem (self_mem_subtree c)
    -- The last visit is within the budget.
    have hlast := (breachAt?_eq_none_iff.mp
      (hbreach ⟨c.subtree.length - 1, Nat.sub_lt hpos Nat.one_pos⟩)).2.1
    dsimp only at hlast
    omega

/-! ## Plain conversions -/

/-- A conversion that came to the plain value and to the notes of all nodes, each visited once. -/
structure Conversion.IsPlain (setting : Setting) (c : Cursor) (result : Conversion) : Prop where
  abortReason : result.abortReason = none
  markdown : result.markdown = plainDocument setting c
  warnings : result.warnings = (documentNotes setting c).filterMap Note.warning?
  issues : result.issues = (documentNotes setting c).filterMap Note.issue?
  visits : result.visits = (levels c).length

theorem isPlain_of_no_violation (hrules : setting.rules.rules = standardRules)
    (hadapter : setting.adapter.IsLocal)
    (hclean : ∀ text, setting.adapter.cleanText text = .ok text)
    (hviolation : violation? setting c = none) :
    (convert setting (some c)).IsPlain setting c := by
  obtain ⟨s, htraverse, hconverted⟩ := traverse_of_no_violation
    (fun d _ => tame_of_standard hrules hadapter.overrides _ d) hviolation
  rw [hclean] at htraverse
  have hfindings : s.findings = Findings.ofNotes setting (documentNotes setting c) := by
    rw [hconverted.findings, Session.findings_start, Findings.empty_append]
  rw [convert_of_ok htraverse]
  refine ⟨rfl, rfl, ?_, ?_, ?_⟩
  · rw [← Findings.warnings_ofNotes setting, ← hfindings]
    rfl
  · rw [← Findings.issues_ofNotes setting, ← hfindings]
    rfl
  · have hstart : (Session.start setting (some c)).visits = 0 := rfl
    have hvisits : s.visits = (levels c).length := by
      rw [hconverted.visits, hstart, Nat.zero_add, levels, List.length_map]
    exact hvisits

theorem violation?_of_not_aborted (hrules : setting.rules.rules = standardRules)
    (hadapter : setting.adapter.IsLocal) (hdone : (convert setting (some c)).abortReason = none) :
    violation? setting c = none := by
  cases hviolation : violation? setting c with
  | none => rfl
  | some v =>
    obtain ⟨s, hstopped, -⟩ := traverse_of_violation
      (fun d _ => tame_of_standard hrules hadapter.overrides _ d) hviolation
    obtain ⟨markdown, s', hpassed⟩ := traverse_of_not_aborted hdone
    rw [hstopped] at hpassed
    cases hpassed

/-! ## Documents -/

section

variable (setting) (tree : Nat) (nodes : List Node)

/-- A document stands for its children, one after another. -/
theorem plainDocument_document (hrules : setting.rules.rules = standardRules) :
    plainDocument setting (root tree (.document nodes)) =
      String.join ((root tree (.document nodes)).children.map (plainText setting 0)) :=
  (plain_of_no_rule 0 rfl (ruleOf?_document tree nodes hrules)).1

theorem documentNotes_document (hrules : setting.rules.rules = standardRules) {α : Type}
    (taken? : Note → Option α) :
    (documentNotes setting (root tree (.document nodes))).filterMap taken? =
      ((root tree (.document nodes)).children.map fun d =>
        (plainNotes setting 0 d).filterMap taken?).flatten := by
  have hown : ownNotes setting 0 (root tree (.document nodes)) = [] :=
    (plain_of_no_rule 0 rfl (ruleOf?_document tree nodes hrules)).2
  show (plainNotes setting 0 (root tree (.document nodes))).filterMap taken? = _
  rw [plainNotes_eq, hown, List.append_nil, List.filterMap_flatMap, List.flatMap_def]

theorem levels_document :
    levels (root tree (.document nodes)) =
      0 :: ((root tree (.document nodes)).children.map levels).flatten := by
  rw [levels, subtree_eq, List.map_cons, List.map_flatMap, List.flatMap_def]
  rfl

end

section

variable {first second : Nat → Rat} (tree : Nat) (xs ys : List Node)

/-- The document of two lists of messages stands for the two documents, one after the other. -/
theorem plainDocument_append (hrules : setting.rules.rules = standardRules)
    (hadapter : setting.adapter.IsLocal) :
    plainDocument setting (root tree (.document (xs ++ ys))) =
      plainDocument (setting.withClock first) (root tree (.document xs)) ++
        plainDocument (setting.withClock second) (root tree (.document ys)) := by
  have hchildren : (root tree (.document (xs ++ ys))).children.map (plainText setting 0) =
      (root tree (.document xs)).children.map (plainText (setting.withClock first) 0) ++
        (root tree (.document ys)).children.map (plainText (setting.withClock second) 0) :=
    map_children_append (fun _ _ _ h => plainText_relocate hrules hadapter h)
      (fun _ _ _ h => plainText_relocate hrules hadapter h) tree xs ys
  rw [plainDocument_document setting tree _ hrules,
    plainDocument_document (setting.withClock first) tree xs hrules,
    plainDocument_document (setting.withClock second) tree ys hrules, hchildren,
    String.join_append]

theorem documentNotes_append (hrules : setting.rules.rules = standardRules)
    (hadapter : setting.adapter.IsLocal) {α : Type} {taken? : Note → Option α}
    (htaken : Note.Portable taken?) :
    (documentNotes setting (root tree (.document (xs ++ ys)))).filterMap taken? =
      (documentNotes (setting.withClock first) (root tree (.document xs))).filterMap taken? ++
        (documentNotes (setting.withClock second) (root tree (.document ys))).filterMap
          taken? := by
  have hchildren : ((root tree (.document (xs ++ ys))).children.map fun d =>
      (plainNotes setting 0 d).filterMap taken?) =
        ((root tree (.document xs)).children.map fun d =>
          (plainNotes (setting.withClock first) 0 d).filterMap taken?) ++
        (root tree (.document ys)).children.map fun d =>
          (plainNotes (setting.withClock second) 0 d).filterMap taken? :=
    map_children_append (fun _ _ _ h => plainNotes_relocate hrules hadapter htaken h)
      (fun _ _ _ h => plainNotes_relocate hrules hadapter htaken h) tree xs ys
  rw [documentNotes_document setting tree _ hrules,
    documentNotes_document (setting.withClock first) tree xs hrules,
    documentNotes_document (setting.withClock second) tree ys hrules, hchildren,
    List.flatten_append]

theorem levels_append :
    levels (root tree (.document (xs ++ ys))) =
      levels (root tree (.document xs)) ++ (levels (root tree (.document ys))).tail := by
  have hchildren := map_children_append (fun old new c h => levels_relocate h)
    (fun old new c h => levels_relocate h) tree xs ys
  rw [levels_document, hchildren, List.flatten_append, levels_document, levels_document]
  rfl

theorem length_levels_append :
    (levels (root tree (.document (xs ++ ys)))).length + 1 =
      (levels (root tree (.document xs))).length + (levels (root tree (.document ys))).length := by
  -- The document itself is the one node that both parts have.
  have hpos : 0 < (levels (root tree (.document ys))).length := by simp [levels_document]
  rw [levels_append, List.length_append, List.length_tail]
  omega

/-- The first part keeps to the budgets if the whole does. -/
theorem violation?_first_of_append
    (h : violation? setting (root tree (.document (xs ++ ys))) = none)
    (htime : ∀ n, setting.options.timeBudget.exceededBy (first n - first 0) = false) :
    violation? (setting.withClock first) (root tree (.document xs)) = none := by
  obtain ⟨hdepth, hvisits⟩ := budgets_of_no_violation h
  rw [levels_append] at hdepth hvisits
  apply violation?_eq_none_of_budgets
  · intro level hlevel
    exact hdepth level (List.mem_append_left _ hlevel)
  · rw [List.length_append] at hvisits
    show (levels (root tree (.document xs))).length ≤ setting.options.maxVisits
    omega
  · exact htime

/-- The second part keeps to the budgets if the whole does. -/
theorem violation?_second_of_append
    (h : violation? setting (root tree (.document (xs ++ ys))) = none)
    (htime : ∀ n, setting.options.timeBudget.exceededBy (second n - second 0) = false) :
    violation? (setting.withClock second) (root tree (.document ys)) = none := by
  obtain ⟨hdepth, hvisits⟩ := budgets_of_no_violation h
  apply violation?_eq_none_of_budgets
  · intro level hlevel
    rw [levels_document] at hlevel
    rcases List.mem_cons.mp hlevel with rfl | hbelow
    · exact Nat.zero_le _
    · rw [levels_append] at hdepth
      refine hdepth level (List.mem_append_right _ ?_)
      rwa [levels_document]
  -- The first part has at least the document, which makes up for that of the second.
  · have hlength := length_levels_append tree xs ys
    have hpos : 0 < (levels (root tree (.document xs))).length := by simp [levels_document]
    show (levels (root tree (.document ys))).length ≤ setting.options.maxVisits
    omega
  · exact htime

end

/-- The adapters that leave a finished document as it is. -/
theorem cleanText_of_plain {a : Adapter} (h : a ∈ [Adapter.generic, .chatGPT, .claude, .deepseek])
    (text : String) : a.cleanText text = .ok text := by
  simp only [List.mem_cons, List.not_mem_nil, or_false] at h
  rcases h with rfl | rfl | rfl | rfl <;> rfl

/-- Messages are converted independently. If a document is converted without being given up, by the
built-in rules and an adapter that leaves finished documents as they are, then its two parts are
too, whatever their clocks say as long as time does not run out. Its text, its warnings and its
issues are those of the first part followed by those of the second, and the document itself is
visited once instead of twice. -/
theorem convertCounted_append {first second : Nat → Rat} {result : Conversion} (tree : Nat)
    (xs ys : List Node) (hrules : setting.rules.rules = RuleTable.standard.rules)
    (hadapter : setting.adapter ∈ [Adapter.generic, .chatGPT, .claude, .deepseek])
    (hfirst : ∀ n, setting.options.timeBudget.exceededBy (first n - first 0) = false)
    (hsecond : ∀ n, setting.options.timeBudget.exceededBy (second n - second 0) = false)
    (hresult : convertCounted setting (some (root tree (.document (xs ++ ys)))) = .ok result)
    (hdone : result.abortReason = none) :
    ∃ one two,
      convertCounted (setting.withClock first) (some (root tree (.document xs))) = .ok one ∧
      convertCounted (setting.withClock second) (some (root tree (.document ys))) = .ok two ∧
      one.abortReason = none ∧ two.abortReason = none ∧
      result.markdown = one.markdown ++ two.markdown ∧
      result.warnings = one.warnings ++ two.warnings ∧
      result.issues = one.issues ++ two.issues ∧
      result.visits + 1 = one.visits + two.visits := by
  have hstandard : setting.rules.rules = standardRules := hrules.trans rules_standard
  have hbuiltin : setting.adapter ∈ builtinAdapters :=
    List.mem_append_left [Adapter.gemini] hadapter
  have hlocal := isLocal_of_mem_builtin hbuiltin
  have hclean := cleanText_of_plain hadapter
  have hlimit : setting.options.maxVisits + 1 ≤ Arena.maxLimit := by
    rw [convertCounted_eq] at hresult
    by_contra hlimit
    rw [if_neg hlimit] at hresult
    cases hresult
  obtain rfl := eq_convert_of_convertCounted hresult
  have hviolation := violation?_of_not_aborted hstandard hlocal hdone
  have hfirstViolation := violation?_first_of_append tree xs ys hviolation hfirst
  have hsecondViolation := violation?_second_of_append tree xs ys hviolation hsecond
  have hwhole := isPlain_of_no_violation hstandard hlocal hclean hviolation
  have hone : (convert (setting.withClock first) (some (root tree (.document xs)))).IsPlain
      (setting.withClock first) (root tree (.document xs)) :=
    isPlain_of_no_violation hstandard hlocal hclean hfirstViolation
  have htwo : (convert (setting.withClock second) (some (root tree (.document ys)))).IsPlain
      (setting.withClock second) (root tree (.document ys)) :=
    isPlain_of_no_violation hstandard hlocal hclean hsecondViolation
  refine ⟨_, _, ?_, ?_, hone.abortReason, htwo.abortReason, ?_, ?_, ?_, ?_⟩
  · rw [convertCounted_eq]
    exact if_pos hlimit
  · rw [convertCounted_eq]
    exact if_pos hlimit
  · rw [hwhole.markdown, hone.markdown, htwo.markdown]
    exact plainDocument_append tree xs ys hstandard hlocal
  · rw [hwhole.warnings, hone.warnings, htwo.warnings]
    exact documentNotes_append tree xs ys hstandard hlocal Note.portable_warning?
  · rw [hwhole.issues, hone.issues, htwo.issues]
    exact documentNotes_append tree xs ys hstandard hlocal Note.portable_issue?
  · rw [hwhole.visits, hone.visits, htwo.visits]
    exact length_levels_append tree xs ys

/-- A message with a link in a list. The list has the link converted again, and the link warns of
its target. -/
def linkMessage : Node :=
  .element "ul" [] [.element "li" []
    [.element "a" [⟨"href", .text "javascript:x"⟩] [.leaf .plain "t"]]]

/-- A message with a formula. -/
def formulaMessage : Node :=
  .element "p" [] [.element "span" [⟨"class", .words ["katex"]⟩] [.leaf .plain "x"]]

theorem convertCounted_append_messages :
    builtinSetting.rules.rules = RuleTable.standard.rules ∧
      builtinSetting.adapter ∈ [Adapter.generic, .chatGPT, .claude, .deepseek] ∧
      (∀ n, builtinSetting.options.timeBudget.exceededBy
        (builtinSetting.clock n - builtinSetting.clock 0) = false) ∧
      ∃ result, convertCounted builtinSetting
          (some (root 0 (.document ([linkMessage] ++ [formulaMessage])))) = .ok result ∧
        result.abortReason = none ∧
        ∃ one two,
          convertCounted (builtinSetting.withClock builtinSetting.clock)
            (some (root 0 (.document [linkMessage]))) = .ok one ∧
          convertCounted (builtinSetting.withClock builtinSetting.clock)
            (some (root 0 (.document [formulaMessage]))) = .ok two ∧
          one.abortReason = none ∧ two.abortReason = none ∧
          result.markdown = one.markdown ++ two.markdown ∧
          result.warnings = one.warnings ++ two.warnings ∧
          result.issues = one.issues ++ two.issues ∧
          result.visits + 1 = one.visits + two.visits := by
  have hadapter : builtinSetting.adapter ∈
      [Adapter.generic, .chatGPT, .claude, .deepseek] := List.mem_cons_self
  have htime : ∀ n, builtinSetting.options.timeBudget.exceededBy
      (builtinSetting.clock n - builtinSetting.clock 0) = false :=
    @exceededBy_timeAt_of_still builtinSetting rfl fun _ => rfl
  have hviolation : violation? builtinSetting
      (root 0 (.document ([linkMessage] ++ [formulaMessage]))) = none :=
    violation?_eq_none_of_still rfl (fun _ => rfl) (by decide) (by decide)
  obtain ⟨result, hresult, hdone, -⟩ := convertCounted_of_no_violation
    (fun d _ => tame_of_standard rules_standard rfl _ d) (by decide) hviolation rfl
  exact ⟨rfl, hadapter, htime, result, hresult, hdone,
    convertCounted_append 0 [linkMessage] [formulaMessage] rfl hadapter htime htime hresult hdone⟩

end Transcript
