import Transcript.Proofs.Conversion.Document

/-!
# When a conversion is given up

With the built-in rules and adapters nothing but a broken budget gives a conversion up. The nodes of
the document are visited in order, the first position whose visit breaks a budget decides, and
converting nodes a second time costs nothing. A budget of visits that cannot be counted up to is
refused before the conversion starts.

## Main definitions

- `abortEvents`: the events that tell of a conversion given up
- `GivenUp`: what is left of a conversion that was given up at a violation

## Main results

- `convert_of_violation`: a violation gives up the conversion, and is reported once
- `convert_of_no_violation`: without a violation every node is visited once
- `convertCounted_abort_law`: the law for every document, budget and clock
-/

namespace Transcript

open Markup

/-! ## Reports -/

/-- The events that tell of a conversion given up. -/
def abortEvents (trace : List Diagnostic) : List Event :=
  (Diagnostic.events trace).filter fun e => e.name == "parse_aborted"

theorem abortEvents_append (first second : List Diagnostic) :
    abortEvents (first ++ second) = abortEvents first ++ abortEvents second := by
  simp [abortEvents, Diagnostic.events, List.filterMap_append]

theorem abortEvents_of_quiet {trace : List Diagnostic}
    (h : ∀ d ∈ trace, d.announcesAbort = false) : abortEvents trace = [] := by
  induction trace with
  | nil => rfl
  | cons d rest ih =>
    have hrest : abortEvents rest = [] := ih fun other hother => h other (by simp [hother])
    have hfirst : d.announcesAbort = false := h d (by simp)
    rw [← List.singleton_append, abortEvents_append, hrest, List.append_nil]
    -- Warnings and errors are no events; an event has another name.
    cases d with
    | warning message report => rfl
    | error message report => rfl
    | event e =>
      have hname : (e.name == "parse_aborted") = false := hfirst
      simp [abortEvents, Diagnostic.events, hname]

/-- A note that does not tell of a conversion given up. -/
def Note.Quiet : Note → Prop
  | .reported d => d.announcesAbort = false
  | _ => True

theorem Note.quiet_findings {setting : Setting} {note : Note} (h : note.Quiet) :
    ∀ d ∈ (note.findings setting).trace, d.announcesAbort = false := by
  intro d hd
  cases note with
  | warned message =>
    obtain rfl := List.mem_singleton.mp hd
    rfl
  | reported diagnostic =>
    obtain rfl := List.mem_singleton.mp hd
    exact h
  | recovered fault node handler recovery =>
    simp only [Note.findings, Findings.trace_append, List.mem_append, List.mem_singleton] at hd
    rcases hd with rfl | hlistener
    · rfl
    · unfold Note.listenerFindings at hlistener
      split at hlistener
      · simp at hlistener
      · split at hlistener
        · simp at hlistener
        · obtain rfl := List.mem_singleton.mp hlistener
          rfl

theorem quiet_ofNotes {setting : Setting} {notes : List Note} (h : ∀ note ∈ notes, note.Quiet) :
    ∀ d ∈ (Findings.ofNotes setting notes).trace, d.announcesAbort = false := by
  induction notes with
  | nil => simp
  | cons note rest ih =>
    intro d hd
    rcases List.mem_append.mp hd with hfirst | hrest
    · exact Note.quiet_findings (h note (by simp)) d hfirst
    · exact ih (fun other hother => h other (by simp [hother])) d hrest

/-- The notes that built-in rules leave at a node are quiet. -/
theorem quiet_ownNotes {setting : Setting} (hrules : setting.rules.rules = standardRules)
    (hadapter : setting.adapter.overrides = {}) {base : Nat} {c : Cursor} {note : Note}
    (h : note ∈ ownNotes setting base c) : note.Quiet := by
  cases hc : c.node.isElement with
  | false =>
    rw [(plain_of_leaf setting base hc).2] at h
    simp at h
  | true =>
    cases hrule : setting.ruleOf? c with
    | none =>
      rw [(plain_of_no_rule base hc hrule).2] at h
      simp at h
    | some rule =>
      have hmem : rule ∈ standardRules := hrules ▸ (accepts_of_ruleOf? hrule).1
      have hkeeps : (rule.replacement (setting.sceneAt base c)
          (plainContent setting base c)).Keeps (.quiet c) :=
        keeps_of_mem_standardRules hmem (setting.sceneAt base c) hadapter _
      rw [(plain_of_rule base hc hrule).2, List.mem_append] at h
      -- The notes of the program itself, or the note of its failure.
      rcases h with hnote | hrecovered
      · rcases Rendering.note_of_keeps hkeeps hnote with ⟨message, rfl⟩ | ⟨d, rfl, hquiet⟩
        · trivial
        · exact hquiet
      · split at hrecovered
        · simp at hrecovered
        · obtain rfl := List.mem_singleton.mp hrecovered
          trivial

/-- A session whose findings are quiet notes has reported nothing of the kind. -/
theorem abortEvents_of_notes {setting : Setting} {s : Session} {notes : List Note}
    (hfindings : s.findings = Findings.ofNotes setting notes) (h : ∀ note ∈ notes, note.Quiet) :
    abortEvents s.trace.toList = [] := by
  have htrace : s.trace.toList = (Findings.ofNotes setting notes).trace :=
    congrArg Findings.trace hfindings
  rw [htrace]
  exact abortEvents_of_quiet (quiet_ofNotes h)

/-! ## The two ends of a conversion -/

/-- What is left of a conversion that was given up with a fault: so many visits, the flattened
document behind the reason, and one event that tells of it. -/
structure GivenUp (setting : Setting) (c : Cursor) (fault : Fault) (counted : Nat)
    (result : Conversion) : Prop where
  visits : result.visits = counted
  reason : result.abortReason = some fault.text
  markdown : result.markdown = "<!-- Parser " ++ fault.text ++ " -->\n\n" ++ c.node.textContent
  event : abortEvents result.trace =
    [Event.parseAborted fault.text setting.adapter.name counted fault.context]

theorem abortEvents_conclude (setting : Setting) (markdown : String)
    (abortReason : Option String) (s : Session) :
    abortEvents (conclude setting markdown abortReason s).trace = abortEvents s.trace.toList := by
  unfold conclude
  dsimp only
  split
  · rw [Array.toList_push, abortEvents_append]
    simp [abortEvents, Diagnostic.events, Event.parseComplete]
  · rfl

variable {setting : Setting} {c : Cursor}

theorem convert_of_violation {v : Violation} (hrules : setting.rules.rules = standardRules)
    (hadapter : setting.adapter.overrides = {}) (hviolation : violation? setting c = some v) :
    GivenUp setting c (v.fault setting) v.visitsCounted (convert setting (some c)) := by
  obtain ⟨s, htraverse, hvisits, notes, hnotes, hfindings⟩ :=
    traverse_of_violation (fun d _ => tame_of_standard hrules hadapter _ d) hviolation
  rw [Session.findings_start, Findings.empty_append] at hfindings
  have hquiet : abortEvents s.trace.toList = [] := by
    refine abortEvents_of_notes hfindings fun note hnote => ?_
    obtain ⟨d, -, hown⟩ := hnotes note hnote
    exact quiet_ownNotes hrules hadapter hown
  have hnode : (v.fault setting).kind.isNodeFault = true :=
    Breach.isNodeFault_fault setting v.depth v.position v.breach
  rw [convert_of_error htraverse]
  simp only [giveUp, hnode, if_true]
  -- Everything before the end was quiet, so the event of the end is the only one.
  refine ⟨hvisits, rfl, rfl, ?_⟩
  rw [abortEvents_conclude]
  simp only [Session.report, Array.toList_push, abortEvents_append, hquiet, List.nil_append]
  have hname : ∀ reason platform visits context,
      (Event.parseAborted reason platform visits context).name = "parse_aborted" :=
    fun _ _ _ _ => rfl
  simp [abortEvents, Diagnostic.events, hname, hvisits]

/-- Cleaning the text of a document does not fail with a built-in adapter. -/
theorem cleanText_of_overrides {a : Adapter} (h : a.overrides = {}) (text : String) :
    ∃ cleaned, a.cleanText text = .ok cleaned := by
  simp [Adapter.cleanText, h]

theorem convert_of_no_violation (hrules : setting.rules.rules = standardRules)
    (hadapter : setting.adapter.overrides = {}) (hviolation : violation? setting c = none) :
    (convert setting (some c)).abortReason = none ∧
      (convert setting (some c)).visits = c.subtree.length ∧
      abortEvents (convert setting (some c)).trace = [] := by
  obtain ⟨s, htraverse, hconverted⟩ :=
    traverse_of_no_violation (fun d _ => tame_of_standard hrules hadapter _ d) hviolation
  obtain ⟨markdown, hclean⟩ := cleanText_of_overrides hadapter (plainDocument setting c)
  rw [hclean] at htraverse
  rw [convert_of_ok htraverse]
  refine ⟨rfl, ?_, ?_⟩
  · have hstart : (Session.start setting (some c)).visits = 0 := rfl
    have hvisits : s.visits = c.subtree.length := by
      rw [hconverted.visits, hstart, Nat.zero_add]
    exact hvisits
  · rw [abortEvents_conclude]
    have hfindings : s.findings = Findings.ofNotes setting (documentNotes setting c) := by
      rw [hconverted.findings, Session.findings_start, Findings.empty_append]
    refine abortEvents_of_notes hfindings fun note hnote => ?_
    obtain ⟨d, -, hown⟩ := mem_plainNotes_iff.mp hnote
    exact quiet_ownNotes hrules hadapter hown

/-! ## The law -/

/-- The budget that a position of a document breaks, counted from one, when the nodes are visited in
order. -/
def breachOf? (setting : Setting) (c : Cursor) (i : Fin c.subtree.length) : Option Breach :=
  breachAt? setting (c.subtree[i].depthFrom c.above.length) (i + 1)

theorem violation?_eq_none_iff :
    violation? setting c = none ↔ ∀ i, breachOf? setting c i = none := by
  unfold violation?
  rw [firstViolation?_eq_none_iff]
  constructor
  · intro h i
    have hi := h i.val i.isLt
    rwa [Nat.add_comm] at hi
  · intro h i hi
    have hbreach := h ⟨i, hi⟩
    rw [Nat.add_comm]
    exact hbreach

theorem violation?_eq_some {i : Fin c.subtree.length} {breach : Breach}
    (hbreach : breachOf? setting c i = some breach)
    (hbefore : ∀ j < i, breachOf? setting c j = none) :
    violation? setting c = some ⟨i + 1, c.subtree[i].depthFrom c.above.length, breach⟩ := by
  have hat : breachAt? setting (c.subtree[i.val].depthFrom c.above.length) (1 + i.val) =
      some breach := by
    rw [Nat.add_comm]
    exact hbreach
  unfold violation?
  rw [firstViolation?_eq_some i.isLt hat, Nat.add_comm]
  · rfl
  · intro j hj
    have hnone := hbefore ⟨j, Nat.lt_trans hj i.isLt⟩ hj
    rw [Nat.add_comm]
    exact hnone

/-- A document is given up where a position breaks a budget, and the first such position decides;
otherwise every node is visited exactly once. A budget of visits beyond the largest number that can
be counted up to is refused. -/
theorem convertCounted_abort_law (hrules : setting.rules.rules = RuleTable.standard.rules)
    (hadapter : setting.adapter ∈ builtinAdapters) :
    (setting.options.maxVisits + 1 ≤ Arena.maxLimit →
      ∃ result, convertCounted setting (some c) = .ok result ∧
        (result.isAborted = true ↔ ∃ i, breachOf? setting c i ≠ none) ∧
        (∀ i breach, breachOf? setting c i = some breach →
          (∀ j < i, breachOf? setting c j = none) →
            GivenUp setting c
              (breach.fault setting (c.subtree[i].depthFrom c.above.length) (i + 1))
              (breach.visitsCounted (i + 1)) result) ∧
        ((∀ i, breachOf? setting c i = none) →
          result.visits = c.subtree.length ∧ abortEvents result.trace = [])) ∧
    (Arena.maxLimit < setting.options.maxVisits + 1 →
      convertCounted setting (some c) = .error Arena.badLimit) := by
  rw [rules_standard] at hrules
  have hplain : setting.adapter.overrides = {} := overrides_of_mem_builtin hadapter
  constructor
  · intro hlimit
    refine ⟨convert setting (some c), by rw [convertCounted_eq, if_pos hlimit], ?_, ?_, ?_⟩
    · cases hviolation : violation? setting c with
      | none =>
        have hdone := (convert_of_no_violation hrules hplain hviolation).1
        have hnone := violation?_eq_none_iff.mp hviolation
        simp [Conversion.isAborted, hdone, hnone]
      | some v =>
        have hreason := (convert_of_violation hrules hplain hviolation).reason
        have hbroken : ∃ i, breachOf? setting c i ≠ none := by
          -- Without a breach at any position there would be no violation.
          by_contra hall
          have hnone : violation? setting c = none :=
            violation?_eq_none_iff.mpr fun i => by
              by_contra hi
              exact hall ⟨i, hi⟩
          rw [hnone] at hviolation
          cases hviolation
        simp [Conversion.isAborted, hreason, hbroken]
    · intro i breach hbreach hbefore
      exact convert_of_violation hrules hplain (violation?_eq_some hbreach hbefore)
    · intro hnone
      exact (convert_of_no_violation hrules hplain (violation?_eq_none_iff.mpr hnone)).2
  · intro hlimit
    rw [convertCounted_eq, if_neg (Nat.not_le_of_lt hlimit)]

/-- The item of the list lies below the first level and gives the conversion up; a budget that
cannot be counted up to is refused, though nothing would break it. -/
theorem convertCounted_linkInList_budgets :
    (∃ result, convertCounted { builtinSetting with options := { maxDepth := 1 } }
        (some linkInList) = .ok result ∧ result.isAborted = true) ∧
      convertCounted { builtinSetting with options := { maxVisits := Arena.maxLimit } }
        (some linkInList) = .error Arena.badLimit := by
  have hadapter : Adapter.generic ∈ builtinAdapters := List.mem_cons_self
  constructor
  · have hlaw := @convertCounted_abort_law { builtinSetting with options := { maxDepth := 1 } }
      linkInList rfl hadapter
    obtain ⟨result, hresult, hiff, -, -⟩ := hlaw.1 (by decide)
    exact ⟨result, hresult, hiff.mpr ⟨⟨2, by decide⟩, by decide⟩⟩
  · have hlaw := @convertCounted_abort_law
      { builtinSetting with options := { maxVisits := Arena.maxLimit } } linkInList rfl hadapter
    exact hlaw.2 (by decide)

end Transcript
