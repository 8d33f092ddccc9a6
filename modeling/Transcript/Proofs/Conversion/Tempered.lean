import Transcript.Proofs.Conversion.Parallel

/-!
# Tempered rules

A rule that gives up the conversion may as well fail in a way that is recovered from, as far as
conversions are concerned that are not given up: the rule has not failed in any of them. So what is
known of tame rules holds of these conversions with any adapter, even one that gives up here and
there.

## Main definitions

- `Rendering.tempered`, `Setting.tempered`: programs and rules that do not give up

## Main results

- `tempering_lawful`: a setting and its tempered form go along until the first is given up
- `plainText_tempered`: the plain values are the same
- `converted_of_builtin`: a conversion by the built-in rules that is not given up is a plain one
-/

namespace Transcript

open Markup

/-! ## Tempered programs -/

/-- The fault, or one that can be recovered from if it gives up. -/
def Fault.tempered (fault : Fault) : Fault :=
  if fault.isAbort then .of .badValue "" else fault

theorem Fault.isAbort_tempered (fault : Fault) : fault.tempered.isAbort = false := by
  unfold tempered
  split
  · rfl
  · exact eq_false_of_ne_true ‹_›

namespace Rendering

variable {α : Type}

/-- The program with tempered faults. -/
def tempered : Rendering α → Rendering α
  | done value => done value
  | raise fault => raise fault.tempered
  | report diagnostic next => report diagnostic next.tempered
  | warn message next => warn message next.tempered
  | process node next => process node fun text => (next text).tempered
  | plant tree next => plant tree fun root => (next root).tempered

/-- A program does what its tempered form does, until it gives up. -/
theorem follows_tempered (program : Rendering α) :
    program.Follows (fun fault => fault.isAbort = true) program.tempered := by
  induction program with
  | done value => exact .done value
  -- The only step that is not the same, and only for faults that give up.
  | raise fault =>
    cases habort : fault.isAbort with
    | true => exact .parted habort
    | false =>
      have hsame : fault.tempered = fault := by simp [Fault.tempered, habort]
      rw [tempered, hsame]
      exact .raise fault
  | report diagnostic next ih => exact .report diagnostic ih
  | warn message next ih => exact .warn message ih
  | process node next ih => exact .process node ih
  | plant tree next ih => exact .plant tree ih

theorem outcome_tempered (ask : Option Cursor → String) (program : Rendering α) :
    program.tempered.outcome ask =
      match program.outcome ask with
      | .ok value => .ok value
      | .error fault => .error fault.tempered := by
  induction program with
  | done value => rfl
  | raise fault => rfl
  | report diagnostic next ih => exact ih
  | warn message next ih => exact ih
  | process node next ih => exact ih (ask node)
  | plant tree next ih => exact ih (Cursor.root 0 tree)

theorem outcome_of_tempered {ask : Option Cursor → String} {program : Rendering α} {value : α}
    (h : program.tempered.outcome ask = .ok value) : program.outcome ask = .ok value := by
  rw [outcome_tempered] at h
  split at h
  · rename_i other hother
    rw [hother, Except.ok.inj h]
  · cases h

/-- A tempered program that asks for nodes below only does not give up either. -/
theorem keeps_tempered {c : Cursor} {program : Rendering α} (h : program.Keeps (.downward c)) :
    program.tempered.Keeps (.below c) := by
  induction program with
  | done value => trivial
  | raise fault => exact fault.isAbort_tempered
  | report diagnostic next ih => exact ⟨trivial, ih h.2⟩
  | warn message next ih => exact ih h
  | process node next ih => exact ⟨h.1, fun text => ih text (h.2 text)⟩
  | plant tree next ih => exact ⟨fun number => congrArg tempered (h.1 number), ih _ h.2⟩

end Rendering

/-! ## A setting and its tempered form -/

/-- The rule with tempered programs. -/
def Rule.tempered (rule : Rule) : Rule :=
  { rule with replacement := fun scene content => (rule.replacement scene content).tempered }

/-- The setting with tempered rules. -/
def Setting.tempered (setting : Setting) : Setting :=
  { setting with rules := { setting.rules with rules := setting.rules.rules.map Rule.tempered } }

/-- A setting beside its tempered form. They part where the first is given up, and otherwise find
the same. -/
def tempering (setting : Setting) : Pairing where
  first := setting
  second := setting.tempered
  counterpart := Rule.tempered
  parts fault := fault.isAbort = true
  gathered f f' := f' = f

theorem tempering_lawful (setting : Setting) : (tempering setting).Lawful where
  adapter := rfl
  clock := rfl
  rules := rfl
  filter _ := rfl
  name _ := rfl
  givesUp _ hparts := hparts
  visit depth _ _ hcounts := visit_together_of_sameCounts setting depth hcounts
  empty := rfl
  warnings _ _ hsame := congrArg Findings.warnings hsame
  note note f f' hsame := by
    have hf : f' = f := hsame
    rw [hf]
    rfl
  program rule _ c depth content :=
    .inl (Rendering.follows_tempered ((tempering setting).program rule c depth content))

variable {setting : Setting}

/-! ## Plain values -/

theorem ruleOf?_tempered (setting : Setting) (c : Cursor) :
    setting.tempered.ruleOf? c = (setting.ruleOf? c).map Rule.tempered := by
  have hfind : setting.tempered.rules.find c =
      (setting.rules.find c).map (Option.map Rule.tempered) :=
    (tempering_lawful setting).find_eq c
  unfold Setting.ruleOf?
  rw [hfind]
  cases setting.rules.find c <;> rfl

/-- A tempered rule comes to the same, or fails where the rule fails. -/
theorem plainValue_tempered (setting : Setting) (base : Nat) (c : Cursor) (content : String)
    (ask : Option Cursor → String) :
    plainValue setting.tempered base c content ask = plainValue setting base c content ask := by
  have hscene : setting.tempered.sceneAt base c = setting.sceneAt base c := rfl
  unfold plainValue
  rw [ruleOf?_tempered]
  split
  · rfl
  · cases setting.ruleOf? c with
    | none => rfl
    | some rule =>
      simp only [Option.map_some, Rule.tempered, Rendering.outcome_tempered, hscene]
      cases (rule.replacement (setting.sceneAt base c) content).outcome ask <;> rfl

/-- The plain values are the same. -/
theorem plainText_tempered (setting : Setting) (base : Nat) (c : Cursor) :
    plainText setting.tempered base c = plainText setting base c := by
  induction c using Cursor.descendants_induction with
  | step c ih =>
    have hcontent : plainContent setting.tempered base c = plainContent setting base c := by
      unfold plainContent
      rw [List.map_congr_left fun d hd => ih d (Cursor.mem_descendants_of_mem_children hd)]
    have hanswer : plainAnswer setting.tempered base c = plainAnswer setting base c := by
      unfold plainAnswer
      congr 1
      funext d hd
      exact ih d hd
    rw [plainText_eq, plainText_eq, hcontent, hanswer, plainValue_tempered]

theorem plainContent_tempered (setting : Setting) (base : Nat) (c : Cursor) :
    plainContent setting.tempered base c = plainContent setting base c := by
  unfold plainContent
  rw [List.map_congr_left fun d _ => plainText_tempered setting base d]

theorem plainAnswer_tempered (setting : Setting) (base : Nat) (c : Cursor) :
    plainAnswer setting.tempered base c = plainAnswer setting base c := by
  unfold plainAnswer
  simp only [plainText_tempered]

/-! ## Recovered faults -/

/-- A program leaves no issues itself. -/
theorem issue?_of_mem_notes {ask : Option Cursor → String} {program : Rendering String} :
    ∀ note ∈ program.notes ask, note.issue? = none := by
  induction program with
  | done value => exact List.forall_mem_nil _
  | raise fault => exact List.forall_mem_nil _
  | report diagnostic next ih => exact List.forall_mem_cons.mpr ⟨rfl, ih⟩
  | warn message next ih => exact List.forall_mem_cons.mpr ⟨rfl, ih⟩
  | process node next ih => exact ih (ask node)
  | plant tree next ih => exact ih (Cursor.root 0 tree)

/-- Where nothing of a node was recovered from, its rule came to a text. -/
theorem outcome_of_ownNotes {base : Nat} {d : Cursor} {rule : Rule}
    (hd : d.node.isElement = true) (hrule : setting.ruleOf? d = some rule)
    (hnotes : ∀ note ∈ ownNotes setting base d, note.issue? = none) :
    (rule.replacement (setting.sceneAt base d) (plainContent setting base d)).outcome
        (plainAnswer setting base d) = .ok (plainText setting base d) := by
  obtain ⟨hvalue, hown⟩ := plain_of_rule base hd hrule
  cases houtcome : (rule.replacement (setting.sceneAt base d)
      (plainContent setting base d)).outcome (plainAnswer setting base d) with
  | ok text => rw [hvalue, houtcome]
  | error fault =>
    rw [houtcome] at hown
    have hnote := hnotes (.recovered fault (some d) rule.name fault.kind.recovery) (by simp [hown])
    cases hnote

/-- Where the rule of a node comes to a text, nothing of the node is recovered from. -/
theorem issue?_of_mem_ownNotes {base : Nat} {d : Cursor}
    (h : d.node.isElement = true → ∀ rule, setting.ruleOf? d = some rule →
      ∃ text, (rule.replacement (setting.sceneAt base d) (plainContent setting base d)).outcome
        (plainAnswer setting base d) = .ok text) :
    ∀ note ∈ ownNotes setting base d, note.issue? = none := by
  cases hd : d.node.isElement with
  | false =>
    rw [(plain_of_leaf setting base hd).2]
    exact List.forall_mem_nil _
  | true =>
    cases hrule : setting.ruleOf? d with
    | none =>
      rw [(plain_of_no_rule base hd hrule).2]
      exact List.forall_mem_nil _
    | some rule =>
      obtain ⟨text, htext⟩ := h hd rule hrule
      rw [(plain_of_rule base hd hrule).2, htext, List.append_nil]
      exact issue?_of_mem_notes

/-! ## Conversions by the built-in rules -/

/-- With any adapter, tempered built-in rules are tame. -/
theorem tame_tempered (hrules : setting.rules.rules = standardRules) (base : Nat) (c : Cursor) :
    Tame setting.tempered base c where
  answers _ rule hrule := by
    obtain ⟨rule', hrule', rfl⟩ := List.mem_map.mp hrule
    rw [hrules] at hrule'
    exact answers_of_mem_standardRules hrule' c
  keeps _ rule hrule _ content := by
    obtain ⟨rule', hrule', rfl⟩ := List.mem_map.mp hrule
    exact Rendering.keeps_tempered
      (keepsDownward_of_mem_standardRules (hrules ▸ hrule') (setting.sceneAt base c) content)

variable {c : Cursor} {result : Conversion}

/-- A traversal that comes to an end goes along with the tempered one. -/
theorem exists_traverse_tempered {root : Option Cursor} {markdown : String} {s : Session}
    (h : traverse setting root (Session.start setting root) = (.ok markdown, s)) :
    ∃ s', traverse setting.tempered root (Session.start setting.tempered root) =
        (.ok markdown, s') ∧ (tempering setting).Alike s s' := by
  have htogether : Together _ (tempering setting).Alike
      (traverse setting root (Session.start setting root))
      (traverse setting.tempered root (Session.start setting.tempered root)) :=
    (tempering_lawful setting).traverse_together root
  rw [h] at htogether
  generalize traverse setting.tempered root _ = result at htogether ⊢
  cases htogether with
  | along halike => exact ⟨_, rfl, halike⟩

/-- A conversion by the built-in rules that is not given up remembers the plain value of every node,
and has cleaned that of the root. If nothing was recovered from, each of these values is what the
rule of the node came to. -/
theorem converted_of_builtin (hrules : setting.rules.rules = standardRules)
    (hresult : convertCounted setting (some c) = .ok result)
    (hdone : result.abortReason = none) :
    ∃ s, traverse setting (some c) (Session.start setting (some c)) = (.ok result.markdown, s) ∧
      setting.adapter.cleanText (plainDocument setting c) = .ok result.markdown ∧
      (∀ d ∈ c.subtree, s.textAt? (some d.place) = some (plainText setting c.above.length d)) ∧
      (result.issues = [] → ∀ d ∈ c.subtree, d.node.isElement = true → ∀ rule,
        setting.ruleOf? d = some rule →
          (rule.replacement (setting.sceneAt c.above.length d)
              (plainContent setting c.above.length d)).outcome
              (plainAnswer setting c.above.length d) =
            .ok (plainText setting c.above.length d)) := by
  obtain rfl := eq_convert_of_convertCounted hresult
  obtain ⟨markdown, s, htraverse⟩ := traverse_of_not_aborted hdone
  obtain ⟨s', htempered, halike⟩ := exists_traverse_tempered htraverse
  obtain ⟨hclean, hconverted⟩ :=
    converted_of_traverse (fun d _ => tame_tempered hrules c.above.length d) htempered
  have hmarkdown : (convert setting (some c)).markdown = markdown := by
    rw [convert_of_ok htraverse]
    rfl
  rw [hmarkdown]
  refine ⟨s, htraverse, ?_, fun d hd => ?_, fun hnone d hd helement rule hrule => ?_⟩
  · rwa [plainDocument, plainText_tempered] at hclean
  · rw [← halike.texts, hconverted.text d hd, plainText_tempered]
  · -- Both sessions have the same findings, and without issues no note is one.
    have hfindings : s.findings =
        Findings.ofNotes setting.tempered (documentNotes setting.tempered c) := by
      have hsame : s'.findings = s.findings := halike.findings
      rw [← hsame, hconverted.findings, Session.findings_start, Findings.empty_append]
    have hissues : (documentNotes setting.tempered c).filterMap Note.issue? = [] := by
      rw [← Findings.issues_ofNotes setting.tempered, ← hfindings, ← hnone, convert_of_ok htraverse]
      rfl
    have hnotes : ∀ note ∈ ownNotes setting.tempered c.above.length d, note.issue? = none :=
      fun note hnote => List.filterMap_eq_nil_iff.mp hissues note
        (mem_plainNotes_iff.mpr ⟨d, hd, hnote⟩)
    have hfound : setting.tempered.ruleOf? d = some rule.tempered := by
      rw [ruleOf?_tempered, hrule]
      rfl
    have houtcome := outcome_of_ownNotes helement hfound hnotes
    rw [plainContent_tempered, plainAnswer_tempered, plainText_tempered] at houtcome
    exact Rendering.outcome_of_tempered houtcome

/-- A conversion records no issue if every rule comes to a text. -/
theorem issues_eq_nil (htame : ∀ d ∈ c.subtree, Tame setting c.above.length d)
    (hresult : convertCounted setting (some c) = .ok result)
    (hdone : result.abortReason = none)
    (h : ∀ d ∈ c.subtree, d.node.isElement = true → ∀ rule, setting.ruleOf? d = some rule →
      ∃ text, (rule.replacement (setting.sceneAt c.above.length d)
          (plainContent setting c.above.length d)).outcome
          (plainAnswer setting c.above.length d) = .ok text) :
    result.issues = [] := by
  obtain rfl := eq_convert_of_convertCounted hresult
  obtain ⟨markdown, s, -, hconvert, hconverted⟩ := converted_of_not_aborted htame hdone
  have hissues : (convert setting (some c)).issues = s.findings.issues := by
    rw [hconvert]
    rfl
  rw [hissues, hconverted.findings, Session.findings_start, Findings.empty_append,
    Findings.issues_ofNotes, List.filterMap_eq_nil_iff]
  intro note hnote
  obtain ⟨d, hd, hown⟩ := mem_plainNotes_iff.mp hnote
  exact issue?_of_mem_ownNotes (h d hd) note hown

end Transcript
