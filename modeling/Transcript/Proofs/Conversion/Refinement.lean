import Transcript.Proofs.Conversion.Plain
import Transcript.Proofs.Rule.Search

/-!
# The traversal computes the plain values

As long as no visit breaks a budget, the traversal visits the nodes of a tree in document order,
each of them once, and remembers the plain value of each; what rules have converted again is
remembered by then. The first visit that breaks a budget ends it.

The invariant is one of sessions: the nodes still to be visited have neither a text nor a rule in
memory, those that were visited have their plain values there, and nothing else has changed.

## Main definitions

- `Tame`: rules that can be searched, and that only ask for nodes below their own
- `Converted`, `Stopped`: the session after some nodes were converted, or after a violation
- `Goes`: how a conversion of nodes has to go

## Main results

- `run_of_keeps`: the run of a program whose nodes are remembered is its plain outcome
- `convertAll_goes`, `processAt_goes`: the step over siblings and the whole traversal
- `convertCounted_eq_plain`: a conversion that is not given up is the plain one
-/

namespace Transcript

open Markup

/-! ## Tame rules -/

/-- A program at a node asks for nodes below it only, and fails without giving up. -/
def Conduct.below (c : Cursor) : Conduct where
  asks node := ∃ d ∈ c.descendants, node = some d
  reports _ := True
  raises fault := fault.isAbort = false

/-- At an element, every filter answers, and the replacement of a rule that accepts the element asks
for nodes below only. -/
structure Tame (setting : Setting) (base : Nat) (c : Cursor) : Prop where
  answers : c.node.isElement = true → ∀ rule ∈ setting.rules.rules,
    ∃ accepted, rule.filter.accepts c = .ok accepted
  keeps : c.node.isElement = true → ∀ rule ∈ setting.rules.rules,
    rule.filter.accepts c = .ok true → ∀ content,
      (rule.replacement (setting.sceneAt base c) content).Keeps (.below c)

theorem Tame.find_eq {setting : Setting} {base : Nat} {c : Cursor} (h : Tame setting base c)
    (hc : c.node.isElement = true) : setting.rules.find c = .ok (setting.ruleOf? c) := by
  obtain ⟨found, hfound⟩ := RuleTable.findIn_of_answers (h.answers hc)
  have hfind : setting.rules.find c = .ok found := hfound
  simp [Setting.ruleOf?, hfind]

/-- The rule of a node is a rule of the table that accepts the node. -/
theorem accepts_of_ruleOf? {setting : Setting} {c : Cursor} {rule : Rule}
    (h : setting.ruleOf? c = some rule) :
    rule ∈ setting.rules.rules ∧ rule.filter.accepts c = .ok true := by
  unfold Setting.ruleOf? at h
  split at h
  · rename_i found hfind
    subst h
    exact RuleTable.accepts_of_findIn hfind
  · simp at h

/-! ## Runs of programs -/

/-- Where every node that a program may ask for is remembered, the run of the program is its
outcome, and adds its notes. -/
theorem run_of_keeps {α : Type} (setting : Setting) (depth : Nat) {may : Conduct}
    {ask : Option Cursor → String} {program : Rendering α} (h : program.Keeps may)
    {s : Session} (hs : s.Sound)
    (hask : ∀ node, may.asks node → s.textAt? (nodeKey node) = some (ask node)) :
    ∃ s', program.run (processAt setting depth) s = (program.outcome ask, s') ∧
      s.SameMemory s' ∧
        s'.findings = s.findings ++ Findings.ofNotes setting (program.notes ask) := by
  induction program generalizing s with
  | done value => exact ⟨s, rfl, .refl s, by simp [Rendering.notes]⟩
  | raise fault => exact ⟨s, rfl, .refl s, by simp [Rendering.notes]⟩
  -- Reports and warnings leave the memory alone, so the answers stay what they are.
  | report diagnostic next ih =>
    have hsame : s.SameMemory (s.report diagnostic) := ⟨rfl, rfl, rfl, rfl, rfl⟩
    obtain ⟨s', hrun, hmemory, hfindings⟩ :=
      ih h.2 (hsame.sound hs) fun node hnode => (hsame.textAt? _).trans (hask node hnode)
    refine ⟨s', hrun, hsame.trans hmemory, ?_⟩
    rw [hfindings, Session.findings_report setting, Findings.append_assoc]
    rfl
  | warn message next ih =>
    have hsame : s.SameMemory (s.warn message) := ⟨rfl, rfl, rfl, rfl, rfl⟩
    obtain ⟨s', hrun, hmemory, hfindings⟩ :=
      ih h (hsame.sound hs) fun node hnode => (hsame.textAt? _).trans (hask node hnode)
    refine ⟨s', hrun, hsame.trans hmemory, ?_⟩
    rw [hfindings, Session.findings_warn setting, Findings.append_assoc]
    rfl
  | process node next ih =>
    -- The node is remembered, so nothing is visited.
    have hremembered : processAt setting depth node s = (.ok (ask node), s) :=
      processAt_of_textAt? depth hs (hask node h.1)
    obtain ⟨s', hrun, hmemory, hfindings⟩ := ih (ask node) (h.2 _) hs hask
    refine ⟨s', ?_, hmemory, hfindings⟩
    simp only [Rendering.run, hremembered]
    exact hrun
  -- The run uses the number of the new tree; the program does not look at it.
  | plant tree next ih =>
    have hsame : s.SameMemory { s with trees := s.trees + 1 } := ⟨rfl, rfl, rfl, rfl, rfl⟩
    obtain ⟨s', hrun, hmemory, hfindings⟩ :=
      ih (Cursor.root 0 tree) h.2 (hsame.sound hs) fun node hnode =>
        (hsame.textAt? _).trans (hask node hnode)
    refine ⟨s', ?_, hsame.trans hmemory, hfindings⟩
    simp only [Rendering.run, h.1]
    exact hrun

/-! ## Sessions along the traversal -/

/-- Nothing is remembered of any of the nodes. -/
def Fresh (cs : List Cursor) (s : Session) : Prop :=
  ∀ d ∈ cs, s.textAt? (some d.place) = none ∧ s.ruleAt? (some d.place) = none

/-- A session that knows the rule of a node, if at all, and else differs from the one before in
nothing. -/
structure Prepared (c : Cursor) (s t : Session) : Prop where
  sound : t.Sound
  inStep : t.InStep
  visits : t.visits = s.visits
  findings : t.findings = s.findings
  text : ∀ key, t.textAt? key = s.textAt? key
  rule : ∀ key, key ≠ some c.place → t.ruleAt? key = s.ruleAt? key

namespace Prepared

theorem refl {c : Cursor} {s : Session} (hs : s.Sound) (hstep : s.InStep) : Prepared c s s :=
  ⟨hs, hstep, rfl, rfl, fun _ => rfl, fun _ _ => rfl⟩

/-- The nodes below are as fresh as before. -/
theorem fresh {c : Cursor} {s t : Session} (h : Prepared c s t) (hfresh : Fresh c.subtree s) :
    Fresh (c.children.flatMap Cursor.subtree) t := by
  rw [← Cursor.descendants_eq]
  intro d hd
  have hne : (some d.place : NodeKey) ≠ some c.place := fun heq =>
    Cursor.place_ne_of_mem_descendants hd (Option.some.inj heq).symm
  rw [h.text, h.rule _ hne]
  exact hfresh d (Cursor.mem_subtree_of_mem_descendants hd)

end Prepared

/-- A session in which the nodes of a list were converted, in order, with these notes. -/
structure Converted (setting : Setting) (base : Nat) (cs : List Cursor) (notes : List Note)
    (s s' : Session) : Prop where
  sound : s'.Sound
  inStep : s'.InStep
  visits : s'.visits = s.visits + cs.length
  text : ∀ d ∈ cs, s'.textAt? (some d.place) = some (plainText setting base d)
  otherText : ∀ key, (∀ d ∈ cs, key ≠ some d.place) → s'.textAt? key = s.textAt? key
  otherRule : ∀ key, (∀ d ∈ cs, key ≠ some d.place) → s'.ruleAt? key = s.ruleAt? key
  findings : s'.findings = s.findings ++ Findings.ofNotes setting notes

/-- A session in which a violation ended the conversion of the nodes of a list. -/
structure Stopped (setting : Setting) (base : Nat) (cs : List Cursor) (v : Violation)
    (s s' : Session) : Prop where
  visits : s'.visits = v.visitsCounted
  findings : ∃ notes, (∀ note ∈ notes, ∃ d ∈ cs, note ∈ ownNotes setting base d) ∧
    s'.findings = s.findings ++ Findings.ofNotes setting notes

/-- How the conversion of the nodes of a list has to go: up to the first violation, if there is
one, and else to a text. -/
def Goes (setting : Setting) (base : Nat) (cs : List Cursor) (notes : List Note) (text : String)
    (s : Session) (result : Except Fault String × Session) : Prop :=
  match firstViolation? setting base (s.visits + 1) cs with
  | none => ∃ s', result = (.ok text, s') ∧ Converted setting base cs notes s s'
  | some v => ∃ s', result = (.error (v.fault setting), s') ∧ Stopped setting base cs v s s'

/-- Giving out a number changes nothing for the conversion. -/
theorem Goes.of_number {setting : Setting} {base : Nat} {cs : List Cursor} {notes : List Note}
    {text : String} {s : Session} {key : NodeKey} {result : Except Fault String × Session}
    (hs : s.Sound) (h : Goes setting base cs notes text (s.number key) result) :
    Goes setting base cs notes text s result := by
  have hvisits : (s.number key).visits = s.visits := rfl
  simp only [Goes, hvisits] at h ⊢
  cases hviolation : firstViolation? setting base (s.visits + 1) cs with
  | some v =>
    rw [hviolation] at h
    obtain ⟨s', hresult, hstopped⟩ := h
    exact ⟨s', hresult, hstopped.visits, hstopped.findings⟩
  | none =>
    rw [hviolation] at h
    obtain ⟨s', hresult, hconverted⟩ := h
    refine ⟨s', hresult, hconverted.sound, hconverted.inStep, hconverted.visits, hconverted.text,
      fun d hd => ?_, fun d hd => ?_, hconverted.findings⟩
    · exact (hconverted.otherText d hd).trans (Session.textAt?_number hs key d)
    · exact (hconverted.otherRule d hd).trans (Session.ruleAt?_number hs key d)

namespace Fresh

theorem left {cs ds : List Cursor} {s : Session} (h : Fresh (cs ++ ds) s) : Fresh cs s :=
  fun d hd => h d (List.mem_append_left _ hd)

theorem sameMemory {cs : List Cursor} {s s' : Session} (h : Fresh cs s) (hs : s.SameMemory s') :
    Fresh cs s' := by
  intro d hd
  rw [hs.textAt?, hs.ruleAt?]
  exact h d hd

end Fresh

namespace Converted

variable {setting : Setting} {base : Nat} {cs ds : List Cursor} {notes further : List Note}
  {s s' s'' : Session}

theorem nil (hs : s.Sound) (hstep : s.InStep) : Converted setting base [] [] s s where
  sound := hs
  inStep := hstep
  visits := by simp
  text d hd := by simp at hd
  otherText _ _ := rfl
  otherRule _ _ := rfl
  findings := by simp

/-- Other nodes are as fresh afterwards as they were before. -/
theorem fresh (h : Converted setting base cs notes s s')
    (hdistinct : ∀ d ∈ cs, ∀ e ∈ ds, d.place ≠ e.place) (hfresh : Fresh ds s) : Fresh ds s' := by
  intro e he
  have hother : ∀ d ∈ cs, some e.place ≠ some d.place := by
    intro d hd hplace
    exact hdistinct d hd e he (Option.some.inj hplace).symm
  rw [h.otherText _ hother, h.otherRule _ hother]
  exact hfresh e he

theorem append (h : Converted setting base cs notes s s')
    (hnext : Converted setting base ds further s' s'')
    (hdistinct : ∀ d ∈ cs, ∀ e ∈ ds, d.place ≠ e.place) :
    Converted setting base (cs ++ ds) (notes ++ further) s s'' where
  sound := hnext.sound
  inStep := hnext.inStep
  visits := by
    rw [hnext.visits, h.visits, List.length_append]
    omega
  text d hd := by
    rcases List.mem_append.mp hd with hfirst | hsecond
    · have hother : ∀ e ∈ ds, some d.place ≠ some e.place := by
        intro e he hplace
        exact hdistinct d hfirst e he (Option.some.inj hplace)
      rw [hnext.otherText _ hother]
      exact h.text d hfirst
    · exact hnext.text d hsecond
  otherText key hkey := by
    rw [hnext.otherText key fun e he => hkey e (List.mem_append_right _ he)]
    exact h.otherText key fun d hd => hkey d (List.mem_append_left _ hd)
  otherRule key hkey := by
    rw [hnext.otherRule key fun e he => hkey e (List.mem_append_right _ he)]
    exact h.otherRule key fun d hd => hkey d (List.mem_append_left _ hd)
  findings := by
    rw [hnext.findings, h.findings, Findings.append_assoc, Findings.ofNotes_append]

/-- Steps that only add findings add their notes. -/
theorem sameMemory (h : Converted setting base cs notes s s') (hsame : s'.SameMemory s'')
    (hfindings : s''.findings = s'.findings ++ Findings.ofNotes setting further) :
    Converted setting base cs (notes ++ further) s s'' where
  sound := hsame.sound h.sound
  inStep := by
    have hstep : s'.readings = s'.visits + 1 := h.inStep
    simp [Session.InStep, hsame.readings, hsame.visits, hstep]
  visits := hsame.visits.trans h.visits
  text d hd := (hsame.textAt? _).trans (h.text d hd)
  otherText key hkey := (hsame.textAt? key).trans (h.otherText key hkey)
  otherRule key hkey := (hsame.ruleAt? key).trans (h.otherRule key hkey)
  findings := by rw [hfindings, h.findings, Findings.append_assoc, Findings.ofNotes_append]

/-- Once a node is visited, everything below it is converted, and its text is remembered, the node
is converted too. -/
theorem remember {c : Cursor} {t : Session} (h : Converted setting base c.descendants notes t s')
    (hprepared : Prepared c s.counted t) :
    Converted setting base (c :: c.descendants) notes s
      (remember (some c) (plainText setting base c) s') where
  sound := Session.sound_remember h.sound _ _
  inStep := h.inStep
  visits := by
    have hsame : (Transcript.remember (some c) (plainText setting base c) s').visits = s'.visits :=
      rfl
    have hcounted : s.counted.visits = s.visits + 1 := rfl
    rw [hsame, h.visits, hprepared.visits, hcounted, List.length_cons]
    omega
  text d hd := by
    rw [Session.textAt?_remember h.sound]
    rcases List.mem_cons.mp hd with rfl | hbelow
    · simp
    · have hne : c.place ≠ d.place := Cursor.place_ne_of_mem_descendants hbelow
      simpa [hne] using h.text d hbelow
  otherText key hkey := by
    have hself : key ≠ some c.place := hkey c (by simp)
    rw [Session.textAt?_remember h.sound, nodeKey_some, if_neg (Ne.symm hself),
      h.otherText key fun d hd => hkey d (by simp [hd]), hprepared.text]
    rfl
  otherRule key hkey := by
    have hself : key ≠ some c.place := hkey c (by simp)
    rw [Session.ruleAt?_remember h.sound, h.otherRule key fun d hd => hkey d (by simp [hd]),
      hprepared.rule key hself]
    rfl
  findings := by
    have hfindings : t.findings = s.findings := hprepared.findings
    rw [← hfindings]
    exact h.findings

end Converted

namespace Stopped

variable {setting : Setting} {base : Nat} {cs ds : List Cursor} {v : Violation}
  {s s' s'' : Session}

theorem mono (h : Stopped setting base cs v s s') (hsub : ∀ d ∈ cs, d ∈ ds) :
    Stopped setting base ds v s s' := by
  obtain ⟨notes, hnotes, hfindings⟩ := h.findings
  refine ⟨h.visits, notes, fun note hnote => ?_, hfindings⟩
  obtain ⟨d, hd, hown⟩ := hnotes note hnote
  exact ⟨d, hsub d hd, hown⟩

/-- What was found before the conversion of the nodes is found too. -/
theorem of_findings {notes : List Note} (h : Stopped setting base ds v s' s'')
    (hnotes : ∀ note ∈ notes, ∃ d ∈ cs, note ∈ ownNotes setting base d)
    (hfindings : s'.findings = s.findings ++ Findings.ofNotes setting notes) :
    Stopped setting base (cs ++ ds) v s s'' := by
  obtain ⟨later, hlater, hlast⟩ := h.findings
  refine ⟨h.visits, notes ++ later, ?_, ?_⟩
  · intro note hnote
    rcases List.mem_append.mp hnote with hfirst | hsecond
    · obtain ⟨d, hd, hown⟩ := hnotes note hfirst
      exact ⟨d, List.mem_append_left _ hd, hown⟩
    · obtain ⟨d, hd, hown⟩ := hlater note hsecond
      exact ⟨d, List.mem_append_right _ hd, hown⟩
  · rw [hlast, hfindings, Findings.append_assoc, Findings.ofNotes_append]

end Stopped

/-! ## Siblings -/

/-- Siblings are converted one after another, if each of them is. -/
theorem convertAll_goes {setting : Setting} {base : Nat} {descend : Converter} {cs : List Cursor}
    (hdescend : ∀ c ∈ cs, ∀ s : Session, s.Sound → s.InStep → Fresh c.subtree s →
      Goes setting base c.subtree (plainNotes setting base c) (plainText setting base c) s
        (descend (some c) s))
    (hdistinct : cs.Pairwise fun a b => ∀ d ∈ a.subtree, ∀ e ∈ b.subtree, d.place ≠ e.place)
    {s : Session} (hs : s.Sound) (hstep : s.InStep) (hfresh : Fresh (cs.flatMap Cursor.subtree) s) :
    Goes setting base (cs.flatMap Cursor.subtree) (cs.flatMap (plainNotes setting base))
      (String.join (cs.map (plainText setting base))) s (convertAll descend cs s) := by
  induction cs generalizing s with
  | nil => exact ⟨s, rfl, .nil hs hstep⟩
  | cons c rest ih =>
    obtain ⟨hfirst, hrest⟩ := List.pairwise_cons.mp hdistinct
    have happart : ∀ d ∈ c.subtree, ∀ e ∈ rest.flatMap Cursor.subtree, d.place ≠ e.place := by
      intro d hd e he
      obtain ⟨b, hb, heb⟩ := List.mem_flatMap.mp he
      exact hfirst b hb d hd e heb
    have hgoes := hdescend c (by simp) s hs hstep hfresh.left
    simp only [Goes, List.flatMap_cons, firstViolation?_append, convertAll, List.map_cons,
      String.join_cons] at hgoes ⊢
    cases hviolation : firstViolation? setting base (s.visits + 1) c.subtree with
    -- The violation lies in the first sibling, and nothing is done about the others.
    | some v =>
      rw [hviolation] at hgoes
      obtain ⟨s', hrun, hstopped⟩ := hgoes
      exact ⟨s', by rw [hrun], hstopped.mono fun d hd => List.mem_append_left _ hd⟩
    | none =>
      rw [hviolation] at hgoes
      obtain ⟨s', hrun, hconverted⟩ := hgoes
      -- The first sibling is done; positions go on behind its nodes.
      have hvisits : s.visits + 1 + c.subtree.length = s'.visits + 1 := by
        rw [hconverted.visits]
        omega
      have hothers := ih (fun d hd => hdescend d (by simp [hd])) hrest hconverted.sound
        hconverted.inStep
        (hconverted.fresh happart fun d hd => hfresh d (List.mem_append_right _ hd))
      simp only [Goes] at hothers
      rw [hrun, Option.none_or, hvisits]
      cases hlater : firstViolation? setting base (s'.visits + 1)
          (rest.flatMap Cursor.subtree) with
      | some v =>
        rw [hlater] at hothers
        obtain ⟨s'', hrun', hstopped⟩ := hothers
        refine ⟨s'', by simp [hrun'], hstopped.of_findings ?_ hconverted.findings⟩
        intro note hnote
        exact mem_plainNotes_iff.mp hnote
      | none =>
        rw [hlater] at hothers
        obtain ⟨s'', hrun', hconverted'⟩ := hothers
        exact ⟨s'', by simp [hrun'], hconverted.append hconverted' happart⟩

/-! ## One node -/

theorem convertNode_of_leaf {setting : Setting} {descend : Converter} {depth : Nat} {c : Cursor}
    {s : Session} (hc : c.node.isElement = false) :
    convertNode setting descend depth (some c) s = (.ok c.node.textContent, s) := by
  cases hnode : c.node with
  | leaf kind text => simp [convertNode, hnode]
  | element name attributes children => simp [hnode, Node.isElement] at hc
  | document children => simp [hnode, Node.isElement] at hc

theorem convertNode_of_isElement {setting : Setting} {descend : Converter} {depth : Nat}
    {c : Cursor} {s : Session} (hc : c.node.isElement = true) :
    convertNode setting descend depth (some c) s = convertElement setting descend depth c s := by
  cases hnode : c.node with
  | leaf kind text => simp [hnode, Node.isElement] at hc
  | element name attributes children => simp [convertNode, hnode]
  | document children => simp [convertNode, hnode]

/-- The rule of an element, run once everything below the element is converted. -/
theorem rule_goes {setting : Setting} {base : Nat} {c : Cursor} {rule : Rule} {notes : List Note}
    {s s' : Session} (hc : c.node.isElement = true) (htame : Tame setting base c)
    (hrule : setting.ruleOf? c = some rule)
    (h : Converted setting base c.descendants notes s s') :
    ∃ s'', guarded setting (some c) rule.name (fun _ => plainContent setting base c)
        ((rule.replacement (setting.sceneAt base c) (plainContent setting base c)).run
          (processAt setting (c.depthFrom base + 1))) s' = (.ok (plainText setting base c), s'') ∧
      Converted setting base c.descendants (notes ++ ownNotes setting base c) s s'' := by
  obtain ⟨hmem, haccepts⟩ := accepts_of_ruleOf? hrule
  have hkeeps := htame.keeps hc rule hmem haccepts (plainContent setting base c)
  -- All nodes below are converted, so whatever the rule asks for is remembered.
  have hask : ∀ node, (Conduct.below c).asks node →
      s'.textAt? (nodeKey node) = some (plainAnswer setting base c node) := by
    rintro node ⟨d, hd, rfl⟩
    rw [plainAnswer_of_mem hd]
    exact h.text d hd
  obtain ⟨s₁, hrun, hsame, hfindings⟩ :=
    run_of_keeps setting (c.depthFrom base + 1) hkeeps h.sound hask
  obtain ⟨hvalue, hnotes⟩ := plain_of_rule base hc hrule
  unfold guarded
  rw [hrun]
  cases houtcome : (rule.replacement (setting.sceneAt base c)
      (plainContent setting base c)).outcome (plainAnswer setting base c) with
  | ok text =>
    rw [houtcome] at hvalue hnotes
    refine ⟨s₁, by rw [hvalue], h.sameMemory hsame ?_⟩
    rw [hfindings, hnotes, List.append_nil]
  | error fault =>
    rw [houtcome] at hvalue hnotes
    have habort : fault.isAbort = false := Rendering.raises_of_outcome hkeeps houtcome
    -- The inner boundary: the fault leaves an issue, and the children's text stands in.
    refine ⟨recover setting fault (some c) rule.name fault.kind.recovery s₁, ?_, ?_⟩
    · simp [habort, hvalue]
    · refine h.sameMemory (hsame.trans (sameMemory_recover ..)) ?_
      rw [findings_recover, hfindings, hnotes, Findings.append_assoc]
      simp

/-- The rule of an element that nothing is remembered of is looked for and kept. -/
theorem resolve_of_tame {setting : Setting} {base : Nat} {c : Cursor} {s : Session}
    (hc : c.node.isElement = true) (htame : Tame setting base c) (hs : s.Sound)
    (hstep : s.InStep) (hfresh : Fresh [c] s) :
    ∃ t, resolve setting c s = (.ok (setting.ruleOf? c), t) ∧ Prepared c s t := by
  have hnumber := Session.sound_number hs (some c.place)
  refine ⟨(s.number (some c.place)).keepRule (some c.place) (setting.ruleOf? c), ?_,
    Session.sound_keepRule hnumber _ _, hstep, rfl, rfl, fun key => ?_, fun key hkey => ?_⟩
  -- Nothing is remembered of the node, so its rule is looked for.
  · rw [resolve_eq hs, (hfresh c (by simp)).2, htame.find_eq hc]
  · rw [Session.textAt?_keepRule hnumber, Session.textAt?_number hs]
  · rw [Session.ruleAt?_keepRule hnumber, if_neg (Ne.symm hkey), Session.ruleAt?_number hs]

/-- A node whose children can be converted is converted, or stopped below. -/
theorem convertNode_goes {setting : Setting} {base : Nat} {c : Cursor} {s : Session}
    (htame : Tame setting base c)
    (hchildren : ∀ d ∈ c.children, ∀ s : Session, s.Sound → s.InStep → Fresh d.subtree s →
      Goes setting base d.subtree (plainNotes setting base d) (plainText setting base d) s
        (processAt setting (c.depthFrom base + 1) (some d) s))
    (hs : s.Sound) (hstep : s.InStep) (hfresh : Fresh c.subtree s) :
    ∃ t, Prepared c s t ∧
      Goes setting base c.descendants (plainNotes setting base c) (plainText setting base c) t
        (convertNode setting (processAt setting (c.depthFrom base + 1)) (c.depthFrom base)
          (some c) s) := by
  cases hc : c.node.isElement with
  -- Character data has no rule and nothing below it.
  | false =>
    obtain ⟨htext, hnotes⟩ := plain_of_leaf setting base hc
    have hnone : c.children = [] := Cursor.children_of_not_isElement hc
    refine ⟨s, .refl hs hstep, ?_⟩
    rw [Cursor.descendants_eq, plainNotes_eq, hnone, hnotes, htext, convertNode_of_leaf hc]
    exact ⟨s, rfl, .nil hs hstep⟩
  -- An element: its rule is found first, then the children are converted, then the rule runs.
  | true =>
    obtain ⟨t, hresolve, hprepared⟩ := resolve_of_tame hc htame hs hstep
      fun d hd => hfresh d (by simpa [List.mem_singleton.mp hd] using Cursor.self_mem_subtree c)
    have hgoes := convertAll_goes hchildren Cursor.pairwise_place_childrenFrom
      hprepared.sound hprepared.inStep (hprepared.fresh hfresh)
    refine ⟨t, hprepared, ?_⟩
    rw [convertNode_of_isElement hc]
    simp only [Goes, convertElement, hresolve, ← Cursor.descendants_eq] at hgoes ⊢
    cases hviolation : firstViolation? setting base (t.visits + 1) c.descendants with
    | some v =>
      rw [hviolation] at hgoes
      obtain ⟨s', hrun, hstopped⟩ := hgoes
      exact ⟨s', by simp [hrun], hstopped⟩
    | none =>
      rw [hviolation] at hgoes
      obtain ⟨s', hrun, hconverted⟩ := hgoes
      cases hrule : setting.ruleOf? c with
      | none =>
        obtain ⟨htext, hnotes⟩ := plain_of_no_rule base hc hrule
        refine ⟨s', ?_, ?_⟩
        · simp [hrun, htext, plainContent]
        · rw [plainNotes_eq, hnotes, List.append_nil]
          exact hconverted
      | some rule =>
        obtain ⟨s'', hguarded, hconverted'⟩ := rule_goes hc htame hrule hconverted
        refine ⟨s'', ?_, ?_⟩
        · simp only [hrun]
          exact hguarded
        · rw [plainNotes_eq]
          exact hconverted'

/-! ## The whole traversal -/

/-- A node is visited first; then it is converted behind the outer boundary, which nothing but a
violation crosses, and its text is remembered. -/
theorem convertFresh_goes {setting : Setting} {base : Nat} {c : Cursor} {s : Session}
    (htame : Tame setting base c)
    (hchildren : ∀ d ∈ c.children, ∀ s : Session, s.Sound → s.InStep → Fresh d.subtree s →
      Goes setting base d.subtree (plainNotes setting base d) (plainText setting base d) s
        (processAt setting (c.depthFrom base + 1) (some d) s))
    (hs : s.Sound) (hstep : s.InStep) (hfresh : Fresh c.subtree s) :
    Goes setting base c.subtree (plainNotes setting base c) (plainText setting base c) s
      (convertFresh setting (processAt setting (c.depthFrom base + 1)) (c.depthFrom base)
        (some c) s) := by
  simp only [Goes, Cursor.subtree_eq c, ← Cursor.descendants_eq, firstViolation?]
  cases hbreach : breachAt? setting (c.depthFrom base) (s.visits + 1) with
  -- The visit itself breaks a budget, before anything is converted.
  | some breach =>
    obtain ⟨s', hvisit, hvisits, hfindings⟩ := visit_of_some hstep hbreach
    refine ⟨s', ?_, hvisits, [], by simp, by simp [hfindings]⟩
    simp only [convertFresh, hvisit]
    rfl
  | none =>
    have hvisit := visit_of_none hstep hbreach
    obtain ⟨t, hprepared, hgoes⟩ := convertNode_goes (s := s.counted) htame hchildren
      (Session.sound_counted hs) (Session.inStep_counted hstep) hfresh
    have hposition : t.visits + 1 = s.visits + 1 + 1 := by rw [hprepared.visits]; rfl
    simp only [Goes, hposition] at hgoes
    simp only [convertFresh, hvisit, guarded]
    cases hviolation : firstViolation? setting base (s.visits + 1 + 1) c.descendants with
    | some v =>
      rw [hviolation] at hgoes
      obtain ⟨s', hrun, hstopped⟩ := hgoes
      have hfindings : t.findings = s.findings ++ Findings.ofNotes setting [] := by
        rw [hprepared.findings]
        simp [Session.counted, Session.findings]
      have hself : ∀ note ∈ [], ∃ d ∈ [c], note ∈ ownNotes setting base d := by simp
      exact ⟨s', by simp [hrun, Violation.fault], hstopped.of_findings hself hfindings⟩
    | none =>
      rw [hviolation] at hgoes
      obtain ⟨s', hrun, hconverted⟩ := hgoes
      exact ⟨_, by rw [hrun], hconverted.remember hprepared⟩

/-- A tree is converted to its plain value, or stopped at its first violation. -/
theorem processAt_goes {setting : Setting} {base : Nat} {c : Cursor}
    (hbase : base ≤ c.above.length) (htame : ∀ d ∈ c.subtree, Tame setting base d) {s : Session}
    (hs : s.Sound) (hstep : s.InStep) (hfresh : Fresh c.subtree s) :
    Goes setting base c.subtree (plainNotes setting base c) (plainText setting base c) s
      (processAt setting (c.depthFrom base) (some c) s) := by
  induction c using Cursor.children_induction generalizing s with
  | step c ih =>
    -- Nothing is remembered of a fresh node: it gets a number and is converted.
    have hnumbered : processAt setting (c.depthFrom base) (some c) s =
        convertFresh setting (processAt setting (c.depthFrom base + 1)) (c.depthFrom base) (some c)
          (s.number (some c.place)) := by
      rw [processAt_eq, remembered?_eq hs, nodeKey_some,
        (hfresh c (Cursor.self_mem_subtree c)).1]
    -- One level deeper the induction hypothesis applies, in whatever session.
    have hchildren : ∀ d ∈ c.children, ∀ s : Session, s.Sound → s.InStep → Fresh d.subtree s →
        Goes setting base d.subtree (plainNotes setting base d) (plainText setting base d) s
          (processAt setting (c.depthFrom base + 1) (some d) s) := by
      intro d hd s hs hstep hfresh
      have hlength := Cursor.length_above_of_mem_children hd
      have hdepth : d.depthFrom base = c.depthFrom base + 1 := by
        simp only [Cursor.depthFrom]
        omega
      rw [← hdepth]
      exact ih d hd (by omega) (fun e he => htame e (Cursor.mem_subtree_trans
        (Cursor.mem_subtree_of_mem_children hd) he)) hs hstep hfresh
    rw [hnumbered]
    refine Goes.of_number hs (convertFresh_goes (htame c (Cursor.self_mem_subtree c)) hchildren
      (Session.sound_number hs _) hstep fun d hd => ?_)
    rw [Session.textAt?_number hs, Session.ruleAt?_number hs]
    exact hfresh d hd

end Transcript
