import Transcript.Proofs.Conversion.Document
import Transcript.Proofs.Conversion.Invariant

/-!
# Conversions side by side

Two conversions of one document whose settings differ a little: in their options, in what some rules
do, in who listens. As long as the two go along, their sessions remember the same texts and the same
rules and have counted the same, though the nodes may be numbered differently. The induction over
the traversal is made once, for any pair of settings that obeys a few laws about single steps.

After some faults the runs may part; such faults give up the first conversion, so nothing is said
about what the second one does from there on.

## Main definitions

- `Together`: results that go along, unless a fault parts them
- `Rendering.Follows`: programs that do the same, up to such a fault
- `Pairing`: two settings, and how their rules, faults and findings compare
- `Pairing.Lawful`: the laws about single steps
- `Pairing.Alike`: sessions that go along
- `Conversion.SameDocument`, `Conversion.Records`: how whole conversions compare

## Main results

- `Pairing.Lawful.processAt_together`: the conversions of a node go along
- `Pairing.Lawful.traverse_together`: so do those of a document
- `Pairing.Lawful.convert_together`: whole conversions differ in their records only
-/

namespace Transcript

open Markup

/-! ## Pairs -/

/-- Two sessions with the same counts of visits and readings. -/
structure Session.SameCounts (s s' : Session) : Prop where
  visits : s'.visits = s.visits
  readings : s'.readings = s.readings

/-- Results that go along: equal outcomes and related sessions, unless a fault parts them. -/
inductive Together {α : Type} (parts : Fault → Prop) (related : Session → Session → Prop) :
    Except Fault α × Session → Except Fault α × Session → Prop
  /-- The first conversion meets a fault after which nothing is said about the second. -/
  | parted {fault : Fault} {s : Session} {result : Except Fault α × Session}
    (hparts : parts fault) : Together parts related (.error fault, s) result
  /-- Both come to the same. -/
  | along {outcome : Except Fault α} {s s' : Session} (hrelated : related s s') :
    Together parts related (outcome, s) (outcome, s')

/-- Programs that do the same, up to a fault that parts the runs. -/
inductive Rendering.Follows {α : Type} (parts : Fault → Prop) : Rendering α → Rendering α → Prop
  /-- Both end with the same result. -/
  | done (value : α) : Follows parts (.done value) (.done value)
  /-- Both end with the same fault. -/
  | raise (fault : Fault) : Follows parts (.raise fault) (.raise fault)
  /-- The first one ends with a fault after which nothing is said about the second. -/
  | parted {fault : Fault} {program : Rendering α} (hparts : parts fault) :
    Follows parts (.raise fault) program
  /-- Both report the same. -/
  | report (diagnostic : Diagnostic) {next next' : Rendering α} (hnext : Follows parts next next') :
    Follows parts (.report diagnostic next) (.report diagnostic next')
  /-- Both warn of the same. -/
  | warn (message : String) {next next' : Rendering α} (hnext : Follows parts next next') :
    Follows parts (.warn message next) (.warn message next')
  /-- Both ask for the same node. -/
  | process (node : Option Cursor) {next next' : String → Rendering α}
    (hnext : ∀ text, Follows parts (next text) (next' text)) :
    Follows parts (.process node next) (.process node next')
  /-- Both build the same tree. -/
  | plant (tree : Node) {next next' : Cursor → Rendering α}
    (hnext : ∀ root, Follows parts (next root) (next' root)) :
    Follows parts (.plant tree next) (.plant tree next')

theorem Rendering.Follows.refl {α : Type} (parts : Fault → Prop) (program : Rendering α) :
    program.Follows parts program := by
  induction program with
  | done value => exact .done value
  | raise fault => exact .raise fault
  | report diagnostic next ih => exact .report diagnostic ih
  | warn message next ih => exact .warn message ih
  | process node next ih => exact .process node ih
  | plant tree next ih => exact .plant tree ih

/-- Two conversions with the same document and the same facts about it, warnings included. -/
structure Conversion.SameDocument (result result' : Conversion) : Prop where
  markdown : result'.markdown = result.markdown
  platform : result'.platform = result.platform
  visits : result'.visits = result.visits
  elapsed : result'.elapsed = result.elapsed
  warnings : result'.warnings = result.warnings
  abortReason : result'.abortReason = result.abortReason

/-- What a conversion reports of its end, if that is asked for. -/
def Conversion.completion (setting : Setting) (result : Conversion) : List Diagnostic :=
  if setting.options.logPerformance then
    [.event (.parseComplete result.platform result.visits result.elapsed result.warnings.length
      result.issues.length result.isAborted)]
  else []

/-- What a conversion has on record is what its session had gathered, and the report of its end. -/
structure Conversion.Records (setting : Setting) (f : Findings) (result : Conversion) : Prop where
  warnings : result.warnings = f.warnings
  issues : result.issues = f.issues
  told : result.told = f.told
  trace : result.trace = f.trace ++ result.completion setting

theorem records_conclude (setting : Setting) (markdown : String) (reason : Option String)
    (s : Session) : (conclude setting markdown reason s).Records setting s.findings := by
  refine ⟨rfl, rfl, rfl, ?_⟩
  unfold Conversion.completion
  cases hlog : setting.options.logPerformance with
  | true => simp [conclude, hlog, Session.findings, Conversion.isAborted]
  | false => simp [conclude, hlog, Session.findings]

/-- A visit depends on the counts only. -/
theorem visit_together_of_sameCounts {parts : Fault → Prop} (setting : Setting) (depth : Nat)
    {s s' : Session} (h : s.SameCounts s') :
    Together parts Session.SameCounts (visit setting depth s) (visit setting depth s') := by
  have helapsed : Session.elapsed setting { s' with visits := s.visits + 1 } =
      Session.elapsed setting { s with visits := s.visits + 1 } := by
    simp only [Session.elapsed, h.readings]
  simp only [visit, h.visits, helapsed]
  split
  · exact .along h
  split
  · exact .along ⟨rfl, h.readings⟩
  split
  · exact .along ⟨rfl, congrArg (· + 1) h.readings⟩
  · exact .along ⟨rfl, congrArg (· + 1) h.readings⟩

/-- Two settings, and how their conversions compare. -/
structure Pairing where
  /-- The setting of the first conversion. -/
  first : Setting
  /-- The setting of the second conversion. -/
  second : Setting
  /-- The rule of the second setting that takes the place of one of the first. -/
  counterpart : Rule → Rule
  /-- The faults of the first conversion after which the two may part. -/
  parts : Fault → Prop
  /-- How the findings of the two compare. -/
  gathered : Findings → Findings → Prop

namespace Pairing

/-- What a rule of the first setting does at a node, given its children's text. -/
def program (p : Pairing) (rule : Rule) (c : Cursor) (depth : Nat) (content : String) :
    Rendering String :=
  rule.replacement ⟨c, depth, p.first.adapter, p.first.options⟩ content

/-- What the counterpart of a rule does there. -/
def counterProgram (p : Pairing) (rule : Rule) (c : Cursor) (depth : Nat) (content : String) :
    Rendering String :=
  (p.counterpart rule).replacement ⟨c, depth, p.second.adapter, p.second.options⟩ content

/-- A rule that fails at once, where its counterpart hands back the children's text. What the first
conversion records of it makes no difference to how the findings compare. -/
def Excused (p : Pairing) (rule : Rule) (c : Cursor) (depth : Nat) (content : String) : Prop :=
  ∃ fault, p.program rule c depth content = .raise fault ∧ fault.isAbort = false ∧
    p.counterProgram rule c depth content = .done content ∧
    ∀ f f', p.gathered f f' → p.gathered
      (f ++ (Note.recovered fault (some c) rule.name fault.kind.recovery).findings p.first) f'

/-- The laws of a pair: they are about single steps only. -/
structure Lawful (p : Pairing) : Prop where
  adapter : p.second.adapter = p.first.adapter
  clock : p.second.clock = p.first.clock
  rules : p.second.rules.rules = p.first.rules.rules.map p.counterpart
  filter : ∀ rule, (p.counterpart rule).filter = rule.filter
  name : ∀ rule, (p.counterpart rule).name = rule.name
  givesUp : ∀ fault, p.parts fault → fault.isAbort = true
  visit : ∀ depth {s s' : Session}, s.SameCounts s' →
    Together p.parts Session.SameCounts (visit p.first depth s) (visit p.second depth s')
  empty : p.gathered {} {}
  warnings : ∀ f f', p.gathered f f' → f'.warnings = f.warnings
  note : ∀ (note : Note) f f', p.gathered f f' →
    p.gathered (f ++ note.findings p.first) (f' ++ note.findings p.second)
  program : ∀ rule ∈ p.first.rules.rules, ∀ c depth content,
    (p.program rule c depth content).Follows p.parts (p.counterProgram rule c depth content) ∨
      p.Excused rule c depth content

/-- Sessions that go along. -/
structure Alike (p : Pairing) (s s' : Session) : Prop where
  sound : s.Sound
  sound' : s'.Sound
  /-- A rule that is remembered is one of the table. -/
  known : ∀ key rule, s.ruleAt? key = some (some rule) → rule ∈ p.first.rules.rules
  texts : ∀ key, s'.textAt? key = s.textAt? key
  rules : ∀ key, s'.ruleAt? key = (s.ruleAt? key).map (Option.map p.counterpart)
  counts : s.SameCounts s'
  trees : s'.trees = s.trees
  findings : p.gathered s.findings s'.findings

variable {p : Pairing}

/-! ## Steps -/

namespace Alike

variable {s s' t t' : Session}

theorem number (h : p.Alike s s') (key : NodeKey) : p.Alike (s.number key) (s'.number key) where
  sound := Session.sound_number h.sound key
  sound' := Session.sound_number h.sound' key
  known other rule hrule := h.known other rule (by rwa [Session.ruleAt?_number h.sound] at hrule)
  texts other := by
    rw [Session.textAt?_number h.sound', Session.textAt?_number h.sound, h.texts]
  rules other := by
    rw [Session.ruleAt?_number h.sound', Session.ruleAt?_number h.sound, h.rules]
  counts := ⟨h.counts.visits, h.counts.readings⟩
  trees := h.trees
  findings := h.findings

theorem keepRule (h : p.Alike s s') (key : NodeKey) (rule : Option Rule)
    (hrule : ∀ r, rule = some r → r ∈ p.first.rules.rules) :
    p.Alike (s.keepRule key rule) (s'.keepRule key (rule.map p.counterpart)) where
  sound := Session.sound_keepRule h.sound key rule
  sound' := Session.sound_keepRule h.sound' key _
  known other r hr := by
    rw [Session.ruleAt?_keepRule h.sound] at hr
    split at hr
    · exact hrule r (Option.some.inj hr)
    · exact h.known other r hr
  texts other := by
    rw [Session.textAt?_keepRule h.sound', Session.textAt?_keepRule h.sound, h.texts]
  rules other := by
    rw [Session.ruleAt?_keepRule h.sound', Session.ruleAt?_keepRule h.sound, h.rules]
    split <;> rfl
  counts := ⟨h.counts.visits, h.counts.readings⟩
  trees := h.trees
  findings := h.findings

theorem remember (h : p.Alike s s') (node : Option Cursor) (text : String) :
    p.Alike (remember node text s) (remember node text s') where
  sound := Session.sound_remember h.sound node text
  sound' := Session.sound_remember h.sound' node text
  known other rule hrule :=
    h.known other rule (by rwa [Session.ruleAt?_remember h.sound] at hrule)
  texts other := by
    rw [Session.textAt?_remember h.sound', Session.textAt?_remember h.sound, h.texts]
  rules other := by
    rw [Session.ruleAt?_remember h.sound', Session.ruleAt?_remember h.sound, h.rules]
  counts := ⟨h.counts.visits, h.counts.readings⟩
  trees := h.trees
  findings := h.findings

theorem plant (h : p.Alike s s') :
    p.Alike { s with trees := s.trees + 1 } { s' with trees := s'.trees + 1 } where
  sound := ⟨h.sound.arena, h.sound.resolutions, h.sound.texts⟩
  sound' := ⟨h.sound'.arena, h.sound'.resolutions, h.sound'.texts⟩
  known := h.known
  texts := h.texts
  rules := h.rules
  counts := ⟨h.counts.visits, h.counts.readings⟩
  trees := congrArg (· + 1) h.trees
  findings := h.findings

/-- Steps that only add findings go along if the findings do. -/
theorem noted (h : p.Alike s s') (hs : s.SameMemory t) (hs' : s'.SameMemory t')
    (htrees : t.trees = s.trees) (htrees' : t'.trees = s'.trees)
    (hfindings : p.gathered t.findings t'.findings) : p.Alike t t' where
  sound := hs.sound h.sound
  sound' := hs'.sound h.sound'
  known key rule hrule := h.known key rule (by rwa [hs.ruleAt?] at hrule)
  texts key := by rw [hs'.textAt?, hs.textAt?, h.texts]
  rules key := by rw [hs'.ruleAt?, hs.ruleAt?, h.rules]
  counts := ⟨by rw [hs'.visits, hs.visits, h.counts.visits],
    by rw [hs'.readings, hs.readings, h.counts.readings]⟩
  trees := by rw [htrees', htrees, h.trees]
  findings := hfindings

theorem report (h : p.Alike s s') (hp : p.Lawful) (diagnostic : Diagnostic) :
    p.Alike (s.report diagnostic) (s'.report diagnostic) := by
  refine h.noted ⟨rfl, rfl, rfl, rfl, rfl⟩ ⟨rfl, rfl, rfl, rfl, rfl⟩ rfl rfl ?_
  rw [Session.findings_report p.first, Session.findings_report p.second]
  exact hp.note _ _ _ h.findings

theorem warn (h : p.Alike s s') (hp : p.Lawful) (message : String) :
    p.Alike (s.warn message) (s'.warn message) := by
  refine h.noted ⟨rfl, rfl, rfl, rfl, rfl⟩ ⟨rfl, rfl, rfl, rfl, rfl⟩ rfl rfl ?_
  rw [Session.findings_warn p.first, Session.findings_warn p.second]
  exact hp.note _ _ _ h.findings

theorem trees_recover (setting : Setting) (fault : Fault) (node : Option Cursor)
    (handler : String) (recovery : Recovery) (s : Session) :
    (Transcript.recover setting fault node handler recovery s).trees = s.trees := by
  unfold Transcript.recover tell
  split
  · rfl
  · dsimp only
    split <;> rfl

theorem recover (h : p.Alike s s') (hp : p.Lawful) (fault : Fault) (node : Option Cursor)
    (handler : String) (recovery : Recovery) :
    p.Alike (recover p.first fault node handler recovery s)
      (recover p.second fault node handler recovery s') := by
  refine h.noted (sameMemory_recover ..) (sameMemory_recover ..) (trees_recover ..)
    (trees_recover ..) ?_
  rw [findings_recover, findings_recover]
  exact hp.note _ _ _ h.findings

end Alike

/-- Steps that only change the counts go along if the counts do. -/
theorem Alike.counted {s s' t t' : Session} (h : p.Alike s s')
    (ht : t = { s with visits := t.visits, readings := t.readings })
    (ht' : t' = { s' with visits := t'.visits, readings := t'.readings })
    (hcounts : t.SameCounts t') : p.Alike t t' := by
  rw [ht, ht']
  exact ⟨⟨h.sound.arena, h.sound.resolutions, h.sound.texts⟩,
    ⟨h.sound'.arena, h.sound'.resolutions, h.sound'.texts⟩, h.known, h.texts, h.rules,
    ⟨hcounts.visits, hcounts.readings⟩, h.trees, h.findings⟩

namespace Lawful

variable {s s' : Session}

theorem visit_together (hp : p.Lawful) (depth : Nat) (h : p.Alike s s') :
    Together p.parts p.Alike (Transcript.visit p.first depth s)
      (Transcript.visit p.second depth s') := by
  have hcounts := hp.visit depth h.counts
  have ht := visit_frame p.first depth s
  have ht' := visit_frame p.second depth s'
  generalize Transcript.visit p.first depth s = result at hcounts ht ⊢
  generalize Transcript.visit p.second depth s' = result' at hcounts ht' ⊢
  cases hcounts with
  | parted hparts => exact .parted hparts
  | along hsame => exact .along (h.counted ht ht' hsame)

/-- The search for a rule looks at filters only. -/
theorem find_eq (hp : p.Lawful) (c : Cursor) :
    p.second.rules.find c = (p.first.rules.find c).map (Option.map p.counterpart) := by
  unfold RuleTable.find
  rw [hp.rules]
  induction p.first.rules.rules with
  | nil => rfl
  | cons rule rest ih =>
    simp only [List.map_cons, RuleTable.findIn, hp.filter]
    cases rule.filter.accepts c with
    | error fault => rfl
    | ok accepted =>
      cases accepted with
      | true => rfl
      | false => exact ih

/-- The second conversion finds the counterpart of what the first one finds, and that is a rule of
the table. -/
theorem resolve_alike (hp : p.Lawful) (c : Cursor) (h : p.Alike s s') :
    ∃ t', resolve p.second c s' =
        ((resolve p.first c s).1.map (Option.map p.counterpart), t') ∧
      p.Alike (resolve p.first c s).2 t' ∧
      ∀ rule, (resolve p.first c s).1 = .ok (some rule) → rule ∈ p.first.rules.rules := by
  have hnumber := h.number (some c.place)
  rw [resolve_eq h.sound, resolve_eq h.sound', h.rules, hp.find_eq]
  cases hknown : s.ruleAt? (some c.place) with
  | some rule =>
    refine ⟨_, rfl, hnumber, fun r hr => ?_⟩
    exact h.known (some c.place) r (hknown.trans (congrArg some (Except.ok.inj hr)))
  | none =>
    cases hfind : p.first.rules.find c with
    | error fault => exact ⟨_, rfl, hnumber, fun r hr => by cases hr⟩
    | ok rule =>
      have hmem : ∀ r, rule = some r → r ∈ p.first.rules.rules := by
        rintro r rfl
        exact (RuleTable.accepts_of_findIn hfind).1
      exact ⟨_, rfl, hnumber.keepRule (some c.place) rule hmem,
        fun r hr => hmem r (Except.ok.inj hr)⟩

/-! ## Boundaries -/

/-- Boundaries keep results together: what parts the runs crosses them, and anything else is
recorded on both sides. -/
theorem guarded_together (hp : p.Lawful) (node : Option Cursor) (handler : String)
    (fallback : Unit → String) {action action' : Action String}
    (h : Together p.parts p.Alike (action s) (action' s')) :
    Together p.parts p.Alike (guarded p.first node handler fallback action s)
      (guarded p.second node handler fallback action' s') := by
  unfold guarded
  generalize action s = result at h ⊢
  generalize action' s' = result' at h ⊢
  cases h with
  | @parted fault t _ hparts =>
    simp only [hp.givesUp fault hparts, if_true]
    exact .parted hparts
  | @along outcome t t' halike =>
    cases outcome with
    | ok text => exact .along halike
    | error fault =>
      cases habort : fault.isAbort with
      | true =>
        simp only [habort, if_true]
        exact .along halike
      | false =>
        simp only [habort]
        exact .along (halike.recover hp fault node handler fault.kind.recovery)

/-! ## The traversal -/

section Descend

variable {descend descend' : Converter}

theorem run_together (hp : p.Lawful)
    (hdescend : ∀ node s s', p.Alike s s' →
      Together p.parts p.Alike (descend node s) (descend' node s'))
    {α : Type} {program program' : Rendering α} (hprogram : program.Follows p.parts program')
    (h : p.Alike s s') :
    Together p.parts p.Alike (program.run descend s) (program'.run descend' s') := by
  induction hprogram generalizing s s' with
  | done value => exact .along h
  | raise fault => exact .along h
  | parted hparts => exact .parted hparts
  | report diagnostic _ ih => exact ih (h.report hp diagnostic)
  | warn message _ ih => exact ih (h.warn hp message)
  -- Both programs get the same text for the node, and go on alike.
  | process node _ ih =>
    have hnode := hdescend node s s' h
    simp only [Rendering.run]
    generalize descend node s = result at hnode ⊢
    generalize descend' node s' = result' at hnode ⊢
    cases hnode with
    | parted hparts => exact .parted hparts
    | @along outcome t t' halike =>
      cases outcome with
      | ok text => exact ih text halike
      | error fault => exact .along halike
  -- The fresh trees get the same number.
  | plant tree _ ih =>
    simp only [Rendering.run, h.trees]
    have hplant := h.plant
    rw [h.trees] at hplant
    exact ih _ hplant

theorem convertAll_together
    (hdescend : ∀ node s s', p.Alike s s' →
      Together p.parts p.Alike (descend node s) (descend' node s'))
    (cs : List Cursor) (h : p.Alike s s') :
    Together p.parts p.Alike (convertAll descend cs s) (convertAll descend' cs s') := by
  induction cs generalizing s s' with
  | nil => exact .along h
  | cons c rest ih =>
    have hfirst := hdescend (some c) s s' h
    simp only [convertAll]
    generalize descend (some c) s = result at hfirst ⊢
    generalize descend' (some c) s' = result' at hfirst ⊢
    cases hfirst with
    | parted hparts => exact .parted hparts
    | @along outcome t t' halike =>
      cases outcome with
      | error fault => exact .along halike
      | ok first =>
        have hrest := ih halike
        dsimp only
        generalize convertAll descend rest t = result at hrest ⊢
        generalize convertAll descend' rest t' = result' at hrest ⊢
        cases hrest with
        | parted hparts => exact .parted hparts
        | @along outcome u u' hlast => cases outcome <;> exact .along hlast

/-- A rule and its counterpart behind the inner boundary. -/
theorem rule_together (hp : p.Lawful)
    (hdescend : ∀ node s s', p.Alike s s' →
      Together p.parts p.Alike (descend node s) (descend' node s'))
    {rule : Rule} (hrule : rule ∈ p.first.rules.rules) (c : Cursor) (depth : Nat)
    (content : String) (h : p.Alike s s') :
    Together p.parts p.Alike
      (guarded p.first (some c) rule.name (fun _ => content)
        ((p.program rule c depth content).run descend) s)
      (guarded p.second (some c) (p.counterpart rule).name (fun _ => content)
        ((p.counterProgram rule c depth content).run descend') s') := by
  rw [hp.name]
  rcases hp.program rule hrule c depth content with hsame | ⟨fault, hraise, habort, hdone, hnote⟩
  · exact hp.guarded_together (some c) rule.name _ (hp.run_together hdescend hsame h)
  -- The rule fails and is recovered from, and its counterpart hands back the same text.
  · rw [hraise, hdone]
    simp only [guarded, Rendering.run, habort]
    refine .along ?_
    refine h.noted (sameMemory_recover ..) (.refl s') (Alike.trees_recover ..) rfl ?_
    rw [findings_recover]
    exact hnote _ _ h.findings

theorem convertElement_together (hp : p.Lawful)
    (hdescend : ∀ node s s', p.Alike s s' →
      Together p.parts p.Alike (descend node s) (descend' node s'))
    (depth : Nat) (c : Cursor) (h : p.Alike s s') :
    Together p.parts p.Alike (convertElement p.first descend depth c s)
      (convertElement p.second descend' depth c s') := by
  obtain ⟨t', hfound', halike, hmem⟩ := hp.resolve_alike c h
  unfold convertElement
  rw [hfound']
  cases hfound : resolve p.first c s with
  | mk outcome t =>
    rw [hfound] at halike hmem
    cases outcome with
    | error fault => exact .along halike
    | ok rule =>
      have hchildren := convertAll_together hdescend c.children halike
      simp only [Except.map]
      generalize convertAll descend c.children t = result at hchildren ⊢
      generalize convertAll descend' c.children t' = result' at hchildren ⊢
      cases hchildren with
      | parted hparts => exact .parted hparts
      | @along outcome u u' hlast =>
        cases outcome with
        | error fault => exact .along hlast
        | ok content =>
          cases rule with
          | none => exact .along hlast
          | some rule => exact hp.rule_together hdescend (hmem rule rfl) c depth content hlast

theorem convertNode_together (hp : p.Lawful)
    (hdescend : ∀ node s s', p.Alike s s' →
      Together p.parts p.Alike (descend node s) (descend' node s'))
    (depth : Nat) (node : Option Cursor) (h : p.Alike s s') :
    Together p.parts p.Alike (convertNode p.first descend depth node s)
      (convertNode p.second descend' depth node s') := by
  cases node with
  | none => exact .along h
  | some c =>
    cases hc : c.node.isElement with
    | false =>
      rw [convertNode_of_leaf hc, convertNode_of_leaf hc]
      exact .along h
    | true =>
      rw [convertNode_of_isElement hc, convertNode_of_isElement hc]
      exact hp.convertElement_together hdescend depth c h

end Descend

/-- A node that is asked for goes along if the nodes one level deeper do. They matter only where the
first setting lets the node pass. -/
theorem processAt_together_of_deeper (hp : p.Lawful) {depth : Nat}
    (hdescend : depth ≤ p.first.options.maxDepth → ∀ node s s', p.Alike s s' →
      Together p.parts p.Alike (processAt p.first (depth + 1) node s)
        (processAt p.second (depth + 1) node s'))
    (node : Option Cursor) (h : p.Alike s s') :
    Together p.parts p.Alike (processAt p.first depth node s)
      (processAt p.second depth node s') := by
  have hnumber := h.number (nodeKey node)
  rw [processAt_eq, processAt_eq, remembered?_eq h.sound, remembered?_eq h.sound', h.texts]
  cases s.textAt? (nodeKey node) with
  | some text => exact .along hnumber
  | none =>
    have hvisits := hp.visit_together depth hnumber
    have hbounds := visit_bounds p.first depth (s.number (nodeKey node))
    simp only [convertFresh]
    generalize Transcript.visit p.first depth _ = result at hvisits hbounds ⊢
    generalize Transcript.visit p.second depth _ = result' at hvisits ⊢
    -- Where the first visit passes, its depth leaves the next level open.
    cases hvisits with
    | parted hparts => exact .parted hparts
    | @along outcome t t' halike =>
      cases outcome with
      | error fault => exact .along halike
      | ok done =>
        have hguarded := hp.guarded_together node "node" (fun _ => textOf node)
          (hp.convertNode_together (hdescend hbounds.1) depth node halike)
        dsimp only
        generalize guarded p.first node "node" _ _ t = result at hguarded ⊢
        generalize guarded p.second node "node" _ _ t' = result' at hguarded ⊢
        cases hguarded with
        | parted hparts => exact .parted hparts
        | @along outcome u u' hlast =>
          cases outcome with
          | error fault => exact .along hlast
          | ok text => exact .along (hlast.remember node text)

/-- The conversions of a node go along. -/
theorem processAt_together (hp : p.Lawful) (depth : Nat) (node : Option Cursor)
    (h : p.Alike s s') :
    Together p.parts p.Alike (processAt p.first depth node s)
      (processAt p.second depth node s') := by
  -- Induction on the levels that the first setting leaves open; the second may leave more.
  induction hroom : roomAt p.first.options depth generalizing depth node s s' with
  | zero =>
    refine hp.processAt_together_of_deeper (fun hdepth => ?_) node h
    unfold roomAt at hroom
    omega
  | succ room ih =>
    refine hp.processAt_together_of_deeper (fun _ other t t' halike => ?_) node h
    refine ih (depth + 1) other halike ?_
    unfold roomAt at hroom ⊢
    omega

/-! ## Whole documents -/

theorem start_alike (hp : p.Lawful) (root : Option Cursor) :
    p.Alike (Session.start p.first root) (Session.start p.second root) := by
  have htexts : ∀ setting key, (Session.start setting root).textAt? key = none :=
    fun _ _ => Memo.read_empty _ _
  have hrules : ∀ setting key, (Session.start setting root).ruleAt? key = none :=
    fun _ _ => Memo.read_empty _ _
  refine ⟨Session.sound_start p.first root, Session.sound_start p.second root, ?_, ?_, ?_,
    ⟨rfl, rfl⟩, rfl, hp.empty⟩
  · intro key rule hrule
    rw [hrules] at hrule
    cases hrule
  · intro key
    rw [htexts, htexts]
  · intro key
    rw [hrules, hrules]
    rfl

/-- The traversals of a document go along, and so do the cleanings of its text. -/
theorem traverse_together (hp : p.Lawful) (root : Option Cursor) :
    Together p.parts p.Alike (traverse p.first root (Session.start p.first root))
      (traverse p.second root (Session.start p.second root)) := by
  have hprocess := hp.processAt_together 0 root (hp.start_alike root)
  unfold traverse
  generalize processAt p.first 0 root (Session.start p.first root) = result at hprocess ⊢
  generalize processAt p.second 0 root (Session.start p.second root) = result' at hprocess ⊢
  cases hprocess with
  | parted hparts => exact .parted hparts
  | @along outcome s s' halike =>
    cases outcome with
    | error fault => exact .along halike
    | ok text =>
      rw [hp.adapter]
      exact .along halike

/-- Conversions that are given up for the same fault leave the same document behind. -/
theorem giveUp_alike (hp : p.Lawful) (root : Option Cursor) (fault : Fault) (h : p.Alike s s') :
    (giveUp p.second root fault s').1 = (giveUp p.first root fault s).1 ∧
      (giveUp p.second root fault s').2.1 = (giveUp p.first root fault s).2.1 ∧
      p.Alike (giveUp p.first root fault s).2.2 (giveUp p.second root fault s').2.2 := by
  unfold giveUp
  cases hkind : fault.kind.isNodeFault with
  | true =>
    have hvisits : ∀ d, (s'.report d).visits = (s.report d).visits := fun _ => h.counts.visits
    simp only [if_true, hp.adapter, hvisits, true_and]
    exact (h.report hp _).report hp _
  | false => exact ⟨rfl, rfl, h.recover hp fault root "parser" .abort⟩

theorem conclude_alike (hp : p.Lawful) (markdown : String) (reason : Option String)
    (h : p.Alike s s') :
    (conclude p.first markdown reason s).SameDocument (conclude p.second markdown reason s') where
  markdown := rfl
  platform := congrArg Adapter.name hp.adapter
  visits := h.counts.visits
  elapsed := by
    change s'.elapsed p.second = s.elapsed p.first
    unfold Session.elapsed
    rw [hp.clock, h.counts.readings]
  warnings := hp.warnings _ _ h.findings
  abortReason := rfl

/-- Whole conversions come to the same document, and their records compare as findings do, unless
the first one is given up for a fault after which the two part. -/
theorem convert_together (hp : p.Lawful) (root : Option Cursor) :
    (∃ fault s, p.parts fault ∧
      traverse p.first root (Session.start p.first root) = (.error fault, s)) ∨
    ((convert p.first root).SameDocument (convert p.second root) ∧
      ∃ f f', p.gathered f f' ∧ (convert p.first root).Records p.first f ∧
        (convert p.second root).Records p.second f') := by
  have htogether := hp.traverse_together root
  cases hfirst : traverse p.first root (Session.start p.first root) with
  | mk outcome s =>
    cases hsecond : traverse p.second root (Session.start p.second root) with
    | mk outcome' s' =>
      rw [hfirst, hsecond] at htogether
      cases htogether with
      | parted hparts => exact .inl ⟨_, s, hparts, rfl⟩
      | along halike =>
        refine .inr ?_
        cases outcome with
        | ok markdown =>
          rw [convert_of_ok hfirst, convert_of_ok hsecond]
          exact ⟨hp.conclude_alike markdown none halike, s.findings, s'.findings,
            halike.findings, records_conclude .., records_conclude ..⟩
        | error fault =>
          obtain ⟨hmarkdown, hreason, hgivenUp⟩ := hp.giveUp_alike root fault halike
          rw [convert_of_error hfirst, convert_of_error hsecond, hmarkdown, hreason]
          exact ⟨hp.conclude_alike _ _ hgivenUp, _, _, hgivenUp.findings, records_conclude ..,
            records_conclude ..⟩

end Lawful

end Pairing

end Transcript
