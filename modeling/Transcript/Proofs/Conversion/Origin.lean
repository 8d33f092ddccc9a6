import Transcript.Proofs.Conversion.Parallel
import Transcript.Proofs.Text.Beginning

/-!
# Where findings come from

Everything that a conversion has on record comes from notes, and every note has an origin: a rule of
the table said it, a fault was recovered from, or the conversion was given up. Nothing else reports
or warns, so the recoveries are on record once each, in order, and between them stands only what
rules say.

## Main definitions

- `Rendering.Says`: what a program says on some run
- `Note.HasOrigin`: where a note may come from
- `Session.Accounted`: a session whose findings come from notes with an origin
- `Note.text?`: the warning that a note leaves in the trace

## Main results

- `upheld_accounted`: neither the traversal nor the rules leave findings without an origin
- `exists_notes_of_convert`: what a conversion has on record comes from notes with an origin
- `recoveries_of_discreet`: the warnings of recoveries are those of the issues
-/

namespace Transcript

open Markup

/-! ## What programs say -/

/-- A program that leaves a note on some run, by reporting or warning. -/
inductive Rendering.Says {α : Type} : Note → Rendering α → Prop
  /-- The report at the front is left as a note. -/
  | reported (diagnostic : Diagnostic) (next : Rendering α) :
    Says (.reported diagnostic) (.report diagnostic next)
  /-- The warning at the front is left as a note. -/
  | warned (message : String) (next : Rendering α) : Says (.warned message) (.warn message next)
  /-- What is said after a report. -/
  | report (diagnostic : Diagnostic) {note : Note} {next : Rendering α} (h : Says note next) :
    Says note (.report diagnostic next)
  /-- What is said after a warning. -/
  | warn (message : String) {note : Note} {next : Rendering α} (h : Says note next) :
    Says note (.warn message next)
  /-- What is said with the text of a node. -/
  | process (node : Option Cursor) (text : String) {note : Note} {next : String → Rendering α}
    (h : Says note (next text)) : Says note (.process node next)
  /-- What is said with a fresh tree. -/
  | plant (tree : Node) (root : Cursor) {note : Note} {next : Cursor → Rendering α}
    (h : Says note (next root)) : Says note (.plant tree next)

/-- What a program says is no issue. -/
theorem Rendering.Says.issue?_eq_none {α : Type} {note : Note} {program : Rendering α}
    (h : program.Says note) : note.issue? = none := by
  induction h with
  | reported diagnostic next => rfl
  | warned message next => rfl
  | report _ _ ih => exact ih
  | warn _ _ ih => exact ih
  | process _ _ _ ih => exact ih
  | plant _ _ _ ih => exact ih

/-- A note that a rule says at some node, given some text of the children. -/
def Rule.MaySay (setting : Setting) (rule : Rule) (note : Note) : Prop :=
  ∃ c depth content,
    (rule.replacement ⟨c, depth, setting.adapter, setting.options⟩ content).Says note

/-- A note that comes from a rule, from a recovery or from giving up the conversion. -/
inductive Note.HasOrigin (setting : Setting) : Note → Prop
  /-- A rule of the table said it. -/
  | said {rule : Rule} (hrule : rule ∈ setting.rules.rules) {note : Note}
    (h : rule.MaySay setting note) : HasOrigin setting note
  /-- A fault was recovered from. -/
  | recovered (fault : Fault) (node : Option Cursor) (handler : String) (recovery : Recovery) :
    HasOrigin setting (.recovered fault node handler recovery)
  /-- The conversion was given up. -/
  | abandoned (reason : String) :
    HasOrigin setting (.reported (.warning ("Conversion aborted: " ++ reason) none))
  /-- The end of a conversion that was given up is an event. -/
  | ended (reason platform : String) (visits : Nat) (context : List (String × Datum)) :
    HasOrigin setting (.reported (.event (.parseAborted reason platform visits context)))

/-! ## Sessions whose findings have an origin -/

/-- The findings of the session come from notes with an origin, and the rules that it remembers are
those of the table. -/
structure Session.Accounted (setting : Setting) (s : Session) : Prop where
  sound : s.Sound
  known : ∀ key rule, s.ruleAt? key = some (some rule) → rule ∈ setting.rules.rules
  notes : ∃ notes, (∀ note ∈ notes, note.HasOrigin setting) ∧
    s.findings = Findings.ofNotes setting notes

namespace Session.Accounted

variable {setting : Setting} {s t : Session}

theorem start (setting : Setting) (root : Option Cursor) :
    (Session.start setting root).Accounted setting where
  sound := sound_start setting root
  known key rule h := by
    have hnone : (Session.start setting root).ruleAt? key = none := Memo.read_empty _ _
    rw [hnone] at h
    cases h
  notes := ⟨[], by simp, rfl⟩

/-- A step that keeps the memory and leaves a note with an origin. -/
theorem noted (h : s.Accounted setting) (hsame : s.SameMemory t) {note : Note}
    (hnote : note.HasOrigin setting) (hfindings : t.findings = s.findings ++ note.findings setting) :
    t.Accounted setting where
  sound := hsame.sound h.sound
  known key rule hrule := h.known key rule (by rwa [hsame.ruleAt?] at hrule)
  notes := by
    obtain ⟨notes, horigin, hnotes⟩ := h.notes
    refine ⟨notes ++ [note], fun other hother => ?_, by simp [hfindings, hnotes]⟩
    rcases List.mem_append.mp hother with hold | hnew
    · exact horigin other hold
    · exact List.mem_singleton.mp hnew ▸ hnote

theorem report (h : s.Accounted setting) {diagnostic : Diagnostic}
    (hnote : (Note.reported diagnostic).HasOrigin setting) :
    (s.report diagnostic).Accounted setting :=
  h.noted ⟨rfl, rfl, rfl, rfl, rfl⟩ hnote (findings_report setting s diagnostic)

theorem warn (h : s.Accounted setting) {message : String}
    (hnote : (Note.warned message).HasOrigin setting) : (s.warn message).Accounted setting :=
  h.noted ⟨rfl, rfl, rfl, rfl, rfl⟩ hnote (findings_warn setting s message)

theorem recover (h : s.Accounted setting) (fault : Fault) (node : Option Cursor) (handler : String)
    (recovery : Recovery) :
    (Transcript.recover setting fault node handler recovery s).Accounted setting :=
  h.noted (sameMemory_recover ..) (.recovered fault node handler recovery) (findings_recover ..)

theorem number (h : s.Accounted setting) (key : NodeKey) : (s.number key).Accounted setting where
  sound := sound_number h.sound key
  known other rule hrule := h.known other rule (by rwa [ruleAt?_number h.sound] at hrule)
  notes := h.notes

theorem keepRule (h : s.Accounted setting) (key : NodeKey) {rule : Option Rule}
    (hrule : ∀ r, rule = some r → r ∈ setting.rules.rules) :
    (s.keepRule key rule).Accounted setting where
  sound := sound_keepRule h.sound key rule
  known other r hr := by
    rw [ruleAt?_keepRule h.sound] at hr
    split at hr
    · exact hrule r (Option.some.inj hr)
    · exact h.known other r hr
  notes := h.notes

/-- The rule of a node is found in the table. -/
theorem resolve (h : s.Accounted setting) (c : Cursor) :
    (Transcript.resolve setting c s).2.Accounted setting ∧
      ∀ rule, (Transcript.resolve setting c s).1 = .ok (some rule) →
        rule ∈ setting.rules.rules := by
  have hnumber := h.number (some c.place)
  rw [resolve_eq h.sound]
  cases hknown : s.ruleAt? (some c.place) with
  | some rule =>
    refine ⟨hnumber, fun r hr => h.known (some c.place) r ?_⟩
    rw [hknown, Except.ok.inj hr]
  | none =>
    cases hfind : setting.rules.find c with
    | error fault => exact ⟨hnumber, fun r hr => by cases hr⟩
    | ok rule =>
      have hmem : ∀ r, rule = some r → r ∈ setting.rules.rules := by
        rintro r rfl
        exact (RuleTable.accepts_of_findIn hfind).1
      exact ⟨hnumber.keepRule (some c.place) hmem, fun r hr => hmem r (Except.ok.inj hr)⟩

/-- A program says nothing without an origin if all that it may say has one. -/
theorem run {α : Type} {descend : Converter}
    (hdescend : ∀ node s, s.Accounted setting → (descend node s).2.Accounted setting)
    {program : Rendering α} (hprogram : ∀ note, program.Says note → note.HasOrigin setting)
    (h : s.Accounted setting) : (program.run descend s).2.Accounted setting := by
  -- Each instruction leaves its note, and what the rest may say the whole program may say.
  induction program generalizing s with
  | done value => exact h
  | raise fault => exact h
  | report diagnostic next ih =>
    have hnote := hprogram _ (.reported diagnostic next)
    exact ih (fun note hsays => hprogram note (.report diagnostic hsays)) (h.report hnote)
  | warn message next ih =>
    have hnote := hprogram _ (.warned message next)
    exact ih (fun note hsays => hprogram note (.warn message hsays)) (h.warn hnote)
  | process node next ih =>
    have hnode := hdescend node s h
    simp only [Rendering.run]
    cases hresult : descend node s with
    | mk outcome t =>
      rw [hresult] at hnode
      cases outcome with
      | ok text => exact ih text (fun note hsays => hprogram note (.process node text hsays)) hnode
      | error fault => exact hnode
  | plant tree next ih =>
    have hplanted : { s with trees := s.trees + 1 }.Accounted setting :=
      ⟨⟨h.sound.arena, h.sound.resolutions, h.sound.texts⟩, h.known, h.notes⟩
    exact ih _ (fun note hsays => hprogram note (.plant tree _ hsays)) hplanted

end Session.Accounted

/-- Neither the traversal nor the rules leave findings without an origin. -/
theorem upheld_accounted (setting : Setting) :
    Session.Upheld setting (Session.Accounted setting) where
  visit depth {s} h := by
    rw [visit_frame]
    exact ⟨⟨h.sound.arena, h.sound.resolutions, h.sound.texts⟩, h.known, h.notes⟩
  ask node {s} h := by
    rw [remembered?_eq h.sound]
    exact h.number _
  resolve c _ h := (h.resolve c).1
  remember node text {s} h := by
    refine ⟨Session.sound_remember h.sound node text, fun key rule hrule => ?_, h.notes⟩
    exact h.known key rule (by rwa [Session.ruleAt?_remember h.sound] at hrule)
  recover fault node handler recovery _ h := h.recover fault node handler recovery
  rule hdescend c rule s h hfound depth content t ht :=
    ht.run hdescend fun _ hsays => .said ((h.resolve c).2 rule hfound) ⟨c, depth, content, hsays⟩

/-! ## Whole conversions -/

/-- Giving up leaves its own notes. -/
theorem Session.Accounted.giveUp {setting : Setting} {s : Session} (h : s.Accounted setting)
    (root : Option Cursor) (fault : Fault) :
    (Transcript.giveUp setting root fault s).2.2.Accounted setting := by
  unfold Transcript.giveUp
  cases fault.kind.isNodeFault with
  | true => exact (h.report (.abandoned fault.text)).report (.ended ..)
  | false => exact h.recover ..

/-- What a conversion has on record comes from notes with an origin. -/
theorem exists_notes_of_convert (setting : Setting) (root : Option Cursor) :
    ∃ notes, (∀ note ∈ notes, note.HasOrigin setting) ∧
      (convert setting root).Records setting (Findings.ofNotes setting notes) := by
  have htraverse : (traverse setting root (Session.start setting root)).2.Accounted setting := by
    have hprocess := (upheld_accounted setting).process (roomAt setting.options 0) 0 root
      (Session.Accounted.start setting root)
    unfold traverse processAt
    generalize process setting _ 0 root (Session.start setting root) = result at hprocess ⊢
    obtain ⟨outcome, s⟩ := result
    cases outcome <;> exact hprocess
  cases hresult : traverse setting root (Session.start setting root) with
  | mk outcome s =>
    rw [hresult] at htraverse
    cases outcome with
    | ok markdown =>
      obtain ⟨notes, horigin, hnotes⟩ := htraverse.notes
      rw [convert_of_ok hresult]
      exact ⟨notes, horigin, hnotes ▸ records_conclude ..⟩
    -- The notes of giving up come on top.
    | error fault =>
      obtain ⟨notes, horigin, hnotes⟩ := (htraverse.giveUp root fault).notes
      rw [convert_of_error hresult]
      exact ⟨notes, horigin, hnotes ▸ records_conclude ..⟩

/-! ## Warnings in the trace -/

/-- The words with which the warning of a recovery starts. -/
def recoveryWords : String := "Recovered from error in "

/-- The warning of a recovery: it carries the text of the issue. -/
def Issue.recoveryText (issue : Issue) : String :=
  recoveryWords ++ issue.text

/-- The warning that a note leaves in the trace. -/
def Note.text? : Note → Option String
  | warned message => some message
  | reported (.warning message _) => some message
  | reported _ => none
  | recovered fault node handler recovery =>
    some (issueOf fault node handler recovery).recoveryText

/-- The warnings of a trace that speak of a recovery. -/
def recoveriesIn (trace : List Diagnostic) : List String :=
  (Diagnostic.warnings trace).filter (Text.startsWith recoveryWords)

theorem Diagnostic.warnings_append (trace others : List Diagnostic) :
    Diagnostic.warnings (trace ++ others) =
      Diagnostic.warnings trace ++ Diagnostic.warnings others :=
  List.filterMap_append

theorem warnings_listener (setting : Setting) (fault : Fault) (issue : Issue) :
    Diagnostic.warnings (Note.listenerFindings setting fault issue).trace = [] := by
  unfold Note.listenerFindings
  split
  · rfl
  · split <;> rfl

theorem warnings_trace_note (setting : Setting) (note : Note) :
    Diagnostic.warnings (note.findings setting).trace = note.text?.toList := by
  cases note with
  | warned message => rfl
  | reported diagnostic => cases diagnostic <;> rfl
  | recovered fault node handler recovery =>
    simp only [Note.findings, Findings.trace_append, Diagnostic.warnings_append, warnings_listener,
      List.append_nil]
    rfl

theorem warnings_trace_ofNotes (setting : Setting) (notes : List Note) :
    Diagnostic.warnings (Findings.ofNotes setting notes).trace = notes.filterMap Note.text? := by
  induction notes with
  | nil => rfl
  | cons note rest ih =>
    rw [Findings.ofNotes_cons, Findings.trace_append, Diagnostic.warnings_append, ih,
      warnings_trace_note, List.filterMap_cons]
    cases note.text? <;> rfl

/-- The report of the end is no warning. -/
theorem Conversion.Records.warnings_trace {setting : Setting} {f : Findings} {result : Conversion}
    (h : result.Records setting f) :
    Diagnostic.warnings result.trace = Diagnostic.warnings f.trace := by
  have hcompletion : Diagnostic.warnings (result.completion setting) = [] := by
    unfold Conversion.completion
    split <;> rfl
  rw [h.trace, Diagnostic.warnings_append, hcompletion, List.append_nil]

theorem startsWith_append (start rest : String) : Text.startsWith start (start ++ rest) = true := by
  simp [Text.startsWith, Chars.startsWith, Chars.dropStart?_append]

/-- A rule that never says a warning in the words of a recovery. -/
def Rule.Discreet (setting : Setting) (rule : Rule) : Prop :=
  ∀ note text, rule.MaySay setting note → note.text? = some text →
    Text.startsWith recoveryWords text = false

/-- Only a note of a recovery leaves a warning in the words of one, and it is the warning of its
issue. -/
theorem Note.HasOrigin.recovery {setting : Setting} {note : Note} (h : note.HasOrigin setting)
    (hdiscreet : ∀ rule ∈ setting.rules.rules, rule.Discreet setting) :
    note.text?.toList.filter (Text.startsWith recoveryWords) =
      note.issue?.toList.map Issue.recoveryText := by
  cases h with
  | @said rule hrule note hsays =>
    have hissue : note.issue? = none := by
      obtain ⟨c, depth, content, hprogram⟩ := hsays
      exact hprogram.issue?_eq_none
    rw [hissue]
    refine List.filter_eq_nil_iff.mpr fun text htext => ?_
    simp [hdiscreet rule hrule note text hsays (Option.mem_toList.mp htext)]
  | recovered fault node handler recovery =>
    simp [text?, issue?, Issue.recoveryText, startsWith_append]
  | abandoned reason =>
    simp [text?, issue?, recoveryWords, Text.startsWith, Chars.startsWith, Chars.dropStart?]
  | ended reason platform visits context => rfl

/-- Where rules do not imitate them, the warnings of recoveries are those of the issues, in
order. -/
theorem recoveries_of_discreet {setting : Setting} {notes : List Note}
    (hdiscreet : ∀ rule ∈ setting.rules.rules, rule.Discreet setting)
    (horigin : ∀ note ∈ notes, note.HasOrigin setting) :
    (notes.filterMap Note.text?).filter (Text.startsWith recoveryWords) =
      (notes.filterMap Note.issue?).map Issue.recoveryText := by
  rw [List.filterMap_eq_flatMap_toList, List.filterMap_eq_flatMap_toList, List.filter_flatMap,
    List.map_flatMap]
  exact List.flatMap_congr fun note hnote => (horigin note hnote).recovery hdiscreet

end Transcript
