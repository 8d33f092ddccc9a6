import Transcript.Proofs.Conversion.Memory

/-!
# Findings

What a session gathers for its reader: warnings, issues, the trace of diagnostics, and what the
listener was told. Findings only grow, at their end, and they grow by *notes*: a warning, a report,
or a fault that was recovered from.

## Main definitions

- `Findings`, `Session.findings`: what has been gathered
- `Note`, `Note.findings`: one thing to note, and what it adds
- `Session.SameMemory`: two sessions that differ in their findings only

## Main results

- `Session.findings_report`, `Session.findings_warn`, `findings_recover`: each step adds its note
-/

namespace Transcript

open Markup

/-! ## Gathering -/

/-- What a session has gathered, in order. -/
structure Findings where
  /-- Warnings given by rules. -/
  warnings : List String := []
  /-- Faults recovered from. -/
  issues : List Issue := []
  /-- Everything reported. -/
  trace : List Diagnostic := []
  /-- What the listener was told. -/
  told : List (Fault × Issue) := []

namespace Findings

/-- Findings followed by further ones. -/
def append (f g : Findings) : Findings where
  warnings := f.warnings ++ g.warnings
  issues := f.issues ++ g.issues
  trace := f.trace ++ g.trace
  told := f.told ++ g.told

instance : Append Findings := ⟨append⟩

theorem append_def (f g : Findings) :
    f ++ g = ⟨f.warnings ++ g.warnings, f.issues ++ g.issues, f.trace ++ g.trace,
      f.told ++ g.told⟩ := rfl

@[simp] theorem warnings_append (f g : Findings) :
    (f ++ g).warnings = f.warnings ++ g.warnings := rfl

@[simp] theorem issues_append (f g : Findings) : (f ++ g).issues = f.issues ++ g.issues := rfl

@[simp] theorem trace_append (f g : Findings) : (f ++ g).trace = f.trace ++ g.trace := rfl

@[simp] theorem told_append (f g : Findings) : (f ++ g).told = f.told ++ g.told := rfl

@[simp] theorem append_empty (f : Findings) : f ++ {} = f := by
  simp [append_def]

@[simp] theorem empty_append (f : Findings) : ({} : Findings) ++ f = f := by
  simp [append_def]

theorem append_assoc (f g h : Findings) : f ++ g ++ h = f ++ (g ++ h) := by
  simp [append_def]

end Findings

/-- The findings of a session. -/
def Session.findings (s : Session) : Findings where
  warnings := s.warnings.toList
  issues := s.issues.toList
  trace := s.trace.toList
  told := s.told.toList

/-! ## Notes -/

/-- One thing to note. -/
inductive Note where
  /-- A rule warned. -/
  | warned (message : String)
  /-- Something was reported. -/
  | reported (diagnostic : Diagnostic)
  /-- A fault was recovered from. -/
  | recovered (fault : Fault) (node : Option Cursor) (handler : String) (recovery : Recovery)

namespace Note

/-- What the listener, if there is one, adds when it is told of an issue. -/
def listenerFindings (setting : Setting) (fault : Fault) (issue : Issue) : Findings :=
  match setting.options.listener with
  | none => {}
  | some listener =>
    match listener fault issue with
    | .ok () => { told := [(fault, issue)] }
    | .error failure =>
      { told := [(fault, issue)]
        trace := [.error "Error callback raised an exception" (some ⟨failure, []⟩)] }

/-- What a note adds to the findings. -/
def findings (setting : Setting) : Note → Findings
  | warned message => { warnings := [message], trace := [.warning message none] }
  | reported diagnostic => { trace := [diagnostic] }
  | recovered fault node handler recovery =>
    let issue := issueOf fault node handler recovery
    { issues := [issue]
      trace := [.warning ("Recovered from error in " ++ issue.text) (some ⟨fault, []⟩)] } ++
        listenerFindings setting fault issue

/-- The warning of a note, if it is one. -/
def warning? : Note → Option String
  | warned message => some message
  | _ => none

/-- The issue of a note, if it is one. -/
def issue? : Note → Option Issue
  | recovered fault node handler recovery => some (issueOf fault node handler recovery)
  | _ => none

end Note

namespace Findings

/-- What several notes add, one after another. -/
def ofNotes (setting : Setting) (notes : List Note) : Findings :=
  notes.foldr (fun note rest => note.findings setting ++ rest) {}

@[simp] theorem ofNotes_nil (setting : Setting) : ofNotes setting [] = {} := rfl

@[simp] theorem ofNotes_cons (setting : Setting) (note : Note) (notes : List Note) :
    ofNotes setting (note :: notes) = note.findings setting ++ ofNotes setting notes := rfl

@[simp] theorem ofNotes_append (setting : Setting) (first second : List Note) :
    ofNotes setting (first ++ second) = ofNotes setting first ++ ofNotes setting second := by
  induction first with
  | nil => simp
  | cons note rest ih => simp [ih, append_assoc]

theorem warnings_listenerFindings (setting : Setting) (fault : Fault) (issue : Issue) :
    (Note.listenerFindings setting fault issue).warnings = [] := by
  unfold Note.listenerFindings
  split
  · rfl
  · split <;> rfl

theorem issues_listenerFindings (setting : Setting) (fault : Fault) (issue : Issue) :
    (Note.listenerFindings setting fault issue).issues = [] := by
  unfold Note.listenerFindings
  split
  · rfl
  · split <;> rfl

/-- The warnings among the findings are the warnings among the notes. -/
theorem warnings_ofNotes (setting : Setting) (notes : List Note) :
    (ofNotes setting notes).warnings = notes.filterMap Note.warning? := by
  induction notes with
  | nil => rfl
  | cons note rest ih =>
    cases note <;>
      simp [List.filterMap_cons, Note.findings, Note.warning?, ih, warnings_listenerFindings]

/-- The issues among the findings are the issues among the notes. -/
theorem issues_ofNotes (setting : Setting) (notes : List Note) :
    (ofNotes setting notes).issues = notes.filterMap Note.issue? := by
  induction notes with
  | nil => rfl
  | cons note rest ih =>
    cases note <;>
      simp [List.filterMap_cons, Note.findings, Note.issue?, ih, issues_listenerFindings]

end Findings

/-! ## Steps that only add findings -/

namespace Session

/-- Two sessions that differ in their findings, and in the number of trees in sight, only. -/
structure SameMemory (s s' : Session) : Prop where
  arena : s'.arena = s.arena
  resolutions : s'.resolutions = s.resolutions
  texts : s'.texts = s.texts
  visits : s'.visits = s.visits
  readings : s'.readings = s.readings

namespace SameMemory

theorem refl (s : Session) : SameMemory s s :=
  ⟨rfl, rfl, rfl, rfl, rfl⟩

theorem trans {s t u : Session} (hst : SameMemory s t) (htu : SameMemory t u) :
    SameMemory s u where
  arena := htu.arena.trans hst.arena
  resolutions := htu.resolutions.trans hst.resolutions
  texts := htu.texts.trans hst.texts
  visits := htu.visits.trans hst.visits
  readings := htu.readings.trans hst.readings

theorem textAt? {s s' : Session} (h : SameMemory s s') (key : NodeKey) :
    s'.textAt? key = s.textAt? key := by
  simp [Session.textAt?, h.arena, h.texts]

theorem ruleAt? {s s' : Session} (h : SameMemory s s') (key : NodeKey) :
    s'.ruleAt? key = s.ruleAt? key := by
  simp [Session.ruleAt?, h.arena, h.resolutions]

theorem sound {s s' : Session} (h : SameMemory s s') (hs : s.Sound) : s'.Sound where
  arena := h.arena ▸ hs.arena
  resolutions := by rw [h.arena, h.resolutions]; exact hs.resolutions
  texts := by rw [h.arena, h.texts]; exact hs.texts

end SameMemory

theorem findings_report (setting : Setting) (s : Session) (d : Diagnostic) :
    (s.report d).findings = s.findings ++ (Note.reported d).findings setting := by
  simp [report, findings, Note.findings, Findings.append_def]

theorem findings_warn (setting : Setting) (s : Session) (message : String) :
    (s.warn message).findings = s.findings ++ (Note.warned message).findings setting := by
  simp [warn, findings, Note.findings, Findings.append_def]

end Session

theorem sameMemory_tell (setting : Setting) (fault : Fault) (issue : Issue) (s : Session) :
    s.SameMemory (tell setting fault issue s) := by
  unfold tell
  split
  · exact .refl s
  · split <;> exact ⟨rfl, rfl, rfl, rfl, rfl⟩

theorem sameMemory_recover (setting : Setting) (fault : Fault) (node : Option Cursor)
    (handler : String) (recovery : Recovery) (s : Session) :
    s.SameMemory (recover setting fault node handler recovery s) := by
  unfold recover
  refine Session.SameMemory.trans ?_ (sameMemory_tell setting fault _ _)
  exact ⟨rfl, rfl, rfl, rfl, rfl⟩

theorem findings_tell (setting : Setting) (fault : Fault) (issue : Issue) (s : Session) :
    (tell setting fault issue s).findings =
      s.findings ++ Note.listenerFindings setting fault issue := by
  unfold tell Note.listenerFindings
  cases setting.options.listener with
  | none => simp
  | some listener =>
    cases hlistener : listener fault issue with
    | ok done => simp [hlistener, Session.findings, Findings.append_def]
    | error failure =>
      simp [hlistener, Session.findings, Session.report, Findings.append_def]

theorem findings_recover (setting : Setting) (fault : Fault) (node : Option Cursor)
    (handler : String) (recovery : Recovery) (s : Session) :
    (recover setting fault node handler recovery s).findings =
      s.findings ++ (Note.recovered fault node handler recovery).findings setting := by
  simp only [recover, findings_tell, Note.findings, ← Findings.append_assoc]
  congr 1
  simp [Session.findings, Session.report, Findings.append_def]

end Transcript
