import Transcript.Proofs.Conversion.Allowance
import Transcript.Proofs.Conversion.Failing
import Transcript.Proofs.Conversion.Origin

/-!
# Who listens

A listener is told of every issue, in order, and makes no difference to the conversion, even if it
fails. Beside what it is told, all that it can add to the records is one report of an error for each
time it fails. With or without it, the trace has one warning for each issue, in order, and what else
it warns of was said by rules or says that the conversion is given up.

## Main definitions

- `Setting.heardBy`: a setting with another listener, or none
- `Rule.IgnoresListener`: a rule that renders alike whoever listens
- `Conversion.HeardAs`: how a conversion that is listened to compares with the silent one

## Main results

- `listening_lawful`: a setting without a listener and the same one with a listener go along
- `convertCounted_heard`: listeners are told of every issue and make no difference
-/

namespace Transcript

open Markup

/-- The setting with another listener, or none. -/
def Setting.heardBy (setting : Setting) (listener : Option Listener) : Setting :=
  { setting with options := { setting.options with listener } }

/-- The rule renders alike whoever listens. -/
def Rule.IgnoresListener (rule : Rule) : Prop :=
  ∀ (scene : Scene) (listener : Option Listener) (content : String),
    rule.replacement { scene with options := { scene.options with listener } } content =
      rule.replacement scene content

/-- Whether the listener fails when it is told of an issue. -/
def Listener.failsOn (listener : Listener) (told : Fault × Issue) : Bool :=
  match listener told.1 told.2 with
  | .ok () => false
  | .error _ => true

/-- What is reported when a listener fails. -/
def listenerFailure : String := "Error callback raised an exception"

/-! ## Findings with and without a listener -/

/-- Findings from the same notes, without a listener and with one. -/
def Findings.Heard (setting : Setting) (listener : Listener) (f f' : Findings) : Prop :=
  ∃ notes, f = Findings.ofNotes (setting.heardBy none) notes ∧
    f' = Findings.ofNotes (setting.heardBy (some listener)) notes

theorem Diagnostic.events_append (trace others : List Diagnostic) :
    Diagnostic.events (trace ++ others) = Diagnostic.events trace ++ Diagnostic.events others :=
  List.filterMap_append

theorem Diagnostic.errors_append (trace others : List Diagnostic) :
    Diagnostic.errors (trace ++ others) = Diagnostic.errors trace ++ Diagnostic.errors others :=
  List.filterMap_append

/-- How what is told and traced with a listener compares with what is gathered without it. -/
structure Findings.Told (listener : Listener) (f f' : Findings) : Prop where
  issues : f'.issues = f.issues
  silent : f.told = []
  told : f'.told.map Prod.snd = f.issues
  faults : ∀ told ∈ f'.told, told.2.message = told.1.summary
  events : Diagnostic.events f'.trace = Diagnostic.events f.trace
  errors : (Diagnostic.errors f'.trace).Perm
    (Diagnostic.errors f.trace ++ (f'.told.filter listener.failsOn).map fun _ => listenerFailure)
  steady : (∀ told, listener.failsOn told = false) → f'.trace = f.trace

namespace Findings.Told

variable {listener : Listener} {f f' g g' : Findings}

theorem empty (listener : Listener) : Findings.Told listener {} {} :=
  ⟨rfl, rfl, rfl, by simp, rfl, .nil, fun _ => rfl⟩

theorem append (h : Findings.Told listener f f') (hg : Findings.Told listener g g') :
    Findings.Told listener (f ++ g) (f' ++ g') where
  issues := by simp [h.issues, hg.issues]
  silent := by simp [h.silent, hg.silent]
  told := by simp [h.told, hg.told]
  faults told htold := (List.mem_append.mp htold).elim (h.faults told) (hg.faults told)
  events := by simp [Diagnostic.events_append, h.events, hg.events]
  errors := by
    simp only [Findings.trace_append, Findings.told_append, Diagnostic.errors_append,
      List.filter_append, List.map_append]
    refine (h.errors.append hg.errors).trans ?_
    -- The failures in front pass the errors behind them.
    simpa only [List.append_assoc] using (List.perm_append_comm.append_right _).append_left _
  steady hsteady := by simp [h.steady hsteady, hg.steady hsteady]

/-- A note that is no recovery leaves the same without a listener and with one. -/
theorem of_eq {f : Findings} (listener : Listener) (hissues : f.issues = []) (htold : f.told = []) :
    Findings.Told listener f f where
  issues := rfl
  silent := htold
  told := by simp [htold, hissues]
  faults := by simp [htold]
  events := rfl
  errors := by simp [htold]
  steady _ := rfl

/-- A recovery leaves its issue, and the listener is told of it. -/
theorem recovery (listener : Listener) (fault : Fault) (issue : Issue) (warning : Diagnostic)
    (hissue : issue.message = fault.summary) (setting : Setting) :
    Findings.Told listener { issues := [issue], trace := [warning] }
      ({ issues := [issue], trace := [warning] } ++
        Note.listenerFindings (setting.heardBy (some listener)) fault issue) := by
  cases hlistener : listener fault issue with
  | ok done =>
    have hfindings : Note.listenerFindings (setting.heardBy (some listener)) fault issue =
        { told := [(fault, issue)] } := by
      simp [Note.listenerFindings, Setting.heardBy, hlistener]
    have hsteady : listener.failsOn (fault, issue) = false := by
      simp [Listener.failsOn, hlistener]
    rw [hfindings]
    exact ⟨by simp, rfl, by simp, by simp [hissue], by simp, by simp [hsteady], by simp⟩
  | error failure =>
    have hfindings : Note.listenerFindings (setting.heardBy (some listener)) fault issue =
        { told := [(fault, issue)]
          trace := [.error listenerFailure (some ⟨failure, []⟩)] } := by
      simp [Note.listenerFindings, Setting.heardBy, hlistener, listenerFailure]
    have hfails : listener.failsOn (fault, issue) = true := by
      simp [Listener.failsOn, hlistener]
    rw [hfindings]
    refine ⟨by simp, rfl, by simp, by simp [hissue], ?_, ?_, fun hsteady => ?_⟩
    · rw [Findings.trace_append, Diagnostic.events_append]
      exact List.append_nil _
    · have htold : [(fault, issue)].filter listener.failsOn = [(fault, issue)] := by simp [hfails]
      simp only [Findings.trace_append, Findings.told_append, Diagnostic.errors_append,
        List.nil_append, htold]
      exact .refl _
    · rw [hsteady] at hfails
      cases hfails

/-- What a note leaves, without a listener and with one. -/
theorem note (setting : Setting) (listener : Listener) (note : Note) :
    Findings.Told listener (note.findings (setting.heardBy none))
      (note.findings (setting.heardBy (some listener))) := by
  cases note with
  | warned message => exact of_eq listener rfl rfl
  | reported diagnostic => exact of_eq listener rfl rfl
  | recovered fault node handler recovery =>
    have hsilent : Note.listenerFindings (setting.heardBy none) fault
        (issueOf fault node handler recovery) = {} := rfl
    simp only [Note.findings, hsilent, Findings.append_empty]
    exact Told.recovery listener fault _ _ rfl setting

theorem ofNotes (setting : Setting) (listener : Listener) (notes : List Note) :
    Findings.Told listener (Findings.ofNotes (setting.heardBy none) notes)
      (Findings.ofNotes (setting.heardBy (some listener)) notes) := by
  induction notes with
  | nil => exact empty listener
  | cons head rest ih => exact (note setting listener head).append ih

end Findings.Told

/-! ## A setting without a listener and with one -/

/-- A setting without a listener beside the same one with a listener. Nothing parts them, and their
findings come from the same notes. -/
def listening (setting : Setting) (listener : Listener) : Pairing where
  first := setting.heardBy none
  second := setting.heardBy (some listener)
  counterpart := id
  parts _ := False
  gathered := Findings.Heard setting listener

variable {setting : Setting}

theorem listening_lawful (hrules : ∀ rule ∈ setting.rules.rules, rule.IgnoresListener)
    (listener : Listener) : (listening setting listener).Lawful where
  adapter := rfl
  clock := rfl
  rules := (List.map_id _).symm
  filter _ := rfl
  name _ := rfl
  givesUp _ hparts := hparts.elim
  visit depth _ _ hcounts := visit_together_of_sameCounts (setting.heardBy none) depth hcounts
  empty := ⟨[], rfl, rfl⟩
  warnings f f' := by
    rintro ⟨notes, rfl, rfl⟩
    rw [Findings.warnings_ofNotes, Findings.warnings_ofNotes]
  note note f f' := by
    rintro ⟨notes, rfl, rfl⟩
    exact ⟨notes ++ [note], by simp [listening], by simp [listening]⟩
  program rule hrule c depth content := by
    have hsame : (listening setting listener).counterProgram rule c depth content =
        (listening setting listener).program rule c depth content :=
      hrules rule hrule ⟨c, depth, setting.adapter, (setting.heardBy none).options⟩ (some listener)
        content
    rw [hsame]
    exact .inl (.refl _ _)

/-- A conversion with a listener, beside the same one without: the document and its facts are the
same, issues included; the listener was told of every issue, in order; and the trace differs by one
error for each time the listener failed. -/
structure Conversion.HeardAs (listener : Listener) (silent heard : Conversion) : Prop where
  same : silent.SameDocument heard
  issues : heard.issues = silent.issues
  told : heard.told.map Prod.snd = heard.issues
  faults : ∀ told ∈ heard.told, told.2.message = told.1.summary
  warnings : Diagnostic.warnings heard.trace = Diagnostic.warnings silent.trace
  events : Diagnostic.events heard.trace = Diagnostic.events silent.trace
  errors : (Diagnostic.errors heard.trace).Perm (Diagnostic.errors silent.trace ++
    (heard.told.filter listener.failsOn).map fun _ => listenerFailure)
  steady : (∀ told, listener.failsOn told = false) → heard.trace = silent.trace

/-- The end is reported alike. -/
theorem completion_heardBy {listener : Option Listener} {silent heard : Conversion}
    (hsame : silent.SameDocument heard) (hissues : heard.issues = silent.issues) :
    heard.completion (setting.heardBy listener) = silent.completion (setting.heardBy none) := by
  unfold Conversion.completion Conversion.isAborted
  rw [hsame.platform, hsame.visits, hsame.elapsed, hsame.warnings, hissues, hsame.abortReason]
  rfl

theorem heardAs_of_records {listener : Listener} {silent heard : Conversion} {f f' : Findings}
    (hsame : silent.SameDocument heard) (h : Findings.Told listener f f')
    (hsilent : silent.Records (setting.heardBy none) f)
    (hheard : heard.Records (setting.heardBy (some listener)) f')
    (hwarnings : Diagnostic.warnings f'.trace = Diagnostic.warnings f.trace) :
    silent.HeardAs listener heard := by
  have hissues : heard.issues = silent.issues := by rw [hheard.issues, h.issues, hsilent.issues]
  have hend : heard.completion (setting.heardBy (some listener)) =
      silent.completion (setting.heardBy none) := completion_heardBy hsame hissues
  -- The report of the end is no error, so all errors that differ are those of the listener.
  have herrors : Diagnostic.errors (silent.completion (setting.heardBy none)) = [] := by
    unfold Conversion.completion
    split <;> rfl
  refine ⟨hsame, hissues, ?_, ?_, ?_, ?_, ?_, fun hsteady => ?_⟩
  · rw [hheard.told, h.told, hheard.issues, h.issues]
  · rw [hheard.told]
    exact h.faults
  · rw [hheard.warnings_trace, hsilent.warnings_trace, hwarnings]
  · rw [hheard.trace, hsilent.trace, hend, Diagnostic.events_append, Diagnostic.events_append,
      h.events]
  · rw [hheard.trace, hsilent.trace, hend, hheard.told, Diagnostic.errors_append,
      Diagnostic.errors_append, herrors, List.append_nil, List.append_nil]
    exact h.errors
  · rw [hheard.trace, hsilent.trace, hend, h.steady hsteady]

/-- Listeners are told of every issue and make no difference, as long as rules do not look for them.
A budget of visits that cannot be counted up to is refused whoever listens. Otherwise the conversion
without a listener has a result, whose trace has exactly one warning for each issue, in order, and
all other warnings in it were said by rules or say that the conversion is given up; so if rules do
not imitate them, the warnings of recoveries are those of the issues. With any listener the result
is the same, the listener is told of the issues one by one, and the trace has one more error each
time the listener fails. -/
theorem convertCounted_heard (root : Option Cursor)
    (hrules : ∀ rule ∈ setting.rules.rules, rule.IgnoresListener) :
    (Arena.maxLimit < setting.options.maxVisits + 1 ∧
      ∀ listener, convertCounted (setting.heardBy listener) root = .error Arena.badLimit) ∨
    ∃ (silent : Conversion) (notes : List Note),
      convertCounted (setting.heardBy none) root = .ok silent ∧ silent.told = [] ∧
      (∀ note ∈ notes, note.HasOrigin (setting.heardBy none)) ∧
      silent.issues = notes.filterMap Note.issue? ∧
      Diagnostic.warnings silent.trace = notes.filterMap Note.text? ∧
      ((∀ rule ∈ setting.rules.rules, rule.Discreet (setting.heardBy none)) →
        recoveriesIn silent.trace = silent.issues.map Issue.recoveryText) ∧
      ∀ listener, ∃ heard, convertCounted (setting.heardBy (some listener)) root = .ok heard ∧
        silent.HeardAs listener heard := by
  have hresult : ∀ listener, convertCounted (setting.heardBy listener) root =
      if setting.options.maxVisits + 1 ≤ Arena.maxLimit then
        .ok (convert (setting.heardBy listener) root) else .error Arena.badLimit :=
    fun listener => convertCounted_eq (setting.heardBy listener) root
  by_cases hcounted : setting.options.maxVisits + 1 ≤ Arena.maxLimit
  · obtain ⟨notes, horigin, hrecords⟩ := exists_notes_of_convert (setting.heardBy none) root
    have hissues := hrecords.issues.trans (Findings.issues_ofNotes _ notes)
    have hwarnings := hrecords.warnings_trace.trans (warnings_trace_ofNotes _ notes)
    have htold : (convert (setting.heardBy none) root).told = [] :=
      hrecords.told.trans (Findings.Told.ofNotes setting (fun _ _ => .ok ()) notes).silent
    refine .inr ⟨_, notes, by rw [hresult, if_pos hcounted], htold, horigin, hissues, hwarnings,
      fun hdiscreet => ?_, fun listener => ⟨_, by rw [hresult, if_pos hcounted], ?_⟩⟩
    · rw [recoveriesIn, hwarnings, hissues]
      exact recoveries_of_discreet hdiscreet horigin
    -- Nothing parts the two conversions, so their findings come from one list of notes.
    · rcases (listening_lawful hrules listener).convert_together root with
        ⟨fault, s, hparts, -⟩ | ⟨hsame, f, f', ⟨others, rfl, rfl⟩, hsilent, hheard⟩
      · exact hparts.elim
      · refine heardAs_of_records hsame (Findings.Told.ofNotes setting listener others) hsilent
          hheard ?_
        rw [warnings_trace_ofNotes, warnings_trace_ofNotes]
  · exact .inl ⟨Nat.lt_of_not_le hcounted, fun listener => by rw [hresult, if_neg hcounted]⟩

/-- A listener that always fails is told of every issue of a rule that always fails, and leaves one
error for each. -/
theorem convertCounted_heard_exploding :
    (∀ rule ∈ explodingSetting.rules.rules, rule.IgnoresListener) ∧
      (∀ rule ∈ explodingSetting.rules.rules, rule.Discreet (explodingSetting.heardBy none)) ∧
      ∃ silent heard,
        convertCounted (explodingSetting.heardBy none) (some emphasis) = .ok silent ∧
        convertCounted (explodingSetting.heardBy (some fun _ _ => .error (.of .failure "loud")))
          (some emphasis) = .ok heard ∧
        silent.SameDocument heard ∧ heard.issues = silent.issues ∧ silent.told = [] ∧
        heard.told.map Prod.snd = heard.issues ∧
        recoveriesIn silent.trace = silent.issues.map Issue.recoveryText ∧
        (Diagnostic.errors heard.trace).length =
          (Diagnostic.errors silent.trace).length + heard.issues.length := by
  have hrules : ∀ rule ∈ explodingSetting.rules.rules, rule.IgnoresListener := by
    intro rule hrule scene listener content
    obtain rfl := List.mem_singleton.mp hrule
    rfl
  have hdiscreet : ∀ rule ∈ explodingSetting.rules.rules,
      rule.Discreet (explodingSetting.heardBy none) := by
    rintro rule hrule note text ⟨c, depth, content, hsays⟩ _
    obtain rfl := List.mem_singleton.mp hrule
    cases hsays
  refine ⟨hrules, hdiscreet, ?_⟩
  rcases convertCounted_heard (some emphasis) hrules with ⟨hlimit, -⟩ |
    ⟨silent, notes, hsilent, htold, -, -, -, hrecoveries, hheard⟩
  · exact absurd hlimit (by decide)
  · obtain ⟨heard, hresult, has⟩ := hheard fun _ _ => .error (.of .failure "loud")
    refine ⟨silent, heard, hsilent, hresult, has.same, has.issues, htold, has.told,
      hrecoveries hdiscreet, ?_⟩
    have hall : heard.told.filter (Listener.failsOn fun _ _ => .error (.of .failure "loud")) =
        heard.told := List.filter_eq_self.mpr fun _ _ => rfl
    rw [has.errors.length_eq, List.length_append, List.length_map, hall, ← has.told,
      List.length_map]

end Transcript
