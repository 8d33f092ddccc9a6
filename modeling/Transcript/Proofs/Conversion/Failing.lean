import Transcript.Proofs.Conversion.Parallel

/-!
# Rules that fail

A rule that fails at once leaves the text of the node's children where it stands: the inner boundary
puts it in the place of what the rule did not deliver. The same text stands there if the rule hands
it back. Only the records tell the two apart: a failure is an issue, it is reported, and the
listener is told of it.

## Main definitions

- `Rule.Fails`: a rule that fails wherever it is tried
- `Setting.soften`: some rules made to hand back the children's text
- `Note.Thinned`: notes with some of the spare ones left out

## Main results

- `softening_lawful`: a setting and its softened form go along
- `convertCounted_soften`: failing rules may as well hand back the children's text
-/

namespace Transcript

open Markup

/-! ## Failing rules -/

/-- Wherever the rule is tried, it fails at once, with a fault that does not give up. -/
def Rule.Fails (rule : Rule) : Prop :=
  ∀ scene content, ∃ fault,
    rule.replacement scene content = .raise fault ∧ fault.isAbort = false

/-- The rule with a replacement that hands back the children's text. -/
def Rule.passive (rule : Rule) : Rule :=
  { rule with replacement := fun _ content => .done content }

/-- A rule, made passive if it is among the failing ones. -/
def Rule.soften (failing : Rule → Bool) (rule : Rule) : Rule :=
  if failing rule then rule.passive else rule

@[simp] theorem Rule.filter_soften (failing : Rule → Bool) (rule : Rule) :
    (rule.soften failing).filter = rule.filter := by
  unfold Rule.soften
  split <;> rfl

@[simp] theorem Rule.name_soften (failing : Rule → Bool) (rule : Rule) :
    (rule.soften failing).name = rule.name := by
  unfold Rule.soften
  split <;> rfl

/-- The setting with the failing rules made passive. -/
def Setting.soften (setting : Setting) (failing : Rule → Bool) : Setting :=
  { setting with
    rules := { setting.rules with rules := setting.rules.rules.map (Rule.soften failing) } }

/-- What is noted when one of the failing rules is recovered from. -/
def Note.IsFailure (setting : Setting) (failing : Rule → Bool) (note : Note) : Prop :=
  ∃ rule ∈ setting.rules.rules, failing rule = true ∧ ∃ scene content fault,
    rule.replacement scene content = .raise fault ∧
      note = .recovered fault (some scene.node) rule.name fault.kind.recovery

/-! ## Thinned notes -/

/-- Notes with some of the spare ones left out. -/
inductive Note.Thinned (spare : Note → Prop) : List Note → List Note → Prop
  /-- Nothing is left of nothing. -/
  | nil : Note.Thinned spare [] []
  /-- Any note may be kept. -/
  | keep (note : Note) {notes notes' : List Note} (rest : Note.Thinned spare notes notes') :
    Note.Thinned spare (note :: notes) (note :: notes')
  /-- A spare note may be left out. -/
  | drop {note : Note} {notes notes' : List Note} (hspare : spare note)
    (rest : Note.Thinned spare notes notes') : Note.Thinned spare (note :: notes) notes'

namespace Note.Thinned

variable {spare : Note → Prop} {notes notes' others others' : List Note}

theorem append (h : Note.Thinned spare notes notes') (ho : Note.Thinned spare others others') :
    Note.Thinned spare (notes ++ others) (notes' ++ others') := by
  induction h with
  | nil => exact ho
  | keep note _ ih => exact .keep note ih
  | drop hspare _ ih => exact .drop hspare ih

theorem sublist (h : Note.Thinned spare notes notes') : notes'.Sublist notes := by
  induction h with
  | nil => exact .slnil
  | keep note _ ih => exact ih.cons_cons note
  | drop _ _ ih => exact ih.cons _

/-- Whatever spare notes do not carry is there before and after. -/
theorem filterMap_eq {α : Type} {carried? : Note → Option α}
    (hspare : ∀ note, spare note → carried? note = none) (h : Note.Thinned spare notes notes') :
    notes'.filterMap carried? = notes.filterMap carried? := by
  induction h with
  | nil => rfl
  | keep note _ ih => simp only [List.filterMap_cons, ih]
  | drop hnote _ ih => rw [List.filterMap_cons, hspare _ hnote, ih]

end Note.Thinned

/-- Findings from notes, before and after some of the spare ones are left out. -/
def Findings.Thinned (setting : Setting) (spare : Note → Prop) (f f' : Findings) : Prop :=
  ∃ notes notes', Note.Thinned spare notes notes' ∧ f = Findings.ofNotes setting notes ∧
    f' = Findings.ofNotes setting notes'

namespace Findings.Thinned

variable {setting : Setting} {spare : Note → Prop} {f f' : Findings}

theorem keep (h : Findings.Thinned setting spare f f') (note : Note) :
    Findings.Thinned setting spare (f ++ note.findings setting) (f' ++ note.findings setting) := by
  obtain ⟨notes, notes', hthinned, rfl, rfl⟩ := h
  exact ⟨notes ++ [note], notes' ++ [note], hthinned.append (.keep note .nil), by simp, by simp⟩

theorem drop (h : Findings.Thinned setting spare f f') {note : Note} (hspare : spare note) :
    Findings.Thinned setting spare (f ++ note.findings setting) f' := by
  obtain ⟨notes, notes', hthinned, rfl, rfl⟩ := h
  exact ⟨notes ++ [note], notes' ++ [], hthinned.append (.drop hspare .nil), by simp, by simp⟩

end Findings.Thinned

/-! ## A setting and its softened form -/

/-- A setting beside its softened form. Nothing parts them, and the findings of the second are those
of the first without some failures. -/
def softening (setting : Setting) (failing : Rule → Bool) : Pairing where
  first := setting
  second := setting.soften failing
  counterpart := Rule.soften failing
  parts _ := False
  gathered := Findings.Thinned setting (Note.IsFailure setting failing)

variable {setting : Setting} {failing : Rule → Bool}

/-- A failing rule is excused: its passive form hands back the text that stands in for it. -/
theorem softening_program
    (hfails : ∀ rule ∈ setting.rules.rules, failing rule = true → rule.Fails) (rule : Rule)
    (hrule : rule ∈ setting.rules.rules) (c : Cursor) (depth : Nat) (content : String) :
    ((softening setting failing).program rule c depth content).Follows
        (softening setting failing).parts
        ((softening setting failing).counterProgram rule c depth content) ∨
      (softening setting failing).Excused rule c depth content := by
  cases hfailing : failing rule with
  | false =>
    have hsame : (softening setting failing).counterProgram rule c depth content =
        (softening setting failing).program rule c depth content := by
      simp [Pairing.counterProgram, Pairing.program, softening, Setting.soften, Rule.soften,
        hfailing]
    rw [hsame]
    exact .inl (.refl _ _)
  | true =>
    let scene : Scene := ⟨c, depth, setting.adapter, setting.options⟩
    obtain ⟨fault, hraise, habort⟩ := hfails rule hrule hfailing scene content
    refine .inr ⟨fault, hraise, habort, ?_, fun f f' hthinned => ?_⟩
    · simp [Pairing.counterProgram, softening, Rule.soften, Rule.passive, hfailing]
    · exact Findings.Thinned.drop hthinned
        ⟨rule, hrule, hfailing, scene, content, fault, hraise, rfl⟩

/-- The warnings are all there still: a failure carries none. -/
theorem softening_warnings {f f' : Findings}
    (h : Findings.Thinned setting (Note.IsFailure setting failing) f f') :
    f'.warnings = f.warnings := by
  obtain ⟨notes, notes', hthinned, rfl, rfl⟩ := h
  rw [Findings.warnings_ofNotes, Findings.warnings_ofNotes]
  refine hthinned.filterMap_eq fun note hnote => ?_
  obtain ⟨rule, -, -, scene, content, fault, -, rfl⟩ := hnote
  rfl

theorem softening_lawful
    (hfails : ∀ rule ∈ setting.rules.rules, failing rule = true → rule.Fails) :
    (softening setting failing).Lawful where
  adapter := rfl
  clock := rfl
  rules := rfl
  filter := Rule.filter_soften failing
  name := Rule.name_soften failing
  givesUp _ hparts := hparts.elim
  visit depth _ _ hcounts := visit_together_of_sameCounts setting depth hcounts
  empty := ⟨[], [], .nil, rfl, rfl⟩
  warnings _ _ hthinned := softening_warnings hthinned
  note note _ _ hthinned := Findings.Thinned.keep hthinned note
  program := softening_program hfails

/-- Failing rules may as well hand back the text of the children. A budget of visits that cannot be
counted up to is refused in both settings. Otherwise document, visits, time, warnings and the reason
for giving up are the same, and the records differ in failures of these rules only: they come from
the same notes, of which some such failures are left out. -/
theorem convertCounted_soften (root : Option Cursor)
    (hfails : ∀ rule ∈ setting.rules.rules, failing rule = true → rule.Fails) :
    (Arena.maxLimit < setting.options.maxVisits + 1 ∧
      convertCounted setting root = .error Arena.badLimit ∧
      convertCounted (setting.soften failing) root = .error Arena.badLimit) ∨
    ∃ result result', convertCounted setting root = .ok result ∧
      convertCounted (setting.soften failing) root = .ok result' ∧
      result.SameDocument result' ∧
      ∃ notes notes', Note.Thinned (Note.IsFailure setting failing) notes notes' ∧
        result.Records setting (Findings.ofNotes setting notes) ∧
        result'.Records (setting.soften failing) (Findings.ofNotes setting notes') := by
  have hlimit : (setting.soften failing).options.maxVisits = setting.options.maxVisits := rfl
  rw [convertCounted_eq, convertCounted_eq, hlimit]
  by_cases hcounted : setting.options.maxVisits + 1 ≤ Arena.maxLimit
  · rw [if_pos hcounted, if_pos hcounted]
    refine .inr ⟨_, _, rfl, rfl, ?_⟩
    rcases (softening_lawful hfails).convert_together root with ⟨fault, s, hparts, -⟩ |
      ⟨hsame, f, f', ⟨notes, notes', hthinned, rfl, rfl⟩, hrecords, hrecords'⟩
    · exact hparts.elim
    · exact ⟨hsame, notes, notes', hthinned, hrecords, hrecords'⟩
  · rw [if_neg hcounted, if_neg hcounted]
    exact .inl ⟨Nat.lt_of_not_le hcounted, rfl, rfl⟩

/-- A rule for emphasis that always fails. -/
def explodingRule : Rule where
  name := "exploding"
  priority := 1
  filter := .tags ["em"]
  replacement _ _ := .raise (.of .badValue "kaboom")

/-- Emphasis inside a paragraph. -/
def emphasis : Cursor :=
  Cursor.root 0 (.document [.element "p" [] [.leaf .plain "keep ",
    .element "em" [] [.leaf .plain "this"], .leaf .plain " text"]])

/-- A conversion by a rule that fails and nothing else. -/
def explodingSetting : Setting where
  adapter := .generic
  rules := { rules := [explodingRule] }

theorem convertCounted_soften_exploding :
    (∀ rule ∈ explodingSetting.rules.rules, (rule.name == "exploding") = true → rule.Fails) ∧
      ∃ result result', convertCounted explodingSetting (some emphasis) = .ok result ∧
        convertCounted (explodingSetting.soften (·.name == "exploding")) (some emphasis) =
          .ok result' ∧
        result.SameDocument result' ∧ result'.issues.length ≤ result.issues.length := by
  have hfails : ∀ rule ∈ explodingSetting.rules.rules, (rule.name == "exploding") = true →
      rule.Fails := by
    intro rule hrule _ scene content
    obtain rfl := List.mem_singleton.mp hrule
    exact ⟨_, rfl, rfl⟩
  refine ⟨hfails, ?_⟩
  rcases convertCounted_soften (some emphasis) hfails with ⟨hlimit, -⟩ |
    ⟨result, result', hresult, hresult', hsame, notes, notes', hthinned, hrecords, hrecords'⟩
  · exact absurd hlimit (by decide)
  · refine ⟨result, result', hresult, hresult', hsame, ?_⟩
    rw [hrecords.issues, hrecords'.issues, Findings.issues_ofNotes, Findings.issues_ofNotes]
    exact (hthinned.sublist.filterMap Note.issue?).length_le

end Transcript
