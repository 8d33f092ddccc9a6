import Transcript.Proofs.Conversion.Parallel

/-!
# Larger budgets

A visit that passes within its budgets passes within larger ones, and it leaves the same counts
behind. So a conversion that is not given up goes the same way with larger budgets, from the first
visit to the last. It makes no difference that more nodes are numbered beforehand: numbers are only
looked up, never compared.

## Main definitions

- `Options.Allows`: budgets that are at least as large as others
- `Rule.IgnoresOptions`: a rule that renders alike whatever the options

## Main results

- `widening_lawful`: a setting and the same one with larger budgets go along
- `convertCounted_of_allows`: larger budgets change nothing about a conversion that is not given up
-/

namespace Transcript

open Markup Number

/-! ## Larger budgets -/

/-- Whether a quantity is at least as large as another one, as it never is if one of them is no
number. -/
def Number.Quantity.IsAtLeast (larger smaller : Quantity) : Prop :=
  larger ≠ .undefined ∧ smaller ≠ .undefined ∧ larger.isLess smaller = false

/-- What exceeds a larger bound exceeds the smaller one. -/
theorem Number.Quantity.exceededBy_of_isAtLeast {larger smaller : Quantity} {value : Rat}
    (h : larger.IsAtLeast smaller) (hexceeded : larger.exceededBy value = true) :
    smaller.exceededBy value = true := by
  obtain ⟨hlarger, hsmaller, hless⟩ := h
  -- Only two finite bounds need an argument about their values.
  cases larger <;> cases smaller <;>
    simp_all [Quantity.exceededBy, Quantity.isLess, Quantity.value?] <;> grind

/-- Options whose budgets are at least as large as those of others. They may differ in everything
else. -/
structure Options.Allows (wider options : Options) : Prop where
  visits : options.maxVisits ≤ wider.maxVisits
  depth : options.maxDepth ≤ wider.maxDepth
  time : wider.timeBudget.IsAtLeast options.timeBudget

/-- The rule renders alike whatever the options. -/
def Rule.IgnoresOptions (rule : Rule) : Prop :=
  ∀ (scene : Scene) (options : Options) (content : String),
    rule.replacement { scene with options } content = rule.replacement scene content

theorem ignoresOptions_of_mem_standardRules {rule : Rule} (h : rule ∈ standardRules) :
    rule.IgnoresOptions := by
  rcases mem_standardRules_iff.mp h with h | h <;> cases h <;> exact fun _ _ _ => rfl

/-! ## A setting and a wider one -/

/-- A setting beside the same one with other options. They part where the first is given up, and
otherwise they have the same warnings and issues; what is reported depends on the options. -/
def widening (setting : Setting) (wider : Options) : Pairing where
  first := setting
  second := { setting with options := wider }
  counterpart := id
  parts fault := fault.isAbort = true
  gathered f f' := f'.warnings = f.warnings ∧ f'.issues = f.issues

variable {setting : Setting} {wider : Options}

/-- A visit that passes also passes within larger budgets, and counts the same. -/
theorem visit_together_of_allows (hwider : wider.Allows setting.options) (depth : Nat)
    {s s' : Session} (h : s.SameCounts s') :
    Together (fun fault => fault.isAbort = true) Session.SameCounts (visit setting depth s)
      (visit { setting with options := wider } depth s') := by
  by_cases hdepth : setting.options.maxDepth < depth
  · rw [visit_of_deep s hdepth]
    exact .parted rfl
  by_cases hvisits : setting.options.maxVisits < s.visits + 1
  · simp only [visit, hdepth, hvisits, if_true, if_false]
    exact .parted rfl
  -- The other session has the same reading to take.
  have helapsed : Session.elapsed { setting with options := wider }
      { s' with visits := s.visits + 1 } =
        Session.elapsed setting { s with visits := s.visits + 1 } := by
    simp only [Session.elapsed, h.readings]
  cases htime : setting.options.timeBudget.exceededBy
      (Session.elapsed setting { s with visits := s.visits + 1 }) with
  | true =>
    simp only [visit, hdepth, hvisits, htime, if_true, if_false]
    exact .parted rfl
  | false =>
    have hdepth' : ¬ wider.maxDepth < depth :=
      fun hdeep => hdepth (Nat.lt_of_le_of_lt hwider.depth hdeep)
    have hvisits' : ¬ wider.maxVisits < s.visits + 1 :=
      fun hmany => hvisits (Nat.lt_of_le_of_lt hwider.visits hmany)
    have htime' : ¬ wider.timeBudget.exceededBy
        (Session.elapsed setting { s with visits := s.visits + 1 }) = true := by
      intro hlate
      rw [Quantity.exceededBy_of_isAtLeast hwider.time hlate] at htime
      cases htime
    simp only [visit, h.visits, helapsed, hdepth, hvisits, htime, hdepth', hvisits', htime',
      if_false]
    exact .along ⟨rfl, congrArg (· + 1) h.readings⟩

/-- Whatever the options, a note leaves the same warnings and issues. -/
theorem widening_note (note : Note) (f f' : Findings)
    (h : (widening setting wider).gathered f f') :
    (widening setting wider).gathered (f ++ note.findings (widening setting wider).first)
      (f' ++ note.findings (widening setting wider).second) := by
  obtain ⟨hwarnings, hissues⟩ := h
  cases note <;>
    simp [widening, hwarnings, hissues, Note.findings, Findings.warnings_listenerFindings,
      Findings.issues_listenerFindings]

theorem widening_lawful (hwider : wider.Allows setting.options)
    (hrules : ∀ rule ∈ setting.rules.rules, rule.IgnoresOptions) :
    (widening setting wider).Lawful where
  adapter := rfl
  clock := rfl
  rules := (List.map_id _).symm
  filter _ := rfl
  name _ := rfl
  givesUp _ hparts := hparts
  visit depth _ _ hcounts := visit_together_of_allows hwider depth hcounts
  empty := ⟨rfl, rfl⟩
  warnings _ _ hgathered := hgathered.1
  note := widening_note
  program rule hrule c depth content := by
    have hsame : (widening setting wider).counterProgram rule c depth content =
        (widening setting wider).program rule c depth content :=
      hrules rule hrule ⟨c, depth, setting.adapter, setting.options⟩ wider content
    rw [hsame]
    exact .inl (.refl _ _)

/-- Larger budgets change nothing about a conversion that is not given up, as long as rules ignore
the options: it is not given up with larger budgets either, and document, visits, time, warnings and
issues are the same. Only a budget of visits that cannot be counted up to is refused, whatever the
document. -/
theorem convertCounted_of_allows {root : Option Cursor} {result : Conversion}
    (hwider : wider.Allows setting.options)
    (hrules : ∀ rule ∈ setting.rules.rules, rule.IgnoresOptions)
    (hresult : convertCounted setting root = .ok result) (hdone : result.abortReason = none) :
    (wider.maxVisits + 1 ≤ Arena.maxLimit →
      ∃ result', convertCounted { setting with options := wider } root = .ok result' ∧
        result'.abortReason = none ∧ result.SameDocument result' ∧
        result'.issues = result.issues) ∧
    (Arena.maxLimit < wider.maxVisits + 1 →
      convertCounted { setting with options := wider } root = .error Arena.badLimit) := by
  obtain rfl := eq_convert_of_convertCounted hresult
  have hcounted := convertCounted_eq { setting with options := wider } root
  refine ⟨fun hlimit => ?_, fun hlimit => ?_⟩
  · rw [if_pos hlimit] at hcounted
    refine ⟨_, hcounted, ?_⟩
    rcases (widening_lawful hwider hrules).convert_together root with
      ⟨fault, s, -, htraverse⟩ | ⟨hsame, f, f', ⟨-, hissues⟩, hrecords, hrecords'⟩
    -- The first conversion is not given up, so nothing parts the two.
    · obtain ⟨markdown, t, hpassed⟩ := traverse_of_not_aborted hdone
      cases hpassed.symm.trans htraverse
    · exact ⟨hsame.abortReason.trans hdone, hsame,
        hrecords'.issues.trans (hissues.trans hrecords.issues.symm)⟩
  · rw [if_neg (Nat.not_le_of_lt hlimit)] at hcounted
    exact hcounted

/-- Larger budgets, and a report at the end. -/
def ampleOptions : Options where
  maxVisits := 100000
  timeBudget := .infinite
  maxDepth := 200
  logPerformance := true

theorem convertCounted_linkInList_ample :
    ampleOptions.Allows builtinSetting.options ∧
      (∀ rule ∈ builtinSetting.rules.rules, rule.IgnoresOptions) ∧
      ∃ result, convertCounted builtinSetting (some linkInList) = .ok result ∧
        result.abortReason = none ∧
        ∃ result', convertCounted { builtinSetting with options := ampleOptions }
            (some linkInList) = .ok result' ∧
          result'.abortReason = none ∧ result.SameDocument result' ∧
          result'.issues = result.issues := by
  have hwider : ampleOptions.Allows builtinSetting.options :=
    ⟨by decide, by decide, by decide, by decide, by decide⟩
  have hrules : ∀ rule ∈ builtinSetting.rules.rules, rule.IgnoresOptions :=
    fun _ hrule => ignoresOptions_of_mem_standardRules (rules_standard ▸ hrule)
  have hviolation : violation? builtinSetting linkInList = none :=
    violation?_eq_none_of_still rfl (fun _ => rfl) (by decide) (by decide)
  obtain ⟨result, hresult, hdone, -⟩ :=
    convertCounted_of_no_violation (fun d _ => tame_of_standard rules_standard rfl _ d)
      (by decide) hviolation rfl
  have hample := (convertCounted_of_allows hwider hrules hresult hdone).1 (by decide)
  exact ⟨hwider, hrules, result, hresult, hdone, hample⟩

end Transcript
