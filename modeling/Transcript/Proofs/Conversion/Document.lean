import Transcript.Proofs.Render.Standard

/-!
# Whole conversions

A conversion starts from a session that remembers nothing, so the traversal of the document goes as
the plain evaluation does: up to the first violation, or to the plain value of the root. What
happens then depends on the outcome alone: the text is cleaned, or the conversion is given up.

## Main definitions

- `violation?`: the first violation of a conversion

## Main results

- `violation?_eq_none_of_within`, `violation?_eq_none_of_still`: conversions without violations
- `traverse_of_violation`, `traverse_of_no_violation`: the traversal of a document
- `convert_of_ok`, `convert_of_error`: the end of a conversion
- `convertCounted_eq_plain`: a conversion that is not given up is the plain one
-/

namespace Transcript

open Markup

/-! ## The start -/

namespace Session

variable (setting : Setting) (root : Option Cursor)

theorem inStep_start : (start setting root).InStep := rfl

theorem findings_start : (start setting root).findings = {} := rfl

theorem fresh_start (cs : List Cursor) : Fresh cs (start setting root) := by
  intro d _
  exact ⟨Memo.read_empty _ _, Memo.read_empty _ _⟩

end Session

/-! ## The traversal of a document -/

/-- The first violation when the nodes of a document are visited in order. -/
def violation? (setting : Setting) (c : Cursor) : Option Violation :=
  firstViolation? setting c.above.length 1 c.subtree

/-- The plain value of a document. -/
def plainDocument (setting : Setting) (c : Cursor) : String :=
  plainText setting c.above.length c

/-- The notes of a document. -/
def documentNotes (setting : Setting) (c : Cursor) : List Note :=
  plainNotes setting c.above.length c

variable {setting : Setting} {c : Cursor}

/-- Where time does not run out, no budget is broken as long as no node stands too deep and there are
not too many of them. -/
theorem violation?_eq_none_of_within
    (hdepth : ∀ d ∈ c.subtree, d.depthFrom c.above.length ≤ setting.options.maxDepth)
    (hvisits : c.subtree.length ≤ setting.options.maxVisits)
    (htime : ∀ n, setting.options.timeBudget.exceededBy (timeAt setting n) = false) :
    violation? setting c = none := by
  rw [violation?, firstViolation?_eq_none_iff]
  intro i hi
  have hposition : 1 + i ≤ setting.options.maxVisits := by omega
  exact breachAt?_eq_none_iff.mpr ⟨hdepth _ (List.getElem_mem hi), hposition, htime _⟩

/-- Without options of its own, a conversion is in time as long as its clock stands still. -/
theorem exceededBy_timeAt_of_still (hoptions : setting.options = {})
    (hclock : ∀ n, setting.clock n = setting.clock 0) (n : Nat) :
    setting.options.timeBudget.exceededBy (timeAt setting n) = false := by
  rw [timeAt, hclock n, Rat.sub_self, hoptions]
  have hallowed : ¬(5000 : Rat) < 0 := Rat.not_lt.mpr (Rat.natCast_nonneg (a := 5000))
  simp [Number.Quantity.exceededBy, Number.Quantity.isLess, Number.Quantity.value?, hallowed]

/-- So it breaks no budget in a document that is neither too deep nor too large. -/
theorem violation?_eq_none_of_still (hoptions : setting.options = {})
    (hclock : ∀ n, setting.clock n = setting.clock 0)
    (hdepth : ∀ d ∈ c.subtree, d.depthFrom c.above.length ≤ setting.options.maxDepth)
    (hvisits : c.subtree.length ≤ setting.options.maxVisits) : violation? setting c = none :=
  violation?_eq_none_of_within hdepth hvisits (exceededBy_timeAt_of_still hoptions hclock)

/-- The conversion of a document goes as the plain evaluation does. -/
theorem document_goes (htame : ∀ d ∈ c.subtree, Tame setting c.above.length d) :
    Goes setting c.above.length c.subtree (documentNotes setting c) (plainDocument setting c)
      (Session.start setting (some c)) (processAt setting 0 (some c)
        (Session.start setting (some c))) := by
  have hdepth : c.depthFrom c.above.length = 0 := Nat.sub_self _
  have hgoes := processAt_goes (Nat.le_refl c.above.length) htame
    (Session.sound_start setting (some c)) (Session.inStep_start setting (some c))
    (Session.fresh_start setting (some c) c.subtree)
  rw [hdepth] at hgoes
  exact hgoes

theorem traverse_of_violation {v : Violation}
    (htame : ∀ d ∈ c.subtree, Tame setting c.above.length d)
    (hviolation : violation? setting c = some v) :
    ∃ s, traverse setting (some c) (Session.start setting (some c)) =
        (.error (v.fault setting), s) ∧
      Stopped setting c.above.length c.subtree v (Session.start setting (some c)) s := by
  have hgoes := document_goes htame
  have hfirst : firstViolation? setting c.above.length
      ((Session.start setting (some c)).visits + 1) c.subtree = some v := hviolation
  simp only [Goes, hfirst] at hgoes
  obtain ⟨s, hprocess, hstopped⟩ := hgoes
  exact ⟨s, by simp [traverse, hprocess], hstopped⟩

theorem traverse_of_no_violation (htame : ∀ d ∈ c.subtree, Tame setting c.above.length d)
    (hviolation : violation? setting c = none) :
    ∃ s, traverse setting (some c) (Session.start setting (some c)) =
        (setting.adapter.cleanText (plainDocument setting c), s) ∧
      Converted setting c.above.length c.subtree (documentNotes setting c)
        (Session.start setting (some c)) s := by
  have hgoes := document_goes htame
  have hfirst : firstViolation? setting c.above.length
      ((Session.start setting (some c)).visits + 1) c.subtree = none := hviolation
  simp only [Goes, hfirst] at hgoes
  obtain ⟨s, hprocess, hconverted⟩ := hgoes
  exact ⟨s, by simp [traverse, hprocess], hconverted⟩

/-! ## The end of a conversion -/

theorem convert_of_ok {root : Option Cursor} {markdown : String} {s : Session}
    (h : traverse setting root (Session.start setting root) = (.ok markdown, s)) :
    convert setting root = conclude setting markdown none s := by
  simp [convert, h]

theorem convert_of_error {root : Option Cursor} {fault : Fault} {s : Session}
    (h : traverse setting root (Session.start setting root) = (.error fault, s)) :
    convert setting root =
      conclude setting (giveUp setting root fault s).1 (some (giveUp setting root fault s).2.1)
        (giveUp setting root fault s).2.2 := by
  simp [convert, h]

/-- A conversion that is not given up found no violation, and its text could be cleaned. -/
theorem traverse_of_not_aborted {root : Option Cursor}
    (h : (convert setting root).abortReason = none) :
    ∃ markdown s, traverse setting root (Session.start setting root) = (.ok markdown, s) := by
  cases htraverse : traverse setting root (Session.start setting root) with
  | mk outcome s =>
    cases outcome with
    | ok markdown => exact ⟨markdown, s, rfl⟩
    | error fault =>
      rw [convert_of_error htraverse] at h
      simp [conclude] at h

/-- A conversion is started if its budget can be counted up to, and is refused otherwise. -/
theorem convertCounted_eq (setting : Setting) (root : Option Cursor) :
    convertCounted setting root =
      if setting.options.maxVisits + 1 ≤ Arena.maxLimit then .ok (convert setting root)
      else .error Arena.badLimit := by
  unfold convertCounted Arena.checkedLimit
  by_cases hlimit : setting.options.maxVisits + 1 ≤ Arena.maxLimit
  · have hint : (0 : Int) ≤ (setting.options.maxVisits + 1 : Int) ∧
        (setting.options.maxVisits + 1 : Int) ≤ (Arena.maxLimit : Int) := by omega
    simp only [if_pos hlimit, if_pos hint]
    rfl
  · have hint : ¬ ((0 : Int) ≤ (setting.options.maxVisits + 1 : Int) ∧
        (setting.options.maxVisits + 1 : Int) ≤ (Arena.maxLimit : Int)) := by omega
    simp only [if_neg hlimit, if_neg hint]
    rfl

theorem eq_convert_of_convertCounted {root : Option Cursor} {result : Conversion}
    (h : convertCounted setting root = .ok result) : result = convert setting root := by
  rw [convertCounted_eq] at h
  split at h
  · simpa using h.symm
  · simp at h

/-- Without a violation a conversion is not given up, as long as its text can be cleaned. -/
theorem convertCounted_of_no_violation (htame : ∀ d ∈ c.subtree, Tame setting c.above.length d)
    (hlimit : setting.options.maxVisits + 1 ≤ Arena.maxLimit)
    (hviolation : violation? setting c = none) {markdown : String}
    (hclean : setting.adapter.cleanText (plainDocument setting c) = .ok markdown) :
    ∃ result, convertCounted setting (some c) = .ok result ∧ result.abortReason = none ∧
      result.markdown = markdown := by
  obtain ⟨s, htraverse, -⟩ := traverse_of_no_violation htame hviolation
  rw [hclean] at htraverse
  refine ⟨convert setting (some c), ?_, ?_, ?_⟩
  · rw [convertCounted_eq, if_pos hlimit]
  · rw [convert_of_ok htraverse]
    rfl
  · rw [convert_of_ok htraverse]
    rfl

/-! ## Memory changes nothing -/

/-- A traversal that comes to an end has visited every node, and has cleaned the plain value. -/
theorem converted_of_traverse (htame : ∀ d ∈ c.subtree, Tame setting c.above.length d)
    {markdown : String} {s : Session}
    (htraverse : traverse setting (some c) (Session.start setting (some c)) = (.ok markdown, s)) :
    setting.adapter.cleanText (plainDocument setting c) = .ok markdown ∧
      Converted setting c.above.length c.subtree (documentNotes setting c)
        (Session.start setting (some c)) s := by
  cases hviolation : violation? setting c with
  -- A violation would have given the conversion up.
  | some v =>
    obtain ⟨s', hstopped, -⟩ := traverse_of_violation htame hviolation
    rw [hstopped] at htraverse
    cases htraverse
  | none =>
    obtain ⟨s', hrun, hconverted⟩ := traverse_of_no_violation htame hviolation
    rw [hrun] at htraverse
    obtain ⟨hclean, rfl⟩ := Prod.mk.inj htraverse
    exact ⟨hclean, hconverted⟩

/-- A conversion that is not given up has visited every node, and has cleaned the plain value. -/
theorem converted_of_not_aborted (htame : ∀ d ∈ c.subtree, Tame setting c.above.length d)
    (hdone : (convert setting (some c)).abortReason = none) :
    ∃ markdown s, setting.adapter.cleanText (plainDocument setting c) = .ok markdown ∧
      convert setting (some c) = conclude setting markdown none s ∧
      Converted setting c.above.length c.subtree (documentNotes setting c)
        (Session.start setting (some c)) s := by
  obtain ⟨markdown, s, htraverse⟩ := traverse_of_not_aborted hdone
  obtain ⟨hclean, hconverted⟩ := converted_of_traverse htame htraverse
  exact ⟨markdown, s, hclean, convert_of_ok htraverse, hconverted⟩

/-- A conversion that is not given up is the plain one: its text is the cleaned value of the root,
and its warnings and issues are those of the nodes, each node's own once, however often rules have
nodes converted again. -/
theorem convertCounted_eq_plain {result : Conversion}
    (htame : ∀ d ∈ c.subtree, Tame setting c.above.length d)
    (hresult : convertCounted setting (some c) = .ok result)
    (hdone : result.abortReason = none) :
    setting.adapter.cleanText (plainDocument setting c) = .ok result.markdown ∧
      result.warnings = (documentNotes setting c).filterMap Note.warning? ∧
      result.issues = (documentNotes setting c).filterMap Note.issue? := by
  obtain rfl := eq_convert_of_convertCounted hresult
  obtain ⟨markdown, s, hclean, hconvert, hconverted⟩ := converted_of_not_aborted htame hdone
  have hfindings : s.findings = Findings.ofNotes setting (documentNotes setting c) := by
    rw [hconverted.findings, Session.findings_start, Findings.empty_append]
  rw [hconvert]
  refine ⟨hclean, ?_, ?_⟩
  · rw [← Findings.warnings_ofNotes setting, ← hfindings]
    rfl
  · rw [← Findings.issues_ofNotes setting, ← hfindings]
    rfl

/-- A document with a link in a list. The list has the link converted again, and the link warns of
its target. -/
def linkInList : Cursor :=
  Cursor.root 0 (.document [.element "ul" [] [.element "li" []
    [.element "a" [⟨"href", .text "javascript:x"⟩] [.leaf .plain "t"]]]])

/-- A conversion by the built-in rules. -/
def builtinSetting : Setting where
  adapter := .generic
  rules := .standard

theorem convertCounted_linkInList :
    (∀ d ∈ linkInList.subtree, Tame builtinSetting linkInList.above.length d) ∧
      ∃ result, convertCounted builtinSetting (some linkInList) = .ok result ∧
        result.abortReason = none ∧
        builtinSetting.adapter.cleanText (plainDocument builtinSetting linkInList) =
          .ok result.markdown ∧
        result.warnings = (documentNotes builtinSetting linkInList).filterMap Note.warning? ∧
        result.issues = (documentNotes builtinSetting linkInList).filterMap Note.issue? := by
  have htame : ∀ d ∈ linkInList.subtree, Tame builtinSetting linkInList.above.length d :=
    fun d _ => tame_of_standard rules_standard rfl _ d
  have hviolation : violation? builtinSetting linkInList = none :=
    violation?_eq_none_of_still rfl (fun _ => rfl) (by decide) (by decide)
  obtain ⟨result, hresult, hdone, -⟩ :=
    convertCounted_of_no_violation htame (by decide) hviolation rfl
  exact ⟨htame, result, hresult, hdone, convertCounted_eq_plain htame hresult hdone⟩

end Transcript
