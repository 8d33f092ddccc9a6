import Transcript.Proofs.Conversion.Findings

/-!
# Budgets

A visit may break a budget: the depth, the number of visits or the time, looked at in this order.
Visits and readings of the clock go in step, so whether the visit at a *position* breaks a budget
is known from the position and the depth alone, and so is the first violation in a list of nodes.

The recursion of the traversal is bounded by the levels still open. Seen from outside it is not
bounded at all: the depth check stops it by itself.

## Main definitions

- `Breach`, `breachAt?`: the budget that the visit at a position breaks
- `Violation`, `firstViolation?`: the first breach among nodes that are visited in order

## Main results

- `visit_of_none`, `visit_of_some`: a visit through `breachAt?`
- `processAt_eq`: the equation of the traversal, without the levels still open
- `firstViolation?_append`: the first violation in a list of nodes that is put together
- `firstViolation?_eq_some`: the first violation is the first position that breaks a budget
-/

namespace Transcript

open Markup

/-! ## Breaches -/

/-- A budget that a visit can break. -/
inductive Breach where
  /-- The depth. -/
  | depth
  /-- The number of visits. -/
  | visits
  /-- The time. -/
  | time
  deriving DecidableEq

/-- The time of the visit at a position, in milliseconds from the start. -/
def timeAt (setting : Setting) (position : Nat) : Rat :=
  setting.clock position - setting.clock 0

/-- The budget that the visit at a position, counted from one, breaks at a depth. -/
def breachAt? (setting : Setting) (depth position : Nat) : Option Breach :=
  if setting.options.maxDepth < depth then some .depth
  else if setting.options.maxVisits < position then some .visits
  else if setting.options.timeBudget.exceededBy (timeAt setting position) then some .time
  else none

theorem breachAt?_eq_none_iff {setting : Setting} {depth position : Nat} :
    breachAt? setting depth position = none ↔
      depth ≤ setting.options.maxDepth ∧ position ≤ setting.options.maxVisits ∧
        setting.options.timeBudget.exceededBy (timeAt setting position) = false := by
  unfold breachAt?
  split
  · rename_i hdepth
    simp [Nat.not_le_of_lt hdepth]
  · rename_i hdepth
    split
    · rename_i hvisits
      simp [Nat.not_le_of_lt hvisits]
    · rename_i hvisits
      simp [Nat.le_of_not_lt hdepth, Nat.le_of_not_lt hvisits]

namespace Breach

/-- The fault of a breach. -/
def fault (setting : Setting) (depth position : Nat) : Breach → Fault
  | .depth => depthFault setting.options depth
  | .visits => visitsFault setting.options position
  | .time => timeFault setting.options (timeAt setting position)

/-- How many visits count when the visit at a position breaks a budget. A node that lies too deep
is not counted. -/
def visitsCounted (position : Nat) : Breach → Nat
  | .depth => position - 1
  | .visits => position
  | .time => position

@[simp] theorem isAbort_fault (setting : Setting) (depth position : Nat) (b : Breach) :
    (b.fault setting depth position).isAbort = true := by
  cases b <;> rfl

@[simp] theorem isNodeFault_fault (setting : Setting) (depth position : Nat) (b : Breach) :
    (b.fault setting depth position).kind.isNodeFault = true := by
  cases b <;> rfl

end Breach

/-! ## Visits -/

/-- Every visit counted so far took one reading of the clock, after the first one. -/
def Session.InStep (s : Session) : Prop :=
  s.readings = s.visits + 1

/-- The session after a visit that breaks no budget. -/
def Session.counted (s : Session) : Session :=
  { s with visits := s.visits + 1, readings := s.readings + 1 }

theorem Session.sound_counted {s : Session} (hs : s.Sound) : s.counted.Sound :=
  ⟨hs.arena, hs.resolutions, hs.texts⟩

theorem Session.inStep_counted {s : Session} (hs : s.InStep) : s.counted.InStep := by
  have hreadings : s.readings = s.visits + 1 := hs
  simp [InStep, counted, hreadings]

theorem elapsed_eq {s : Session} (hs : s.InStep) (setting : Setting) :
    Session.elapsed setting { s with visits := s.visits + 1 } = timeAt setting (s.visits + 1) := by
  have h : s.readings = s.visits + 1 := hs
  simp [Session.elapsed, timeAt, h]

theorem visit_of_none {setting : Setting} {depth : Nat} {s : Session} (hs : s.InStep)
    (h : breachAt? setting depth (s.visits + 1) = none) :
    visit setting depth s = (.ok (), s.counted) := by
  -- No check of the three says anything, in the order in which the visit makes them.
  simp only [breachAt?] at h
  split at h
  · simp at h
  rename_i hdepth
  split at h
  · simp at h
  rename_i hvisits
  split at h
  · simp at h
  rename_i htime
  simp [visit, hdepth, hvisits, htime, elapsed_eq hs, Session.counted, Session.read]

theorem visit_of_some {setting : Setting} {depth : Nat} {s : Session} {b : Breach} (hs : s.InStep)
    (h : breachAt? setting depth (s.visits + 1) = some b) :
    ∃ s', visit setting depth s = (.error (b.fault setting depth (s.visits + 1)), s') ∧
      s'.visits = b.visitsCounted (s.visits + 1) ∧ s'.findings = s.findings := by
  simp only [breachAt?] at h
  split at h
  -- Too deep: the visit does not count.
  · rename_i hdepth
    obtain rfl : Breach.depth = b := by simpa using h
    exact ⟨s, by simp [visit, hdepth, Breach.fault], rfl, rfl⟩
  rename_i hdepth
  split at h
  -- Too many: the visit counts, but the clock is not read.
  · rename_i hvisits
    obtain rfl : Breach.visits = b := by simpa using h
    exact ⟨{ s with visits := s.visits + 1 },
      by simp [visit, hdepth, hvisits, Breach.fault], rfl, rfl⟩
  rename_i hvisits
  split at h
  -- Too late: the visit counts, and so does the reading.
  · rename_i htime
    obtain rfl : Breach.time = b := by simpa using h
    refine ⟨s.counted, ?_, rfl, rfl⟩
    simp [visit, hdepth, hvisits, htime, elapsed_eq hs, Breach.fault, Session.counted,
      Session.read]
  · simp at h

theorem visit_of_deep {setting : Setting} {depth : Nat} (s : Session)
    (h : setting.options.maxDepth < depth) :
    visit setting depth s = (.error (depthFault setting.options depth), s) := by
  simp [visit, h]

/-- A visit counts and succeeds, counts and breaks a budget, or breaks one without counting. -/
theorem visit_cases (setting : Setting) (depth : Nat) (s : Session) :
    ∃ readings,
      visit setting depth s = (.ok (), { s with visits := s.visits + 1, readings := readings }) ∨
      (∃ fault, fault.isAbort = true ∧ visit setting depth s =
        (.error fault, { s with visits := s.visits + 1, readings := readings })) ∨
      (∃ fault, fault.isAbort = true ∧ visit setting depth s = (.error fault, s)) := by
  by_cases hdepth : setting.options.maxDepth < depth
  · exact ⟨s.readings, .inr (.inr ⟨_, rfl, visit_of_deep s hdepth⟩)⟩
  by_cases hvisits : setting.options.maxVisits < s.visits + 1
  · refine ⟨s.readings, .inr (.inl ⟨visitsFault setting.options (s.visits + 1), rfl, ?_⟩)⟩
    simp [visit, hdepth, hvisits]
  · cases htime : setting.options.timeBudget.exceededBy
      (Session.elapsed setting { s with visits := s.visits + 1 }) with
    | true =>
      refine ⟨s.readings + 1, .inr (.inl ⟨timeFault setting.options
        (Session.elapsed setting { s with visits := s.visits + 1 }), rfl, ?_⟩)⟩
      simp [visit, hdepth, hvisits, htime, Session.read]
    | false =>
      refine ⟨s.readings + 1, .inl ?_⟩
      simp [visit, hdepth, hvisits, htime, Session.read]

/-- A visit changes nothing but the counts. -/
theorem visit_frame (setting : Setting) (depth : Nat) (s : Session) :
    (visit setting depth s).2 =
      { s with
        visits := (visit setting depth s).2.visits
        readings := (visit setting depth s).2.readings } := by
  obtain ⟨readings, hvisit | ⟨fault, -, hvisit⟩ | ⟨fault, -, hvisit⟩⟩ :=
    visit_cases setting depth s
  · rw [hvisit]
  · rw [hvisit]
  · rw [hvisit]

/-- A visit that passes is within the depth and the number of visits; one that does not gives up. -/
theorem visit_bounds (setting : Setting) (depth : Nat) (s : Session) :
    match visit setting depth s with
    | (.ok (), s') => depth ≤ setting.options.maxDepth ∧ s'.visits ≤ setting.options.maxVisits
    | (.error fault, s') => fault.isAbort = true ∧ s'.visits ≤ s.visits + 1 := by
  by_cases hdepth : setting.options.maxDepth < depth
  · simp only [visit, hdepth, if_true]
    exact ⟨rfl, Nat.le_succ _⟩
  by_cases hvisits : setting.options.maxVisits < s.visits + 1
  · simp only [visit, hdepth, hvisits, if_true, if_false]
    exact ⟨rfl, Nat.le_refl _⟩
  · cases htime : setting.options.timeBudget.exceededBy
      (Session.elapsed setting { s with visits := s.visits + 1 }) with
    | true =>
      simp only [visit, hdepth, hvisits, htime, if_true, if_false]
      exact ⟨rfl, Nat.le_refl _⟩
    | false =>
      simp only [visit, hdepth, hvisits, htime, if_false]
      exact ⟨Nat.le_of_not_lt hdepth, Nat.le_of_not_lt hvisits⟩

/-! ## The equation of the traversal -/

/-- A node is remembered, or else converted with its children one level deeper. At no level open,
the depth check says what the exhausted recursion says. -/
theorem processAt_eq (setting : Setting) (depth : Nat) (node : Option Cursor) (s : Session) :
    processAt setting depth node s =
      match remembered? node s with
      | (some text, s) => (.ok text, s)
      | (none, s) => convertFresh setting (processAt setting (depth + 1)) depth node s := by
  unfold processAt roomAt
  by_cases hdeep : setting.options.maxDepth < depth
  -- No level is open, and the visit would find the node too deep: both say the same.
  · have hroom : setting.options.maxDepth + 1 - depth = 0 := by omega
    rw [hroom]
    simp only [process]
    cases remembered? node s with
    | mk text s =>
      cases text with
      | some text => rfl
      | none => simp [convertFresh, visit_of_deep s hdeep]
  -- A level is open, and the recursion goes on with one level less.
  · obtain ⟨room, hroom⟩ : ∃ room, setting.options.maxDepth + 1 - depth = room + 1 :=
      ⟨setting.options.maxDepth - depth, by omega⟩
    have hnext : setting.options.maxDepth + 1 - (depth + 1) = room := by omega
    rw [hroom, hnext]
    rfl

/-- What is remembered of a node answers for it, and nothing else happens. -/
theorem processAt_of_textAt? {setting : Setting} {s : Session} {node : Option Cursor}
    {text : String} (depth : Nat) (hs : s.Sound) (h : s.textAt? (nodeKey node) = some text) :
    processAt setting depth node s = (.ok text, s) := by
  rw [processAt_eq, remembered?_eq hs, h, Session.number_of_textAt? h]

/-! ## Violations -/

/-- The depth of a node below a level. -/
def Markup.Cursor.depthFrom (base : Nat) (c : Cursor) : Nat :=
  c.above.length - base

/-- A breach with the position and the depth at which it happens. -/
structure Violation where
  /-- The position of the visit, counted from one. -/
  position : Nat
  /-- The depth of the node. -/
  depth : Nat
  /-- The budget that is broken. -/
  breach : Breach

/-- The fault of a violation. -/
def Violation.fault (setting : Setting) (v : Violation) : Fault :=
  v.breach.fault setting v.depth v.position

/-- How many visits count when a violation happens. -/
def Violation.visitsCounted (v : Violation) : Nat :=
  v.breach.visitsCounted v.position

/-- The first violation when nodes are visited in order, the first of them at a position. -/
def firstViolation? (setting : Setting) (base position : Nat) : List Cursor → Option Violation
  | [] => none
  | c :: rest =>
    match breachAt? setting (c.depthFrom base) position with
    | some breach => some ⟨position, c.depthFrom base, breach⟩
    | none => firstViolation? setting base (position + 1) rest

theorem firstViolation?_append (setting : Setting) (base position : Nat) (cs ds : List Cursor) :
    firstViolation? setting base position (cs ++ ds) =
      (firstViolation? setting base position cs).or
        (firstViolation? setting base (position + cs.length) ds) := by
  induction cs generalizing position with
  | nil => simp [firstViolation?]
  | cons c rest ih =>
    simp only [List.cons_append, firstViolation?, List.length_cons]
    split
    · rfl
    · rw [ih, Nat.add_assoc, Nat.add_comm 1]

/-- There is no violation where no position breaks a budget. -/
theorem firstViolation?_eq_none_iff {setting : Setting} {base position : Nat} {cs : List Cursor} :
    firstViolation? setting base position cs = none ↔
      ∀ i (hi : i < cs.length), breachAt? setting (cs[i].depthFrom base) (position + i) = none := by
  induction cs generalizing position with
  | nil => simp [firstViolation?]
  | cons c rest ih =>
    simp only [firstViolation?]
    constructor
    -- A position behind the first is a position of the rest, counted one further.
    · intro h i hi
      split at h
      · simp at h
      · rename_i hfirst
        cases i with
        | zero => exact hfirst
        | succ i =>
          have hrest := ih.mp h i (by simpa using hi)
          rwa [Nat.add_assoc, Nat.add_comm 1] at hrest
    · intro h
      have hfirst : breachAt? setting (c.depthFrom base) position = none := h 0 (by simp)
      rw [hfirst]
      refine ih.mpr fun i hi => ?_
      have hrest := h (i + 1) (by simpa using hi)
      rwa [Nat.add_assoc, Nat.add_comm 1]

/-- The first violation is the first position that breaks a budget. -/
theorem firstViolation?_eq_some {setting : Setting} {base position i : Nat} {cs : List Cursor}
    {breach : Breach} (hi : i < cs.length)
    (hbreach : breachAt? setting (cs[i].depthFrom base) (position + i) = some breach)
    (hbefore : ∀ j (hj : j < i),
      breachAt? setting ((cs.get ⟨j, Nat.lt_trans hj hi⟩).depthFrom base) (position + j) = none) :
    firstViolation? setting base position cs =
      some ⟨position + i, cs[i].depthFrom base, breach⟩ := by
  induction cs generalizing position i with
  | nil => simp at hi
  | cons c rest ih =>
    cases i with
    -- The first node breaks the budget.
    | zero =>
      simp only [List.getElem_cons_zero, Nat.add_zero] at hbreach
      simp [firstViolation?, hbreach]
    -- The first node breaks none, so the search goes on behind it.
    | succ i =>
      have hfirst : breachAt? setting (c.depthFrom base) position = none := hbefore 0 (by omega)
      have hnext : position + 1 + i = position + (i + 1) := by omega
      simp only [firstViolation?, hfirst]
      rw [ih (by simpa using hi) (by simpa [hnext] using hbreach)]
      · simp [hnext]
      · intro j hj
        have hrest := hbefore (j + 1) (by omega)
        rw [Nat.add_assoc, Nat.add_comm 1]
        exact hrest

end Transcript
