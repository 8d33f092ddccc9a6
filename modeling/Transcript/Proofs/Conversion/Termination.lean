import Transcript.Proofs.Conversion.Document
import Transcript.Proofs.Conversion.Machine

/-!
# Every conversion ends within its budgets

Rules may have any node converted: their own, nodes above it, nodes of fresh trees. Nothing is
remembered of a node while it is converted, so a rule may come back to it again and again; what ends
the run is the depth, which grows with every node that is asked for. The run of the machine from the
start of a conversion therefore comes to rest, and what it comes to is the result of the conversion.

On the way the number of visits stays within the budget or goes one beyond it. In the latter case a
fault that gives up is on its way through the frames, and no frame holds it back.

## Main definitions

- `Machine.start`, `Machine.conversion?`: where a conversion starts, and what is left of it at rest
- `Machine.Bounded`: the invariant of the number of visits

## Main results

- `Machine.bounded_step`, `Machine.bounded_after`: one step keeps the bound, and so does a run
- `convertCounted_terminates`: every conversion ends within its budgets
-/

namespace Transcript

open Markup

variable {setting : Setting}

/-! ## What steps do to the number of visits -/

theorem visits_remembered? (node : Option Cursor) (s : Session) :
    (remembered? node s).2.visits = s.visits := rfl

theorem visits_resolve (setting : Setting) (c : Cursor) (s : Session) :
    (resolve setting c s).2.visits = s.visits := rfl

namespace Machine

/-- A step that asks for no node visits nothing, lets no node pass, and holds back no fault that
gives up. -/
structure Idle (m m' : Machine) : Prop where
  visits : m'.session.visits = m.session.visits
  passes : ∀ depth node, m'.control ≠ .enter depth node
  givesUp : ∀ fault, m.control = .fail fault → fault.isAbort = true → m'.control = .fail fault

theorem idle_entered (depth : Nat) (node : Option Cursor) (frames : List Frame) (s : Session) :
    Idle ⟨.enter depth node, frames, s⟩ (entered setting depth node frames s) := by
  unfold entered
  cases node with
  | none => exact ⟨rfl, by simp, by simp⟩
  | some c =>
    have hresolve := visits_resolve setting c s
    dsimp only
    split
    · exact ⟨rfl, by simp, by simp⟩
    · split
      · rename_i hfound
        exact ⟨by rw [hfound] at hresolve; exact hresolve, by simp, by simp⟩
      · rename_i hfound
        exact ⟨by rw [hfound] at hresolve; exact hresolve, by simp, by simp⟩

theorem idle_rendered (depth : Nat) (program : Rendering String) (frames : List Frame)
    (s : Session) : Idle ⟨.render depth program, frames, s⟩ (rendered depth program frames s) := by
  cases program <;> exact ⟨rfl, by simp [rendered], by simp⟩

theorem idle_answered (text : String) (frame : Frame) (frames : List Frame) (s : Session) :
    Idle ⟨.answer text, frame :: frames, s⟩ (answered setting text frames s frame) := by
  cases frame with
  | rule depth c rule => cases rule <;> exact ⟨rfl, by simp [answered], by simp⟩
  | _ => exact ⟨rfl, by simp [answered], by simp⟩

theorem failed_of_abort {fault : Fault} (h : fault.isAbort = true) (frames : List Frame)
    (s : Session) (frame : Frame) :
    failed setting fault frames s frame = ⟨.fail fault, frames, s⟩ := by
  cases frame <;> simp [failed, h]

/-- A boundary that recovers from a fault records it, which visits nothing. -/
theorem visits_failed {fault : Fault} (h : fault.isAbort = false) (frames : List Frame)
    (s : Session) (frame : Frame) :
    (failed setting fault frames s frame).session.visits = s.visits := by
  cases frame with
  | inner c handler content => simp [failed, h, (sameMemory_recover ..).visits]
  | outer node => simp [failed, h, (sameMemory_recover ..).visits]
  | _ => rfl

theorem idle_failed (fault : Fault) (frame : Frame) (frames : List Frame) (s : Session) :
    Idle ⟨.fail fault, frame :: frames, s⟩ (failed setting fault frames s frame) := by
  cases habort : fault.isAbort with
  | true =>
    rw [failed_of_abort habort]
    exact ⟨rfl, by simp, by simp⟩
  | false =>
    refine ⟨visits_failed habort frames s frame, ?_, ?_⟩
    · cases frame <;> simp [failed, habort]
    · rintro other ⟨⟩ hother
      rw [habort] at hother
      cases hother

/-- A step asks for a node, or it is idle. -/
theorem step_cases {m m' : Machine} (hstep : m.step? setting = some m') :
    (∃ depth node, m.control = .ask depth node ∧
      m' = asked setting depth node m.frames m.session) ∨ Idle m m' := by
  obtain ⟨control, frames, s⟩ := m
  cases control with
  | ask depth node => exact .inl ⟨depth, node, rfl, (Option.some.inj hstep).symm⟩
  | enter depth node =>
    obtain rfl := Option.some.inj hstep
    exact .inr (idle_entered depth node frames s)
  | siblings depth before rest =>
    cases rest with
    | nil =>
      obtain rfl := Option.some.inj hstep
      exact .inr ⟨rfl, by simp, by simp⟩
    | cons c rest =>
      obtain rfl := Option.some.inj hstep
      exact .inr ⟨rfl, by simp, by simp⟩
  | render depth program =>
    obtain rfl := Option.some.inj hstep
    exact .inr (idle_rendered depth program frames s)
  | answer text =>
    cases frames with
    | nil => cases hstep
    | cons frame frames =>
      obtain rfl := Option.some.inj hstep
      exact .inr (idle_answered text frame frames s)
  | fail fault =>
    cases frames with
    | nil => cases hstep
    | cons frame frames =>
      obtain rfl := Option.some.inj hstep
      exact .inr (idle_failed fault frame frames s)

/-- A node that is asked for is remembered, or breaks a budget, or passes its visit. -/
theorem asked_cases (setting : Setting) (depth : Nat) (node : Option Cursor)
    (frames : List Frame) (s : Session) :
    ∃ t, (∃ text, asked setting depth node frames s = ⟨.answer text, frames, t⟩ ∧
        t.visits = s.visits) ∨
      (∃ fault, asked setting depth node frames s = ⟨.fail fault, frames, t⟩ ∧
        fault.isAbort = true ∧ t.visits ≤ s.visits + 1) ∨
      (asked setting depth node frames s = ⟨.enter depth node, .outer node :: frames, t⟩ ∧
        depth ≤ setting.options.maxDepth ∧ t.visits ≤ setting.options.maxVisits) := by
  have hremembered := visits_remembered? node s
  unfold asked
  cases hask : remembered? node s with
  | mk text t =>
    rw [hask] at hremembered
    cases text with
    | some text => exact ⟨t, .inl ⟨text, rfl, hremembered⟩⟩
    | none =>
      have hbounds := visit_bounds setting depth t
      dsimp only
      cases hvisit : visit setting depth t with
      | mk outcome u =>
        rw [hvisit] at hbounds
        cases outcome with
        | ok done => exact ⟨u, .inr (.inr ⟨rfl, hbounds⟩)⟩
        | error fault =>
          have hvisits : t.visits = s.visits := hremembered
          exact ⟨u, .inr (.inl ⟨fault, rfl, hbounds.1, hvisits ▸ hbounds.2⟩)⟩

/-! ## The bound -/

/-- The visits are within their budget, or one beyond it with a fault on its way that gives up. -/
def Bounded (setting : Setting) (m : Machine) : Prop :=
  m.session.visits ≤ setting.options.maxVisits ∨
    (m.session.visits = setting.options.maxVisits + 1 ∧
      ∃ fault, m.control = .fail fault ∧ fault.isAbort = true)

theorem Bounded.visits_le {m : Machine} (h : m.Bounded setting) :
    m.session.visits ≤ setting.options.maxVisits + 1 := by
  rcases h with hwithin | ⟨hbeyond, -⟩
  · exact Nat.le_succ_of_le hwithin
  · exact Nat.le_of_eq hbeyond

/-- One step keeps the bound: a visit that counts one too many gives up, and from then on nothing
is asked for. -/
theorem bounded_step {m m' : Machine} (h : m.Bounded setting)
    (hstep : m.step? setting = some m') : m'.Bounded setting := by
  rcases step_cases hstep with ⟨depth, node, hcontrol, rfl⟩ | hidle
  · have hwithin : m.session.visits ≤ setting.options.maxVisits := by
      rcases h with hwithin | ⟨-, fault, hfail, -⟩
      · exact hwithin
      · rw [hcontrol] at hfail
        cases hfail
    obtain ⟨t, ⟨text, hasked, hvisits⟩ | ⟨fault, hasked, habort, hvisits⟩ |
      ⟨hasked, -, hvisits⟩⟩ := asked_cases setting depth node m.frames m.session
    · rw [hasked]
      exact .inl (hvisits.symm ▸ hwithin)
    · rw [hasked]
      by_cases ht : t.visits ≤ setting.options.maxVisits
      · exact .inl ht
      · exact .inr ⟨by dsimp only; omega, fault, rfl, habort⟩
    · rw [hasked]
      exact .inl hvisits
  · rcases h with hwithin | ⟨hbeyond, fault, hcontrol, habort⟩
    · exact .inl (hidle.visits.symm ▸ hwithin)
    · exact .inr ⟨hidle.visits.trans hbeyond, fault, hidle.givesUp fault hcontrol habort, habort⟩

/-- A run keeps the bound. -/
theorem bounded_after {m : Machine} (h : m.Bounded setting) (n : Nat) :
    (m.after setting n).Bounded setting := by
  induction n generalizing m with
  | zero => exact h
  | succ n ih =>
    unfold after
    cases hstep : m.step? setting with
    | none => exact h
    | some m' => exact ih (bounded_step h hstep)

/-- A step lets a node pass at a depth within the budget only. -/
theorem depth_of_step {m m' : Machine} {depth : Nat} {node : Option Cursor}
    (hstep : m.step? setting = some m') (hcontrol : m'.control = .enter depth node) :
    depth ≤ setting.options.maxDepth := by
  rcases step_cases hstep with ⟨other, _, -, rfl⟩ | hidle
  · obtain ⟨t, ⟨text, hasked, -⟩ | ⟨fault, hasked, -⟩ | ⟨hasked, hdepth, -⟩⟩ :=
      asked_cases setting other _ m.frames m.session
    · rw [hasked] at hcontrol
      cases hcontrol
    · rw [hasked] at hcontrol
      cases hcontrol
    · rw [hasked] at hcontrol
      obtain ⟨rfl, -⟩ := Control.enter.inj hcontrol
      exact hdepth
  · exact absurd hcontrol (hidle.passes depth node)

/-- Along a run, nodes pass their visits at depths within the budget only. -/
theorem depth_of_after {m : Machine} (h : ∀ depth node, m.control ≠ .enter depth node) {n : Nat}
    {depth : Nat} {node : Option Cursor}
    (hcontrol : (m.after setting n).control = .enter depth node) :
    depth ≤ setting.options.maxDepth := by
  induction n with
  | zero => exact absurd hcontrol (h depth node)
  | succ n ih =>
    -- The last step let the node pass, unless the run was at rest before.
    rw [after_add n 1 m] at hcontrol
    unfold after at hcontrol
    cases hstep : (m.after setting n).step? setting with
    | none => exact ih (by simpa [hstep] using hcontrol)
    | some m' => exact depth_of_step hstep (by simpa [hstep, after] using hcontrol)

/-! ## Whole conversions -/

/-- The state in which the conversion of a document starts. -/
def start (setting : Setting) (root : Option Cursor) : Machine :=
  ⟨.ask 0 root, [], Session.start setting root⟩

/-- What is left of a conversion when its traversal is at rest: a text that comes back is cleaned,
and a fault gives the conversion up. -/
def conversion? (setting : Setting) (root : Option Cursor) (m : Machine) : Option Conversion :=
  let ended (outcome : Except Fault String) : Conversion :=
    match outcome with
    | .ok markdown => conclude setting markdown none m.session
    | .error fault =>
      match giveUp setting root fault m.session with
      | (markdown, reason, s) => conclude setting markdown (some reason) s
  match m.control with
  | .answer text => some (ended (setting.adapter.cleanText text))
  | .fail fault => some (ended (.error fault))
  | _ => none

/-- At rest, the machine has the result of the conversion. -/
theorem conversion?_back (root : Option Cursor) :
    conversion? setting root (back [] (processAt setting 0 root (Session.start setting root))) =
      some (convert setting root) := by
  unfold convert traverse
  cases processAt setting 0 root (Session.start setting root) with
  | mk outcome s =>
    cases outcome with
    | error fault => rfl
    | ok text =>
      simp only [back, conversion?]
      cases setting.adapter.cleanText text with
      | ok markdown => rfl
      | error fault => rfl

theorem step?_back (result : Except Fault String × Session) :
    (back [] result).step? setting = none := by
  obtain ⟨outcome, s⟩ := result
  cases outcome with
  | ok text => rfl
  | error fault => rfl

end Machine

/-- Every conversion ends within its budgets, whatever nodes its rules have converted. Step by step
the traversal comes to rest, and what it leaves is the result of the conversion, unless its budget
of visits is refused before it starts. At every moment of the run the visits are at most one more
than their budget, and every node that passes its visit lies within the depth. -/
theorem convertCounted_terminates (setting : Setting) (root : Option Cursor) :
    (∃ n result, ((Machine.start setting root).after setting n).step? setting = none ∧
      ((Machine.start setting root).after setting n).conversion? setting root = some result ∧
      convertCounted setting root =
        (Arena.checkedLimit (setting.options.maxVisits + 1)).map fun _ => result) ∧
    ∀ n, ((Machine.start setting root).after setting n).session.visits ≤
        setting.options.maxVisits + 1 ∧
      ∀ depth node, ((Machine.start setting root).after setting n).control = .enter depth node →
        depth ≤ setting.options.maxDepth := by
  constructor
  · obtain ⟨n, hn⟩ : Machine.Leads setting (Machine.start setting root)
        (Machine.back [] (processAt setting 0 root (Session.start setting root))) :=
      Machine.leads_ask 0 root [] (Session.start setting root)
    refine ⟨n, convert setting root, ?_, ?_, rfl⟩
    · rw [hn]
      exact Machine.step?_back _
    · rw [hn]
      exact Machine.conversion?_back root
  · intro n
    have hstart : (Machine.start setting root).Bounded setting := .inl (Nat.zero_le _)
    refine ⟨(Machine.bounded_after hstart n).visits_le, fun depth node hcontrol => ?_⟩
    exact Machine.depth_of_after (fun depth node h => by cases h) hcontrol

end Transcript
