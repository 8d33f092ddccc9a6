import Transcript.Proofs.Conversion.Budget

/-!
# Invariants of sessions

What every step of a conversion preserves, every conversion of a node preserves, whatever filters
and rules do. The induction over the traversal is made once, for any invariant. An invariant may
depend on what the rules of the table do; then the programs of rules that are found take the place
of their steps.

## Main definitions

- `Session.Upheld`: a property that neither the traversal nor the rules it finds break
- `Session.Invariant`: a property that no step breaks
- `Session.Reachable`: the sessions that steps lead to from the start

## Main results

- `Session.Upheld.process`, `Session.Invariant.process`: the conversion of a node breaks no invariant
- `Session.Reachable.of_invariant`: an invariant of the start holds wherever steps lead
- `Session.Reachable.sound`: sessions are sound wherever steps lead
-/

namespace Transcript

open Markup

namespace Session

/-- A property that neither a step of the traversal breaks nor a rule that it finds, unless the
conversion of a node that the rule asks for does. -/
structure Upheld (setting : Setting) (P : Session → Prop) : Prop where
  visit : ∀ depth {s}, P s → P (visit setting depth s).2
  ask : ∀ node {s}, P s → P (remembered? node s).2
  resolve : ∀ c {s}, P s → P (resolve setting c s).2
  remember : ∀ node text {s}, P s → P (remember node text s)
  recover : ∀ fault node handler recovery {s}, P s →
    P (recover setting fault node handler recovery s)
  rule : ∀ {descend : Converter}, (∀ node s, P s → P (descend node s).2) →
    ∀ {c : Cursor} {rule : Rule} {s : Session}, P s →
      (Transcript.resolve setting c s).1 = .ok (some rule) → ∀ depth content {t : Session}, P t →
        P ((rule.replacement ⟨c, depth, setting.adapter, setting.options⟩ content).run descend t).2

/-- A property that no step of a conversion breaks. -/
structure Invariant (setting : Setting) (P : Session → Prop) : Prop where
  visit : ∀ depth {s}, P s → P (visit setting depth s).2
  ask : ∀ node {s}, P s → P (remembered? node s).2
  resolve : ∀ c {s}, P s → P (resolve setting c s).2
  remember : ∀ node text {s}, P s → P (remember node text s)
  report : ∀ diagnostic {s}, P s → P (s.report diagnostic)
  warn : ∀ message {s}, P s → P (s.warn message)
  recover : ∀ fault node handler recovery {s}, P s →
    P (recover setting fault node handler recovery s)
  plant : ∀ {s}, P s → P { s with trees := s.trees + 1 }

namespace Upheld

variable {setting : Setting} {P : Session → Prop}

section Descend

variable {descend : Converter}

theorem convertAll (hdescend : ∀ node s, P s → P (descend node s).2) (cs : List Cursor)
    {s : Session} (hs : P s) : P (convertAll descend cs s).2 := by
  induction cs generalizing s with
  | nil => exact hs
  | cons c rest ih =>
    have hfirst := hdescend (some c) s hs
    simp only [Transcript.convertAll]
    cases hresult : descend (some c) s with
    | mk outcome t =>
      rw [hresult] at hfirst
      cases outcome with
      | error fault => exact hfirst
      | ok first =>
        have hrest := ih hfirst
        dsimp only
        cases hothers : Transcript.convertAll descend rest t with
        | mk outcome u =>
          rw [hothers] at hrest
          cases outcome with
          | error fault => exact hrest
          | ok others => exact hrest

theorem guarded (hP : Upheld setting P) (node : Option Cursor) (handler : String)
    (fallback : Unit → String) {action : Action String} {s : Session} (h : P (action s).2) :
    P (guarded setting node handler fallback action s).2 := by
  unfold Transcript.guarded
  cases haction : action s with
  | mk outcome t =>
    rw [haction] at h
    cases outcome with
    | ok text => exact h
    | error fault =>
      cases habort : fault.isAbort with
      | true => simpa [habort] using h
      | false => simpa [habort] using hP.recover fault node handler fault.kind.recovery h

theorem convertElement (hP : Upheld setting P)
    (hdescend : ∀ node s, P s → P (descend node s).2) (depth : Nat) (c : Cursor) {s : Session}
    (hs : P s) : P (convertElement setting descend depth c s).2 := by
  have hresolve := hP.resolve c hs
  unfold Transcript.convertElement
  cases hfound : Transcript.resolve setting c s with
  | mk outcome t =>
    rw [hfound] at hresolve
    cases outcome with
    | error fault => exact hresolve
    | ok rule =>
      have hchildren := convertAll hdescend c.children hresolve
      dsimp only
      cases hall : Transcript.convertAll descend c.children t with
      | mk outcome u =>
        rw [hall] at hchildren
        cases outcome with
        | error fault => exact hchildren
        | ok content =>
          cases rule with
          | none => exact hchildren
          | some rule =>
            have hfound : (Transcript.resolve setting c s).1 = .ok (some rule) := by rw [hfound]
            exact hP.guarded (some c) rule.name _
              (hP.rule hdescend hs hfound depth content hchildren)

theorem convertNode (hP : Upheld setting P)
    (hdescend : ∀ node s, P s → P (descend node s).2) (depth : Nat) (node : Option Cursor)
    {s : Session} (hs : P s) : P (convertNode setting descend depth node s).2 := by
  cases node with
  | none => exact hs
  | some c =>
    have helement := hP.convertElement hdescend depth c hs
    obtain ⟨tree, node, above⟩ := c
    cases node with
    | leaf kind text => exact hs
    | element name attributes children => exact helement
    | document children => exact helement

theorem convertFresh (hP : Upheld setting P)
    (hdescend : ∀ node s, P s → P (descend node s).2) (depth : Nat) (node : Option Cursor)
    {s : Session} (hs : P s) : P (convertFresh setting descend depth node s).2 := by
  have hvisit := hP.visit depth hs
  unfold Transcript.convertFresh
  cases hvisited : Transcript.visit setting depth s with
  | mk outcome t =>
    rw [hvisited] at hvisit
    cases outcome with
    | error fault => exact hvisit
    | ok done =>
      have hguarded := hP.guarded node "node" (fun _ => textOf node)
        (hP.convertNode hdescend depth node hvisit)
      dsimp only
      cases hresult : Transcript.guarded setting node "node" (fun _ => textOf node)
          (Transcript.convertNode setting descend depth node) t with
      | mk outcome u =>
        rw [hresult] at hguarded
        cases outcome with
        | error fault => exact hguarded
        | ok text => exact hP.remember node text hguarded

end Descend

/-- The conversion of a node breaks no invariant. -/
theorem process (hP : Upheld setting P) (room depth : Nat) (node : Option Cursor)
    {s : Session} (hs : P s) : P (process setting room depth node s).2 := by
  -- Induction on the levels still open, for all depths, nodes and sessions at once.
  induction room generalizing depth node s with
  | zero =>
    have hask := hP.ask node hs
    unfold Transcript.process
    cases hremembered : remembered? node s with
    | mk text t =>
      rw [hremembered] at hask
      cases text with
      | some text => exact hask
      | none => exact hask
  | succ room ih =>
    have hask := hP.ask node hs
    unfold Transcript.process
    cases hremembered : remembered? node s with
    | mk text t =>
      rw [hremembered] at hask
      cases text with
      | some text => exact hask
      | none => exact hP.convertFresh (fun other u hu => ih (depth + 1) other hu) depth node hask

end Upheld

namespace Invariant

variable {setting : Setting} {P : Session → Prop}

theorem run {descend : Converter} {α : Type} (hP : Invariant setting P)
    (hdescend : ∀ node s, P s → P (descend node s).2) (program : Rendering α) {s : Session}
    (hs : P s) : P (program.run descend s).2 := by
  induction program generalizing s with
  | done value => exact hs
  | raise fault => exact hs
  | report diagnostic next ih => exact ih (hP.report diagnostic hs)
  | warn message next ih => exact ih (hP.warn message hs)
  -- The conversion of the node breaks nothing, whether it comes to a text or fails.
  | process node next ih =>
    have hnode := hdescend node s hs
    simp only [Rendering.run]
    cases hresult : descend node s with
    | mk outcome t =>
      rw [hresult] at hnode
      cases outcome with
      | ok text => exact ih text hnode
      | error fault => exact hnode
  | plant tree next ih => exact ih _ (hP.plant hs)

/-- What no step breaks, no rule breaks. -/
theorem upheld (hP : Invariant setting P) : Upheld setting P where
  visit := hP.visit
  ask := hP.ask
  resolve := hP.resolve
  remember := hP.remember
  recover := hP.recover
  rule hdescend _ _ _ _ _ _ _ _ ht := hP.run hdescend _ ht

/-- The conversion of a node breaks no invariant. -/
theorem process (hP : Invariant setting P) (room depth : Nat) (node : Option Cursor)
    {s : Session} (hs : P s) : P (process setting room depth node s).2 :=
  hP.upheld.process room depth node hs

end Invariant

/-! ## Reachable sessions -/

/-- The sessions that steps of a conversion lead to, in whatever order they are made. -/
inductive Reachable (setting : Setting) (root : Option Cursor) : Session → Prop
  | start : Reachable setting root (start setting root)
  | visit (depth : Nat) {s : Session} (h : Reachable setting root s) :
    Reachable setting root (visit setting depth s).2
  | ask (node : Option Cursor) {s : Session} (h : Reachable setting root s) :
    Reachable setting root (remembered? node s).2
  | resolve (c : Cursor) {s : Session} (h : Reachable setting root s) :
    Reachable setting root (resolve setting c s).2
  | remember (node : Option Cursor) (text : String) {s : Session}
    (h : Reachable setting root s) : Reachable setting root (remember node text s)
  | report (diagnostic : Diagnostic) {s : Session} (h : Reachable setting root s) :
    Reachable setting root (s.report diagnostic)
  | warn (message : String) {s : Session} (h : Reachable setting root s) :
    Reachable setting root (s.warn message)
  | recover (fault : Fault) (node : Option Cursor) (handler : String) (recovery : Recovery)
    {s : Session} (h : Reachable setting root s) :
    Reachable setting root (recover setting fault node handler recovery s)
  | plant {s : Session} (h : Reachable setting root s) :
    Reachable setting root { s with trees := s.trees + 1 }

namespace Reachable

variable {setting : Setting} {root : Option Cursor} {s : Session}

/-- Steps lead to nothing but reachable sessions, and so do conversions of nodes. -/
theorem invariant (setting : Setting) (root : Option Cursor) :
    Invariant setting (Reachable setting root) where
  visit depth _ h := .visit depth h
  ask node _ h := .ask node h
  resolve c _ h := .resolve c h
  remember node text _ h := .remember node text h
  report diagnostic _ h := .report diagnostic h
  warn message _ h := .warn message h
  recover fault node handler recovery _ h := .recover fault node handler recovery h
  plant h := .plant h

/-- An invariant that holds at the start holds wherever steps lead. -/
theorem of_invariant {P : Session → Prop} (h : Reachable setting root s)
    (hP : Invariant setting P) (hstart : P (Session.start setting root)) : P s := by
  induction h with
  | start => exact hstart
  | visit depth _ ih => exact hP.visit depth ih
  | ask node _ ih => exact hP.ask node ih
  | resolve c _ ih => exact hP.resolve c ih
  | remember node text _ ih => exact hP.remember node text ih
  | report diagnostic _ ih => exact hP.report diagnostic ih
  | warn message _ ih => exact hP.warn message ih
  | recover fault node handler recovery _ ih => exact hP.recover fault node handler recovery ih
  | plant _ ih => exact hP.plant ih

end Reachable

theorem invariant_sound (setting : Setting) : Invariant setting Sound where
  visit depth {s} hs := by
    obtain ⟨readings, hvisit | ⟨fault, -, hvisit⟩ | ⟨fault, -, hvisit⟩⟩ :=
      visit_cases setting depth s
    · rw [hvisit]
      exact ⟨hs.arena, hs.resolutions, hs.texts⟩
    · rw [hvisit]
      exact ⟨hs.arena, hs.resolutions, hs.texts⟩
    · rw [hvisit]
      exact hs
  ask node {s} hs := by
    rw [remembered?_eq hs]
    exact sound_number hs _
  resolve c {s} hs := by
    have hnumber := sound_number hs (some c.place)
    rw [resolve_eq hs]
    cases s.ruleAt? (some c.place) with
    | some rule => exact hnumber
    | none =>
      cases setting.rules.find c with
      | error fault => exact hnumber
      | ok rule => exact sound_keepRule hnumber _ _
  remember node text _ hs := sound_remember hs node text
  report _ _ hs := ⟨hs.arena, hs.resolutions, hs.texts⟩
  warn _ _ hs := ⟨hs.arena, hs.resolutions, hs.texts⟩
  recover fault node handler recovery s hs :=
    (sameMemory_recover setting fault node handler recovery s).sound hs
  plant hs := ⟨hs.arena, hs.resolutions, hs.texts⟩

/-- Sessions are sound wherever steps lead. -/
theorem Reachable.sound {setting : Setting} {root : Option Cursor} {s : Session}
    (h : Reachable setting root s) : s.Sound :=
  h.of_invariant (invariant_sound setting) (sound_start setting root)

end Session

end Transcript
