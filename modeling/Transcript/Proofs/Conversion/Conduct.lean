import Transcript.Proofs.Conversion.Findings

/-!
# The conduct of rules

What the program of a rule comes to depends on the texts it is given for the nodes it asks for. With
these answers fixed, a program has an outcome and leaves notes, without any session. Its *conduct*
says which nodes it may ask for, what it may report and what it may raise, whatever it is answered.

## Main definitions

- `Rendering.outcome`, `Rendering.notes`: a program with given answers
- `Conduct`, `Rendering.Keeps`: what a program may do
- `Rendering.Yields`: what holds of every result of a program

## Main results

- `Rendering.outcome_andThen`, `Rendering.keeps_andThen`: programs in sequence
- `Rendering.raises_of_outcome`, `Rendering.note_of_keeps`: what a kept conduct says of a run
-/

namespace Transcript

open Markup

/-- What a program may do. -/
structure Conduct where
  /-- Which nodes it may have converted. -/
  asks : Option Cursor → Prop
  /-- What it may report. -/
  reports : Diagnostic → Prop
  /-- Which faults it may end with. -/
  raises : Fault → Prop

namespace Rendering

variable {α β : Type}

/-! ## Given answers -/

/-- The outcome of a program when nodes are answered by `ask`. Fresh trees are all the same to a
program, so they get no numbers here. -/
def outcome (ask : Option Cursor → String) : Rendering α → Except Fault α
  | done value => .ok value
  | raise fault => .error fault
  | report _ next => next.outcome ask
  | warn _ next => next.outcome ask
  | process node next => (next (ask node)).outcome ask
  | plant tree next => (next (Cursor.root 0 tree)).outcome ask

/-- The notes that a program leaves when nodes are answered by `ask`. -/
def notes (ask : Option Cursor → String) : Rendering α → List Note
  | done _ => []
  | raise _ => []
  | report diagnostic next => .reported diagnostic :: next.notes ask
  | warn message next => .warned message :: next.notes ask
  | process node next => (next (ask node)).notes ask
  | plant tree next => (next (Cursor.root 0 tree)).notes ask

/-- A program keeps a conduct, whatever it is answered. The number of a fresh tree is nothing it
looks at. -/
def Keeps (may : Conduct) : Rendering α → Prop
  | done _ => True
  | raise fault => may.raises fault
  | report diagnostic next => may.reports diagnostic ∧ next.Keeps may
  | warn _ next => next.Keeps may
  | process node next => may.asks node ∧ ∀ text, (next text).Keeps may
  | plant tree next =>
    (∀ number, next (Cursor.root number tree) = next (Cursor.root 0 tree)) ∧
      (next (Cursor.root 0 tree)).Keeps may

/-! ## Programs in sequence -/

theorem outcome_andThen (ask : Option Cursor → String) (program : Rendering α)
    (f : α → Rendering β) :
    (program.andThen f).outcome ask =
      match program.outcome ask with
      | .ok value => (f value).outcome ask
      | .error fault => .error fault := by
  induction program with
  | done value => rfl
  | raise fault => rfl
  | report diagnostic next ih => exact ih
  | warn message next ih => exact ih
  | process node next ih => exact ih (ask node)
  | plant tree next ih => exact ih (Cursor.root 0 tree)

theorem keeps_andThen {may : Conduct} {program : Rendering α} {f : α → Rendering β}
    (hprogram : program.Keeps may) (hf : ∀ value, (f value).Keeps may) :
    (program.andThen f).Keeps may := by
  induction program with
  | done value => exact hf value
  | raise fault => exact hprogram
  | report diagnostic next ih => exact ⟨hprogram.1, ih hprogram.2⟩
  | warn message next ih => exact ih hprogram
  | process node next ih => exact ⟨hprogram.1, fun text => ih text (hprogram.2 text)⟩
  -- A program that treats fresh trees alike still does so with another one behind it.
  | plant tree next ih =>
    refine ⟨fun number => ?_, ih _ hprogram.2⟩
    exact congrArg (andThen · f) (hprogram.1 number)

theorem keeps_mono {may might : Conduct} {program : Rendering α} (h : program.Keeps may)
    (hasks : ∀ node, may.asks node → might.asks node)
    (hreports : ∀ diagnostic, may.reports diagnostic → might.reports diagnostic)
    (hraises : ∀ fault, may.raises fault → might.raises fault) : program.Keeps might := by
  induction program with
  | done value => trivial
  | raise fault => exact hraises fault h
  | report diagnostic next ih => exact ⟨hreports diagnostic h.1, ih h.2⟩
  | warn message next ih => exact ih h
  | process node next ih => exact ⟨hasks node h.1, fun text => ih text (h.2 text)⟩
  | plant tree next ih => exact ⟨h.1, ih _ h.2⟩

theorem keeps_pure (may : Conduct) (value : α) : (pure value : Rendering α).Keeps may :=
  trivial

theorem keeps_bind {may : Conduct} {program : Rendering α} {f : α → Rendering β}
    (hprogram : program.Keeps may) (hf : ∀ value, (f value).Keeps may) :
    (program >>= f).Keeps may :=
  keeps_andThen hprogram hf

theorem keeps_ite {may : Conduct} {p : Prop} [Decidable p] {first second : Rendering α}
    (hfirst : first.Keeps may) (hsecond : second.Keeps may) :
    (if p then first else second).Keeps may := by
  split
  · exact hfirst
  · exact hsecond

theorem keeps_warning (may : Conduct) (message : String) : (warning message).Keeps may :=
  trivial

theorem outcome_bind (ask : Option Cursor → String) (program : Rendering α)
    (f : α → Rendering β) :
    (program >>= f).outcome ask =
      match program.outcome ask with
      | .ok value => (f value).outcome ask
      | .error fault => .error fault :=
  outcome_andThen ask program f

@[simp] theorem outcome_pure (ask : Option Cursor → String) (value : α) :
    (pure value : Rendering α).outcome ask = .ok value := rfl

/-! ## Computations -/

@[simp] theorem outcome_ofExcept (ask : Option Cursor → String) (e : Except Fault α) :
    (ofExcept e).outcome ask = e := by
  cases e <;> rfl

@[simp] theorem outcome_ofTraced (ask : Option Cursor → String) (t : Traced α) :
    (ofTraced t).outcome ask = t.outcome := by
  obtain ⟨outcome, trace⟩ := t
  induction trace with
  | nil => exact outcome_ofExcept ask outcome
  | cons diagnostic rest ih => exact ih

theorem keeps_ofExcept {may : Conduct} {e : Except Fault α}
    (h : ∀ fault, e = .error fault → may.raises fault) : (ofExcept e).Keeps may := by
  cases e with
  | ok value => trivial
  | error fault => exact h fault rfl

theorem keeps_ofTraced {may : Conduct} {t : Traced α}
    (htrace : ∀ diagnostic ∈ t.trace, may.reports diagnostic)
    (houtcome : ∀ fault, t.outcome = .error fault → may.raises fault) :
    (ofTraced t).Keeps may := by
  obtain ⟨outcome, trace⟩ := t
  induction trace with
  | nil => exact keeps_ofExcept houtcome
  | cons diagnostic rest ih =>
    exact ⟨htrace diagnostic (by simp), ih (fun d hd => htrace d (by simp [hd])) houtcome⟩

theorem keeps_convertedAll {may : Conduct} {cs : List Cursor} (h : ∀ c ∈ cs, may.asks (some c)) :
    (convertedAll cs).Keeps may := by
  induction cs with
  | nil => trivial
  | cons c rest ih =>
    refine ⟨h c (by simp), fun first => ?_⟩
    have hrest : (convertedAll rest).Keeps may := ih fun d hd => h d (by simp [hd])
    exact keeps_andThen hrest fun others => trivial

theorem outcome_convertedAll (ask : Option Cursor → String) (cs : List Cursor) :
    (convertedAll cs).outcome ask = .ok (String.join (cs.map fun c => ask (some c))) := by
  induction cs with
  | nil => rfl
  -- The first answer is put in front of the others.
  | cons c rest ih =>
    simp only [convertedAll, outcome, outcome_andThen, ih, List.map_cons]
    simp [String.join_cons]

/-! ## Results -/

/-- Whatever a program comes to when nodes are answered by `ask` satisfies `Q`. It may fail. -/
def Yields (ask : Option Cursor → String) (Q : α → Prop) (program : Rendering α) : Prop :=
  ∀ value, program.outcome ask = .ok value → Q value

section

variable {ask : Option Cursor → String} {P : α → Prop} {Q : β → Prop}

theorem yields_pure {value : α} (h : P value) : (pure value : Rendering α).Yields ask P := by
  intro other hother
  obtain rfl : value = other := by simpa using hother
  exact h

theorem yields_bind {program : Rendering α} {f : α → Rendering β} (hprogram : program.Yields ask P)
    (hf : ∀ value, P value → (f value).Yields ask Q) : (program >>= f).Yields ask Q := by
  intro value hvalue
  rw [outcome_bind] at hvalue
  -- The second program only runs on what the first one came to.
  cases hfirst : program.outcome ask with
  | ok first =>
    rw [hfirst] at hvalue
    exact hf first (hprogram first hfirst) value hvalue
  | error fault =>
    rw [hfirst] at hvalue
    cases hvalue

theorem yields_ofExcept {e : Except Fault α} (h : ∀ value, e = .ok value → P value) :
    (ofExcept e).Yields ask P := by
  intro value hvalue
  rw [outcome_ofExcept] at hvalue
  exact h value hvalue

theorem yields_converted (node : Option Cursor) :
    (converted node).Yields ask fun text => text = ask node := by
  intro text htext
  exact (Except.ok.inj htext).symm

theorem yields_convertedAll (cs : List Cursor) :
    (convertedAll cs).Yields ask fun text => text = String.join (cs.map fun c => ask (some c)) := by
  intro text htext
  rw [outcome_convertedAll] at htext
  exact (Except.ok.inj htext).symm

end

/-! ## Runs -/

/-- What a program fails with is what it may raise. -/
theorem raises_of_outcome {may : Conduct} {ask : Option Cursor → String} {program : Rendering α}
    {fault : Fault} (h : program.Keeps may) (hfault : program.outcome ask = .error fault) :
    may.raises fault := by
  induction program with
  | done value => simp [outcome] at hfault
  | raise other =>
    obtain rfl : other = fault := by simpa [outcome] using hfault
    exact h
  | report diagnostic next ih => exact ih h.2 hfault
  | warn message next ih => exact ih h hfault
  | process node next ih => exact ih _ (h.2 _) hfault
  | plant tree next ih => exact ih _ h.2 hfault

/-- A program leaves warnings, and reports what it may report. -/
theorem note_of_keeps {may : Conduct} {ask : Option Cursor → String} {program : Rendering α}
    {note : Note} (h : program.Keeps may) (hnote : note ∈ program.notes ask) :
    (∃ message, note = .warned message) ∨
      ∃ diagnostic, note = .reported diagnostic ∧ may.reports diagnostic := by
  induction program with
  | done value => simp [notes] at hnote
  | raise fault => simp [notes] at hnote
  | report diagnostic next ih =>
    rcases List.mem_cons.mp hnote with rfl | hnext
    · exact .inr ⟨diagnostic, rfl, h.1⟩
    · exact ih h.2 hnext
  | warn message next ih =>
    rcases List.mem_cons.mp hnote with rfl | hnext
    · exact .inl ⟨message, rfl⟩
    · exact ih h hnext
  | process node next ih => exact ih _ (h.2 _) hnote
  | plant tree next ih => exact ih _ h.2 hnote

end Rendering

end Transcript
