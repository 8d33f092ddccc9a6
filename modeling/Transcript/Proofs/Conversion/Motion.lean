import Transcript.Proofs.Conversion.Likeness

/-!
# Motions that are not noticed

A conversion by the built-in rules notices a motion only where a rule looks above its node, or where
a depth changes. If neither happens, the rule of each node, its value and its notes are the same
after the motion; the clock plays no part in them either.

## Main definitions

- `Unnoticed`: a motion after which every rule sees what it saw
- `Note.Portable`: what of a note does not depend on where its node stands

## Main results

- `Unnoticed.indifferent`: every rule finds what it found
- `Unnoticed.plainText`, `Unnoticed.plainNotes`: values and notes
-/

namespace Transcript

open Markup Cursor Render

/-- A motion after which every rule sees what it saw before. Depths are counted from `base`, and from
`base'` after the motion. -/
structure Unnoticed (setting : Setting) (p : Cursor → Prop) (f : Cursor → Cursor)
    (base base' : Nat) : Prop where
  motion : Motion p f
  vista {c : Cursor} : p c → Vista setting.adapter f c
  recovers {c : Cursor} : p c → setting.adapter.RecoversAlike c (f c)
  depth {c : Cursor} : p c → (f c).depthFrom base' = c.depthFrom base

/-- What is taken from a note does not depend on where the node of the note stands. -/
def Note.Portable {α : Type} (taken? : Note → Option α) : Prop :=
  ∀ (fault : Fault) (c d : Cursor) (handler : String) (recovery : Recovery), d.node = c.node →
    taken? (.recovered fault (some d) handler recovery) =
      taken? (.recovered fault (some c) handler recovery)

theorem Note.portable_warning? : Note.Portable Note.warning? :=
  fun _ _ _ _ _ _ => rfl

theorem Note.portable_issue? : Note.Portable Note.issue? := by
  intro fault c d handler recovery hnode
  simp only [Note.issue?, issueOf, issueName, hnode]

namespace Unnoticed

variable {setting : Setting} {p : Cursor → Prop} {f : Cursor → Cursor} {base base' : Nat}
  {c : Cursor}

/-- A motion changes no name, so every rule finds what it found. -/
theorem indifferent (hu : Unnoticed setting p f base base') : Indifferent setting p f base base' where
  likeness := hu.motion.likeness
  vista := hu.vista
  names := keepsNames_of_motion hu.motion
  recovers h _ := hu.recovers h
  depth := hu.depth

variable {clock : Nat → Rat}

/-- What a rule makes of a node, with the same content and with the same answers for the nodes below,
is the same after the motion. -/
theorem run (hu : Unnoticed setting p f base base') (hrules : setting.rules.rules = standardRules)
    (hadapter : setting.adapter.overrides = {}) (h : p c) {rule : Rule}
    (hrule : setting.ruleOf? c = some rule) (content : String) (ask asked : Option Cursor → String)
    (hask : ∀ d ∈ c.descendants, asked (some (f d)) = ask (some d)) :
    (rule.replacement ((setting.withClock clock).sceneAt base' (f c)) content).outcome asked =
        (rule.replacement (setting.sceneAt base c) content).outcome ask ∧
      (rule.replacement ((setting.withClock clock).sceneAt base' (f c)) content).notes asked =
        (rule.replacement (setting.sceneAt base c) content).notes ask := by
  obtain ⟨hmem, haccepts⟩ := accepts_of_ruleOf? hrule
  rw [hu.indifferent.sceneAt h]
  exact run_move hu.motion (hrules ▸ hmem) h haccepts hadapter (hu.vista h) (hu.recovers h) content
    hask

/-- The value of a node moves along with it, whatever the clock says. -/
theorem plainText (hu : Unnoticed setting p f base base')
    (hrules : setting.rules.rules = standardRules) (hadapter : setting.adapter.overrides = {})
    (h : p c) :
    plainText (setting.withClock clock) base' (f c) = plainText setting base c :=
  hu.indifferent.plainText hrules hadapter h

/-! ## Notes -/

variable {α : Type} {taken? : Note → Option α}

theorem ownNotes (hu : Unnoticed setting p f base base')
    (hrules : setting.rules.rules = standardRules) (hadapter : setting.adapter.overrides = {})
    (htaken : Note.Portable taken?) (h : p c) :
    (ownNotes (setting.withClock clock) base' (f c)).filterMap taken? =
      (ownNotes setting base c).filterMap taken? := by
  have hbelow : ∀ d ∈ c.descendants,
      Transcript.plainText (setting.withClock clock) base' (f d) =
        Transcript.plainText setting base d :=
    fun d hd => hu.plainText hrules hadapter (hu.motion.of_mem_descendants h hd)
  have hruleOf : (setting.withClock clock).ruleOf? (f c) = setting.ruleOf? c :=
    hu.indifferent.ruleOf? hrules h
  have hnode : (f c).node = c.node := hu.motion.node h
  cases helement : c.node.isElement with
  | false => rw [(plain_of_leaf _ base' (hnode ▸ helement)).2, (plain_of_leaf _ base helement).2]
  | true =>
    cases hrule : setting.ruleOf? c with
    | none =>
      rw [(plain_of_no_rule base' (hnode ▸ helement) (hruleOf.trans hrule)).2,
        (plain_of_no_rule base helement hrule).2]
    | some rule =>
      have hrun := @run setting p f base base' c clock hu hrules hadapter h rule hrule
        (plainContent setting base c) _ _ (hu.indifferent.plainAnswer h hbelow)
      rw [(plain_of_rule base' (hnode ▸ helement) (hruleOf.trans hrule)).2,
        (plain_of_rule base helement hrule).2, hu.indifferent.plainContent h hbelow, hrun.1, hrun.2,
        List.filterMap_append, List.filterMap_append]
      congr 1
      -- A failure is noted with the node, of which only the content counts.
      split
      · rfl
      · rename_i fault _
        simp only [List.filterMap_cons, htaken fault c (f c) rule.name _ hnode]

/-- What is taken from the notes of a node, and of everything below it, moves along. -/
theorem plainNotes (hu : Unnoticed setting p f base base')
    (hrules : setting.rules.rules = standardRules) (hadapter : setting.adapter.overrides = {})
    (htaken : Note.Portable taken?) (h : p c) :
    (plainNotes (setting.withClock clock) base' (f c)).filterMap taken? =
      (plainNotes setting base c).filterMap taken? := by
  induction c using children_induction with
  | step c ih =>
    rw [plainNotes_eq, plainNotes_eq setting, List.filterMap_append, List.filterMap_append,
      hu.ownNotes hrules hadapter htaken h, hu.motion.children h, List.flatMap_map]
    congr 1
    rw [List.filterMap_flatMap, List.filterMap_flatMap]
    exact List.flatMap_congr fun d hd => ih d hd (hu.motion.child h hd)

end Unnoticed

end Transcript
