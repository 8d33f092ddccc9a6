import Transcript.Proofs.Conversion.AbortLaw
import Transcript.Proofs.Render.Locality

/-!
# Likenesses that convert alike

In a likeness a node reads as it did, but it may stand elsewhere, and its name may be written in
another way. A conversion by the built-in rules comes to the same if every rule finds above its node,
and under the names that it looks for as they are written, what it found before; the clock plays no
part in it. What is noted on the way may name the nodes in another way.

## Main definitions

- `Indifferent`: a likeness in which every rule finds what it found
- `Setting.withClock`: the setting with another clock
- `Conversion.gist`: what a conversion comes to

## Main results

- `Indifferent.ruleOf?`: the rules of nodes
- `Indifferent.plainText`: the values of nodes
- `Indifferent.convertCounted`: a node converts alike
-/

namespace Transcript

open Markup Cursor Render

/-- A likeness in which every rule finds what it found before. Depths are counted from `base`, and
afterwards from `base'`. -/
structure Indifferent (setting : Setting) (p : Cursor → Prop) (f : Cursor → Cursor)
    (base base' : Nat) : Prop where
  likeness : Likeness p f
  vista {c : Cursor} : p c → Vista setting.adapter f c
  names {c : Cursor} : p c → KeepsNames f c
  recovers {c : Cursor} : p c → (isDisplayMath c || isInlineMath c) = true →
    setting.adapter.RecoversAlike c (f c)
  depth {c : Cursor} : p c → (f c).depthFrom base' = c.depthFrom base

/-- The setting with another clock. -/
def Setting.withClock (setting : Setting) (clock : Nat → Rat) : Setting :=
  { setting with clock }

/-- What a conversion comes to: the text, why it was given up, and how many nodes were visited. -/
def Conversion.gist (result : Conversion) : String × Option String × Nat :=
  (result.markdown, result.abortReason, result.visits)

theorem GivenUp.gist_eq {setting : Setting} {c : Cursor} {fault : Fault} {counted : Nat}
    {result : Conversion} (h : GivenUp setting c fault counted result) :
    result.gist = ("<!-- Parser " ++ fault.text ++ " -->\n\n" ++ c.node.textContent,
      some fault.text, counted) := by
  rw [Conversion.gist, h.markdown, h.reason, h.visits]

theorem RuleTable.findIn_of_accepts {c c' : Cursor} {rules : List Rule}
    (h : ∀ rule ∈ rules, rule.filter.accepts c' = rule.filter.accepts c) :
    findIn c' rules = findIn c rules := by
  induction rules with
  | nil => rfl
  | cons rule rest ih =>
    have hrest := ih fun other hother => h other (List.mem_cons_of_mem _ hother)
    rw [findIn, h rule List.mem_cons_self, findIn, hrest]

namespace Indifferent

variable {setting : Setting} {p : Cursor → Prop} {f : Cursor → Cursor} {base base' : Nat}
  {c : Cursor}

/-! ## Rules -/

theorem ruleOf? (hi : Indifferent setting p f base base')
    (hrules : setting.rules.rules = standardRules) (h : p c) :
    setting.ruleOf? (f c) = setting.ruleOf? c := by
  have hfind : setting.rules.find (f c) = setting.rules.find c := by
    rw [RuleTable.find, RuleTable.find, hrules]
    exact RuleTable.findIn_of_accepts fun rule hrule =>
      accepts_move hi.likeness h (hi.vista h) (hi.names h) hrule
  rw [Setting.ruleOf?, hfind, Setting.ruleOf?]

theorem sceneAt (hi : Indifferent setting p f base base') (h : p c) (clock : Nat → Rat) :
    (setting.withClock clock).sceneAt base' (f c) = (setting.sceneAt base c).move f := by
  simp only [Setting.sceneAt, hi.depth h]
  rfl

variable {clock : Nat → Rat}

/-- What a rule makes of a node, with the same content and with the same answers for the nodes below,
is the same. -/
theorem outcome (hi : Indifferent setting p f base base')
    (hrules : setting.rules.rules = standardRules) (hadapter : setting.adapter.overrides = {})
    (h : p c) {rule : Rule} (hrule : setting.ruleOf? c = some rule) (content : String)
    (ask asked : Option Cursor → String)
    (hask : ∀ d ∈ c.descendants, asked (some (f d)) = ask (some d)) :
    (rule.replacement ((setting.withClock clock).sceneAt base' (f c)) content).outcome asked =
      (rule.replacement (setting.sceneAt base c) content).outcome ask := by
  obtain ⟨hmem, haccepts⟩ := accepts_of_ruleOf? hrule
  rw [hi.sceneAt h]
  exact outcome_move hi.likeness (hrules ▸ hmem) h haccepts hadapter (hi.vista h) (hi.names h)
    (hi.recovers h) content hask

/-! ## Values -/

theorem plainContent (hi : Indifferent setting p f base base') (h : p c)
    (hbelow : ∀ d ∈ c.descendants,
      plainText (setting.withClock clock) base' (f d) = plainText setting base d) :
    plainContent (setting.withClock clock) base' (f c) = plainContent setting base c := by
  rw [Transcript.plainContent, hi.likeness.children h, List.map_map, Transcript.plainContent]
  congr 1
  exact List.map_congr_left fun d hd => hbelow d (mem_descendants_of_mem_children hd)

theorem plainAnswer (hi : Indifferent setting p f base base') (h : p c)
    (hbelow : ∀ d ∈ c.descendants,
      plainText (setting.withClock clock) base' (f d) = plainText setting base d) :
    ∀ d ∈ c.descendants,
      plainAnswer (setting.withClock clock) base' (f c) (some (f d)) =
        plainAnswer setting base c (some d) := by
  intro d hd
  rw [plainAnswer_of_mem hd, plainAnswer_of_mem (hi.likeness.mem_descendants h hd), hbelow d hd]

/-- The value of a node is the same, whatever the clock says. -/
theorem plainText (hi : Indifferent setting p f base base')
    (hrules : setting.rules.rules = standardRules) (hadapter : setting.adapter.overrides = {})
    (h : p c) :
    plainText (setting.withClock clock) base' (f c) = plainText setting base c := by
  induction c using descendants_induction with
  | step c ih =>
    -- The rule is given the same content and the same answers, by induction on what lies below.
    have hbelow : ∀ d ∈ c.descendants,
        Transcript.plainText (setting.withClock clock) base' (f d) =
          Transcript.plainText setting base d :=
      fun d hd => ih d hd (hi.likeness.of_mem_descendants h hd)
    have hcontent := hi.plainContent h hbelow
    have hruleOf : (setting.withClock clock).ruleOf? (f c) = setting.ruleOf? c :=
      hi.ruleOf? hrules h
    have hreads := hi.likeness.reads h
    cases helement : c.node.isElement with
    | false =>
      rw [(plain_of_leaf _ base' (hreads.isElement.trans helement)).1,
        (plain_of_leaf _ base helement).1, hreads.textContent]
    | true =>
      have helement' : (f c).node.isElement = true := hreads.isElement.trans helement
      cases hrule : setting.ruleOf? c with
      | none =>
        rw [(plain_of_no_rule base' helement' (hruleOf.trans hrule)).1,
          (plain_of_no_rule base helement hrule).1, hcontent]
      | some rule =>
        have houtcome := @outcome setting p f base base' c clock hi hrules hadapter h rule hrule
          (Transcript.plainContent setting base c) _ _ (hi.plainAnswer h hbelow)
        rw [(plain_of_rule base' helement' (hruleOf.trans hrule)).1,
          (plain_of_rule base helement hrule).1, hcontent, houtcome]

/-! ## Budgets -/

/-- The nodes are visited at the same depths. -/
theorem firstViolation? (hi : Indifferent setting p f base base') {cs : List Cursor}
    (h : ∀ d ∈ cs, p d) (position : Nat) :
    firstViolation? setting base' position (cs.map f) =
      firstViolation? setting base position cs := by
  induction cs generalizing position with
  | nil => rfl
  | cons c rest ih =>
    have hrest := ih (fun d hd => h d (List.mem_cons_of_mem _ hd)) (position + 1)
    rw [List.map_cons, Transcript.firstViolation?, hi.depth (h c List.mem_cons_self), hrest,
      Transcript.firstViolation?]

/-! ## Conversions -/

theorem violation? (hi : Indifferent setting (· ∈ c.subtree) f c.above.length (f c).above.length) :
    violation? setting (f c) = violation? setting c := by
  have hfirst := hi.firstViolation? (fun d hd => hd) 1
  rw [← hi.likeness.subtree (self_mem_subtree c)] at hfirst
  exact hfirst

/-- Where every rule finds what it found, a node converts alike. -/
theorem convertCounted
    (hi : Indifferent setting (· ∈ c.subtree) f c.above.length (f c).above.length)
    (hrules : setting.rules.rules = standardRules) (hadapter : setting.adapter.overrides = {}) :
    (convertCounted setting (some (f c))).map Conversion.gist =
      (convertCounted setting (some c)).map Conversion.gist := by
  have htame : ∀ root : Cursor, ∀ d ∈ root.subtree, Tame setting root.above.length d :=
    fun root d _ => tame_of_standard hrules hadapter _ d
  have hmoved := hi.violation?
  rw [convertCounted_eq, convertCounted_eq]
  split
  · refine congrArg Except.ok ?_
    cases hviolation : Transcript.violation? setting c with
    -- Both are given up at the same node, and flatten the same text.
    | some v =>
      rw [(convert_of_violation hrules hadapter hviolation).gist_eq,
        (convert_of_violation hrules hadapter (hmoved.trans hviolation)).gist_eq,
        (hi.likeness.reads (self_mem_subtree c)).textContent]
    | none =>
      obtain ⟨hdone, hvisits, -⟩ := convert_of_no_violation hrules hadapter hviolation
      obtain ⟨hdone', hvisits', -⟩ :=
        convert_of_no_violation hrules hadapter (hmoved.trans hviolation)
      obtain ⟨markdown, s, hclean, hconvert, -⟩ := converted_of_not_aborted (htame c) hdone
      obtain ⟨markdown', s', hclean', hconvert', -⟩ :=
        converted_of_not_aborted (htame (f c)) hdone'
      -- Neither is given up, so both come to their plain values.
      have hvalue : plainDocument setting (f c) = plainDocument setting c :=
        @plainText _ _ _ _ _ _ setting.clock hi hrules hadapter (self_mem_subtree c)
      obtain rfl : markdown' = markdown := by
        rw [hvalue, hclean] at hclean'
        exact (Except.ok.inj hclean').symm
      have hlength : (f c).subtree.length = c.subtree.length := by
        rw [hi.likeness.subtree (self_mem_subtree c), List.length_map]
      rw [Conversion.gist, Conversion.gist, hdone, hdone', hvisits, hvisits', hlength, hconvert,
        hconvert']
      rfl
  · rfl

end Indifferent

end Transcript
