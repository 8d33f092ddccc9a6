import Transcript.Proofs.Conversion.Motion
import Transcript.Proofs.Platform.Locality

/-!
# Values that move along

No built-in rule sees the siblings of the message that its node belongs to: up to the document
everything above the node moves along with it. So the move is not noticed, and the value of a node
and its notes are the same in whatever document and among whatever siblings the message stands.

## Main results

- `unnoticed_relocate`: the move to another slot is not noticed
- `ruleOf?_document`: no rule applies to a document
- `plainText_relocate`, `plainNotes_relocate`: values and notes move along
-/

namespace Transcript

open Markup Cursor Render

variable {setting : Setting} {old new : Slot} {c d : Cursor}

/-! ## What stands above -/

namespace Render

theorem listLevel_relocate (h : c.Under old) : listLevel (c.relocate new) = listLevel c := by
  rw [listLevel, elementAncestors_relocate h, List.countP_map, listLevel]
  refine List.countP_congr fun a ha => ?_
  rw [Function.comp_apply, node_relocate (under_of_mem_elementAncestors h ha)]

theorem isSome_findAncestor?_relocate (h : c.Under old) (test : Node → Bool) :
    ((c.relocate new).findAncestor? fun a => test a.node).isSome =
      (c.findAncestor? fun a => test a.node).isSome := by
  rw [findAncestor?_relocate h fun a ha => by rw [node_relocate ha], Option.isSome_map]

end Render

/-- Everything that a rule looks for above its node moves along. -/
theorem unnoticed_relocate (hadapter : setting.adapter.IsLocal) (old new : Slot) (base : Nat) :
    Unnoticed setting (Under old) (relocate new) base base where
  motion := motion_relocate old new
  vista h := {
    level := fun _ => listLevel_relocate h
    math := fun _ => isSome_findAncestor?_relocate h isMathMarker
    wrapper := fun _ => isSome_findAncestor?_relocate h isCodeWrapper
    language := fun _ _ hcode => Adapter.codeLanguage_relocate hadapter
      ((motion_relocate old new).of_mem_subtree h (mem_subtree_of_codeElement? hcode)) }
  recovers h := (Adapter.seesAlike_relocate hadapter h new).recovers hadapter.overrides
  depth h := by rw [depthFrom, length_above_relocate h, depthFrom]

/-! ## Documents -/

section

variable (tree : Nat) (nodes : List Node)

theorem hasClass_document (names : List String) : (Node.document nodes).hasClass names = false := by
  simp [Node.hasClass, Node.classes, Node.attribute?, Node.attributes]

theorem tagName_document : (Node.document nodes).tagName = documentName := by
  show Text.lower documentName = documentName
  decide

/-- A document satisfies none of the tests: it has no class, and the name of no element. -/
theorem test_document {test : Cursor → Bool} (h : test ∈ standardTests) :
    test (root tree (.document nodes)) = false := by
  have hpre : ((Node.document nodes).tagName == "pre") = false := by
    rw [tagName_document]
    decide
  have hcode : ((Node.document nodes).tagName == "code") = false := by
    rw [tagName_document]
    decide
  simp only [standardTests, List.mem_cons, List.not_mem_nil, or_false] at h
  rcases h with rfl | rfl | rfl | rfl
  · simp [Render.isDisplayMath, root, hasClass_document]
  · simp [Render.isInlineMath, root, hasClass_document]
  · simp [Render.isCodeBlock, root, hpre, hasClass_document]
  · simp [Render.isInlineCode, root, hcode]

/-- No rule applies to a document. -/
theorem ruleOf?_document (hrules : setting.rules.rules = standardRules) :
    setting.ruleOf? (root tree (.document nodes)) = none := by
  have hnone : ∀ rule ∈ standardRules,
      rule.filter.accepts (root tree (.document nodes)) = .ok false := by
    intro rule hrule
    rcases filter_of_mem_standardRules hrule with ⟨names, hfilter⟩ | ⟨name, test, htest, hfilter⟩
    · rw [hfilter]
      rfl
    · rw [hfilter]
      exact congrArg Except.ok (test_document tree nodes htest)
  have hfind : setting.rules.find (root tree (.document nodes)) = .ok none := by
    rw [RuleTable.find, hrules]
    exact RuleTable.findIn_eq_none hnone
  rw [Setting.ruleOf?, hfind]

end

/-! ## Values -/

section

variable {clock : Nat → Rat} {base : Nat}

/-- The value of a node moves along with it, whatever the clock says. -/
theorem plainText_relocate (hrules : setting.rules.rules = standardRules)
    (hadapter : setting.adapter.IsLocal) (h : c.Under old) :
    plainText (setting.withClock clock) base (c.relocate new) = plainText setting base c :=
  (unnoticed_relocate hadapter old new base).plainText hrules hadapter.overrides h

/-- What is taken from the notes of a node, and of everything below it, moves along. -/
theorem plainNotes_relocate (hrules : setting.rules.rules = standardRules)
    (hadapter : setting.adapter.IsLocal) {α : Type} {taken? : Note → Option α}
    (htaken : Note.Portable taken?) (h : c.Under old) :
    (plainNotes (setting.withClock clock) base (c.relocate new)).filterMap taken? =
      (plainNotes setting base c).filterMap taken? :=
  (unnoticed_relocate hadapter old new base).plainNotes hrules hadapter.overrides htaken h

end

end Transcript
