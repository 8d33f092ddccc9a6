import Mathlib.Data.List.Perm.Basic
import Transcript.Proofs.Conversion.Budget
import Transcript.Proofs.Conversion.Conduct
import Transcript.Proofs.Markup.Subtree

/-!
# Conversion without memory

The plain value of a node, by recursion on the tree: no session, no memory, no budgets and no
boundaries. Text stands for itself and other nodes that are no elements for nothing; an element
stands for what its rule makes of its children's values, or for these values alone where it has no
rule or the rule fails. A rule that asks for a node below its own gets the value of that node.

## Main definitions

- `plainText`: the value of a node
- `plainNotes`: the notes of a node and everything below it, each node's own notes once

## Main results

- `plainText_eq`, `plainNotes_eq`: the equations of the recursion
- `plainAnswer_of_mem`: what a rule gets when it asks for a node below its own
- `plainNotes_perm`: every node's own notes are in once
-/

namespace Transcript

open Markup

/-! ## One step -/

/-- What a rule sees at a node whose depth is counted from a level. -/
def Setting.sceneAt (setting : Setting) (base : Nat) (c : Cursor) : Scene :=
  ⟨c, c.depthFrom base, setting.adapter, setting.options⟩

/-- The first rule that accepts a node. -/
def Setting.ruleOf? (setting : Setting) (c : Cursor) : Option Rule :=
  match setting.rules.find c with
  | .ok rule => rule
  | .error _ => none

/-- The value of a node, given its children's text and the answers for its rule. -/
def plainValue (setting : Setting) (base : Nat) (c : Cursor) (content : String)
    (ask : Option Cursor → String) : String :=
  match c.node with
  | .leaf _ _ => c.node.textContent
  | _ =>
    match setting.ruleOf? c with
    | none => content
    | some rule =>
      match (rule.replacement (setting.sceneAt base c) content).outcome ask with
      | .ok text => text
      | .error _ => content

/-- The notes of a node itself, given its children's text and the answers for its rule. -/
def notesAt (setting : Setting) (base : Nat) (c : Cursor) (content : String)
    (ask : Option Cursor → String) : List Note :=
  match c.node with
  | .leaf _ _ => []
  | _ =>
    match setting.ruleOf? c with
    | none => []
    | some rule =>
      let program := rule.replacement (setting.sceneAt base c) content
      program.notes ask ++
        match program.outcome ask with
        | .ok _ => []
        | .error fault => [.recovered fault (some c) rule.name fault.kind.recovery]

/-- Answers with values of the nodes below a node; nothing else has an answer. -/
def answerBelow (c : Cursor) (value : (d : Cursor) → d ∈ c.descendants → String) :
    Option Cursor → String
  | none => ""
  | some e =>
    match c.descendants.attach.find? fun d => d.val.isSame e with
    | none => ""
    | some d => value d.val d.property

theorem answerBelow_of_mem {c e : Cursor} (value : (d : Cursor) → d ∈ c.descendants → String)
    (he : e ∈ c.descendants) : answerBelow c value (some e) = value e he := by
  cases hfind : c.descendants.attach.find? fun d => d.val.isSame e with
  -- The node itself is at its place, so something is found.
  | none =>
    rw [List.find?_eq_none] at hfind
    exact absurd (by simp [Cursor.isSame]) (hfind ⟨e, he⟩ (List.mem_attach _ _))
  | some d =>
    -- What is found is at the place of the node, and below one root a place is a node.
    have hplace : d.val.place = e.place := by
      simpa [Cursor.isSame] using List.find?_some hfind
    have heq : d.val = e :=
      Cursor.eq_of_place_eq (Cursor.mem_subtree_of_mem_descendants d.property)
        (Cursor.mem_subtree_of_mem_descendants he) hplace
    subst heq
    simp [answerBelow, hfind]

/-! ## The recursion -/

/-- The value of a node, depths being counted from a level. -/
def plainText (setting : Setting) (base : Nat) (c : Cursor) : String :=
  plainValue setting base c
    (String.join (c.children.attach.map fun d => plainText setting base d.val))
    (answerBelow c fun d _ => plainText setting base d)
termination_by sizeOf c.node
decreasing_by
  · exact Cursor.sizeOf_lt_of_mem_children d.property
  · exact Cursor.sizeOf_lt_of_mem_descendants ‹_›

/-- The children's values, joined. -/
def plainContent (setting : Setting) (base : Nat) (c : Cursor) : String :=
  String.join (c.children.map (plainText setting base))

/-- The answers for a rule at a node. -/
def plainAnswer (setting : Setting) (base : Nat) (c : Cursor) : Option Cursor → String :=
  answerBelow c fun d _ => plainText setting base d

theorem plainText_eq (setting : Setting) (base : Nat) (c : Cursor) :
    plainText setting base c =
      plainValue setting base c (plainContent setting base c) (plainAnswer setting base c) := by
  rw [plainText]
  simp only [plainContent, plainAnswer, List.attach_map_val]

/-- A rule that asks for a node below its own gets the value of that node. -/
theorem plainAnswer_of_mem {setting : Setting} {base : Nat} {c d : Cursor}
    (hd : d ∈ c.descendants) : plainAnswer setting base c (some d) = plainText setting base d :=
  answerBelow_of_mem _ hd

/-- The notes of a node itself. -/
def ownNotes (setting : Setting) (base : Nat) (c : Cursor) : List Note :=
  notesAt setting base c (plainContent setting base c) (plainAnswer setting base c)

theorem plain_of_leaf (setting : Setting) (base : Nat) {c : Cursor}
    (hc : c.node.isElement = false) :
    plainText setting base c = c.node.textContent ∧ ownNotes setting base c = [] := by
  cases hnode : c.node with
  | leaf kind text => simp [plainText_eq, plainValue, ownNotes, notesAt, hnode]
  | element name attributes children => simp [hnode, Node.isElement] at hc
  | document children => simp [hnode, Node.isElement] at hc

theorem plain_of_no_rule {setting : Setting} (base : Nat) {c : Cursor}
    (hc : c.node.isElement = true) (hrule : setting.ruleOf? c = none) :
    plainText setting base c = plainContent setting base c ∧ ownNotes setting base c = [] := by
  cases hnode : c.node with
  | leaf kind text => simp [hnode, Node.isElement] at hc
  | element name attributes children =>
    simp [plainText_eq setting base c, plainValue, ownNotes, notesAt, hnode, hrule]
  | document children =>
    simp [plainText_eq setting base c, plainValue, ownNotes, notesAt, hnode, hrule]

/-- An element with a rule stands for what the rule makes of it; where the rule fails, there is a
note, and the children's values stand in. -/
theorem plain_of_rule {setting : Setting} (base : Nat) {c : Cursor} {rule : Rule}
    (hc : c.node.isElement = true) (hrule : setting.ruleOf? c = some rule) :
    (plainText setting base c =
      match (rule.replacement (setting.sceneAt base c) (plainContent setting base c)).outcome
          (plainAnswer setting base c) with
      | .ok text => text
      | .error _ => plainContent setting base c) ∧
    ownNotes setting base c =
      (rule.replacement (setting.sceneAt base c) (plainContent setting base c)).notes
          (plainAnswer setting base c) ++
        match (rule.replacement (setting.sceneAt base c) (plainContent setting base c)).outcome
            (plainAnswer setting base c) with
        | .ok _ => []
        | .error fault => [.recovered fault (some c) rule.name fault.kind.recovery] := by
  cases hnode : c.node with
  | leaf kind text => simp [hnode, Node.isElement] at hc
  | element name attributes children =>
    rw [plainText_eq setting base c]
    simp only [plainValue, ownNotes, notesAt, hnode, hrule, and_self]
  | document children =>
    rw [plainText_eq setting base c]
    simp only [plainValue, ownNotes, notesAt, hnode, hrule, and_self]

/-- The notes of a node and everything below it: those of its children first, then its own. -/
def plainNotes (setting : Setting) (base : Nat) (c : Cursor) : List Note :=
  (c.children.attach.flatMap fun d => plainNotes setting base d.val) ++ ownNotes setting base c
termination_by sizeOf c.node
decreasing_by exact Cursor.sizeOf_lt_of_mem_children d.property

theorem plainNotes_eq (setting : Setting) (base : Nat) (c : Cursor) :
    plainNotes setting base c =
      c.children.flatMap (plainNotes setting base) ++ ownNotes setting base c := by
  rw [plainNotes]
  congr 1
  rw [← List.flatMap_map, List.attach_map_subtype_val]

/-- Every node below a node, and the node itself, has its own notes in once. -/
theorem plainNotes_perm (setting : Setting) (base : Nat) (c : Cursor) :
    (plainNotes setting base c).Perm (c.subtree.flatMap (ownNotes setting base)) := by
  induction c using Cursor.children_induction with
  | step c ih =>
    -- A subtree has its root in front, and the notes of a node stand behind those of its children.
    rw [plainNotes_eq, Cursor.subtree_eq, List.flatMap_cons, List.flatMap_assoc]
    refine List.perm_append_comm.trans (List.Perm.append_left _ ?_)
    exact List.Perm.flatMap_left _ ih

/-- Each note of a plain conversion is a node's own. -/
theorem mem_plainNotes_iff {setting : Setting} {base : Nat} {c : Cursor} {note : Note} :
    note ∈ plainNotes setting base c ↔ ∃ d ∈ c.subtree, note ∈ ownNotes setting base d := by
  rw [(plainNotes_perm setting base c).mem_iff, List.mem_flatMap]

end Transcript
