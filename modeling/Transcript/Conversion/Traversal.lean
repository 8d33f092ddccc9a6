import Transcript.Conversion.Session
import Transcript.Markup.Flatten

/-!
# The traversal

A node is converted after its children, and its rule receives the children's text. The text of a
node is remembered, so that a rule may have nodes converted again without a second visit.

Two boundaries surround every element. Where its rule fails, the children's text stands in; where
anything else fails, the flattened text of the node does. Faults that give up the conversion cross
both.

Rules may have any node converted, even their own. What bounds the recursion is the depth, which
grows with every step: `room` is the number of levels still open, and at level zero nothing is
visited any more.

## Main definitions

- `Rendering.run`: runs the program of a rule
- `convertNode`: converts a node, given how nodes one level deeper are converted
- `process`: converts a node
-/

namespace Transcript

open Markup

/-- How a node is converted. -/
abbrev Converter := Option Cursor → Action String

/-- Runs a program, nodes being converted by `descend`. -/
def Rendering.run {α : Type} (descend : Converter) : Rendering α → Action α
  | done value, s => (.ok value, s)
  | raise fault, s => (.error fault, s)
  | report diagnostic next, s => next.run descend (s.report diagnostic)
  | warn message next, s => next.run descend (s.warn message)
  | process node next, s =>
    match descend node s with
    | (.ok text, s) => (next text).run descend s
    | (.error fault, s) => (.error fault, s)
  | plant tree next, s =>
    -- The tree's number is new, so its places differ from all others in sight.
    (next (Cursor.root s.trees tree)).run descend { s with trees := s.trees + 1 }

/-- Converts nodes in order, and joins their texts. -/
def convertAll (descend : Converter) : List Cursor → Action String
  | [], s => (.ok "", s)
  | c :: rest, s =>
    match descend (some c) s with
    | (.error fault, s) => (.error fault, s)
    | (.ok first, s) =>
      match convertAll descend rest s with
      | (.error fault, s) => (.error fault, s)
      | (.ok others, s) => (.ok (first ++ others), s)

/-- The rule of a node, remembered or looked for. -/
def resolve (setting : Setting) (c : Cursor) : Action (Option Rule) := fun s =>
  match setting.rules.findRemembered s.arena s.resolutions c with
  | (found, arena, resolutions) => (found, { s with arena, resolutions })

/-- Converts an element: its children first, then the element by its rule. -/
def convertElement (setting : Setting) (descend : Converter) (depth : Nat) (c : Cursor) :
    Action String := fun s =>
  -- The rule is chosen before any child is converted.
  match resolve setting c s with
  | (.error fault, s) => (.error fault, s)
  | (.ok rule, s) =>
    match convertAll descend c.children s with
    | (.error fault, s) => (.error fault, s)
    | (.ok content, s) =>
      match rule with
      | none => (.ok content, s)
      | some rule =>
        -- The inner boundary: where the rule fails, the children's text stands in.
        guarded setting (some c) rule.name (fun _ => content)
          ((rule.replacement ⟨c, depth, setting.adapter, setting.options⟩ content).run descend) s

/-- The flattened text of a node that may be missing. -/
def textOf (node : Option Cursor) : String :=
  match node with
  | none => ""
  | some c => c.node.textContent

/-- Converts a node: text stands for itself, and other nodes that are no elements for nothing. -/
def convertNode (setting : Setting) (descend : Converter) (depth : Nat) (node : Option Cursor) :
    Action String := fun s =>
  match node with
  | none => (.ok "", s)
  | some c =>
    match c.node with
    | .leaf _ _ => (.ok c.node.textContent, s)
    | _ => convertElement setting descend depth c s

/-- The remembered text of a node. -/
def remembered? (node : Option Cursor) (s : Session) : Option String × Session :=
  match s.texts.lookup s.arena (nodeKey node) with
  | (text, arena) => (text, { s with arena })

/-- Remembers the text of a node. -/
def remember (node : Option Cursor) (text : String) (s : Session) : Session :=
  match s.texts.store s.arena (nodeKey node) text with
  | (texts, arena) => { s with texts, arena }

/-- Converts a node that is not remembered, and remembers its text. -/
def convertFresh (setting : Setting) (descend : Converter) (depth : Nat) (node : Option Cursor) :
    Action String := fun s =>
  match visit setting depth s with
  | (.error fault, s) => (.error fault, s)
  | (.ok (), s) =>
    -- The outer boundary: where the rest fails, the flattened text stands in.
    match guarded setting node "node" (fun _ => textOf node)
        (convertNode setting descend depth node) s with
    | (.error fault, s) => (.error fault, s)
    | (.ok text, s) => (.ok text, remember node text s)

/-- Converts a node at a depth with `room` levels open from there on. -/
def process (setting : Setting) : (room depth : Nat) → Converter
  -- No level is open: what is remembered still answers, but nothing is visited.
  | 0, depth, node => fun s =>
    match remembered? node s with
    | (some text, s) => (.ok text, s)
    | (none, s) => (.error (depthFault setting.options depth), s)
  | room + 1, depth, node => fun s =>
    match remembered? node s with
    | (some text, s) => (.ok text, s)
    | (none, s) => convertFresh setting (process setting room (depth + 1)) depth node s

/-- The levels open from a depth on. -/
def roomAt (options : Options) (depth : Nat) : Nat :=
  options.maxDepth + 1 - depth

/-- Converts a node at a depth. -/
def processAt (setting : Setting) (depth : Nat) : Converter :=
  process setting (roomAt setting.options depth) depth

end Transcript
