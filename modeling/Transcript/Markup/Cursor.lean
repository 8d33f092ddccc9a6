import Transcript.Markup.Node

/-!
# Nodes in their tree

A `Cursor` is a node seen in its tree: the node, and the way from it up to the root. Two nodes of
equal content at different places are different cursors, and a `Place` (the tree's number and the
child indexes) tells them apart.

## Main definitions

- `Cursor.root`, `Cursor.children`, `Cursor.parent?`: moving in the tree
- `Cursor.ancestors`: everything above a node, nearest first
- `Cursor.subtree`, `Cursor.descendants`: everything below a node, in document order
- `Cursor.place`: the identity of a node
-/

namespace Transcript.Markup

/-- One step up: the parent and the index of the child come from. -/
structure Step where
  /-- The parent. -/
  parent : Node
  /-- Which of its children was left. -/
  index : Nat

/-- The identity of a node: the number of its tree, and the child indexes from the node upwards. -/
structure Place where
  /-- Which tree. -/
  tree : Nat
  /-- Child indexes, the innermost first. -/
  indexes : List Nat
  deriving DecidableEq, Hashable, Inhabited

/-- A node seen in its tree. -/
structure Cursor where
  /-- Which tree. -/
  tree : Nat
  /-- The node. -/
  node : Node
  /-- The way up, nearest step first. -/
  above : List Step

namespace Cursor

/-- The root of a tree. -/
def root (tree : Nat) (node : Node) : Cursor :=
  ⟨tree, node, []⟩

/-- The identity of the node. -/
def place (c : Cursor) : Place :=
  ⟨c.tree, c.above.map Step.index⟩

/-- The child indexes from the root down to the node. -/
def path (c : Cursor) : List Nat :=
  (c.above.map Step.index).reverse

/-- Siblings as cursors, the first of them having `index`. -/
def childrenFrom (tree : Nat) (parent : Node) (above : List Step) (index : Nat) :
    List Node → List Cursor
  | [] => []
  | node :: rest =>
    ⟨tree, node, ⟨parent, index⟩ :: above⟩ :: childrenFrom tree parent above (index + 1) rest

/-- The children, in document order. -/
def children (c : Cursor) : List Cursor :=
  childrenFrom c.tree c.node c.above 0 c.node.children

/-- The children that are elements. -/
def elementChildren (c : Cursor) : List Cursor :=
  c.children.filter (·.node.isElement)

/-- The parent, if the node is not the root. -/
def parent? (c : Cursor) : Option Cursor :=
  match c.above with
  | [] => none
  | step :: above => some ⟨c.tree, step.parent, above⟩

/-- What stands above, nearest first. -/
def ancestorsOf (tree : Nat) : List Step → List Cursor
  | [] => []
  | step :: above => ⟨tree, step.parent, above⟩ :: ancestorsOf tree above

/-- Everything above the node, nearest first, a document included. -/
def ancestors (c : Cursor) : List Cursor :=
  ancestorsOf c.tree c.above

/-- The elements above the node, nearest first, up to the document. -/
def elementAncestors (c : Cursor) : List Cursor :=
  c.ancestors.takeWhile fun a => a.node.name != documentName

/-- The closest element above the node that satisfies `p`. -/
def findAncestor? (c : Cursor) (p : Cursor → Bool) : Option Cursor :=
  c.elementAncestors.find? p

/-- The siblings in front of the node that are elements, nearest first. -/
def precedingElements (c : Cursor) : List Cursor :=
  match c.above with
  | [] => []
  | step :: above =>
    -- The siblings before the child that was left, counted from it backwards.
    ((childrenFrom c.tree step.parent above 0 step.parent.children).take step.index).reverse.filter
      (·.node.isElement)

mutual

/-- A node and everything below it, in document order. -/
def walk (tree : Nat) (above : List Step) : Node → List Cursor
  | .leaf kind text => [⟨tree, .leaf kind text, above⟩]
  | .element name attributes children =>
    ⟨tree, .element name attributes children, above⟩ ::
      walkAll tree (.element name attributes children) above 0 children
  | .document children =>
    ⟨tree, .document children, above⟩ :: walkAll tree (.document children) above 0 children

/-- Siblings, the first of them having `index`, each followed by everything below it. -/
def walkAll (tree : Nat) (parent : Node) (above : List Step) (index : Nat) :
    List Node → List Cursor
  | [] => []
  | node :: rest =>
    walk tree (⟨parent, index⟩ :: above) node ++ walkAll tree parent above (index + 1) rest

end

/-- The node and everything below it, in document order. -/
def subtree (c : Cursor) : List Cursor :=
  walk c.tree c.above c.node

/-- Everything below the node, in document order. -/
def descendants (c : Cursor) : List Cursor :=
  c.subtree.tail

/-- The child of this index. -/
def child? (c : Cursor) (index : Nat) : Option Cursor :=
  (c.node.children[index]?).map fun node => ⟨c.tree, node, ⟨c.node, index⟩ :: c.above⟩

/-- The node reached by following child indexes downwards. -/
def follow? (c : Cursor) : List Nat → Option Cursor
  | [] => some c
  | index :: rest =>
    match c.child? index with
    | some child => child.follow? rest
    | none => none

/-- The first element below the node, in document order, whose name is one of `names`. -/
def find? (c : Cursor) (names : List String) : Option Cursor :=
  c.descendants.find? fun d => d.node.isElement && names.contains d.node.name

/-- Every element below the node, in document order, whose name is `name`. -/
def findAll (c : Cursor) (name : String) : List Cursor :=
  c.descendants.filter fun d => d.node.isElement && d.node.name == name

/-- The closest node above, a document included, whose name is `name`. -/
def findParent? (c : Cursor) (name : String) : Option Cursor :=
  c.ancestors.find? fun a => a.node.name == name

/-- Whether two cursors are the same node. -/
def isSame (a b : Cursor) : Bool :=
  a.place == b.place

end Cursor

end Transcript.Markup
