import Transcript.Markup.Node

/-!
# Trees under change

While a tree is changed its nodes are known by numbers. What was found before a change keeps its
number behind it: it may stand elsewhere by then, or not stand in the tree any more.

## Main definitions

- `Numbered`: trees whose nodes have numbers
- `Node.numbered`, `Numbered.node`: giving out numbers, and leaving them off again
- `Numbered.findBelow`: which nodes below the root satisfy a test
- `Numbered.replaceBelow`: puts something else into the place of a node
-/

namespace Transcript.Markup

/-- The node with other children; character data has none. -/
def Node.withChildren (children : List Node) : Node → Node
  | .leaf kind text => .leaf kind text
  | .element name attributes _ => .element name attributes children
  | .document _ => .document children

/-- A tree whose nodes have numbers. -/
inductive Numbered where
  /-- A number, the node that it was given to, and the children that this node has by now. -/
  | mk (number : Nat) (origin : Node) (children : List Numbered)

namespace Numbered

/-- The number of the root. -/
def number : Numbered → Nat
  | mk number _ _ => number

/-- The node that the number of the root was given to. -/
def origin : Numbered → Node
  | mk _ origin _ => origin

/-- The children of the root. -/
def children : Numbered → List Numbered
  | mk _ _ children => children

end Numbered

/-! ## Giving out numbers -/

mutual

/-- Numbers a tree in document order, `next` being the first number. The second component is the
next free one. -/
def Node.numberFrom (next : Nat) : Node → Numbered × Nat
  | .leaf kind text => (.mk next (.leaf kind text) [], next + 1)
  | .element name attributes children =>
    let (below, free) := Node.numberAllFrom (next + 1) children
    (.mk next (.element name attributes children) below, free)
  | .document children =>
    let (below, free) := Node.numberAllFrom (next + 1) children
    (.mk next (.document children) below, free)

/-- `Node.numberFrom` for a list of siblings. -/
def Node.numberAllFrom (next : Nat) : List Node → List Numbered × Nat
  | [] => ([], next)
  | node :: rest =>
    let (first, next) := Node.numberFrom next node
    let (others, free) := Node.numberAllFrom next rest
    (first :: others, free)

end

/-- The tree with numbers, in document order. -/
def Node.numbered (node : Node) : Numbered :=
  (node.numberFrom 0).1

mutual

/-- The tree as it is now, without numbers. -/
def Numbered.node : Numbered → Node
  | .mk _ origin children => origin.withChildren (Numbered.nodes children)

/-- `Numbered.node` for a list of siblings. -/
def Numbered.nodes : List Numbered → List Node
  | [] => []
  | tree :: rest => tree.node :: Numbered.nodes rest

end

/-! ## Finding and replacing -/

mutual

/-- The numbers of the nodes below the root that satisfy a test, in document order. -/
def Numbered.findBelow (p : Node → Bool) : Numbered → List Nat
  | .mk _ _ children => Numbered.findAmong p children

/-- The numbers of the siblings, and of the nodes below them, that satisfy a test. -/
def Numbered.findAmong (p : Node → Bool) : List Numbered → List Nat
  | [] => []
  | tree :: rest =>
    (if p tree.origin then [tree.number] else []) ++ tree.findBelow p ++ Numbered.findAmong p rest

end

mutual

/-- Puts what `f` makes of it into the place of the node of this number, if it stands below the
root. -/
def Numbered.replaceBelow (number : Nat) (f : Numbered → List Numbered) : Numbered → Numbered
  | .mk own origin children => .mk own origin (Numbered.replaceAmong number f children)

/-- The same, if the node is among the siblings or stands below them. -/
def Numbered.replaceAmong (number : Nat) (f : Numbered → List Numbered) :
    List Numbered → List Numbered
  | [] => []
  | tree :: rest =>
    let changed := tree.replaceBelow number f
    (if tree.number = number then f changed else [changed]) ++
      Numbered.replaceAmong number f rest

end

end Transcript.Markup
