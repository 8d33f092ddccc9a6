import Transcript.Markup.Node

/-!
# Copying a tree

A copy has the same nodes in the same order, but no attribute without a value: such an attribute
says nothing that a copy would keep.

## Main definitions

- `Node.copy`: the copy of a tree
-/

namespace Transcript.Markup

/-- Whether an attribute has a value. -/
def Attribute.hasValue (a : Attribute) : Bool :=
  a.value != .bare

mutual

/-- The copy of a tree. -/
def Node.copy : Node → Node
  | .leaf kind text => .leaf kind text
  | .element name attributes children =>
    .element name (attributes.filter Attribute.hasValue) (Node.copyAll children)
  | .document children => .document (Node.copyAll children)

/-- The copies of siblings. -/
def Node.copyAll : List Node → List Node
  | [] => []
  | node :: rest => Node.copy node :: Node.copyAll rest

end

end Transcript.Markup
