import Transcript.Markup.Node

/-!
# The text of a tree

The flattened text of an element is what its strings spell when read in document order. Text of
scripts, styles and the like shows only when the element asked is such an element itself; comments
and declarations never show.
-/

namespace Transcript.Markup.Node

/-- Which character data counts as text of an element of this name. -/
def countsAsText (name : String) (kind : LeafKind) : Bool :=
  -- An owner shows its own text, and nothing else.
  if reservedOwners.contains name then kind == .reserved name
  else kind == .plain || kind == .cdata

mutual

/-- The character data of the kinds in `keep`, in document order. -/
def strings (keep : LeafKind → Bool) : Node → List String
  | .leaf kind text => if keep kind then [text] else []
  | .element _ _ children => stringsAll keep children
  | .document children => stringsAll keep children

/-- `strings` for a list of siblings. -/
def stringsAll (keep : LeafKind → Bool) : List Node → List String
  | [] => []
  | node :: rest => strings keep node ++ stringsAll keep rest

end

/-- The text of an element, flattened. -/
def flatText (node : Node) : String :=
  String.join (node.strings (countsAsText node.name))

/-- The text of any node: flattened for an element, the string itself for text, and nothing for
other character data. -/
def textContent : Node → String
  | .leaf kind text =>
    match kind with
    | .plain | .reserved _ => text
    | _ => ""
  | node => node.flatText

end Transcript.Markup.Node
