import Transcript.Markup.Node
import Transcript.Text.Digit

/-!
# Reading attributes

Attributes as texts, as class lists and as whole numbers.
-/

namespace Transcript.Markup

/-- The classes listed by a value. -/
def AttrValue.classes : AttrValue → List String
  | .bare => []
  | .text value => Text.words value
  | .words items => items

/-- The value as one text: words are joined by a space, and no words are no text. -/
def AttrValue.text? : AttrValue → Option String
  | .bare => none
  | .text value => some value
  | .words items => if items.isEmpty then none else some (Text.join " " items)

namespace Node

/-- The attribute of this name as a text. -/
def attributeText? (node : Node) (name : String) : Option String :=
  (node.attribute? name).bind AttrValue.text?

/-- The attribute of this name as a text without surrounding blanks; empty if there is none. -/
def trimmedAttribute (node : Node) (name : String) : String :=
  Text.trim ((node.attributeText? name).getD "")

/-- The classes of an element. -/
def classes (node : Node) : List String :=
  ((node.attribute? "class").map AttrValue.classes).getD []

/-- Whether an element carries one of these classes. -/
def hasClass (node : Node) (wanted : List String) : Bool :=
  wanted.any fun c => node.classes.contains c

theorem hasClass_mono {node : Node} {few many : List String} (h : ∀ name ∈ few, name ∈ many)
    (hfew : node.hasClass few = true) : node.hasClass many = true := by
  obtain ⟨name, hname, hcarries⟩ := List.any_eq_true.mp hfew
  exact List.any_eq_true.mpr ⟨name, h name hname, hcarries⟩

/-- Whether an element carries an attribute of this name. -/
def hasAttribute (node : Node) (name : String) : Bool :=
  (node.attribute? name).isSome

/-- The attribute of this name as a whole number; `default` if it is missing or is none. -/
def attributeInteger (node : Node) (name : String) (default : Int) : Int :=
  ((node.attributeText? name).bind Text.readInteger?).getD default

end Node

end Transcript.Markup
