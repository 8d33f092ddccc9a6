import Transcript.Text.Blank
import Transcript.Text.Case

/-!
# Markup trees

A tree of elements and character data. The root of a saved page is a document; fragments are
rooted at an element or at a single piece of character data.

## Main definitions

- `AttrValue`, `Attribute`: attributes, whose value may be missing, a text or a list of words
- `LeafKind`: what a piece of character data is
- `Node`: the trees
- `Node.settle`: marks the text that belongs to scripts, styles and the like
-/

namespace Transcript.Markup

/-- The value of an attribute. -/
inductive AttrValue where
  /-- The attribute stands without a value. -/
  | bare
  /-- A text. -/
  | text (value : String)
  /-- A list of words, as class lists are. -/
  | words (items : List String)
  deriving DecidableEq, Inhabited

/-- A named attribute. -/
structure Attribute where
  /-- The name as written. -/
  name : String
  /-- The value. -/
  value : AttrValue
  deriving DecidableEq, Inhabited

/-- What a piece of character data is. -/
inductive LeafKind where
  /-- Ordinary text. -/
  | plain
  /-- Text that belongs to the element named `owner`, such as a script. -/
  | reserved (owner : String)
  /-- A marked section of character data. -/
  | cdata
  /-- A comment. -/
  | comment
  /-- A document type. -/
  | doctype
  /-- A processing instruction. -/
  | instruction
  /-- Any other declaration. -/
  | declaration
  deriving DecidableEq, Inhabited

/-- A tree. -/
inductive Node where
  /-- A piece of character data. -/
  | leaf (kind : LeafKind) (text : String)
  /-- An element with its attributes and children. -/
  | element (name : String) (attributes : List Attribute) (children : List Node)
  /-- The root of a page. -/
  | document (children : List Node)
  deriving Inhabited

/-- The name under which the root of a page is known. -/
def documentName : String := "[document]"

namespace Node

/-- The children, in document order; character data has none. -/
def children : Node → List Node
  | leaf _ _ => []
  | element _ _ children => children
  | document children => children

/-- The attributes of an element. -/
def attributes : Node → List Attribute
  | element _ attributes _ => attributes
  | _ => []

/-- The name as written; empty for character data. -/
def name : Node → String
  | leaf _ _ => ""
  | element name _ _ => name
  | document _ => documentName

/-- Elements and documents, as opposed to character data. -/
def isElement : Node → Bool
  | leaf _ _ => false
  | _ => true

/-- The root of a page. -/
def isDocument : Node → Bool
  | document _ => true
  | _ => false

/-- Character data that is text to be read: neither a comment nor any other declaration. -/
def isText : Node → Bool
  | leaf .plain _ => true
  | leaf (.reserved _) _ => true
  | _ => false

/-- The lower-cased name of an element; empty for character data. -/
def tagName (node : Node) : String :=
  Text.lower node.name

/-- The value of the attribute of this name, if there is one. -/
def attribute? (node : Node) (name : String) : Option AttrValue :=
  (node.attributes.find? fun a => a.name == name).map Attribute.value

end Node

/-! ## Building a tree -/

/-- Elements whose text is kept apart from the text around them. -/
def reservedOwners : List String := ["script", "style", "template", "rt", "rp"]

mutual

/-- Marks the text below elements that keep their text apart, `owner` being the innermost such
element above. -/
def Node.settleBelow (owner : Option String) : Node → Node
  | .leaf .plain text =>
    match owner with
    | some name => .leaf (.reserved name) text
    | none => .leaf .plain text
  | .leaf kind text => .leaf kind text
  | .element name attributes children =>
    -- An owner inside another one takes over.
    .element name attributes
      (Node.settleAll (if reservedOwners.contains name then some name else owner) children)
  | .document children => .document (Node.settleAll owner children)

/-- `Node.settleBelow` for a list of siblings. -/
def Node.settleAll (owner : Option String) : List Node → List Node
  | [] => []
  | node :: rest => Node.settleBelow owner node :: Node.settleAll owner rest

end

/-- Marks the text below elements that keep their text apart. -/
def Node.settle (node : Node) : Node :=
  node.settleBelow none

/-- Whether a text under this key is a list of words on this element. -/
def holdsWords (element key : String) : Bool :=
  let element := Text.lower element
  match key with
  | "class" | "accesskey" | "dropzone" => true
  | "rel" => element == "a" || element == "link" || element == "area"
  | "rev" => element == "a" || element == "link"
  | "headers" => element == "td" || element == "th"
  | "accept-charset" => element == "form"
  | "archive" => element == "object"
  | "sizes" => element == "icon"
  | "sandbox" => element == "iframe"
  | "for" => element == "output"
  | _ => false

/-- An attribute as it is stored: a text that is a list of words is split into them. -/
def Attribute.store (element : String) (a : Attribute) : Attribute :=
  match a.value with
  | .text value =>
    if holdsWords element a.name then ⟨a.name, .words (Text.words value)⟩ else a
  | _ => a

/-- An element as it is stored. -/
def Node.mkElement (name : String) (attributes : List Attribute) (children : List Node) : Node :=
  .element name (attributes.map (Attribute.store name)) children

end Transcript.Markup
