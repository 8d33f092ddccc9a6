import Transcript.Markup.Cursor
import Transcript.Text.Search

/-!
# Selectors

A selector describes elements by their name, classes, identifier and attributes, and by what stands
above them or in front of them. It is kept as an expression: `div > p.note` is *named `p`*, *of
class `note`* and *with a parent that is named `div`*.

## Main definitions

- `ValueTest`: what is asked of an attribute value
- `Selector`: the expressions
- `Selector.holds`: whether an expression holds of a node
- `Selector.accepts`: the same, for elements only
- `Selector.select`, `Selector.selectOne?`, `Selector.closest?`: searches in a tree
-/

namespace Transcript

open Markup

/-- What is asked of an attribute value. -/
inductive ValueTest where
  /-- Nothing: the attribute is there. -/
  | present
  /-- It is this text. -/
  | equals (value : String)
  /-- It starts with this text. -/
  | starts (value : String)
  /-- It ends with this text. -/
  | ends (value : String)
  /-- This text occurs in it. -/
  | contains (value : String)
  /-- This text is one of its words. -/
  | word (value : String)
  /-- It is this text, or starts with it and a dash. -/
  | dashed (value : String)
  deriving DecidableEq, Inhabited

/-- Descriptions of elements. -/
inductive Selector where
  /-- Any node. -/
  | any
  /-- Named so, up to ASCII case. -/
  | named (name : String)
  /-- Carrying this class. -/
  | hasClass (name : String)
  /-- Carrying this identifier. -/
  | hasId (name : String)
  /-- Carrying this attribute, its value passing a test; `folded` ignores ASCII case in it. -/
  | attr (name : String) (folded : Bool) (test : ValueTest)
  /-- Both descriptions apply. -/
  | both (left right : Selector)
  /-- One of the descriptions applies. -/
  | either (left right : Selector)
  /-- The description does not apply. -/
  | except (excluded : Selector)
  /-- The parent is so. -/
  | parent (outer : Selector)
  /-- Something above is so. -/
  | ancestor (outer : Selector)
  /-- The element just in front is so. -/
  | previous (sibling : Selector)
  /-- Some element in front, with the same parent, is so. -/
  | preceding (sibling : Selector)
  deriving DecidableEq, Inhabited

/-- The blanks of selectors. -/
def isSelectorBlank (c : Char) : Bool :=
  c = ' ' || c = '\t' || c = '\n' || c = '\r' || c = '\x0c'

namespace ValueTest

/-- The texts in the place of `test`'s text and of the value, in lower case if `folded`. -/
def fold (folded : Bool) (s : String) : String :=
  if folded then Text.asciiLower s else s

/-- The words of a value, as selectors see them. -/
def wordsOf (value : String) : List String :=
  (Chars.runsFrom isSelectorBlank [] value.toList).map String.ofList

/-- Whether a value passes the test. A line break at the very end of the value is overlooked by the
tests that look at its end. No value starts with, ends with or contains an empty text. -/
def passes (test : ValueTest) (folded : Bool) (value : String) : Bool :=
  let value := fold folded value
  match test with
  | present => true
  | equals wanted =>
    let wanted := fold folded wanted
    value == wanted || value == wanted ++ "\n"
  | starts wanted => wanted != "" && Text.startsWith (fold folded wanted) value
  | ends wanted =>
    let wanted := fold folded wanted
    wanted != "" && (Text.endsWith wanted value || Text.endsWith (wanted ++ "\n") value)
  | contains wanted => wanted != "" && Text.contains (fold folded wanted) value
  | word wanted => (wordsOf value).contains (fold folded wanted)
  | dashed wanted =>
    let wanted := fold folded wanted
    value == wanted || value == wanted ++ "\n" || Text.startsWith (wanted ++ "-") value

end ValueTest

namespace Selector

/-- The value an attribute has for selectors: missing values are empty, words are joined. -/
def valueOf : AttrValue → String
  | .bare => ""
  | .text value => value
  | .words items => Text.join " " items

/-- The value of the first attribute of this name, up to ASCII case. -/
def attributeValue? (node : Node) (name : String) : Option AttrValue :=
  (node.attributes.find? fun a => Text.asciiLower a.name == Text.asciiLower name).map
    Attribute.value

/-- Whether an element has an attribute of this name, up to ASCII case, whose value passes. -/
def attributePasses (node : Node) (name : String) (folded : Bool) (test : ValueTest) : Bool :=
  match attributeValue? node name with
  | some value => test.passes folded (valueOf value)
  | none => false

/-- Whether an element carries this identifier. -/
def hasIdentifier (node : Node) (wanted : String) : Bool :=
  match attributeValue? node "id" with
  | some (.text value) => value == wanted
  | _ => false

/-- The classes of an element, as selectors see them. -/
def classesOf (node : Node) : List String :=
  match attributeValue? node "class" with
  | some (.text value) => ValueTest.wordsOf value
  | some (.words items) => items
  | _ => []

/-- Whether a description holds of a node. Above an element a document counts as a node without
attributes. -/
def holds : Selector → Cursor → Bool
  | any, _ => true
  | named name, c => Text.asciiLower c.node.name == Text.asciiLower name
  | hasClass name, c => (classesOf c.node).contains name
  | hasId name, c => hasIdentifier c.node name
  | attr name folded test, c => attributePasses c.node name folded test
  | both left right, c => left.holds c && right.holds c
  | either left right, c => left.holds c || right.holds c
  | except excluded, c => !excluded.holds c
  | parent outer, c => (c.parent?.map outer.holds).getD false
  | ancestor outer, c => c.ancestors.any outer.holds
  | previous sibling, c => (c.precedingElements.head?.map sibling.holds).getD false
  | preceding sibling, c => c.precedingElements.any sibling.holds

/-- Whether an element is as described. Documents and character data never are. -/
def accepts (s : Selector) (c : Cursor) : Bool :=
  c.node.isElement && !c.node.isDocument && s.holds c

/-- The elements below a node that are as described, in document order. -/
def select (s : Selector) (c : Cursor) : List Cursor :=
  c.descendants.filter s.accepts

/-- The first element below a node that is as described. -/
def selectOne? (s : Selector) (c : Cursor) : Option Cursor :=
  c.descendants.find? s.accepts

/-- The node itself, or the closest element above, that is as described. -/
def closest? (s : Selector) (c : Cursor) : Option Cursor :=
  (c :: c.ancestors).find? s.accepts

end Selector

end Transcript
