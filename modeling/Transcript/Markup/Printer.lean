import Transcript.Markup.Node
import Transcript.Text.Search

/-!
# Writing a tree as markup

Attributes are written in the order of their names; text and attribute values are escaped; empty
void elements are closed in place. Where a page names its own encoding, the one that it is written
in is named instead.
-/

namespace Transcript.Markup

/-- Escapes the three characters that markup reserves. -/
def escapeChar (c : Char) : List Char :=
  match c with
  | '&' => "&amp;".toList
  | '<' => "&lt;".toList
  | '>' => "&gt;".toList
  | c => [c]

/-- Escapes text for markup. -/
def escape : String → String :=
  Text.onChars (·.flatMap escapeChar)

/-- An escaped value in quotes: double ones, or single ones around a value that has only double
quotes inside; with both kinds inside, the double ones are escaped. -/
def quoteValue (value : String) : String :=
  let double := value.toList.contains '\x22'
  let single := value.toList.contains '\x27'
  if double && single then "\"" ++ Text.replace "\"" "&quot;" value ++ "\""
  else if double then "'" ++ value ++ "'"
  else "\"" ++ value ++ "\""

/-- Elements that have no end tag when they are empty. -/
def voidNames : List String :=
  ["area", "base", "br", "col", "embed", "hr", "img", "input", "keygen", "link", "menuitem",
    "meta", "param", "source", "track", "wbr", "basefont", "bgsound", "command", "frame", "image",
    "isindex", "nextid", "spacer"]

/-! ## The encoding of a page -/

/-- The encoding that pages are written in. -/
def pageEncoding : List Char := "utf-8".toList

/-- What stands in front of an encoding. -/
def encodingLabel : List Char := "charset=".toList

/-- Names the page's encoding wherever an encoding is named at the start of a line, behind a blank
or behind a semicolon, up to the next semicolon. `lineStart` says whether a line starts here, and
`named` whether an encoding is being passed over. -/
def nameEncoding (lineStart named : Bool) : List Char → List Char
  | [] => []
  | c :: rest =>
    if named && c ≠ ';' then nameEncoding false true rest
    else if lineStart && Chars.startsWith encodingLabel (c :: rest) then
      encodingLabel ++ pageEncoding ++ nameEncoding false true rest
    else if (Chars.isBlank c || c = ';') && Chars.startsWith encodingLabel rest then
      c :: encodingLabel ++ pageEncoding ++ nameEncoding false true rest
    else c :: nameEncoding (c = '\n') false rest

/-- Changes the text under a name. -/
def changeText (name : String) (change : List Char → List Char) (attributes : List Attribute) :
    List Attribute :=
  attributes.map fun a =>
    match a.value with
    | .text value => if a.name == name then ⟨a.name, .text (Text.onChars change value)⟩ else a
    | _ => a

/-- The text under a name. -/
def textUnder? (name : String) (attributes : List Attribute) : Option String :=
  attributes.findSome? fun a =>
    match a.value with
    | .text value => if a.name == name then some value else none
    | _ => none

/-- The attributes of an element as they are written. Only `meta` elements name an encoding: under
`charset`, or within their `content` if they stand for the head line of that kind. -/
def writtenAttributes (element : String) (attributes : List Attribute) : List Attribute :=
  if element != "meta" then attributes
  else if (textUnder? "charset" attributes).isSome then
    changeText "charset" (fun _ => pageEncoding) attributes
  else if (textUnder? "http-equiv" attributes).map Text.lower == some "content-type" then
    changeText "content" (nameEncoding true false) attributes
  else attributes

/-! ## Trees -/

/-- An attribute with a blank in front. -/
def Attribute.markup (a : Attribute) : String :=
  match a.value with
  | .bare => " " ++ a.name
  | .text value => " " ++ a.name ++ "=" ++ quoteValue (escape value)
  | .words items => " " ++ a.name ++ "=" ++ quoteValue (escape (Text.join " " items))

/-- Attributes in the order of their names. -/
def attributesMarkup (attributes : List Attribute) : String :=
  String.join ((attributes.mergeSort fun a b => a.name ≤ b.name).map Attribute.markup)

/-- A piece of character data; text is escaped unless it is `raw`. -/
def leafMarkup (raw : Bool) (kind : LeafKind) (text : String) : String :=
  match kind with
  | .plain | .reserved _ => if raw then text else escape text
  | .cdata => "<![CDATA[" ++ text ++ "]]>"
  | .comment => "<!--" ++ text ++ "-->"
  | .doctype => "<!DOCTYPE " ++ text ++ ">\n"
  | .instruction => "<?" ++ text ++ ">"
  | .declaration => "<?" ++ text ++ "?>"

/-- Elements whose text is written without escapes. -/
def isRawOwner (name : String) : Bool :=
  name == "script" || name == "style"

mutual

/-- A tree as markup, `raw` telling whether the parent's text is written without escapes. -/
def Node.markupIn (raw : Bool) : Node → String
  | .leaf kind text => leafMarkup raw kind text
  | .element name attributes children =>
    if children.isEmpty && voidNames.contains name then
      "<" ++ name ++ attributesMarkup (writtenAttributes name attributes) ++ "/>"
    else
      "<" ++ name ++ attributesMarkup (writtenAttributes name attributes) ++ ">" ++
        Node.markupAll (isRawOwner name) children ++ "</" ++ name ++ ">"
  | .document children => Node.markupAll false children

/-- `Node.markupIn` for a list of siblings. -/
def Node.markupAll (raw : Bool) : List Node → String
  | [] => ""
  | node :: rest => Node.markupIn raw node ++ Node.markupAll raw rest

end

/-- A tree as markup; character data on its own is its bare text. -/
def Node.markup : Node → String
  | .leaf _ text => text
  | node => node.markupIn false

end Transcript.Markup
