import Transcript.Diagnostic.Event
import Transcript.Document.Token
import Transcript.Markup.Query

/-!
# Reading pages

The tree of a written page. Elements are closed by their end tags; void elements have none. Strings
of nothing but blanks shrink to a single line feed or space, except where blanks are to be kept.

What is converted of a page is its root: the first element that matches a selector, or else the
body, or else the whole page.

## Main definitions

- `Builder`: a tree under construction
- `readPage`: the tree of a page
- `loadPage`: the tree of a page, with a report on the reader that was used
- `selectRoot`: the part of a page that is converted
-/

namespace Transcript

namespace Markup

/-- An element under construction: its children stand in reverse. -/
structure OpenElement where
  /-- The name. -/
  name : String
  /-- The attributes. -/
  attributes : List Attribute
  /-- The children so far, the last one first. -/
  children : List Node

/-- A tree under construction: the open elements, innermost first, and the top level. -/
structure Builder where
  /-- The open elements, innermost first. -/
  stack : List OpenElement := []
  /-- The nodes of the top level, the last one first. -/
  top : List Node := []

namespace Builder

/-- Adds a node at the innermost place. -/
def add (b : Builder) (node : Node) : Builder :=
  match b.stack with
  | [] => { b with top := node :: b.top }
  | e :: outer => { b with stack := { e with children := node :: e.children } :: outer }

/-- Closes the innermost element. -/
def closeOne (b : Builder) : Builder :=
  match b.stack with
  | [] => b
  | e :: outer =>
    add { b with stack := outer } (.element e.name e.attributes e.children.reverse)

/-- Closes the given number of elements. -/
def closeMany : Nat → Builder → Builder
  | 0, b => b
  | n + 1, b => closeMany n b.closeOne

/-- Closes the innermost element of a name, and what is open inside it; nothing if there is none. -/
def close (b : Builder) (name : String) : Builder :=
  -- An end tag without its start is passed over.
  match b.stack.findIdx? fun e => e.name == name with
  | none => b
  | some depth => closeMany (depth + 1) b

/-- Elements in which blanks are kept. -/
def keepsBlanks : List String := ["pre", "textarea"]

/-- Blanks that shrink. -/
def isPageBlank (c : Char) : Bool :=
  c = ' ' || c = '\n' || c = '\t' || c = '\x0c' || c = '\r'

/-- A string as it is stored: blanks shrink. -/
def shrink (s : String) : String :=
  if s.toList.all isPageBlank then (if s.toList.contains '\n' then "\n" else " ") else s

/-- A string as it is stored at the present place. -/
def stored (b : Builder) (s : String) : String :=
  if b.stack.any fun e => keepsBlanks.contains e.name then s else shrink s

/-- The first of the attributes of each name. -/
def firstOfEach : List Attribute → List Attribute
  | [] => []
  | a :: rest => a :: (firstOfEach rest).filter fun other => other.name != a.name

/-- One of the attributes of each name: the last one if `lastCounts`, else the first one. -/
def oneOfEach (lastCounts : Bool) (attributes : List Attribute) : List Attribute :=
  if lastCounts then (firstOfEach attributes.reverse).reverse else firstOfEach attributes

/-- Takes a token in. -/
def take (lastCounts : Bool) (b : Builder) : Token → Builder
  | .text s => b.add (.leaf .plain (b.stored s))
  | .comment s => b.add (.leaf .comment (b.stored s))
  | .doctype s => b.add (.leaf .doctype (b.stored s))
  | .finish name => b.close name
  | .start name attributes closed =>
    let attributes := oneOfEach lastCounts attributes
    if closed || voidNames.contains name then b.add (.element name attributes [])
    else { b with stack := ⟨name, attributes, []⟩ :: b.stack }

/-- The finished tree. -/
def finish (b : Builder) : Node :=
  (Node.document (closeMany b.stack.length b).top.reverse).settle

end Builder

/-- The tree of a page. Of attributes of one name in a tag the last one counts if `lastCounts`, else
the first one. -/
def readPage (lastCounts : Bool) (page : String) : Node :=
  ((Token.scan page).foldl (Builder.take lastCounts) {}).finish

/-- The reader that is always there. -/
def plainReader : String := "html.parser"

/-- The readers that are there. -/
def knownReaders : List String := [plainReader, "lxml"]

/-- The reader that is used where another one may be wanted: the plain one if that is not there. -/
def usedReader (wanted : String) : String :=
  if knownReaders.contains wanted then wanted else plainReader

/-- The tree of a page. Where the wanted reader is not there, another one is used and that is
reported. The plain reader lets the last of several attributes count. -/
def loadPage (page wanted : String) : Node × List Diagnostic :=
  let used := usedReader wanted
  (readPage (used == plainReader) page,
    if used == wanted then [] else [.event (Event.parserFallback wanted used)])

end Markup

open Markup

/-- The part of a page that is converted. An empty selector counts as none. -/
def selectRoot (page : Cursor) (selector : Option String) : Except Fault Cursor :=
  match selector.getD "" with
  | "" => .ok ((page.find? ["body"]).getD page)
  | selector =>
    match page.findText? selector with
    | .error fault => .error fault
    | .ok (some found) => .ok found
    | .ok none => .error (.of .notFound ("No element matches selector '" ++ selector ++ "'"))

end Transcript
