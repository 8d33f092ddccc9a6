import Transcript.Markup.Printer
import Transcript.Text.Search

/-!
# Markup tokens

The pieces of a written page: start tags with their attributes, end tags, comments, document types
and the text between them. Scripts and style sheets are raw text up to their end tag.

## Main definitions

- `Token`: a piece of a page
- `readEntities`: text with its entities read
- `Token.scan`: the pieces of a page, in order
-/

namespace Transcript.Markup

/-- A piece of a written page. -/
inductive Token where
  /-- Text, with its entities read. -/
  | text (s : String)
  /-- A start tag; `closed` if it is its own end tag. -/
  | start (name : String) (attributes : List Attribute) (closed : Bool)
  /-- An end tag. -/
  | finish (name : String)
  /-- A comment. -/
  | comment (s : String)
  /-- A document type. -/
  | doctype (s : String)
  deriving Inhabited

/-- The entities that are read. -/
def pageEntities : List (List Char × Char) := [
  ("&amp;".toList, '&'),
  ("&lt;".toList, '<'),
  ("&gt;".toList, '>'),
  ("&quot;".toList, '\x22'),
  ("&#39;".toList, '\x27'),
  ("&nbsp;".toList, '\u00a0')]

/-- Text with its entities read; `skip` counts the characters that belong to one already read. -/
def readEntitiesFrom (skip : Nat) : List Char → List Char
  | [] => []
  | c :: rest =>
    match skip with
    | k + 1 => readEntitiesFrom k rest
    | 0 =>
      match pageEntities.find? fun e => Chars.startsWith e.1 (c :: rest) with
      | some (written, meant) => meant :: readEntitiesFrom (written.length - 1) rest
      | none => c :: readEntitiesFrom 0 rest

/-- Text with its entities read. -/
def readEntities (s : List Char) : String :=
  String.ofList (readEntitiesFrom 0 s)

/-- What stands in front of the first occurrence of `mark`, and what follows it. Without an
occurrence everything stands in front. -/
def breakAt (mark : List Char) : List Char → List Char × List Char
  | [] => ([], [])
  | c :: rest =>
    match Chars.dropStart? mark (c :: rest) with
    | some after => ([], after)
    | none =>
      let (before, after) := breakAt mark rest
      (c :: before, after)

/-- Characters that end a name in a tag. -/
def endsName (c : Char) : Bool :=
  Chars.isBlank c || c = '>' || c = '/' || c = '='

/-- The value of an attribute, and what follows it. -/
def attributeValue : List Char → String × List Char
  | '"' :: rest => let (value, rest) := breakAt ['"'] rest; (readEntities value, rest)
  | '\'' :: rest => let (value, rest) := breakAt ['\''] rest; (readEntities value, rest)
  | s =>
    let (value, rest) := s.span fun c => !(Chars.isBlank c || c = '>')
    (readEntities value, rest)

/-- The attributes of a tag from some place on, their names in lower case, whether the tag is its
own end tag, and what follows the tag. Every attribute takes at least one character; `fuel` bounds
their number. -/
def tagRest (element : String) : Nat → List Char → List Attribute × Bool × List Char
  | 0, s => ([], false, s)
  | fuel + 1, s =>
    match Chars.trimStart s with
    | [] => ([], false, [])
    | '>' :: rest => ([], false, rest)
    | '/' :: '>' :: rest => ([], true, rest)
    | '/' :: rest => tagRest element fuel rest
    | s =>
      let (name, rest) := s.span fun c => !endsName c
      let (value, rest) :=
        match Chars.trimStart rest with
        | '=' :: rest => attributeValue (Chars.trimStart rest)
        | _ => ("", rest)
      let a := Attribute.store element ⟨Text.lower (String.ofList name), .text value⟩
      let (others, closed, rest) := tagRest element fuel rest
      (a :: others, closed, rest)

/-- Elements whose content is raw text. -/
def rawTextNames : List String := ["script", "style"]

/-- The markup at the beginning of a text, and what follows it; `none` if there is none. -/
def markupToken? : List Char → Option (List Token × List Char)
  | '<' :: '!' :: '-' :: '-' :: rest =>
    let (inner, rest) := breakAt "-->".toList rest
    some ([.comment (String.ofList inner)], rest)
  | '<' :: '!' :: rest =>
    let (inner, rest) := breakAt ['>'] rest
    some ([.doctype (String.ofList (inner.drop "DOCTYPE ".length))], rest)
  | '<' :: '/' :: rest =>
    let (inner, rest) := breakAt ['>'] rest
    some ([.finish (Text.lower (String.ofList (Chars.trim inner)))], rest)
  | '<' :: c :: rest =>
    if c.isAlpha then
      let (name, rest) := (c :: rest).span fun c => !endsName c
      let name := Text.lower (String.ofList name)
      let (attributes, closed, rest) := tagRest name (rest.length + 1) rest
      let start := Token.start name attributes closed
      -- Raw text ends at its own end tag only.
      if rawTextNames.contains name && !closed then
        let (raw, rest) := breakAt ("</" ++ name ++ ">").toList rest
        let raw := if raw.isEmpty then [] else [Token.text (String.ofList raw)]
        some (start :: raw ++ [.finish name], rest)
      else some ([start], rest)
    else none
  | _ => none

/-- Text that has been read, as tokens; `read` is in reverse. -/
def textToken (read : List Char) : List Token :=
  if read.isEmpty then [] else [.text (readEntities read.reverse)]

/-- The pieces of a page, `read` being the text read so far, in reverse. Every step takes at least
one character; `fuel` bounds their number. -/
def scanFrom (read : List Char) : Nat → List Char → List Token
  | 0, _ => textToken read
  | _ + 1, [] => textToken read
  | fuel + 1, c :: rest =>
    match markupToken? (c :: rest) with
    | some (tokens, after) => textToken read ++ tokens ++ scanFrom [] fuel after
    | none => scanFrom (c :: read) fuel rest

/-- The pieces of a page, in order. -/
def Token.scan (page : String) : List Token :=
  scanFrom [] (page.length + 1) page.toList

end Transcript.Markup
