import Transcript.Fault.Basic
import Transcript.Options.Yaml.Place

/-!
# Why a file spells no data

A flaw says what was being read, since which place, what is wrong, and where.

## Main definitions

- `Activity`, `Problem`: what was being read, and what is wrong
- `Flaw`, `Flaw.fault`: a flaw, and the fault that it makes
- `Misreading`: a flaw, or a value that cannot be held
-/

namespace Transcript.Yaml

open Number (integerText)

/-- What was being read. -/
inductive Activity where
  /-- Any token. -/
  | token
  /-- A key that stands on one line. -/
  | simpleKey
  /-- A directive. -/
  | directive
  /-- A part of a directive that names something. -/
  | directiveName
  /-- An anchor. -/
  | anchor
  /-- An alias. -/
  | aliasName
  /-- A tag. -/
  | tag
  /-- The part of a tag that names something. -/
  | tagName
  /-- A scalar of whole lines. -/
  | blockScalar
  /-- A scalar in quotes. -/
  | quoted
  /-- A scalar in double quotes. -/
  | doubleQuoted
  /-- Anything with properties. -/
  | node
  /-- Anything outside brackets. -/
  | blockNode
  /-- Anything inside brackets. -/
  | flowNode
  /-- A list by indentation. -/
  | blockList
  /-- A mapping by indentation. -/
  | blockMapping
  /-- A list in brackets. -/
  | flowList
  /-- A mapping in brackets. -/
  | flowMapping
  /-- The only document of a file. -/
  | document
  /-- An anchor that is set already. -/
  | anchored (name : String)
  /-- The value of a mapping. -/
  | mapping
  deriving DecidableEq

/-- The words for what was being read. -/
def Activity.words : Activity → String
  | token => "while scanning for the next token"
  | simpleKey => "while scanning a simple key"
  | directive => "while scanning a directive"
  | directiveName => "while parsing a directive"
  | anchor => "while scanning an anchor"
  | aliasName => "while scanning an alias"
  | tag => "while scanning a tag"
  | tagName => "while parsing a tag"
  | blockScalar => "while scanning a block scalar"
  | quoted => "while scanning a quoted scalar"
  | doubleQuoted => "while scanning a double-quoted scalar"
  | node => "while parsing a node"
  | blockNode => "while parsing a block node"
  | flowNode => "while parsing a flow node"
  | blockList => "while parsing a block collection"
  | blockMapping => "while parsing a block mapping"
  | flowList => "while parsing a flow sequence"
  | flowMapping => "while parsing a flow mapping"
  | document => "expected a single document in the stream"
  | anchored name => "found duplicate anchor " ++ Text.quoted name ++ "; first occurrence"
  | mapping => "while constructing a mapping"

/-- What should have been there. -/
inductive Wanted where
  /-- A character of a name. -/
  | nameChar
  /-- A digit. -/
  | digit
  /-- A digit or a point. -/
  | digitOrPoint
  /-- A digit or a space. -/
  | digitOrSpace
  /-- A space. -/
  | space
  /-- The end of the line. -/
  | lineEnd
  /-- An exclamation mark. -/
  | bang
  /-- A closing angle bracket. -/
  | angle
  /-- A name of a tag. -/
  | uri
  /-- Two digits of an escape in the name of a tag. -/
  | uriEscape
  /-- Digits of an escape. -/
  | escape (digits : Nat)
  /-- The head of a scalar of whole lines. -/
  | indicators
  /-- The start of a document. -/
  | documentStart
  /-- The end of a block. -/
  | blockEnd
  /-- Something with content. -/
  | content
  /-- The next item of a list in brackets, or its end. -/
  | flowItem
  /-- The next entry of a mapping in brackets, or its end. -/
  | flowEntry
  /-- A scalar. -/
  | scalarNode
  /-- A list. -/
  | listNode
  /-- A mapping. -/
  | mappingNode
  /-- A mapping to take entries from. -/
  | mergeItem
  /-- A mapping, or a list of mappings, to take entries from. -/
  | mergeSource
  deriving DecidableEq

/-- The words for what should have been there. -/
def Wanted.words : Wanted → String
  | nameChar => "alphabetic or numeric character"
  | digit => "a digit"
  | digitOrPoint => "a digit or '.'"
  | digitOrSpace => "a digit or ' '"
  | space => "' '"
  | lineEnd => "a comment or a line break"
  | bang => "'!'"
  | angle => "'>'"
  | uri => "URI"
  | uriEscape => "URI escape sequence of 2 hexadecimal numbers"
  | escape digits => "escape sequence of " ++ integerText digits ++ " hexadecimal numbers"
  | indicators => "chomping or indentation indicators"
  | documentStart => "'<document start>'"
  | blockEnd => "<block end>"
  | content => "the node content"
  | flowItem => "',' or ']'"
  | flowEntry => "',' or '\x7d'"
  | scalarNode => "a scalar node"
  | listNode => "a sequence node"
  | mappingNode => "a mapping node"
  | mergeItem => "a mapping for merging"
  | mergeSource => "a mapping or list of mappings for merging"

/-- What is wrong. -/
inductive Problem where
  /-- Another character was wanted. -/
  | character (wanted : Wanted) (found : Char)
  /-- Another token was wanted. -/
  | token (wanted : Wanted) (found : String)
  /-- Another kind of node was wanted. -/
  | nodeKind (wanted : Wanted) (found : String)
  /-- A key lacks its colon. -/
  | noColon
  /-- No token begins with the character. -/
  | noToken (found : Char)
  /-- An item of a list stands where none may. -/
  | misplacedItem
  /-- A key stands where none may. -/
  | misplacedKey
  /-- A value stands where none may. -/
  | misplacedValue
  /-- The indentation of a scalar of whole lines is zero. -/
  | zeroIndentation
  /-- There is no such escape. -/
  | unknownEscape (found : Char)
  /-- The file ends. -/
  | endOfFile
  /-- The document ends. -/
  | endOfDocument
  /-- The name of a tag has escapes that spell no text. -/
  | brokenUri (reason : String)
  /-- The version is given twice. -/
  | repeatedVersion
  /-- The version is not known. -/
  | unknownVersion
  /-- A handle is declared twice. -/
  | repeatedHandle (handle : String)
  /-- A handle is not declared. -/
  | unknownHandle (handle : String)
  /-- An alias names no anchor. -/
  | unknownAlias (name : String)
  /-- An anchor is set a second time. -/
  | secondAnchor
  /-- There is a second document. -/
  | secondDocument
  /-- A tag says nothing about the value. -/
  | unknownTag (tag : String)
  /-- A key is a collection. -/
  | unhashableKey
  deriving DecidableEq

namespace Problem

/-- The words for a problem. -/
def words : Problem → String
  | character wanted found =>
    "expected " ++ wanted.words ++ ", but found " ++ Text.quoted (String.singleton found)
  | token wanted found =>
    "expected " ++ wanted.words ++
      (if wanted = .flowItem || wanted = .flowEntry then ", but got " else ", but found ") ++
      Text.quoted found
  | nodeKind wanted found => "expected " ++ wanted.words ++ ", but found " ++ found
  | noColon => "could not find expected ':'"
  | noToken found =>
    "found character " ++ Text.quoted (String.singleton found) ++ " that cannot start any token"
  | misplacedItem => "sequence entries are not allowed here"
  | misplacedKey => "mapping keys are not allowed here"
  | misplacedValue => "mapping values are not allowed here"
  | zeroIndentation => "expected indentation indicator in the range 1-9, but found 0"
  | unknownEscape found =>
    "found unknown escape character " ++ Text.quoted (String.singleton found)
  | endOfFile => "found unexpected end of stream"
  | endOfDocument => "found unexpected document separator"
  | brokenUri reason => reason
  | repeatedVersion => "found duplicate YAML directive"
  | unknownVersion => "found incompatible YAML document (version 1.* is required)"
  | repeatedHandle handle => "duplicate tag handle " ++ Text.quoted handle
  | unknownHandle handle => "found undefined tag handle " ++ Text.quoted handle
  | unknownAlias name => "found undefined alias " ++ Text.quoted name
  | secondAnchor => "second occurrence"
  | secondDocument => "but found another document"
  | unknownTag tag => "could not determine a constructor for the tag " ++ Text.quoted tag
  | unhashableKey => "found unhashable key"

/-- The kind of the fault that a problem makes. -/
def kind : Problem → FaultKind
  | token _ _ | repeatedVersion | unknownVersion | repeatedHandle _ | unknownHandle _ =>
    .badStructure
  | unknownAlias _ | secondAnchor | secondDocument => .badReference
  | nodeKind _ _ | unknownTag _ | unhashableKey => .badContent
  | _ => .badToken

end Problem

/-- Why a file spells no data. -/
inductive Flaw where
  /-- A character may not occur in it. -/
  | character (found : Char) (index : Nat)
  /-- Something is wrong at a place. -/
  | marked (activity : Option Activity) (since : Option Place) (problem : Problem) (place : Place)

namespace Flaw

/-- The words for a flaw. The place where reading began is told unless it is the flaw's own. -/
def words (text : List Char) : Flaw → String
  | character found index =>
    "unacceptable character #x" ++ String.ofList (Chars.hexDigits found.toNat 4) ++
      ": special characters are not allowed\n  in \"<unicode string>\", position " ++
      integerText index
  | marked activity since problem place =>
    let origin :=
      match since with
      | none => []
      | some p => if p.line = place.line && p.column = place.column then [] else [p.words text]
    Text.join "\n" ((activity.map Activity.words).toList ++ origin ++
      [problem.words, place.words text])

/-- The fault that a flaw makes. -/
def fault (text : List Char) (flaw : Flaw) : Fault :=
  let kind :=
    match flaw with
    | character _ _ => .badCharacter
    | marked _ _ problem _ => problem.kind
  .of kind (flaw.words text)

end Flaw

/-- Why reading a file stops. -/
inductive Misreading where
  /-- It spells no data. -/
  | flawed (flaw : Flaw)
  /-- It spells a value that cannot be held. -/
  | unheld (fault : Fault)

/-- Stops for a flaw. -/
def stop {α : Type} (activity : Option Activity) (since : Option Place) (problem : Problem)
    (place : Place) : Except Misreading α :=
  .error (.flawed (.marked activity since problem place))

end Transcript.Yaml
