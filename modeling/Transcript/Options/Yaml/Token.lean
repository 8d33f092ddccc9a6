import Transcript.Options.Yaml.Place

/-!
# Tokens

The tokens of a file: marks of documents, of collections, of keys and values, and what stands for
nodes or belongs to them. Where indentation opens or closes a collection, that is a token too.
-/

namespace Transcript.Yaml

/-- A directive in front of a document. -/
inductive Directive where
  /-- The version that the document is written in. -/
  | version (major minor : Nat)
  /-- The meaning of a handle of tags. -/
  | handle (name meaning : String)
  /-- Any other directive. -/
  | other
  deriving DecidableEq

/-- A token. -/
inductive Token where
  /-- A directive. -/
  | directive (d : Directive)
  /-- The mark in front of a document. -/
  | documentStart
  /-- The mark behind a document. -/
  | documentEnd
  /-- The end of the file. -/
  | fileEnd
  /-- A list by indentation begins. -/
  | blockList
  /-- A mapping by indentation begins. -/
  | blockMapping
  /-- A collection by indentation ends. -/
  | blockEnd
  /-- A list in brackets begins. -/
  | openList
  /-- A mapping in brackets begins. -/
  | openMapping
  /-- A list in brackets ends. -/
  | closeList
  /-- A mapping in brackets ends. -/
  | closeMapping
  /-- A key follows. -/
  | key
  /-- A value follows. -/
  | value
  /-- An item of a list follows. -/
  | item
  /-- A comma in brackets. -/
  | comma
  /-- An alias for a node. -/
  | aliasOf (name : String)
  /-- An anchor of the node that follows. -/
  | anchor (name : String)
  /-- A tag of the node that follows: its handle, if it has one, and its name. -/
  | tag (handle : Option String) (name : String)
  /-- A scalar by its code points; plain ones are neither in quotes nor of whole lines. -/
  | scalar (points : List Nat) (isPlain : Bool)
  deriving DecidableEq

/-- The name of a token in messages. -/
def Token.label : Token → String
  | directive _ => "<directive>"
  | documentStart => "<document start>"
  | documentEnd => "<document end>"
  | fileEnd => "<stream end>"
  | blockList => "<block sequence start>"
  | blockMapping => "<block mapping start>"
  | blockEnd => "<block end>"
  | openList => "["
  | openMapping => "\x7b"
  | closeList => "]"
  | closeMapping => "\x7d"
  | key => "?"
  | value => ":"
  | item => "-"
  | comma => ","
  | aliasOf _ => "<alias>"
  | anchor _ => "<anchor>"
  | tag _ _ => "<tag>"
  | scalar _ _ => "<scalar>"

/-- A token with its places. -/
structure Lexeme where
  /-- The token. -/
  token : Token
  /-- Where it begins. -/
  start : Place
  /-- Where it ends. -/
  finish : Place

end Transcript.Yaml
