import Transcript.Options.Yaml.Lexer
import Transcript.Options.Yaml.Tag

/-!
# From tokens to nodes

A document is one node: a scalar, a list of nodes, or a mapping of nodes to nodes. A node may have
an anchor; an alias stands for the node that has one.

The recursion of the readers is bounded by fuel, of which every token takes some.

## Main definitions

- `Node`: a node with its tag and the place where it begins
- `Reading`: the tokens, and what is known of handles and anchors
- `readNode`: the reader of nodes
- `readFile`: the only document of a file, if it has one
-/

namespace Transcript.Yaml

/-- A node. -/
inductive Node where
  /-- A scalar by its code points. -/
  | scalar (tag : Tag) (points : List Nat) (place : Place)
  /-- A list. -/
  | list (tag : Tag) (items : List Node) (place : Place)
  /-- A mapping. -/
  | mapping (tag : Tag) (entries : List (Node × Node)) (place : Place)

namespace Node

/-- Where a node begins. -/
def place : Node → Place
  | scalar _ _ p | list _ _ p | mapping _ _ p => p

/-- The tag of a node. -/
def tag : Node → Tag
  | scalar t _ _ | list t _ _ | mapping t _ _ => t

/-- The name of the kind of a node in messages. -/
def label : Node → String
  | scalar _ _ _ => "scalar"
  | list _ _ _ => "sequence"
  | mapping _ _ _ => "mapping"

/-- A scalar of nothing. -/
def empty (p : Place) : Node := scalar .null [] p

end Node

/-! ## Reading -/

/-- The tokens of a file, and what is known of handles and anchors. -/
structure Reading where
  /-- The tokens. -/
  lexer : Lexer
  /-- The handles of tags, with their meanings. -/
  handles : List (String × String) := []
  /-- The anchors set so far, the last one first. -/
  anchors : List (String × Node) := []

/-- A reader of nodes. -/
abbrev Reader := StateT Reading (Except Misreading)

/-- Stops for a flaw. -/
def fail {α : Type} (activity : Option Activity) (since : Option Place) (problem : Problem)
    (p : Place) : Reader α :=
  StateT.lift (stop activity since problem p)

/-- The next token. -/
def peekToken : Reader Lexeme := fun r =>
  r.lexer.peek.map fun (lexeme, lexer) => (lexeme, { r with lexer })

/-- Takes the next token. -/
def takeToken : Reader Lexeme := fun r =>
  r.lexer.take.map fun (lexeme, lexer) => (lexeme, { r with lexer })

/-- Whether the next token is one of some. -/
def nextIsIn (tokens : List Token) : Reader Bool := do
  return tokens.contains (← peekToken).token

/-- The handles that are always declared. -/
def commonHandles : List (String × String) := [("!", "!"), ("!!", Tag.family)]

/-- What is written in front of a node. -/
structure Properties where
  /-- Its anchor. -/
  anchor : Option String := none
  /-- The name of its tag. -/
  tag : Option String := none
  /-- Where the first of them begins. -/
  start : Option Place := none

/-- The tag that needs no value to be known: it leaves the kind of a node open. -/
def openTag : String := "!"

/-- The name of a tag; its handle has to be declared. -/
def tagName (since tagPlace : Place) (handle : Option String) (name : String) : Reader String := do
  match handle with
  | none => return name
  | some handle =>
    match (← get).handles.lookup handle with
    | some meaning => return meaning ++ name
    | none => fail Activity.node since (.unknownHandle handle) tagPlace

/-- Reads an anchor and a tag, in any order and as far as they are there. -/
def readProperties : Reader Properties := do
  let first ← peekToken
  match first.token with
  | .anchor anchor =>
    let _ ← takeToken
    let second ← peekToken
    match second.token with
    | .tag handle name =>
      let _ ← takeToken
      let tag ← tagName first.start second.start handle name
      return { anchor, tag, start := first.start }
    | _ => return { anchor, start := first.start }
  | .tag handle name =>
    let _ ← takeToken
    let second ← peekToken
    let anchor ← match second.token with
      | .anchor anchor => do
        let _ ← takeToken
        pure (some anchor)
      | _ => pure none
    let tag ← tagName first.start first.start handle name
    return { anchor, tag, start := first.start }
  | _ => return {}

/-- The tag that a collection has: the written one, or else the common one. -/
def Properties.collectionTag (p : Properties) (common : Tag) : Tag :=
  match p.tag with
  | none => common
  | some name => if name == openTag then common else .ofUri name

/-- The tag that a scalar has: the written one; else a plain scalar tells it by its form, and any
other one is a text. -/
def Properties.scalarTag (p : Properties) (points : List Nat) (isPlain : Bool) : Tag :=
  let found := Tag.ofPlain (points.map Char.ofNat)
  match p.tag with
  | none => if isPlain then found else .text
  | some name => if name == openTag then found else .ofUri name

/-- Sets an anchor, which may not be set already. -/
def setAnchor (anchor : Option String) (node : Node) : Reader Unit := do
  match anchor with
  | none => return
  | some name =>
    match (← get).anchors.lookup name with
    | some found => fail (Activity.anchored name) found.place .secondAnchor node.place
    | none => modify fun r => { r with anchors := (name, node) :: r.anchors }

/-- Moves an anchor from a collection without content to the collection with it. -/
def moveAnchor (anchor : Option String) (node : Node) : Reader Node := do
  match anchor with
  | none => return node
  | some name =>
    modify fun r => { r with anchors := (name, node) :: r.anchors }
    return node

/-- The node that an alias stands for. Inside the node itself it stands for one without content. -/
def aliased (name : String) (p : Place) : Reader Node := do
  match (← get).anchors.lookup name with
  | some node => return node
  | none => fail none none (.unknownAlias name) p

/-- A node without content: an empty scalar if something is written in front of it, and else a
flaw. -/
def noContent (p : Properties) (lexeme : Lexeme) (place : Place) (isBlock : Bool) : Reader Node :=
  if p.anchor.isSome || p.tag.isSome then do
    let node := Node.scalar (p.scalarTag [] true) [] place
    setAnchor p.anchor node
    return node
  else
    fail (if isBlock then Activity.blockNode else Activity.flowNode) place
      (.token .content lexeme.token.label) lexeme.start

/-- Reads a node, or nothing in front of some tokens. -/
def orEmpty (stops : List Token) (p : Place) (node : Reader Node) : Reader Node := do
  if ← nextIsIn stops then return Node.empty p else node

/-- Reads a value with its sign; where there is none, the value is nothing. -/
def readValue (stops : List Token) (node : Reader Node) : Reader Node := do
  let lexeme ← peekToken
  if lexeme.token = .value then
    let _ ← takeToken
    orEmpty stops lexeme.finish node
  else return Node.empty lexeme.start

/-- The tokens in front of which a key or a value by indentation is missing. -/
def blockStops : List Token := [.key, .value, .blockEnd]

mutual

/-- Reads a node. `isBlock` says that it may be a collection by indentation, and `isUnindented` that
it may be a list that is not indented. -/
def readNode (isBlock isUnindented : Bool) : Nat → Reader Node
  | 0 => return Node.empty {}
  | fuel + 1 => do
    let first ← peekToken
    match first.token with
    | .aliasOf name =>
      let _ ← takeToken
      aliased name first.start
    | _ => readContent isBlock isUnindented (← readProperties) fuel

/-- Reads a node behind its properties. -/
def readContent (isBlock isUnindented : Bool) (p : Properties) : Nat → Reader Node
  | 0 => return Node.empty {}
  | fuel + 1 => do
    let lexeme ← peekToken
    let place := p.start.getD lexeme.start
    let list (items : Reader (List Node)) : Reader Node := do
      let tag := p.collectionTag .list
      setAnchor p.anchor (.list tag [] place)
      moveAnchor p.anchor (.list tag (← items) place)
    let mapping (entries : Reader (List (Node × Node))) : Reader Node := do
      let tag := p.collectionTag .mapping
      setAnchor p.anchor (.mapping tag [] place)
      moveAnchor p.anchor (.mapping tag (← entries) place)
    match lexeme.token with
    | .scalar points isPlain =>
      let _ ← takeToken
      let node := Node.scalar (p.scalarTag points isPlain) points place
      setAnchor p.anchor node
      return node
    | .openList => list (readFlowItems lexeme.start true fuel)
    | .openMapping => mapping (readFlowEntries lexeme.start true fuel)
    | .item =>
      if isUnindented then list (readUnindented fuel) else noContent p lexeme place isBlock
    | .blockList =>
      if isBlock then list (readBlockItems lexeme.start true fuel)
      else noContent p lexeme place isBlock
    | .blockMapping =>
      if isBlock then mapping (readBlockEntries lexeme.start true fuel)
      else noContent p lexeme place isBlock
    | _ => noContent p lexeme place isBlock

/-- Reads the items of a list by indentation up to its end. The opening token is still there if
`isFirst`. -/
def readBlockItems (since : Place) (isFirst : Bool) : Nat → Reader (List Node)
  | 0 => return []
  | fuel + 1 => do
    if isFirst then discard takeToken
    let lexeme ← takeToken
    match lexeme.token with
    | .item =>
      let node ← orEmpty [.item, .blockEnd] lexeme.finish (readNode true false fuel)
      return node :: (← readBlockItems since false fuel)
    | .blockEnd => return []
    | token => fail Activity.blockList since (.token .blockEnd token.label) lexeme.start

/-- Reads the items of a list that is not indented. -/
def readUnindented : Nat → Reader (List Node)
  | 0 => return []
  | fuel + 1 => do
    let lexeme ← peekToken
    if lexeme.token = .item then
      let _ ← takeToken
      let node ← orEmpty (.item :: blockStops) lexeme.finish (readNode true false fuel)
      return node :: (← readUnindented fuel)
    else return []

/-- Reads the entries of a mapping by indentation up to its end. The opening token is still there if
`isFirst`. -/
def readBlockEntries (since : Place) (isFirst : Bool) : Nat → Reader (List (Node × Node))
  | 0 => return []
  | fuel + 1 => do
    if isFirst then discard takeToken
    let lexeme ← takeToken
    match lexeme.token with
    | .key =>
      let key ← orEmpty blockStops lexeme.finish (readNode true true fuel)
      let value ← readValue blockStops (readNode true true fuel)
      return (key, value) :: (← readBlockEntries since false fuel)
    | .blockEnd => return []
    | token => fail Activity.blockMapping since (.token .blockEnd token.label) lexeme.start

/-- Reads the items of a list in brackets up to its end. An item with a key is a mapping of one
entry. The opening token is still there if `isFirst`. -/
def readFlowItems (since : Place) (isFirst : Bool) : Nat → Reader (List Node)
  | 0 => return []
  | fuel + 1 => do
    if isFirst then discard takeToken
    else if !(← nextIsIn [.closeList]) then
      let lexeme ← takeToken
      if lexeme.token ≠ .comma then
        fail Activity.flowList since (.token .flowItem lexeme.token.label) lexeme.start
    let lexeme ← peekToken
    match lexeme.token with
    | .closeList =>
      let _ ← takeToken
      return []
    | .key =>
      let _ ← takeToken
      let key ← orEmpty [.value, .comma, .closeList] lexeme.finish (readNode false false fuel)
      let value ← readValue [.comma, .closeList] (readNode false false fuel)
      let node := Node.mapping .mapping [(key, value)] lexeme.start
      return node :: (← readFlowItems since false fuel)
    | _ =>
      let node ← readNode false false fuel
      return node :: (← readFlowItems since false fuel)

/-- Reads the entries of a mapping in brackets up to its end. The opening token is still there if
`isFirst`. -/
def readFlowEntries (since : Place) (isFirst : Bool) : Nat → Reader (List (Node × Node))
  | 0 => return []
  | fuel + 1 => do
    if isFirst then discard takeToken
    else if !(← nextIsIn [.closeMapping]) then
      let lexeme ← takeToken
      if lexeme.token ≠ .comma then
        fail Activity.flowMapping since (.token .flowEntry lexeme.token.label) lexeme.start
    let lexeme ← peekToken
    match lexeme.token with
    | .closeMapping =>
      let _ ← takeToken
      return []
    | .key =>
      let _ ← takeToken
      let key ← orEmpty [.value, .comma, .closeMapping] lexeme.finish (readNode false false fuel)
      let value ← readValue [.comma, .closeMapping] (readNode false false fuel)
      return (key, value) :: (← readFlowEntries since false fuel)
    | _ =>
      let key ← readNode false false fuel
      let value := Node.empty (← peekToken).start
      return (key, value) :: (← readFlowEntries since false fuel)

end

/-! ## Documents -/

/-- What the directives in front of a document declare: whether a version, and which handles. -/
structure Declared where
  /-- Whether a version has been declared. -/
  hasVersion : Bool := false
  /-- The handles, with their meanings. -/
  handles : List (String × String) := []

/-- Takes in a directive. -/
def Declared.add (d : Declared) (directive : Directive) (p : Place) : Reader Declared :=
  match directive with
  | .version major _ =>
    if d.hasVersion then fail none none .repeatedVersion p
    else if major ≠ 1 then fail none none .unknownVersion p
    else return { d with hasVersion := true }
  | .handle name meaning =>
    if (d.handles.lookup name).isSome then fail none none (.repeatedHandle name) p
    else return { d with handles := d.handles ++ [(name, meaning)] }
  | .other => return d

/-- Reads the directives in front of a document. -/
def readDirectives (d : Declared) : Nat → Reader Declared
  | 0 => return d
  | fuel + 1 => do
    let lexeme ← peekToken
    match lexeme.token with
    | .directive directive =>
      let _ ← takeToken
      readDirectives (← d.add directive lexeme.start) fuel
    | _ => return d

/-- Takes the tokens of one kind that come next. -/
def skipTokens (token : Token) : Nat → Reader Unit
  | 0 => return
  | fuel + 1 => do
    if ← nextIsIn [token] then
      let _ ← takeToken
      skipTokens token fuel

/-- Whether a document comes next. Its directives and the mark in front of it are read. -/
def readStart (fuel : Nat) : Reader Bool := do
  skipTokens .documentEnd fuel
  if ← nextIsIn [.fileEnd] then return false
  let declared ← readDirectives {} fuel
  let lexeme ← peekToken
  if lexeme.token ≠ .documentStart then
    fail none none (.token .documentStart lexeme.token.label) lexeme.start
  let _ ← takeToken
  modify fun r => { r with handles := declared.handles ++ commonHandles }
  return true

/-- Whether a token is a directive. -/
def Token.isDirective : Token → Bool
  | .directive _ => true
  | _ => false

/-- Reads the document in front of everything, if there is one. It needs no mark in front of it. -/
def readDocument (fuel : Nat) : Reader (Option Node) := do
  let first := (← peekToken).token
  if first.isDirective || [.documentStart, .fileEnd].contains first then
    if ← readStart fuel then
      let lexeme ← peekToken
      if lexeme.token.isDirective ||
          [.documentStart, .documentEnd, .fileEnd].contains lexeme.token then
        return some (Node.empty lexeme.start)
      else return some (← readNode true false fuel)
    else return none
  else
    modify fun r => { r with handles := commonHandles }
    return some (← readNode true false fuel)

/-- Reads the only document of a file, if there is one. -/
def readFile (fuel : Nat) : Reader (Option Node) := do
  match ← readDocument fuel with
  | none => return none
  | some node =>
    skipTokens .documentEnd fuel
    let second := (← peekToken).start
    if ← readStart fuel then
      fail Activity.document node.place .secondDocument second
    else return some node

end Transcript.Yaml
