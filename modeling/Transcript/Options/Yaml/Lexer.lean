import Transcript.Options.Yaml.Property

/-!
# From characters to tokens

Tokens are read as they are asked for. A key that stands on one line is known for one only when its
colon is met, so that tokens are held back while one of them may turn out to begin a key. Outside
brackets indentation opens and closes collections.

## Main definitions

- `PendingKey`: a token that may turn out to begin a key
- `Lexer`: the tokens held back, and where reading goes on
- `Lexer.fetch`: reads the next token
- `Lexer.peek`, `Lexer.take`: the next token that is certain
-/

namespace Transcript.Yaml

/-- A token that may turn out to begin a key. -/
structure PendingKey where
  /-- The number of the token. -/
  number : Nat
  /-- Whether it has to be a key, being the first thing on its line. -/
  isRequired : Bool
  /-- Where it begins. -/
  place : Place

/-- Where reading has got to. -/
structure Lexer where
  /-- What is left of the file. -/
  spot : Spot
  /-- The tokens held back. -/
  queue : List Lexeme := []
  /-- How many tokens have been given out. -/
  taken : Nat := 0
  /-- Whether the end of the file has been met. -/
  isDone : Bool := false
  /-- How many brackets are open; brackets that close nothing count too. -/
  level : Int := 0
  /-- The column of the innermost collection by indentation. -/
  indent : Int := -1
  /-- The columns of the collections around it, the nearest first. -/
  outer : List Int := []
  /-- Whether a key may begin here. -/
  mayBeginKey : Bool := true
  /-- The tokens that may turn out to begin keys, by the number of brackets around them. -/
  pending : List (Int × PendingKey) := []

namespace Lexer

/-- The lexer in front of a file. A mark of byte order at its beginning is passed over. -/
def ofText (text : List Char) : Lexer :=
  let s : Spot := { rest := text }
  { spot := if s.peek = byteOrderMark then s.next else s }

/-- The column where reading goes on. -/
def column (l : Lexer) : Int := l.spot.place.column

/-- Whether reading goes on inside brackets. -/
def inFlow (l : Lexer) : Bool := l.level ≠ 0

/-- Holds back a token. -/
def push (l : Lexer) (token : Token) (start finish : Place) : Lexer :=
  { l with queue := l.queue ++ [⟨token, start, finish⟩] }

/-- Holds back a token that takes no characters. -/
def pushHere (l : Lexer) (token : Token) : Lexer :=
  l.push token l.spot.place l.spot.place

/-- Holds back a token of some characters. -/
def pushSign (l : Lexer) (token : Token) (length : Nat) : Lexer :=
  let after := l.spot.skip length
  { l.push token l.spot.place after.place with spot := after }

/-! ## Keys on one line -/

/-- Stops for a key that lacks its colon. -/
def lacksColon {α : Type} (l : Lexer) (k : PendingKey) : Except Misreading α :=
  stop Activity.simpleKey k.place .noColon l.spot.place

/-- The most characters that a key may have. -/
def longestKey : Nat := 1024

/-- Whether a token can be no key any more: its line has ended, or it has become too long. -/
def isStale (l : Lexer) (k : PendingKey) : Bool :=
  k.place.line ≠ l.spot.place.line || k.place.index + longestKey < l.spot.place.index

/-- Gives up on the keys that are none any more. -/
def dropStale (l : Lexer) : Except Misreading Lexer :=
  match l.pending.find? fun e => l.isStale e.2 && e.2.isRequired with
  | some e => l.lacksColon e.2
  | none => .ok { l with pending := l.pending.filter fun e => !l.isStale e.2 }

/-- The token inside the present brackets that may turn out to begin a key. -/
def pendingHere? (l : Lexer) : Option PendingKey := l.pending.lookup l.level

/-- Forgets the key inside the present brackets. -/
def forgetHere (l : Lexer) : Lexer :=
  { l with pending := l.pending.filter fun e => e.1 ≠ l.level }

/-- Gives up on the key inside the present brackets. -/
def dropPending (l : Lexer) : Except Misreading Lexer :=
  match l.pendingHere? with
  | none => .ok l
  | some k => if k.isRequired then l.lacksColon k else .ok l.forgetHere

/-- Notes that the next token may turn out to begin a key. -/
def savePending (l : Lexer) : Except Misreading Lexer :=
  if !l.mayBeginKey then .ok l
  else
    l.dropPending.map fun l =>
      let k : PendingKey :=
        ⟨l.taken + l.queue.length, !l.inFlow && l.indent = l.column, l.spot.place⟩
      { l with pending := l.pending ++ [(l.level, k)] }

/-! ## Indentation -/

/-- Closes the collections that are indented more than a column. -/
def unwindFrom (l : Lexer) (column : Int) : List Int → Lexer
  | [] => l
  | around :: outer =>
    if column < l.indent then
      unwindFrom { l.pushHere .blockEnd with indent := around, outer } column outer
    else l

/-- Closes the collections that are indented more than a column. Brackets know no indentation. -/
def unwind (l : Lexer) (column : Int) : Lexer :=
  if l.inFlow then l else l.unwindFrom column l.outer

/-- Opens a collection at a column, unless one stands there already: its token is put in front of
the token with a number. -/
def indentTo (l : Lexer) (column : Int) (token : Token) (number : Nat) (p : Place) : Lexer :=
  if l.inFlow || column ≤ l.indent then l
  else
    { l with
      outer := l.indent :: l.outer
      indent := column
      queue := l.queue.insertIdx (number - l.taken) ⟨token, p, p⟩ }

/-- Opens a collection here. -/
def indentHere (l : Lexer) (token : Token) : Lexer :=
  l.indentTo l.column token (l.taken + l.queue.length) l.spot.place

/-! ## Tokens -/

/-- Skips spaces, comments and line ends. Behind the end of a line outside brackets a key may
begin. -/
def skipGap (l : Lexer) : Nat → Lexer
  | 0 => l
  | fuel + 1 =>
    let s := l.spot.skipComment
    match s.break? with
    | none => { l with spot := s }
    | some (_, s) =>
      skipGap { l with spot := s, mayBeginKey := l.mayBeginKey || !l.inFlow } fuel

/-- A mark of a document, the end of the file or a directive ends all collections. -/
def endDocument (l : Lexer) : Except Misreading Lexer :=
  (l.unwind (-1)).dropPending.map fun l => { l with mayBeginKey := false }

/-- The end of the file. -/
def fetchEnd (l : Lexer) : Except Misreading Lexer :=
  l.endDocument.map fun l => { l.pushHere .fileEnd with pending := [], isDone := true }

/-- A directive. -/
def fetchDirective (l : Lexer) : Except Misreading Lexer := do
  let l ← l.endDocument
  let (lexeme, spot) ← readDirective l.spot
  return { l with queue := l.queue ++ [lexeme], spot }

/-- A mark of a document. -/
def fetchMark (l : Lexer) (token : Token) : Except Misreading Lexer :=
  l.endDocument.map fun l => l.pushSign token 3

/-- An opening bracket. -/
def fetchOpening (l : Lexer) (token : Token) : Except Misreading Lexer :=
  l.savePending.map fun l =>
    { l with level := l.level + 1, mayBeginKey := true }.pushSign token 1

/-- A closing bracket. -/
def fetchClosing (l : Lexer) (token : Token) : Except Misreading Lexer :=
  l.dropPending.map fun l =>
    { l with level := l.level - 1, mayBeginKey := false }.pushSign token 1

/-- Holds back a sign that leaves no key in front of it, and says whether one may begin behind it.
-/
def pushApart (l : Lexer) (mayBeginKey : Bool) (token : Token) : Except Misreading Lexer :=
  l.dropPending.map fun l => { l with mayBeginKey }.pushSign token 1

/-- A comma in brackets. -/
def fetchComma (l : Lexer) : Except Misreading Lexer :=
  l.pushApart true .comma

/-- A dash in front of an item. -/
def fetchItem (l : Lexer) : Except Misreading Lexer :=
  if !l.inFlow && !l.mayBeginKey then stop none none .misplacedItem l.spot.place
  else (l.indentHere .blockList).pushApart true .item

/-- A question mark in front of a key. -/
def fetchKey (l : Lexer) : Except Misreading Lexer :=
  if !l.inFlow && !l.mayBeginKey then stop none none .misplacedKey l.spot.place
  else (l.indentHere .blockMapping).pushApart (!l.inFlow) .key

/-- A colon in front of a value. The key in front of it becomes certain, or else there is none. -/
def fetchValue (l : Lexer) : Except Misreading Lexer :=
  match l.pendingHere? with
  | some k =>
    let l := l.forgetHere
    let l := { l with queue := l.queue.insertIdx (k.number - l.taken) ⟨.key, k.place, k.place⟩ }
    let l := l.indentTo k.place.column .blockMapping k.number k.place
    .ok ({ l with mayBeginKey := false }.pushSign .value 1)
  | none =>
    if !l.inFlow && !l.mayBeginKey then stop none none .misplacedValue l.spot.place
    else (l.indentHere .blockMapping).pushApart (!l.inFlow) .value

/-- An alias or anchor. -/
def fetchAnchor (l : Lexer) (activity : Activity) (token : String → Token) :
    Except Misreading Lexer := do
  let l ← l.savePending
  let (name, spot) ← readAnchor activity l.spot
  return { l.push (token name) l.spot.place spot.place with spot, mayBeginKey := false }

/-- A tag. -/
def fetchTag (l : Lexer) : Except Misreading Lexer := do
  let l ← l.savePending
  let (handle, name, spot) ← readTag l.spot
  return { l.push (.tag handle name) l.spot.place spot.place with spot, mayBeginKey := false }

/-- A scalar. -/
def pushScalar (l : Lexer) (r : ReadScalar) (isPlain : Bool) : Lexer :=
  { l.push (.scalar r.points isPlain) l.spot.place r.finish with
    spot := r.spot, mayBeginKey := r.isBroken }

/-- A scalar of whole lines. -/
def fetchLines (l : Lexer) : Except Misreading Lexer := do
  let l ← { l with mayBeginKey := true }.dropPending
  return l.pushScalar (← readLines l.indent l.spot) false

/-- A scalar in quotes. -/
def fetchQuoted (l : Lexer) : Except Misreading Lexer := do
  let l ← l.savePending
  return l.pushScalar (← readQuoted l.spot) false

/-- A plain scalar. -/
def fetchPlain (l : Lexer) : Except Misreading Lexer :=
  l.savePending.map fun l => l.pushScalar (readPlain l.inFlow (l.indent + 1) l.spot) true

/-- The characters that begin no plain scalar. -/
def indicators : List Char :=
  ['-', '?', ':', ',', '[', ']', '\x7b', '\x7d', '#', '&', '*', '!', '|', '>', '\'', '"', '%', '@',
    '\x60']

/-- Whether a plain scalar begins here. Some signs begin one if no blank follows. -/
def beginsPlain (l : Lexer) : Bool :=
  let c := l.spot.peek
  (!isBlank c && !indicators.contains c) ||
    (!isBlank (l.spot.at? 1) && (c = '-' || (!l.inFlow && (c = '?' || c = ':'))))

/-- Reads the token that begins here. -/
def fetchHere (l : Lexer) : Except Misreading Lexer :=
  let s := l.spot
  let c := s.peek
  let isLineStart := s.place.column = 0
  let stands := isBlank (s.at? 1)
  if c = endMark then l.fetchEnd
  else if c = '%' && isLineStart then l.fetchDirective
  else if isLineStart && s.isMark '-' then l.fetchMark .documentStart
  else if isLineStart && s.isMark '.' then l.fetchMark .documentEnd
  else if c = '[' then l.fetchOpening .openList
  else if c = '\x7b' then l.fetchOpening .openMapping
  else if c = ']' then l.fetchClosing .closeList
  else if c = '\x7d' then l.fetchClosing .closeMapping
  else if c = ',' then l.fetchComma
  else if c = '-' && stands then l.fetchItem
  else if c = '?' && (l.inFlow || stands) then l.fetchKey
  else if c = ':' && (l.inFlow || stands) then l.fetchValue
  else if c = '*' then l.fetchAnchor .aliasName .aliasOf
  else if c = '&' then l.fetchAnchor .anchor .anchor
  else if c = '!' then l.fetchTag
  else if (c = '|' || c = '>') && !l.inFlow then l.fetchLines
  else if c = '\'' || c = '"' then l.fetchQuoted
  else if l.beginsPlain then l.fetchPlain
  else stop Activity.token none (.noToken c) s.place

/-- Reads the next token. -/
def fetch (l : Lexer) : Except Misreading Lexer := do
  let l ← (l.skipGap (l.spot.rest.length + 1)).dropStale
  (l.unwind l.column).fetchHere

/-- Whether the first token held back is uncertain: there is none, or it may turn out to begin a
key. -/
def isUncertain (l : Lexer) : Bool :=
  !l.isDone && (l.queue.isEmpty || l.pending.any fun e => e.2.number ≤ l.taken)

/-- Reads tokens until the first one is certain. -/
def settle (l : Lexer) : Nat → Except Misreading Lexer
  | 0 => .ok l
  | fuel + 1 => do
    if l.isDone then return l
    let l ← if l.queue.isEmpty then pure l else l.dropStale
    if l.isUncertain then settle (← l.fetch) fuel else return l

/-- The next token, which is certain, with the lexer that holds it back. -/
def peek (l : Lexer) : Except Misreading (Lexeme × Lexer) :=
  (l.settle (l.spot.rest.length + 2)).map fun l =>
    (l.queue.headD ⟨.fileEnd, l.spot.place, l.spot.place⟩, l)

/-- The next token, with the lexer that has given it out. -/
def take (l : Lexer) : Except Misreading (Lexeme × Lexer) :=
  l.peek.map fun (lexeme, l) => (lexeme, { l with queue := l.queue.drop 1, taken := l.taken + 1 })

end Lexer

end Transcript.Yaml
