import Transcript.Options.Yaml.Node
import Transcript.Text.Case
import Transcript.Text.Numeral

/-!
# From nodes to values

A scalar has the value that its tag and its text tell. A list has the values of its items, and a
mapping the values of its entries, under keys that are scalars; entries may be taken from other
mappings. All nodes are looked at level by level, before their values are put together.

The recursion is bounded by fuel, which is more than the depth of the nodes.

## Main definitions

- `readInt`, `readFloat`: the readers of numbers
- `scalarDatum`: the value of a scalar
- `lookThrough`: looks for what has no value
- `Node.datum`: the value of a node
- `read`: the datum that a whole file spells
-/

namespace Transcript.Yaml

open Number

/-! ## Numbers -/

/-- The fault of a text that is no number. -/
def noNumber (words : String) (s : List Char) : Fault :=
  .of .badValue (words ++ ": " ++ Text.quoted (String.ofList s))

/-- The fault of looking for a character in nothing. -/
def noCharacter : Fault := .of .badIndex "string index out of range"

/-- The words for a text that is no whole number. -/
def integerWords (base : Nat) : String :=
  "invalid literal for int() with base " ++ integerText base

/-- The number spelled by digits of a base that is a power of two. -/
def readBase (base : Nat) (s : List Char) : Except Fault Nat :=
  let digit? (c : Char) : Option Nat := (Json.hexValue? c).filter (· < base)
  let value? := s.foldlM (fun value c => (digit? c).map fun d => value * base + d) 0
  let bad := noNumber (integerWords base) s
  if s.isEmpty then .error bad else value?.elim (.error bad) .ok

/-- The number spelled by decimal digits. -/
def readDecimal (s : List Char) : Except Fault Int :=
  if Text.maxIntegerDigits < s.length && s.all Char.isDigit then
    .error (Json.oversizedNumber s.length)
  else (Text.readInteger? (String.ofList s)).elim (.error (noNumber (integerWords 10) s)) .ok

/-- The number spelled by parts of sixty. -/
def readSixtieths (s : List Char) : Except Fault Int :=
  (Chars.splitAt ':' s).foldlM (fun value part => (readDecimal part).map (value * 60 + ·)) 0

/-- Drops the underscores of a number, and cuts its sign off. -/
def signedDigits (s : List Char) : Bool × List Char :=
  Chars.readSign (s.filter (· ≠ '_'))

/-- The whole number that a scalar spells. -/
def readInt (s : List Char) : Except Fault Int :=
  let (negative, digits) := signedDigits s
  let size : Except Fault Int :=
    match digits with
    | [] => .error noCharacter
    | ['0'] => .ok 0
    | '0' :: 'b' :: digits => (readBase 2 digits).map Int.ofNat
    | '0' :: 'x' :: digits => (readBase 16 digits).map Int.ofNat
    | '0' :: digits => (readBase 8 ('0' :: digits)).map Int.ofNat
    | digits => if digits.contains ':' then readSixtieths digits else readDecimal digits
  size.map fun n => if negative then -n else n

/-- The quantity spelled by decimal digits. -/
def readMeasure (s : List Char) : Except Fault Quantity :=
  (Text.readQuantity? (String.ofList s)).elim
    (.error (noNumber "could not convert string to float" s)) .ok

/-- A quantity times a whole number. -/
def timesWhole (q : Quantity) (n : Nat) : Quantity :=
  match q.value? with
  | some value => .ofRat (value * n)
  | none => q

/-- The sum of parts of sixty, the smallest first, the first of which has a weight. -/
def sumSixtieths (sum : Quantity) (weight : Nat) : List Quantity → Quantity
  | [] => sum
  | part :: parts => sumSixtieths (sum.add (timesWhole part weight)) (weight * 60) parts

/-- The opposite of a quantity. -/
def opposite : Quantity → Quantity
  | .finite value => .ofSize (0 ≤ value) (if value < 0 then -value else value)
  | .negativeZero => .finite 0
  | .infinite => .negativeInfinite
  | .negativeInfinite => .infinite
  | .undefined => .undefined

/-- The quantity that a scalar spells. -/
def readFloat (s : List Char) : Except Fault Quantity :=
  let (negative, rest) := signedDigits s
  let word := Text.lower (String.ofList rest)
  let size : Except Fault Quantity :=
    if (s.filter (· ≠ '_')).isEmpty then .error noCharacter
    else if word == ".inf" then .ok .infinite
    else if word == ".nan" then .ok .undefined
    else if rest.contains ':' then
      ((Chars.splitAt ':' word.toList).mapM readMeasure).map fun parts =>
        sumSixtieths (.finite 0) 1 parts.reverse
    else readMeasure word.toList
  size.map fun q => if negative then opposite q else q

/-! ## Scalars -/

/-- The truth value of a word. -/
def readBool (s : List Char) : Except Fault Bool :=
  let word := Text.lower (String.ofList s)
  if ["yes", "true", "on"].contains word then .ok true
  else if ["no", "false", "off"].contains word then .ok false
  else .error (.of .missingKey word)

/-- The moment that a scalar spells. -/
def readMoment (s : List Char) : Except Fault Datum :=
  match Moment.read? s with
  | some m => m.datum
  | none => .error (.of .missingMember "'NoneType' object has no attribute 'groupdict'")

/-- The value of a scalar. -/
def scalarDatum (tag : Tag) (points : List Nat) (p : Place) : Except Misreading Datum :=
  let s := points.map Char.ofNat
  let held (r : Except Fault Datum) : Except Misreading Datum := r.mapError .unheld
  match tag with
  | .null => .ok .null
  | .bool => held ((readBool s).map .bool)
  | .int => held ((readInt s).map .int)
  | .float => held ((readFloat s).map .number)
  | .moment => held (readMoment s)
  | .text => .ok (.ofPoints points)
  | .list => stop none none (.nodeKind .listNode "scalar") p
  | .mapping => stop none none (.nodeKind .mappingNode "scalar") p
  | tag => stop none none (.unknownTag tag.uri) p

/-! ## Collections -/

/-- Looks at a node as far as it can be looked at before the collections inside it: a scalar has a
value, and a collection has a tag of its kind. -/
def Node.glance (node : Node) : Except Misreading Unit :=
  match node with
  | .scalar tag points p => (scalarDatum tag points p).map fun _ => ()
  | .list tag _ p | .mapping tag _ p =>
    match tag with
    | .list | .mapping => .ok ()
    | .null | .bool | .int | .float | .moment | .text =>
      stop none none (.nodeKind .scalarNode node.label) p
    | tag => stop none none (.unknownTag tag.uri) p

/-- A key that stands for the value of its mapping is a text. -/
def plainKey (key : Node) : Node :=
  match key with
  | .scalar .value points p => .scalar .text points p
  | key => key

/-- The entries of a mapping, with those in front that it takes from other mappings. -/
def mergedEntries (since : Place) (entries : List (Node × Node)) :
    Nat → Except Misreading (List (Node × Node))
  | 0 => .ok entries
  | fuel + 1 => do
    let taken ← (entries.filter fun e => e.1.tag = .merge).mapM fun e =>
      match e.2 with
      | .mapping _ more p => mergedEntries p more fuel
      | .list _ sources _ => do
        let found ← sources.mapM fun source =>
          match source with
          | .mapping _ more p => mergedEntries p more fuel
          | other =>
            stop Activity.mapping since (.nodeKind .mergeItem other.label) other.place
        return found.reverse.flatten
      | other => stop Activity.mapping since (.nodeKind .mergeSource other.label) other.place
    let own := (entries.filter fun e => e.1.tag ≠ .merge).map fun e => (plainKey e.1, e.2)
    return taken.flatten ++ own

/-- Looks at the entry of a mapping. Its key is a scalar. -/
def glanceEntry (since : Place) (e : Node × Node) : Except Misreading Unit := do
  e.1.glance
  match e.1 with
  | .scalar _ _ _ => e.2.glance
  | key => stop Activity.mapping since .unhashableKey key.place

/-- Looks at the nodes right inside a node, and gives them. -/
def Node.inside (fuel : Nat) (node : Node) : Except Misreading (List Node) :=
  match node with
  | .scalar _ _ _ => .ok []
  | .list .mapping _ p => stop none none (.nodeKind .mappingNode "sequence") p
  | .list _ items _ => (items.forM Node.glance).map fun _ => items
  | .mapping .list _ p => stop none none (.nodeKind .listNode "mapping") p
  | .mapping _ entries p => do
    let entries ← mergedEntries p entries fuel
    entries.forM (glanceEntry p)
    return entries.map Prod.snd

/-- Looks at nodes and at what is inside them, those that are nested less deeply first. -/
def lookThrough : Nat → List Node → Except Misreading Unit
  | 0, _ => .ok ()
  | fuel + 1, nodes =>
    if nodes.isEmpty then .ok ()
    else do lookThrough fuel (← nodes.mapM (Node.inside fuel)).flatten

/-- The value of a node. -/
def Node.datum : Nat → Node → Except Misreading Datum
  | 0, _ => .ok .null
  | fuel + 1, node =>
    match node with
    | .scalar tag points p => scalarDatum tag points p
    | .list _ items _ => return .list (← items.mapM (Node.datum fuel))
    | .mapping _ entries p => do
      let entries ← mergedEntries p entries fuel
      return .ofPairs (← entries.mapM fun e => do
        return (← e.1.datum fuel, ← e.2.datum fuel))

/-! ## Files -/

/-- Whether a character may occur in a file. -/
def isAllowed (c : Char) : Bool :=
  let n := c.toNat
  n = 9 || n = 10 || n = 13 || (0x20 ≤ n && n ≤ 0x7E) || n = 0x85 || (0xA0 ≤ n && n ≤ 0xFFFD) ||
    0x10000 ≤ n

/-- The first character that may not occur in a file. -/
def unallowed? (text : List Char) : Option Flaw :=
  (text.zipIdx.find? fun e => !isAllowed e.1).map fun e => .character e.1 e.2

/-- The datum that a whole file spells; a file without a document spells nothing. -/
def read (text : List Char) : Except Misreading Datum :=
  match unallowed? text with
  | some flaw => .error (.flawed flaw)
  | none => do
    let fuel := 4 * text.length + 16
    let (node, _) ← (readFile fuel).run { lexer := .ofText text }
    match node with
    | none => return .null
    | some node => do
      -- What is wrong with a node is told before what is wrong inside it.
      node.glance
      lookThrough fuel [node]
      node.datum fuel

end Transcript.Yaml
