import Transcript.Number.Amount
import Transcript.Text.Quoted

/-!
# Data of open shape

Event payloads, the context of a failure and option files hold data whose shape is not fixed in
advance: nothing, truth values, whole numbers, quantities, texts, moments, lists and mappings.

## Main definitions

- `Datum`: data of open shape
- `Datum.literal`, `Datum.shown`: how it is shown inside other data, and on its own
- `Datum.ofPairs`: a mapping whose keys may be any scalars
-/

namespace Transcript

open Number

/-- Data of open shape. -/
inductive Datum where
  /-- Nothing. -/
  | null
  /-- A truth value. -/
  | bool (value : Bool)
  /-- A whole number. -/
  | int (value : Int)
  /-- A measured quantity. -/
  | number (value : Quantity)
  /-- A text. -/
  | text (value : String)
  /-- A text by its code points, some of which are halves of surrogate pairs, and no characters. -/
  | brokenText (points : List Nat)
  /-- A day or a point in time, as it is shown. -/
  | moment (written : String)
  /-- A list. -/
  | list (items : List Datum)
  /-- A mapping, in the order of its keys' appearance. -/
  | mapping (entries : List (String × Datum))
  /-- A mapping with keys that are no texts. -/
  | keyed (entries : List (Datum × Datum))
  deriving Inhabited

namespace Datum

/-- The datum of an amount. -/
def ofAmount : Amount → Datum
  | .whole n => int n
  | .measured q => number q

/-- The amount that a datum is; truth values count as one and zero. -/
def amount? : Datum → Option Amount
  | bool b => some (.whole (if b then 1 else 0))
  | int n => some (.whole n)
  | number q => some (.measured q)
  | _ => none

/-- Whether the datum counts as given: not nothing, not false, not zero and not empty. -/
def isGiven : Datum → Bool
  | null => false
  | bool b => b
  | int n => n != 0
  | number q => !q.isZero
  | text s => s != ""
  | brokenText _ | moment _ => true
  | list items => !items.isEmpty
  | mapping entries => !entries.isEmpty
  | keyed entries => !entries.isEmpty

mutual

/-- The datum as it is shown inside other data: texts are quoted. -/
def literal : Datum → String
  | null => "None"
  | bool b => if b then "True" else "False"
  | int n => integerText n
  | number q => q.shortestText
  | text s => Text.quoted s
  | brokenText points => String.ofList (Chars.quotedPoints points)
  | moment written => written
  | list items => "[" ++ Text.join ", " (literals items) ++ "]"
  | mapping entries => "\x7b" ++ Text.join ", " (entryLiterals entries) ++ "\x7d"
  | keyed entries => "\x7b" ++ Text.join ", " (pairLiterals entries) ++ "\x7d"

/-- `literal` for the items of a list. -/
def literals : List Datum → List String
  | [] => []
  | d :: rest => literal d :: literals rest

/-- `literal` for the entries of a mapping. -/
def entryLiterals : List (String × Datum) → List String
  | [] => []
  | (key, d) :: rest => (Text.quoted key ++ ": " ++ literal d) :: entryLiterals rest

/-- `literal` for the entries of a mapping with any keys. -/
def pairLiterals : List (Datum × Datum) → List String
  | [] => []
  | (key, d) :: rest => (literal key ++ ": " ++ literal d) :: pairLiterals rest

end

/-- The datum as it is shown on its own: a text stands for itself. -/
def shown : Datum → String
  | text s => s
  | d => d.literal

/-- Puts an entry into a mapping; an entry under the same key is replaced in its place. -/
def putEntry (key : String) (value : Datum) : List (String × Datum) → List (String × Datum)
  | [] => [(key, value)]
  | e :: rest => if e.1 == key then (key, value) :: rest else e :: putEntry key value rest

/-- A mapping made from entries, of which the last one under a key counts. -/
def ofEntries (entries : List (String × Datum)) : Datum :=
  mapping (entries.foldl (fun found e => putEntry e.1 e.2 found) [])

/-! ## Mappings with any keys -/

/-- A text by its code points. -/
def ofPoints (points : List Nat) : Datum :=
  if points.all fun n => n.isValidChar then text (String.ofList (points.map Char.ofNat))
  else brokenText points

/-- Whether two data are one key. Numbers and truth values are compared by their amounts. -/
def isSameKey : Datum → Datum → Bool
  | null, null => true
  | text a, text b => a == b
  | brokenText a, brokenText b => a == b
  | moment a, moment b => a == b
  | a, b =>
    match a.amount?, b.amount? with
    | some x, some y => x.isSame y
    | _, _ => false

/-- Puts an entry into a mapping with any keys; one under the same key is replaced in its place. -/
def putPair (key value : Datum) : List (Datum × Datum) → List (Datum × Datum)
  | [] => [(key, value)]
  | e :: rest => if e.1.isSameKey key then (e.1, value) :: rest else e :: putPair key value rest

/-- A text, with what belongs to it. -/
def textPair? (e : Datum × Datum) : Option (String × Datum) :=
  match e.1 with
  | text key => some (key, e.2)
  | _ => none

/-- The entries of a mapping. -/
def pairs? : Datum → Option (List (Datum × Datum))
  | mapping entries => some (entries.map fun e => (text e.1, e.2))
  | keyed entries => some entries
  | _ => none

/-- A mapping made from entries, of which the last one under a key counts. -/
def ofPairs (entries : List (Datum × Datum)) : Datum :=
  let merged := entries.foldl (fun found e => putPair e.1 e.2 found) []
  if merged.all fun e => (textPair? e).isSome then mapping (merged.filterMap textPair?)
  else keyed merged

/-- The entry of a mapping under a key; the last of several counts. -/
def entry? (entries : List (String × Datum)) (key : String) : Option Datum :=
  (entries.reverse.find? fun e => e.1 == key).map Prod.snd

end Datum

end Transcript
