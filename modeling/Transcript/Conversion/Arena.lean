import Std.Data.HashMap
import Transcript.Fault.Basic
import Transcript.Markup.Cursor

/-!
# Numbered nodes

An arena numbers the nodes that a conversion meets: each gets the next free number when it is first
seen, and keeps it. What is remembered about nodes is filed under their numbers, so that nodes of
equal content are told apart by their places.

A node may be missing; the missing node is numbered like any other.

## Main definitions

- `Arena.number`: the number of a node, given out when it is first seen
- `Arena.ofNodes`, `Arena.ofTree`: numbers many nodes at once, in document order
- `Arena.ofTreeCounted`: the same, with a limit that is checked first
- `Memo.lookup`, `Memo.store`: what is remembered about a node
-/

namespace Transcript

open Markup

/-- The identity of a node, if there is one. -/
abbrev NodeKey := Option Place

/-- The identity of a node that may be missing. -/
def nodeKey (node : Option Cursor) : NodeKey :=
  node.map Cursor.place

/-- Numbered nodes. -/
structure Arena where
  /-- The numbers given out so far. -/
  numbers : Std.HashMap NodeKey Nat := {}

namespace Arena

/-- How many nodes have a number. -/
def size (a : Arena) : Nat :=
  a.numbers.size

/-- Whether a node has a number. -/
def contains (a : Arena) (key : NodeKey) : Bool :=
  a.numbers.contains key

/-- The number of a node; a node without one gets the next free number. -/
def number (a : Arena) (key : NodeKey) : Nat × Arena :=
  match a.numbers[key]? with
  | some n => (n, a)
  -- The numbers given out are those below the size.
  | none => (a.size, ⟨a.numbers.insert key a.size⟩)

/-- Numbers nodes, one after another. -/
def ofNodes (keys : List NodeKey) : Arena :=
  keys.foldl (fun a key => (a.number key).2) {}

/-- A node and everything below it, in document order. -/
def nodesOf (root : Option Cursor) : List NodeKey :=
  match root with
  | none => [none]
  | some c => c.subtree.map fun d => some d.place

/-- Numbers a node and everything below it, in document order; with a limit, only that many of
them. -/
def ofTree (root : Option Cursor) (limit : Option Nat) : Arena :=
  match limit with
  | none => ofNodes (nodesOf root)
  | some n => ofNodes ((nodesOf root).take n)

/-- The largest limit that can be counted up to. -/
def maxLimit : Nat := Nat.pow 2 63 - 1

/-- The fault of a limit that cannot be counted up to. -/
def badLimit : Fault :=
  .of .badValue
    "Stop argument for islice() must be None or an integer: 0 <= x <= sys.maxsize."

/-- A limit that can be counted up to; any other number is a fault. -/
def checkedLimit (limit : Int) : Except Fault Nat :=
  if 0 ≤ limit ∧ limit ≤ maxLimit then .ok limit.toNat else .error badLimit

/-- Numbers a node and everything below it, in document order, up to a limit if there is one. A
limit that cannot be counted up to is a fault. -/
def ofTreeCounted (root : Option Cursor) : Option Int → Except Fault Arena
  | none => .ok (ofTree root none)
  | some limit => (checkedLimit limit).map fun n => ofTree root (some n)

end Arena

/-- What is remembered about nodes, filed under their numbers. -/
structure Memo (α : Type) where
  /-- The entries. -/
  entries : Std.HashMap Nat α := {}

namespace Memo

variable {α : Type}

/-- How many nodes have an entry. -/
def size (m : Memo α) : Nat :=
  m.entries.size

/-- What is remembered about a node. The node gets a number if it has none yet. -/
def lookup (m : Memo α) (a : Arena) (key : NodeKey) : Option α × Arena :=
  let (n, a) := a.number key
  (m.entries[n]?, a)

/-- Remembers a value about a node. The node gets a number if it has none yet. -/
def store (m : Memo α) (a : Arena) (key : NodeKey) (value : α) : Memo α × Arena :=
  let (n, a) := a.number key
  (⟨m.entries.insert n value⟩, a)

end Memo

end Transcript
