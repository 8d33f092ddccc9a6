import Transcript.Fault.Basic

/-!
# Chains of faults

A fault may name the fault that caused it, or the one that was being handled when it arose; the
cause counts first. Links may run in a circle. Following them visits each fault at most once.

## Main definitions

- `FaultGraph`: faults with their links
- `FaultGraph.follow`: the faults met on the way, each once
- `FaultGraph.messages`, `FaultGraph.hint?`: what is told of a chain
- `Report`: a fault with the faults that led to it
-/

namespace Transcript

/-- A fault with its links, given as positions in a graph. -/
structure LinkedFault where
  /-- The fault. -/
  fault : Fault
  /-- The fault that caused it. -/
  cause : Option Nat := none
  /-- The fault that was being handled when it arose. -/
  handled : Option Nat := none
  deriving Inhabited

/-- Faults with their links. -/
abbrev FaultGraph := List LinkedFault

namespace FaultGraph

/-- Where a fault leads: to its cause, else to the fault that was being handled. -/
def next? (g : FaultGraph) (i : Nat) : Option Nat :=
  match g[i]? with
  | none => none
  | some linked => linked.cause <|> linked.handled

/-- Follows the links from a position, leaving out what has been visited and what does not exist.
The number of steps is bounded by the number of faults. -/
def followFrom (g : FaultGraph) : Nat → List Nat → Option Nat → List Nat
  | 0, _, _ => []
  | _ + 1, _, none => []
  | steps + 1, visited, some i =>
    -- A circle ends where it closes.
    if visited.contains i || g.length ≤ i then []
    else i :: followFrom g steps (i :: visited) (g.next? i)

/-- The positions met from a start, each once. -/
def follow (g : FaultGraph) (start : Option Nat) : List Nat :=
  followFrom g g.length [] start

/-- The faults met from a position on, that one included. -/
def chain (g : FaultGraph) (i : Nat) : List Fault :=
  (g.follow (some i)).filterMap fun j => (g[j]?).map LinkedFault.fault

/-- The faults met behind a position. A circle leads back to the position itself. -/
def causes (g : FaultGraph) (i : Nat) : List Fault :=
  (g.follow (g.next? i)).filterMap fun j => (g[j]?).map LinkedFault.fault

/-- The headlines of a chain. -/
def messages (g : FaultGraph) (i : Nat) : List String :=
  (g.chain i).filterMap Fault.headline?

/-- The last headline of a chain, the most specific one. -/
def hint? (g : FaultGraph) (i : Nat) : Option String :=
  (g.messages i).getLast?

end FaultGraph

/-- A fault with the faults that led to it. -/
structure Report where
  /-- The fault. -/
  fault : Fault
  /-- What led to it, nearest first. -/
  causes : List Fault := []
  deriving Inhabited

/-- The report on a fault of a graph. -/
def FaultGraph.report? (g : FaultGraph) (i : Nat) : Option Report :=
  (g[i]?).map fun linked => ⟨linked.fault, g.causes i⟩

end Transcript
