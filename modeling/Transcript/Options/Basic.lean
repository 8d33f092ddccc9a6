import Transcript.Fault.Basic

/-!
# Options of a conversion

Budgets and diagnostics of a conversion. The budgets bound the number of visited nodes, the time
and the depth. A fault that a conversion recovered from leaves an issue behind, and a listener may
be told of it.
-/

namespace Transcript

open Number

/-- A fault that was recovered from. -/
structure Issue where
  /-- What went wrong. -/
  message : String
  /-- The rule or boundary at which it was met. -/
  handler : String
  /-- The lower-cased name of the element; empty for other nodes. -/
  nodeName : String := ""
  /-- What the fault asked for. -/
  recovery : String := Recovery.fallback.word
  deriving DecidableEq, Inhabited

/-- An issue in one line. -/
def Issue.text (i : Issue) : String :=
  "[" ++ i.handler ++ "]" ++ (if i.nodeName == "" then "" else " <" ++ i.nodeName ++ ">") ++ " " ++
    i.message

/-- A listener told of recovered faults; it may fail itself. -/
abbrev Listener := Fault → Issue → Except Fault Unit

/-- Options of a conversion. -/
structure Options where
  /-- Most nodes that may be visited. -/
  maxVisits : Nat := 50000
  /-- Milliseconds that a conversion may take. -/
  timeBudget : Quantity := .finite 5000
  /-- Deepest level that may be visited. -/
  maxDepth : Nat := 100
  /-- Whether the end of the conversion is reported. -/
  logPerformance : Bool := false
  /-- Told of every recovered fault. -/
  listener : Option Listener := none

end Transcript
