import Transcript.Proofs.Conversion.Budget

/-!
# What occurs during a conversion

The log of a conversion: which nodes are visited, which visits break a budget, and which faults
filters and replacements raise, in order. The log follows the traversal step by step and takes every
intermediate result from the traversal itself, so it is a reading of one run and not a second
semantics. What is remembered leaves no trace in it.

## Main definitions

- `Occurrence`: one thing that occurs
- `Rendering.log`, `logAll`, `logElement`, `logFresh`, `logProcess`: the logs of the parts
- `logAt`: the log of the conversion of a node at a depth
-/

namespace Transcript

open Markup

/-- One thing that occurs during a conversion. -/
inductive Occurrence where
  /-- A node is visited, and the visit counts. -/
  | visited (node : Option Cursor) (depth : Nat)
  /-- A visit breaks a budget. -/
  | overran (fault : Fault) (node : Option Cursor)
  /-- A filter or a replacement fails at a node, inside the boundary of this name. -/
  | raised (fault : Fault) (node : Option Cursor) (handler : String)

namespace Occurrence

/-- The fault that occurs, if one does. -/
def fault? : Occurrence → Option Fault
  | visited _ _ => none
  | overran fault _ => some fault
  | raised fault _ _ => some fault

/-- Whether a fault occurs that gives up the conversion. -/
def isAbort (o : Occurrence) : Bool :=
  o.fault?.any Fault.isAbort

/-- Whether a visit occurs that counts. -/
def isVisit : Occurrence → Bool
  | visited _ _ => true
  | _ => false

/-- The issue that a failure leaves behind if it does not give up the conversion. -/
def issue? : Occurrence → Option Issue
  | raised fault node handler =>
    if fault.isAbort then none else some (issueOf fault node handler fault.kind.recovery)
  | _ => none

end Occurrence

/-- How the log of a node is made, from the session in which it is asked for. -/
abbrev Logger := Option Cursor → Session → List Occurrence

/-- The log of the program of a rule at a node. -/
def Rendering.log {α : Type} (descend : Converter) (logger : Logger) (c : Cursor)
    (handler : String) : Rendering α → Session → List Occurrence
  | done _, _ => []
  | raise fault, _ => [.raised fault (some c) handler]
  | report diagnostic next, s => next.log descend logger c handler (s.report diagnostic)
  | warn message next, s => next.log descend logger c handler (s.warn message)
  | process node next, s =>
    logger node s ++
      match descend node s with
      | (.ok text, s) => (next text).log descend logger c handler s
      | (.error _, _) => []
  | plant tree next, s =>
    (next (Cursor.root s.trees tree)).log descend logger c handler { s with trees := s.trees + 1 }

/-- The log of siblings. -/
def logAll (descend : Converter) (logger : Logger) : List Cursor → Session → List Occurrence
  | [], _ => []
  | c :: rest, s =>
    logger (some c) s ++
      match descend (some c) s with
      | (.ok _, s) => logAll descend logger rest s
      | (.error _, _) => []

/-- The log of an element that was visited: its filters, its children and its rule. -/
def logElement (setting : Setting) (descend : Converter) (logger : Logger) (depth : Nat)
    (c : Cursor) (s : Session) : List Occurrence :=
  match resolve setting c s with
  | (.error fault, _) => [.raised fault (some c) "node"]
  | (.ok rule, s) =>
    logAll descend logger c.children s ++
      match convertAll descend c.children s, rule with
      | (.ok content, s), some rule =>
        (rule.replacement ⟨c, depth, setting.adapter, setting.options⟩ content).log descend logger
          c rule.name s
      | _, _ => []

/-- The log of a node that was visited. -/
def logNode (setting : Setting) (descend : Converter) (logger : Logger) (depth : Nat)
    (node : Option Cursor) (s : Session) : List Occurrence :=
  match node with
  | none => []
  | some c =>
    match c.node with
    | .leaf _ _ => []
    | _ => logElement setting descend logger depth c s

/-- The log of a visit. A node that lies too deep is not counted. -/
def logVisit (setting : Setting) (depth : Nat) (node : Option Cursor) (s : Session) :
    List Occurrence :=
  match visit setting depth s with
  | (.ok (), _) => [.visited node depth]
  | (.error fault, s') =>
    if s'.visits = s.visits then [.overran fault node]
    else [.visited node depth, .overran fault node]

/-- The log of a node that is not remembered. -/
def logFresh (setting : Setting) (descend : Converter) (logger : Logger) (depth : Nat)
    (node : Option Cursor) (s : Session) : List Occurrence :=
  logVisit setting depth node s ++
    match visit setting depth s with
    | (.ok (), s) => logNode setting descend logger depth node s
    | (.error _, _) => []

/-- The log of a node at a depth with `room` levels open from there on. -/
def logProcess (setting : Setting) : (room depth : Nat) → Logger
  | 0, depth, node, s =>
    match remembered? node s with
    | (some _, _) => []
    | (none, _) => [.overran (depthFault setting.options depth) node]
  | room + 1, depth, node, s =>
    match remembered? node s with
    | (some _, _) => []
    | (none, s) =>
      logFresh setting (process setting room (depth + 1)) (logProcess setting room (depth + 1))
        depth node s

/-- The log of the conversion of a node at a depth. -/
def logAt (setting : Setting) (depth : Nat) : Logger :=
  logProcess setting (roomAt setting.options depth) depth

end Transcript
