import Transcript.Conversion.Arena
import Transcript.Rule.Basic

/-!
# The rule table

Rules in the order in which they are tried: by priority, and in the order of their registration
within a priority. Registration refuses a second rule of the same name, and a rule that overlaps
another one of its priority. A closed table accepts nothing more.

The rule of a node is looked for once and then remembered under the node's number. A search that
fails is not remembered.

## Main definitions

- `RuleTable.add`, `RuleTable.register`: one rule more, if it fits
- `RuleTable.collect`: several declared rules, up to the first that does not fit
- `RuleTable.close`: closes the table
- `RuleTable.find`, `RuleTable.findRemembered`: the first rule that accepts a node
-/

namespace Transcript

open Markup

/-- Rules in the order in which they are tried. -/
structure RuleTable where
  /-- The rules. -/
  rules : List Rule := []
  /-- Whether the table is closed. -/
  isClosed : Bool := false

namespace RuleTable

/-- Why a rule does not go together with one that is registered, if it does not. -/
def conflict? (rule existing : Rule) : Option Fault :=
  if existing.name == rule.name then
    some (.of .ruleConflict ("A rule named '" ++ rule.name ++ "' is already registered"))
  else if existing.priority == rule.priority && existing.filter.overlaps rule.filter then
    some (.of .ruleConflict ("Rule conflict: '" ++ rule.name ++ "' and '" ++ existing.name ++
      "' both have priority " ++ Number.integerText rule.priority ++ " with overlapping filters"))
  else none

/-- Puts a rule behind the rules of its priority. -/
def insert (rule : Rule) : List Rule → List Rule
  | [] => [rule]
  | other :: rest =>
    -- Equal priorities keep the order of registration.
    if other.priority ≤ rule.priority then other :: insert rule rest else rule :: other :: rest

/-- The fault of adding a rule to a closed table. -/
def sealedFault (rule : Rule) : Fault :=
  .of .sealed ("Cannot register rule '" ++ rule.name ++ "': the rule engine is sealed")

/-- Adds a rule. -/
def add (t : RuleTable) (rule : Rule) : Except Fault RuleTable :=
  if t.isClosed then .error (sealedFault rule)
  else
    match t.rules.findSome? (conflict? rule) with
    | some fault => .error fault
    | none => .ok { t with rules := insert rule t.rules }

/-- Adds a declared rule. -/
def register (t : RuleTable) (d : Declared) : Except Fault RuleTable :=
  match d.rule with
  | .error fault => .error fault
  | .ok rule => t.add rule

/-- Adds rules one after another, up to the first that does not fit: the table reached, and why it
did not go further. -/
def addAll (t : RuleTable) : List Rule → RuleTable × Option Fault
  | [] => (t, none)
  | rule :: rest =>
    match t.add rule with
    | .error fault => (t, some fault)
    | .ok t => t.addAll rest

/-- Whether a declared rule does not come after another: by priority, then by name. -/
def precedes (a b : Rule) : Bool :=
  a.priority < b.priority || (a.priority == b.priority && a.name ≤ b.name)

/-- Puts a declared rule into its place among others that are in order. -/
def insertDeclared (rule : Rule) : List Rule → List Rule
  | [] => [rule]
  | other :: rest =>
    if precedes rule other then rule :: other :: rest else other :: insertDeclared rule rest

/-- Declared rules in order. -/
def inOrder (rules : List Rule) : List Rule :=
  rules.foldr insertDeclared []

/-- The rules that declarations describe. -/
def rulesOf : List Declared → Except Fault (List Rule)
  | [] => .ok []
  | d :: rest =>
    match d.rule with
    | .error fault => .error fault
    | .ok rule => (rulesOf rest).map (rule :: ·)

/-- Adds declared rules by priority and name, up to the first that does not fit. A declaration that
describes no rule spoils all of them. -/
def collect (t : RuleTable) (declared : List Declared) : RuleTable × Option Fault :=
  -- No rule is added before all declarations are read.
  match rulesOf declared with
  | .error fault => (t, some fault)
  | .ok rules => t.addAll (inOrder rules)

/-- Closes the table. -/
def close (t : RuleTable) : RuleTable :=
  { t with isClosed := true }

/-- The first of some rules that accepts a node. -/
def findIn (c : Cursor) : List Rule → Except Fault (Option Rule)
  | [] => .ok none
  | rule :: rest =>
    match rule.filter.accepts c with
    | .error fault => .error fault
    | .ok true => .ok (some rule)
    | .ok false => findIn c rest

/-- The first rule that accepts a node. -/
def find (t : RuleTable) (c : Cursor) : Except Fault (Option Rule) :=
  findIn c t.rules

/-- The first rule that accepts a node, remembered or else looked for. -/
def findRemembered (t : RuleTable) (arena : Arena) (memo : Memo (Option Rule))
    (c : Cursor) : Except Fault (Option Rule) × Arena × Memo (Option Rule) :=
  match memo.lookup arena (nodeKey (some c)) with
  | (some rule, arena) => (.ok rule, arena, memo)
  | (none, arena) =>
    match t.find c with
    -- A filter that failed is asked again the next time.
    | .error fault => (.error fault, arena, memo)
    | .ok rule =>
      let (memo, arena) := memo.store arena (nodeKey (some c)) rule
      (.ok rule, arena, memo)

end RuleTable

/-- A rule as it is listed. -/
structure RuleEntry where
  /-- Its position. -/
  order : Nat
  /-- Its name. -/
  name : String
  /-- Its priority. -/
  priority : Int
  /-- The word for its filter's kind. -/
  kind : String
  /-- A description of its filter. -/
  description : String
  deriving DecidableEq

/-- The list of the rules, in order. -/
def RuleTable.entries (t : RuleTable) : List RuleEntry :=
  t.rules.zipIdx.map fun (rule, order) =>
    ⟨order, rule.name, rule.priority, rule.filter.kindWord, rule.filter.description⟩

end Transcript
