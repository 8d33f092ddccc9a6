import Transcript.Rule.Table

/-!
# Sessions

What one conversion knows: its setting, which never changes, and its session, which does. The
session counts visits and clock readings, remembers rules and texts, and collects warnings, issues
and diagnostics. An *action* takes a session to a later one, and succeeds or fails on the way.

## Main definitions

- `Setting`: the adapter, the options, the rules and the clock
- `Session`: what has happened so far
- `Action`: a step from session to session
- `visit`: counts a visit and checks the budgets
- `recover`: records a fault that was recovered from
- `guarded`: an action behind a boundary
-/

namespace Transcript

open Markup Number

/-- What a conversion is given. -/
structure Setting where
  /-- The adapter of the platform. -/
  adapter : Adapter
  /-- The options. -/
  options : Options := {}
  /-- The rules. -/
  rules : RuleTable
  /-- The clock: its readings, in milliseconds. -/
  clock : Nat → Rat := fun _ => 0

/-- What has happened so far. -/
structure Session where
  /-- The numbers of the nodes. -/
  arena : Arena := {}
  /-- The rules found. -/
  resolutions : Memo (Option Rule) := {}
  /-- The texts of converted nodes. -/
  texts : Memo String := {}
  /-- Number of visits. -/
  visits : Nat := 0
  /-- Number of clock readings; the first one is the start. -/
  readings : Nat := 1
  /-- Number of trees in sight, the document included. -/
  trees : Nat := 1
  /-- Warnings given by rules. -/
  warnings : Array String := #[]
  /-- Faults recovered from. -/
  issues : Array Issue := #[]
  /-- Everything reported, in order. -/
  trace : Array Diagnostic := #[]
  /-- What the listener was told, in order. -/
  told : Array (Fault × Issue) := #[]

/-- A step from session to session, which succeeds or fails on the way. -/
abbrev Action (α : Type) := Session → Except Fault α × Session

namespace Session

/-- Reports something. -/
def report (s : Session) (d : Diagnostic) : Session :=
  { s with trace := s.trace.push d }

/-- Keeps a warning, and reports it. -/
def warn (s : Session) (message : String) : Session :=
  { s with
    warnings := s.warnings.push message
    trace := s.trace.push (.warning message none) }

/-- Milliseconds from the start to the next reading of the clock. -/
def elapsed (setting : Setting) (s : Session) : Rat :=
  setting.clock s.readings - setting.clock 0

/-- The session after a reading of the clock. -/
def read (s : Session) : Session :=
  { s with readings := s.readings + 1 }

end Session

/-! ## Budgets -/

/-- The fault of going too deep. -/
def depthFault (options : Options) (depth : Nat) : Fault where
  kind := .depth
  message := some ("Max recursion depth (" ++ integerText options.maxDepth ++ ") exceeded")
  context := [("depth", .int depth)]

/-- The fault of visiting too many nodes. -/
def visitsFault (options : Options) (visits : Nat) : Fault where
  kind := .budget
  message := some ("Max nodes (" ++ integerText options.maxVisits ++ ") exceeded")
  context := [("node_count", .int visits)]

/-- The fault of taking too long. -/
def timeFault (options : Options) (elapsed : Rat) : Fault where
  kind := .budget
  message := some ("Time budget (" ++ options.timeBudget.generalText ++ "ms) exceeded")
  context := [("elapsed_ms", .number (.finite (roundPlaces 2 elapsed)))]

/-- Counts a visit, and checks the depth, the number of visits and the time, in this order. The
clock is read only for the last check. -/
def visit (setting : Setting) (depth : Nat) : Action Unit := fun s =>
  let options := setting.options
  if options.maxDepth < depth then (.error (depthFault options depth), s)
  else
    -- The visit counts, whatever the next two checks say.
    let s := { s with visits := s.visits + 1 }
    if options.maxVisits < s.visits then (.error (visitsFault options s.visits), s)
    else
      -- The clock is read once, and the reading counts even if time is up.
      let elapsed := s.elapsed setting
      if options.timeBudget.exceededBy elapsed then (.error (timeFault options elapsed), s.read)
      else (.ok (), s.read)

/-! ## Recovery -/

/-- The name under which a node appears in issues. -/
def issueName (node : Option Cursor) : String :=
  match node with
  | none => ""
  | some c => if c.node.isElement then c.node.tagName else ""

/-- The issue that a fault leaves behind. -/
def issueOf (fault : Fault) (node : Option Cursor) (handler : String) (recovery : Recovery) :
    Issue :=
  ⟨fault.summary, handler, issueName node, recovery.word⟩

/-- Tells the listener of an issue, if there is one; a listener that fails is reported. -/
def tell (setting : Setting) (fault : Fault) (issue : Issue) (s : Session) : Session :=
  match setting.options.listener with
  | none => s
  | some listener =>
    -- The listener has been told even if it fails.
    let s := { s with told := s.told.push (fault, issue) }
    match listener fault issue with
    | .ok () => s
    | .error failure =>
      s.report (.error "Error callback raised an exception" (some ⟨failure, []⟩))

/-- Records a fault that was recovered from. -/
def recover (setting : Setting) (fault : Fault) (node : Option Cursor) (handler : String)
    (recovery : Recovery) (s : Session) : Session :=
  let issue := issueOf fault node handler recovery
  let s := { s with issues := s.issues.push issue }
  tell setting fault issue
    (s.report (.warning ("Recovered from error in " ++ issue.text) (some ⟨fault, []⟩)))

/-- An action behind a boundary: where it fails, the fallback stands in, unless the fault gives up
the conversion. -/
def guarded (setting : Setting) (node : Option Cursor) (handler : String)
    (fallback : Unit → String) (action : Action String) : Action String := fun s =>
  match action s with
  | (.ok text, s) => (.ok text, s)
  | (.error fault, s) =>
    if fault.isAbort then (.error fault, s)
    else (.ok (fallback ()), recover setting fault node handler fault.kind.recovery s)

end Transcript
