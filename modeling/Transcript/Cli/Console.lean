import Transcript.Cli.Cells
import Transcript.Cli.Tagged
import Transcript.Diagnostic.Event

/-!
# Messages on the console

Messages go to standard error, line by line. How much is told of a fault depends on the verbosity,
and so does which diagnostics of a conversion are shown at all.

## Main definitions

- `CliState`: verbosity, and the events recorded so far
- `Level`, `messageLines`, `shownLines`: the lines of a message
- `Emitter`: shows the diagnostics of a conversion
-/

namespace Transcript.Cli

/-- The payload of an event. -/
abbrev Payload := List (String × Datum)

/-- What the commands of one run share. -/
structure CliState where
  /-- How much is told. -/
  verbosity : Int := 0
  /-- Whether unexpected faults are shown in full. -/
  showTracebacks : Bool := false
  /-- The payloads of the events recorded so far, by name, in the order of first appearance. -/
  events : List (String × List Payload) := []
  deriving Inhabited

/-- Adds a payload to those recorded under a name. -/
def addPayload (name : String) (payload : Payload) :
    List (String × List Payload) → List (String × List Payload)
  | [] => [(name, [payload])]
  | e :: rest =>
    if e.1 == name then (name, e.2 ++ [payload]) :: rest else e :: addPayload name payload rest

namespace CliState

/-- Records an event. -/
def recordEvent (s : CliState) (name : String) (payload : Payload) : CliState :=
  { s with events := addPayload name payload s.events }

/-- Changes verbosity and tracebacks, as far as they are given; verbosity does not fall below
zero. -/
def updated (s : CliState) (verbosity : Option Int) (debug : Option Bool) : CliState :=
  -- A negative verbosity is none at all.
  { s with
    verbosity := (verbosity.map fun v => max v 0).getD s.verbosity
    showTracebacks := debug.getD s.showTracebacks }

end CliState

/-- How grave a message is. -/
inductive Level where
  /-- Something failed. -/
  | error
  /-- Something was coped with. -/
  | warning
  /-- Something worth knowing. -/
  | info
  deriving DecidableEq

namespace Level

/-- The word for a level. -/
def word : Level → String
  | error => "error"
  | warning => "warning"
  | info => "info"

/-- The level named by a word. -/
def ofWord? (s : String) : Option Level :=
  [error, warning, info].find? fun l => l.word == s

end Level

/-- A fault with its label. -/
def labeled (fault : Fault) : String :=
  fault.kind.label ++ ": " ++ fault.text

/-- What is told of a fault below a message: its text, unless the message holds it already, its
label, and with more verbosity the faults behind it. -/
def reportLines (verbosity : Int) (message : String) (report : Report) : List String :=
  let detail := Text.trim report.fault.text
  let details := if detail == "" || Text.contains detail message then [] else [detail]
  let causes :=
    if verbosity < 2 || report.causes.isEmpty then []
    else "caused by:" :: report.causes.map fun cause => "  " ++ labeled cause
  details ++ ("type: " ++ report.fault.kind.label) :: causes

/-- The lines of a warning or error. -/
def messageLines (verbosity : Int) (level : Level) (message : String) (report : Option Report) :
    List String :=
  let extra :=
    match report with
    | some report => if verbosity < 1 then [] else reportLines verbosity message report
    | none => []
  consoleLines (Text.join "\n" ((level.word ++ ": " ++ message) :: extra))

/-- The lines of any message. Information may have tags, and is shown as it is. -/
def shownLines (verbosity : Int) (level : Level) (message : String) (report : Option Report) :
    Except Fault (List String) :=
  match level with
  | .info => (untagged message).map consoleLines
  | level => .ok (messageLines verbosity level message report)

/-- Shows the diagnostics of a conversion. -/
structure Emitter where
  /-- The state of the run. -/
  state : CliState
  /-- How many warnings there were, shown or not. -/
  warningCount : Nat := 0

/-- Events that are always shown. -/
def alwaysShown : List String := ["parse_complete", "parse_aborted"]

namespace Emitter

/-- Takes in a diagnostic: the lines shown, or the fault met in telling of an event, and the emitter
from there on. -/
def emit (e : Emitter) : Diagnostic → Except Fault (List String) × Emitter
  | .warning message report =>
    (.ok (if e.state.verbosity < 1 then []
        else messageLines e.state.verbosity .warning message report),
      { e with warningCount := e.warningCount + 1 })
  | .error message report => (.ok (messageLines e.state.verbosity .error message report), e)
  | .event event =>
    let e := { e with state := e.state.recordEvent event.name event.payload }
    match event.sentence with
    | .error fault => (.error fault, e)
    | .ok none => (.ok [], e)
    | .ok (some sentence) =>
      (if 0 < e.state.verbosity || alwaysShown.contains event.name then
        shownLines e.state.verbosity .info sentence none else .ok [], e)

/-- Takes in diagnostics one after another: all lines shown, and the emitter from there on. -/
def emitAll (e : Emitter) : List Diagnostic → List String × Emitter
  | [] => ([], e)
  | d :: rest =>
    let (shown, e) := e.emit d
    let (others, e) := e.emitAll rest
    (shown.toOption.getD [] ++ others, e)

end Emitter

end Transcript.Cli
