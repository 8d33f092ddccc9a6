import Transcript.Diagnostic.Event

/-!
# Diagnostics in a log

How diagnostics are written to a log: each as a record with a level, a text, and whether the fault
behind it is attached.
-/

namespace Transcript

/-- A record of a log. -/
structure LogRecord where
  /-- The level. -/
  level : String
  /-- The text. -/
  text : String
  /-- Whether the fault behind it is attached. -/
  hasFault : Bool
  deriving DecidableEq

/-- The record of a diagnostic. Warnings have their fault attached only for debugging, and an event
that is not told is logged with its payload. -/
def Diagnostic.logRecord (debug : Bool) : Diagnostic → Except Fault LogRecord
  | .warning message report => .ok ⟨"WARNING", message, debug && report.isSome⟩
  | .error message report => .ok ⟨"ERROR", message, report.isSome⟩
  | .event e =>
    e.sentence.map fun
      | some sentence => ⟨"INFO", sentence, false⟩
      | none =>
        ⟨"DEBUG", "diagnostic event " ++ e.name ++ ": " ++ (Datum.mapping e.payload).literal, false⟩

end Transcript
