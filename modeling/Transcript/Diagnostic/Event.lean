import Transcript.Fault.Chain
import Transcript.Text.Numeral

/-!
# Diagnostics

What a conversion reports while it runs: warnings, errors and named events with a payload. The
conversion only produces the list of its diagnostics; what is done with them is decided elsewhere.

## Main definitions

- `Event`: a named event with its payload, and the events that a conversion produces
- `Diagnostic`: a warning, an error or an event
- `Event.sentence`: the sentence that tells of an event
-/

namespace Transcript

open Number

/-- A named event. -/
structure Event where
  /-- Its name. -/
  name : String
  /-- What is known about it. -/
  payload : List (String × Datum)
  deriving Inhabited

namespace Event

/-- An adapter was chosen by its score. -/
def adapterDetected (platform : String) (score : Amount) : Event :=
  ⟨"adapter_detected", [("platform", .text platform), ("score", .ofAmount score)]⟩

/-- No strategy recovered a formula. -/
def latexFallback (platform strategy node : String) : Event :=
  ⟨"latex_fallback",
    [("platform", .text platform), ("strategy", .text strategy), ("node", .text node)]⟩

/-- A conversion was given up; the context of the fault comes last and overrides. -/
def parseAborted (reason platform : String) (visits : Nat) (context : List (String × Datum)) :
    Event :=
  ⟨"parse_aborted",
    [("reason", .text reason), ("platform", .text platform), ("node_count", .int visits)].filter
      (fun e => !(context.any fun c => c.1 == e.1)) ++ context⟩

/-- A conversion came to its end. -/
def parseComplete (platform : String) (visits : Nat) (elapsed : Rat) (warnings errors : Nat)
    (aborted : Bool) : Event :=
  ⟨"parse_complete",
    [("platform", .text platform), ("node_count", .int visits),
      ("processing_time_ms", .number (.finite elapsed)), ("warnings", .int warnings),
      ("errors", .int errors), ("aborted", .bool aborted)]⟩

/-- A reader of markup is not available. -/
def parserFallback (preferred used : String) : Event :=
  ⟨"parser_fallback", [("preferred", .text preferred), ("fallback", .text used)]⟩

/-- The fault of a whole number that is too large to be measured. -/
def tooLarge : Fault :=
  .of .overflow "int too large to convert to float"

/-- The datum as a quantity, as far as it is one or spells one. -/
def quantity (d : Datum) : Except Fault Quantity :=
  match d, d.amount? with
  | .text s, _ =>
    match Text.readQuantity? s with
    | some q => .ok q
    | none => .error (.of .badValue ("could not convert string to float: " ++ Text.quoted s))
  | _, some amount => amount.quantity?.elim (.error tooLarge) .ok
  | _, none => .error { kind := .badType }

/-- The entry under a key if it counts as given, else `default`. -/
def given (e : Event) (key default : String) : String :=
  match Datum.entry? e.payload key with
  | some d => if d.isGiven then d.shown else default
  | none => default

/-- The sentence that tells of an event, for the events that are told. -/
def sentence (e : Event) : Except Fault (Option String) :=
  let entry (key : String) := Datum.entry? e.payload key
  match e.name with
  | "parse_complete" =>
    let nodes := ((entry "node_count").getD (.int 0)).shown
    let elapsed :=
      match entry "processing_time_ms" with
      | some d => if d.isGiven then quantity d else .ok (.finite 0)
      | none => .ok (.finite 0)
    match elapsed with
    | .error f => .error f
    | .ok elapsed =>
      let counted (key : String) : List String :=
        match entry key with
        | some d => if d.isGiven then [key ++ "=" ++ d.shown] else []
        | none => []
      let details :=
        ("platform=" ++ e.given "platform" "<unknown>") :: counted "warnings" ++ counted "errors"
      .ok (some ("Processed " ++ nodes ++ " nodes in " ++ elapsed.fixedText 2 ++ "ms (" ++
        Text.join ", " details ++ ")"))
  | "parse_aborted" => .ok (some ("Conversion aborted: " ++ e.given "reason" "budget exceeded"))
  | "latex_fallback" =>
    .ok (some ("All LaTeX strategies declined on " ++ e.given "platform" "<unknown>" ++ "; kept " ++
      e.given "strategy" "markup"))
  | "adapter_detected" =>
    let start := "Using " ++ e.given "platform" "<unknown>" ++ " adapter"
    match entry "score" with
    | none | some .null => .ok (some start)
    | some d =>
      match quantity d with
      | .error f => .error f
      | .ok score => .ok (some (start ++ " (confidence " ++ score.fixedText 2 ++ ")"))
  | _ => .ok none

end Event

/-- A warning, an error or an event. -/
inductive Diagnostic where
  /-- Something that was coped with. -/
  | warning (message : String) (report : Option Report)
  /-- Something that was not. -/
  | error (message : String) (report : Option Report)
  /-- A named event. -/
  | event (event : Event)
  deriving Inhabited

namespace Diagnostic

/-- The messages of the warnings, in order. -/
def warnings (trace : List Diagnostic) : List String :=
  trace.filterMap fun
    | warning message _ => some message
    | _ => none

/-- The messages of the errors, in order. -/
def errors (trace : List Diagnostic) : List String :=
  trace.filterMap fun
    | error message _ => some message
    | _ => none

/-- The events, in order. -/
def events (trace : List Diagnostic) : List Event :=
  trace.filterMap fun
    | event e => some e
    | _ => none

end Diagnostic

end Transcript
