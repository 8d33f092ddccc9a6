import Transcript.Conversion.Traversal

/-!
# Converting a document

A conversion never fails: where it is given up, the document degrades to its flattened text behind
a comment that says why.

## Main definitions

- `degraded`: the document left when a conversion is given up
- `Conversion`: a converted document with what is known about its conversion
- `convert`: converts a document
- `convertCounted`: the same, with a budget that is checked first
-/

namespace Transcript

open Markup

/-- The document left when a conversion is given up. -/
def degraded (root : Option Cursor) (reason : String) : String :=
  "<!-- Parser " ++ reason ++ " -->\n\n" ++ textOf root

/-- A converted document with what is known about its conversion. -/
structure Conversion where
  /-- The document. -/
  markdown : String
  /-- The name of the platform. -/
  platform : String
  /-- Number of visits. -/
  visits : Nat
  /-- Milliseconds taken. -/
  elapsed : Rat
  /-- Warnings given by rules. -/
  warnings : List String
  /-- Faults recovered from. -/
  issues : List Issue
  /-- Why the conversion was given up, if it was. -/
  abortReason : Option String
  /-- Everything reported, in order. -/
  trace : List Diagnostic
  /-- What the listener was told, in order. -/
  told : List (Fault × Issue)

/-- Whether the conversion was given up. -/
def Conversion.isAborted (c : Conversion) : Bool :=
  c.abortReason.isSome

/-- The session in which the conversion of a document starts. -/
def Session.start (setting : Setting) (root : Option Cursor) : Session :=
  -- One node more than may be visited: the visit that breaks the budget has a number too.
  { arena := Arena.ofTree root (some (setting.options.maxVisits + 1)) }

/-- The traversal of a document, and the cleaning of its text. -/
def traverse (setting : Setting) (root : Option Cursor) : Action String := fun s =>
  match processAt setting 0 root s with
  | (.error fault, s) => (.error fault, s)
  | (.ok text, s) => (setting.adapter.cleanText text, s)

/-- Gives up a conversion because of a fault: the document left, the reason, and the session. A
fault of a node is reported as such; any other fault is recorded as an issue. -/
def giveUp (setting : Setting) (root : Option Cursor) (fault : Fault) (s : Session) :
    String × String × Session :=
  if fault.kind.isNodeFault then
    let reason := fault.text
    let s := s.report (.warning ("Conversion aborted: " ++ reason) none)
    let event := Event.parseAborted reason setting.adapter.name s.visits fault.context
    (degraded root reason, reason, s.report (.event event))
  else
    let reason := "failed: " ++ fault.text
    (degraded root reason, reason, recover setting fault root "parser" .abort s)

/-- The end of a conversion: its facts are gathered, and reported if that is asked for. -/
def conclude (setting : Setting) (markdown : String) (abortReason : Option String) (s : Session) :
    Conversion :=
  -- The last reading of the clock.
  let elapsed := s.elapsed setting
  let platform := setting.adapter.name
  let warnings := s.warnings.toList
  let issues := s.issues.toList
  let complete := Event.parseComplete platform s.visits elapsed warnings.length issues.length
    abortReason.isSome
  let trace := if setting.options.logPerformance then s.trace.push (.event complete) else s.trace
  ⟨markdown, platform, s.visits, elapsed, warnings, issues, abortReason, trace.toList,
    s.told.toList⟩

/-- Converts a document. -/
def convert (setting : Setting) (root : Option Cursor) : Conversion :=
  match traverse setting root (Session.start setting root) with
  | (.ok markdown, s) => conclude setting markdown none s
  | (.error fault, s) =>
    match giveUp setting root fault s with
    | (markdown, reason, s) => conclude setting markdown (some reason) s

/-- Converts a document, unless its nodes cannot be counted up to the budget. -/
def convertCounted (setting : Setting) (root : Option Cursor) : Except Fault Conversion :=
  (Arena.checkedLimit (setting.options.maxVisits + 1)).map fun _ => convert setting root

end Transcript
