import Transcript.Datum
import Transcript.Text.Lines

/-!
# Faults

What goes wrong while a transcript is converted, and how far it reaches. A rule that fails leaves
its mark on one node only; a fault that asks for the conversion to be given up crosses every
boundary.

## Main definitions

- `Recovery`: what a fault asks of the boundary that meets it
- `FaultKind`: the kinds of faults, with `FaultKind.label` and `FaultKind.broader?`
- `Fault`: a fault with its text and context
-/

namespace Transcript

/-- What a fault asks of the boundary that meets it. -/
inductive Recovery where
  /-- Leave the node out. -/
  | skip
  /-- Use the fallback. -/
  | fallback
  /-- Give up the conversion. -/
  | abort
  deriving DecidableEq, Inhabited

namespace Recovery

/-- The word for a recovery. -/
def word : Recovery → String
  | skip => "skip"
  | fallback => "fallback"
  | abort => "abort"

/-- The recovery named by a word. -/
def ofWord? (s : String) : Option Recovery :=
  [skip, fallback, abort].find? fun r => r.word == s

end Recovery

/-- The kinds of faults. -/
inductive FaultKind where
  /-- A value that does not fit. -/
  | badValue
  /-- A value of the wrong type. -/
  | badType
  /-- A key that is missing. -/
  | missingKey
  /-- A position that does not exist. -/
  | badIndex
  /-- A member that does not exist. -/
  | missingMember
  /-- Something looked for is not there. -/
  | notFound
  /-- A platform under an unknown name. -/
  | unknownPlatform
  /-- A division by zero. -/
  | divisionByZero
  /-- A number that is too large. -/
  | overflow
  /-- A failure of no particular kind. -/
  | failure
  /-- The file system refuses. -/
  | fileSystem
  /-- A file is in the way of a directory. -/
  | fileExists
  /-- A part of a path is no directory. -/
  | notDirectory
  /-- Bytes that are no text. -/
  | encoding
  /-- A text that is no JSON. -/
  | json
  /-- A reading that comes to nothing. -/
  | exhausted
  /-- A character that may not occur in a file. -/
  | badCharacter
  /-- A token of a file that is malformed. -/
  | badToken
  /-- Tokens of a file that do not fit together. -/
  | badStructure
  /-- A reference inside a file that leads nowhere. -/
  | badReference
  /-- A part of a file that has no value. -/
  | badContent
  /-- A text that is no selector. -/
  | selector
  /-- Something that is not supported. -/
  | unsupported
  /-- Tags that do not match. -/
  | markup
  /-- A formula nested too deeply. -/
  | nesting
  /-- A module that does not exist. -/
  | missingModule
  /-- Data that do not fit their description. -/
  | validation
  /-- A failure of the converter. -/
  | conversion
  /-- A rule table that is wired wrongly. -/
  | ruleTable
  /-- Two rules in conflict. -/
  | ruleConflict
  /-- A malformed rule. -/
  | invalidRule
  /-- A rule table that is closed. -/
  | sealed
  /-- Options that cannot be loaded. -/
  | options
  /-- A preview that cannot be made. -/
  | preview
  /-- A failure at a node, with what it asks for. -/
  | node (recovery : Recovery)
  /-- An exhausted budget of nodes or time. -/
  | budget
  /-- An exhausted depth. -/
  | depth
  deriving DecidableEq, Inhabited

namespace FaultKind

/-- The label under which a fault is reported when its text says nothing. -/
def label : FaultKind → String
  | badValue => "ValueError"
  | badType => "TypeError"
  | missingKey => "KeyError"
  | badIndex => "IndexError"
  | missingMember => "AttributeError"
  | notFound => "LookupError"
  | unknownPlatform => "UnknownPlatformError"
  | divisionByZero => "ZeroDivisionError"
  | overflow => "OverflowError"
  | failure => "RuntimeError"
  | fileSystem => "OSError"
  | fileExists => "FileExistsError"
  | notDirectory => "NotADirectoryError"
  | encoding => "UnicodeDecodeError"
  | json => "JSONDecodeError"
  | exhausted => "StopIteration"
  | badCharacter => "ReaderError"
  | badToken => "ScannerError"
  | badStructure => "ParserError"
  | badReference => "ComposerError"
  | badContent => "ConstructorError"
  | selector => "SelectorSyntaxError"
  | unsupported => "NotImplementedError"
  | markup => "MarkupError"
  | nesting => "MathMLNestingError"
  | missingModule => "ModuleNotFoundError"
  | validation => "ValidationError"
  | conversion => "ChatdownError"
  | ruleTable => "RuleConfigurationError"
  | ruleConflict => "RuleConflictError"
  | invalidRule => "InvalidRuleError"
  | sealed => "EngineSealedError"
  | options => "OptionsError"
  | preview => "PreviewError"
  | node _ => "ParserError"
  | budget => "BudgetExceededError"
  | depth => "DepthExceededError"

/-- The next broader kind of a failure of the converter. -/
def broader? : FaultKind → Option FaultKind
  | budget | depth => some (node .abort)
  | ruleConflict | invalidRule | sealed => some ruleTable
  | node _ | ruleTable | options | preview => some conversion
  | conversion | unsupported => some failure
  | fileExists | notDirectory => some fileSystem
  | _ => none

/-- A kind and the broader ones, narrowest first; `steps` bounds the climb. -/
def lineageFrom : Nat → FaultKind → List FaultKind
  | 0, k => [k]
  | steps + 1, k =>
    match k.broader? with
    | none => [k]
    | some b => k :: lineageFrom steps b

/-- A kind and the broader ones, narrowest first. -/
def lineage : FaultKind → List FaultKind :=
  lineageFrom 4

/-- What a fault of this kind asks of the boundary that meets it. -/
def recovery : FaultKind → Recovery
  | node r => r
  | budget | depth => .abort
  | _ => .fallback

/-- Whether faults of this kind belong to the conversion of a node. -/
def isNodeFault : FaultKind → Bool
  | node _ | budget | depth => true
  | _ => false

end FaultKind

/-- A fault. -/
structure Fault where
  /-- Its kind. -/
  kind : FaultKind
  /-- Its text, if it was raised with one. -/
  message : Option String := none
  /-- What else is known about it. -/
  context : List (String × Datum) := []
  deriving Inhabited

namespace Fault

/-- A fault with a text. -/
def of (kind : FaultKind) (message : String) : Fault :=
  { kind, message := some message }

/-- The text of a fault; the text of a missing key is shown in quotes. -/
def text (f : Fault) : String :=
  match f.message with
  | none => ""
  | some message => if f.kind = .missingKey then Text.quoted message else message

/-- The text of a fault, or its label if the text is empty. -/
def summary (f : Fault) : String :=
  if f.text == "" then f.kind.label else f.text

/-- Whether the fault gives up the conversion. -/
def isAbort (f : Fault) : Bool :=
  f.kind.recovery == .abort

/-- The first line of the text that is left when surrounding blanks are cut off. -/
def headline? (f : Fault) : Option String :=
  match Text.lines (Text.trim f.text) with
  | [] => none
  | line :: _ =>
    let line := Text.trim line
    if line == "" then none else some line

end Fault

end Transcript
