import Transcript.Cli.Arguments
import Transcript.Cli.Console
import Transcript.Cli.RuleListing
import Transcript.Conversion.Convert
import Transcript.Document.Noise
import Transcript.Document.Reader
import Transcript.Options.File
import Transcript.Platform.Registry
import Transcript.Preview.Page

/-!
# The commands

What the commands do, as functions of the arguments, the working directory and the clock. A run ends
with an exit code, and with what was written to the two streams and to files; it may end early by a
usage error or by an unexpected fault.

## Main definitions

- `Outcome`: how a run ends
- `runConvert`, `run`: the commands
- `runReporting`: the commands, unexpected faults being reported on standard error
-/

namespace Transcript.Cli

open Markup

/-- The version. -/
def version : String := "0.1.0"

/-- What ends a run early. -/
inductive Failure where
  /-- The command line is wrong. -/
  | usage (e : UsageError)
  /-- An unexpected fault. -/
  | unexpected (report : Report)

/-- How a run ends. -/
structure Outcome where
  /-- The exit code. -/
  exit : Nat := 0
  /-- What was written to standard output. -/
  stdout : String := ""
  /-- The lines written to standard error. -/
  stderr : List String := []
  /-- The files written, with their text. -/
  written : List (Path × String) := []
  /-- What ended the run early, if anything did. -/
  failure : Option Failure := none
  /-- How much is told at the end of the run. -/
  verbosity : Nat := 0

namespace Outcome

/-- Adds lines on standard error. -/
def say (o : Outcome) (lines : List String) : Outcome :=
  { o with stderr := o.stderr ++ lines }

/-- Ends a run by a usage error. -/
def misused (o : Outcome) (e : UsageError) : Outcome :=
  { o with exit := 2, failure := some (.usage e) }

/-- Ends a run by an unexpected fault. -/
def failed (o : Outcome) (fault : Fault) (causes : List Fault) : Outcome :=
  { o with exit := 1, failure := some (.unexpected ⟨fault, causes⟩) }

/-- Ends a run by a fault that is told. -/
def refused (o : Outcome) (report : Report) : Outcome :=
  let lines := messageLines o.verbosity .error report.fault.text (some report)
  { o.say lines with exit := 1 }

end Outcome

/-- The surroundings of a run. -/
structure Surroundings where
  /-- The working directory. -/
  disk : Disk
  /-- The clock: its readings, in milliseconds. -/
  clock : Nat → Rat := fun _ => 0

/-- The selector that was meant: without blanks and quotes around it, and none if nothing is
left. -/
def normaliseSelector (selector : Option String) : Option String :=
  match selector with
  | none => none
  | some selector =>
    let value := (Text.trim selector).toList
    let inner :=
      match value with
      | first :: rest =>
        if (first = '\'' || first = '"') && !rest.isEmpty && rest.getLast? == some first then
          Chars.trim rest.dropLast
        else value
      | [] => []
    if inner.isEmpty then none else some (String.ofList inner)

/-- The options of the conversion that a request asks for. -/
def resolveOptions (disk : Disk) (r : ConvertRequest) : Except Report Options :=
  let base : Except OptionFile.Refusal Options :=
    match r.config with
    | none => .ok {}
    | some path =>
      OptionFile.load
        { path := path.shown disk.directory
          suffix := path.suffix
          bytes := .ok ((disk.bytes? path).getD []) }
  match base with
  | .error refusal => .error ⟨refusal.fault, refusal.causes⟩
  | .ok base =>
    (base.merged r.overrides).mapError fun complaints =>
      ⟨(Options.Refusal.invalid complaints).fault, []⟩

/-- The text of a stored page. A mark of byte order is dropped. -/
def pageText (bytes : List Nat) : String :=
  let text := (Utf8.decode bytes).toOption.getD ""
  (Text.dropStart? "\ufeff" text).getD text

/-- Why an adapter is not found: its name is unknown, or looking for it failed. -/
inductive AdapterFailure where
  /-- Its name is unknown. -/
  | unknown (fault : Fault)
  /-- Looking for it failed. -/
  | failed (fault : Fault)

/-- The adapter that a request asks for, with what is reported on the choice. -/
def resolveAdapter (r : ConvertRequest) (root : Cursor) :
    Except AdapterFailure (Adapter × List Diagnostic) :=
  let registry := Registry.standard
  -- A host decides before the platform's name does.
  if r.hostname.getD "" != "" then .ok (registry.forHostname r.hostname, [])
  else if Text.lower (Text.trim r.platform) == autoPlatform then
    match registry.detect root with
    | .error fault => .error (.failed fault)
    | .ok (adapter, event) => .ok (adapter, [.event event])
  else
    match registry.byName r.platform with
    | .error fault => .error (.unknown fault)
    | .ok adapter => .ok (adapter, [])

/-- The bytes of a text. -/
def bytesOf (text : String) : List Nat :=
  text.toUTF8.toList.map UInt8.toNat

/-- Writes a file at the end of a run. -/
def writeFile (o : Outcome) (disk : Disk) (path : Path) (text : String) : Outcome × Disk :=
  match disk.write path (bytesOf text) with
  | .error obstacle => (o.failed (disk.writeFault path obstacle) [obstacle], disk)
  | .ok disk =>
    ({ o with written := (o.written.filter fun e => e.1 != path) ++ [(path, text)] }, disk)

/-- Writes the document, to a file or to standard output. -/
def deliver (o : Outcome) (disk : Disk) (output : Option Path) (markdown : String) :
    Outcome × Disk :=
  match output with
  | none => ({ o with stdout := markdown ++ "\n" }, disk)
  | some path => writeFile o disk path markdown

/-- Writes the preview, if one is asked for. -/
def deliverPreview (o : Outcome) (disk : Disk) (preview : Option Path) (markdown : String) :
    Outcome × Disk :=
  match preview with
  | none => (o, disk)
  | some path =>
    match Preview.render markdown { isFramed := true } with
    | .error fault => (o.refused ⟨fault, []⟩, disk)
    | .ok html => writeFile o disk path html

/-- Warns of issues, unless they have been told already. -/
def warnOfIssues (o : Outcome) (issues : Nat) : Outcome :=
  if issues = 0 || 0 < o.verbosity then o
  else
    o.say (messageLines o.verbosity .warning
      ("Recovered from " ++ Number.integerText issues ++ " conversion error(s); " ++
        "rerun with -v for details.") none)

/-- Converts the chosen part of a page, and delivers the document. -/
def convertRoot (around : Surroundings) (r : ConvertRequest) (options : Options) (o : Outcome)
    (emitter : Emitter) (root : Cursor) : Outcome :=
  match resolveAdapter r root with
  | .error (.unknown fault) => o.misused (.badParameter "--platform" fault.text)
  | .error (.failed fault) => o.failed fault []
  | .ok (adapter, chosen) =>
    let (lines, emitter) := emitter.emitAll chosen
    let o := o.say lines
    let setting : Setting := ⟨adapter, options, RuleTable.standard.close, around.clock⟩
    match convertCounted setting (some root) with
    | .error fault => o.failed fault []
    | .ok result =>
      let o := o.say (emitter.emitAll result.trace).1
      match deliver o around.disk r.output result.markdown with
      | (o, disk) =>
        -- A document that cannot be written ends the run before its preview.
        if o.failure.isSome then o
        else
          let o := (deliverPreview o disk r.preview result.markdown).1
          if o.exit ≠ 0 then o else warnOfIssues o result.issues.length

/-- The conversion command. -/
def runConvert (around : Surroundings) (r : ConvertRequest) : Outcome :=
  let o : Outcome := { verbosity := r.verbosity }
  let emitter : Emitter := { state := { verbosity := r.verbosity, showTracebacks := r.debug } }
  match resolveOptions around.disk r with
  | .error report =>
    if report.fault.kind = .options then o.refused report else o.failed report.fault report.causes
  | .ok options =>
    let (page, reports) := loadPage (pageText ((around.disk.bytes? r.input).getD [])) r.parser
    let (lines, emitter) := emitter.emitAll reports
    let o := o.say lines
    match selectRoot (Cursor.root 0 page) (normaliseSelector r.selector) with
    | .error fault =>
      if fault.kind = .notFound then o.misused (.badParameter "--selector" fault.text)
      else o.failed fault []
    | .ok root =>
      let root :=
        if r.keepNoise then root else Cursor.root 0 (stripNoise defaultNoise root.node)
      convertRoot around r options o emitter root

/-- Runs a command line. -/
def run (around : Surroundings) (args : List String) : Outcome :=
  match readCommandLine around.disk args with
  | .error e => ({} : Outcome).misused e
  | .ok .version => { stdout := "chatdown " ++ version ++ "\n" }
  | .ok .help => {}
  | .ok .rules => { stdout := ruleListing RuleTable.standard.entries }
  | .ok (.convert request) => runConvert around request

/-- Runs a command line; an unexpected fault is reported on standard error. -/
def runReporting (around : Surroundings) (args : List String) : Outcome :=
  let o := run around args
  match o.failure with
  | some (.unexpected report) =>
    let lines := messageLines o.verbosity .error report.fault.text (some report)
    { o.say lines with failure := none }
  | _ => o

end Transcript.Cli
