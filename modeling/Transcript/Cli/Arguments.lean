import Transcript.Cli.Disk
import Transcript.Options.Validation
import Transcript.Text.Quoted
import Transcript.Text.Similarity
import Transcript.Text.Word

/-!
# The command line

Reading the arguments of the commands. Options may stand anywhere; their values are checked in the
order in which the options first appear, and the last value of an option counts.

## Main definitions

- `UsageError`: what is wrong with a command line
- `Opt`: the options
- `Given`: the options and positional arguments given
- `ConvertRequest`: what the conversion command is asked to do
- `Invocation`, `readCommandLine`: the command that a command line asks for
-/

namespace Transcript.Cli

open Number

/-- What is wrong with a command line. -/
inductive UsageError where
  /-- A value does not fit. -/
  | badParameter (hint message : String)
  /-- A positional argument is missing. -/
  | missingArgument (name : String)
  /-- An option does not exist, but others are like it. -/
  | noSuchOption (name : String) (others : List String)
  /-- An option is used wrongly. -/
  | badOption (message : String)
  /-- The command line is wrong as a whole. -/
  | usage (message : String)
  deriving DecidableEq

namespace UsageError

/-- The label of an error. -/
def label : UsageError → String
  | badParameter _ _ => "BadParameter"
  | missingArgument _ => "MissingParameter"
  | noSuchOption _ _ => "NoSuchOption"
  | badOption _ => "BadOptionUsage"
  | usage _ => "UsageError"

/-- The message of an error. -/
def message : UsageError → String
  | badParameter hint message => "Invalid value for " ++ hint ++ ": " ++ message
  | missingArgument name => "Missing argument '" ++ name ++ "'."
  | noSuchOption name [] => "No such option: " ++ name
  | noSuchOption name others =>
    "No such option: " ++ name ++ " (Possible options: " ++
      Text.join ", " (others.mergeSort fun a b => a ≤ b) ++ ")"
  | badOption message => message
  | usage message => message

/-- Changes what is said of the command line at the end. -/
def amend (change : String → String) : UsageError → UsageError
  | badParameter hint message => badParameter hint (change message)
  | missingArgument name => missingArgument (change name)
  | noSuchOption name others => noSuchOption (change name) others
  | badOption message => badOption (change message)
  | usage message => usage (change message)

end UsageError

/-! ## Options -/

/-- The options of the commands. -/
inductive Opt where
  /-- Where to write the document. -/
  | output
  /-- Which platform the page comes from. -/
  | platform
  /-- Which host the page comes from. -/
  | hostname
  /-- Which part of the page to convert. -/
  | selector
  /-- Whether noise is kept. -/
  | keepNoise
  /-- Which reader of markup to use. -/
  | parser
  /-- A file with options of the conversion. -/
  | config
  /-- Most nodes visited. -/
  | maxNodes
  /-- Most milliseconds taken. -/
  | maxTime
  /-- Deepest level visited. -/
  | maxDepth
  /-- Whether the end of the conversion is reported. -/
  | timings
  /-- Where to write a preview. -/
  | preview
  /-- How much is told. -/
  | verbose
  /-- Whether unexpected faults are shown in full. -/
  | debug
  /-- Whether the options are to be explained. -/
  | help
  /-- Whether the version is to be shown. -/
  | version
  /-- Whether the shell is to be taught the options. -/
  | installCompletion
  /-- Whether that lesson is to be shown. -/
  | showCompletion
  deriving DecidableEq

namespace Opt

/-- The ways to write an option, the long one first. -/
def spellings : Opt → List String
  | output => ["--output", "-o"]
  | platform => ["--platform", "-p"]
  | hostname => ["--hostname"]
  | selector => ["--selector"]
  | keepNoise => ["--keep-noise"]
  | parser => ["--parser"]
  | config => ["--config", "-c"]
  | maxNodes => ["--max-nodes"]
  | maxTime => ["--max-time-ms"]
  | maxDepth => ["--max-depth"]
  | timings => ["--timings"]
  | preview => ["--preview"]
  | verbose => ["--verbose", "-v"]
  | debug => ["--debug"]
  | help => ["--help", "-h"]
  | version => ["--version"]
  | installCompletion => ["--install-completion"]
  | showCompletion => ["--show-completion"]

/-- Whether an option takes a value. -/
def takesValue : Opt → Bool
  | keepNoise | timings | verbose | debug | help | version | installCompletion | showCompletion =>
    false
  | _ => true

/-- The options of the conversion command. -/
def ofConvert : List Opt :=
  [output, platform, hostname, selector, keepNoise, parser, config, maxNodes, maxTime, maxDepth,
    timings, preview, verbose, debug, help]

/-- The options of the listing command. -/
def ofRules : List Opt := [help]

/-- The options in front of any command. -/
def ofProgram : List Opt := [version, installCompletion, showCompletion, help]

/-- The option written so, among some options. -/
def find? (known : List Opt) (spelling : String) : Option Opt :=
  known.find? fun o => o.spellings.contains spelling

/-- The error of an option that is not among the known ones. Long spellings close to it are
offered. -/
def missing (known : List Opt) (spelling : String) : UsageError :=
  let long := (known.flatMap spellings).filter (Text.startsWith "--")
  .noSuchOption spelling
    (if Text.startsWith "--" spelling then Text.closeMatches spelling long else [])

/-- An option as it is shown in errors about its value. -/
def hint (o : Opt) : String :=
  Text.join " / " (o.spellings.map fun s => "'" ++ s ++ "'")

end Opt

/-- Options with their values, and positional arguments, in the order of their appearance. -/
structure Given where
  /-- The options; those without a value have none. -/
  options : List (Opt × String) := []
  /-- The positional arguments. -/
  positional : List String := []

namespace Given

/-- Puts an option in front. -/
def withOption (o : Opt) (value : String) (g : Given) : Given :=
  { g with options := (o, value) :: g.options }

/-- Puts a positional argument in front. -/
def withPositional (s : String) (g : Given) : Given :=
  { g with positional := s :: g.positional }

/-- Whether an option is given. -/
def has (g : Given) (o : Opt) : Bool :=
  g.options.any fun e => e.1 == o

/-- How often an option is given. -/
def count (g : Given) (o : Opt) : Nat :=
  g.options.countP fun e => e.1 == o

/-- The last value of an option. -/
def last? (g : Given) (o : Opt) : Option String :=
  (g.options.reverse.find? fun e => e.1 == o).map Prod.snd

/-- The options given, in the order of their first appearance. -/
def order (g : Given) : List Opt :=
  g.options.foldl (fun found e => if found.contains e.1 then found else found ++ [e.1]) []

end Given

/-- The error of an option without its value. -/
def needsValue (spelling : String) : UsageError :=
  .badOption ("Option '" ++ spelling ++ "' requires an argument.")

/-- What a group of short options comes to: options that are complete, and one that still needs its
value, with its spelling. -/
structure Cluster where
  /-- The options that are complete. -/
  complete : List (Opt × String) := []
  /-- The option that needs its value. -/
  open? : Option (Opt × String) := none

/-- Reads a group of short options, letter by letter. An option that takes a value takes the rest of
the group, if there is one. -/
def readCluster (known : List Opt) : List Char → Except UsageError Cluster
  | [] => .ok {}
  | c :: rest =>
    let spelling := String.ofList ['-', c]
    match Opt.find? known spelling with
    | none => .error (Opt.missing known spelling)
    | some o =>
      if o.takesValue then
        .ok (if rest.isEmpty then { open? := some (o, spelling) }
          else { complete := [(o, String.ofList rest)] })
      else
        (readCluster known rest).map fun cluster =>
          { cluster with complete := (o, "") :: cluster.complete }

/-- The long option at the beginning of an argument, and the value behind an equals sign. -/
def splitLong (arg : String) : String × Option String :=
  let chars := arg.toList
  match chars.dropWhile (· != '=') with
  | '=' :: value => (String.ofList (chars.takeWhile (· != '=')), some (String.ofList value))
  | _ => (arg, none)

/-- Reads arguments into options and positional ones. Where options do not stand `anywhere`, the
first positional argument ends them. -/
def readArguments (known : List Opt) (anywhere : Bool) : List String → Except UsageError Given
  | [] => .ok {}
  | arg :: rest =>
    -- Two dashes end the options.
    if arg == "--" then .ok { positional := rest }
    else if Text.startsWith "--" arg then
      let (spelling, explicit) := splitLong arg
      match Opt.find? known spelling, explicit with
      | none, _ => .error (Opt.missing known spelling)
      | some o, some value =>
        if o.takesValue then (readArguments known anywhere rest).map (Given.withOption o value)
        else .error (.badOption ("Option '" ++ spelling ++ "' does not take a value."))
      | some o, none =>
        if o.takesValue then
          match rest with
          | [] => .error (needsValue spelling)
          | value :: rest => (readArguments known anywhere rest).map (Given.withOption o value)
        else (readArguments known anywhere rest).map (Given.withOption o "")
    -- A single dash is an argument like any other.
    else if Text.startsWith "-" arg && arg != "-" then
      match readCluster known (arg.toList.drop 1) with
      | .error e => .error e
      | .ok cluster =>
        let complete (g : Given) : Given := { g with options := cluster.complete ++ g.options }
        match cluster.open? with
        | none => (readArguments known anywhere rest).map complete
        | some (o, spelling) =>
          match rest with
          | [] => .error (needsValue spelling)
          | value :: rest =>
            (readArguments known anywhere rest).map fun g => complete (g.withOption o value)
    else if !anywhere then .ok { positional := arg :: rest }
    else (readArguments known anywhere rest).map (Given.withPositional arg)

/-! ## The conversion command -/

/-- What is said of values that are no numbers or too small. -/
def valueProblem : OptionField.Problem → String
  | .integerSize => "Unable to parse input string as an integer, exceeded maximum size"
  | .integerText => "Input should be a valid integer, unable to parse string as an integer"
  | .quantityText => "Input should be a valid number, unable to parse string as a number"
  | _ => "Input should be greater than or equal to 1"

/-- Reads a whole number from one on. -/
def readLimit (s : String) : Except OptionField.Problem Nat :=
  match OptionField.integerOfText s with
  | .error problem => .error problem
  | .ok n => if 1 ≤ n then .ok n.toNat else .error .notPositive

/-- Whether a quantity is at least one. -/
def isAtLeastOne (q : Quantity) : Bool :=
  q == .finite 1 || (Quantity.finite 1).isLess q

/-- Reads a quantity from one on. -/
def readSpan (s : String) : Except OptionField.Problem Quantity :=
  match OptionField.quantityOfText s with
  | .error problem => .error problem
  | .ok q => if isAtLeastOne q then .ok q else .error .notPositive

/-- What is wrong with a file to be read, if anything is. -/
def readProblem? (disk : Disk) (path : String) : Option String :=
  if disk.hasDirectory (Path.ofText path) then some ("file '" ++ path ++ "' is a directory.")
  else if disk.hasFile (Path.ofText path) then none
  else some ("file '" ++ path ++ "' does not exist.")

/-- What is wrong with a file to be written, if anything is. -/
def writeProblem? (disk : Disk) (path : String) : Option String :=
  if disk.hasDirectory (Path.ofText path) then some ("file '" ++ path ++ "' is a directory.")
  else none

/-- What is wrong with the value of an option, if anything is. -/
def optionProblem? (disk : Disk) (o : Opt) (value : String) : Option String :=
  match o with
  | .maxNodes | .maxDepth =>
    match readLimit value with
    | .ok _ => none
    | .error problem => some (valueProblem problem)
  | .maxTime =>
    match readSpan value with
    | .ok _ => none
    | .error problem => some (valueProblem problem)
  | .config => readProblem? disk value
  | .output | .preview => writeProblem? disk value
  | _ => none

/-- The first error among the values of the given options. -/
def optionError? (disk : Disk) (g : Given) : Option UsageError :=
  g.order.findSome? fun o =>
    (optionProblem? disk o ((g.last? o).getD "")).map (UsageError.badParameter o.hint)

/-- What the conversion command is asked to do. -/
structure ConvertRequest where
  /-- The page. -/
  input : Path
  /-- Where to write the document. -/
  output : Option Path
  /-- The platform, or the word for finding it out. -/
  platform : String
  /-- The host. -/
  hostname : Option String
  /-- The part of the page. -/
  selector : Option String
  /-- Whether noise is kept. -/
  keepNoise : Bool
  /-- The reader of markup. -/
  parser : String
  /-- The file with options. -/
  config : Option Path
  /-- Options given directly. -/
  overrides : List (String × Datum)
  /-- Where to write a preview. -/
  preview : Option Path
  /-- How much is told. -/
  verbosity : Nat
  /-- Whether unexpected faults are shown in full. -/
  debug : Bool

/-- The word for finding the platform out. -/
def autoPlatform : String := "auto"

/-- The options of the conversion that are given directly. -/
def overridesOf (g : Given) : List (String × Datum) :=
  let limit (o : Opt) : Datum :=
    match (g.last? o).map readLimit with
    | some (.ok n) => .int n
    | _ => .null
  let span :=
    match (g.last? .maxTime).map readSpan with
    | some (.ok q) => .number q
    | _ => .null
  [("max_node_count", limit .maxNodes), ("max_processing_time_ms", span),
    ("max_depth", limit .maxDepth),
    ("enable_performance_logging", if g.has .timings then .bool true else .null)]

/-- The request made by given options and an input. -/
def requestOf (g : Given) (input : String) : ConvertRequest where
  input := Path.ofText input
  output := (g.last? .output).map Path.ofText
  platform := (g.last? .platform).getD autoPlatform
  hostname := g.last? .hostname
  selector := g.last? .selector
  keepNoise := g.has .keepNoise
  parser := (g.last? .parser).getD "lxml"
  config := (g.last? .config).map Path.ofText
  overrides := overridesOf g
  preview := (g.last? .preview).map Path.ofText
  verbosity := g.count .verbose
  debug := g.has .debug

/-- The name of the input among the arguments. -/
def inputName : String := "INPUT"

/-- The error of positional arguments that nobody asked for, if there are any. -/
def extraError? (extra : List String) : Option UsageError :=
  if extra.isEmpty then none
  else some (.usage ("Got unexpected extra argument(s) (" ++ Text.join " " extra ++ ")"))

/-- The request that given options and arguments make. Options are checked first, then the input,
then what is left over. -/
def checkConvert (disk : Disk) (g : Given) : Except UsageError ConvertRequest :=
  match optionError? disk g, g.positional with
  | some e, _ => .error e
  | none, [] => .error (.missingArgument inputName)
  | none, input :: extra =>
    match readProblem? disk input, extraError? extra with
    | some problem, _ => .error (.badParameter ("'" ++ inputName ++ "'") problem)
    | none, some e => .error e
    | none, none => .ok (requestOf g input)

/-! ## Commands -/

/-- What a command line asks for. -/
inductive Invocation where
  /-- The version. -/
  | version
  /-- An explanation of the options. -/
  | help
  /-- The list of rules. -/
  | rules
  /-- A conversion. -/
  | convert (request : ConvertRequest)

/-- The names of the commands. -/
def commandNames : List String := ["convert", "rules"]

/-- Reads the arguments of the conversion command. The shape of the arguments comes first, then
their values. -/
def readConvert (disk : Disk) (args : List String) : Except UsageError Invocation :=
  match readArguments Opt.ofConvert true args with
  | .error e => .error e
  | .ok g => if g.has .help then .ok .help else (checkConvert disk g).map .convert

/-- Reads the arguments of the listing command. -/
def readRules (args : List String) : Except UsageError Invocation :=
  match readArguments Opt.ofRules true args with
  | .error e => .error e
  | .ok g => if g.has .help then .ok .help else (extraError? g.positional).elim (.ok .rules) .error

/-- What is asked for by the options in front of any command. -/
def askedFirst? (g : Given) : Option Invocation :=
  g.options.findSome? fun (o, _) =>
    match o with
    | .version => some .version
    | .help => some .help
    | _ => none

/-- Adds to an error the commands that are like what was written. -/
def suggesting (written : String) (e : UsageError) : UsageError :=
  match Text.closeMatches written commandNames with
  | [] => e
  | close =>
    e.amend fun message =>
      String.ofList (Chars.dropEndWhile (· = '.') message.toList) ++ ". Did you mean " ++
        Text.join ", " (close.map Text.quoted) ++ "?"

/-- What comes of a command that does not exist. If it does not begin like a word, it is first read
again as an option. -/
def readUnknown (name : String) (rest : List String) : Except UsageError Invocation :=
  let again : Except UsageError (Option Invocation) :=
    if name.toList.head?.any Chars.isAlphanumeric then .ok none
    else (readArguments Opt.ofProgram false (name :: rest)).map askedFirst?
  match again with
  | .error e => .error (suggesting name e)
  | .ok (some asked) => .ok asked
  | .ok none => .error (suggesting name (.usage ("No such command " ++ Text.quoted name ++ ".")))

/-- Reads a command line: options of the program, a command, and the arguments of the command. -/
def readCommandLine (disk : Disk) (args : List String) : Except UsageError Invocation :=
  match readArguments Opt.ofProgram false args with
  | .error e => .error e
  | .ok g =>
    match askedFirst? g, g.positional with
    | some asked, _ => .ok asked
    | none, [] => .error (.usage "Missing command.")
    | none, "convert" :: rest => readConvert disk rest
    | none, "rules" :: rest => readRules rest
    | none, name :: rest => readUnknown name rest

end Transcript.Cli
