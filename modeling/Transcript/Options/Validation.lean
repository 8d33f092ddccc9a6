import Transcript.Options.Basic
import Transcript.Text.Numeral
import Transcript.Text.Search

/-!
# Validated options

Options are given as a mapping. Every field is read leniently: whole numbers also from truth values,
from quantities without a fraction and from text, and so on. All complaints are collected, those
about known fields in the order of the fields, and then those about unknown ones.

## Main definitions

- `Problem`, `Complaint`: what is wrong with a field
- `readInteger`, `readQuantity`, `readTruth`: the readers of fields
- `Options.ofPairs`, `Options.ofEntries`: options from the entries of a mapping
- `Options.ofDatum`: options from a datum, which may hold them under a key of its own
- `Options.merged`: options with some of them overridden
-/

namespace Transcript

open Number

namespace OptionField

/-- What is wrong with a field. -/
inductive Problem where
  /-- It is no whole number. -/
  | integerType
  /-- It has a fraction. -/
  | integerFraction
  /-- It is a text that is no whole number. -/
  | integerText
  /-- It has too many digits. -/
  | integerSize
  /-- It is not finite. -/
  | notFinite
  /-- It is no quantity. -/
  | quantityType
  /-- It is a text that is no quantity. -/
  | quantityText
  /-- It is no truth value. -/
  | truthType
  /-- It is a text or number that is no truth value. -/
  | truthText
  /-- It is not greater than zero. -/
  | notPositive
  /-- It is a text with halves of surrogate pairs in it. -/
  | brokenText
  /-- It is not something that can be called. -/
  | notCallable
  /-- Its name is no text. -/
  | nameType
  /-- There is no such field. -/
  | unknown
  deriving DecidableEq

/-- The code of a problem. -/
def Problem.code : Problem → String
  | integerType => "int_type"
  | integerFraction => "int_from_float"
  | integerText => "int_parsing"
  | integerSize => "int_parsing_size"
  | notFinite => "finite_number"
  | quantityType => "float_type"
  | quantityText => "float_parsing"
  | truthType => "bool_type"
  | truthText => "bool_parsing"
  | notPositive => "greater_than"
  | brokenText => "string_unicode"
  | notCallable => "callable_type"
  | nameType => "invalid_key"
  | unknown => "extra_forbidden"

/-- A field with what is wrong with it. -/
structure Complaint where
  /-- The field. -/
  field : String
  /-- What is wrong with it. -/
  problem : Problem
  deriving DecidableEq

/-! ## Reading fields -/

/-- Drops a point with zeros, and nothing else, behind it. -/
def dropZeroFraction (s : List Char) : List Char :=
  let whole := s.takeWhile (· != '.')
  match s.dropWhile (· != '.') with
  | '.' :: c :: rest => if (c :: rest).all (· = '0') then whole else s
  | _ => s

/-- Drops the underscores, if each stands between two other characters. -/
def dropUnderscores (s : List Char) : List Char :=
  -- A stray underscore stays, and spoils the number later.
  if s.head? == some '_' || s.getLast? == some '_' || Chars.contains ['_', '_'] s then s
  else s.filter (· != '_')

/-- Drops zeros in front of a number, and the underscores among them; one zero stays if nothing or
only a point follows. `last` is the last character dropped. -/
def dropZerosBehind (last : Char) : List Char → Option (List Char)
  | [] => some [last]
  | c :: rest =>
    if c = '0' || c = '_' then dropZerosBehind c rest
    else if c = '.' then some (last :: c :: rest)
    else if c.isDigit || c = '-' then some (c :: rest)
    else none

/-- Drops zeros in front of a number; `none` if no digit is in front. -/
def dropZeros? : List Char → Option (List Char)
  | [] => none
  | c :: rest =>
    if c = '0' then dropZerosBehind c rest else if c.isDigit then some (c :: rest) else none

/-- A number in its plain form, sign and digits, made from one that may have a plus in front, zeros
in front of its digits, underscores between them, and a point with zeros behind it. -/
def plainInteger? (s : List Char) : Option (List Char) :=
  let bare (s : List Char) := dropUnderscores (dropZeroFraction s)
  match s with
  | '-' :: rest => (dropZeros? rest).map fun digits => '-' :: bare digits
  | '+' :: rest => (dropZeros? rest).map bare
  | s => (dropZeros? s).map bare

/-- How many characters a sign and the digits behind it take, unless they start with a zero. -/
def integerLength (s : List Char) : Nat :=
  let digits :=
    match s with
    | '-' :: rest => rest
    | s => s
  let taken := digits.takeWhile Char.isDigit
  if taken.isEmpty || taken.head? == some '0' then 0
  else s.length - digits.length + taken.length

/-- The number spelled by ASCII digits. -/
def readAsciiDigits? (s : List Char) : Option Nat :=
  if s.isEmpty || !s.all Char.isDigit then none
  else some (Chars.ofDigits (s.map fun c => c.toNat - '0'.toNat))

/-- Reads a whole number in its plain form. -/
def readPlainInteger? (s : List Char) : Option Int :=
  if Text.maxIntegerDigits < s.length then none
  else
    match s with
    | '-' :: digits => (readAsciiDigits? digits).map fun n => -(n : Int)
    | digits => (readAsciiDigits? digits).map Int.ofNat

/-- Reads a whole number from text. Too many digits are told apart from other faults only where they
stand in the plain form. -/
def integerOfText (s : String) : Except Problem Int :=
  let written := Chars.trimNumber s.toList
  if Text.maxIntegerDigits < integerLength written then .error .integerSize
  else ((plainInteger? written).bind readPlainInteger?).elim (.error .integerText) .ok

/-- The first size that does not fit into 64 bits with a sign. -/
def wordBound : Nat := Nat.pow 2 63

/-- The whole number that a finite quantity is; larger ones than fit into 64 bits are refused. -/
def integerOfRat (q : Rat) : Except Problem Int :=
  if q.den ≠ 1 then .error .integerFraction
  else if q.num.natAbs < wordBound then .ok q.num
  else .error .integerSize

/-- Reads a whole number. -/
def readInteger : Datum → Except Problem Int
  | .bool b => .ok (if b then 1 else 0)
  | .int n => .ok n
  | .number q => q.value?.elim (.error .notFinite) integerOfRat
  | .text s => integerOfText s
  | .brokenText _ => .error .brokenText
  | _ => .error .integerType

/-- Reads a quantity from text, in ASCII only. -/
def quantityOfText (s : String) : Except Problem Quantity :=
  let written := dropUnderscores (Chars.trimNumber s.toList)
  if written.contains '_' || written.any fun c => 128 ≤ c.toNat then .error .quantityText
  else
    match Text.readQuantity? (String.ofList written) with
    | some q => .ok q
    | none => .error .quantityText

/-- Reads a quantity. -/
def readQuantity : Datum → Except Problem Quantity
  | .bool b => .ok (.finite (if b then 1 else 0))
  -- A whole number too large for a quantity is none.
  | .int n => (quantityOfInteger? n).elim (.error .quantityType) .ok
  | .number q => .ok q
  | .text s => quantityOfText s
  | .brokenText _ => .error .brokenText
  | _ => .error .quantityType

/-- Words for a truth value, up to ASCII case. -/
def truthOfWord? (s : String) : Option Bool :=
  let word := Text.asciiLower s
  if ["1", "true", "t", "yes", "y", "on"].contains word then some true
  else if ["0", "false", "f", "no", "n", "off"].contains word then some false
  else none

/-- The truth value that a whole number stands for. -/
def truthOfInteger (n : Int) : Except Problem Bool :=
  if n = 1 then .ok true else if n = 0 then .ok false else .error .truthText

/-- Reads a truth value. -/
def readTruth : Datum → Except Problem Bool
  | .bool b => .ok b
  | .int n =>
    if -(wordBound : Int) ≤ n && n < wordBound then truthOfInteger n else .error .truthType
  | .number q =>
    match q.value?.map integerOfRat with
    | some (.ok n) => truthOfInteger n
    | _ => .error .truthType
  | .text s =>
    match truthOfWord? s with
    | some b => .ok b
    | none => .error .truthText
  | .brokenText _ => .error .brokenText
  | _ => .error .truthType

/-- Reads a whole number greater than zero. -/
def readCount (d : Datum) : Except Problem Nat :=
  match readInteger d with
  | .error problem => .error problem
  | .ok n => if 0 < n then .ok n.toNat else .error .notPositive

/-- Reads a quantity greater than zero. -/
def readBudget (d : Datum) : Except Problem Quantity :=
  match readQuantity d with
  | .error problem => .error problem
  | .ok q => if q.isPositive then .ok q else .error .notPositive

/-- Reads the place of a listener, for which data has no value. -/
def readNoListener : Datum → Except Problem Unit
  | .null => .ok ()
  | _ => .error .notCallable

/-! ## Reading options -/

/-- The fields, in order. -/
def names : List String :=
  ["max_node_count", "max_processing_time_ms", "max_depth", "enable_performance_logging",
    "on_error"]

/-- Reads a field of a mapping; a missing field has its default. -/
def read {α : Type} (entries : List (String × Datum)) (name : String)
    (reader : Datum → Except Problem α) (default : α) : Except Problem α :=
  match Datum.entry? entries name with
  | none => .ok default
  | some d => reader d

/-- The complaint about a field, if there is one. -/
def complaint {α : Type} (name : String) : Except Problem α → List Complaint
  | .ok _ => []
  | .error problem => [⟨name, problem⟩]

/-- The name under which an entry is complained about that has no text for a key. -/
def shownKey : Datum → String
  | .bool b => if b then "1" else "0"
  | key => key.shown

/-- The complaint about an entry that has no field. -/
def unknownEntry (key : Datum) : Option Complaint :=
  match key with
  | .text name => if names.contains name then none else some ⟨name, .unknown⟩
  | key => some ⟨shownKey key, .nameType⟩

end OptionField

namespace Options

open OptionField

/-- Options from the entries of a mapping, on top of other options; `others` are the complaints
about entries that have no field. -/
def ofFields (base : Options) (entries : List (String × Datum)) (others : List Complaint) :
    Except (List Complaint) Options :=
  let visits := OptionField.read entries "max_node_count" readCount base.maxVisits
  let time := OptionField.read entries "max_processing_time_ms" readBudget base.timeBudget
  let depth := OptionField.read entries "max_depth" readCount base.maxDepth
  let log := OptionField.read entries "enable_performance_logging" readTruth base.logPerformance
  let listener := OptionField.read entries "on_error" readNoListener ()
  -- Options are given only if there is nothing to complain about.
  match visits, time, depth, log, listener, others with
  | .ok visits, .ok time, .ok depth, .ok log, .ok _, [] =>
    .ok { base with
      maxVisits := visits, timeBudget := time, maxDepth := depth, logPerformance := log }
  | _, _, _, _, _, _ =>
    .error (complaint "max_node_count" visits ++ complaint "max_processing_time_ms" time ++
      complaint "max_depth" depth ++ complaint "enable_performance_logging" log ++
      complaint "on_error" listener ++ others)

/-- Options from the entries of a mapping with any keys, on top of other options. -/
def ofPairs (base : Options) (entries : List (Datum × Datum)) :
    Except (List Complaint) Options :=
  let isBroken (key : Datum) : Bool :=
    match key with
    | .brokenText _ => true
    | _ => false
  -- A key that is no text at all stops everything else.
  if entries.any fun e => isBroken e.1 then .error [⟨"", .brokenText⟩]
  else
    ofFields base (entries.filterMap Datum.textPair?)
      (entries.filterMap fun e => unknownEntry e.1)

/-- Options from the entries of a mapping, on top of other options. -/
def ofEntries (base : Options) (entries : List (String × Datum)) :
    Except (List Complaint) Options :=
  ofPairs base (entries.map fun e => (.text e.1, e.2))

/-- Why options are refused: they are no mapping, or their fields are complained about. -/
inductive Refusal where
  /-- They are no mapping. -/
  | noMapping
  /-- Their fields are complained about. -/
  | invalid (complaints : List Complaint)

/-- The fault of refused options. -/
def Refusal.fault : Refusal → Fault
  | noMapping => .of .options "Parser options must be a mapping"
  | invalid _ => .of .options "Invalid parser options"

/-- Options from a datum; they may stand under a key of their own. -/
def ofDatum (d : Datum) : Except Refusal Options :=
  let inner :=
    match d.pairs? with
    | some entries => (Datum.entry? (entries.filterMap Datum.textPair?) "parser").getD d
    | none => d
  match inner.pairs? with
  | some entries => (ofPairs {} entries).mapError .invalid
  | none => .error .noMapping

/-- The overrides that are given: entries that are not nothing. -/
def given (overrides : List (String × Datum)) : List (String × Datum) :=
  overrides.filter fun e => match e.2 with
    | .null => false
    | _ => true

/-- Options with some of them overridden; overrides of nothing do not count. -/
def merged (base : Options) (overrides : List (String × Datum)) :
    Except (List Complaint) Options :=
  if (given overrides).isEmpty then .ok base else ofEntries base (given overrides)

end Options

end Transcript
