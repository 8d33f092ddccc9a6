import Transcript.Fault.Basic
import Transcript.Text.Numeral
import Transcript.Text.Search

/-!
# Reading JSON

Data written in JSON. The words for the infinities and for no number are read too, and of several
entries under one key the last one counts.

Readers take a text and give what they read with what follows it, or the flaw that they met. A flaw
is placed by how much of the text is left there. The recursion is bounded by fuel, of which every
value takes some; the length of the text is enough.

## Main definitions

- `Problem`, `Flaw`: why a text spells no data
- `readPoints`, `readNumber`: the readers of scalars
- `readValue`: the reader of values
- `read`, `read?`: the datum that a whole text spells
-/

namespace Transcript.Json

open Number

/-! ## Flaws -/

/-- What is wrong with a text. -/
inductive Problem where
  /-- There is no value. -/
  | noValue
  /-- There is no name of an entry. -/
  | noName
  /-- There is no colon behind a name. -/
  | noColon
  /-- There is no comma between two values. -/
  | noComma
  /-- A string does not end. -/
  | openString
  /-- A character may not stand in a string. -/
  | controlCharacter
  /-- There is no such escape. -/
  | unknownEscape
  /-- An escape by number lacks digits. -/
  | shortEscape
  /-- Something follows the value. -/
  | surplus
  /-- The text begins with a mark of byte order. -/
  | byteOrderMark
  deriving DecidableEq

/-- The words for a problem. -/
def Problem.words : Problem → String
  | noValue => "Expecting value"
  | noName => "Expecting property name enclosed in double quotes"
  | noColon => "Expecting ':' delimiter"
  | noComma => "Expecting ',' delimiter"
  | openString => "Unterminated string starting at"
  | controlCharacter => "Invalid control character at"
  | unknownEscape => "Invalid \\escape"
  | shortEscape => "Invalid \\uXXXX escape"
  | surplus => "Extra data"
  | byteOrderMark => "Unexpected UTF-8 BOM (decode using utf-8-sig)"

/-- Why a text spells no data. -/
inductive Flaw where
  /-- Something is wrong where this much of the text is left. -/
  | misread (problem : Problem) (left : Nat)
  /-- A whole number has too many digits. -/
  | oversized (digits : Nat)

/-- The words for a position in a text: its line and column, both counted from one, and the number
of characters in front of it. -/
def positionText (s : List Char) (position : Nat) : String :=
  let before := s.take position
  let column := (before.reverse.takeWhile (· != '\n')).length + 1
  "line " ++ integerText (before.count '\n' + 1 : Nat) ++ " column " ++ integerText column ++
    " (char " ++ integerText position ++ ")"

/-- The fault of a whole number with too many digits. -/
def oversizedNumber (digits : Nat) : Fault :=
  .of .badValue ("Exceeds the limit (" ++ integerText Text.maxIntegerDigits ++
    " digits) for integer string conversion: value has " ++ integerText digits ++
    " digits; use sys.set_int_max_str_digits() to increase the limit")

/-- The fault of a flaw in a text. -/
def Flaw.fault (s : List Char) : Flaw → Fault
  | misread problem left =>
    .of .json (problem.words ++ ": " ++ positionText s (s.length - left))
  | oversized digits => oversizedNumber digits

/-- A flaw in front of what is left of a text. -/
def flawAt {α : Type} (problem : Problem) (rest : List Char) : Except Flaw α :=
  .error (.misread problem rest.length)

/-! ## Strings -/

/-- The blanks between tokens. -/
def isGap (c : Char) : Bool :=
  c = ' ' || c = '\t' || c = '\n' || c = '\r'

/-- Skips blanks. -/
def skipGap (s : List Char) : List Char :=
  s.dropWhile isGap

/-- The value of a hexadecimal digit. -/
def hexValue? (c : Char) : Option Nat :=
  if c.isDigit then some (c.toNat - '0'.toNat)
  else
    let l := c.toLower
    if 'a' ≤ l && l ≤ 'f' then some (l.toNat - 'a'.toNat + 10) else none

/-- The number spelled by hexadecimal digits. -/
def hexNumber? (digits : List Char) : Option Nat :=
  digits.foldlM (fun value c => (hexValue? c).map fun digit => value * 16 + digit) 0

/-- The number spelled by four hexadecimal digits. -/
def hexValue4? (a b c d : Char) : Option Nat :=
  hexNumber? [a, b, c, d]

/-- The character of a simple escape. -/
def escaped? : Char → Option Char
  | '"' => some '\x22'
  | '\\' => some '\\'
  | '/' => some '/'
  | 'b' => some '\x08'
  | 'f' => some '\x0c'
  | 'n' => some '\n'
  | 'r' => some '\r'
  | 't' => some '\t'
  | _ => none

/-- Whether a number is the first half of a surrogate pair. -/
def isHigh (n : Nat) : Bool := 0xD800 ≤ n && n ≤ 0xDBFF

/-- Whether a number is the second half of a surrogate pair. -/
def isLow (n : Nat) : Bool := 0xDC00 ≤ n && n ≤ 0xDFFF

/-- Joins a high and a low surrogate. -/
def joinSurrogates (high low : Nat) : Nat :=
  0x10000 + (high - 0xD800) * 0x400 + (low - 0xDC00)

/-- Reads the code points of a string up to its closing quote. `opening` is the text from the
opening quote on, which has been read already. -/
def readPoints (opening : List Char) : List Char → Except Flaw (List Nat × List Char)
  | [] => flawAt .openString opening
  | '"' :: rest => .ok ([], rest)
  | '\\' :: 'u' :: a :: b :: c :: d :: '\\' :: 'u' :: e :: f :: g :: h :: rest =>
    match hexValue4? a b c d with
    | none =>
      flawAt .shortEscape ('u' :: a :: b :: c :: d :: '\\' :: 'u' :: e :: f :: g :: h :: rest)
    | some high =>
      let alone (_ : Unit) :=
        (readPoints opening ('\\' :: 'u' :: e :: f :: g :: h :: rest)).map fun (points, rest) =>
          (high :: points, rest)
      -- Two halves of a pair are one character; else the second escape is read by itself.
      if isHigh high && !rest.isEmpty then
        match hexValue4? e f g h with
        | none => flawAt .shortEscape ('u' :: e :: f :: g :: h :: rest)
        | some low =>
          if isLow low then
            (readPoints opening rest).map fun (points, rest) =>
              (joinSurrogates high low :: points, rest)
          else alone ()
      else alone ()
  | '\\' :: 'u' :: a :: b :: c :: d :: rest =>
    match hexValue4? a b c d, rest with
    | some n, _ :: _ =>
      (readPoints opening rest).map fun (points, rest) => (n :: points, rest)
    | _, _ => flawAt .shortEscape ('u' :: a :: b :: c :: d :: rest)
  | '\\' :: 'u' :: rest => flawAt .shortEscape ('u' :: rest)
  | ['\\'] => flawAt .openString opening
  | '\\' :: c :: rest =>
    match escaped? c with
    | some meant =>
      (readPoints opening rest).map fun (points, rest) => (meant.toNat :: points, rest)
    | none => flawAt .unknownEscape ('\\' :: c :: rest)
  | c :: rest =>
    if c.toNat < 32 then flawAt .controlCharacter (c :: rest)
    else (readPoints opening rest).map fun (points, rest) => (c.toNat :: points, rest)

/-- Reads a string behind its opening quote. -/
def readText (rest : List Char) : Except Flaw (Datum × List Char) :=
  (readPoints ('"' :: rest) rest).map fun (points, rest) => (.ofPoints points, rest)

/-! ## Numbers -/

/-- Reads the digits of the whole part: a zero alone, or digits that do not begin with one. -/
def readWhole? : List Char → Option (List Char × List Char)
  | '0' :: rest => some (['0'], rest)
  | s =>
    let (digits, rest) := s.span Char.isDigit
    if digits.isEmpty then none else some (digits, rest)

/-- Reads a point and digits, if they are there. -/
def readPlaces : List Char → List Char × List Char
  | '.' :: rest =>
    let (digits, after) := rest.span Char.isDigit
    if digits.isEmpty then ([], '.' :: rest) else ('.' :: digits, after)
  | s => ([], s)

/-- Reads an exponent, if it is there. -/
def readPower : List Char → List Char × List Char
  | c :: rest =>
    if c = 'e' || c = 'E' then
      let (sign, rest') := rest.span fun c => c = '+' || c = '-'
      let (digits, after) := rest'.span Char.isDigit
      -- A letter without digits is no exponent, and is left over.
      if digits.isEmpty || 1 < sign.length then ([], c :: rest)
      else (c :: sign ++ digits, after)
    else ([], c :: rest)
  | [] => ([], [])

/-- Reads a number: a whole one, or a quantity if it has places or an exponent. -/
def readNumber (s : List Char) : Except Flaw (Datum × List Char) :=
  let (sign, unsigned) :=
    match s with
    | '-' :: rest => (['-'], rest)
    | s => ([], s)
  match readWhole? unsigned with
  | none => flawAt .noValue s
  | some (whole, rest) =>
    let (places, rest) := readPlaces rest
    let (power, rest) := readPower rest
    let written := String.ofList (sign ++ whole ++ places ++ power)
    if places.isEmpty && power.isEmpty then
      match Text.readInteger? written with
      | some n => .ok (.int n, rest)
      | none => .error (.oversized whole.length)
    else (Text.readQuantity? written).elim (flawAt .noValue s) fun q => .ok (.number q, rest)

/-! ## Values -/

/-- The words that are values. -/
def words : List (String × Datum) := [
  ("null", .null), ("true", .bool true), ("false", .bool false),
  ("NaN", .number .undefined), ("Infinity", .number .infinite),
  ("-Infinity", .number .negativeInfinite)]

/-- Reads a word. -/
def readWord? (s : List Char) : Option (Datum × List Char) :=
  words.findSome? fun (word, d) => (Chars.dropStart? word.toList s).map fun rest => (d, rest)

mutual

/-- Reads a value. -/
def readValue : Nat → List Char → Except Flaw (Datum × List Char)
  | 0, s => flawAt .noValue s
  | fuel + 1, s =>
    match skipGap s with
    | '"' :: rest => readText rest
    | '[' :: rest =>
      match skipGap rest with
      | ']' :: rest => .ok (.list [], rest)
      | rest => (readItems fuel rest).map fun (items, rest) => (.list items, rest)
    | '\x7b' :: rest =>
      match skipGap rest with
      | '\x7d' :: rest => .ok (.mapping [], rest)
      | rest => (readEntries fuel rest).map fun (entries, rest) => (.ofPairs entries, rest)
    | s => (readWord? s).elim (readNumber s) .ok

/-- Reads the items of a list up to its end. -/
def readItems : Nat → List Char → Except Flaw (List Datum × List Char)
  | 0, s => flawAt .noValue s
  | fuel + 1, s =>
    match readValue fuel s with
    | .error flaw => .error flaw
    | .ok (d, rest) =>
      match skipGap rest with
      | ']' :: rest => .ok ([d], rest)
      | ',' :: rest => (readItems fuel rest).map fun (items, rest) => (d :: items, rest)
      | rest => flawAt .noComma rest

/-- Reads the entries of a mapping up to its end. -/
def readEntries : Nat → List Char → Except Flaw (List (Datum × Datum) × List Char)
  | 0, s => flawAt .noName s
  | fuel + 1, s =>
    match skipGap s with
    | '"' :: rest =>
      match readText rest with
      | .error flaw => .error flaw
      | .ok (key, rest) =>
        match skipGap rest with
        | ':' :: rest =>
          match readValue fuel rest with
          | .error flaw => .error flaw
          | .ok (d, rest) =>
            match skipGap rest with
            | '\x7d' :: rest => .ok ([(key, d)], rest)
            | ',' :: rest =>
              (readEntries fuel rest).map fun (entries, rest) => ((key, d) :: entries, rest)
            | rest => flawAt .noComma rest
        | rest => flawAt .noColon rest
    | rest => flawAt .noName rest

end

/-- The datum that a whole text spells. -/
def read (s : List Char) : Except Flaw Datum :=
  match s with
  | '\ufeff' :: _ => flawAt .byteOrderMark s
  | s =>
    match readValue (2 * s.length + 2) s with
    | .error flaw => .error flaw
    | .ok (d, rest) =>
      match skipGap rest with
      | [] => .ok d
      | rest => flawAt .surplus rest

/-- The datum that a whole text spells, if there is nothing wrong with it. -/
def read? (s : String) : Option Datum :=
  (read s.toList).toOption

end Transcript.Json
