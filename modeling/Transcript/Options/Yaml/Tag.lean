import Transcript.Options.Yaml.Moment
import Transcript.Text.Lines
import Transcript.Text.Search

/-!
# What plain scalars stand for

A tag says what kind of value a node has. Plain scalars have none written; theirs is found by their
form: words for nothing and for truth values, whole numbers in four bases or in parts of sixty,
quantities, and moments.

## Main definitions

- `Tag`, `Tag.uri`: the kinds of values, and their names
- `Tag.ofPlain`: the kind that a plain scalar is of
-/

namespace Transcript.Yaml

/-- The kinds of values. -/
inductive Tag where
  /-- Nothing. -/
  | null
  /-- A truth value. -/
  | bool
  /-- A whole number. -/
  | int
  /-- A quantity. -/
  | float
  /-- A day or a point in time. -/
  | moment
  /-- A text. -/
  | text
  /-- A list. -/
  | list
  /-- A mapping. -/
  | mapping
  /-- The key of entries that are taken from elsewhere. -/
  | merge
  /-- The key of the value of a mapping that stands for a scalar. -/
  | value
  /-- Any other kind, by its name. -/
  | other (uri : String)
  deriving DecidableEq

namespace Tag

/-- The start of the names of the common kinds. -/
def family : String := "tag:yaml.org,2002:"

/-- The common kinds, with the ends of their names. -/
def common : List (String × Tag) := [
  ("null", null), ("bool", bool), ("int", int), ("float", float), ("timestamp", moment),
  ("str", text), ("seq", list), ("map", mapping), ("merge", merge), ("value", value)]

/-- The name of a kind. -/
def uri : Tag → String
  | other uri => uri
  | t => family ++ ((common.find? fun e => e.2 == t).map Prod.fst).getD ""

/-- The kind that has a name. -/
def ofUri (uri : String) : Tag :=
  ((Text.dropStart? family uri).bind fun word => common.lookup word).getD (other uri)

/-! ## Forms of scalars -/

/-- Words for nothing; the empty word is one of them. -/
def nullWords : List String := ["", "~", "null", "Null", "NULL"]

/-- Words for the two truth values. -/
def boolWords : List String := [
  "yes", "Yes", "YES", "no", "No", "NO", "true", "True", "TRUE", "false", "False", "FALSE",
  "on", "On", "ON", "off", "Off", "OFF"]

/-- Words for infinity. -/
def infinityWords : List String := [".inf", ".Inf", ".INF"]

/-- Words for no number. -/
def undefinedWords : List String := [".nan", ".NaN", ".NAN"]

/-- Whether a text is a word of the given characters, and not empty. -/
def isWordOf (test : Char → Bool) (s : List Char) : Bool :=
  !s.isEmpty && s.all test

/-- A digit of a number, or an underscore between digits. -/
def isSpaced (test : Char → Bool) (c : Char) : Bool :=
  c = '_' || test c

/-- Whether a text begins with a digit and has nothing but digits and underscores behind it. -/
def isDigits (s : List Char) : Bool :=
  s.head?.any Char.isDigit && s.all (isSpaced Char.isDigit)

/-- Whether a text is a number below sixty, in one or two digits. -/
def isSixtieth : List Char → Bool
  | [c] => c.isDigit
  | [c, d] => '0' ≤ c && c ≤ '5' && d.isDigit
  | _ => false

/-- Whether a text is a whole number, without its sign. -/
def isUnsignedInt : List Char → Bool
  | ['0'] => true
  | '0' :: 'b' :: digits => isWordOf (isSpaced fun c => c = '0' || c = '1') digits
  | '0' :: 'x' :: digits =>
    isWordOf (isSpaced fun c => c.isDigit || ('a' ≤ c.toLower && c.toLower ≤ 'f')) digits
  | '0' :: digits => isWordOf (isSpaced fun c => '0' ≤ c && c ≤ '7') digits
  | s =>
    match Chars.splitAt ':' s with
    | first :: parts => isDigits first && parts.all isSixtieth
    | [] => false

/-- Whether a text is an exponent, or nothing. -/
def isPower : List Char → Bool
  | [] => true
  | e :: sign :: digits =>
    (e = 'e' || e = 'E') && (sign = '+' || sign = '-') && isWordOf Char.isDigit digits
  | _ => false

/-- Whether a text is digits and underscores, with an exponent or without. -/
def isPlaces (s : List Char) : Bool :=
  isPower (s.dropWhile (isSpaced Char.isDigit))

/-- Whether a text is a quantity, without its sign. `isBare` says that there is none. -/
def isUnsignedFloat (isBare : Bool) (s : List Char) : Bool :=
  let whole := s.takeWhile (· != '.')
  match s.dropWhile (· != '.') with
  | _ :: places =>
    match Chars.splitAt ':' whole with
    | [[]] =>
      infinityWords.contains (String.ofList s) ||
        (isBare && (undefinedWords.contains (String.ofList s) ||
          (places.head?.any Char.isDigit && isPlaces places)))
    | [first] => isDigits first && isPlaces places
    | first :: parts =>
      isDigits first && parts.all isSixtieth && places.all (isSpaced Char.isDigit)
    | [] => false
  | [] => false

/-- The kind that a plain scalar is of. -/
def ofPlain (s : List Char) : Tag :=
  let (_, unsigned) := Chars.readSign s
  let isBare := unsigned.length = s.length
  let word := String.ofList s
  if boolWords.contains word then bool
  else if isUnsignedFloat isBare unsigned then float
  else if isUnsignedInt unsigned then int
  else if word == "<<" then merge
  else if nullWords.contains word then null
  else if (Moment.read? s).isSome then moment
  else if word == "=" then value
  else text

end Tag

end Transcript.Yaml
