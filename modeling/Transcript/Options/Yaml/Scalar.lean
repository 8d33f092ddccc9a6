import Transcript.Options.Json
import Transcript.Options.Yaml.Flaw

/-!
# Scalars

Three ways to write a scalar: plain, in quotes, and as whole lines below a mark. Line ends inside
are folded: one of them is a space, and of several all but the first are kept.

The recursion of the readers is bounded by fuel, of which every character takes some.

## Main definitions

- `readPlain`: a plain scalar
- `readQuoted`: a scalar in single or double quotes
- `readLines`: a scalar of whole lines
-/

namespace Transcript.Yaml

/-- The code points of characters. -/
def pointsOf (s : List Char) : List Nat := s.map Char.toNat

/-- What the line ends at a place where lines are folded are worth: the first one, and the others.
-/
def folded (first : Char) (others : List Char) : List Char :=
  if first ≠ '\n' then first :: others
  else if others.isEmpty then [' '] else others

/-! ## Plain scalars -/

/-- Whether a plain scalar stops in front of a text. -/
def stopsPlain (inFlow : Bool) : List Char → Bool
  | [] => true
  | c :: rest =>
    let following := rest.headD endMark
    let endsKey :=
      isBlank following || (inFlow && [',', '[', ']', '\x7b', '\x7d'].contains following)
    isBlank c || (c = ':' && endsKey) || (inFlow && [',', '?', '[', ']', '\x7b', '\x7d'].contains c)

/-- The number of characters in front of the first place where a plain scalar stops. -/
def plainLength (inFlow : Bool) : List Char → Nat
  | [] => 0
  | c :: rest => if stopsPlain inFlow (c :: rest) then 0 else plainLength inFlow rest + 1

/-- What is found between two pieces of a scalar. -/
structure Gap where
  /-- What it is worth. -/
  worth : List Char
  /-- The spot behind it. -/
  spot : Spot
  /-- Whether a line ended in it. -/
  isBroken : Bool

/-- Reads the line ends behind the first one, with the spaces among them; `none` in front of a mark
of a document. -/
def readBreaks? (s : Spot) : Nat → Option (List Char) × Spot
  | 0 => (some [], s)
  | fuel + 1 =>
    match s.break? with
    | some (c, s) =>
      if s.isDocumentMark then (none, s)
      else
        let (breaks, s) := readBreaks? s fuel
        (breaks.map (c :: ·), s)
    | none => if s.peek = ' ' then readBreaks? s.next fuel else (some [], s)

/-- Reads what stands between two pieces of a plain scalar. It is worth nothing at the end of a
document. -/
def readPlainGap (s : Spot) : Gap :=
  let (spaces, s) := s.span (· = ' ')
  match s.break? with
  | none => ⟨spaces, s, false⟩
  | some (first, s) =>
    if s.isDocumentMark then ⟨[], s, true⟩
    else
      match readBreaks? s (s.rest.length + 1) with
      | (none, s) => ⟨[], s, true⟩
      | (some others, s) => ⟨folded first others, s, true⟩

/-- A scalar that has been read. -/
structure ReadScalar where
  /-- Its code points. -/
  points : List Nat
  /-- Where it ends. -/
  finish : Place
  /-- The spot behind it and behind the blanks that follow. -/
  spot : Spot
  /-- Whether a line ended in those blanks. -/
  isBroken : Bool := false

/-- Reads the pieces of a plain scalar. Lines have to be indented by `indent`, except in brackets;
`read` is what has been read, with the gap behind it. -/
def readPieces (inFlow : Bool) (indent : Int) (points : List Nat) (finish : Place) (gap : Gap) :
    Nat → ReadScalar
  | 0 => ⟨points, finish, gap.spot, gap.isBroken⟩
  | fuel + 1 =>
    let s := gap.spot
    let length := plainLength inFlow s.rest
    if s.peek = '#' || length = 0 then ⟨points, finish, s, gap.isBroken⟩
    else
      let points := points ++ pointsOf (gap.worth ++ s.rest.take length)
      let s := s.skip length
      let gap := readPlainGap s
      if gap.worth.isEmpty || (!inFlow && gap.spot.place.column < indent) then
        ⟨points, s.place, gap.spot, gap.isBroken⟩
      else readPieces inFlow indent points s.place gap fuel

/-- Reads a plain scalar. -/
def readPlain (inFlow : Bool) (indent : Int) (s : Spot) : ReadScalar :=
  readPieces inFlow indent [] s.place ⟨[], s, false⟩ (s.rest.length + 1)

/-! ## Scalars in quotes -/

/-- The character of a simple escape. -/
def escaped? : Char → Option Char
  | '0' => some '\x00'
  | 'a' => some '\x07'
  | '\t' => some '\t'
  | 'v' => some '\x0b'
  | 'e' => some '\x1b'
  | ' ' => some ' '
  | 'N' => some '\x85'
  | '_' => some '\u00a0'
  | 'L' => some '\u2028'
  | 'P' => some '\u2029'
  | c => Json.escaped? c

/-- The number of digits of an escape by number. -/
def escapeDigits? : Char → Option Nat
  | 'x' => some 2
  | 'u' => some 4
  | 'U' => some 8
  | _ => none

/-- The first number that is no code point. -/
def pointBound : Nat := 0x110000

/-- The code point of an escape by number. -/
def pointOf (n : Nat) : Except Misreading Nat :=
  if n < pointBound then .ok n
  else if n < Nat.pow 2 31 then
    .error (.unheld (.of .badValue "chr() arg not in range(0x110000)"))
  else .error (.unheld (.of .overflow "Python int too large to convert to C int"))

/-- Skips blanks and line ends; the line ends are kept. No mark of a document may stand in
between. -/
def readQuotedBreaks (since : Place) (s : Spot) : Nat → Except Misreading (List Char × Spot)
  | 0 => .ok ([], s)
  | fuel + 1 =>
    if s.isDocumentMark then stop Activity.quoted since .endOfDocument s.place
    else
      let s := (s.span fun c => c = ' ' || c = '\t').2
      match s.break? with
      | none => .ok ([], s)
      | some (c, s) =>
        (readQuotedBreaks since s fuel).map fun (breaks, s) => (c :: breaks, s)

/-- Reads blanks and line ends between two pieces of a scalar in quotes. -/
def readQuotedGap (since : Place) (s : Spot) : Except Misreading (List Char × Spot) :=
  let (blanks, s) := s.span fun c => c = ' ' || c = '\t'
  if s.peek = endMark then stop Activity.quoted since .endOfFile s.place
  else
    match s.break? with
    | none => .ok (blanks, s)
    | some (first, s) =>
      (readQuotedBreaks since s (s.rest.length + 1)).map fun (others, s) => (folded first others, s)

/-- Reads an escape behind its backslash: its code points, none for an escaped line end. -/
def readEscape (since : Place) (s : Spot) : Except Misreading (List Nat × Spot) :=
  let c := s.peek
  match escaped? c, escapeDigits? c, s.break? with
  | some meant, _, _ => .ok ([meant.toNat], s.next)
  | none, some count, _ =>
    let s := s.next
    let digits := s.rest.take count
    match digits.find? fun c => (Json.hexValue? c).isNone, Json.hexNumber? digits with
    | none, some n =>
      if digits.length < count then
        stop Activity.doubleQuoted since (.character (.escape count) endMark) s.place
      else (pointOf n).map fun n => ([n], s.skip count)
    | bad, _ =>
      stop Activity.doubleQuoted since (.character (.escape count) (bad.getD endMark)) s.place
  | none, none, some (_, s) =>
    (readQuotedBreaks since s (s.rest.length + 1)).map fun (breaks, s) => (pointsOf breaks, s)
  | none, none, none => stop Activity.doubleQuoted since (.unknownEscape c) s.place

/-- Whether a character ends a piece of a scalar in quotes. -/
def endsPiece (c : Char) : Bool :=
  c = '\'' || c = '"' || c = '\\' || isBlank c

/-- Reads a scalar in quotes behind the opening one, which stands at `since`. -/
def readQuotedPieces (since : Place) (isDouble : Bool) (points : List Nat) (s : Spot) :
    Nat → Except Misreading ReadScalar
  | 0 => stop Activity.quoted since .endOfFile s.place
  | fuel + 1 =>
    let (piece, s) := s.span (!endsPiece ·)
    let points := points ++ pointsOf piece
    let goesOn (worth : List Nat) (s : Spot) :=
      readQuotedPieces since isDouble (points ++ worth) s fuel
    match s.peek with
    | '\'' =>
      if isDouble then goesOn [39] s.next
      -- Two quotes stand for one.
      else if s.at? 1 = '\'' then goesOn [39] (s.skip 2)
      else .ok ⟨points, s.next.place, s.next, false⟩
    | '"' => if isDouble then .ok ⟨points, s.next.place, s.next, false⟩ else goesOn [34] s.next
    | '\\' =>
      if isDouble then
        match readEscape since s.next with
        | .error e => .error e
        | .ok (worth, s) => goesOn worth s
      else goesOn [92] s.next
    | _ =>
      match readQuotedGap since s with
      | .error e => .error e
      | .ok (worth, s) => goesOn (pointsOf worth) s

/-- Reads a scalar in quotes. -/
def readQuoted (s : Spot) : Except Misreading ReadScalar :=
  readQuotedPieces s.place (s.peek = '"') [] s.next (s.rest.length + 1)

/-! ## Scalars of whole lines -/

/-- What is kept of the line ends at the end of a scalar. -/
inductive Chomping where
  /-- None of them. -/
  | strip
  /-- The first one. -/
  | clip
  /-- All of them. -/
  | keep
  deriving DecidableEq

/-- Reads the sign that says what is kept of the line ends, if it is there. -/
def readChomping (s : Spot) : Option Chomping × Spot :=
  match s.peek with
  | '+' => (some .keep, s.next)
  | '-' => (some .strip, s.next)
  | _ => (none, s)

/-- Reads the digit that says how far the lines are indented, if it is there. -/
def readIncrement (since : Place) (s : Spot) : Except Misreading (Option Nat × Spot) :=
  let c := s.peek
  if !c.isDigit then .ok (none, s)
  else if c = '0' then stop Activity.blockScalar since .zeroIndentation s.place
  else .ok (some (c.toNat - '0'.toNat), s.next)

/-- Reads what stands behind the mark of a scalar of whole lines: both signs, in any order. -/
def readIndicators (since : Place) (s : Spot) :
    Except Misreading (Chomping × Option Nat × Spot) := do
  let (first, s) := readChomping s
  let (increment, s) ← readIncrement since s
  let (second, s) := if first.isNone && increment.isSome then readChomping s else (none, s)
  if endsWord s.peek then
    return (((first <|> second).getD .clip), increment, s)
  else stop Activity.blockScalar since (.character .indicators s.peek) s.place

/-- Reads the rest of a line, on which nothing but a comment may stand. -/
def readLineEnd (activity : Activity) (since : Place) (s : Spot) : Except Misreading Spot :=
  let s := s.skipComment
  if endsLine s.peek then .ok s.skipBreak
  else stop activity since (.character .lineEnd s.peek) s.place

/-- Reads blank lines: their ends, and the most spaces that stand on one of the lines. -/
def readIndentation (breaks : List Char) (widest : Nat) (s : Spot) :
    Nat → List Char × Nat × Spot
  | 0 => (breaks, widest, s)
  | fuel + 1 =>
    match s.break? with
    | some (c, s) => readIndentation (breaks ++ [c]) widest s fuel
    | none =>
      if s.peek = ' ' then readIndentation breaks (max widest s.next.place.column) s.next fuel
      else (breaks, widest, s)

/-- Skips the spaces in front of a column. -/
def skipIndent (indent : Nat) (s : Spot) : Spot :=
  s.skip (min (s.rest.takeWhile (· = ' ')).length (indent - s.place.column))

/-- Reads blank lines and the indentation behind them. -/
def readBlankLines (indent : Nat) (s : Spot) : Nat → List Char × Spot
  | 0 => ([], s)
  | fuel + 1 =>
    let s := skipIndent indent s
    match s.break? with
    | none => ([], s)
    | some (c, s) =>
      let (breaks, s) := readBlankLines indent s fuel
      (c :: breaks, s)

/-- The text of whole lines, with the line end behind the last one and the blank lines that
follow. -/
structure LineRun where
  /-- The text. -/
  text : List Char := []
  /-- The end of its last line, if it has one. -/
  lineEnd : List Char := []
  /-- The ends of the blank lines that follow. -/
  blank : List Char
  /-- The spot behind them. -/
  spot : Spot

/-- Whether a line begins with a blank, so that it is not folded. -/
def beginsBlank (s : Spot) : Bool := s.peek = ' ' || s.peek = '\t'

/-- Reads lines that are indented by `indent`. -/
def readRun (isFolded : Bool) (indent : Nat) (run : LineRun) : Nat → LineRun
  | 0 => run
  | fuel + 1 =>
    let s := run.spot
    if s.place.column ≠ indent || s.peek = endMark then run
    else
      let (line, after) := s.span (!endsLine ·)
      let (lineEnd, after) :=
        match after.break? with
        | some (c, after) => ([c], after)
        | none => ([], after)
      let (blank, after) := readBlankLines indent after (after.rest.length + 1)
      let text := run.text ++ run.blank ++ line
      let goesOn := after.place.column = indent && after.peek ≠ endMark
      if !goesOn then ⟨text, lineEnd, blank, after⟩
      else
        let joint :=
          if isFolded && lineEnd = ['\n'] && !beginsBlank s && !beginsBlank after then
            if blank.isEmpty then [' '] else []
          else lineEnd
        readRun isFolded indent ⟨text ++ joint, [], blank, after⟩ fuel

/-- Reads a scalar of whole lines, inside what is indented by `outer`. -/
def readLines (outer : Int) (s : Spot) : Except Misreading ReadScalar := do
  let since := s.place
  let (chomping, increment, after) ← readIndicators since s.next
  let after ← readLineEnd .blockScalar since after
  let least := (max (outer + 1) 1).toNat
  let fuel := after.rest.length + 1
  let (indent, blank, after) :=
    match increment with
    | some n =>
      let indent := least + n - 1
      let (blank, after) := readBlankLines indent after fuel
      (indent, blank, after)
    | none =>
      let (blank, widest, after) := readIndentation [] 0 after fuel
      (max least widest, blank, after)
  let run := readRun (s.peek = '>') indent { blank, spot := after } fuel
  let ending :=
    match chomping with
    | .strip => []
    | .clip => run.lineEnd
    | .keep => run.lineEnd ++ run.blank
  return ⟨pointsOf (run.text ++ ending), run.spot.place, run.spot, true⟩

end Transcript.Yaml
