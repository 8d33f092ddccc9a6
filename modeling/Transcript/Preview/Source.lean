import Transcript.Text.Lines
import Transcript.Text.Search

/-!
# The text of a preview

A document is brought into a regular form before it is shown: its lines end in line feeds,
tabulators are filled up with spaces, and lines of spaces are empty. References to characters by
their numbers get the semicolon that may be missing behind them, and a comment that starts a line is
set apart from its surroundings by empty lines.

## Main definitions

- `regularLines`: the lines of a document in regular form
- `withoutHeader`: lines without the header that names the document's properties
- `Glyph`: a character, or markup that stands for itself
- `comment?`, `reference?`: read a comment, and a reference to a character
- `glyphsOf`: what a document consists of
-/

namespace Transcript.Preview

/-! ## Lines -/

/-- Tabulators lead to columns that are multiples of this width. -/
def tabWidth : Nat := 4

/-- Fills up tabulators, `column` being the column that has been reached. -/
def expandTabs (column : Nat) : List Char → List Char
  | [] => []
  | c :: rest =>
    if c = '\t' then
      let gap := tabWidth - column % tabWidth
      List.replicate gap ' ' ++ expandTabs (column + gap) rest
    else c :: expandTabs (if c = '\n' then 0 else column + 1) rest

/-- The two characters that no document contains. -/
def isReserved (c : Char) : Bool := c = '\x02' || c = '\x03'

/-- The lines of a document in regular form. Two empty ones are added at its end. The first line is
kept even if it consists of spaces. -/
def regularLines (source : String) : List (List Char) :=
  let text := Chars.normalizeNewlines (source.toList.filter fun c => !isReserved c)
  match Chars.splitAt '\n' (expandTabs 0 (text ++ ['\n', '\n'])) with
  | [] => []
  | first :: rest => first :: rest.map fun line => if line.all (· = ' ') then [] else line

/-- Whether a line opens a header. -/
def opensHeader (line : List Char) : Bool :=
  Chars.startsWith ['-', '-', '-'] line

/-- Whether a line ends a header. -/
def endsHeader (line : List Char) : Bool :=
  line.all Chars.isBlank || opensHeader line || Chars.startsWith ['.', '.', '.'] line

/-- Whether a line of a header names a property. -/
def namesProperty (line : List Char) : Bool :=
  let name := line.dropWhile (· = ' ')
  let key := name.takeWhile fun c => c.isAlphanum || c = '_' || c = '-'
  line.length ≤ name.length + 3 && !key.isEmpty && (name.drop key.length).head? == some ':'

/-- What follows the properties of a header. A value goes on in lines that are indented. -/
def afterProperties (named : Bool) : List (List Char) → List (List Char)
  | [] => []
  | line :: rest =>
    if endsHeader line then rest
    else if namesProperty line then afterProperties true rest
    else if named && Chars.startsWith (List.replicate tabWidth ' ') line then
      afterProperties named rest
    else line :: rest

/-- The lines of a document without its header. -/
def withoutHeader : List (List Char) → List (List Char)
  | [] => []
  | line :: rest => afterProperties false (if opensHeader line then rest else line :: rest)

/-! ## Glyphs -/

/-- What a document consists of. -/
inductive Glyph where
  /-- A character. -/
  | char (c : Char)
  /-- A comment or a reference to a character, which stands for itself. -/
  | markup (written : List Char)
  deriving DecidableEq

/-- Whether a glyph is a blank character. -/
def Glyph.isBlank : Glyph → Bool
  | char c => Chars.isBlank c
  | markup _ => false

/-- A glyph as it is written. -/
def Glyph.written : Glyph → List Char
  | char c => [c]
  | markup written => written

/-- The start of every comment. -/
def commentStart : List Char := "<!--".toList

/-- Whether markup is a comment. -/
def isComment (written : List Char) : Bool :=
  Chars.startsWith commentStart written

/-- A comment up to its end, and what follows it. -/
def untilClose? : List Char → Option (List Char × List Char)
  | [] => none
  | '-' :: '-' :: '>' :: rest => some ("-->".toList, rest)
  | c :: rest => (untilClose? rest).map fun (text, rest) => (c :: text, rest)

/-- A comment, and what follows it. -/
def comment? (s : List Char) : Option (List Char × List Char) :=
  match Chars.dropStart? commentStart s with
  | none => none
  | some inner => (untilClose? inner).map fun (text, rest) => (commentStart ++ text, rest)

/-- The digits in base sixteen. -/
def isHexDigit (c : Char) : Bool :=
  c.isDigit || ('a' ≤ c && c ≤ 'f') || ('A' ≤ c && c ≤ 'F')

/-- A reference to a character by its name or number, of which `lead` has been read, and what
follows it. The semicolon behind a number may be left out. -/
def referenceFrom (lead : List Char) (isPart : Char → Bool) (s : List Char) :
    Option (List Char × List Char) :=
  let name := s.takeWhile isPart
  if name.isEmpty then none
  else
    match s.dropWhile isPart with
    | ';' :: rest => some (lead ++ name ++ [';'], rest)
    | c :: rest =>
      if lead.length = 1 || isHexDigit c then none else some (lead ++ name ++ [';'], c :: rest)
    | [] => none

/-- A reference to a character, and what follows it. -/
def reference? : List Char → Option (List Char × List Char)
  | '&' :: '#' :: rest =>
    match rest with
    | 'x' :: digits => referenceFrom ['&', '#', 'x'] isHexDigit digits
    | 'X' :: digits => referenceFrom ['&', '#', 'X'] isHexDigit digits
    | digits => referenceFrom ['&', '#'] Char.isDigit digits
  | '&' :: rest => referenceFrom ['&'] Char.isAlphanum rest
  | _ => none

/-- The glyphs of a text, each comment and each reference being one of them. Every step takes at
least one character; `fuel` bounds their number. -/
def glyphsFrom : Nat → List Char → List Glyph
  | 0, s => s.map .char
  | _ + 1, [] => []
  | fuel + 1, c :: rest =>
    match reference? (c :: rest) <|> comment? (c :: rest) with
    | some (written, rest) => .markup written :: glyphsFrom fuel rest
    | none => .char c :: glyphsFrom fuel rest

/-- Whether the line ends here and `count` lines of spaces follow. -/
def endsLine (count : Nat) : List Glyph → Bool
  | [] => false
  | g :: rest =>
    if g = .char ' ' then endsLine count rest
    else if g = .char '\n' then count = 0 || endsLine (count - 1) rest
    else false

/-- Sets the comments that start a line apart, and takes all other markup for the characters that it
is written with. `margin` counts the blanks since the start of the line if there has been nothing
else. Behind a comment that starts a line, up to the end of the line, further markup is taken out;
`held` is what has been taken out, and it goes to the end of the document. -/
def setApart (margin : Option Nat) (isBehind : Bool) (held : List Char) : List Glyph → List Glyph
  | [] => if held.isEmpty then [] else [.markup held]
  | .char c :: rest =>
    let next :=
      if c = '\n' then setApart (some 0) false held rest
      else setApart (if Chars.isBlank c then margin.map (· + 1) else none) isBehind held rest
    .char c :: next
  | .markup written :: rest =>
    if isBehind then setApart none true (held ++ written) rest
    else if isComment written && margin.any (· < tabWidth) then
      -- An empty line behind the comment is kept.
      let isAlone := endsLine 1 rest
      let before : List Glyph := if margin == some 0 then [.char '\n'] else []
      let after : List Char := if isAlone then ['\n'] else []
      before ++ .markup (written ++ after) :: .char '\n' :: .char '\n' ::
        setApart none (!isAlone) held rest
    else written.map .char ++ setApart none false held rest

/-- What lines consist of. -/
def glyphsOf (lines : List (List Char)) : List Glyph :=
  let text := ['\n'].intercalate lines
  setApart (some 0) false [] (glyphsFrom text.length text)

/-- The lines of a document, without their ends. -/
def linesOf : List Glyph → List (List Glyph)
  | [] => [[]]
  | g :: rest =>
    if g = .char '\n' then [] :: linesOf rest
    else
      match linesOf rest with
      | [] => [[g]]
      | line :: lines => (g :: line) :: lines

end Transcript.Preview
