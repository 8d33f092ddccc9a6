import Transcript.Preview.Source

/-!
# Running text

The text of headings and paragraphs. A backslash protects a character that could be a mark; two
spaces end a line for good; comments and references stand for themselves; and characters that would
be markup are escaped.

## Main definitions

- `Span`: a piece of running text
- `spansOf`: what a text consists of
- `markupOf`, `plainOf`: spans as markup, and as plain text
-/

namespace Transcript.Preview

/-- A piece of running text. -/
inductive Span where
  /-- A character. -/
  | char (c : Char)
  /-- A comment or a reference to a character. -/
  | markup (written : List Char)
  /-- The end of a line that is kept. -/
  | lineBreak

/-- How running text is read. -/
structure TextStyle where
  /-- The characters that a backslash can protect. -/
  protectable : List Char
  /-- Whether the end of every line is kept. -/
  keepsLines : Bool

/-- The characters that a backslash can always protect. -/
def alwaysProtectable : List Char := [
  '\\', '\x60', '*', '_', '\x7b', '\x7d', '[', ']', '(', ')', '>', '#', '+', '-', '.', '!']

/-- A comment or a reference inside running text, and what follows it. No comment starts inside
another one, and nothing is missing from a reference. -/
def inlineMarkup? (s : List Char) : Option (List Char × List Char) :=
  let comment := (comment? s).filter fun (written, _) =>
    !Chars.contains commentStart (written.drop commentStart.length)
  let reference := (reference? s).filter fun (written, rest) =>
    written.length + rest.length = s.length
  comment <|> reference

/-- What characters consist of. Every step takes at least one of them; `fuel` bounds their number.
-/
def spansFrom (style : TextStyle) : Nat → List Char → List Span
  | 0, s => s.map .char
  | _ + 1, [] => []
  | fuel + 1, c :: rest =>
    match c, rest with
    | '\\', d :: after =>
      if style.protectable.contains d then .char d :: spansFrom style fuel after
      else .char c :: spansFrom style fuel rest
    | ' ', ' ' :: '\n' :: after => .lineBreak :: spansFrom style fuel after
    | _, _ =>
      match inlineMarkup? (c :: rest) with
      | some (written, after) => .markup written :: spansFrom style fuel after
      | none =>
        (if c = '\n' && style.keepsLines then .lineBreak else .char c) :: spansFrom style fuel rest

/-- What a text consists of, `run` being the characters since the last markup, in reverse. -/
def spansAfter (style : TextStyle) (run : List Char) : List Glyph → List Span
  | [] => spansFrom style run.length run.reverse
  | .char c :: rest => spansAfter style (c :: run) rest
  | .markup written :: rest =>
    spansFrom style run.length run.reverse ++ .markup written :: spansAfter style [] rest

/-- What a text consists of. -/
def spansOf (style : TextStyle) (text : List Glyph) : List Span := spansAfter style [] text

/-- A character escaped if it would be markup. -/
def escapeChar (c : Char) : List Char :=
  match c with
  | '&' => "&amp;".toList
  | '<' => "&lt;".toList
  | '>' => "&gt;".toList
  | c => [c]

/-- A character escaped if it would be markup or end a value between double quotes. -/
def escapeValueChar (c : Char) : List Char :=
  if c = '\x22' then "&quot;".toList else escapeChar c

/-- A span as markup. -/
def Span.written : Span → List Char
  | char c => escapeChar c
  | markup written => written
  | lineBreak => "<br />\n".toList

/-- Spans as markup. -/
def markupOf (spans : List Span) : List Char := spans.flatMap Span.written

/-! ## Plain text -/

/-- The marks on letters that the names of characters tell. -/
def markNames : List String := ["acute", "grave", "circ", "uml", "tilde", "ring", "cedil", "caron"]

/-- The plain character that a reference stands for, if there is one. Of a letter with a mark it is
the letter. -/
def referent? (written : List Char) : Option Char :=
  match (written.drop 1).dropLast with
  | '#' :: 'x' :: digits | '#' :: 'X' :: digits => some (Char.ofNat (valueOf 16 digits))
  | '#' :: digits => some (Char.ofNat (valueOf 10 digits))
  | ['n', 'b', 's', 'p'] => some ' '
  | letter :: mark => if markNames.contains (String.ofList mark) then some letter else none
  | [] => none
where
  /-- The value of a digit. -/
  digitValue (c : Char) : Nat :=
    if c.isDigit then c.toNat - '0'.toNat else c.toLower.toNat - 'a'.toNat + 10
  /-- The number that digits make. -/
  valueOf (base : Nat) (digits : List Char) : Nat :=
    digits.foldl (fun n c => base * n + digitValue c) 0

/-- A span as plain text. -/
def Span.plain : Span → List Char
  | char c => [c]
  | markup written => if isComment written then [] else (referent? written).toList
  | lineBreak => ['\n']

/-- Spans as plain text. -/
def plainOf (spans : List Span) : List Char := spans.flatMap Span.plain

end Transcript.Preview
