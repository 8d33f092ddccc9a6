import Transcript.Preview.Source

/-!
# Blocks

A document consists of headings, paragraphs and code. A heading is one line that starts with number
signs; lines indented by four spaces or more are code where no paragraph is open; all other lines up
to an empty one are a paragraph.

## Main definitions

- `Block`: a block
- `Pending.read`: reads a line
- `blocksOf`: the blocks that lines make
-/

namespace Transcript.Preview

/-- A block of a document. -/
inductive Block where
  /-- A heading of a level. -/
  | heading (level : Nat) (text : List Glyph)
  /-- A paragraph. -/
  | paragraph (text : List Glyph)
  /-- Lines of code. -/
  | code (lines : List (List Char))

/-- The deepest level of headings. -/
def maxLevel : Nat := 6

/-! ## Headings -/

/-- Whether every backslash has a character behind it that it can stand for or protect. -/
def pairsBackslashes : List Glyph → Bool
  | [] => true
  | [g] => g ≠ .char '\\'
  | g :: h :: rest =>
    if g = .char '\\' then pairsBackslashes rest else pairsBackslashes (h :: rest)

/-- Cuts off number signs at the end, but not one that a backslash protects. -/
def withoutSigns (text : List Glyph) : List Glyph :=
  let signs := text.reverse.takeWhile (· = .char '#')
  let body := text.take (text.length - signs.length)
  let isProtected := !signs.isEmpty && !pairsBackslashes body
  if isProtected then body ++ [.char '#'] else body

/-- Cuts the blanks off both ends. -/
def trimGlyphs (text : List Glyph) : List Glyph :=
  ((text.dropWhile Glyph.isBlank).reverse.dropWhile Glyph.isBlank).reverse

/-- The heading that a line is, if it is one. Number signs beyond the deepest level belong to the
text. -/
def headingOf? (line : List Glyph) : Option Block :=
  let level := min maxLevel (line.takeWhile (· = .char '#')).length
  let text := line.drop level
  if level = 0 || !pairsBackslashes text then none
  else some (.heading level (trimGlyphs (withoutSigns text)))

/-! ## Paragraphs and code -/

/-- The indentation of code. -/
def indentation : List Glyph := List.replicate tabWidth (.char ' ')

/-- A line without its indentation, if it is indented. -/
def outdent? (line : List Glyph) : Option (List Char) :=
  if line.take tabWidth = indentation then some ((line.drop tabWidth).flatMap Glyph.written)
  else none

/-- The paragraph that lines make, the last one first. Blanks are cut off its beginning only. -/
def paragraphOf (lines : List (List Glyph)) : List Block :=
  let text := ([.char '\n'].intercalate lines.reverse).dropWhile Glyph.isBlank
  if text.isEmpty then [] else [.paragraph text]

/-- Cuts the blanks off the end of every line in front of an empty one. -/
def trimBeforeGaps : List (List Char) → List (List Char)
  | [] => []
  | [line] => [Chars.trimEnd line]
  | line :: next :: rest =>
    (if next.isEmpty then Chars.trimEnd line else line) :: trimBeforeGaps (next :: rest)

/-- The code that lines make, the last one first. Empty lines at its end are left out. -/
def codeOf (lines : List (List Char)) : Block :=
  .code (trimBeforeGaps (lines.dropWhile (·.all Chars.isBlank)).reverse)

/-! ## Reading lines -/

/-- The block that the next line may continue. -/
inductive Pending where
  /-- There is none. -/
  | nothing
  /-- A paragraph with its lines, the last one first. -/
  | paragraph (lines : List (List Glyph))
  /-- Code with its lines, the last one first. -/
  | code (lines : List (List Char))

namespace Pending

/-- The blocks that end with no further line to continue them. -/
def close : Pending → List Block
  | nothing => []
  | paragraph lines => paragraphOf lines
  | code lines => [codeOf lines]

/-- Reads a line: the blocks that end in front of it or with it, and the one that may go on. -/
def read (p : Pending) (line : List Glyph) : List Block × Pending :=
  match p with
  | code lines =>
    if line.all Glyph.isBlank then ([], code ([] :: lines))
    else
      match outdent? line with
      | some text => ([], code (text :: lines))
      | none => start p line
  | paragraph lines =>
    if line.isEmpty then (p.close, nothing)
    else if (headingOf? line).isSome then start p line
    else ([], paragraph (line :: lines))
  | nothing =>
    if line.isEmpty then ([], nothing)
    else
      match outdent? line with
      | some text => ([], code [text])
      | none => start p line
where
  /-- Ends the open block and starts another one with a line that is not indented. -/
  start (p : Pending) (line : List Glyph) : List Block × Pending :=
    match headingOf? line with
    | some heading => (p.close ++ [heading], nothing)
    | none => (p.close, paragraph [line])

end Pending

/-- The blocks that lines make, the first of them continuing an open block. -/
def blocksFrom (p : Pending) : List (List Glyph) → List Block
  | [] => p.close
  | line :: rest => (p.read line).1 ++ blocksFrom (p.read line).2 rest

/-- The blocks that lines make. -/
def blocksOf (lines : List (List Glyph)) : List Block :=
  blocksFrom .nothing lines

end Transcript.Preview
