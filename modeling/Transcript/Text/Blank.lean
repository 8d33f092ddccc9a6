/-!
# Blanks

The characters that count as white space, and what is done with them: cutting them off the ends of
a text, splitting a text into words, and joining its words again by single spaces.

Every operation is defined on lists of characters, in the namespace `Chars`, and lifted to strings
in the namespace `Text`.
-/

namespace Transcript

namespace Chars

/-- The blank characters: tabulator to carriage return, the four information separators, the space,
the next-line character, and the space characters of Unicode. -/
def isBlank (c : Char) : Bool :=
  let n := c.toNat
  (9 ≤ n && n ≤ 13) || (28 ≤ n && n ≤ 32) || n == 0x85 || n == 0xA0 || n == 0x1680 ||
    (0x2000 ≤ n && n ≤ 0x200A) || n == 0x2028 || n == 0x2029 || n == 0x202F || n == 0x205F ||
    n == 0x3000

/-- Drops the characters satisfying `p` from the end. -/
def dropEndWhile (p : Char → Bool) (s : List Char) : List Char :=
  (s.reverse.dropWhile p).reverse

/-- Cuts the blanks off the beginning. -/
def trimStart (s : List Char) : List Char :=
  s.dropWhile isBlank

/-- Cuts the blanks off the end. -/
def trimEnd (s : List Char) : List Char :=
  dropEndWhile isBlank s

/-- Cuts the blanks off both ends. -/
def trim (s : List Char) : List Char :=
  trimEnd (trimStart s)

/-- The runs of characters between separators satisfying `p`; `run` is the run read so far, in
reverse. Empty runs are left out. -/
def runsFrom (p : Char → Bool) (run : List Char) : List Char → List (List Char)
  | [] => if run.isEmpty then [] else [run.reverse]
  | c :: rest =>
    if p c then
      if run.isEmpty then runsFrom p [] rest else run.reverse :: runsFrom p [] rest
    else runsFrom p (c :: run) rest

/-- The words of a text: its maximal runs of characters that are not blank. -/
def words (s : List Char) : List (List Char) :=
  runsFrom isBlank [] s

end Chars

namespace Text

/-- Lifts an operation on characters to strings. -/
def onChars (f : List Char → List Char) (s : String) : String :=
  String.ofList (f s.toList)

@[simp] theorem toList_onChars (f : List Char → List Char) (s : String) :
    (onChars f s).toList = f s.toList := by
  simp [onChars]

/-- Cuts the blanks off the beginning. -/
def trimStart : String → String := onChars Chars.trimStart

/-- Cuts the blanks off the end. -/
def trimEnd : String → String := onChars Chars.trimEnd

/-- Cuts the blanks off both ends. -/
def trim : String → String := onChars Chars.trim

/-- A text without any visible character. -/
def isAllBlank (s : String) : Bool :=
  s.toList.all Chars.isBlank

/-- The words of a text. -/
def words (s : String) : List String :=
  (Chars.words s.toList).map String.ofList

/-- Joins texts with `separator` between neighbours. -/
def join (separator : String) (parts : List String) : String :=
  separator.intercalate parts

end Text

end Transcript
