import Transcript.Conversion.Rendering
import Transcript.Markup.Flatten
import Transcript.Render.Markers

/-!
# Code

Code blocks are fenced by backticks, at least three and more than any run of backticks inside; the
opening fence carries the language. Inline code stands between backticks, more than any run inside.

## Main definitions

- `longestBacktickRun`, `codeFence`: how long a fence has to be
- `normalizeCode`: code without the indentation shared by its lines
- `codeBlock`, `codeInline`: the replacements
-/

namespace Transcript.Render

open Markup

/-- The backtick. -/
def backtick : Char := '\x60'

/-- A run of backticks. -/
def backticks (n : Nat) : String :=
  String.ofList (List.replicate n backtick)

/-- The length of the longest run of backticks, `run` being the length of the run that ends here. -/
def longestRunFrom (run : Nat) : List Char → Nat
  | [] => run
  | c :: rest =>
    if c = backtick then longestRunFrom (run + 1) rest else max run (longestRunFrom 0 rest)

/-- The length of the longest run of backticks. -/
def longestBacktickRun (text : String) : Nat :=
  longestRunFrom 0 text.toList

/-- A fence longer than any run of backticks in a code. -/
def codeFence (code : String) : String :=
  backticks (max 3 (longestBacktickRun code + 1))

/-! ## Normalised code -/

/-- Whether a character indents. -/
def isIndent (c : Char) : Bool := c = ' ' || c = '\t'

/-- How far a line is indented. -/
def indentOf (line : List Char) : Nat :=
  (line.takeWhile isIndent).length

/-- Drops one line feed from the beginning. -/
def dropLeadingNewline : List Char → List Char
  | '\n' :: rest => rest
  | s => s

/-- Drops one line feed from the beginning and one from the end. -/
def dropOuterNewlines (s : List Char) : List Char :=
  (dropLeadingNewline (dropLeadingNewline s).reverse).reverse

/-- Joins lines by line feeds. -/
def joinLines : List (List Char) → List Char
  | [] => []
  | [line] => line
  | line :: rest => line ++ '\n' :: joinLines rest

/-- The indentation shared by the lines that are not blank, if there are any. -/
def sharedIndent? (lines : List (List Char)) : Option Nat :=
  ((lines.filter fun line => !line.all Chars.isBlank).map indentOf).min?

/-- Code with plain line feeds, without one line feed at each end, and without the indentation that
its lines share. -/
def normalizeChars (raw : List Char) : List Char :=
  -- Blank lines do not count for the shared indentation, but lose it too.
  let lines := Chars.splitAt '\n' (dropOuterNewlines (Chars.normalizeNewlines raw))
  joinLines (lines.map (List.drop ((sharedIndent? lines).getD 0)))

/-- Code with plain line feeds, without one line feed at each end, and without the indentation that
its lines share. -/
def normalizeCode : String → String := Text.onChars normalizeChars

/-! ## Replacements -/

/-- The element that holds the code of a block: the code element itself or the first one inside, or
else preformatted text. -/
def codeElement? (c : Cursor) : Option Cursor :=
  if c.node.tagName == "code" then some c
  else
    match c.find? ["code"] with
    | some code => some code
    | none => if c.node.tagName == "pre" then some c else c.find? ["pre"]

/-- Code between fences. -/
def fenced (language code : String) : String :=
  let fence := codeFence code
  fence ++ language ++ "\n" ++ code ++ "\n" ++ fence ++ "\n\n"

/-- Renders a code block. -/
def codeBlock : Replacement := fun scene content =>
  match codeElement? scene.node with
  | none => return fenced "" content
  | some code => do
    let language ← scene.codeLanguage code
    return fenced language (normalizeCode code.node.flatText)

/-- Code between backticks, set apart by spaces if it begins or ends with one. -/
def inlineCode (content : String) : String :=
  let delimiter := backticks (longestBacktickRun content + 1)
  let touches :=
    content.toList.head? == some backtick || content.toList.getLast? == some backtick
  -- A backtick at the end of the code would run into the delimiter.
  if touches then delimiter ++ " " ++ content ++ " " ++ delimiter
  else delimiter ++ content ++ delimiter

/-- Renders inline code. -/
def codeInline : Replacement := fun _ content =>
  return if content == "" then "" else inlineCode content

end Transcript.Render
