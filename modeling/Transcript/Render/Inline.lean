import Transcript.Conversion.Rendering
import Transcript.Text.Search

/-!
# Inline formatting

Emphasis, links, images and line breaks.

## Main definitions

- `emphasized`: a text between markers, its outer blanks staying outside
- `isSafeHref`: whether the target of a link carries no script
- `strong`, `emphasis`, `link`, `image`, `lineBreak`: the replacements
-/

namespace Transcript.Render

open Markup

/-- A text between markers; the blanks around it stay outside, and a blank text stays as it is. -/
def emphasized (marker : List Char) (content : List Char) : List Char :=
  let inner := Chars.trim content
  if inner.isEmpty then content
  else
    let leading := content.takeWhile Chars.isBlank
    let trailing := (content.reverse.takeWhile Chars.isBlank).reverse
    leading ++ marker ++ inner ++ marker ++ trailing

/-- Renders strong emphasis. -/
def strong : Replacement := fun _ content =>
  return Text.onChars (emphasized "**".toList) content

/-- Renders emphasis. -/
def emphasis : Replacement := fun _ content =>
  return Text.onChars (emphasized "*".toList) content

/-- Beginnings of link targets that would run script. -/
def unsafeStarts : List String := ["javascript:", "vbscript:", "data:text/html"]

/-- Whether a link target carries no script, blanks and case aside. -/
def isSafeHref (href : String) : Bool :=
  -- Blanks anywhere in the target are dropped before it is compared.
  let target := Text.lower (String.join (Text.words href))
  !unsafeStarts.any fun start => Text.startsWith start target

/-- A text, or another one if it is empty. -/
def orElse (text other : String) : String :=
  if text == "" then other else text

/-- Renders a link. An unsafe target is dropped, and its text kept. -/
def link : Replacement := fun scene content =>
  let href := scene.node.node.trimmedAttribute "href"
  let text := Text.trim content
  if href == "" then return text
  else if isSafeHref href then return "[" ++ orElse text href ++ "](" ++ href ++ ")"
  else do
    .warning ("Dropped unsafe link target on '" ++ orElse text href ++ "'")
    return text

/-- Renders an image. -/
def image : Replacement := fun scene _ =>
  let src := scene.node.node.trimmedAttribute "src"
  let alt := scene.node.node.trimmedAttribute "alt"
  return if src == "" then alt else "![" ++ alt ++ "](" ++ src ++ ")"

/-- Renders a line break. -/
def lineBreak : Replacement := fun _ _ =>
  return "  \n"

end Transcript.Render
