import Transcript.Number.Decimal
import Transcript.Preview.Span
import Transcript.Text.Case
import Transcript.Text.Plain
import Transcript.Text.Word

/-!
# Anchors

Headings can be given anchors, names by which a reader gets to them. The anchor of a heading is made
from its text, and no two headings share one.

## Main definitions

- `slug`: the name made from a text
- `freshName`: a name that is not in use
- `AnchorStyle`: how anchors are made, and how headings show them
- `AnchorStyle.heading`: a heading with its anchor
-/

namespace Transcript.Preview

/-! ## Names -/

/-- Puts a separator in place of every run of blanks and characters of the separator. -/
def separateWords (separator : List Char) (isInside : Bool) : List Char → List Char
  | [] => []
  | c :: rest =>
    if Chars.isBlank c || separator.contains c then
      (if isInside then [] else separator) ++ separateWords separator true rest
    else c :: separateWords separator false rest

/-- The name made from a text: its plain letters and digits, in lower case, with a separator between
words. -/
def slug (separator text : List Char) : List Char :=
  let kept := (Chars.plain text).filter fun c => Chars.isWord c || Chars.isBlank c || c = '-'
  separateWords separator false ((Chars.trim kept).map Chars.asciiLower)

/-- The name to try after another one. Its number is raised, or the number one is put behind it. -/
def nextName (name : List Char) : List Char :=
  let digits := (name.reverse.takeWhile Char.isDigit).reverse
  let stem := name.take (name.length - digits.length)
  let number (n : Nat) : List Char := (Number.integerText n).toList
  if !digits.isEmpty && stem.getLast? == some '_' then
    stem ++ number (digits.foldl (fun n c => 10 * n + (c.toNat - '0'.toNat)) 0 + 1)
  else name ++ '_' :: number 1

/-- The first of `fuel` names after one, itself included, that is neither empty nor in use. -/
def freshNameFrom (used : List (List Char)) : Nat → List Char → List Char
  | 0, name => name
  | fuel + 1, name =>
    if name.isEmpty || used.contains name then freshNameFrom used fuel (nextName name) else name

/-- A name that is neither empty nor in use. The names that are tried differ, so one more than there
are in use is enough. -/
def freshName (used : List (List Char)) (name : List Char) : List Char :=
  freshNameFrom used (used.length + 2) name

/-! ## Headings -/

/-- How anchors are made, and how headings show them. -/
structure AnchorStyle where
  /-- What stands between words. -/
  separator : List Char
  /-- By how many levels headings are lowered. -/
  lowering : Int
  /-- The class of the link around a heading, if there is to be one. -/
  around : Option (List Char)
  /-- What the link inside a heading shows, if there is to be one. -/
  inside : Option (List Char)
  /-- The class of the link inside a heading. -/
  insideClass : List Char
  /-- The title of the link inside a heading. -/
  insideTitle : List Char
  /-- Whether the link inside a heading stands in front of its text. -/
  isLeading : Bool

/-- An element with attributes. -/
def element (name : String) (attributes : List (String × List Char)) (inner : List Char) :
    List Char :=
  let written := attributes.flatMap fun (key, value) =>
    ' ' :: key.toList ++ ['=', '\x22'] ++ value.flatMap escapeValueChar ++ ['\x22']
  '<' :: name.toList ++ written ++ '>' :: inner ++ '<' :: '/' :: name.toList ++ ['>']

/-- The deepest level a heading is lowered to. -/
def lowestLevel : Int := 6

/-- A heading of a level with an anchor. -/
def AnchorStyle.heading (style : AnchorStyle) (anchor : List Char) (level : Nat)
    (text : List Char) : List Char :=
  let target := '#' :: anchor
  let text :=
    match style.around with
    | none => text
    | some name => element "a" [("class", name), ("href", target)] text
  let text :=
    match style.inside with
    | none => text
    | some shown =>
      let title := if style.insideTitle.isEmpty then [] else [("title", style.insideTitle)]
      let link := element "a" ([("class", style.insideClass), ("href", target)] ++ title) shown
      if style.isLeading then link ++ text else text ++ link
  element ("h" ++ Number.integerText (min lowestLevel (level + style.lowering)))
    [("id", anchor)] text

end Transcript.Preview
