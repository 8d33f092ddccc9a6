import Transcript.Conversion.Rendering
import Transcript.Render.Markers
import Transcript.Text.Digit
import Transcript.Text.Lines

/-!
# Blocks

Headings, lists, quotations, paragraphs and rules.

## Main definitions

- `headingLevel`: the level of a heading
- `listLevel`, `itemMarker`: how the items of a list are indented and marked
- `heading`, `list`, `blockquote`, `paragraph`, `horizontalRule`: the replacements
-/

namespace Transcript.Render

open Markup

/-! ## Headings -/

/-- The level of a heading, the digit behind the first letter of its name. -/
def headingLevel (tagName : String) : Except Fault Nat :=
  match tagName.toList with
  | _ :: c :: _ =>
    match Chars.digitValue? c with
    | some level => .ok level
    | none =>
      .error (.of .badValue ("invalid literal for int() with base 10: " ++
        Text.quoted (String.ofList [c])))
  | _ => .error (.of .badIndex "string index out of range")

/-- Renders a heading. -/
def heading : Replacement := fun scene content =>
  let text := Text.join " " (Text.words content)
  if text == "" then return ""
  else do
    let level ← Rendering.ofExcept (headingLevel scene.node.node.tagName)
    return String.ofList (List.replicate level '#') ++ " " ++ text ++ "\n\n"

/-! ## Lists -/

/-- How deeply a list is nested: the number of list items above it. -/
def listLevel (c : Cursor) : Nat :=
  c.elementAncestors.countP fun a => a.node.tagName == "li"

/-- The fault of a number with too many digits to be written. -/
def tooManyDigits : Fault :=
  .of .badValue ("Exceeds the limit (4300 digits) for integer string conversion; " ++
    "use sys.set_int_max_str_digits() to increase the limit")

/-- The number of an item, as far as it can be written. -/
def itemNumber (n : Int) : Except Fault String :=
  if n.natAbs < Nat.pow 10 Text.maxIntegerDigits then .ok (Number.integerText n)
  else .error tooManyDigits

/-- The marker of an item; `start` is the first number of an ordered list. -/
def itemMarker (start : Option Int) (offset : Nat) : Except Fault String :=
  match start with
  | none => .ok "-"
  | some start => (itemNumber (start + offset)).map (· ++ ".")

/-- Whether an element is a list. -/
def isList (node : Node) : Bool :=
  node.tagName == "ul" || node.tagName == "ol"

/-- Converts the content of an item behind the text so far. A nested list starts on a line of its
own, the blanks in front of it being dropped. -/
def itemContentFrom (text : String) : List Cursor → Rendering String
  | [] => return text
  | child :: rest =>
    match child.node with
    | .leaf _ _ => itemContentFrom (text ++ child.node.textContent) rest
    | node => do
      let inner ← Rendering.converted (some child)
      -- A nested list is indented by itself, at its own level.
      if isList node then itemContentFrom (Text.trimEnd text ++ "\n" ++ inner) rest
      else itemContentFrom (text ++ inner) rest

/-- Converts the content of an item. -/
def itemContent (item : Cursor) : Rendering String := do
  let text ← itemContentFrom "" item.children
  return Text.trim text

/-- Converts items, the first of them having the given offset in its list. -/
def itemLines (indent : String) (start : Option Int) (offset : Nat) :
    List Cursor → Rendering String
  | [] => return ""
  | item :: rest => do
    let marker ← Rendering.ofExcept (itemMarker start offset)
    let content ← itemContent item
    let others ← itemLines indent start (offset + 1) rest
    return indent ++ marker ++ " " ++ content ++ "\n" ++ others

/-- The first number of an ordered list. -/
def listStart (node : Node) : Option Int :=
  if node.tagName == "ol" then some (node.attributeInteger "start" 1) else none

/-- Renders a list. Items are converted from their own children, so that nested lists stand on
lines of their own. -/
def list : Replacement := fun scene _ =>
  if !scene.node.node.isElement then .raise Cursor.notAnElement
  else do
    let level := listLevel scene.node
    let indent := String.ofList (List.replicate (2 * level) ' ')
    let items := scene.node.children.filter fun c => c.node.isElement && c.node.tagName == "li"
    let lines ← itemLines indent (listStart scene.node.node) 0 items
    -- Only the outermost list is followed by an empty line.
    return if level = 0 then lines ++ "\n" else lines

/-! ## Quotations, paragraphs and rules -/

/-- A line of a quotation. -/
def quotedLine (line : String) : String :=
  if Text.isAllBlank line then ">" else "> " ++ line

/-- Renders a quotation. -/
def blockquote : Replacement := fun _ content =>
  let text := Text.trim content
  return if text == "" then ""
    else Text.join "\n" ((Text.splitAt '\n' text).map quotedLine) ++ "\n\n"

/-- Renders a paragraph. -/
def paragraph : Replacement := fun _ content =>
  let text := Text.trim content
  return if text == "" then "" else text ++ "\n\n"

/-- Renders a rule. -/
def horizontalRule : Replacement := fun _ _ =>
  return "\n---\n\n"

end Transcript.Render
