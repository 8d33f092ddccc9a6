import Transcript.Cli.Emoji
import Transcript.Cli.Style
import Transcript.Fault.Basic

/-!
# Tagged text

Information on the console is written with tags in brackets. `[bold]` begins a style, `[/bold]` ends
it, and `[/]` ends the style that was begun last; the tags themselves are not shown. A backslash in
front of a tag makes it text. Closing what is not open is a fault.

## Main definitions

- `tagAt?`: the tag that a text begins with
- `closeTag`: closes a style
- `untagged`: the text without its tags
-/

namespace Transcript.Cli

/-- Characters that a tag may begin with. -/
def beginsTag (c : Char) : Bool :=
  ('a' ≤ c && c ≤ 'z') || c = '#' || c = '/' || c = '@'

/-- The tag that a text begins with: the number of backslashes in front, what stands between the
brackets, and what follows. -/
def tagAt? (s : List Char) : Option (Nat × List Char × List Char) :=
  let slashes := s.takeWhile (· = '\\')
  match s.drop slashes.length with
  | '[' :: c :: rest =>
    let inner := (c :: rest).takeWhile fun c => c ≠ ']' && c ≠ '['
    match (c :: rest).drop inner.length with
    | ']' :: after => if beginsTag c then some (slashes.length, inner, after) else none
    | _ => none
  | _ => none

/-- Text between tags as it is shown. -/
def shownText (s : List Char) : List Char :=
  showEmoji (Chars.replace ['\\', '['] ['['] s)

/-- The fault of closing what is not open. -/
def unopened (tag : List Char) (position : Nat) : Fault :=
  .of .markup ("closing tag '[" ++ String.ofList tag ++ "]' at position " ++
    Number.integerText position ++ " doesn't match any open tag")

/-- The fault of closing where nothing is open. -/
def nothingOpen (position : Nat) : Fault :=
  .of .markup ("closing tag '[/]' at position " ++ Number.integerText position ++
    " has nothing to close")

/-- The styles that are open behind a tag, given those in front of it, the last one first. -/
def closeTag (tag : List Char) (position : Nat) (isOpen : List String) :
    Except Fault (List String) :=
  let name := tag.takeWhile (· ≠ '=')
  match name with
  | '/' :: style =>
    let style := Text.trim (String.ofList style)
    if style == "" then
      match isOpen with
      | [] => .error (nothingOpen position)
      | _ :: outer => .ok outer
    else
      let style := normalStyle style
      -- The innermost style of the name is closed, wherever it stands.
      if isOpen.contains style then .ok (isOpen.erase style) else .error (unopened tag position)
  | name => .ok (normalStyle (String.ofList name) :: isOpen)

/-- A text without its tags, from a position on. `read` is the text read since the last tag, in
reverse, and `isOpen` the styles that are open. Every step takes at least one character; `fuel`
bounds their number. -/
def untaggedFrom (position : Nat) (read : List Char) (isOpen : List String) :
    Nat → List Char → Except Fault (List Char)
  | 0, _ => .ok (shownText read.reverse)
  | _ + 1, [] => .ok (shownText read.reverse)
  | fuel + 1, c :: rest =>
    match tagAt? (c :: rest) with
    | none => untaggedFrom (position + 1) (c :: read) isOpen fuel rest
    | some (slashes, inner, after) =>
      let past := position + slashes + inner.length + 2
      -- Two backslashes stand for one; an odd one makes the tag text.
      let before := shownText read.reverse ++ List.replicate (slashes / 2) '\\'
      if slashes % 2 = 1 then
        (untaggedFrom past [] isOpen fuel after).map fun shown =>
          before ++ shownText ('[' :: inner ++ [']']) ++ shown
      else
        match closeTag inner (position + slashes) isOpen with
        | .error fault => .error fault
        | .ok isOpen => (untaggedFrom past [] isOpen fuel after).map (before ++ ·)

/-- The text without its tags. -/
def untagged (text : String) : Except Fault String :=
  let s := text.toList
  -- Without a bracket there is nothing to read.
  if s.contains '[' then (untaggedFrom 0 [] [] (s.length + 1) s).map String.ofList
  else .ok (String.ofList (showEmoji s))

end Transcript.Cli
