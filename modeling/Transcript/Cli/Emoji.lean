import Transcript.Cli.EmojiTable
import Transcript.Text.Case
import Transcript.Text.Lines
import Transcript.Text.Search

/-!
# Pictograms in text

A name between colons stands for a pictogram, if there is one of that name. A name may end in a dash
and a word that asks for the plain or for the colourful form.

## Main definitions

- `emoji?`: the pictogram of a name
- `showEmoji`: a text with its pictograms
-/

namespace Transcript.Cli

/-- The pictogram of a name. -/
def emoji? (name : String) : Option (List Char) :=
  emojiLines.findSome? fun line =>
    (Chars.splitAt ' ' line.toList).findSome? (Chars.dropStart? (name.toList ++ ['=']))

/-- The words for the forms of a pictogram, each with the character that asks for the form. -/
def emojiForms : List (List Char × Char) :=
  [("-emoji".toList, '\ufe0f'), ("-text".toList, '\ufe0e')]

/-- The pictogram of what stands between two colons: a name, perhaps with a form. -/
def emojiOf? (written : List Char) : Option (List Char) :=
  let form := emojiForms.find? fun (word, _) => Chars.startsWith word.reverse written.reverse
  let name := written.take (written.length - (form.map fun (word, _) => word.length).getD 0)
  -- No pictogram has an empty name.
  if name.isEmpty then none
  else
    (emoji? (Text.lower (String.ofList name))).map (· ++ (form.map Prod.snd).toList)

/-- What stands between a colon and the next one, with no blank in between, and what follows. -/
def untilColon? : List Char → Option (List Char × List Char)
  | [] => none
  | ':' :: rest => some ([], rest)
  | c :: rest =>
    if Chars.isBlank c then none else (untilColon? rest).map fun (name, rest) => (c :: name, rest)

/-- A text with its pictograms. Every step takes at least one character; `fuel` bounds their
number. -/
def showEmojiFrom : Nat → List Char → List Char
  | 0, s => s
  | _ + 1, [] => []
  | fuel + 1, c :: rest =>
    match if c = ':' then untilColon? rest else none with
    | none => c :: showEmojiFrom fuel rest
    -- Colons around anything but a name stay.
    | some (written, rest) =>
      (emojiOf? written).getD (':' :: written ++ [':']) ++ showEmojiFrom fuel rest

/-- A text with its pictograms. -/
def showEmoji (s : List Char) : List Char :=
  showEmojiFrom s.length s

end Transcript.Cli
