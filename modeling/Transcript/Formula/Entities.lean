import Transcript.Text.Blank

/-!
# Character entities in formulas

Placeholders for formulas that could not be rendered carry their source with a few characters
escaped. The table of escapes is small and fixed: source code of formulas may well contain other
sequences between an ampersand and a semicolon, and these have to stay as they are.

## Main definitions

- `entities`: the table
- `decode`: reads the entities of the table
- `encode`: writes the characters that `decode` restores
-/

namespace Transcript.Formula

/-- The names of the known entities, between ampersand and semicolon, with their characters. -/
def entities : List (List Char × Char) := [
  ("amp".toList, '&'), ("lt".toList, '<'), ("gt".toList, '>'), ("quot".toList, '\x22'),
  ("#39".toList, '\x27'), ("nbsp".toList, ' ')]

/-- The text of an entity: its character if it is known, and itself otherwise. -/
def entityText (name : List Char) : List Char :=
  match entities.lookup name with
  | some c => [c]
  | none => '&' :: name ++ [';']

/-- Reads entities from left to right. After an ampersand, `name` holds the characters read since,
in reverse; a semicolon then completes an entity, while another ampersand or a blank shows that
there was none. -/
def decodeFrom (name : Option (List Char)) : List Char → List Char
  | [] =>
    match name with
    | none => []
    | some name => '&' :: name.reverse
  | c :: rest =>
    match name with
    | none => if c = '&' then decodeFrom (some []) rest else c :: decodeFrom none rest
    | some name =>
      -- The first ampersand began nothing; the second may.
      if c = '&' then '&' :: name.reverse ++ decodeFrom (some []) rest
      else if c = ';' then
        -- Without a name there is no entity.
        if name.isEmpty then '&' :: ';' :: decodeFrom none rest
        else entityText name.reverse ++ decodeFrom none rest
      else if Chars.isBlank c then '&' :: name.reverse ++ c :: decodeFrom none rest
      else decodeFrom (some (c :: name)) rest

/-- Reads the known entities of a text; everything else stays. -/
def decode : String → String :=
  Text.onChars (decodeFrom none)

/-- The entity for a character that needs one, and the character itself otherwise. -/
def encodeChar (c : Char) : List Char :=
  match c with
  | '&' => "&amp;".toList
  | '<' => "&lt;".toList
  | '>' => "&gt;".toList
  | '\x22' => "&quot;".toList
  | '\x27' => "&#39;".toList
  | c => [c]

/-- Writes the five reserved characters as entities. -/
def encode : String → String :=
  Text.onChars (·.flatMap encodeChar)

end Transcript.Formula
