import Transcript.Text.Blank

/-!
# Looking for a text inside another

Initial pieces, final pieces, occurrences, and replacement of every occurrence from left to right.
-/

namespace Transcript

namespace Chars

/-- What follows `start` in `s`, if `s` starts with it. -/
def dropStart? : List Char → List Char → Option (List Char)
  | [], s => some s
  | _ :: _, [] => none
  | p :: ps, c :: cs => if p = c then dropStart? ps cs else none

/-- Whether `s` starts with `start`. -/
def startsWith (start s : List Char) : Bool :=
  (dropStart? start s).isSome

/-- Whether `part` occurs in `s`. -/
def contains (part : List Char) : List Char → Bool
  | [] => part.isEmpty
  | c :: rest => startsWith part (c :: rest) || contains part rest

/-- Replaces the occurrences of `old`, a text that is not empty, from left to right. `skip` counts
the characters still to be passed over because they belong to an occurrence already replaced. -/
def replaceFrom (old new : List Char) (skip : Nat) : List Char → List Char
  | [] => []
  | c :: rest =>
    match skip with
    | k + 1 => replaceFrom old new k rest
    | 0 =>
      if startsWith old (c :: rest) then new ++ replaceFrom old new (old.length - 1) rest
      else c :: replaceFrom old new 0 rest

/-- Replaces the occurrences of `old`, a text that is not empty, from left to right. -/
def replace (old new s : List Char) : List Char :=
  replaceFrom old new 0 s

end Chars

namespace Text

/-- What follows `start` in `s`, if `s` starts with it. -/
def dropStart? (start s : String) : Option String :=
  (Chars.dropStart? start.toList s.toList).map String.ofList

/-- Whether `s` starts with `start`. -/
def startsWith (start s : String) : Bool :=
  Chars.startsWith start.toList s.toList

/-- Whether `s` ends with `final`. -/
def endsWith (final s : String) : Bool :=
  Chars.startsWith final.toList.reverse s.toList.reverse

/-- Whether `part` occurs in `s`. -/
def contains (part s : String) : Bool :=
  Chars.contains part.toList s.toList

/-- Replaces the occurrences of `old`, a text that is not empty, from left to right. -/
def replace (old new : String) : String → String :=
  onChars (Chars.replace old.toList new.toList)

end Text

end Transcript
