import Transcript.Options.Yaml.Scalar
import Transcript.Options.Yaml.Token
import Transcript.Text.Utf8

/-!
# Anchors, tags and directives

What may stand in front of a node to name it or to say what it is, and what may stand in front of a
document.

## Main definitions

- `readAnchor`: an anchor or alias
- `readTag`: a tag
- `readDirective`: a directive with its line
-/

namespace Transcript.Yaml

/-! ## Anchors -/

/-- Whether a character may follow the name of an anchor. -/
def endsAnchor (c : Char) : Bool :=
  isBlank c || ['?', ':', ',', ']', '\x7d', '%', '@', '\x60'].contains c

/-- Reads the name of an anchor or alias behind its sign. -/
def readAnchor (activity : Activity) (s : Spot) : Except Misreading (String × Spot) :=
  let (name, after) := s.next.span isNameChar
  let wrong (at_ : Spot) :=
    stop activity s.place (.character .nameChar at_.peek) at_.place
  if name.isEmpty then wrong after
  else if endsAnchor after.peek then .ok (String.ofList name, after)
  else wrong after

/-! ## Names of tags -/

/-- Whether a character may stand in the name of a tag. -/
def isUriChar (c : Char) : Bool :=
  c.isAlphanum || "-;/?:@&=+$,_.!~*'()[]%".toList.contains c

/-- Reads escapes by bytes, one behind the other. -/
def readUriBytes (activity : Activity) (since : Place) (s : Spot) :
    Nat → Except Misreading (List Nat × Spot)
  | 0 => .ok ([], s)
  | fuel + 1 =>
    if s.peek ≠ '%' then .ok ([], s)
    else
      let s := s.next
      match Json.hexValue? (s.at? 0), Json.hexValue? (s.at? 1) with
      | some a, some b =>
        (readUriBytes activity since (s.skip 2) fuel).map fun (bytes, s) =>
          ((a * 16 + b) :: bytes, s)
      | none, _ => stop activity since (.character .uriEscape (s.at? 0)) s.place
      | _, none => stop activity since (.character .uriEscape (s.at? 1)) s.place

/-- Reads the characters of the name of a tag. -/
def readUriChars (activity : Activity) (since : Place) (s : Spot) :
    Nat → Except Misreading (List Char × Spot)
  | 0 => .ok ([], s)
  | fuel + 1 =>
    let (piece, after) := s.span fun c => isUriChar c && c ≠ '%'
    if after.peek ≠ '%' then .ok (piece, after)
    else
      match readUriBytes activity since after (after.rest.length + 1) with
      | .error e => .error e
      | .ok (bytes, behind) =>
        match Utf8.decode bytes with
        | .error e => stop activity since (.brokenUri e.text) after.place
        | .ok text =>
          (readUriChars activity since behind fuel).map fun (more, s) =>
            (piece ++ text.toList ++ more, s)

/-- Reads the name of a tag; `scanning` and `parsing` are what is being read. -/
def readUri (scanning parsing : Activity) (since : Place) (s : Spot) :
    Except Misreading (String × Spot) :=
  match readUriChars scanning since s (s.rest.length + 1) with
  | .error e => .error e
  | .ok (name, after) =>
    if s.rest.length = after.rest.length then
      stop parsing since (.character .uri after.peek) after.place
    else .ok (String.ofList name, after)

/-- Reads the handle of a tag: an exclamation mark, or a word between two of them. -/
def readHandle (activity : Activity) (since : Place) (s : Spot) :
    Except Misreading (String × Spot) :=
  if s.peek ≠ '!' then stop activity since (.character .bang s.peek) s.place
  else
    let (word, after) := s.next.span isNameChar
    if word.isEmpty && after.peek = ' ' then .ok ("!", after)
    else if after.peek = '!' then .ok (String.ofList ('!' :: word ++ ['!']), after.next)
    else stop activity since (.character .bang after.peek) after.place

/-! ## Tags -/

/-- Whether the name of a tag has an exclamation mark in it, before its word ends. -/
def hasHandle (s : List Char) : Bool :=
  (s.takeWhile (!endsWord ·)).contains '!'

/-- Reads a tag: its handle, if it has one, and its name. -/
def readTag (s : Spot) : Except Misreading (Option String × String × Spot) := do
  let since := s.place
  let c := s.at? 1
  let (handle, name, after) ←
    if c = '<' then do
      let (name, after) ← readUri .tag .tagName since (s.skip 2)
      if after.peek = '>' then pure (none, name, after.next)
      else stop Activity.tagName since (.character .angle after.peek) after.place
    else if isBlank c then pure (none, "!", s.next)
    else do
      let (handle, behind) ←
        if hasHandle (s.rest.drop 1) then readHandle .tag since s else pure ("!", s.next)
      let (name, after) ← readUri .tag .tagName since behind
      pure (some handle, name, after)
  if endsWord after.peek then return (handle, name, after)
  else stop Activity.tag since (.character .space after.peek) after.place

/-! ## Directives -/

/-- Reads a number of a version. -/
def readVersionNumber (since : Place) (s : Spot) : Except Misreading (Nat × Spot) :=
  let (digits, after) := s.span Char.isDigit
  if digits.isEmpty then stop Activity.directive since (.character .digit s.peek) s.place
  else .ok (Chars.ofDigits (digits.map fun c => c.toNat - '0'.toNat), after)

/-- Reads what stands behind the name of a directive. -/
def readDirectiveValue (name : List Char) (since : Place) (s : Spot) :
    Except Misreading (Directive × Spot) := do
  let wrong {α : Type} (wanted : Wanted) (s : Spot) : Except Misreading α :=
    stop Activity.directive since (.character wanted s.peek) s.place
  match String.ofList name with
  | "YAML" =>
    let (major, s) ← readVersionNumber since s.skipSpaces
    if s.peek ≠ '.' then wrong .digitOrPoint s
    let (minor, s) ← readVersionNumber since s.next
    if endsWord s.peek then return (.version major minor, s) else wrong .digitOrSpace s
  | "TAG" =>
    let (handle, s) ← readHandle .directive since s.skipSpaces
    if s.peek ≠ ' ' then wrong .space s
    let (meaning, s) ← readUri .directive .directiveName since s.skipSpaces
    if endsWord s.peek then return (.handle handle meaning, s) else wrong .space s
  | _ => return (.other, (s.span fun c => !isBreak c).2)

/-- Reads a directive with its line. -/
def readDirective (s : Spot) : Except Misreading (Lexeme × Spot) := do
  let since := s.place
  let (name, after) := s.next.span isNameChar
  if name.isEmpty || !endsWord after.peek then
    stop Activity.directive since (.character .nameChar after.peek) after.place
  let (d, after) ← readDirectiveValue name since after
  let behind ← readLineEnd .directive since after
  return (⟨.directive d, since, after.place⟩, behind)

end Transcript.Yaml
