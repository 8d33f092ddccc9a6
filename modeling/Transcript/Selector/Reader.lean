import Transcript.Number.Decimal
import Transcript.Selector.Basic
import Transcript.Text.Quoted

/-!
# Reading selectors

The written form of selectors: names, `*`, `.class`, `#id`, `[attribute]` with its comparisons, the
exclusion `:not(…)`, the four combinators and the comma.

Reading works on the characters left, together with the position of the first of them. It ends
because every step takes characters away; the number of steps is bounded by the length of the text.

## Main definitions

- `SelectorError`: why a text is no selector, and where
- `SelectorError.message`: the explanation, with the place marked
- `Selector.read`: the reader
-/

namespace Transcript

/-- Why a text is no selector. -/
inductive SelectorFlaw where
  /-- A piece that starts like an attribute, class, … is not completed. -/
  | malformed (piece : String)
  /-- A character that starts nothing. -/
  | invalidCharacter (c : Char)
  /-- A selector was expected. -/
  | missing
  /-- A combinator has nothing on its left. -/
  | nothingBefore (combinator : Char)
  /-- An element name stands behind another part. -/
  | misplacedName
  /-- An exclusion is not closed. -/
  | unclosed
  /-- A parenthesis is closed that was not opened. -/
  | unopened
  /-- The exclusion lacks its parentheses. -/
  | incomplete (name : String)
  /-- There is no such pseudo-class. -/
  | unknown (name : String)
  /-- There is no such pseudo-class of the user's own. -/
  | undefined (name : String)
  /-- Pseudo-elements are not supported. -/
  | pseudoElement
  /-- Rules that begin with an at-sign are not supported. -/
  | atRule
  deriving DecidableEq, Inhabited

/-- Whether the text may well be a selector, but of a kind that is not supported. -/
def SelectorFlaw.isUnsupported : SelectorFlaw → Bool
  | pseudoElement | atRule => true
  | _ => false

/-- Why a text is no selector, and where. -/
structure SelectorError where
  /-- The reason. -/
  flaw : SelectorFlaw
  /-- The position in the text. -/
  position : Nat
  /-- The text. -/
  text : String
  deriving DecidableEq, Inhabited

namespace SelectorError

/-- The reason in words. -/
def reason (e : SelectorError) : String :=
  let place := " at position " ++ Number.integerText e.position
  match e.flaw with
  | .malformed piece => "Malformed " ++ piece ++ " selector" ++ place
  | .invalidCharacter c =>
    "Invalid character " ++ Text.quoted (String.singleton c) ++ " position " ++
      Number.integerText e.position
  | .missing => "Expected a selector" ++ place
  | .nothingBefore c =>
    "The combinator '" ++ String.singleton c ++ "'" ++ place ++ ", must have a selector before it"
  | .misplacedName => "Tag name found" ++ place ++ " instead of at the start"
  | .unclosed => "Unclosed pseudo-class" ++ place
  | .unopened => "Unmatched pseudo-class close" ++ place
  | .incomplete name => "Invalid syntax for pseudo class '" ++ name ++ "'"
  | .unknown name =>
    "'" ++ name ++ "' was detected as a pseudo-class and is either unsupported or invalid. " ++
      "If the syntax was not intended to be recognized as a pseudo-class, please escape the colon."
  | .undefined name => "Undefined custom selector '" ++ name ++ "' found" ++ place
  | .pseudoElement => "Pseudo-element found" ++ place
  | .atRule => "At-rules found" ++ place

/-- The lines of the text, each with its first position and the position behind its break, which
for the last line is the end of the text. -/
def linesFrom (position first : Nat) (line : List Char) : List Char → List (List Char × Nat × Nat)
  | [] => [(line.reverse, first, position)]
  | '\r' :: '\n' :: rest =>
    (line.reverse, first, position + 2) :: linesFrom (position + 2) (position + 2) [] rest
  | c :: rest =>
    if c = '\n' || c = '\r' then
      (line.reverse, first, position + 1) :: linesFrom (position + 1) (position + 1) [] rest
    else linesFrom (position + 1) first (c :: line) rest

/-- The text with a mark under the place. A text of one line stands as it is; of several lines the
one concerned is pointed at. -/
def context (e : SelectorError) : String × Nat :=
  let lines := linesFrom 0 0 [] e.text.toList
  let blanks (n : Nat) := String.ofList (List.replicate n ' ')
  let concerned (first past : Nat) := first ≤ e.position && e.position < past
  let shown :=
    match lines with
    | [(line, first, _)] =>
      [String.ofList line ++ "\n" ++ blanks (e.position - first) ++ "^"]
    | lines =>
      lines.map fun (line, first, past) =>
        if concerned first past then
          "--> " ++ String.ofList line ++ "\n" ++ blanks (e.position - first + 4) ++ "^"
        else "    " ++ String.ofList line
  let number := ((lines.findIdx? fun (_, first, past) => concerned first past).getD 0) + 1
  (Text.join "\n" shown, number)

/-- The full explanation. The place is marked unless the text is merely of a kind that is not
supported. -/
def message (e : SelectorError) : String :=
  let (shown, number) := e.context
  if e.flaw.isUnsupported then e.reason
  else e.reason ++ "\n  line " ++ Number.integerText number ++ ":\n" ++ shown

end SelectorError

namespace Selector

/-! ## Blanks and comments -/

/-- What follows the end of a comment. -/
def afterComment? : List Char → Option (List Char)
  | '*' :: '/' :: rest => some rest
  | _ :: rest => afterComment? rest
  | [] => none

/-- Skips comments and, if `blanks` says so, blanks. Each takes at least one character; `fuel`
bounds their number. -/
def skipFrom (blanks : Bool) : Nat → List Char → List Char
  | 0, s => s
  | _ + 1, [] => []
  | fuel + 1, c :: rest =>
    if blanks && isSelectorBlank c then skipFrom blanks fuel rest
    else
      match c, rest with
      | '/', '*' :: inner =>
        -- A comment that is not closed is none.
        match afterComment? inner with
        | some after => skipFrom blanks fuel after
        | none => c :: rest
      | _, _ => c :: rest

/-- Drops the blanks and comments in front. -/
def skipBlanks (s : List Char) : List Char :=
  skipFrom true s.length s

/-- How many characters at the end are blanks and comments. -/
def blankTail : List Char → Nat
  | [] => 0
  | c :: rest => if (skipBlanks (c :: rest)).isEmpty then rest.length + 1 else blankTail rest

/-! ## Names and values -/

/-- Characters that start a name, a dash apart. -/
def isNameStart (c : Char) : Bool :=
  c.isAlpha || c = '_' || 0xA0 ≤ c.toNat

/-- Characters that continue a name. -/
def isNamePart (c : Char) : Bool :=
  isNameStart c || c.isDigit || c = '-'

/-- What stands in for a character that cannot be. -/
def replacementChar : Char := '\ufffd'

/-- The character of a number written in an escape. -/
def escapedChar (n : Nat) : Char :=
  let c := Char.ofNat n
  if c = '\x00' then replacementChar else c

/-- Drops one blank in front; the two characters of a line break count as one. -/
def dropBlank : List Char → List Char
  | '\r' :: '\n' :: rest => rest
  | c :: rest => if isSelectorBlank c then rest else c :: rest
  | [] => []

/-- The value of a hexadecimal digit. -/
def hexDigit? (c : Char) : Option Nat :=
  if c.isDigit then some (c.toNat - '0'.toNat)
  else if 'a' ≤ c.toLower && c.toLower ≤ 'f' then some (c.toLower.toNat - 'a'.toNat + 10)
  else none

/-- Reads an escape behind its backslash: up to six hexadecimal digits with a blank behind them, or
a character that stands for itself. No escape goes over the end of a line. -/
def readEscape? (s : List Char) : Option (Char × List Char) :=
  let digits := ((s.takeWhile fun c => (hexDigit? c).isSome).take 6).filterMap hexDigit?
  match digits, s with
  | _ :: _, _ =>
    some (escapedChar (digits.foldl (16 * · + ·) 0), dropBlank (s.drop digits.length))
  | [], [] => some (replacementChar, [])
  | [], c :: rest => if c = '\n' || c = '\r' || c = '\x0c' then none else some (c, rest)

/-- Reads an escape, or a character that is accepted. -/
def readNameChar? (accepted : Char → Bool) : List Char → Option (Char × List Char)
  | [] => none
  | '\\' :: rest => readEscape? rest
  | c :: rest => if accepted c then some (c, rest) else none

/-- Reads what continues a name; `fuel` bounds the number of its characters. -/
def readNameParts : Nat → List Char → List Char × List Char
  | 0, s => ([], s)
  | fuel + 1, s =>
    match readNameChar? isNamePart s with
    | none => ([], s)
    | some (c, rest) =>
      let (parts, rest) := readNameParts fuel rest
      (c :: parts, rest)

/-- Reads a name: an optional dash and a letter, or two dashes, and what continues it. -/
def readName? (s : List Char) : Option (List Char × List Char) :=
  let after (start rest : List Char) : List Char × List Char :=
    let (parts, rest) := readNameParts rest.length rest
    (start ++ parts, rest)
  match s with
  | '-' :: '-' :: rest => some (after ['-', '-'] rest)
  | '-' :: rest => (readNameChar? isNameStart rest).map fun (c, rest) => after ['-', c] rest
  | s => (readNameChar? isNameStart s).map fun (c, rest) => after [c] rest

/-- Reads a quoted text up to its closing quote, which has to stand on the same line. A backslash
takes a line break out of the text. -/
def readQuoted? (quote : Char) : Nat → List Char → Option (List Char × List Char)
  | 0, _ => none
  | _ + 1, [] => none
  | fuel + 1, c :: rest =>
    let first (c : Char) (rest : List Char) :=
      (readQuoted? quote fuel rest).map fun (value, rest) => (c :: value, rest)
    if c = quote then some ([], rest)
    else if c = '\\' then
      match rest, readEscape? rest with
      | [], _ => none
      | _, some (meant, rest) => first meant rest
      | _, none => readQuoted? quote fuel (dropBlank rest)
    else if c = '\n' || c = '\r' || c = '\x0c' then none
    else first c rest

/-- Reads an attribute value: a text between quotes, or a name. -/
def readValue? : List Char → Option (List Char × List Char)
  | '\x22' :: rest => readQuoted? '\x22' (rest.length + 1) rest
  | '\x27' :: rest => readQuoted? '\x27' (rest.length + 1) rest
  | s => readName? s

/-- Reads the name of an element, or the star for any. -/
def readPlainElement? : List Char → Option (Selector × List Char)
  | '*' :: rest => some (any, rest)
  | s => (readName? s).map fun (name, rest) => (named (String.ofList name), rest)

/-- Reads the name of an element, perhaps with a namespace in front. A star stands for any
namespace; no other one is known, so that it selects nothing. -/
def readElement? (s : List Char) : Option (Selector × List Char) :=
  match readPlainElement? s with
  | some (space, '|' :: rest) =>
    match readPlainElement? rest with
    | some (element, rest) => some (if space = any then element else except any, rest)
    -- A bar without a name behind it is left over.
    | none => some (space, '|' :: rest)
  | some found => some found
  | none =>
    match s with
    | '|' :: rest => (readPlainElement? rest).map fun (_, rest) => (except any, rest)
    | _ => none

/-- Reads the name of an attribute, passing over a namespace in front. -/
def readAttributeName? (s : List Char) : Option (List Char × List Char) :=
  match readPlainElement? s with
  | some (_, '|' :: rest) => readName? rest <|> readName? s
  | _ =>
    match s with
    | '|' :: rest => readName? rest
    | s => readName? s

/-- Reads a comparison operator: the test it stands for, and whether it is negated. -/
def readOperator? : List Char → Option ((String → ValueTest) × Bool × List Char)
  | '=' :: rest => some (.equals, false, rest)
  | '^' :: '=' :: rest => some (.starts, false, rest)
  | '$' :: '=' :: rest => some (.ends, false, rest)
  | '*' :: '=' :: rest => some (.contains, false, rest)
  | '~' :: '=' :: rest => some (.word, false, rest)
  | '|' :: '=' :: rest => some (.dashed, false, rest)
  | '!' :: '=' :: rest => some (.equals, true, rest)
  | _ => none

/-- Reads the flag for ignoring case, if there is one. -/
def readFlag (s : List Char) : Option Bool × List Char :=
  match skipBlanks s with
  | 'i' :: rest | 'I' :: rest => (some true, rest)
  | 's' :: rest | 'S' :: rest => (some false, rest)
  | rest => (none, rest)

/-- Reads what follows the opening bracket of an attribute condition. -/
def readAttribute? (s : List Char) : Option (Selector × List Char) :=
  match readAttributeName? (skipBlanks s) with
  | none => none
  | some (name, rest) =>
    let name := String.ofList name
    match skipBlanks rest with
    | ']' :: rest => some (attr name false .present, rest)
    | rest =>
      match readOperator? rest with
      | none => none
      | some (test, negated, rest) =>
        match readValue? (skipBlanks rest) with
        | none => none
        | some (value, rest) =>
          let (flag, rest) := readFlag rest
          match skipBlanks rest with
          | ']' :: rest =>
            let folded := flag.getD (Text.asciiLower name == "type")
            let condition := attr name folded (test (String.ofList value))
            some (if negated then except condition else condition, rest)
          | _ => none

/-- Reads a combinator or comma with the blanks around it. Blanks with no sign among them are the
combinator for descendants. -/
def readCombinator? (s : List Char) : Option (Char × List Char) :=
  let descends := ((skipFrom false s.length s).head?.map isSelectorBlank).getD false
  match skipBlanks s with
  | [] => if descends then some (' ', []) else none
  | c :: rest =>
    if c = ',' || c = '+' || c = '>' || c = '~' then some (c, skipBlanks rest)
    else if descends then some (' ', c :: rest)
    else none

/-! ## The reader -/

/-- What has been read of a list of selectors. -/
structure Progress where
  /-- The alternatives completed. -/
  alternatives : Option Selector := none
  /-- What the current element is related to. -/
  relation : Option Selector := none
  /-- What is asked of the current element, if anything. -/
  current : Option Selector := none
  /-- The position behind the last piece. -/
  position : Nat

namespace Progress

/-- Adds a condition on the current element. -/
def add (p : Progress) (condition : Selector) (position : Nat) : Progress :=
  { p with
    current := some (match p.current with
      | none => condition
      | some before => both before condition)
    position }

/-- The current element with its relation. -/
def chain (p : Progress) (current : Selector) : Selector :=
  match p.relation with
  | none => current
  | some relation => both current relation

/-- All alternatives, the last of them being `last`. -/
def close (p : Progress) (last : Selector) : Selector :=
  match p.alternatives with
  | none => last
  | some before => either before last

/-- Goes on behind a combinator. -/
def combine (p : Progress) (sign : Char) (current : Selector) (position : Nat) : Progress :=
  let chain := p.chain current
  match sign with
  | ',' => { alternatives := some (p.close chain), position }
  | '>' => { p with relation := some (parent chain), current := none, position }
  | '+' => { p with relation := some (previous chain), current := none, position }
  | '~' => { p with relation := some (preceding chain), current := none, position }
  | _ => { p with relation := some (ancestor chain), current := none, position }

end Progress

/-- Reads a list of selectors, up to the end or, if `inside` an exclusion, up to its closing
parenthesis. `size` is the number of characters up to the end of the text, and `tail` the number of
those at its end that are blanks. -/
def readList (size tail : Nat) :
    Nat → Bool → Progress → List Char → Except (SelectorFlaw × Nat) (Selector × List Char)
  | 0, _, p, _ => .error (.missing, p.position)
  | fuel + 1, inside, p, s =>
    let here := size - s.length
    let behind (rest : List Char) := size - rest.length
    let finish (place : Nat) (rest : List Char) :
        Except (SelectorFlaw × Nat) (Selector × List Char) :=
      match p.current with
      | none => .error (.missing, place)
      | some current => .ok (p.close (p.chain current), rest)
    match decide (s.length ≤ tail), s with
    | true, rest => if inside then .error (.unclosed, p.position) else finish p.position rest
    | _, [] => if inside then .error (.unclosed, p.position) else finish p.position []
    | _, c :: rest =>
      match skipBlanks s with
      | ')' :: after =>
        -- A parenthesis closes only behind a selector.
        if p.current.isNone then .error (.missing, here)
        else if inside then finish here after
        else .error (.unopened, here)
      | _ =>
        if c = ':' then
          match readName? rest, rest with
          | none, ':' :: rest =>
            .error (if (readName? rest).isSome then .pseudoElement else .malformed "pseudo-class",
              here)
          | none, _ => .error (.malformed "pseudo-class", here)
          | some (name, rest), start =>
            let name := ":" ++ Text.asciiLower (String.ofList name)
            match start, rest with
            | '-' :: '-' :: _, _ => .error (.undefined name, behind rest)
            | _, '(' :: rest =>
              if name == ":not" then
                -- The excluded list is read like any other, up to its parenthesis.
                let rest := skipBlanks rest
                let opened := behind rest
                match readList size tail fuel true { position := opened } rest with
                | .error e => .error e
                -- What follows is told to stand behind the parenthesis that opened the list.
                | .ok (excluded, rest) =>
                  readList size tail fuel inside (p.add (except excluded) opened) rest
              else .error (.unknown name, here)
            | _, _ => .error (if name == ":not" then .incomplete name else .unknown name, here)
        else if c = '#' then
          match readName? rest with
          | none => .error (.malformed "id", here)
          | some (name, rest) =>
            readList size tail fuel inside (p.add (hasId (String.ofList name)) (behind rest)) rest
        else if c = '.' then
          match readName? rest with
          | none => .error (.malformed "class", here)
          | some (name, rest) =>
            readList size tail fuel inside (p.add (hasClass (String.ofList name)) (behind rest))
              rest
        else if c = '[' then
          match readAttribute? rest with
          | none => .error (.malformed "attribute", here)
          | some (condition, rest) =>
            readList size tail fuel inside (p.add condition (behind rest)) rest
        else if c = '@' && (rest.head?.any fun c => c.toLower = 'p') &&
            (readName? (rest.drop 1)).isSome then .error (.atRule, here)
        else
          match readElement? s with
          | some (element, rest) =>
            -- A name or a star stands only in front.
            if p.current.isSome then .error (.misplacedName, here)
            else readList size tail fuel inside (p.add element (behind rest)) rest
          | none =>
            match readCombinator? s with
            | none => .error (.invalidCharacter c, here)
            | some (sign, rest) =>
              match p.current with
              | none => .error (.nothingBefore sign, p.position)
              | some current =>
                readList size tail fuel inside (p.combine sign current (behind rest)) rest

/-- Reads a selector; blanks around it are skipped. -/
def read (text : String) : Except SelectorError Selector :=
  let s := text.toList.map fun c => if c = '\x00' then replacementChar else c
  let start := skipBlanks s
  let position := s.length - start.length
  match readList s.length (blankTail s) (s.length + 1) false { position } start with
  | .ok (selector, _) => .ok selector
  | .error (flaw, position) => .error ⟨flaw, position, String.ofList s⟩

end Selector

end Transcript
