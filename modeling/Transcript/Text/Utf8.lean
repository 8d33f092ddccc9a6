import Transcript.Number.Decimal

/-!
# Bytes that spell text

Text is stored as bytes by UTF-8. Reading stops at the first byte that does not fit, and the fault
says where it stands and what is wrong with it.

## Main definitions

- `Utf8.Error`, `Utf8.Error.text`: what is wrong, and where
- `Utf8.decode`: the text spelled by bytes
-/

namespace Transcript.Utf8

/-- What is wrong with some bytes. -/
inductive Problem where
  /-- No character starts with this byte. -/
  | badStart
  /-- The character is not continued. -/
  | badContinuation
  /-- The bytes end within a character. -/
  | endOfData
  deriving DecidableEq, Inhabited

/-- The words for a problem. -/
def Problem.words : Problem → String
  | badStart => "invalid start byte"
  | badContinuation => "invalid continuation byte"
  | endOfData => "unexpected end of data"

/-- Bytes that do not fit: the first of them, its position, their number, and what is wrong. -/
structure Error where
  /-- The first byte. -/
  byte : Nat
  /-- Its position. -/
  position : Nat
  /-- How many bytes do not fit. -/
  count : Nat
  /-- What is wrong. -/
  problem : Problem
  deriving DecidableEq, Inhabited

/-- The message about bytes that do not fit. -/
def Error.text (e : Error) : String :=
  let place :=
    if e.count = 1 then
      "byte 0x" ++ String.ofList [Nat.digitChar (e.byte / 16), Nat.digitChar (e.byte % 16)] ++
        " in position " ++ Number.integerText e.position
    else
      "bytes in position " ++ Number.integerText e.position ++ "-" ++
        Number.integerText (e.position + e.count - 1 : Nat)
  "'utf-8' codec can't decode " ++ place ++ ": " ++ e.problem.words

/-- A character that has been started. -/
structure Pending where
  /-- Its first byte. -/
  first : Nat
  /-- How many bytes have been read. -/
  read : Nat
  /-- How many bytes are missing. -/
  missing : Nat
  /-- The least and the greatest value of the next byte. -/
  bounds : Nat × Nat
  /-- The number spelled so far. -/
  value : Nat

/-- What the first byte of a character of several bytes announces: the number of further bytes, the
bounds of the next one, and the leading bits. -/
def announced? (byte : Nat) : Option (Nat × (Nat × Nat) × Nat) :=
  if 0xC2 ≤ byte && byte ≤ 0xDF then some (1, (0x80, 0xBF), byte - 0xC0)
  else if byte = 0xE0 then some (2, (0xA0, 0xBF), 0)
  else if byte = 0xED then some (2, (0x80, 0x9F), 0xD)
  else if 0xE1 ≤ byte && byte ≤ 0xEF then some (2, (0x80, 0xBF), byte - 0xE0)
  else if byte = 0xF0 then some (3, (0x90, 0xBF), 0)
  else if 0xF1 ≤ byte && byte ≤ 0xF3 then some (3, (0x80, 0xBF), byte - 0xF0)
  else if byte = 0xF4 then some (3, (0x80, 0x8F), 4)
  else none

/-- The characters spelled by bytes, the first of which has the given position. -/
def decodeFrom (position : Nat) (pending : Option Pending) :
    List Nat → Except Error (List Char)
  | [] =>
    match pending with
    | none => .ok []
    | some p => .error ⟨p.first, position - p.read, p.read, .endOfData⟩
  | byte :: rest =>
    match pending with
    | none =>
      if byte < 0x80 then (decodeFrom (position + 1) none rest).map (Char.ofNat byte :: ·)
      else
        match announced? byte with
        | none => .error ⟨byte, position, 1, .badStart⟩
        | some (missing, bounds, value) =>
          decodeFrom (position + 1) (some ⟨byte, 1, missing, bounds, value⟩) rest
    | some p =>
      if p.bounds.1 ≤ byte && byte ≤ p.bounds.2 then
        let value := 64 * p.value + (byte - 0x80)
        if p.missing = 1 then (decodeFrom (position + 1) none rest).map (Char.ofNat value :: ·)
        else
          decodeFrom (position + 1)
            (some ⟨p.first, p.read + 1, p.missing - 1, (0x80, 0xBF), value⟩) rest
      -- The byte that breaks the character off is not counted with it.
      else .error ⟨p.first, position - p.read, p.read, .badContinuation⟩

/-- The text spelled by bytes. -/
def decode (bytes : List Nat) : Except Error String :=
  (decodeFrom 0 none bytes).map String.ofList

end Transcript.Utf8
