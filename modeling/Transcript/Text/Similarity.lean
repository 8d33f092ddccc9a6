import Transcript.Text.Search

/-!
# How alike two texts are

Two texts are compared by the runs of characters that they have in common: the longest run counts
first, and then the runs to the left and to the right of it. The likeness is the share of the
characters of both texts that belong to such runs.

## Main definitions

- `Chars.longestRun`: the longest run that two texts have in common
- `Chars.commonCount`: how many characters belong to common runs
- `Text.closeMatches`: the candidates that are most like a text
-/

namespace Transcript

namespace Chars

/-- How many characters two texts have in common at their beginning. -/
def commonStart : List Char → List Char → Nat
  | a :: as, b :: bs => if a = b then commonStart as bs + 1 else 0
  | _, _ => 0

/-- A run that two texts have in common: where it starts in each of them, and its length. -/
structure CommonRun where
  /-- Where it starts in the first text. -/
  left : Nat := 0
  /-- Where it starts in the second text. -/
  right : Nat := 0
  /-- Its length. -/
  length : Nat := 0

/-- The longest run that two texts have in common; of several the one that starts first in the first
text, and then in the second one. -/
def longestRun (a b : List Char) : CommonRun :=
  let places := (List.range a.length).flatMap fun i => (List.range b.length).map fun j => (i, j)
  places.foldl
    (fun best (i, j) =>
      let length := commonStart (a.drop i) (b.drop j)
      -- The comparison is strict, so the first of several longest runs stays.
      if best.length < length then ⟨i, j, length⟩ else best)
    {}

/-- How many characters of either text belong to common runs; `fuel` bounds the number of runs on
top of one another. -/
def commonCountFrom : Nat → List Char → List Char → Nat
  | 0, _, _ => 0
  | fuel + 1, a, b =>
    let run := longestRun a b
    if run.length = 0 then 0
    else
      commonCountFrom fuel (a.take run.left) (b.take run.right) + run.length +
        commonCountFrom fuel (a.drop (run.left + run.length)) (b.drop (run.right + run.length))

/-- How many characters of either text belong to common runs. -/
def commonCount (a b : List Char) : Nat :=
  commonCountFrom a.length a b

/-- The share of the characters of two texts that belong to common runs. -/
def likeness (a b : List Char) : Rat :=
  if a.isEmpty && b.isEmpty then 1
  else (2 * commonCount a b : Nat) / ((a.length + b.length : Nat) : Rat)

end Chars

namespace Text

/-- How many candidates are taken at most. -/
def closeLimit : Nat := 3

/-- Whether a candidate goes before another one: it is more alike, or as alike and later in the
order of texts. -/
def isCloser (a b : Rat × String) : Bool :=
  b.1 < a.1 || (a.1 == b.1 && !(a.2 < b.2))

/-- The candidates that are most like a text, the most alike first: those that share three fifths of
their characters with it. -/
def closeMatches (s : String) (candidates : List String) : List String :=
  let rated := candidates.map fun c => (Chars.likeness c.toList s.toList, c)
  let close := rated.filter fun (likeness, _) => 3 / 5 ≤ likeness
  ((close.mergeSort isCloser).take closeLimit).map Prod.snd

end Text

end Transcript
