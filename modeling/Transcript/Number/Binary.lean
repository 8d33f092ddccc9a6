/-!
# Binary fractions

Measured quantities (times, confidences) are read from decimal text and held as binary fractions
of 53 significant bits. A number here is the exact rational that such a fraction denotes, so that
comparison, addition and printing need no approximate arithmetic; only reading rounds.

## Main definitions

- `roundHalfEven`: the nearest whole number, a half going to the even neighbour
- `nearestBinary`: the nearest fraction of 53 significant bits
- `Quantity`: a fraction, a zero below zero, one of the two infinities, or no number at all
- `Quantity.add`: the rounded sum
-/

namespace Transcript.Number

/-- The nearest whole number; a half goes to the even neighbour. -/
def roundHalfEven (q : Rat) : Int :=
  let below := q.floor
  let rest := q - below
  if rest < 1 / 2 then below
  else if 1 / 2 < rest then below + 1
  else if below % 2 = 0 then below else below + 1

/-- Two to the power `e`. -/
def powerOfTwo (e : Int) : Rat :=
  if 0 ≤ e then ((Nat.pow 2 e.toNat : Nat) : Rat) else 1 / ((Nat.pow 2 (-e).toNat : Nat) : Rat)

/-- Ten to the power `e`. -/
def powerOfTen (e : Int) : Rat :=
  if 0 ≤ e then ((Nat.pow 10 e.toNat : Nat) : Rat) else 1 / ((Nat.pow 10 (-e).toNat : Nat) : Rat)

/-- The exponent of the unit in the last place of a positive number: its leading bit less 52, and
no smaller than `-1074`. The two bit lengths leave a choice of two leading bits, which one
comparison settles. -/
def unitExponent (q : Rat) : Int :=
  let guess : Int := (q.num.toNat.log2 : Int) - (q.den.log2 : Int)
  -- The guess is the leading bit or one above it.
  let leading := if powerOfTwo guess ≤ q then guess else guess - 1
  max (leading - 52) (-1074)

/-- The nearest fraction of 53 significant bits, a tie going to the even one. -/
def nearestBinary (q : Rat) : Rat :=
  if q = 0 then 0
  else
    let size := if q < 0 then -q else q
    let unit := powerOfTwo (unitExponent size)
    let rounded := (roundHalfEven (size / unit) : Rat) * unit
    if q < 0 then -rounded else rounded

/-- The first size that is too large for a finite fraction. -/
def overflowBound : Rat := powerOfTwo 1024

/-- A measured quantity. -/
inductive Quantity where
  /-- A finite value. -/
  | finite (value : Rat)
  /-- Zero, reached from below. -/
  | negativeZero
  /-- Larger than every finite value. -/
  | infinite
  /-- Smaller than every finite value. -/
  | negativeInfinite
  /-- No number at all. -/
  | undefined
  deriving DecidableEq, Inhabited

namespace Quantity

/-- The quantity nearest to a rational number. -/
def ofRat (q : Rat) : Quantity :=
  let rounded := nearestBinary q
  if overflowBound ≤ rounded then infinite
  else if rounded ≤ -overflowBound then negativeInfinite
  else if rounded = 0 ∧ q < 0 then negativeZero
  else finite rounded

/-- The quantity nearest to a size with a sign; a zero keeps its sign. -/
def ofSize (negative : Bool) (size : Rat) : Quantity :=
  if !negative then ofRat size else if size = 0 then negativeZero else ofRat (-size)

/-- The finite value of a quantity, if it has one. -/
def value? : Quantity → Option Rat
  | finite value => some value
  | negativeZero => some 0
  | _ => none

/-- The rounded sum. Zeros from below add up to one, and opposite infinities to no number. -/
def add : Quantity → Quantity → Quantity
  | negativeZero, negativeZero => negativeZero
  | undefined, _ | _, undefined => undefined
  | infinite, negativeInfinite | negativeInfinite, infinite => undefined
  | infinite, _ | _, infinite => infinite
  | negativeInfinite, _ | _, negativeInfinite => negativeInfinite
  | a, b => ofRat (a.value?.getD 0 + b.value?.getD 0)

/-- Whether the quantity is smaller than another one, as it never is for one that is no number. -/
def isLess : Quantity → Quantity → Bool
  | undefined, _ | _, undefined => false
  | negativeInfinite, b => b != negativeInfinite
  | a, infinite => a != infinite
  | infinite, _ | _, negativeInfinite => false
  | a, b => a.value?.getD 0 < b.value?.getD 0

/-- Whether a finite value exceeds the quantity, as it never does for one that is no number. -/
def exceededBy (value : Rat) (bound : Quantity) : Bool :=
  bound.isLess (finite value)

/-- Whether the quantity is greater than zero. -/
def isPositive (q : Quantity) : Bool :=
  (finite 0).isLess q

/-- Whether the quantity is a zero. -/
def isZero (q : Quantity) : Bool :=
  q.value? == some 0

end Quantity

end Transcript.Number
