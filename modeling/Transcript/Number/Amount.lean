import Transcript.Number.Decimal

/-!
# Amounts

An amount is a whole number or a measured quantity. Whole numbers stay whole as long as nothing
measured is added to them, and are exact; measured quantities are rounded at every step.

## Main definitions

- `Amount`: a whole number or a quantity
- `Amount.add?`: the sum, if a whole number that meets a quantity is small enough for one
- `Amount.rounded`: the amount to some places
-/

namespace Transcript.Number

/-- A whole number or a measured quantity. -/
inductive Amount where
  /-- A whole number. -/
  | whole (value : Int)
  /-- A measured quantity. -/
  | measured (value : Quantity)
  deriving DecidableEq, Inhabited

/-- A whole number as a quantity, unless it is too large for one. -/
def quantityOfInteger? (n : Int) : Option Quantity :=
  match Quantity.ofRat n with
  | .finite value => some (.finite value)
  | _ => none

namespace Amount

/-- The amount of nothing. -/
def zero : Amount := whole 0

/-- The amount of one quantity. -/
def one : Amount := measured (.finite 1)

/-- The amount as a quantity, unless it is too large for one. -/
def quantity? : Amount → Option Quantity
  | whole n => quantityOfInteger? n
  | measured q => some q

/-- The sum of two amounts; there is none if a whole number is too large to be measured. -/
def add? (a b : Amount) : Option Amount :=
  match a, b with
  | whole m, whole n => some (whole (m + n))
  | a, b =>
    match a.quantity?, b.quantity? with
    | some p, some q => some (measured (p.add q))
    | _, _ => none

/-- Whether an amount is smaller than another one. Whole numbers are compared exactly. -/
def isLess : Amount → Amount → Bool
  | whole m, whole n => m < n
  | measured p, measured q => p.isLess q
  | whole m, measured q => (Quantity.finite m).isLess q
  | measured p, whole n => p.isLess (.finite n)

/-- Whether two amounts are equal. Infinities equal themselves, and so does the lack of a number. -/
def isSame (a b : Amount) : Bool :=
  let exactValue? : Amount → Option Rat
    | whole n => some n
    | measured q => q.value?
  match exactValue? a, exactValue? b with
  | some x, some y => x = y
  | none, none => a = b
  | _, _ => false

/-- A quantity to some places, a half going to the even neighbour. -/
def roundQuantity (places : Nat) : Quantity → Quantity
  | .finite value => .ofSize (value < 0) (roundPlaces places (if value < 0 then -value else value))
  | q => q

/-- The amount to some places; whole numbers are what they are. -/
def rounded (places : Nat) : Amount → Amount
  | whole n => whole n
  | measured q => measured (roundQuantity places q)

/-- The amount, or `bound` if that is smaller. -/
def atMost (a bound : Amount) : Amount :=
  if bound.isLess a then bound else a

/-- The amount with a fixed number of places. -/
def fixedText (places : Nat) : Amount → String
  | whole n => Number.fixedText places (nearestBinary n)
  | measured q => q.fixedText places

end Amount

end Transcript.Number
