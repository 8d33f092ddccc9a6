import Transcript.Number.Amount
import Transcript.Proofs.Number.Rounding

/-!
# What amounts stand for

Amounts are compared by their values. Sums of amounts are rounded, and may leave the finite values
behind; but where all that matters is how they compare with one, that is no loss. An amount *stands
for* a number if it is that number, or if both reach one. Sums and rounded amounts then stand for
rounded sums and rounded numbers, and cut at one they are just these.

## Main definitions

- `Amount.value?`: the number that an amount is
- `Quantity.StandsFor`, `Amount.StandsFor`: the amount is the number, or both reach one

## Main results

- `Amount.isLess_iff`: amounts are compared by their values
- `Amount.StandsFor.add`, `Amount.StandsFor.rounded`: what sums and rounded amounts stand for
- `Amount.StandsFor.value?_atMost_one`: the value of an amount cut at one
-/

namespace Transcript.Number

namespace Quantity

/-- Finite quantities are compared by their values. -/
theorem isLess_iff {p q : Quantity} {x y : Rat} (hp : p.value? = some x) (hq : q.value? = some y) :
    p.isLess q = true ↔ x < y := by
  cases p <;> cases q <;> simp_all [value?, isLess]

/-! ## Bounds from below -/

/-- Whether a quantity is at least some value, as one beyond all finite values is. -/
def AtLeast (q : Quantity) (bound : Rat) : Prop :=
  q = .infinite ∨ ∃ value, q.value? = some value ∧ bound ≤ value

theorem AtLeast.of_le {q : Quantity} {bound other : Rat} (h : q.AtLeast bound)
    (hle : other ≤ bound) : q.AtLeast other :=
  h.imp_right fun ⟨value, hvalue, hbound⟩ => ⟨value, hvalue, hle.trans hbound⟩

theorem one_le_overflowBound : 1 ≤ overflowBound := by
  rw [overflowBound, powerOfTwo_eq]
  exact one_le_zpow₀ (by norm_num) (by norm_num)

/-- The quantity nearest to a number from zero on has the rounded value, unless it is too large. -/
theorem ofRat_cases {x : Rat} (hx : 0 ≤ x) :
    (ofRat x).value? = some (nearestBinary x) ∨
      ofRat x = .infinite ∧ overflowBound ≤ nearestBinary x := by
  have hnonneg := nearestBinary_nonneg hx
  have hbound : 0 < overflowBound := one_pos.trans_le one_le_overflowBound
  unfold ofRat
  dsimp only
  rw [if_neg (show ¬ nearestBinary x ≤ -overflowBound by linarith),
    if_neg (show ¬ (nearestBinary x = 0 ∧ x < 0) from fun h => absurd h.2 (not_lt.mpr hx))]
  split
  case isTrue h => exact .inr ⟨rfl, h⟩
  case isFalse => exact .inl rfl

theorem atLeast_ofRat {x bound : Rat} (hx : 0 ≤ x) (h : bound ≤ nearestBinary x) :
    (ofRat x).AtLeast bound := by
  rcases ofRat_cases hx with hvalue | ⟨hinfinite, -⟩
  · exact .inr ⟨_, hvalue, h⟩
  · exact .inl hinfinite

/-- The sum of two finite quantities is the nearest one to the sum of their values, but that zeros
from below add up to another one. -/
theorem add_of_value? {p q : Quantity} {x y : Rat} (hp : p.value? = some x)
    (hq : q.value? = some y) :
    p.add q = .ofRat (x + y) ∨ p.add q = .negativeZero ∧ x = 0 ∧ y = 0 := by
  cases p <;> cases q <;> simp_all [value?, add]

theorem AtLeast.add {p q : Quantity} {x y : Rat} (hp : p.AtLeast x) (hq : q.AtLeast y)
    (hx : 0 ≤ x) (hy : 0 ≤ y) : (p.add q).AtLeast (nearestBinary (x + y)) := by
  rcases hp with rfl | ⟨v, hv, hxv⟩
  · -- With one that is beyond all values, the sum is so too.
    refine .inl ?_
    rcases hq with rfl | ⟨w, hw, -⟩
    · rfl
    · cases q <;> first | rfl | cases hw
  · rcases hq with rfl | ⟨w, hw, hyw⟩
    · refine .inl ?_
      cases p <;> first | rfl | cases hv
    · have hmono : nearestBinary (x + y) ≤ nearestBinary (v + w) :=
        nearestBinary_mono (add_nonneg hx hy) (add_le_add hxv hyw)
      rcases add_of_value? hv hw with hsum | ⟨hsum, rfl, rfl⟩
      · rw [hsum]
        exact atLeast_ofRat (by linarith) hmono
      · rw [add_zero, nearestBinary_zero] at hmono
        exact .inr ⟨0, by rw [hsum]; rfl, hmono⟩

/-! ## Quantities for numbers -/

/-- A quantity stands for a number if it is that number, or if both reach one. -/
def StandsFor (q : Quantity) (x : Rat) : Prop :=
  q.value? = some x ∨ q.AtLeast 1 ∧ 1 ≤ x

variable {p q : Quantity} {x y : Rat}

theorem StandsFor.atLeast (h : q.StandsFor x) (hx : 0 ≤ x) : q.AtLeast 0 := by
  rcases h with hvalue | ⟨hone, -⟩
  · exact .inr ⟨x, hvalue, hx⟩
  · exact hone.of_le (by norm_num)

theorem standsFor_ofRat (hx : 0 ≤ x) : (ofRat x).StandsFor (nearestBinary x) := by
  rcases ofRat_cases hx with hvalue | ⟨hinfinite, hbound⟩
  · exact .inl hvalue
  · exact .inr ⟨.inl hinfinite, one_le_overflowBound.trans hbound⟩

/-- A sum stands for the rounded sum. -/
theorem StandsFor.add (hp : p.StandsFor x) (hq : q.StandsFor y) (hx : 0 ≤ x) (hy : 0 ≤ y) :
    (p.add q).StandsFor (nearestBinary (x + y)) := by
  have hone : nearestBinary 1 = 1 := isRounding_nearestBinary.one
  rcases hp with hvalue | ⟨hpone, hxone⟩
  · rcases hq with hvalue' | ⟨hqone, hyone⟩
    · rcases add_of_value? hvalue hvalue' with hsum | ⟨hsum, rfl, rfl⟩
      · rw [hsum]
        exact standsFor_ofRat (add_nonneg hx hy)
      · rw [hsum, add_zero, nearestBinary_zero]
        exact .inl rfl
    · -- One of the two reaches one, and so does the sum.
      have hsum := AtLeast.add (.inr ⟨x, hvalue, hx⟩) hqone le_rfl zero_le_one
      rw [zero_add, hone] at hsum
      exact .inr ⟨hsum, isRounding_nearestBinary.one_le (by linarith)⟩
  · have hsum := hpone.add (hq.atLeast hy) zero_le_one le_rfl
    rw [add_zero, hone] at hsum
    exact .inr ⟨hsum, isRounding_nearestBinary.one_le (by linarith)⟩

theorem roundQuantity_finite (places : Nat) (hx : 0 ≤ x) :
    Amount.roundQuantity places (.finite x) = .ofRat (roundPlaces places x) := by
  simp [Amount.roundQuantity, ofSize, not_lt.mpr hx]

theorem AtLeast.rounded (h : q.AtLeast 1) (places : Nat) :
    (Amount.roundQuantity places q).AtLeast 1 := by
  rcases h with rfl | ⟨v, hv, hone⟩
  · exact .inl rfl
  · cases q <;> cases hv
    · rw [roundQuantity_finite places (zero_le_one.trans hone)]
      have hplaces := one_le_roundPlaces places hone
      exact atLeast_ofRat (by linarith) (isRounding_nearestBinary.one_le hplaces)
    · -- A zero from below does not reach one.
      exact absurd hone (by norm_num)

/-- A rounded quantity stands for the number rounded in the same way. -/
theorem StandsFor.rounded (h : q.StandsFor x) (hx : 0 ≤ x) (places : Nat) :
    (Amount.roundQuantity places q).StandsFor (nearestBinary (roundPlaces places x)) := by
  rcases h with hvalue | ⟨hone, hxone⟩
  · cases q <;> cases hvalue
    · rw [roundQuantity_finite places hx]
      exact standsFor_ofRat (roundPlaces_nonneg places hx)
    · have hzero := roundPlaces_intCast places 0
      rw [Int.cast_zero] at hzero
      rw [hzero, nearestBinary_zero]
      exact .inl rfl
  · exact .inr ⟨hone.rounded places,
      isRounding_nearestBinary.one_le (one_le_roundPlaces places hxone)⟩

end Quantity

namespace Amount

/-- The number that an amount is, if it is one. -/
def value? : Amount → Option Rat
  | whole n => some n
  | measured q => q.value?

theorem value?_zero : zero.value? = some 0 := by
  simp [zero, value?]

theorem value?_one : one.value? = some 1 := rfl

theorem quantity?_zero : zero.quantity? = some (.finite 0) := by
  have hbound : ¬overflowBound ≤ 0 := not_le.mpr (one_pos.trans_le Quantity.one_le_overflowBound)
  simp [zero, quantity?, quantityOfInteger?, Quantity.ofRat, nearestBinary_zero, hbound]

/-- Amounts are compared by their values. -/
theorem isLess_iff {a b : Amount} {x y : Rat} (ha : a.value? = some x) (hb : b.value? = some y) :
    a.isLess b = true ↔ x < y := by
  cases a <;> cases b
  · cases ha
    cases hb
    simp [isLess]
  · exact Quantity.isLess_iff ha hb
  · exact Quantity.isLess_iff ha hb
  · exact Quantity.isLess_iff ha hb

/-! ## Amounts for numbers -/

/-- An amount stands for a number if it is that number, or if both reach one. -/
def StandsFor : Amount → Rat → Prop
  | whole n, x => n = x ∨ 1 ≤ n ∧ 1 ≤ x
  | measured q, x => q.StandsFor x

variable {a b sum : Amount} {x y : Rat}

theorem standsFor_of_value? (h : a.value? = some x) : a.StandsFor x := by
  cases a
  · exact .inl (Option.some.inj h)
  · exact .inl h

/-- A whole number that stands for a number is zero, as that number is, or both reach one. -/
theorem StandsFor.whole_cases {n : Int} (h : (whole n).StandsFor x) (hx : 0 ≤ x) :
    n = 0 ∧ x = 0 ∨ 1 ≤ n ∧ 1 ≤ x := by
  rcases h with rfl | hone
  · have hn : 0 ≤ n := by exact_mod_cast hx
    rcases hn.eq_or_lt with rfl | hpos
    · exact .inl ⟨rfl, Int.cast_zero⟩
    · exact .inr ⟨hpos, by exact_mod_cast hpos⟩
  · exact .inr hone

theorem ofRat_of_quantityOfInteger? {n : Int} {q : Quantity} (h : quantityOfInteger? n = some q) :
    q = .ofRat n := by
  unfold quantityOfInteger? at h
  split at h
  · rename_i hfinite
    rw [hfinite]
    exact (Option.some.inj h).symm
  · cases h

/-- What an amount stands for is not lost when it is measured. -/
theorem StandsFor.quantity? {q : Quantity} (h : a.StandsFor x) (hx : 0 ≤ x)
    (hq : a.quantity? = some q) : q.StandsFor x := by
  cases a with
  | measured p =>
    cases hq
    exact h
  | whole n =>
    obtain rfl := ofRat_of_quantityOfInteger? hq
    rcases h.whole_cases hx with ⟨rfl, rfl⟩ | ⟨hn, hone⟩
    · have hzero := Quantity.standsFor_ofRat le_rfl
      rw [nearestBinary_zero] at hzero
      rwa [Int.cast_zero]
    · have hn' : (1 : Rat) ≤ n := by exact_mod_cast hn
      exact .inr ⟨Quantity.atLeast_ofRat (by linarith) (isRounding_nearestBinary.one_le hn'), hone⟩

/-- A sum, if there is one, stands for the rounded sum. -/
theorem StandsFor.add (ha : a.StandsFor x) (hb : b.StandsFor y) (hx : 0 ≤ x) (hy : 0 ≤ y)
    (hsum : a.add? b = some sum) : sum.StandsFor (nearestBinary (x + y)) := by
  have hmeasured : ∀ {p q : Quantity}, a.quantity? = some p → b.quantity? = some q →
      (measured (p.add q)).StandsFor (nearestBinary (x + y)) := fun hp hq =>
    (ha.quantity? hx hp).add (hb.quantity? hy hq) hx hy
  unfold add? at hsum
  split at hsum
  · -- Whole numbers are added exactly, but unless their sum is zero both sums reach one.
    cases hsum
    rcases ha.whole_cases hx with ⟨rfl, rfl⟩ | ⟨hm, hxone⟩ <;>
      rcases hb.whole_cases hy with ⟨rfl, rfl⟩ | ⟨hn, hyone⟩
    · exact .inl (by simp [nearestBinary_zero])
    all_goals exact .inr ⟨by omega, isRounding_nearestBinary.one_le (by linarith)⟩
  · split at hsum
    · rename_i hp hq
      cases hsum
      exact hmeasured hp hq
    · cases hsum

/-- A rounded amount stands for the number rounded in the same way. -/
theorem StandsFor.rounded (h : a.StandsFor x) (hx : 0 ≤ x) (places : Nat) :
    (a.rounded places).StandsFor (nearestBinary (roundPlaces places x)) := by
  cases a with
  | measured q => exact Quantity.StandsFor.rounded h hx places
  | whole n =>
    rcases h.whole_cases hx with ⟨rfl, rfl⟩ | ⟨hn, hone⟩
    · have hzero := roundPlaces_intCast places 0
      rw [Int.cast_zero] at hzero
      exact .inl (by rw [hzero, nearestBinary_zero, Int.cast_zero])
    · exact .inr ⟨hn, isRounding_nearestBinary.one_le (one_le_roundPlaces places hone)⟩

/-- An amount cut at one is the number that it stands for, cut at one. -/
theorem StandsFor.value?_atMost_one (h : a.StandsFor x) :
    (a.atMost one).value? = some (min x 1) := by
  -- Either the amount has a value that is cut, or it is larger than one, and so is the number.
  have hcut : ∀ {v : Rat}, a.value? = some v → min v 1 = min x 1 →
      (a.atMost one).value? = some (min x 1) := by
    intro v hv hmin
    unfold atMost
    split
    · rename_i hless
      have hlt := (isLess_iff value?_one hv).mp hless
      rw [value?_one, ← hmin, min_eq_right hlt.le]
    · rename_i hless
      have hle := not_lt.mp fun hlt => hless ((isLess_iff value?_one hv).mpr hlt)
      rw [hv, ← hmin, min_eq_left hle]
  cases a with
  | whole n =>
    rcases h with rfl | ⟨hn, hone⟩
    · exact hcut rfl rfl
    · refine hcut rfl ?_
      rw [min_eq_right hone, min_eq_right (by exact_mod_cast hn)]
  | measured q =>
    rcases h with hvalue | ⟨rfl | ⟨v, hv, hvone⟩, hone⟩
    · exact hcut hvalue rfl
    · rw [min_eq_right hone]
      rfl
    · refine hcut hv ?_
      rw [min_eq_right hone, min_eq_right hvone]

end Amount

end Transcript.Number
