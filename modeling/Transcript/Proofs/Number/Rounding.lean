import Mathlib.Algebra.Order.Field.Power
import Mathlib.Data.Rat.Floor
import Mathlib.Tactic.FieldSimp
import Mathlib.Tactic.Linarith
import Mathlib.Tactic.Positivity
import Transcript.Number.Decimal

/-!
# Rounding keeps the order

Numbers are rounded to whole numbers, to decimal places, and to binary fractions. The unit in the
last place of a binary fraction grows with the number, so that numbers of different sizes are
rounded to different grids; all the same, rounding never turns the order of two numbers around, and
what has been rounded once stays as it is.

## Main definitions

- `IsRounding`: a way to round, or not to round, the numbers from zero on

## Main results

- `roundHalfEven_mono`, `roundPlaces_mono`: rounding on a fixed grid keeps the order
- `unitExponent_spec`: the size of a number against its unit in the last place
- `isRounding_nearestBinary`: binary fractions round the numbers from zero on
-/

namespace Transcript.Number

/-- A way to round the numbers from zero on: it keeps their order, is done with after one step, and
leaves zero and one alone. -/
structure IsRounding (round : Rat → Rat) : Prop where
  /-- The order is kept. -/
  mono : ∀ {p q : Rat}, 0 ≤ p → p ≤ q → round p ≤ round q
  /-- What has been rounded stays as it is. -/
  settled : ∀ {q : Rat}, 0 ≤ q → round (round q) = round q
  /-- Zero stays zero. -/
  zero : round 0 = 0
  /-- One stays one. -/
  one : round 1 = 1

namespace IsRounding

/-- No rounding at all. -/
theorem id : IsRounding id where
  mono _ h := h
  settled _ := rfl
  zero := rfl
  one := rfl

variable {round : Rat → Rat} {q : Rat}

theorem nonneg (h : IsRounding round) (hq : 0 ≤ q) : 0 ≤ round q := by
  have hmono := h.mono (Rat.le_refl) hq
  rwa [h.zero] at hmono

theorem one_le (h : IsRounding round) (hq : 1 ≤ q) : 1 ≤ round q := by
  have hmono := h.mono (by decide) hq
  rwa [h.one] at hmono

end IsRounding

/-! ## Whole numbers -/

/-- The nearest whole number is one of the two around the number. -/
theorem roundHalfEven_bounds (q : Rat) :
    q.floor ≤ roundHalfEven q ∧ roundHalfEven q ≤ q.floor + 1 := by
  unfold roundHalfEven
  dsimp only
  split_ifs <;> omega

theorem roundHalfEven_mono {p q : Rat} (h : p ≤ q) : roundHalfEven p ≤ roundHalfEven q := by
  have hfloor : p.floor ≤ q.floor := Rat.floor_monotone h
  rcases hfloor.lt_or_eq with hlt | heq
  · -- There is a whole number between the two.
    have hp := (roundHalfEven_bounds p).2
    have hq := (roundHalfEven_bounds q).1
    omega
  · -- Between the same whole numbers, the larger one is rounded up if the smaller one is.
    have hrest : p - p.floor ≤ q - q.floor := by
      rw [heq]
      linarith
    unfold roundHalfEven
    dsimp only
    rw [heq] at hrest ⊢
    split_ifs <;> first | omega | linarith

@[simp] theorem roundHalfEven_intCast (n : Int) : roundHalfEven n = n := by
  simp [roundHalfEven]

/-! ## Decimal places -/

theorem roundPlaces_mono (places : Nat) {p q : Rat} (h : p ≤ q) :
    roundPlaces places p ≤ roundPlaces places q := by
  have hscale : (0 : Rat) ≤ (Nat.pow 10 places : Nat) := by positivity
  have hunits := roundHalfEven_mono (mul_le_mul_of_nonneg_right h hscale)
  exact div_le_div_of_nonneg_right (by exact_mod_cast hunits) hscale

/-- A whole number has no places to be rounded. -/
@[simp] theorem roundPlaces_intCast (places : Nat) (n : Int) : roundPlaces places n = n := by
  have hscale : ((Nat.pow 10 places : Nat) : Rat) ≠ 0 := by
    simp
  have hunits : (n : Rat) * (Nat.pow 10 places : Nat) =
      ((n * (Nat.pow 10 places : Nat) : Int) : Rat) := by
    push_cast
    rfl
  rw [roundPlaces, hunits, roundHalfEven_intCast, ← hunits, mul_div_cancel_right₀ _ hscale]

/-- Numbers are not rounded below a whole number. -/
theorem intCast_le_roundPlaces (places : Nat) {n : Int} {q : Rat} (h : n ≤ q) :
    n ≤ roundPlaces places q := by
  have hmono := roundPlaces_mono places h
  rwa [roundPlaces_intCast] at hmono

theorem roundPlaces_nonneg (places : Nat) {q : Rat} (h : 0 ≤ q) : 0 ≤ roundPlaces places q := by
  exact_mod_cast intCast_le_roundPlaces (n := 0) places (by exact_mod_cast h)

theorem one_le_roundPlaces (places : Nat) {q : Rat} (h : 1 ≤ q) : 1 ≤ roundPlaces places q := by
  exact_mod_cast intCast_le_roundPlaces (n := 1) places (by exact_mod_cast h)

/-! ## Binary fractions -/

theorem powerOfTwo_eq (e : Int) : powerOfTwo e = (2 : Rat) ^ e := by
  unfold powerOfTwo
  split
  case isTrue h =>
    obtain ⟨n, rfl⟩ := Int.eq_ofNat_of_zero_le h
    simp
  case isFalse h =>
    obtain ⟨n, hn⟩ := Int.eq_ofNat_of_zero_le (show 0 ≤ -e by omega)
    obtain rfl : e = -(n : Int) := by omega
    simp

/-- The leading bit of a positive number, from the bit lengths of its numerator and denominator. -/
theorem exists_leading_bit {q : Rat} (hq : 0 < q) :
    let guess : Int := (q.num.toNat.log2 : Int) - (q.den.log2 : Int)
    (2 : Rat) ^ (guess - 1) ≤ q ∧ q < (2 : Rat) ^ (guess + 1) := by
  have hnum : 0 < q.num := Rat.num_pos.mpr hq
  have hcast : ((q.num.toNat : Nat) : Rat) = (q.num : Rat) := by
    exact_mod_cast Int.toNat_of_nonneg hnum.le
  have hden : (0 : Rat) < q.den := by exact_mod_cast q.den_pos
  have heq : (q.num.toNat : Rat) / q.den = q := by
    rw [hcast, Rat.num_div_den]
  -- Each of the two numbers lies between two powers of two.
  have hnumLow : (2 : Rat) ^ q.num.toNat.log2 ≤ q.num.toNat := by
    exact_mod_cast Nat.log2_self_le (by omega)
  have hnumHigh : (q.num.toNat : Rat) < (2 : Rat) ^ (q.num.toNat.log2 + 1) := by
    exact_mod_cast Nat.lt_log2_self
  have hdenLow : (2 : Rat) ^ q.den.log2 ≤ q.den := by
    exact_mod_cast Nat.log2_self_le q.den_nz
  have hdenHigh : (q.den : Rat) < (2 : Rat) ^ (q.den.log2 + 1) := by
    exact_mod_cast Nat.lt_log2_self
  intro guess
  constructor
  · calc (2 : Rat) ^ (guess - 1)
        = (2 : Rat) ^ q.num.toNat.log2 / (2 : Rat) ^ (q.den.log2 + 1) := by
          rw [← zpow_natCast, ← zpow_natCast, ← zpow_sub₀ two_ne_zero]
          congr 1
          push_cast
          omega
      _ ≤ (q.num.toNat : Rat) / q.den := by gcongr
      _ = q := heq
  · calc q = (q.num.toNat : Rat) / q.den := heq.symm
      _ < (2 : Rat) ^ (q.num.toNat.log2 + 1) / (2 : Rat) ^ q.den.log2 := by gcongr
      _ = (2 : Rat) ^ (guess + 1) := by
          rw [← zpow_natCast, ← zpow_natCast, ← zpow_sub₀ two_ne_zero]
          congr 1
          push_cast
          omega

/-- A positive number is less than two to the power 53 of its units in the last place, and at least
half of that unless the unit is the smallest there is. -/
theorem unitExponent_spec {q : Rat} (hq : 0 < q) :
    -1074 ≤ unitExponent q ∧ q < (2 : Rat) ^ (unitExponent q + 53) ∧
      (unitExponent q = -1074 ∨ (2 : Rat) ^ (unitExponent q + 52) ≤ q) := by
  obtain ⟨hlow, hhigh⟩ := exists_leading_bit hq
  unfold unitExponent
  dsimp only
  simp only [powerOfTwo_eq]
  generalize (q.num.toNat.log2 : Int) - (q.den.log2 : Int) = guess at hlow hhigh ⊢
  -- One comparison finds the leading bit.
  obtain ⟨leading, hleading, hbelow, habove⟩ : ∃ leading : Int,
      (if (2 : Rat) ^ guess ≤ q then guess else guess - 1) = leading ∧ (2 : Rat) ^ leading ≤ q ∧
        q < (2 : Rat) ^ (leading + 1) := by
    split
    case isTrue h => exact ⟨guess, rfl, h, hhigh⟩
    case isFalse h => exact ⟨guess - 1, rfl, hlow, by simpa using h⟩
  rw [hleading]
  have hone : (1 : Rat) ≤ 2 := by norm_num
  refine ⟨le_max_right _ _, habove.trans_le (zpow_le_zpow_right₀ hone (by omega)), ?_⟩
  rcases le_total (leading - 52) (-1074) with h | h
  · exact .inl (max_eq_right h)
  · refine .inr ?_
    rwa [max_eq_left h, sub_add_cancel]

/-- A larger number has no smaller unit. -/
theorem unitExponent_mono {p q : Rat} (hp : 0 < p) (h : p ≤ q) :
    unitExponent p ≤ unitExponent q := by
  obtain ⟨-, -, hsize⟩ := unitExponent_spec hp
  obtain ⟨hleast, hbelow, -⟩ := unitExponent_spec (hp.trans_le h)
  rcases hsize with hleast' | hsize
  · omega
  · -- Otherwise the larger number were below the smaller one.
    have hpowers : (2 : Rat) ^ (unitExponent p + 52) < (2 : Rat) ^ (unitExponent q + 53) :=
      (hsize.trans h).trans_lt hbelow
    have hexponents := (zpow_lt_zpow_iff_right₀ (by norm_num)).mp hpowers
    omega

/-- A positive number in units of its last place. -/
def inUnits (q : Rat) : Rat := q / (2 : Rat) ^ unitExponent q

theorem nearestBinary_zero : nearestBinary 0 = 0 := if_pos rfl

theorem nearestBinary_of_pos {q : Rat} (hq : 0 < q) :
    nearestBinary q = (roundHalfEven (inUnits q) : Rat) * (2 : Rat) ^ unitExponent q := by
  rw [nearestBinary, if_neg hq.ne', if_neg (not_lt.mpr hq.le), if_neg (not_lt.mpr hq.le),
    powerOfTwo_eq, inUnits]

/-- A whole number of units is a binary fraction. -/
theorem nearestBinary_eq_self {m : Nat} {e : Int} (hm : m < 2 ^ 53) (he : -1074 ≤ e) :
    nearestBinary (m * (2 : Rat) ^ e) = m * (2 : Rat) ^ e := by
  rcases Nat.eq_zero_or_pos m with rfl | hpos
  · simp [nearestBinary_zero]
  · have hq : (0 : Rat) < m * (2 : Rat) ^ e := by positivity
    -- The unit in the last place is no larger than the given one.
    have hunit : unitExponent (m * (2 : Rat) ^ e) ≤ e := by
      obtain ⟨-, -, hleast | hsize⟩ := unitExponent_spec hq
      · omega
      · have hbelow : (m : Rat) * (2 : Rat) ^ e < (2 : Rat) ^ (53 + e) := by
          rw [zpow_add₀ two_ne_zero]
          gcongr
          exact_mod_cast hm
        have hexponents := (zpow_lt_zpow_iff_right₀ (by norm_num)).mp (hsize.trans_lt hbelow)
        omega
    obtain ⟨n, hn⟩ := Int.eq_ofNat_of_zero_le
      (show 0 ≤ e - unitExponent (m * (2 : Rat) ^ e) by omega)
    have hwhole : inUnits (m * (2 : Rat) ^ e) = ((m * 2 ^ n : Int) : Rat) := by
      rw [inUnits, mul_div_assoc, ← zpow_sub₀ two_ne_zero, hn]
      push_cast
      rfl
    rw [nearestBinary_of_pos hq, hwhole, roundHalfEven_intCast, ← hwhole, inUnits,
      div_mul_cancel₀ _ (by positivity)]

/-- A positive number has at most two to the power 53 units, and at least half of that unless its
unit is the smallest there is. -/
theorem roundHalfEven_inUnits {q : Rat} (hq : 0 < q) :
    0 ≤ roundHalfEven (inUnits q) ∧ roundHalfEven (inUnits q) ≤ 2 ^ 53 ∧
      (unitExponent q = -1074 ∨ 2 ^ 52 ≤ roundHalfEven (inUnits q)) := by
  obtain ⟨-, hbelow, hsize⟩ := unitExponent_spec hq
  have hunit : (0 : Rat) < (2 : Rat) ^ unitExponent q := by positivity
  refine ⟨?_, ?_, hsize.imp_right fun hsize => ?_⟩
  · have hmono := roundHalfEven_mono (show ((0 : Int) : Rat) ≤ inUnits q by
      rw [inUnits, Int.cast_zero]
      positivity)
    rwa [roundHalfEven_intCast] at hmono
  · have hmono := roundHalfEven_mono (show inUnits q ≤ ((2 ^ 53 : Int) : Rat) by
      rw [add_comm, zpow_add₀ two_ne_zero] at hbelow
      rw [inUnits, div_le_iff₀ hunit]
      exact_mod_cast hbelow.le)
    rwa [roundHalfEven_intCast] at hmono
  · have hmono := roundHalfEven_mono (show ((2 ^ 52 : Int) : Rat) ≤ inUnits q by
      rw [add_comm, zpow_add₀ two_ne_zero] at hsize
      rw [inUnits, le_div_iff₀ hunit]
      exact_mod_cast hsize)
    rwa [roundHalfEven_intCast] at hmono

theorem nearestBinary_nonneg {q : Rat} (hq : 0 ≤ q) : 0 ≤ nearestBinary q := by
  rcases hq.eq_or_lt with rfl | hpos
  · exact nearestBinary_zero.ge
  · have hcount : (0 : Rat) ≤ roundHalfEven (inUnits q) := by
      exact_mod_cast (roundHalfEven_inUnits hpos).1
    rw [nearestBinary_of_pos hpos]
    positivity

theorem nearestBinary_mono {p q : Rat} (hp : 0 ≤ p) (h : p ≤ q) :
    nearestBinary p ≤ nearestBinary q := by
  rcases hp.eq_or_lt with rfl | hpos
  · rw [nearestBinary_zero]
    exact nearestBinary_nonneg h
  · have hqpos : 0 < q := hpos.trans_le h
    rw [nearestBinary_of_pos hpos, nearestBinary_of_pos hqpos]
    rcases (unitExponent_mono hpos h).eq_or_lt with heq | hlt
    · -- On one grid, the numbers of units are in order.
      have hunits : inUnits p ≤ inUnits q := by
        rw [inUnits, inUnits, heq]
        gcongr
      have hcounts : (roundHalfEven (inUnits p) : Rat) ≤ roundHalfEven (inUnits q) := by
        exact_mod_cast roundHalfEven_mono hunits
      rw [heq]
      gcongr
    · -- On two grids, the power of two where the coarser one begins stands between the numbers.
      have hlow : (roundHalfEven (inUnits p) : Rat) ≤ (2 : Rat) ^ (53 : Int) := by
        exact_mod_cast (roundHalfEven_inUnits hpos).2.1
      have hhigh : (2 : Rat) ^ (52 : Int) ≤ roundHalfEven (inUnits q) := by
        have hleast := (unitExponent_spec hpos).1
        exact_mod_cast (roundHalfEven_inUnits hqpos).2.2.resolve_left (by omega)
      calc (roundHalfEven (inUnits p) : Rat) * (2 : Rat) ^ unitExponent p
          ≤ (2 : Rat) ^ (53 : Int) * (2 : Rat) ^ unitExponent p := by gcongr
        _ = (2 : Rat) ^ (53 + unitExponent p) := (zpow_add₀ two_ne_zero _ _).symm
        _ ≤ (2 : Rat) ^ (52 + unitExponent q) := zpow_le_zpow_right₀ (by norm_num) (by omega)
        _ = (2 : Rat) ^ (52 : Int) * (2 : Rat) ^ unitExponent q := zpow_add₀ two_ne_zero _ _
        _ ≤ roundHalfEven (inUnits q) * (2 : Rat) ^ unitExponent q := by gcongr

theorem nearestBinary_settled {q : Rat} (hq : 0 ≤ q) :
    nearestBinary (nearestBinary q) = nearestBinary q := by
  rcases hq.eq_or_lt with rfl | hpos
  · rw [nearestBinary_zero, nearestBinary_zero]
  · obtain ⟨hnonneg, hle, -⟩ := roundHalfEven_inUnits hpos
    have hleast := (unitExponent_spec hpos).1
    obtain ⟨m, hm⟩ := Int.eq_ofNat_of_zero_le hnonneg
    rw [nearestBinary_of_pos hpos, hm, Int.cast_natCast]
    rcases (show m ≤ 2 ^ 53 by omega).lt_or_eq with hlt | heq
    · exact nearestBinary_eq_self hlt hleast
    · -- Rounded up to the next power of two, the number has a unit twice as large.
      have hhalf : (m : Rat) * (2 : Rat) ^ unitExponent q =
          ((2 ^ 52 : Nat) : Rat) * (2 : Rat) ^ (unitExponent q + 1) := by
        rw [heq, zpow_add₀ two_ne_zero]
        push_cast
        ring
      rw [hhalf]
      exact nearestBinary_eq_self (by norm_num) (by omega)

/-- Binary fractions round the numbers from zero on. -/
theorem isRounding_nearestBinary : IsRounding nearestBinary where
  mono := nearestBinary_mono
  settled := nearestBinary_settled
  zero := nearestBinary_zero
  one := by simpa using nearestBinary_eq_self (m := 1) (e := 0) (by norm_num) (by norm_num)

end Transcript.Number
