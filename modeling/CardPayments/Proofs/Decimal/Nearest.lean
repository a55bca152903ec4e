import Mathlib.Data.Rat.Cast.Order
import Mathlib.Tactic.Linarith
import Mathlib.Tactic.Positivity
import Mathlib.Tactic.Ring
import CardPayments.Decimal.Arithmetic

/-! # The nearest whole number

Rounding a quotient to the nearest whole number depends on the quotient only, and keeps the order of
quotients.  A quotient that is too large for a coefficient is still almost as large after it was
divided by ten: this is what makes sums of different scales comparable. -/
set_option autoImplicit false

namespace CardPayments.Decimal

theorem roundHalfEven_bounds (n d : ℕ) (positive : 0 < d) :
    2 * n ≤ (2 * roundHalfEven n d + 1) * d ∧ 2 * (roundHalfEven n d * d) ≤ 2 * n + d := by
  have split : n / d * d + n % d = n := Nat.div_add_mod' n d
  have small : n % d < d := Nat.mod_lt n positive
  simp only [roundHalfEven]
  generalize n / d = q at split ⊢
  generalize n % d = r at split small ⊢
  subst split
  split_ifs <;> constructor <;> nlinarith

theorem roundHalfEven_even (n d : ℕ) (positive : 0 < d)
    (tie : 2 * n = (2 * roundHalfEven n d + 1) * d ∨ 2 * (roundHalfEven n d * d) = 2 * n + d) :
    roundHalfEven n d % 2 = 0 := by
  have split : n / d * d + n % d = n := Nat.div_add_mod' n d
  have small : n % d < d := Nat.mod_lt n positive
  simp only [roundHalfEven] at tie ⊢
  generalize n / d = q at split tie ⊢
  generalize n % d = r at split small tie ⊢
  subst split
  split_ifs at tie ⊢ with below above even
  · rcases tie with tie | tie <;> nlinarith
  · rcases tie with tie | tie <;> nlinarith
  · exact even
  · omega

theorem roundHalfEven_le (n d m e : ℕ) (dPositive : 0 < d) (ePositive : 0 < e)
    (le : n * e ≤ m * d) : roundHalfEven n d ≤ roundHalfEven m e := by
  have lower := (roundHalfEven_bounds n d dPositive).2
  have upper := (roundHalfEven_bounds m e ePositive).1
  have lowerEven := roundHalfEven_even n d dPositive
  have upperEven := roundHalfEven_even m e ePositive
  generalize roundHalfEven n d = r at lower lowerEven ⊢
  generalize roundHalfEven m e = s at upper upperEven ⊢
  by_contra larger
  have product : 0 < d * e := Nat.mul_pos dPositive ePositive
  -- the two roundings can only be one apart, and then both quotients are the tie between them
  have chain : 2 * r * (d * e) ≤ 2 * (s + 1) * (d * e) := by nlinarith
  have next : r = s + 1 := by
    have := Nat.le_of_mul_le_mul_right chain product
    omega
  subst next
  have lowerTie : 2 * ((s + 1) * d) = 2 * n + d := by
    have : 2 * ((s + 1) * d) * e ≥ (2 * n + d) * e := by nlinarith
    exact Nat.le_antisymm lower (Nat.le_of_mul_le_mul_right this ePositive)
  have upperTie : 2 * m = (2 * s + 1) * e := by
    have : (2 * s + 1) * e * d ≤ 2 * m * d := by nlinarith
    exact Nat.le_antisymm upper (Nat.le_of_mul_le_mul_right this dPositive)
  have := lowerEven (Or.inr lowerTie)
  have := upperEven (Or.inl upperTie)
  omega

/-- The whole number nearest to a number that is not negative; a tie goes to the even neighbour. -/
def nearest (x : ℚ) : ℕ := roundHalfEven x.num.toNat x.den

theorem numerator_eq (x : ℚ) (nonneg : 0 ≤ x) : (x.num.toNat : ℚ) = x * x.den := by
  rw [Rat.mul_den_eq_num x]
  exact_mod_cast Int.toNat_of_nonneg (Rat.num_nonneg.mpr nonneg)

theorem nearest_le (x y : ℚ) (nonneg : 0 ≤ x) (le : x ≤ y) : nearest x ≤ nearest y := by
  apply roundHalfEven_le _ _ _ _ x.den_pos y.den_pos
  have cross : (x.num.toNat : ℚ) * y.den ≤ y.num.toNat * x.den := by
    rw [numerator_eq x nonneg, numerator_eq y (le_trans nonneg le)]
    have dens : (0 : ℚ) ≤ x.den * y.den := by positivity
    have := mul_le_mul_of_nonneg_right le dens
    linarith
  exact_mod_cast cross

theorem roundHalfEven_eq_nearest (n d : ℕ) (positive : 0 < d) (x : ℚ) (value : x * d = n) :
    roundHalfEven n d = nearest x := by
  have nonneg : 0 ≤ x := by
    by_contra negative
    have : x * d < 0 := mul_neg_of_neg_of_pos (not_le.mp negative) (by exact_mod_cast positive)
    have : (0 : ℚ) ≤ n := Nat.cast_nonneg n
    linarith
  have cross : n * x.den = x.num.toNat * d := by
    have : (n : ℚ) * x.den = x.num.toNat * d := by
      rw [numerator_eq x nonneg, ← value]
      ring
    exact_mod_cast this
  exact Nat.le_antisymm (roundHalfEven_le _ _ _ _ positive x.den_pos cross.le)
    (roundHalfEven_le _ _ _ _ x.den_pos positive cross.ge)

@[simp] theorem nearest_natCast (n : ℕ) : nearest (n : ℚ) = n := by
  simp [nearest, roundHalfEven, Nat.mod_one]

/-- What does not fit as a coefficient is not far below the limit after one digit is dropped. -/
theorem limit_le_ten_mul_nearest (x : ℚ) (nonneg : 0 ≤ x) (large : limit ≤ nearest (x * 10)) :
    limit ≤ 10 * nearest x := by
  have tenfold : roundHalfEven (x.num.toNat * 10) x.den = nearest (x * 10) := by
    apply roundHalfEven_eq_nearest _ _ x.den_pos
    push_cast
    rw [numerator_eq x nonneg]
    ring
  rw [← tenfold] at large
  have upper := (roundHalfEven_bounds (x.num.toNat * 10) x.den x.den_pos).2
  have lower := (roundHalfEven_bounds x.num.toNat x.den x.den_pos).1
  have positive := x.den_pos
  change limit ≤ 10 * roundHalfEven x.num.toNat x.den
  generalize roundHalfEven (x.num.toNat * 10) x.den = tens at large upper
  generalize roundHalfEven x.num.toNat x.den = ones at lower ⊢
  generalize x.num.toNat = n at upper lower
  generalize x.den = d at upper lower positive
  have bound : 2 * limit * d ≤ (20 * ones + 11) * d := by nlinarith
  have := Nat.le_of_mul_le_mul_right bound positive
  have digits : limit = 79228162514264337593543950336 := by decide
  omega

end CardPayments.Decimal
