import Mathlib.Tactic.FieldSimp
import CardPayments.Proofs.Decimal.Double

/-! # The shortest decimal of a double

The shortest decimal of a double is a number that the double covers, on the coarsest grid of decimal
places where it covers any.  So it has no more places than any other decimal that rounds to the
double, and one of fifteen digits it is itself: the double covers less than one step of the grid of
that decimal. -/
set_option autoImplicit false

namespace CardPayments.Binary64

/-! ## One grid -/

section

variable (x : Binary64) (p : ℤ)

/-- A quarter of the unit of the double, counted in steps of `10 ^ p`. -/
def gridUnit : ℕ × ℕ :=
  overTwoPower (overTenPower 1 1 p).1 (overTenPower 1 1 p).2 (2 - x.exponent)

/-- The last multiple of the step that is no larger than the double. -/
def gridFloor : ℕ := 4 * x.significand * (x.gridUnit p).1 / (x.gridUnit p).2

def isInside (c : ℕ) : Bool :=
  if x.significand % 2 = 0 then
    x.bounds.1 * (x.gridUnit p).1 ≤ c * (x.gridUnit p).2 &&
      c * (x.gridUnit p).2 ≤ x.bounds.2 * (x.gridUnit p).1
  else
    x.bounds.1 * (x.gridUnit p).1 < c * (x.gridUnit p).2 &&
      c * (x.gridUnit p).2 < x.bounds.2 * (x.gridUnit p).1

theorem onGrid_eq :
    x.onGrid p =
      match x.isInside p (x.gridFloor p), x.isInside p (x.gridFloor p + 1) with
      | true, true =>
          if 4 * x.significand * (x.gridUnit p).1 - x.gridFloor p * (x.gridUnit p).2 <
              (x.gridFloor p + 1) * (x.gridUnit p).2 - 4 * x.significand * (x.gridUnit p).1 then
            some (x.gridFloor p)
          else some (x.gridFloor p + 1)
      | true, false => some (x.gridFloor p)
      | false, true => some (x.gridFloor p + 1)
      | false, false => none :=
  rfl

theorem gridUnit_pos : 0 < (x.gridUnit p).2 :=
  dividedBy_pos _ _ two_pos (dividedBy_pos _ _ (by decide) one_pos)

/-- A quarter of the unit and a step, both scaled to whole numbers. -/
theorem exists_gridScale :
    ∃ k : ℚ, 0 < k ∧ ((x.gridUnit p).1 : ℚ) = x.unit / 4 * k ∧
      ((x.gridUnit p).2 : ℚ) = 10 ^ p * k := by
  have positive : (0 : ℚ) < (x.gridUnit p).2 := by exact_mod_cast x.gridUnit_pos p
  have step : (0 : ℚ) < 10 ^ p := zpow_pos (by norm_num) p
  have shift : (2 : ℚ) ^ (2 - x.exponent) = 4 / x.unit := by
    rw [zpow_sub₀ two_ne_zero, unit]
    norm_num
  have value := dividedBy_quotient 2 (overTenPower 1 1 p).1 (overTenPower 1 1 p).2 (2 - x.exponent)
  rw [← overTwoPower_eq, overTenPower_eq, dividedBy_quotient, ← overTenPower_eq] at value
  change ((x.gridUnit p).1 : ℚ) / (x.gridUnit p).2 = _ at value
  push_cast at value
  rw [div_eq_iff positive.ne', shift] at value
  refine ⟨(x.gridUnit p).2 / 10 ^ p, div_pos positive step, ?_, by field_simp⟩
  rw [value]
  have unit := x.unit_pos.ne'
  field_simp

variable {x p}

theorem gridUnit_le_iff (a c : ℕ) :
    a * (x.gridUnit p).1 ≤ c * (x.gridUnit p).2 ↔ a * (x.unit / 4) ≤ c * (10 : ℚ) ^ p := by
  obtain ⟨k, positive, unit, step⟩ := x.exists_gridScale p
  rw [← mul_le_mul_iff_of_pos_right positive, mul_assoc, mul_assoc, ← unit, ← step]
  exact_mod_cast Iff.rfl

theorem le_gridUnit_iff (a c : ℕ) :
    c * (x.gridUnit p).2 ≤ a * (x.gridUnit p).1 ↔ c * (10 : ℚ) ^ p ≤ a * (x.unit / 4) := by
  obtain ⟨k, positive, unit, step⟩ := x.exists_gridScale p
  rw [← mul_le_mul_iff_of_pos_right positive, mul_assoc, mul_assoc, ← unit, ← step]
  exact_mod_cast Iff.rfl

theorem isInside_iff (c : ℕ) : x.isInside p c = true ↔ x.Covers (c * 10 ^ p) := by
  rw [isInside, Covers]
  split
  · rw [Bool.and_eq_true, decide_eq_true_eq, decide_eq_true_eq, gridUnit_le_iff, le_gridUnit_iff]
  · rw [Bool.and_eq_true, decide_eq_true_eq, decide_eq_true_eq, ← not_le, ← not_le,
      le_gridUnit_iff, gridUnit_le_iff, not_le, not_le]

theorem gridFloor_le (x : Binary64) (p : ℤ) : x.gridFloor p * (10 : ℚ) ^ p ≤ x.number := by
  have below := (le_gridUnit_iff (x := x) (p := p) (4 * x.significand) (x.gridFloor p)).mp
    (Nat.div_mul_le_self _ _)
  push_cast at below
  change _ ≤ x.significand * x.unit
  linarith

theorem number_lt_gridFloor (x : Binary64) (p : ℤ) :
    x.number < ((x.gridFloor p + 1 : ℕ) : ℚ) * (10 : ℚ) ^ p := by
  have above : ¬ (x.gridFloor p + 1) * (x.gridUnit p).2 ≤ 4 * x.significand * (x.gridUnit p).1 := by
    rw [not_le, mul_comm (x.gridFloor p + 1)]
    exact Nat.lt_mul_div_succ _ (x.gridUnit_pos p)
  rw [le_gridUnit_iff, not_le] at above
  push_cast at above ⊢
  change x.significand * x.unit < _
  linarith

theorem onGrid_covers {c : ℕ} (found : x.onGrid p = some c) : x.Covers (c * 10 ^ p) := by
  rw [onGrid_eq] at found
  split at found
  · next floor next =>
      split at found
      · cases found
        exact (isInside_iff _).mp floor
      · cases found
        exact (isInside_iff _).mp next
  · next floor _ =>
      cases found
      exact (isInside_iff _).mp floor
  · next _ next =>
      cases found
      exact (isInside_iff _).mp next
  · cases found

/-- The two neighbours of the double on a grid are covered before any other multiple is. -/
theorem exists_onGrid {c : ℕ} (positive : 0 < x.significand) (covers : x.Covers (c * 10 ^ p)) :
    ∃ d, x.onGrid p = some d := by
  have step : (0 : ℚ) < 10 ^ p := zpow_pos (by norm_num) p
  have neighbour : x.isInside p (x.gridFloor p) = true ∨
      x.isInside p (x.gridFloor p + 1) = true := by
    rw [isInside_iff, isInside_iff]
    rcases Nat.lt_or_ge (x.gridFloor p) c with above | below
    · refine Or.inr (covers.between positive (Or.inr ⟨(number_lt_gridFloor x p).le, ?_⟩))
      exact mul_le_mul_of_nonneg_right (by exact_mod_cast above) step.le
    · refine Or.inl (covers.between positive (Or.inl ⟨?_, gridFloor_le x p⟩))
      exact mul_le_mul_of_nonneg_right (by exact_mod_cast below) step.le
  rw [onGrid_eq]
  split
  · split <;> exact ⟨_, rfl⟩
  · exact ⟨_, rfl⟩
  · exact ⟨_, rfl⟩
  · next neither next =>
      rw [neither, next] at neighbour
      rcases neighbour with floor | next
      · cases floor
      · cases next

/-- A step of less than half a unit always meets what the double covers. -/
theorem half_unit_le (positive : 0 < x.significand) (none : x.onGrid p = none) :
    x.unit / 2 ≤ 10 ^ p := by
  by_contra narrow
  have covers : x.Covers ((x.gridFloor p + 1 : ℕ) * 10 ^ p) := by
    have floor := gridFloor_le x p
    have next := number_lt_gridFloor x p
    have upper : x.bounds.2 * (x.unit / 4) = x.number + x.unit / 2 := by
      rw [bounds_eq]
      change _ = x.significand * x.unit + _
      push_cast
      ring
    have lower := lower_lt_number positive
    push_cast at next ⊢
    rw [Covers, upper]
    split <;> constructor <;> linarith
  obtain ⟨d, found⟩ := exists_onGrid positive covers
  rw [none] at found
  cases found

end

/-! ## The coarsest grid -/

/-- The search stops at the first grid where something is covered. -/
theorem coarsest_spec {x : Binary64} {c : ℕ} (positive : 0 < x.significand) (fuel : ℕ) (p e : ℤ)
    (start : e ≤ p) (enough : p < e + fuel) (covers : x.Covers (c * 10 ^ e)) :
    e ≤ (x.coarsest fuel p).2 ∧ (x.coarsest fuel p).2 ≤ p ∧
      x.onGrid (x.coarsest fuel p).2 = some (x.coarsest fuel p).1 ∧
      ((x.coarsest fuel p).2 < p → x.onGrid ((x.coarsest fuel p).2 + 1) = none) := by
  induction fuel generalizing p with
  | zero =>
      push_cast at enough
      omega
  | succ fuel ih =>
      rw [coarsest]
      split
      · next d found => exact ⟨start, le_refl p, found, fun smaller => absurd smaller (lt_irrefl p)⟩
      · next none =>
          have finer : e ≤ p - 1 := by
            by_contra last
            obtain rfl : p = e := by omega
            obtain ⟨d, found⟩ := exists_onGrid positive covers
            rw [none] at found
            cases found
          push_cast at enough
          obtain ⟨least, most, found, first⟩ := ih (p - 1) finer (by omega)
          refine ⟨least, by omega, found, fun smaller => ?_⟩
          rcases lt_or_eq_of_le most with earlier | same
          · exact first earlier
          · rw [same, sub_add_cancel]
            exact none

/-! ## Where the search starts -/

theorem ten_pow_le_two_pow : (10 : ℚ) ^ (301 : ℤ) ≤ 2 ^ (1000 : ℤ) := by
  exact_mod_cast (by decide +kernel : 10 ^ 301 ≤ 2 ^ 1000)

theorem two_pow_le_ten_pow : (2 : ℚ) ^ (1000 : ℤ) ≤ 10 ^ (302 : ℤ) := by
  exact_mod_cast (by decide +kernel : 2 ^ 1000 ≤ 10 ^ 302)

/-- A binary place is about three tenths of a decimal one. -/
theorem thousand_binary_places (b : ℤ) :
    (10 : ℚ) ^ min (301 * b) (302 * b) ≤ 2 ^ (1000 * b) ∧
      (2 : ℚ) ^ (1000 * b) ≤ 10 ^ max (301 * b) (302 * b) := by
  have lower := ten_pow_le_two_pow
  have upper := two_pow_le_ten_pow
  have ten (k : ℤ) : (0 : ℚ) < 10 ^ k := zpow_pos (by norm_num) k
  have two : (0 : ℚ) < 2 ^ (1000 : ℤ) := zpow_pos two_pos _
  rcases le_total 0 b with nonneg | nonpos
  · rw [min_eq_left (by omega), max_eq_right (by omega), zpow_mul, zpow_mul, zpow_mul]
    exact ⟨zpow_le_zpow_left₀ nonneg (ten _).le lower, zpow_le_zpow_left₀ nonneg two.le upper⟩
  · obtain ⟨k, rfl⟩ : ∃ k, b = -k := ⟨-b, (neg_neg b).symm⟩
    have nonneg : 0 ≤ k := by omega
    rw [min_eq_right (by omega), max_eq_left (by omega), zpow_mul, zpow_mul, zpow_mul, zpow_neg,
      zpow_neg, zpow_neg]
    exact ⟨inv_anti₀ (zpow_pos two k) (zpow_le_zpow_left₀ nonneg two.le upper),
      inv_anti₀ (zpow_pos (ten _) k) (zpow_le_zpow_left₀ nonneg (ten _).le lower)⟩

def decimalPlaces (b : ℤ) : ℤ := b * 30103 / 100000

theorem le_decimalPlaces {b k : ℤ} (range : -1100 ≤ b ∧ b ≤ 1024) (le : (10 : ℚ) ^ k ≤ 2 ^ b) :
    k ≤ decimalPlaces b + 1 := by
  have powers : (10 : ℚ) ^ (1000 * k) ≤ 2 ^ (1000 * b) := by
    rw [mul_comm, mul_comm (1000 : ℤ), zpow_mul, zpow_mul]
    exact zpow_le_zpow_left₀ (by norm_num) (zpow_pos (by norm_num) k).le le
  have exponents := (zpow_le_zpow_iff_right₀ (by norm_num : (1 : ℚ) < 10)).mp
    (powers.trans (thousand_binary_places b).2)
  rw [decimalPlaces]
  omega

theorem decimalPlaces_le {b k : ℤ} (range : -1100 ≤ b ∧ b ≤ 1024) (le : (2 : ℚ) ^ b ≤ 10 ^ k) :
    decimalPlaces b ≤ k + 1 := by
  have powers : (2 : ℚ) ^ (1000 * b) ≤ 10 ^ (1000 * k) := by
    rw [mul_comm, mul_comm (1000 : ℤ), zpow_mul, zpow_mul]
    exact zpow_le_zpow_left₀ (by norm_num) (zpow_pos two_pos b).le le
  have exponents := (zpow_le_zpow_iff_right₀ (by norm_num : (1 : ℚ) < 10)).mp
    ((thousand_binary_places b).1.trans powers)
  rw [decimalPlaces]
  omega

section

variable {x : Binary64}

/-- Every number that the double covers is smaller than two to this power, or equal to it. -/
def binaryPlaces (x : Binary64) : ℤ := x.significand.log2 + x.exponent + 1

theorem IsCanonical.binaryPlaces_range (canonical : x.IsCanonical)
    (positive : 0 < x.significand) : -1100 ≤ x.binaryPlaces ∧ x.binaryPlaces ≤ 1024 := by
  have short : x.significand.log2 < 53 := (Nat.log2_lt positive.ne').mpr canonical.short
  have least := canonical.least
  have most := canonical.most
  rw [binaryPlaces]
  omega

theorem Covers.binaryPlaces {q : ℚ} (covers : x.Covers q) (positive : 0 < x.significand) :
    (2 : ℚ) ^ (x.binaryPlaces - 2) ≤ q ∧ q ≤ 2 ^ x.binaryPlaces := by
  obtain ⟨lower, upper⟩ := covers.within
  have unit := x.unit_pos
  have least : (2 : ℚ) ^ x.significand.log2 ≤ x.significand := by
    exact_mod_cast Nat.log2_self_le positive.ne'
  have most : (x.significand : ℚ) + 1 ≤ 2 * 2 ^ x.significand.log2 := by
    have := Nat.lt_log2_self (n := x.significand)
    rw [Nat.pow_succ, mul_comm] at this
    exact_mod_cast this
  have half : (2 : ℚ) * x.significand ≤ x.bounds.1 := by
    exact_mod_cast double_significand_le positive
  have places : (2 : ℚ) ^ x.binaryPlaces = 2 * 2 ^ x.significand.log2 * x.unit := by
    rw [Binary64.binaryPlaces, two_zpow_add, two_zpow_add, zpow_natCast, Binary64.unit]
    ring
  have fewer : (2 : ℚ) ^ (x.binaryPlaces - 2) = 2 ^ x.significand.log2 * x.unit / 2 := by
    rw [zpow_sub₀ two_ne_zero, places]
    ring
  constructor
  · rw [fewer]
    refine le_trans ?_ lower
    have least : (2 : ℚ) ^ x.significand.log2 ≤ x.bounds.1 / 2 := by linarith
    have := mul_le_mul_of_nonneg_right least unit.le
    linarith
  · rw [places]
    refine upper.trans ?_
    have := mul_le_mul_of_nonneg_right most unit.le
    rw [bounds_eq]
    push_cast
    linarith

theorem shortest_eq (positive : 0 < x.significand) :
    x.shortest = x.coarsest 40 (decimalPlaces x.binaryPlaces + 2) := by
  rw [shortest, if_neg positive.ne']
  rfl

/-- The shortest decimal is covered, has no more places than any other one that is, and fewer than
nineteen digits. -/
theorem shortest_spec {m : ℕ} {e : ℤ} (canonical : x.IsCanonical)
    (positive : 0 < x.significand) (some : 0 < m) (short : m < 10 ^ 29)
    (covers : x.Covers (m * 10 ^ e)) :
    e ≤ x.shortest.2 ∧ x.Covers (x.shortest.1 * 10 ^ x.shortest.2) ∧ x.shortest.1 < 10 ^ 18 := by
  have range := canonical.binaryPlaces_range positive
  obtain ⟨lower, upper⟩ := covers.binaryPlaces positive
  have step : (0 : ℚ) < 10 ^ e := zpow_pos (by norm_num) e
  have start : e ≤ decimalPlaces x.binaryPlaces + 1 := by
    refine le_decimalPlaces range (le_trans ?_ upper)
    have : (1 : ℚ) ≤ m := by exact_mod_cast some
    exact le_mul_of_one_le_left step.le this
  have enough : decimalPlaces x.binaryPlaces ≤ e + 30 + 1 := by
    refine decimalPlaces_le range ?_
    have short : (m : ℚ) ≤ 10 ^ 29 := by exact_mod_cast short.le
    have four : (2 : ℚ) ^ x.binaryPlaces = 4 * 2 ^ (x.binaryPlaces - 2) := by
      rw [zpow_sub₀ two_ne_zero]
      ring
    calc (2 : ℚ) ^ x.binaryPlaces ≤ 4 * (m * 10 ^ e) := by rw [four]; linarith
      _ ≤ 10 * (10 ^ 29 * 10 ^ e) := by
          have := mul_le_mul_of_nonneg_right short step.le
          have : (0 : ℚ) < m * 10 ^ e := mul_pos (by exact_mod_cast some) step
          linarith
      _ = 10 ^ (e + 30) := by
          rw [zpow_add₀ (by norm_num)]
          norm_num
          ring
  obtain ⟨least, most, found, first⟩ := coarsest_spec positive 40 (decimalPlaces x.binaryPlaces + 2)
    e (by omega) (by push_cast; omega) covers
  rw [← shortest_eq positive] at least most found first
  have covered := onGrid_covers found
  refine ⟨least, covered, ?_⟩
  generalize x.shortest.1 = c at covered ⊢
  generalize x.shortest.2 = p at most first covered
  have step : (0 : ℚ) < 10 ^ p := zpow_pos (by norm_num) p
  rcases lt_or_eq_of_le most with earlier | rfl
  · have coarse := half_unit_le positive (first earlier)
    have upper : x.bounds.2 * (x.unit / 4) ≤ 2 ^ 53 * x.unit := by
      have : x.bounds.2 ≤ 4 * 2 ^ 53 := by
        have := canonical.short
        rw [bounds_eq]
        dsimp only
        omega
      have : (x.bounds.2 : ℚ) ≤ 4 * 2 ^ 53 := by exact_mod_cast this
      have := mul_le_mul_of_nonneg_right this x.unit_pos.le
      linarith
    have : c * (10 : ℚ) ^ p ≤ 2 ^ 54 * 10 * 10 ^ p := by
      rw [zpow_add_one₀ (by norm_num)] at coarse
      linarith [covered.within.2]
    have := le_of_mul_le_mul_right this step
    have : c ≤ 2 ^ 54 * 10 := by exact_mod_cast this
    omega
  · -- the search starts too high for any multiple but zero, and zero is not covered
    obtain ⟨lower, upper⟩ := covered.binaryPlaces positive
    have filled : (1 : ℚ) ≤ c := by
      have : (0 : ℚ) < c * 10 ^ (decimalPlaces x.binaryPlaces + 2) :=
        (zpow_pos two_pos _).trans_le lower
      have := pos_of_mul_pos_left this step.le
      exact_mod_cast this
    have high := le_decimalPlaces range ((le_mul_of_one_le_left step.le filled).trans upper)
    omega

/-! ## Decimals that survive -/

def shortestNumber (x : Binary64) : ℚ := x.shortest.1 * 10 ^ x.shortest.2

/-- What a double covers is large beside its unit. -/
theorem Covers.unit_le {q : ℚ} (covers : x.Covers q) (full : 2 ^ 52 ≤ x.significand) :
    2 ^ 51 * x.unit ≤ q := by
  have large : 2 * 2 ^ 52 ≤ x.bounds.1 :=
    (Nat.mul_le_mul_left 2 full).trans (double_significand_le (by omega))
  have large : (2 : ℚ) * 2 ^ 52 ≤ x.bounds.1 := by exact_mod_cast large
  have := mul_le_mul_of_nonneg_right large (div_pos x.unit_pos four_pos).le
  linarith [covers.within.1]

/-- Two numbers that one double covers differ by one part in `2 ^ 51` at most. -/
theorem Covers.near {q r : ℚ} (left : x.Covers q) (right : x.Covers r)
    (full : 2 ^ 52 ≤ x.significand) : |r - q| ≤ q / 2 ^ 51 := by
  have small := left.unit_le full
  have above := left.close right
  have below := right.close left
  rw [abs_le]
  constructor <;> linarith

/-- A decimal of at most fifteen digits is the shortest one of a double that covers it. -/
theorem shortestNumber_eq {m : ℕ} {e : ℤ} (canonical : x.IsCanonical)
    (full : 2 ^ 52 ≤ x.significand) (some : 0 < m) (short : m < 10 ^ 15)
    (covers : x.Covers (m * 10 ^ e)) : x.shortestNumber = m * 10 ^ e := by
  have step : (0 : ℚ) < 10 ^ e := zpow_pos (by norm_num) e
  obtain ⟨least, covered, _⟩ := shortest_spec canonical (by omega) some (by omega) covers
  have narrow : x.unit < 10 ^ e := by
    have short : (m : ℚ) < 10 ^ 15 := by exact_mod_cast short
    have := mul_lt_mul_of_pos_right short step
    linarith [covers.unit_le full]
  obtain ⟨k, places⟩ := Int.eq_ofNat_of_zero_le (sub_nonneg.mpr least)
  have scaled : x.shortestNumber = (x.shortest.1 * 10 ^ k : ℕ) * 10 ^ e := by
    rw [shortestNumber, show x.shortest.2 = k + e by omega, zpow_add₀ (by norm_num), zpow_natCast]
    push_cast
    ring
  change x.Covers x.shortestNumber at covered
  rw [scaled] at covered ⊢
  have above := covers.close covered
  have below := covered.close covers
  generalize x.shortest.1 * 10 ^ k = c at above below ⊢
  -- both are multiples of a step that is wider than all that the double covers
  have upper : (c : ℚ) < m + 1 := lt_of_mul_lt_mul_right (by linarith) step.le
  have lower : (m : ℚ) < c + 1 := lt_of_mul_lt_mul_right (by linarith) step.le
  have upper : c < m + 1 := by exact_mod_cast upper
  have lower : m < c + 1 := by exact_mod_cast lower
  rw [show c = m by omega]

end

/-- A double that covers nothing tiny has a full significand. -/
theorem IsCanonical.full_of_covers {x : Binary64} {q : ℚ} (canonical : x.IsCanonical)
    (covers : x.Covers q) (moderate : (2 : ℚ) ^ (-1000 : ℤ) ≤ q) : 2 ^ 52 ≤ x.significand := by
  by_contra few
  have least := canonical.full.resolve_left few
  have upper : x.bounds.2 ≤ 4 * 2 ^ 52 := by
    rw [bounds_eq]
    dsimp only
    omega
  have upper : (x.bounds.2 : ℚ) ≤ 4 * 2 ^ 52 := by exact_mod_cast upper
  have tiny : 2 ^ 52 * x.unit < (2 : ℚ) ^ (-1000 : ℤ) := by
    rw [unit, least, ← zpow_natCast, ← two_zpow_add]
    exact zpow_lt_zpow_right₀ one_lt_two (by norm_num)
  have := mul_le_mul_of_nonneg_right upper (div_pos x.unit_pos four_pos).le
  linarith [covers.within.2]

end CardPayments.Binary64
