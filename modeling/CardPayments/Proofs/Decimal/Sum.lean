import CardPayments.Error
import CardPayments.Proofs.Decimal.Nearest

/-! # Sums as numbers

A decimal stands for a rational number, and comparisons are those of the numbers.  A sum that is not
negative is the exact number rounded at the finest scale where it fits; which decimals it was added
up from does not matter.  Hence rounded sums keep the order of exact ones, a sum of fewer digits
than fit is exact, and only numbers near the limit overflow. -/
set_option autoImplicit false

namespace CardPayments.Decimal

def number (a : Decimal) : ℚ := a.coefficient / 10 ^ a.scale

theorem number_mul_pow (a : Decimal) : a.number * 10 ^ a.scale = a.coefficient := by
  have : (10 : ℚ) ^ a.scale ≠ 0 := by positivity
  rw [number, div_mul_cancel₀ _ this]

theorem same_iff (a b : Decimal) : a.same b = true ↔ a.number = b.number := by
  have aPower : (10 : ℚ) ^ a.scale ≠ 0 := by positivity
  have bPower : (10 : ℚ) ^ b.scale ≠ 0 := by positivity
  simp only [same, number, beq_iff_eq, Nat.pow_eq, div_eq_div_iff aPower bPower]
  norm_cast

theorem below_iff (a b : Decimal) : a.below b = true ↔ a.number < b.number := by
  have aPower : (0 : ℚ) < 10 ^ a.scale := by positivity
  have bPower : (0 : ℚ) < 10 ^ b.scale := by positivity
  simp only [below, number, decide_eq_true_eq, Nat.pow_eq, div_lt_div_iff₀ aPower bPower]
  norm_cast

theorem number_pos_iff (a : Decimal) : 0 < a.number ↔ 0 < a.coefficient := by
  have power : (0 : ℚ) < 10 ^ a.scale := by positivity
  rw [number, div_pos_iff_of_pos_right power]
  norm_cast

@[simp] theorem number_zero : zero.number = 0 := by
  simp [zero, number]

@[simp] theorem number_neg (a : Decimal) : a.neg.number = -a.number := by
  simp [neg, number, neg_div]

theorem number_of_coefficient_zero (a : Decimal) (none : a.coefficient = 0) : a.number = 0 := by
  simp [number, none]

theorem atScale_eq (a : Decimal) (scale : ℕ) (le : a.scale ≤ scale) :
    (a.atScale scale : ℚ) = a.number * 10 ^ scale := by
  have power : (10 : ℚ) ^ scale = 10 ^ a.scale * 10 ^ (scale - a.scale) := by
    rw [← pow_add, Nat.add_sub_cancel' le]
  rw [power, ← mul_assoc, number_mul_pow, atScale, Nat.pow_eq]
  push_cast
  rfl

/-! ## Rounding -/

/-- The decimal is the number, rounded at the finest scale where it fits. -/
structure Rounds (q : ℚ) (a : Decimal) : Prop where
  rounded : a.coefficient = nearest (q * 10 ^ a.scale)
  finest : a.number = q ∨ limit ≤ nearest (q * 10 ^ (a.scale + 1))

/-- The number does not fit at any scale. -/
def Overflows (q : ℚ) : Prop := limit ≤ nearest q

theorem fitScale_some (q : ℚ) (n divisor : ℕ) (positive : 0 < divisor) (scale : ℕ)
    (bound : scale ≤ 28) (value : q * 10 ^ scale * divisor = n) (a : Decimal)
    (fits : fitScale n divisor scale bound = some a) :
    a.coefficient = nearest (q * 10 ^ a.scale) ∧
      (a.scale = scale ∨ limit ≤ nearest (q * 10 ^ (a.scale + 1))) := by
  induction scale generalizing divisor with
  | zero =>
      have magnitude := roundHalfEven_eq_nearest n divisor positive _ value
      rw [fitScale] at fits
      simp only [Int.natAbs_natCast, magnitude, Int.natCast_nonneg, not_lt.mpr, if_false] at fits
      split at fits
      · cases fits
        exact ⟨rfl, Or.inl rfl⟩
      · cases fits
  | succ scale ih =>
      have magnitude := roundHalfEven_eq_nearest n divisor positive _ value
      rw [fitScale] at fits
      simp only [Int.natAbs_natCast, magnitude, Int.natCast_nonneg, not_lt.mpr, if_false] at fits
      split at fits
      · cases fits
        exact ⟨rfl, Or.inl rfl⟩
      · next large =>
          obtain ⟨rounded, finest⟩ := ih (divisor * 10) (by omega) (by omega)
            (by push_cast; rw [← value]; ring) fits
          refine ⟨rounded, Or.inr ?_⟩
          rcases finest with same | finest
          · rw [same]
            exact not_lt.mp large
          · exact finest

theorem fitScale_none (q : ℚ) (n divisor : ℕ) (positive : 0 < divisor) (scale : ℕ)
    (bound : scale ≤ 28) (value : q * 10 ^ scale * divisor = n)
    (fits : fitScale n divisor scale bound = none) : Overflows q := by
  induction scale generalizing divisor with
  | zero =>
      have magnitude := roundHalfEven_eq_nearest n divisor positive _ value
      rw [fitScale] at fits
      simp only [Int.natAbs_natCast, magnitude] at fits
      split at fits
      · cases fits
      · next large =>
          rw [pow_zero, mul_one] at large
          exact not_lt.mp large
  | succ scale ih =>
      rw [fitScale] at fits
      split at fits
      · cases fits
      · exact ih (divisor * 10) (by omega) (by omega) (by push_cast; rw [← value]; ring) fits

def OnGrid (q : ℚ) (scale : ℕ) : Prop := ∃ n : ℕ, q * 10 ^ scale = n

theorem OnGrid.mono {q : ℚ} {scale finer : ℕ} (grid : OnGrid q scale) (le : scale ≤ finer) :
    OnGrid q finer := by
  obtain ⟨n, value⟩ := grid
  refine ⟨n * 10 ^ (finer - scale), ?_⟩
  have power : (10 : ℚ) ^ finer = 10 ^ scale * 10 ^ (finer - scale) := by
    rw [← pow_add, Nat.add_sub_cancel' le]
  rw [power, ← mul_assoc, value]
  push_cast
  rfl

theorem OnGrid.nearest_eq {q : ℚ} {scale : ℕ} (grid : OnGrid q scale) :
    (nearest (q * 10 ^ scale) : ℚ) = q * 10 ^ scale := by
  obtain ⟨n, value⟩ := grid
  rw [value, nearest_natCast]

theorem OnGrid.add {q r : ℚ} {scale : ℕ} (left : OnGrid q scale) (right : OnGrid r scale) :
    OnGrid (q + r) scale := by
  obtain ⟨n, nValue⟩ := left
  obtain ⟨m, mValue⟩ := right
  exact ⟨n + m, by push_cast; rw [← nValue, ← mValue]; ring⟩

theorem OnGrid.sub {q r : ℚ} {scale : ℕ} (left : OnGrid q scale) (right : OnGrid r scale)
    (le : r ≤ q) : OnGrid (q - r) scale := by
  obtain ⟨n, nValue⟩ := left
  obtain ⟨m, mValue⟩ := right
  have order : m ≤ n := by
    have : r * 10 ^ scale ≤ q * 10 ^ scale := mul_le_mul_of_nonneg_right le (by positivity)
    rw [nValue, mValue] at this
    exact_mod_cast this
  refine ⟨n - m, ?_⟩
  rw [Nat.cast_sub order, ← nValue, ← mValue]
  ring

theorem coefficient_nonneg (a : Decimal) (nonneg : 0 ≤ a.number) : 0 ≤ a.coefficient := by
  by_contra negative
  have : a.number < 0 :=
    div_neg_of_neg_of_pos (by exact_mod_cast not_le.mp negative) (by positivity)
  linarith

theorem onGrid_number (a : Decimal) (nonneg : 0 ≤ a.number) : OnGrid a.number a.scale := by
  obtain ⟨n, value⟩ := Int.eq_ofNat_of_zero_le (coefficient_nonneg a nonneg)
  exact ⟨n, by rw [number_mul_pow, value]; rfl⟩

/-- A rounded number is exact when its scale is fine enough. -/
theorem number_eq_of_onGrid {q : ℚ} {a : Decimal}
    (rounded : a.coefficient = nearest (q * 10 ^ a.scale)) (grid : OnGrid q a.scale) :
    a.number = q := by
  have power : (10 : ℚ) ^ a.scale ≠ 0 := by positivity
  rw [number, rounded, div_eq_iff power]
  exact_mod_cast grid.nearest_eq

theorem rounds_self (a : Decimal) (nonneg : 0 ≤ a.number) : Rounds a.number a := by
  refine ⟨?_, Or.inl rfl⟩
  have grid := (onGrid_number a nonneg).nearest_eq
  rw [number_mul_pow] at grid
  rw [number_mul_pow]
  exact_mod_cast grid.symm

theorem ofExact_some (q : ℚ) (n scale : ℕ) (bound : scale ≤ 28) (value : q * 10 ^ scale = n)
    (a : Decimal) (fits : ofExact n scale bound = some a) : Rounds q a := by
  obtain ⟨rounded, finest⟩ :=
    fitScale_some q n 1 one_pos scale bound (by rw [value]; simp) a fits
  refine ⟨rounded, ?_⟩
  rcases finest with same | finest
  · exact Or.inl (number_eq_of_onGrid rounded ⟨n, by rw [same, value]⟩)
  · exact Or.inr finest

theorem number_add (a b : Decimal) : (a.number + b.number) * 10 ^ max a.scale b.scale =
    (a.atScale (max a.scale b.scale) + b.atScale (max a.scale b.scale) : ℤ) := by
  push_cast
  rw [atScale_eq a _ (le_max_left ..), atScale_eq b _ (le_max_right ..)]
  ring

theorem exact_sum (a b : Decimal) (nonneg : 0 ≤ a.number + b.number) :
    ∃ n : ℕ, a.atScale (max a.scale b.scale) + b.atScale (max a.scale b.scale) = n ∧
      (a.number + b.number) * 10 ^ max a.scale b.scale = n := by
  have value := number_add a b
  have sign : (0 : ℤ) ≤ a.atScale (max a.scale b.scale) + b.atScale (max a.scale b.scale) := by
    have : (0 : ℚ) ≤ (a.number + b.number) * 10 ^ max a.scale b.scale := by positivity
    rw [value] at this
    exact_mod_cast this
  obtain ⟨n, isNat⟩ := Int.eq_ofNat_of_zero_le sign
  exact ⟨n, isNat, by rw [value, isNat]; rfl⟩

theorem add?_some (a b c : Decimal) (nonneg : 0 ≤ a.number + b.number) (sum : a.add? b = some c) :
    Rounds (a.number + b.number) c := by
  obtain ⟨n, isNat, value⟩ := exact_sum a b nonneg
  simp only [add?, isNat] at sum
  split_ifs at sum with aZero bZero
  · cases sum
    rw [number_of_coefficient_zero a aZero, zero_add] at nonneg ⊢
    exact rounds_self b nonneg
  · cases sum
    rw [number_of_coefficient_zero b bZero, add_zero] at nonneg ⊢
    exact rounds_self a nonneg
  · exact ofExact_some _ n _ _ value c sum

theorem add?_none (a b : Decimal) (nonneg : 0 ≤ a.number + b.number) (sum : a.add? b = none) :
    Overflows (a.number + b.number) := by
  obtain ⟨n, isNat, value⟩ := exact_sum a b nonneg
  simp only [add?, isNat] at sum
  split_ifs at sum with aZero bZero
  exact fitScale_none _ n 1 one_pos _ _ (by rw [value]; simp) sum

theorem fitScale_negative {x : ℤ} (negative : x < 0) (divisor scale : ℕ) (bound : scale ≤ 28)
    {a : Decimal} (fits : fitScale x divisor scale bound = some a) : a.coefficient ≤ 0 := by
  induction scale generalizing divisor with
  | zero =>
      rw [fitScale] at fits
      split at fits
      · cases fits
        exact neg_nonpos.mpr (Int.natCast_nonneg _)
      · cases fits
  | succ scale ih =>
      rw [fitScale] at fits
      split at fits
      · cases fits
        exact neg_nonpos.mpr (Int.natCast_nonneg _)
      · exact ih _ _ fits

/-- Rounding does not lift a sum above zero. -/
theorem add?_negative {a b c : Decimal} (negative : a.number + b.number < 0)
    (sum : a.add? b = some c) : c.coefficient ≤ 0 := by
  have below : a.atScale (max a.scale b.scale) + b.atScale (max a.scale b.scale) < 0 := by
    have : (a.number + b.number) * 10 ^ max a.scale b.scale < 0 :=
      mul_neg_of_neg_of_pos negative (by positivity)
    rw [number_add] at this
    exact_mod_cast this
  by_contra positive
  rw [not_le, ← number_pos_iff] at positive
  simp only [add?] at sum
  split_ifs at sum with aZero bZero
  · cases sum
    rw [number_of_coefficient_zero a aZero, zero_add] at negative
    linarith
  · cases sum
    rw [number_of_coefficient_zero b bZero, add_zero] at negative
    linarith
  · rw [number_pos_iff] at positive
    have := fitScale_negative below _ _ _ sum
    omega

theorem nearest_scale_le (q : ℚ) (nonneg : 0 ≤ q) {scale finer : ℕ} (le : scale ≤ finer) :
    nearest (q * 10 ^ scale) ≤ nearest (q * 10 ^ finer) := by
  apply nearest_le _ _ (by positivity)
  exact mul_le_mul_of_nonneg_left (pow_le_pow_right₀ (by norm_num) le) nonneg

theorem nearest_number_le (q r : ℚ) (nonneg : 0 ≤ q) (le : q ≤ r) (scale : ℕ) :
    nearest (q * 10 ^ scale) ≤ nearest (r * 10 ^ scale) :=
  nearest_le _ _ (by positivity) (mul_le_mul_of_nonneg_right le (by positivity))

theorem Overflows.mono {q r : ℚ} (nonneg : 0 ≤ q) (le : q ≤ r) (overflows : Overflows q) :
    Overflows r :=
  le_trans overflows (nearest_le q r nonneg le)

namespace Rounds

variable {q r : ℚ} {a b : Decimal}

theorem number_nonneg (rounds : Rounds q a) : 0 ≤ a.number := by
  rw [number, rounds.rounded]
  positivity

theorem nearest_lt_limit (rounds : Rounds q a) : nearest (q * 10 ^ a.scale) < limit := by
  have fits := a.fits
  rw [rounds.rounded, Int.natAbs_natCast] at fits
  exact fits

theorem number_mul_pow (rounds : Rounds q a) :
    a.number * 10 ^ a.scale = nearest (q * 10 ^ a.scale) := by
  rw [Decimal.number_mul_pow, rounds.rounded]
  rfl

theorem limit_le_number_mul_pow (rounds : Rounds q a) (nonneg : 0 ≤ q) (inexact : a.number ≠ q)
    {scale : ℕ} (finer : a.scale < scale) : (limit : ℚ) ≤ a.number * 10 ^ scale := by
  have large := rounds.finest.resolve_left inexact
  have dropped : limit ≤ 10 * nearest (q * 10 ^ a.scale) := by
    apply limit_le_ten_mul_nearest _ (by positivity)
    rw [mul_assoc, ← pow_succ]
    exact large
  calc (limit : ℚ) ≤ 10 * nearest (q * 10 ^ a.scale) := by exact_mod_cast dropped
    _ = a.number * 10 ^ (a.scale + 1) := by rw [← rounds.number_mul_pow]; ring
    _ ≤ a.number * 10 ^ scale :=
        mul_le_mul_of_nonneg_left (pow_le_pow_right₀ (by norm_num) finer) rounds.number_nonneg

theorem number_mul_pow_lt (rounds : Rounds q a) {scale : ℕ} (coarser : scale ≤ a.scale) :
    a.number * 10 ^ scale < limit := by
  calc a.number * 10 ^ scale ≤ a.number * 10 ^ a.scale :=
        mul_le_mul_of_nonneg_left (pow_le_pow_right₀ (by norm_num) coarser) rounds.number_nonneg
    _ = nearest (q * 10 ^ a.scale) := rounds.number_mul_pow
    _ < limit := by exact_mod_cast rounds.nearest_lt_limit

/-- Rounding keeps the order of numbers, whatever the scales are. -/
theorem number_le (small : Rounds q a) (large : Rounds r b) (nonneg : 0 ≤ q) (le : q ≤ r) :
    a.number ≤ b.number := by
  have power : (0 : ℚ) < 10 ^ b.scale := by positivity
  by_cases finer : b.scale < a.scale
  · by_cases bExact : b.number = r
    · -- the larger number is a multiple of the unit of the finer scale as well
      have grid := (onGrid_number b large.number_nonneg).mono finer.le
      have order := nearest_number_le q r nonneg le a.scale
      have : a.number * 10 ^ a.scale ≤ b.number * 10 ^ a.scale := by
        rw [small.number_mul_pow, ← grid.nearest_eq, bExact]
        exact_mod_cast order
      exact le_of_mul_le_mul_right this (by positivity)
    · have upper := large.limit_le_number_mul_pow (le_trans nonneg le) bExact finer
      have lower := small.number_mul_pow_lt (le_refl a.scale)
      exact le_of_mul_le_mul_right (le_trans lower.le upper) (by positivity)
  · have order := nearest_number_le q r nonneg le b.scale
    have target : a.number * 10 ^ b.scale ≤ nearest (q * 10 ^ b.scale) := by
      by_cases aExact : a.number = q
      · have grid := (onGrid_number a small.number_nonneg).mono (not_lt.mp finer)
        rw [aExact] at grid ⊢
        exact grid.nearest_eq.ge
      · rcases lt_or_eq_of_le (not_lt.mp finer) with coarser | same
        · -- a rounded number of a coarser scale would not have fitted at the scale of the larger
          have tooLarge := small.finest.resolve_left aExact
          have refined : nearest (q * 10 ^ (a.scale + 1)) ≤ nearest (q * 10 ^ b.scale) :=
            nearest_scale_le q nonneg coarser
          have := large.nearest_lt_limit
          omega
        · rw [← same]
          exact small.number_mul_pow.le
    have : a.number * 10 ^ b.scale ≤ b.number * 10 ^ b.scale := by
      rw [large.number_mul_pow]
      exact le_trans target (by exact_mod_cast order)
    exact le_of_mul_le_mul_right this power

theorem not_overflows (rounds : Rounds q a) (nonneg : 0 ≤ q) : ¬ Overflows q := by
  intro overflows
  have fits := rounds.nearest_lt_limit
  have := nearest_scale_le q nonneg (Nat.zero_le a.scale)
  rw [pow_zero, mul_one] at this
  exact absurd (le_trans overflows this) (not_le.mpr fits)

/-- A number of a grid that is small enough for it is not rounded. -/
theorem number_eq_of_lt (rounds : Rounds q a) (nonneg : 0 ≤ q) {scale : ℕ} (grid : OnGrid q scale)
    (small : a.number * 10 ^ scale < limit) : a.number = q := by
  by_contra inexact
  rcases lt_or_ge a.scale scale with finer | coarser
  · have := rounds.limit_le_number_mul_pow nonneg inexact finer
    linarith
  · exact inexact (number_eq_of_onGrid rounds.rounded (grid.mono coarser))

end Rounds

/-! ## Amounts -/

theorem plus_ok (a b c : Decimal) (nonneg : 0 ≤ a.number + b.number) (sum : a.plus b = .ok c) :
    Rounds (a.number + b.number) c := by
  apply add?_some a b c nonneg
  cases found : a.add? b with
  | none => simp [plus, add, found] at sum
  | some d =>
      simp only [plus, add, found, Except.ok.injEq] at sum
      rw [sum]

theorem plus_error (a b : Decimal) (e : PaymentError) (nonneg : 0 ≤ a.number + b.number)
    (sum : a.plus b = .error e) : Overflows (a.number + b.number) := by
  apply add?_none a b nonneg
  cases found : a.add? b with
  | none => rfl
  | some d => simp [plus, add, found] at sum

theorem add?_of_minus {a b c : Decimal} (difference : a.minus b = .ok c) :
    a.add? b.neg = some c := by
  cases found : a.add? b.neg with
  | none => simp [minus, sub, found] at difference
  | some d =>
      simp only [minus, sub, found, Except.ok.injEq] at difference
      rw [difference]

theorem minus_ok (a b c : Decimal) (le : b.number ≤ a.number) (difference : a.minus b = .ok c) :
    Rounds (a.number - b.number) c := by
  have split : a.number - b.number = a.number + b.neg.number := by rw [number_neg]; ring
  rw [split]
  exact add?_some a b.neg c (by rw [← split]; linarith) (add?_of_minus difference)

/-- A difference above zero is of a larger and a smaller number. -/
theorem le_of_minus_positive {a b c : Decimal} (difference : a.minus b = .ok c)
    (positive : 0 < c.coefficient) : b.number ≤ a.number := by
  by_contra larger
  have negative : a.number + b.neg.number < 0 := by
    rw [number_neg]
    linarith
  have := add?_negative negative (add?_of_minus difference)
  omega

end CardPayments.Decimal
