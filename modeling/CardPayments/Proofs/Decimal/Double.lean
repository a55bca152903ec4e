import Mathlib.Algebra.Order.Field.Power
import CardPayments.Decimal.Binary64
import CardPayments.Proofs.Decimal.Nearest

/-! # The double nearest to a number

A double covers the numbers between its bounds, and these themselves when its significand is even.
The double nearest to a quotient covers it, and its significand has 53 bits unless its exponent is
the least one. -/
set_option autoImplicit false

namespace CardPayments.Binary64

open Decimal (roundHalfEven roundHalfEven_bounds roundHalfEven_even)

/-! ## Quotients by powers -/

/-- Numerator and denominator of a quotient after its value is divided by `base ^ e`. -/
def dividedBy (base num den : ℕ) (e : ℤ) : ℕ × ℕ :=
  if 0 ≤ e then (num, den * Nat.pow base e.toNat) else (num * Nat.pow base (-e).toNat, den)

theorem overTwoPower_eq (num den : ℕ) (e : ℤ) : overTwoPower num den e = dividedBy 2 num den e :=
  rfl

theorem overTenPower_eq (num den : ℕ) (e : ℤ) : overTenPower num den e = dividedBy 10 num den e :=
  rfl

theorem dividedBy_pos {base den : ℕ} (num : ℕ) (e : ℤ) (basePositive : 0 < base)
    (positive : 0 < den) : 0 < (dividedBy base num den e).2 := by
  rw [dividedBy]
  split
  · exact Nat.mul_pos positive (Nat.pow_pos basePositive)
  · exact positive

theorem dividedBy_quotient (base num den : ℕ) (e : ℤ) :
    ((dividedBy base num den e).1 : ℚ) / (dividedBy base num den e).2 =
      num / den / (base : ℚ) ^ e := by
  rw [dividedBy]
  split
  · next nonneg =>
      obtain ⟨k, rfl⟩ := Int.eq_ofNat_of_zero_le nonneg
      simp [div_div]
  · next negative =>
      obtain ⟨k, rfl⟩ : ∃ k : ℕ, e = -k := ⟨(-e).toNat, by omega⟩
      simp [zpow_neg, div_eq_mul_inv, mul_right_comm]

/-! ## Rounding a quotient -/

section

variable {n d : ℕ}

theorem roundHalfEven_near (positive : 0 < d) :
    (n : ℚ) / d ≤ roundHalfEven n d + 1 / 2 ∧ (roundHalfEven n d : ℚ) ≤ n / d + 1 / 2 := by
  obtain ⟨upper, lower⟩ := roundHalfEven_bounds n d positive
  have dPositive : (0 : ℚ) < d := by exact_mod_cast positive
  have upper : (2 : ℚ) * n ≤ (2 * roundHalfEven n d + 1) * d := by exact_mod_cast upper
  have lower : (2 : ℚ) * (roundHalfEven n d * d) ≤ 2 * n + d := by exact_mod_cast lower
  constructor
  · rw [div_le_iff₀ dPositive]
    linarith
  · rw [← sub_le_iff_le_add, le_div_iff₀ dPositive]
    linarith

/-- An odd neighbour is nearer than halfway. -/
theorem roundHalfEven_nearer (positive : 0 < d) (odd : roundHalfEven n d % 2 ≠ 0) :
    (n : ℚ) / d < roundHalfEven n d + 1 / 2 ∧ (roundHalfEven n d : ℚ) < n / d + 1 / 2 := by
  obtain ⟨upper, lower⟩ := roundHalfEven_near (n := n) positive
  have dPositive : (d : ℚ) ≠ 0 := by exact_mod_cast positive.ne'
  have untied := mt (roundHalfEven_even n d positive) odd
  refine ⟨lt_of_le_of_ne upper fun tie => untied (Or.inl ?_),
    lt_of_le_of_ne lower fun tie => untied (Or.inr ?_)⟩
  · have : (2 : ℚ) * n = (2 * roundHalfEven n d + 1) * d := by
      rw [div_eq_iff dPositive] at tie
      linarith
    exact_mod_cast this
  · have : (2 : ℚ) * (roundHalfEven n d * d) = 2 * n + d := by
      rw [tie, add_mul, div_mul_cancel₀ _ dPositive]
      ring
    exact_mod_cast this

end

/-! ## Numbers that a double covers -/

def number (x : Binary64) : ℚ := x.significand * 2 ^ x.exponent

def unit (x : Binary64) : ℚ := 2 ^ x.exponent

theorem unit_pos (x : Binary64) : 0 < x.unit := zpow_pos (by norm_num) _

/-- The number lies between the bounds of the double, or is one of them and the significand is
even. -/
def Covers (x : Binary64) (q : ℚ) : Prop :=
  if x.significand % 2 = 0 then
    x.bounds.1 * (x.unit / 4) ≤ q ∧ q ≤ x.bounds.2 * (x.unit / 4)
  else x.bounds.1 * (x.unit / 4) < q ∧ q < x.bounds.2 * (x.unit / 4)

/-- The exponent is in range, and the significand has all its 53 bits unless the exponent is the
least one. -/
structure IsCanonical (x : Binary64) : Prop where
  least : -1074 ≤ x.exponent
  most : x.exponent ≤ 971
  short : x.significand < 2 ^ 53
  full : 2 ^ 52 ≤ x.significand ∨ x.exponent = -1074

theorem bounds_eq (x : Binary64) :
    x.bounds = (4 * x.significand -
      (if x.significand = Nat.pow 2 52 ∧ -1074 < x.exponent then 1 else 2),
        4 * x.significand + 2) :=
  rfl

section

variable {x : Binary64} {q r : ℚ}

theorem Covers.within (covers : x.Covers q) :
    x.bounds.1 * (x.unit / 4) ≤ q ∧ q ≤ x.bounds.2 * (x.unit / 4) := by
  rw [Covers] at covers
  split at covers
  · exact covers
  · exact ⟨covers.1.le, covers.2.le⟩

theorem double_significand_le (positive : 0 < x.significand) :
    2 * x.significand ≤ x.bounds.1 := by
  rw [bounds_eq]
  dsimp only
  split <;> omega

theorem lower_lt_number (positive : 0 < x.significand) :
    x.bounds.1 * (x.unit / 4) < x.number := by
  have below : x.bounds.1 < 4 * x.significand := by
    rw [bounds_eq]
    dsimp only
    split <;> omega
  have below : (x.bounds.1 : ℚ) < 4 * x.significand := by exact_mod_cast below
  have := mul_lt_mul_of_pos_right below x.unit_pos
  change _ < x.significand * x.unit
  linarith

theorem number_lt_upper (x : Binary64) : x.number < x.bounds.2 * (x.unit / 4) := by
  have unit := x.unit_pos
  rw [bounds_eq]
  change x.significand * x.unit < _
  push_cast
  linarith

/-- A number between the double and one that it covers is covered as well. -/
theorem Covers.between (covers : x.Covers q) (positive : 0 < x.significand)
    (inside : q ≤ r ∧ r ≤ x.number ∨ x.number ≤ r ∧ r ≤ q) : x.Covers r := by
  have lower := lower_lt_number positive
  have upper := number_lt_upper x
  rw [Covers] at covers ⊢
  split at covers
  · next even =>
      rw [if_pos even]
      rcases inside with ⟨_, _⟩ | ⟨_, _⟩ <;> constructor <;> linarith [covers.1, covers.2]
  · next odd =>
      rw [if_neg odd]
      rcases inside with ⟨_, _⟩ | ⟨_, _⟩ <;> constructor <;> linarith [covers.1, covers.2]

/-- All that a double covers lies within one unit. -/
theorem Covers.close (left : x.Covers q) (right : x.Covers r) :
    r ≤ q + x.unit := by
  obtain ⟨lower, _⟩ := left.within
  obtain ⟨_, upper⟩ := right.within
  have apart : x.bounds.2 ≤ x.bounds.1 + 4 := by
    rw [bounds_eq]
    dsimp only
    split <;> omega
  have apart : (x.bounds.2 : ℚ) ≤ x.bounds.1 + 4 := by exact_mod_cast apart
  have := mul_le_mul_of_nonneg_right apart (div_nonneg x.unit_pos.le (by norm_num : (0 : ℚ) ≤ 4))
  linarith

/-- A number is covered when it lies between the bounds, counted in units. -/
theorem covers_of_place {y : ℚ} (lower : (x.bounds.1 : ℚ) ≤ 4 * y) (upper : 4 * y ≤ x.bounds.2)
    (strict : x.significand % 2 ≠ 0 → (x.bounds.1 : ℚ) < 4 * y ∧ 4 * y < x.bounds.2) :
    x.Covers (y * x.unit) := by
  have quarter : 0 < x.unit / 4 := div_pos x.unit_pos (by norm_num)
  have place : y * x.unit = 4 * y * (x.unit / 4) := by ring
  rw [Covers, place]
  split
  · exact ⟨mul_le_mul_of_nonneg_right lower quarter.le,
      mul_le_mul_of_nonneg_right upper quarter.le⟩
  · next odd =>
      obtain ⟨lower, upper⟩ := strict odd
      exact ⟨mul_lt_mul_of_pos_right lower quarter, mul_lt_mul_of_pos_right upper quarter⟩

end

/-! ## The nearest double -/

/-- The exponent of the double nearest to a quotient, before its significand is rounded. -/
def exponentOf (num den : ℕ) : ℤ :=
  let least : ℤ := max ((num.log2 : ℤ) - den.log2 - 53) (-1074)
  if (overTwoPower num den least).1 / (overTwoPower num den least).2 < Nat.pow 2 53 then least
  else least + 1

def significandOf (num den : ℕ) : ℕ :=
  roundHalfEven (overTwoPower num den (exponentOf num den)).1
    (overTwoPower num den (exponentOf num den)).2

def carried (significand : ℕ) (exponent : ℤ) : Binary64 :=
  if significand = Nat.pow 2 53 then ⟨Nat.pow 2 52, exponent + 1⟩ else ⟨significand, exponent⟩

theorem nearest_eq {num den : ℕ} (positive : 0 < num) :
    nearest num den =
      if 971 < (carried (significandOf num den) (exponentOf num den)).exponent then none
      else some (carried (significandOf num den) (exponentOf num den)) := by
  rw [nearest, if_neg positive.ne']
  rfl

section

variable {num den : ℕ}

theorem two_zpow_add (a b : ℤ) : (2 : ℚ) ^ (a + b) = 2 ^ a * 2 ^ b := zpow_add₀ two_ne_zero a b

theorem log2_bounds (numPositive : 0 < num) (denPositive : 0 < den) :
    (2 : ℚ) ^ ((num.log2 : ℤ) - den.log2 - 1) < num / den ∧
      (num : ℚ) / den < 2 ^ ((num.log2 : ℤ) - den.log2 + 1) := by
  have least {n : ℕ} (positive : 0 < n) : (2 : ℚ) ^ (n.log2 : ℤ) ≤ n := by
    exact_mod_cast Nat.log2_self_le positive.ne'
  have greatest (n : ℕ) : (n : ℚ) < 2 ^ ((n.log2 : ℤ) + 1) := by
    exact_mod_cast Nat.lt_log2_self (n := n)
  have denPositive' : (0 : ℚ) < den := by exact_mod_cast denPositive
  constructor
  · rw [lt_div_iff₀ denPositive']
    calc (2 : ℚ) ^ ((num.log2 : ℤ) - den.log2 - 1) * den
        < 2 ^ ((num.log2 : ℤ) - den.log2 - 1) * 2 ^ ((den.log2 : ℤ) + 1) :=
          mul_lt_mul_of_pos_left (greatest den) (zpow_pos two_pos _)
      _ = 2 ^ (num.log2 : ℤ) := by
          rw [← two_zpow_add]
          congr 1
          ring
      _ ≤ num := least numPositive
  · rw [div_lt_iff₀ denPositive']
    calc (num : ℚ) < 2 ^ ((num.log2 : ℤ) + 1) := greatest num
      _ = 2 ^ ((num.log2 : ℤ) - den.log2 + 1) * 2 ^ (den.log2 : ℤ) := by
          rw [← two_zpow_add]
          congr 1
          ring
      _ ≤ 2 ^ ((num.log2 : ℤ) - den.log2 + 1) * den :=
          mul_le_mul_of_nonneg_left (least denPositive) (zpow_pos two_pos _).le

/-- The quotient has a whole part of 53 bits, unless the exponent is the least one. -/
theorem exponentOf_spec (numPositive : 0 < num) (denPositive : 0 < den) :
    -1074 ≤ exponentOf num den ∧ (num : ℚ) / den < 2 ^ (exponentOf num den + 53) ∧
      (2 ^ (exponentOf num den + 52) ≤ (num : ℚ) / den ∨ exponentOf num den = -1074) := by
  obtain ⟨above, below⟩ := log2_bounds numPositive denPositive
  have mono {a b : ℤ} (le : a ≤ b) : (2 : ℚ) ^ a ≤ 2 ^ b := zpow_le_zpow_right₀ one_le_two le
  obtain ⟨least, least_def⟩ :
    ∃ e, e = max ((num.log2 : ℤ) - den.log2 - 53) (-1074) := ⟨_, rfl⟩
  rw [exponentOf, ← least_def]
  have trial : (overTwoPower num den least).1 / (overTwoPower num den least).2 < Nat.pow 2 53 ↔
      (num : ℚ) / den < 2 ^ (least + 53) := by
    have positive := dividedBy_pos num least two_pos denPositive
    have value := dividedBy_quotient 2 num den least
    rw [overTwoPower_eq, Nat.div_lt_iff_lt_mul positive, add_comm, two_zpow_add,
      ← div_lt_iff₀ (zpow_pos two_pos least)]
    push_cast at value
    rw [← value, div_lt_iff₀ (by exact_mod_cast positive)]
    norm_cast
  split
  · next small =>
      refine ⟨by omega, trial.mp small, ?_⟩
      by_cases clamped : least = -1074
      · exact Or.inr clamped
      · exact Or.inl ((mono (by omega)).trans above.le)
  · next large =>
      refine ⟨by omega, below.trans_le (mono (by omega)), Or.inl ?_⟩
      have := not_lt.mp (mt trial.mpr large)
      rwa [show least + 1 + 52 = least + 53 by ring]

theorem carried_spec {significand : ℕ} {exponent : ℤ} {y : ℚ} (least : -1074 ≤ exponent)
    (nonneg : 0 ≤ y) (short : y < 2 ^ 53) (full : 2 ^ 52 ≤ y ∨ exponent = -1074)
    (near : y ≤ significand + 1 / 2 ∧ (significand : ℚ) ≤ y + 1 / 2)
    (nearer : significand % 2 ≠ 0 → y < significand + 1 / 2 ∧ (significand : ℚ) < y + 1 / 2)
    (inRange : (carried significand exponent).exponent ≤ 971) :
    (carried significand exponent).IsCanonical ∧
      (carried significand exponent).Covers (y * 2 ^ exponent) := by
  have rounded : significand ≤ 2 ^ 53 := by
    have : (significand : ℚ) < 2 ^ 53 + 1 := by linarith [near.2]
    exact Nat.lt_succ_iff.mp (by exact_mod_cast this)
  have filled : 2 ^ 52 ≤ significand ∨ exponent = -1074 := by
    refine full.imp_left fun large => ?_
    have : (2 : ℚ) ^ 52 < significand + 1 := by linarith [near.1]
    exact Nat.lt_succ_iff.mp (by exact_mod_cast this)
  rw [carried] at inRange ⊢
  split
  · next top =>
      subst top
      refine ⟨⟨by dsimp only; omega, inRange, Nat.pow_lt_pow_right (by decide) (by decide),
        Or.inl (Nat.le_refl _)⟩, ?_⟩
      have scaled : y * 2 ^ exponent = y / 2 * 2 ^ (exponent + 1) := by
        rw [two_zpow_add]
        ring
      rw [scaled]
      refine covers_of_place (x := ⟨Nat.pow 2 52, exponent + 1⟩) ?_ ?_
        fun odd => absurd (by decide : Nat.pow 2 52 % 2 = 0) odd
      · have bound : bounds ⟨Nat.pow 2 52, exponent + 1⟩ = (4 * 2 ^ 52 - 1, 4 * 2 ^ 52 + 2) := by
          rw [bounds_eq, if_pos ⟨rfl, by dsimp only; omega⟩]
          rfl
        have lower := near.2
        rw [bound]
        push_cast at lower ⊢
        linarith
      · rw [bounds_eq]
        push_cast
        linarith
  · next inner =>
      rw [if_neg inner] at inRange
      refine ⟨⟨least, inRange, lt_of_le_of_ne rounded inner, filled⟩, ?_⟩
      have upper : ((4 * significand + 2 : ℕ) : ℚ) = 4 * (significand + 1 / 2) := by
        push_cast
        ring
      refine covers_of_place (x := ⟨significand, exponent⟩) ?_ ?_ fun odd => ?_
      · rw [bounds_eq]
        dsimp only
        split
        · next edge =>
            have large := full.resolve_right (by omega)
            rw [edge.1]
            push_cast
            linarith
        · rcases Nat.eq_zero_or_pos significand with rfl | positive
          · simpa using nonneg
          · rw [Nat.cast_sub (by omega)]
            push_cast
            linarith [near.2]
      · rw [bounds_eq, upper]
        linarith [near.1]
      · have inner : ¬ (significand = Nat.pow 2 52 ∧ -1074 < exponent) := by
          rintro ⟨rfl, _⟩
          exact absurd (by decide : Nat.pow 2 52 % 2 = 0) odd
        rw [bounds_eq, upper, if_neg inner, Nat.cast_sub (by dsimp only at odd ⊢; omega)]
        obtain ⟨above, below⟩ := nearer odd
        push_cast
        constructor <;> linarith

theorem nearest_spec {x : Binary64} (numPositive : 0 < num) (denPositive : 0 < den)
    (found : nearest num den = some x) : x.IsCanonical ∧ x.Covers (num / den) := by
  obtain ⟨least, short, full⟩ := exponentOf_spec numPositive denPositive
  have positive := dividedBy_pos num (exponentOf num den) two_pos denPositive
  have value := dividedBy_quotient 2 num den (exponentOf num den)
  rw [← overTwoPower_eq] at positive value
  have power : (0 : ℚ) < 2 ^ exponentOf num den := zpow_pos two_pos _
  have near := roundHalfEven_near (n := (overTwoPower num den (exponentOf num den)).1) positive
  have nearer := roundHalfEven_nearer (n := (overTwoPower num den (exponentOf num den)).1) positive
  rw [value] at near nearer
  rw [nearest_eq numPositive] at found
  split at found
  · cases found
  · next inRange =>
      cases found
      have spec := carried_spec least (y := num / den / 2 ^ exponentOf num den) (by positivity)
        (by rwa [div_lt_iff₀ power, ← zpow_natCast, ← two_zpow_add, add_comm])
        (full.imp_left fun large => by
          rwa [le_div_iff₀ power, ← zpow_natCast, ← two_zpow_add, add_comm])
        near nearer (not_lt.mp inRange)
      rwa [div_mul_cancel₀ _ power.ne'] at spec

/-- A number of moderate size has a double. -/
theorem nearest_isSome (numPositive : 0 < num) (denPositive : 0 < den)
    (moderate : (num : ℚ) / den ≤ 2 ^ (1000 : ℤ)) : ∃ x, nearest num den = some x := by
  obtain ⟨_, _, full⟩ := exponentOf_spec numPositive denPositive
  have bounded : exponentOf num den ≤ 948 := by
    rcases full with large | least
    · have := (zpow_le_zpow_iff_right₀ (one_lt_two : (1 : ℚ) < 2)).mp (large.trans moderate)
      omega
    · omega
  have carry : (carried (significandOf num den) (exponentOf num den)).exponent ≤ 949 := by
    rw [carried]
    split <;> dsimp only <;> omega
  rw [nearest_eq numPositive, if_neg (by omega)]
  exact ⟨_, rfl⟩

end

end CardPayments.Binary64
