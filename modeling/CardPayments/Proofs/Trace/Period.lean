import Mathlib.Data.List.Basic
import Mathlib.Tactic.Linarith
import CardPayments.Trace.Allocator

/-! # The period of trace numbers

The values of one day come in batches.  As many batches as fit below the greatest value follow one
another, and then the sequence starts over at its least value.  A batch that would leave the next
value above the greatest one is not taken, so that the last values of the range may never be used;
where not even one batch fits like that, every batch starts at the least value. -/
set_option autoImplicit false

namespace CardPayments

namespace SequenceConfig

def batches (c : SequenceConfig) : ℕ :=
  max 1 ((c.greatest.toNat - c.least.toNat) / c.batchSize.toNat)

def period (c : SequenceConfig) : ℕ := c.batchSize.toNat * c.batches

/-- The value that `n` others of its day precede. -/
def numbered (c : SequenceConfig) (n : ℕ) : ℕ := c.least.toNat + n % c.period

def policy (c : SequenceConfig) : RolloverPolicy := ⟨c.least, c.greatest⟩

/-- What the validation promises, in numbers, with room for the sums of a reservation. -/
structure Fits (c : SequenceConfig) : Prop where
  order : c.least.toNat ≤ c.greatest.toNat
  positive : 0 < c.batchSize.toNat
  batch_le : c.batchSize.toNat ≤ c.greatest.toNat - c.least.toNat + 1
  room : 2 * c.greatest.toNat + 2 < 2 ^ 64

theorem fits_of_validate (c : SequenceConfig) (valid : c.validate = .ok ())
    (room : 2 * c.greatest.toNat + 2 < 2 ^ 64) : c.Fits := by
  rw [validate] at valid
  split at valid
  · cases valid
  · next ordered =>
      split at valid
      · cases valid
      · next bounded =>
          have order : c.least ≤ c.greatest := UInt64.not_lt.mp ordered
          have orderNat := UInt64.le_iff_toNat_le.mp order
          obtain ⟨notZero, notLarge⟩ := not_or.mp bounded
          have size : (c.greatest - c.least + 1).toNat = c.greatest.toNat - c.least.toNat + 1 := by
            have one : (1 : UInt64).toNat = 1 := rfl
            rw [UInt64.toNat_add, UInt64.toNat_sub_of_le _ _ order, one, Nat.mod_eq_of_lt]
            omega
          have batch := UInt64.le_iff_toNat_le.mp (UInt64.not_lt.mp notLarge)
          rw [size] at batch
          have positive : c.batchSize.toNat ≠ 0 := fun isZero =>
            notZero (UInt64.toNat_inj.mp (isZero.trans rfl))
          exact ⟨orderNat, Nat.pos_of_ne_zero positive, batch, room⟩

variable {c : SequenceConfig}

theorem batches_pos : 0 < c.batches := lt_of_lt_of_le one_pos (le_max_left ..)

theorem Fits.period_pos (fits : c.Fits) : 0 < c.period := Nat.mul_pos fits.positive batches_pos

theorem Fits.period_le (fits : c.Fits) : c.period ≤ c.greatest.toNat - c.least.toNat + 1 := by
  rw [period, batches]
  rcases max_choice 1 ((c.greatest.toNat - c.least.toNat) / c.batchSize.toNat) with one | many
  · rw [one, mul_one]
    exact fits.batch_le
  · rw [many]
    have := Nat.mul_div_le (c.greatest.toNat - c.least.toNat) c.batchSize.toNat
    omega

theorem numbered_lt (fits : c.Fits) (n : ℕ) : c.numbered n < c.least.toNat + c.period :=
  Nat.add_lt_add_left (Nat.mod_lt n fits.period_pos) _

theorem numbered_le (fits : c.Fits) (n : ℕ) : c.numbered n ≤ c.greatest.toNat := by
  have := numbered_lt fits n
  have := fits.period_le
  have := fits.order
  omega

/-- Two values of a day are the same only after a whole period. -/
theorem numbered_ne {m n : ℕ} (before : m < n) (near : n < m + c.period) :
    c.numbered m ≠ c.numbered n := by
  intro same
  have congruent : m % c.period = n % c.period := Nat.add_left_cancel same
  have divides : c.period ∣ n - m :=
    Nat.dvd_of_mod_eq_zero (Nat.sub_mod_eq_zero_of_mod_eq congruent.symm)
  have := Nat.le_of_dvd (by omega) divides
  omega

theorem numbered_batch (m i : ℕ) (inBatch : i < c.batchSize.toNat) :
    c.numbered (m * c.batchSize.toNat + i) =
      c.least.toNat + c.batchSize.toNat * (m % c.batches) + i := by
  have rest : (m * c.batchSize.toNat + i) % c.batchSize.toNat = i := by
    exact Nat.mul_add_mod_of_lt inBatch
  have whole : (m * c.batchSize.toNat + i) / c.batchSize.toNat = m := by
    rw [mul_comm, Nat.mul_add_div (by omega), Nat.div_eq_of_lt inBatch, add_zero]
  rw [numbered, period, Nat.mod_mul, rest, whole]
  omega

/-! ## Reservations -/

/-- The block stands where `m` batches of a day leave it. -/
structure Stands (c : SequenceConfig) (m : ℕ) (block : Block) : Prop where
  position : ∃ j ≤ c.batches,
    block.nextValue.toNat = c.least.toNat + c.batchSize.toNat * j ∧ j % c.batches = m % c.batches

theorem stands_least (tag : String) : c.Stands 0 ⟨c.least, tag⟩ :=
  ⟨0, Nat.zero_le _, by simp, rfl⟩

/-- A batch fits at a position exactly when it is not the last one. -/
theorem Fits.roll_iff (fits : c.Fits) (j : ℕ) (inRange : j ≤ c.batches) :
    c.greatest.toNat < c.least.toNat + c.batchSize.toNat * j + c.batchSize.toNat ↔
      j = c.batches ∨ c.greatest.toNat - c.least.toNat < c.batchSize.toNat := by
  have order := fits.order
  have positive := fits.positive
  have step : c.batchSize.toNat * j + c.batchSize.toNat = c.batchSize.toNat * (j + 1) :=
    (Nat.mul_succ ..).symm
  by_cases none : c.greatest.toNat - c.least.toNat < c.batchSize.toNat
  · have : c.batchSize.toNat ≤ c.batchSize.toNat * j + c.batchSize.toNat := Nat.le_add_left ..
    constructor
    · exact fun _ => Or.inr none
    · omega
  · have many : c.batches = (c.greatest.toNat - c.least.toNat) / c.batchSize.toNat := by
      have : 1 ≤ (c.greatest.toNat - c.least.toNat) / c.batchSize.toNat :=
        (Nat.one_le_div_iff positive).mpr (not_lt.mp none)
      exact max_eq_right this
    have fit : j + 1 ≤ c.batches ↔
        c.batchSize.toNat * (j + 1) ≤ c.greatest.toNat - c.least.toNat := by
      rw [many, Nat.le_div_iff_mul_le positive, mul_comm]
    rw [add_assoc, step]
    constructor
    · intro beyond
      refine Or.inl ?_
      by_contra notLast
      have := fit.mp (by omega)
      omega
    · rintro (isLast | tooFew)
      · have := mt fit.mpr (by omega)
        omega
      · exact absurd tooFew none

theorem reserve_tag (policy : RolloverPolicy) (tag : String) (size : UInt64) (block : Block) :
    (policy.reserve tag size block).2.tag = tag := by
  rw [RolloverPolicy.reserve]
  split
  · rfl
  · next stays =>
      rw [RolloverPolicy.rollsOver, Bool.or_eq_true, not_or] at stays
      simpa using stays.2

theorem reserve_stale (fits : c.Fits) (tag : String) (block : Block) (stale : block.tag ≠ tag) :
    (c.policy.reserve tag c.batchSize block).1 = c.least ∧
      c.Stands 1 (c.policy.reserve tag c.batchSize block).2 := by
  have rolls : c.policy.rollsOver { block with nextValue := block.nextValue + c.batchSize } tag =
      true := by
    simp [RolloverPolicy.rollsOver, stale]
  have room := fits.room
  have batch := fits.batch_le
  have order := fits.order
  rw [RolloverPolicy.reserve, if_pos rolls]
  refine ⟨rfl, 1, batches_pos, ?_, rfl⟩
  change (c.least + c.batchSize).toNat = _
  rw [UInt64.toNat_add, Nat.mod_eq_of_lt (by omega), mul_one]

/-- The next batch of a day starts where the batches before it end, or at the least value. -/
theorem reserve_current (fits : c.Fits) (tag : String) (block : Block) (m : ℕ)
    (current : block.tag = tag) (stands : c.Stands m block) :
    (c.policy.reserve tag c.batchSize block).1.toNat =
        c.least.toNat + c.batchSize.toNat * (m % c.batches) ∧
      c.Stands (m + 1) (c.policy.reserve tag c.batchSize block).2 := by
  obtain ⟨j, inRange, position, congruent⟩ := stands
  have room := fits.room
  have batch := fits.batch_le
  have order := fits.order
  have whole : c.batchSize.toNat * j ≤ c.period := Nat.mul_le_mul_left _ inRange
  have period := fits.period_le
  have next : (block.nextValue + c.batchSize).toNat =
      c.least.toNat + c.batchSize.toNat * j + c.batchSize.toNat := by
    rw [UInt64.toNat_add, position, Nat.mod_eq_of_lt]
    omega
  have first : (c.least + c.batchSize).toNat = c.least.toNat + c.batchSize.toNat := by
    rw [UInt64.toNat_add, Nat.mod_eq_of_lt]
    omega
  have rolls : c.policy.rollsOver { block with nextValue := block.nextValue + c.batchSize } tag =
      true ↔ j = c.batches ∨ c.greatest.toNat - c.least.toNat < c.batchSize.toNat := by
    rw [← fits.roll_iff j inRange, ← next, ← UInt64.lt_iff_toNat_lt]
    simp only [RolloverPolicy.rollsOver, current, policy, bne_self_eq_false, Bool.or_false]
    exact decide_eq_true_iff
  rw [RolloverPolicy.reserve]
  by_cases restarts : j = c.batches ∨ c.greatest.toNat - c.least.toNat < c.batchSize.toNat
  · -- either way the position before and the one after the start are the same modulo the batches
    have start : m % c.batches = 0 := by
      rw [← congruent]
      rcases restarts with isLast | none
      · rw [isLast, Nat.mod_self]
      · have one : c.batches = 1 := by
          rw [batches, Nat.div_eq_of_lt none]
          rfl
        rw [one, Nat.mod_one]
    rw [if_pos (rolls.mpr restarts), start, mul_zero, add_zero]
    refine ⟨rfl, 1, batches_pos, ?_, ?_⟩
    · rw [mul_one]
      exact first
    · rw [Nat.add_mod, start, Nat.zero_add, Nat.mod_mod]
  · have notLast : j ≠ c.batches := fun isLast => restarts (Or.inl isLast)
    rw [if_neg (mt rolls.mp restarts)]
    refine ⟨?_, j + 1, by omega, ?_, ?_⟩
    · rw [← congruent, Nat.mod_eq_of_lt (by omega)]
      exact position
    · rw [mul_add, mul_one, ← add_assoc]
      exact next
    · rw [Nat.add_mod j, congruent, ← Nat.add_mod]

end SequenceConfig
end CardPayments
