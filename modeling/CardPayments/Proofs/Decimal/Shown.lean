import CardPayments.Money
import CardPayments.Proofs.Decimal.Sum
import CardPayments.Proofs.Decimal.Written

/-! # Amounts as they are shown

An amount is shown without the zeros at the end of its fraction.  Without them it has the smallest
scale that can hold its number, and no other decimal has the same number and that scale: so amounts
are shown alike exactly when their numbers are the same, and what is shown is read back as that
decimal. -/
set_option autoImplicit false

namespace CardPayments

namespace Decimal

/-! ## Without zeros at the end -/

/-- The fraction does not end in a zero. -/
def IsStripped (a : Decimal) : Prop := a.scale = 0 ∨ a.coefficient % 10 ≠ 0

theorem stripParts_value (coefficient : ℤ) (scale : ℕ) :
    ((stripParts coefficient scale).1 : ℚ) / 10 ^ (stripParts coefficient scale).2 =
      coefficient / 10 ^ scale := by
  induction scale generalizing coefficient with
  | zero => rfl
  | succ scale ih =>
      rw [stripParts]
      split
      · next ends =>
          have tenfold : (coefficient : ℚ) = (coefficient / 10 : ℤ) * 10 := by
            exact_mod_cast (Int.ediv_mul_cancel (Int.dvd_of_emod_eq_zero ends)).symm
          rw [ih (coefficient / 10), tenfold, pow_succ, mul_div_mul_right _ _ (by norm_num)]
      · rfl

theorem stripParts_ends (coefficient : ℤ) (scale : ℕ) :
    (stripParts coefficient scale).2 = 0 ∨ (stripParts coefficient scale).1 % 10 ≠ 0 := by
  induction scale generalizing coefficient with
  | zero => exact Or.inl rfl
  | succ scale ih =>
      rw [stripParts]
      split
      · exact ih (coefficient / 10)
      · next ends => exact Or.inr ends

@[simp] theorem number_strip (a : Decimal) : a.strip.number = a.number :=
  stripParts_value a.coefficient a.scale

theorem isStripped_strip (a : Decimal) : a.strip.IsStripped :=
  stripParts_ends a.coefficient a.scale

namespace IsStripped

variable {a b : Decimal}

/-- On a coarser scale the coefficient would be a multiple of ten. -/
theorem scale_le (stripped : a.IsStripped) (same : b.number = a.number) : a.scale ≤ b.scale := by
  by_contra coarser
  have finer : b.scale < a.scale := not_le.mp coarser
  have power : (10 : ℚ) ^ a.scale = 10 ^ b.scale * 10 ^ (a.scale - b.scale) := by
    rw [← pow_add, Nat.add_sub_cancel' finer.le]
  have scaled : a.coefficient = b.coefficient * 10 ^ (a.scale - b.scale) := by
    have : (a.coefficient : ℚ) = b.coefficient * 10 ^ (a.scale - b.scale) := by
      rw [← number_mul_pow a, ← number_mul_pow b, same, power, mul_assoc]
    exact_mod_cast this
  have ends : (10 : ℤ) ∣ a.coefficient := by
    rw [scaled]
    exact (dvd_pow_self 10 (Nat.sub_ne_zero_of_lt finer)).mul_left b.coefficient
  rcases stripped with whole | digit
  · omega
  · exact digit (Int.emod_eq_zero_of_dvd ends)

theorem eq_of_number_eq (left : a.IsStripped) (right : b.IsStripped) (same : a.number = b.number) :
    a = b := by
  have scales : a.scale = b.scale :=
    Nat.le_antisymm (left.scale_le same.symm) (right.scale_le same)
  have coefficients : a.coefficient = b.coefficient := by
    have : (a.coefficient : ℚ) = b.coefficient := by
      rw [← number_mul_pow a, ← number_mul_pow b, same, scales]
    exact_mod_cast this
  cases a
  cases b
  congr

end IsStripped

theorem strip_eq_iff (a b : Decimal) : a.strip = b.strip ↔ a.number = b.number := by
  constructor
  · intro same
    rw [← number_strip a, ← number_strip b, same]
  · intro same
    apply a.isStripped_strip.eq_of_number_eq b.isStripped_strip
    rw [number_strip, number_strip, same]

/-! ## Shown and read -/

theorem ofPlain?_toText (a : Decimal) : ofPlain? a.toText.toList = some a := by
  rw [toText, String.toList_ofList, ofPlain?_toList]

theorem toText_inj {a b : Decimal} (same : a.toText = b.toText) : a = b := by
  have read := congrArg (fun text : String => ofPlain? text.toList) same
  simp only [ofPlain?_toText] at read
  exact Option.some.inj read

end Decimal

/-- Amounts are shown alike exactly when their numbers are the same.  What is shown of an amount can
be read as a decimal, with the amount's number and the smallest scale of all decimals with it. -/
theorem shown_amounts_tell_numbers (a b : Amount) :
    (a.toText = b.toText ↔ a.value.number = b.value.number) ∧
    ∃ read : Decimal, Decimal.ofPlain? a.toText.toList = some read ∧
      read.number = a.value.number ∧
      IsLeast {scale | ∃ other : Decimal, other.number = a.value.number ∧ other.scale = scale}
        read.scale := by
  constructor
  · rw [← Decimal.strip_eq_iff]
    exact ⟨Decimal.toText_inj, congrArg Decimal.toText⟩
  · refine ⟨a.value.strip, a.value.strip.ofPlain?_toText, a.value.number_strip, ?_, ?_⟩
    · exact ⟨a.value.strip, a.value.number_strip, rfl⟩
    · rintro _ ⟨other, same, rfl⟩
      exact a.value.isStripped_strip.scale_le (same.trans a.value.number_strip.symm)

/-- The least amount, with its last digit on the finest scale, and a large one with a fraction of
zeros only. -/
example :
    Amount.toText ⟨⟨1, 28, by decide, by decide⟩, by decide⟩ = "0.0000000000000000000000000001" ∧
      Amount.toText ⟨⟨79228162514264337593543950000, 4, by decide, by decide⟩, by decide⟩ =
        "7922816251426433759354395" := by
  decide +kernel

end CardPayments
