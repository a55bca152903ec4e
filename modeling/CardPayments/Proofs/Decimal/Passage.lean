import CardPayments.Proofs.Decimal.Shortest
import CardPayments.Proofs.Decimal.Sum
import CardPayments.Proofs.Decimal.Written

/-! # Decimals on their way through a double

A text of digits with a point among them is read as the double nearest to its number, and this as
its shortest decimal.  What a decimal can hold comes through as a decimal again, unless it was near
the limit; it comes through unchanged when it has at most fifteen digits, and else almost so. -/
set_option autoImplicit false

namespace CardPayments

/-! ## Reading the text -/

def signed (negative : Bool) (q : ℚ) : ℚ := if negative then -q else q

theorem abs_signed (negative : Bool) (q : ℚ) : |signed negative q| = |q| := by
  rw [signed]
  split
  · exact abs_neg q
  · rfl

theorem signed_sub (negative : Bool) (q r : ℚ) :
    signed negative (q - r) = signed negative q - signed negative r := by
  rw [signed, signed, signed]
  split
  · exact neg_sub_neg q r ▸ neg_sub q r
  · rfl

namespace Decimal

theorem exists_ofParts (negative : Bool) {magnitude scale : ℕ} (fits : magnitude < limit)
    (le : scale ≤ 28) :
    ∃ a, ofParts negative magnitude scale = some a ∧
      a.number = signed negative (magnitude / 10 ^ scale) := by
  refine ⟨_, dif_pos ⟨fits, le⟩, ?_⟩
  cases negative
  · simp [number, signed]
  · simp [number, signed, neg_div]

/-- A text that begins with a digit, with and without a minus. -/
theorem ofPlain?_signed (negative : Bool) {c : Char} (digit : Text.isDigit c = true)
    (s : List Char) :
    ofPlain? (if negative then '-' :: c :: s else c :: s) =
      (readWhole 0 false (c :: s)).bind fun parts => ofParts negative parts.1 parts.2 := by
  cases negative
  · rw [if_neg Bool.false_ne_true, ofPlain?, readSign_of_isDigit digit]
    cases readWhole 0 false (c :: s) <;> rfl
  · rw [if_pos rfl, ofPlain?, readSign]
    cases readWhole 0 false (c :: s) <;> rfl

end Decimal

namespace Binary64

section

variable {x : Binary64}

/-- The text of a whole number that ends in zeros. -/
theorem exists_wholeText (c k : ℕ) :
    ∃ first rest, Text.isDigit first = true ∧
      Text.digitsFrom 0 (first :: rest) = some (c * 10 ^ k) ∧
      (if c = 0 then ['0'] else Text.digits c ++ List.replicate k '0') = first :: rest := by
  split
  · next zero =>
      subst zero
      exact ⟨'0', [], by decide, by rw [Nat.zero_mul]; rfl, rfl⟩
  · have read : Text.digitsFrom 0 (Text.digits c ++ List.replicate k '0') =
        some (c * 10 ^ k) := by
      rw [Text.digitsFrom_append, Text.digitsFrom_digits, Option.bind_some,
        Text.digitsFrom_replicate, Nat.pow_eq]
    cases written : Text.digits c with
    | nil => exact absurd written (Text.digits_ne_nil c)
    | cons first rest =>
        have digit := Text.isDigit_digits c first (by rw [written]; exact List.mem_cons_self)
        rw [written] at read
        exact ⟨first, rest ++ List.replicate k '0', digit, read, rfl⟩

theorem exists_pointed (c k : ℕ) :
    ∃ first rest, Text.isDigit first = true ∧
      Decimal.pointed k (Text.digits c) = first :: rest := by
  obtain ⟨whole, fraction, filled, all, _, _, written⟩ := Decimal.pointed_parts c k
  cases whole with
  | nil => exact absurd rfl filled
  | cons first more => exact ⟨first, _, all first List.mem_cons_self, written⟩

/-- The text of the shortest decimal is read as its number, when that fits. -/
theorem toDecimal?_spec (negative : Bool) (places : -28 ≤ x.shortest.2)
    (short : x.shortest.1 < 10 ^ 18) :
    (x.shortestNumber < Decimal.limit →
      ∃ a, x.toDecimal? negative = some a ∧ a.number = signed negative x.shortestNumber) ∧
    (Decimal.limit ≤ x.shortestNumber → x.toDecimal? negative = none) := by
  rw [toDecimal?, toList, shortestNumber]
  generalize x.shortest = shortest at places short ⊢
  obtain ⟨c, p⟩ := shortest
  dsimp only at places short ⊢
  by_cases nonneg : 0 ≤ p
  · obtain ⟨k, rfl⟩ := Int.eq_ofNat_of_zero_le nonneg
    obtain ⟨first, rest, digit, read, text⟩ := exists_wholeText c k
    have value : (c : ℚ) * 10 ^ (k : ℤ) = (c * 10 ^ k : ℕ) := by push_cast; rfl
    rw [if_pos nonneg, Int.toNat_natCast, text, Decimal.ofPlain?_signed negative digit, value]
    constructor
    · intro fits
      have fits : c * 10 ^ k < Decimal.limit := by exact_mod_cast fits
      have all : Decimal.readWhole 0 false (first :: rest) = some (c * 10 ^ k, 0) := by
        have all := Decimal.readWhole_digits false read fits (List.cons_ne_nil _ _) []
        rwa [List.append_nil] at all
      rw [all, Option.bind_some]
      simpa using Decimal.exists_ofParts negative fits (Nat.zero_le 28)
    · intro large
      rw [Decimal.readWhole_large false read (by decide) (by exact_mod_cast large)]
      rfl
  · obtain ⟨k, rfl⟩ : ∃ k : ℕ, p = -k := ⟨(-p).toNat, by omega⟩
    have fits : c < Decimal.limit := short.trans (by decide)
    obtain ⟨first, rest, digit, text⟩ := exists_pointed c k
    have read : Decimal.readWhole 0 false (Decimal.pointed k (Text.digits c)) = some (c, k) :=
      Decimal.readWhole_pointed fits (by omega)
    have value : (c : ℚ) * 10 ^ (-k : ℤ) = c / 10 ^ k := by
      rw [zpow_neg, zpow_natCast, div_eq_mul_inv]
    rw [if_neg nonneg, neg_neg, Int.toNat_natCast, text, Decimal.ofPlain?_signed negative digit,
      ← text, read, value]
    refine ⟨fun _ => Decimal.exists_ofParts negative fits (by omega), fun large => ?_⟩
    have : (c : ℚ) / 10 ^ k ≤ c := div_le_self (Nat.cast_nonneg c) (one_le_pow₀ (by norm_num))
    have fits : (c : ℚ) < Decimal.limit := by exact_mod_cast fits
    linarith

end

end Binary64

namespace Binary64

section

/-- A whole number over a power of ten that a decimal can hold, without its sign. -/
def Held (whole places : ℕ) : Prop :=
  ∃ coefficient scale, coefficient < Decimal.limit ∧ scale ≤ 28 ∧
    whole * 10 ^ scale = coefficient * 10 ^ places

variable {whole places : ℕ}

theorem Held.coefficient_pos {coefficient scale : ℕ} (positive : 0 < whole)
    (same : whole * 10 ^ scale = coefficient * 10 ^ places) : 0 < coefficient := by
  refine Nat.pos_of_ne_zero ?_
  rintro rfl
  have := Nat.mul_pos positive (Nat.pow_pos (by decide) : 0 < 10 ^ scale)
  omega

theorem Held.exists_coefficient (held : Held whole places) (positive : 0 < whole) :
    ∃ coefficient scale : ℕ, 0 < coefficient ∧ coefficient < 10 ^ 29 ∧ scale ≤ 28 ∧
      (whole : ℚ) / 10 ^ places = coefficient * 10 ^ (-scale : ℤ) := by
  obtain ⟨coefficient, scale, fits, le, same⟩ := held
  refine ⟨coefficient, scale, coefficient_pos positive same, fits.trans (by decide), le, ?_⟩
  rw [zpow_neg, zpow_natCast, ← div_eq_mul_inv, div_eq_div_iff (by positivity) (by positivity)]
  exact_mod_cast same

/-- No number that a decimal can hold is out of range for the double. -/
theorem ofDecimal_eq (held : Held whole places) :
    ofDecimal whole (-places) = nearest whole (10 ^ places) := by
  rcases Nat.eq_zero_or_pos whole with rfl | positive
  · simp [ofDecimal, nearest]
  · obtain ⟨coefficient, scale, fits, le, same⟩ := held
    have power (k : ℕ) : 0 < 10 ^ k := Nat.pow_pos (by decide)
    have some := Held.coefficient_pos positive same
    have lower : 10 ^ places < 10 ^ ((Text.digits whole).length + 28) := by
      have short := Text.lt_of_digitsFrom (Text.digitsFrom_digits whole)
      calc 10 ^ places ≤ coefficient * 10 ^ places := Nat.le_mul_of_pos_left _ some
        _ = whole * 10 ^ scale := same.symm
        _ ≤ whole * 10 ^ 28 := Nat.mul_le_mul_left _ (Nat.pow_le_pow_right (by decide) le)
        _ < 10 ^ (Text.digits whole).length * 10 ^ 28 := by
            rw [zero_add, one_mul] at short
            exact Nat.mul_lt_mul_of_pos_right short (power 28)
        _ = 10 ^ ((Text.digits whole).length + 28) := (pow_add 10 _ 28).symm
    have upper : whole < Nat.pow 10 (29 + places) := by
      calc whole ≤ whole * 10 ^ scale := Nat.le_mul_of_pos_right _ (power scale)
        _ = coefficient * 10 ^ places := same
        _ < 10 ^ 29 * 10 ^ places :=
            Nat.mul_lt_mul_of_pos_right (fits.trans (by decide)) (power places)
        _ = 10 ^ (29 + places) := (pow_add 10 29 places).symm
    have long := (Nat.pow_lt_pow_iff_right (by decide)).mp lower
    have short := Text.length_digits_le (by omega) upper
    rw [ofDecimal, if_neg (by omega), if_neg (by omega)]
    split
    · next unscaled =>
        obtain rfl : places = 0 := by omega
        simp
    · rw [neg_neg, Int.toNat_natCast]
      rfl

/-- What becomes of a number that is read through a double. -/
structure Passes (q : ℚ) (x : Binary64) : Prop where
  places : -28 ≤ x.shortest.2
  short : x.shortest.1 < 10 ^ 18
  near : |x.shortestNumber - q| ≤ q / 2 ^ 51
  same : ∀ (m : ℕ) (e : ℤ), m < 10 ^ 15 → q = m * 10 ^ e → x.shortestNumber = q

theorem passes_zero : Passes 0 zero where
  places := by decide
  short := by decide
  near := by simp [shortestNumber, shortest, zero]
  same := by simp [shortestNumber, shortest, zero]

theorem size_bounds {coefficient scale : ℕ} (positive : 0 < coefficient)
    (fits : coefficient < 10 ^ 29) (le : scale ≤ 28) :
    (2 : ℚ) ^ (-1000 : ℤ) ≤ coefficient * 10 ^ (-scale : ℤ) ∧
      (coefficient : ℚ) * 10 ^ (-scale : ℤ) ≤ 2 ^ (1000 : ℤ) := by
  have ten {a b : ℤ} (le : a ≤ b) : (10 : ℚ) ^ a ≤ 10 ^ b := zpow_le_zpow_right₀ (by norm_num) le
  have step : (0 : ℚ) < 10 ^ (-scale : ℤ) := zpow_pos (by norm_num) _
  constructor
  · have tiny : (2 : ℚ) ^ (-1000 : ℤ) ≤ 10 ^ (-301 : ℤ) := by
      rw [zpow_neg, zpow_neg]
      exact inv_anti₀ (zpow_pos (by norm_num) _) ten_pow_le_two_pow
    have one : (1 : ℚ) ≤ coefficient := by exact_mod_cast positive
    exact (tiny.trans (ten (by omega))).trans (le_mul_of_one_le_left step.le one)
  · have most : (coefficient : ℚ) ≤ 10 ^ (29 : ℤ) := by exact_mod_cast fits.le
    calc (coefficient : ℚ) * 10 ^ (-scale : ℤ) ≤ 10 ^ (29 : ℤ) * 10 ^ (0 : ℤ) :=
          mul_le_mul most (ten (by omega)) step.le (by norm_num)
      _ = 10 ^ (29 : ℤ) := by rw [zpow_zero, mul_one]
      _ ≤ 2 ^ (1000 : ℤ) := (ten (by omega)).trans ten_pow_le_two_pow

theorem exists_passes (held : Held whole places) :
    ∃ x, nearest whole (10 ^ places) = some x ∧ Passes (whole / 10 ^ places) x := by
  rcases Nat.eq_zero_or_pos whole with rfl | positive
  · exact ⟨zero, by rw [nearest, if_pos rfl], by simpa using passes_zero⟩
  · obtain ⟨coefficient, scale, some, fits, le, size⟩ := held.exists_coefficient positive
    have denPositive : 0 < 10 ^ places := Nat.pow_pos (by decide)
    obtain ⟨lower, upper⟩ := size_bounds some fits le
    have quotient : (whole : ℚ) / (10 ^ places : ℕ) = coefficient * 10 ^ (-scale : ℤ) := by
      rw [← size]
      push_cast
      rfl
    obtain ⟨x, found⟩ := nearest_isSome positive denPositive (quotient.trans_le upper)
    obtain ⟨canonical, covers⟩ := nearest_spec positive denPositive found
    rw [quotient] at covers
    rw [size]
    have full := canonical.full_of_covers covers lower
    obtain ⟨least, covered, short⟩ := shortest_spec canonical (by omega) some fits covers
    refine ⟨x, found, by omega, short, covers.near covered full, fun m e digits value => ?_⟩
    rw [value] at covers lower ⊢
    have filled : 0 < m := by
      have : (0 : ℚ) < m * 10 ^ e := (zpow_pos two_pos _).trans_le lower
      exact_mod_cast pos_of_mul_pos_left this (zpow_pos (by norm_num) e).le
    exact shortestNumber_eq canonical full filled digits covers

end

/-! ## Texts with a point -/

theorem toLower_of_isDigit {c : Char} (digit : Text.isDigit c = true) : c.toLower = c := by
  obtain ⟨d, digit⟩ := Text.exists_digit digit
  rw [Text.digit?] at digit
  split at digit
  · next between =>
      have upper : c.val ≤ '9'.val := between.2
      have noCapital : ¬ (c.val ≥ 'A'.val ∧ c.val ≤ 'Z'.val) := fun capital =>
        absurd (UInt32.le_trans capital.1 upper) (by decide)
      exact dif_neg noCapital
  · cases digit

/-- A text of digits with a point is read as the double of its number. -/
theorem read?_pointed {s whole fraction : List Char} {negative : Bool} {magnitude : ℕ}
    (sign : Decimal.readSign s = (negative, whole ++ '.' :: fraction)) (filled : whole ≠ [])
    (wholeDigits : ∀ c ∈ whole, Text.isDigit c = true)
    (fractionDigits : ∀ c ∈ fraction, Text.isDigit c = true)
    (read : Text.digitsFrom 0 (whole ++ fraction) = some magnitude) :
    read? s = some (match ofDecimal magnitude (-fraction.length) with
      | some x => .finite negative x
      | none => .special) := by
  have finite :
      readFinite (whole ++ '.' :: fraction) = some (magnitude, -(fraction.length : ℤ)) := by
    have front : (whole ++ '.' :: fraction).takeWhile Text.isDigit = whole := by
      rw [List.takeWhile_append_of_pos wholeDigits, List.takeWhile_cons_of_neg (by decide),
        List.append_nil]
    have back : (whole ++ '.' :: fraction).dropWhile Text.isDigit = '.' :: fraction := by
      rw [List.dropWhile_append_of_pos wholeDigits, List.dropWhile_cons_of_neg (by decide)]
    have number : Text.number? (whole ++ fraction) = some magnitude := by
      rw [Text.number?, List.isEmpty_eq_false_iff.mpr (by simp [filled]),
        if_neg Bool.false_ne_true, read]
    simp only [readFinite, front, back, Text.takeWhile_isDigit fractionDigits,
      Text.dropWhile_isDigit fractionDigits, number]
  have noWord (word : String) (letter : (word.toList.head?.all Text.isDigit) = false) :
      String.ofList ((whole ++ '.' :: fraction).map Char.toLower) ≠ word := by
    rintro rfl
    cases whole with
    | nil => exact filled rfl
    | cons c more =>
        have digit := wholeDigits c List.mem_cons_self
        simp [toLower_of_isDigit digit, digit] at letter
  rw [read?, sign]
  dsimp only
  rw [if_neg (not_or.mpr ⟨noWord _ (by decide),
    not_or.mpr ⟨noWord _ (by decide), noWord _ (by decide)⟩⟩), finite]
  rfl

end Binary64
end CardPayments
