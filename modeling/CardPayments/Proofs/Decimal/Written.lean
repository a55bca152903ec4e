import CardPayments.Decimal.Numeral
import CardPayments.Proofs.Text.Digits

/-! # Decimals read back

The written form of a decimal is read back to the same coefficient and the same scale: no digit of
it is rounded away, since every number that its first digits stand for is no larger than the
coefficient. -/
set_option autoImplicit false

namespace CardPayments.Decimal

theorem le_of_digitsFrom {start n : Nat} {ds : List Char}
    (read : Text.digitsFrom start ds = some n) : start ≤ n := by
  induction ds generalizing start with
  | nil => exact Nat.le_of_eq (Option.some.inj read)
  | cons c rest ih =>
      rw [Text.digitsFrom] at read
      split at read
      · next d _ =>
          have later := ih read
          omega
      · cases read

section

variable {start n scale : Nat} {ds : List Char}

theorem readFraction_digits (seen : Bool) (read : Text.digitsFrom start ds = some n)
    (fits : n < limit) (short : scale + ds.length ≤ 28) (any : seen = true ∨ ds ≠ []) :
    readFraction start scale seen ds = some (n, scale + ds.length) := by
  induction ds generalizing start scale seen with
  | nil =>
      rcases any with rfl | filled
      · cases read
        rfl
      · exact absurd rfl filled
  | cons c rest ih =>
      rw [Text.digitsFrom] at read
      split at read
      · next d digit =>
          have room : scale < 28 ∧ start * 10 + d < limit := by
            have later := le_of_digitsFrom read
            simp only [List.length_cons] at short
            omega
          have shorter : scale + 1 + rest.length ≤ 28 := by
            simp only [List.length_cons] at short
            omega
          have others := ih true read shorter (.inl rfl)
          simp only [readFraction, digit, if_pos room, others, List.length_cons]
          rw [Nat.add_right_comm, Nat.add_assoc]
      · cases read

theorem readWhole_digits (seen : Bool) (read : Text.digitsFrom start ds = some n)
    (fits : n < limit) (filled : ds ≠ []) (s : List Char) :
    readWhole start seen (ds ++ s) = readWhole n true s := by
  induction ds generalizing start seen with
  | nil => exact absurd rfl filled
  | cons c rest ih =>
      rw [Text.digitsFrom] at read
      split at read
      · next d digit =>
          have room : start * 10 + d < limit := Nat.lt_of_le_of_lt (le_of_digitsFrom read) fits
          simp only [List.cons_append, readWhole, digit, if_pos room]
          cases rest with
          | nil =>
              cases read
              rfl
          | cons next more => exact ih true read (List.cons_ne_nil _ _)
      · cases read

theorem readWhole_large (seen : Bool)
    (read : Text.digitsFrom start ds = some n) (fits : start < limit) (large : limit ≤ n) :
    readWhole start seen ds = none := by
  induction ds generalizing start seen with
  | nil =>
      cases read
      exact absurd fits (Nat.not_lt.mpr large)
  | cons c rest ih =>
      rw [Text.digitsFrom] at read
      split at read
      · next d digit =>
          simp only [readWhole, digit]
          split
          · next room => exact ih true read room
          · rfl
      · cases read

end

/-- The digits in front of the point and those behind it. -/
theorem pointed_parts (n scale : Nat) :
    ∃ whole fraction, whole ≠ [] ∧ (∀ c ∈ whole, Text.isDigit c = true) ∧
      fraction.length = scale ∧ Text.digitsFrom 0 (whole ++ fraction) = some n ∧
      pointed scale (Text.digits n) = whole ++ if scale = 0 then [] else '.' :: fraction := by
  by_cases unscaled : scale = 0
  · refine ⟨Text.digits n, [], Text.digits_ne_nil n, Text.isDigit_digits n, unscaled.symm, ?_, ?_⟩
    · rw [List.append_nil, Text.digitsFrom_digits]
    · rw [pointed, if_pos unscaled, if_pos unscaled, List.append_nil]
  · obtain ⟨padded, padding⟩ : ∃ s, s = Text.padLeft (scale + 1) (Text.digits n) := ⟨_, rfl⟩
    have long : scale < padded.length := by
      rw [padding, Text.length_padLeft]
      omega
    have number : Text.digitsFrom 0 padded = some n := by
      rw [padding, Text.digitsFrom_padLeft, Text.digitsFrom_digits]
    have all : ∀ c ∈ padded, Text.isDigit c = true := by
      rw [padding]
      exact Text.isDigit_padLeft (Text.isDigit_digits n)
    refine ⟨padded.take (padded.length - scale), padded.drop (padded.length - scale), ?_,
      fun c member => all c (List.mem_of_mem_take member), ?_, ?_, ?_⟩
    · intro empty
      have short := congrArg List.length empty
      simp only [List.length_take, List.length_nil] at short
      omega
    · rw [List.length_drop]
      omega
    · rw [List.take_append_drop, number]
    · rw [pointed, if_neg unscaled, if_neg unscaled, padding]

theorem readWhole_pointed {n scale : Nat} (fits : n < limit) (short : scale ≤ 28) :
    readWhole 0 false (pointed scale (Text.digits n)) = some (n, scale) := by
  obtain ⟨whole, fraction, filled, _, long, read, written⟩ := pointed_parts n scale
  rw [Text.digitsFrom_append] at read
  cases front : Text.digitsFrom 0 whole with
  | none =>
      rw [front] at read
      cases read
  | some sofar =>
      rw [front, Option.bind_some] at read
      have smaller : sofar < limit := Nat.lt_of_le_of_lt (le_of_digitsFrom read) fits
      rw [written, readWhole_digits false front smaller filled]
      by_cases unscaled : scale = 0
      · rw [if_pos unscaled]
        rw [unscaled, List.length_eq_zero_iff] at long
        rw [long] at read
        cases read
        rw [unscaled]
        rfl
      · rw [if_neg unscaled]
        have rest := readFraction_digits true read fits
          (show 0 + fraction.length ≤ 28 by omega) (.inl rfl)
        rw [long, Nat.zero_add] at rest
        exact rest

theorem readSign_of_isDigit {c : Char} (digit : Text.isDigit c = true) (s : List Char) :
    readSign (c :: s) = (false, c :: s) := by
  rw [readSign.eq_def]
  split
  · next same =>
      rw [(List.cons.inj same).1] at digit
      exact absurd digit (by decide)
  · next same =>
      rw [(List.cons.inj same).1] at digit
      exact absurd digit (by decide)
  · rfl

theorem readSign_pointed (n scale : Nat) :
    readSign (pointed scale (Text.digits n)) = (false, pointed scale (Text.digits n)) := by
  obtain ⟨whole, fraction, filled, all, _, _, written⟩ := pointed_parts n scale
  cases whole with
  | nil => exact absurd rfl filled
  | cons first more =>
      rw [written, List.cons_append, readSign_of_isDigit (all first List.mem_cons_self)]

theorem ofParts_self (a : Decimal) :
    ofParts (decide (a.coefficient < 0)) a.coefficient.natAbs a.scale = some a := by
  rw [ofParts, dif_pos ⟨a.fits, a.scale_le⟩]
  congr 1
  by_cases negative : a.coefficient < 0
  · simp only [negative, decide_true, if_true]
    congr 1
    omega
  · simp only [negative, decide_false]
    congr 1
    simp only [Bool.false_eq_true, if_false]
    omega

theorem ofPlain?_toList (a : Decimal) : ofPlain? a.toList = some a := by
  have magnitude := readWhole_pointed a.fits a.scale_le
  have parts := ofParts_self a
  by_cases negative : a.coefficient < 0
  · rw [decide_eq_true negative] at parts
    simp only [toList, if_pos negative, ofPlain?, readSign, magnitude, parts]
  · rw [decide_eq_false negative] at parts
    simp only [toList, if_neg negative, ofPlain?, readSign_pointed, magnitude, parts]

theorem ofNumeral?_toList (a : Decimal) : ofNumeral? a.toList = some a := by
  rw [ofNumeral?, ofPlain?_toList]

end CardPayments.Decimal
