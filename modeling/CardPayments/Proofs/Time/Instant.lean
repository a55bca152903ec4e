import CardPayments.Proofs.Text.Digits
import CardPayments.Proofs.Time.Calendar
import CardPayments.Time.Instant

/-! # Points in time read back

A written point in time gives itself back when it lies in a year of four digits and is no leap
second. -/
set_option autoImplicit false

namespace CardPayments.Instant

/-- A year of four digits, and no leap second. -/
structure Plain (t : Instant) : Prop where
  nanos : t.nanos < billion
  after : 0 ≤ t.date.year
  before : t.date.year ≤ 9999

/-! ## Digits and marks -/

section

variable {width n most : Nat} {ds s : List Char}

theorem skipBlanks_digits (all : ∀ c ∈ ds, Text.isDigit c = true) (filled : ds ≠ []) :
    skipBlanks (ds ++ s) = ds ++ s := by
  cases ds with
  | nil => exact absurd rfl filled
  | cons c rest =>
      have visible := Text.not_isBlank_of_isDigit (all c List.mem_cons_self)
      rw [skipBlanks, List.cons_append, List.dropWhile_cons_of_neg (by simp [visible])]

theorem skipBlanks_cons {c : Char} (visible : Text.isBlank c = false) :
    skipBlanks (c :: s) = c :: s := by
  rw [skipBlanks, List.dropWhile_cons_of_neg (by simp [visible])]

theorem paddedDigits_ne_nil (width n : Nat) : Text.paddedDigits width n ≠ [] := by
  simp [Text.paddedDigits, Text.padLeft, Text.digits_ne_nil]

theorem readNumber_paddedDigits (wide : 0 < width) (fits : n < Nat.pow 10 width) :
    readNumber width (Text.paddedDigits width n ++ s) = some (n, s) := by
  have long := Text.length_paddedDigits wide fits
  have taken : (Text.paddedDigits width n ++ s).take width = Text.paddedDigits width n := by
    rw [List.take_append_of_le_length (by omega), List.take_of_length_le (by omega)]
  have digits : (Text.paddedDigits width n).takeWhile Text.isDigit = Text.paddedDigits width n :=
    Text.takeWhile_isDigit (Text.isDigit_paddedDigits width n)
  rw [readNumber]
  simp only [taken, digits, Text.number?_paddedDigits, Option.map_some, List.drop_left]

theorem readField_paddedDigits (wide : 0 < width) (fits : n < Nat.pow 10 width) :
    readField width (Text.paddedDigits width n ++ s) = some (n, s) := by
  rw [readField,
    skipBlanks_digits (Text.isDigit_paddedDigits width n) (paddedDigits_ne_nil width n),
    readNumber_paddedDigits wide fits]

theorem readMark_cons (mark : Char) (visible : Text.isBlank mark = false) :
    readMark mark (mark :: s) = some s := by
  rw [readMark, skipBlanks_cons visible]
  exact if_pos rfl

theorem readYear_yearToList {year : Int} (after : 0 ≤ year) (before : year ≤ 9999) :
    readYear (yearToList year ++ s) = some (year, s) := by
  have digits := Text.isDigit_paddedDigits 4 year.toNat
  have number := readNumber_paddedDigits (s := s) (show 0 < 4 by decide)
    (show year.toNat < 10 ^ 4 by omega)
  rw [yearToList, if_pos ⟨after, before⟩, readYear,
    skipBlanks_digits digits (paddedDigits_ne_nil 4 _)]
  have unsigned {c : Char} {rest : List Char} (sign : Text.isDigit c = false) :
      Text.paddedDigits 4 year.toNat ++ s ≠ c :: rest := by
    cases written : Text.paddedDigits 4 year.toNat with
    | nil => exact absurd written (paddedDigits_ne_nil 4 _)
    | cons first more =>
        intro same
        have digit := digits first (by rw [written]; exact List.mem_cons_self)
        rw [(List.cons.inj same).1, sign] at digit
        cases digit
  split
  · next written => exact absurd written (unsigned (by decide))
  · next written => exact absurd written (unsigned (by decide))
  · rw [number]
    simp [Int.toNat_of_nonneg after]

/-- The digits of a fraction end at the mark of the time zone. -/
theorem readFraction_paddedDigits (wide : 0 < width) (short : width ≤ 9)
    (fits : n < Nat.pow 10 width) :
    readFraction ('.' :: Text.paddedDigits width n ++ ['Z']) =
      some (n * Nat.pow 10 (9 - width), ['Z']) := by
  have long := Text.length_paddedDigits wide fits
  have ends (k : Nat) : (['Z'].take k).takeWhile Text.isDigit = [] := by
    cases k <;> rfl
  have digits : ((Text.paddedDigits width n ++ ['Z']).take 9).takeWhile Text.isDigit =
      Text.paddedDigits width n := by
    rw [List.take_append, List.take_of_length_le (by omega),
      List.takeWhile_append_of_pos (Text.isDigit_paddedDigits width n), ends, List.append_nil]
  have rest : (Text.paddedDigits width n ++ ['Z']).drop width = ['Z'] := List.drop_left' long
  simp only [readFraction, List.cons_append, digits, Text.number?_paddedDigits, Option.map_some,
    long, rest]
  rfl

theorem readFraction_fractionToList {nanos : Nat} (small : nanos < billion) :
    readFraction (fractionToList nanos ++ ['Z']) = some (nanos, ['Z']) := by
  rw [billion] at small
  rw [fractionToList]
  split
  · next none =>
      rw [none]
      rfl
  split
  · next millis =>
      have fits : nanos / 1000000 < 1000 := by omega
      rw [readFraction_paddedDigits (by decide) (by decide) fits]
      have exact : nanos / 1000000 * 1000000 = nanos := by omega
      change some (nanos / 1000000 * 1000000, ['Z']) = _
      rw [exact]
  split
  · next micros =>
      have fits : nanos / 1000 < 1000000 := by omega
      rw [readFraction_paddedDigits (by decide) (by decide) fits]
      have exact : nanos / 1000 * 1000 = nanos := by omega
      change some (nanos / 1000 * 1000, ['Z']) = _
      rw [exact]
  · rw [readFraction_paddedDigits (by decide) (by decide) small]
    simp

end

theorem readOffset_utc : readOffset (skipBlanks ['Z']) = some (0, []) := by decide

theorem assemble_date {t : Instant} (plain : t.Plain) {hour minute second : Nat}
    (inDay : hour < 24) (inHour : minute < 60) (inMinute : second < 60)
    (ofDay : hour * 3600 + minute * 60 + second = (t.seconds % 86400).toNat) :
    assemble t.date hour minute second t.nanos 0 = some t := by
  have valid : t.date.isValid = true := Date.isValid_ofDayNumber _
  have day : t.date.dayNumber = t.seconds / 86400 := Date.dayNumber_ofDayNumber _
  have after := plain.after
  have before := plain.before
  have seconds : t.date.dayNumber * 86400 +
      ((hour * 3600 + minute * 60 + min second 59 : Nat) : Int) - 0 = t.seconds := by
    rw [day]
    omega
  rw [assemble, if_pos ⟨valid, inDay, inHour, by omega, by decide, by omega, by omega⟩]
  simp only [seconds, if_neg (show ¬ second = 60 by omega)]
  exact if_pos ⟨Int.le_trans (by decide) after, Int.le_trans before (by decide)⟩

theorem ofList?_toList {t : Instant} (plain : t.Plain) : ofList? t.toList = some t := by
  have valid : t.date.isValid = true := Date.isValid_ofDayNumber _
  have fields : t.date.month < 10 ^ 2 ∧ t.date.day < 10 ^ 2 := by
    have month : Date.daysInMonth t.date.year t.date.month ≤ 31 := by
      rw [Date.daysInMonth]
      split
      · split <;> decide
      · split <;> decide
    simp only [Date.isValid, Bool.and_eq_true, decide_eq_true_eq] at valid
    omega
  have notLeap : ¬ billion ≤ t.nanos := Nat.not_le.mpr plain.nanos
  have assembled := assemble_date plain
    (show (t.seconds % 86400).toNat / 3600 < 24 by omega)
    (show (t.seconds % 86400).toNat / 60 % 60 < 60 by omega)
    (show (t.seconds % 86400).toNat % 60 < 60 by omega) (by omega)
  have two {n : Nat} (fits : n < 10 ^ 2) (s : List Char) :
      readField 2 (Text.paddedDigits 2 n ++ s) = some (n, s) :=
    readField_paddedDigits (by decide) fits
  simp only [toList, if_neg notLeap]
  rw [ofList?]
  refine Option.bind_eq_some_iff.mpr ⟨_, readYear_yearToList plain.after plain.before, ?_⟩
  refine Option.bind_eq_some_iff.mpr ⟨_, readMark_cons '-' (by decide), ?_⟩
  refine Option.bind_eq_some_iff.mpr ⟨_, two fields.1 _, ?_⟩
  refine Option.bind_eq_some_iff.mpr ⟨_, readMark_cons '-' (by decide), ?_⟩
  refine Option.bind_eq_some_iff.mpr ⟨_, two fields.2 _, ?_⟩
  refine Option.bind_eq_some_iff.mpr ⟨_, two (by omega) _, ?_⟩
  refine Option.bind_eq_some_iff.mpr ⟨_, readMark_cons ':' (by decide), ?_⟩
  refine Option.bind_eq_some_iff.mpr ⟨_, two (by omega) _, ?_⟩
  refine Option.bind_eq_some_iff.mpr ⟨_, readMark_cons ':' (by decide), ?_⟩
  refine Option.bind_eq_some_iff.mpr ⟨_, two (by omega) _, ?_⟩
  refine Option.bind_eq_some_iff.mpr ⟨_, readFraction_fractionToList plain.nanos, ?_⟩
  refine Option.bind_eq_some_iff.mpr ⟨_, readOffset_utc, ?_⟩
  exact (if_pos rfl).trans assembled

end CardPayments.Instant
