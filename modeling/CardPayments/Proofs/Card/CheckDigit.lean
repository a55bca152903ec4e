import Mathlib.Data.Nat.Bits
import Mathlib.Logic.ExistsUnique
import CardPayments.Card
import CardPayments.Proofs.Text.Digits

/-! # The check digit of a card number

Counted from the right, every second digit weighs as much as its double, with the carry added, and
the others weigh what they are.  Modulo ten, different digits weigh differently at either kind of
place, and two neighbours that change places weigh the same only when they are zero and nine.  So
a number with one wrong digit is noticed, and with any digits in front exactly one last digit makes
a number. -/
set_option autoImplicit false

namespace CardPayments

namespace Text

def digitValue (c : Char) : Nat := (digit? c).getD 0

theorem digitValue_lt {c : Char} (digit : isDigit c = true) : digitValue c < 10 := by
  obtain ⟨d, isDigit⟩ := exists_digit digit
  rw [digitValue, isDigit]
  exact digit?_lt isDigit

theorem digitValue_digitChar {d : Nat} (small : d < 10) : digitValue (digitChar d) = d := by
  rw [digitValue, digit?_digitChar d small, Option.getD_some]

theorem digitChar_digitValue {c : Char} (digit : isDigit c = true) :
    digitChar (digitValue c) = c := by
  rw [isDigit, digit?] at digit
  rw [digitValue, digit?]
  split at digit
  · next between =>
      have lower : '0'.toNat ≤ c.toNat := between.1
      rw [if_pos between, Option.getD_some, digitChar, Nat.add_sub_cancel' lower, Char.ofNat_toNat]
  · cases digit

theorem eq_of_digitValue {c d : Char} (digit : isDigit c = true) (digit' : isDigit d = true)
    (same : digitValue c = digitValue d) : c = d := by
  rw [← digitChar_digitValue digit, same, digitChar_digitValue digit']

end Text

open Text

namespace Pan

/-! ## Weights of digits -/

def weight (twice : Bool) (d : Nat) : Nat := if twice then doubled d else d

theorem eq_of_weight (twice : Bool) {d e : Nat} (small : d < 10) (small' : e < 10)
    (same : weight twice d % 10 = weight twice e % 10) : d = e := by
  have every : ∀ (twice : Bool) (d e : Fin 10),
      weight twice d % 10 = weight twice e % 10 → d.val = e.val := by decide
  exact every twice ⟨d, small⟩ ⟨e, small'⟩ same

theorem weight_swap_iff (twice : Bool) {d e : Nat} (small : d < 10) (small' : e < 10)
    (other : d ≠ e) :
    (weight (!twice) d + weight twice e) % 10 = (weight (!twice) e + weight twice d) % 10 ↔
      d = 0 ∧ e = 9 ∨ d = 9 ∧ e = 0 := by
  have every : ∀ (twice : Bool) (d e : Fin 10), d.val ≠ e.val →
      ((weight (!twice) d + weight twice e) % 10 = (weight (!twice) e + weight twice d) % 10 ↔
        d.val = 0 ∧ e.val = 9 ∨ d.val = 9 ∧ e.val = 0) := by decide
  exact every twice ⟨d, small⟩ ⟨e, small'⟩ other

/-! ## Sums of weights -/

/-- The Luhn sum of digits of which the first one is doubled or not, and then every second one. -/
def luhnFrom : Bool → List Nat → Nat
  | _, [] => 0
  | twice, d :: rest => weight twice d + luhnFrom (!twice) rest

theorem luhnSum_eq_luhnFrom (digits : List Nat) : luhnSum digits = luhnFrom false digits := by
  induction digits using luhnSum.induct with
  | case1 => rfl
  | case2 d => simp [luhnSum, luhnFrom, weight]
  | case3 d e rest ih =>
      simp only [luhnSum, ih, luhnFrom, weight, Bool.not_false, Bool.not_true, if_true,
        Bool.false_eq_true, if_false]
      omega

theorem luhnFrom_append (twice : Bool) (left right : List Nat) :
    luhnFrom twice (left ++ right) =
      luhnFrom twice left + luhnFrom (twice ^^ left.length.bodd) right := by
  induction left generalizing twice with
  | nil => simp [luhnFrom]
  | cons d left ih =>
      rw [List.cons_append, luhnFrom, ih, luhnFrom, List.length_cons, Nat.bodd_succ, Bool.not_xor,
        Bool.xor_not, Nat.add_assoc]

/-- The Luhn sum of a text, whose last digit is not doubled. -/
def luhnOf (s : List Char) : Nat := luhnFrom false (s.reverse.map digitValue)

theorem passesLuhn_iff (s : List Char) : passesLuhn s = true ↔ luhnOf s % 10 = 0 := by
  rw [passesLuhn, luhnSum_eq_luhnFrom, beq_iff_eq]
  rfl

/-- What all digits but one add to the sum: those behind it, and those in front. -/
def luhnBeside (front back : List Char) : Nat :=
  luhnOf back + luhnFrom (!back.length.bodd) (front.reverse.map digitValue)

/-- A digit is doubled when an odd number of digits stands behind it. -/
theorem luhnOf_around (front back : List Char) (c : Char) :
    luhnOf (front ++ c :: back) =
      weight back.length.bodd (digitValue c) + luhnBeside front back := by
  have reversed : (front ++ c :: back).reverse.map digitValue =
      back.reverse.map digitValue ++ digitValue c :: front.reverse.map digitValue := by
    simp
  rw [luhnOf, reversed, luhnFrom_append, luhnFrom, luhnBeside, luhnOf, List.length_map,
    List.length_reverse, Bool.false_xor]
  omega

/-- Of two neighbours one is doubled. -/
theorem exists_luhnOf_around (front back : List Char) : ∃ twice rest, ∀ c d,
    luhnOf (front ++ c :: d :: back) =
      weight (!twice) (digitValue c) + weight twice (digitValue d) + rest := by
  refine ⟨back.length.bodd, luhnOf back + luhnFrom back.length.bodd (front.reverse.map digitValue),
    fun c d => ?_⟩
  have last := luhnOf_around [] back d
  rw [List.nil_append] at last
  rw [luhnOf_around, luhnBeside, last, luhnBeside, List.length_cons, Nat.bodd_succ, Bool.not_not]
  simp only [List.reverse_nil, List.map_nil, luhnFrom]
  omega

/-- Whatever the others add, exactly one digit completes the sum. -/
theorem existsUnique_weight (twice : Bool) (rest : Nat) :
    ∃! d : Nat, d < 10 ∧ (weight twice d + rest) % 10 = 0 := by
  have every : ∀ (twice : Bool) (rest : Fin 10),
      ∃ d : Fin 10, (weight twice d + rest) % 10 = 0 := by decide
  obtain ⟨d, completes⟩ := every twice ⟨rest % 10, Nat.mod_lt _ (by decide)⟩
  have sum : (weight twice d + rest) % 10 = 0 := by
    rw [← completes, Nat.add_mod_mod]
  refine ⟨d.val, ⟨d.isLt, sum⟩, fun e completesToo => ?_⟩
  obtain ⟨small, sum'⟩ := completesToo
  refine eq_of_weight twice small d.isLt ?_
  omega

/-! ## Texts of numbers -/

/-- The two digits whose order the check does not tell. -/
def ZeroAndNine (c d : Char) : Prop := c = '0' ∧ d = '9' ∨ c = '9' ∧ d = '0'

theorem zeroAndNine_iff {c d : Char} (digit : isDigit c = true) (digit' : isDigit d = true) :
    ZeroAndNine c d ↔
      digitValue c = 0 ∧ digitValue d = 9 ∨ digitValue c = 9 ∧ digitValue d = 0 := by
  have named {x : Char} (isX : isDigit x = true) {y : Char} (isY : isDigit y = true) :
      x = y ↔ digitValue x = digitValue y :=
    ⟨congrArg digitValue, eq_of_digitValue isX isY⟩
  have zero : isDigit '0' = true := by decide
  have nine : isDigit '9' = true := by decide
  rw [ZeroAndNine, named digit zero, named digit' nine, named digit nine, named digit' zero]
  rfl

structure Shaped (s : List Char) : Prop where
  long : 12 ≤ s.length
  short : s.length ≤ 19
  digits : ∀ c ∈ s, isDigit c = true

theorem check_of_shaped {s : List Char} (shaped : Shaped (trimList s)) :
    check (String.ofList s) =
      if luhnOf (trimList s) % 10 = 0 then .ok ⟨String.ofList (trimList s)⟩
      else .error (.invalid .panChecksum) := by
  have formed : 12 ≤ (trimList s).length ∧ (trimList s).length ≤ 19 ∧
      (trimList s).all isDigit = true :=
    ⟨shaped.long, shaped.short, List.all_eq_true.mpr shaped.digits⟩
  simp only [check, String.toList_ofList, if_pos formed, passesLuhn_iff]

theorem shaped_of_check {s : List Char} {pan : Pan} (accepted : check (String.ofList s) = .ok pan) :
    Shaped (trimList s) ∧ luhnOf (trimList s) % 10 = 0 := by
  rw [check, String.toList_ofList] at accepted
  split at accepted
  · next formed =>
      split at accepted
      · next passes =>
          have shaped : Shaped (trimList s) :=
            ⟨formed.1, formed.2.1, List.all_eq_true.mp formed.2.2⟩
          exact ⟨shaped, (passesLuhn_iff _).mp passes⟩
      · cases accepted
  · cases accepted

/-- When digits of an accepted number are exchanged for others, the sum alone decides. -/
theorem check_exchanged (middle other : List Char) {before after : List Char} {pan : Pan}
    (accepted : check (String.ofList (before ++ (middle ++ after))) = .ok pan)
    (filled : middle ≠ []) (sameLength : other.length = middle.length)
    (digits : ∀ c ∈ middle, isDigit c = true) (digits' : ∀ c ∈ other, isDigit c = true) :
    ∃ front back, luhnOf (front ++ (middle ++ back)) % 10 = 0 ∧
      check (String.ofList (before ++ (other ++ after))) =
        if luhnOf (front ++ (other ++ back)) % 10 = 0 then
          .ok ⟨String.ofList (front ++ (other ++ back))⟩
        else .error (.invalid .panChecksum) := by
  obtain ⟨front, back, trimmed⟩ := trimList_around before after
  have isMiddle := trimmed middle filled fun c member => not_isBlank_of_isDigit (digits c member)
  have isOther := trimmed other (by rintro rfl; exact filled (List.eq_nil_of_length_eq_zero
    sameLength.symm)) fun c member => not_isBlank_of_isDigit (digits' c member)
  obtain ⟨shaped, sum⟩ := shaped_of_check accepted
  rw [isMiddle] at shaped sum
  have sameCount : (front ++ (other ++ back)).length = (front ++ (middle ++ back)).length := by
    simp only [List.length_append, sameLength]
  have shaped' : Shaped (front ++ (other ++ back)) := by
    refine ⟨sameCount ▸ shaped.long, sameCount ▸ shaped.short, fun c member => ?_⟩
    simp only [List.mem_append] at member
    rcases member with inFront | inside | inBack
    · exact shaped.digits c (by simp [inFront])
    · exact digits' c inside
    · exact shaped.digits c (by simp [inBack])
  rw [← isOther] at shaped'
  refine ⟨front, back, sum, ?_⟩
  rw [check_of_shaped shaped', isOther]

section

variable {before after : List Char} {c d : Char} {pan : Pan}

theorem check_replaced (accepted : check (String.ofList (before ++ c :: after)) = .ok pan)
    (digit : isDigit c = true) (digit' : isDigit d = true) (other : d ≠ c) :
    check (String.ofList (before ++ d :: after)) = .error (.invalid .panChecksum) := by
  obtain ⟨front, back, sum, checked⟩ := check_exchanged [c] [d] accepted
    (List.cons_ne_nil _ _) rfl (List.forall_mem_singleton.mpr digit)
    (List.forall_mem_singleton.mpr digit')
  rw [List.singleton_append, luhnOf_around] at sum
  rw [List.singleton_append, List.singleton_append] at checked
  rw [checked, luhnOf_around, if_neg]
  intro sum'
  refine other (eq_of_digitValue digit' digit ?_)
  refine eq_of_weight back.length.bodd (digitValue_lt digit') (digitValue_lt digit) ?_
  omega

/-- Two neighbours change places. -/
theorem check_swapped (accepted : check (String.ofList (before ++ c :: d :: after)) = .ok pan)
    (digit : isDigit c = true) (digit' : isDigit d = true) (other : d ≠ c) :
    (¬ ZeroAndNine c d →
        check (String.ofList (before ++ d :: c :: after)) = .error (.invalid .panChecksum)) ∧
      (ZeroAndNine c d → ∃ swapped,
        check (String.ofList (before ++ d :: c :: after)) = .ok swapped) := by
  have all {x y : Char} (first : isDigit x = true) (second : isDigit y = true) :
      ∀ z ∈ [x, y], isDigit z = true := by simp [first, second]
  obtain ⟨front, back, sum, checked⟩ := check_exchanged [c, d] [d, c] accepted
    (List.cons_ne_nil _ _) rfl (all digit digit') (all digit' digit)
  obtain ⟨twice, rest, around⟩ := exists_luhnOf_around front back
  change luhnOf (front ++ c :: d :: back) % 10 = 0 at sum
  change check (String.ofList (before ++ d :: c :: after)) =
    if luhnOf (front ++ d :: c :: back) % 10 = 0 then _ else _ at checked
  rw [around] at sum checked
  have swap := weight_swap_iff twice (digitValue_lt digit) (digitValue_lt digit')
    fun same => other (eq_of_digitValue digit digit' same).symm
  rw [zeroAndNine_iff digit digit']
  constructor
  · intro apart
    rw [checked, if_neg]
    intro sum'
    refine apart (swap.mp ?_)
    omega
  · intro zeroAndNine
    have same := swap.mpr zeroAndNine
    rw [checked, if_pos]
    · exact ⟨_, rfl⟩
    · omega

/-- With any digits in front, exactly one last digit makes a number. -/
theorem existsUnique_last {ds : List Char} (long : 11 ≤ ds.length) (short : ds.length ≤ 18)
    (digits : ∀ c ∈ ds, isDigit c = true) :
    ∃! c : Char, isDigit c = true ∧ ∃ pan, check (String.ofList (ds ++ [c])) = .ok pan := by
  have accepts (c : Char) (digit : isDigit c = true) :
      (∃ pan, check (String.ofList (ds ++ [c])) = .ok pan) ↔
        (weight false (digitValue c) + luhnBeside ds []) % 10 = 0 := by
    have all : ∀ x ∈ ds ++ [c], isDigit x = true := by
      intro x member
      rcases List.mem_append.mp member with inside | last
      · exact digits x inside
      · rwa [List.mem_singleton.mp last]
    have trimmed := trimList_of_visible fun x member => not_isBlank_of_isDigit (all x member)
    have shaped : Shaped (ds ++ [c]) :=
      ⟨by rw [List.length_append]; simp; omega, by rw [List.length_append]; simp; omega, all⟩
    rw [check_of_shaped (trimmed.symm ▸ shaped), trimmed, luhnOf_around]
    split
    · next sum => exact iff_of_true ⟨_, rfl⟩ sum
    · next sum =>
        refine iff_of_false ?_ sum
        rintro ⟨_, ⟨⟩⟩
  obtain ⟨d, ⟨small, completes⟩, unique⟩ := existsUnique_weight false (luhnBeside ds [])
  have digit := isDigit_digitChar small
  refine ⟨digitChar d, ⟨digit, (accepts _ digit).mpr ?_⟩, fun c accepted => ?_⟩
  · rwa [digitValue_digitChar small]
  · obtain ⟨digit', taken⟩ := accepted
    rw [← digitChar_digitValue digit']
    exact congrArg digitChar
      (unique _ ⟨digitValue_lt digit', (accepts c digit').mp taken⟩)

end

end Pan

/-- A number in which one digit is another one fails the check, and so does one in which two
different neighbours have changed places, zero and nine apart.  Behind any 11 to 18 digits exactly
one digit makes a number. -/
theorem wrong_digits_are_noticed :
    (∀ before c after pan, Pan.check (String.ofList (before ++ c :: after)) = .ok pan →
      isDigit c = true → ∀ d, isDigit d = true → d ≠ c →
        Pan.check (String.ofList (before ++ d :: after)) = .error (.invalid .panChecksum)) ∧
    (∀ before c d after pan, Pan.check (String.ofList (before ++ c :: d :: after)) = .ok pan →
      isDigit c = true → isDigit d = true → d ≠ c →
        (¬ Pan.ZeroAndNine c d → Pan.check (String.ofList (before ++ d :: c :: after)) =
          .error (.invalid .panChecksum)) ∧
        (Pan.ZeroAndNine c d →
          ∃ swapped, Pan.check (String.ofList (before ++ d :: c :: after)) = .ok swapped)) ∧
    ∀ ds : List Char, 11 ≤ ds.length → ds.length ≤ 18 → (∀ c ∈ ds, isDigit c = true) →
      ∃! c : Char, isDigit c = true ∧ ∃ pan, Pan.check (String.ofList (ds ++ [c])) = .ok pan := by
  refine ⟨?_, ?_, ?_⟩
  · intro before c after pan accepted digit d digit' other
    exact Pan.check_replaced accepted digit digit' other
  · intro before c d after pan accepted digit digit' other
    exact Pan.check_swapped accepted digit digit' other
  · intro ds long short digits
    exact Pan.existsUnique_last long short digits

/-- A number with blanks around it, in which each of the changes is made. -/
theorem wrong_digits_are_noticed_sample :
    Pan.check " 4000000000000903 " = .ok ⟨"4000000000000903"⟩ ∧
      Pan.check " 5000000000000903 " = .error (.invalid .panChecksum) ∧
      Pan.check " 0400000000000903 " = .error (.invalid .panChecksum) ∧
      (∃ pan, Pan.check " 4000000000009003 " = .ok pan) ∧
      ∃! c : Char, isDigit c = true ∧
        ∃ pan, Pan.check (String.ofList ("400000000000090".toList ++ [c])) = .ok pan := by
  obtain ⟨replaced, swapped, last⟩ := wrong_digits_are_noticed
  have accepted : Pan.check " 4000000000000903 " = .ok ⟨"4000000000000903"⟩ := by rfl
  refine ⟨accepted, ?_, ?_, ?_, ?_⟩
  · exact replaced [' '] '4' "000000000000903 ".toList _ accepted rfl '5' rfl (by decide)
  · exact (swapped [' '] '4' '0' "00000000000903 ".toList _ accepted rfl rfl (by decide)).1
      (by simp [Pan.ZeroAndNine])
  · exact (swapped " 400000000000".toList '0' '9' "03 ".toList _ accepted rfl rfl (by decide)).2
      (Or.inl ⟨rfl, rfl⟩)
  · exact last "400000000000090".toList (by decide) (by decide) (List.all_eq_true.mp rfl)

end CardPayments
