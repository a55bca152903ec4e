import CardPayments.Text.Blank
import CardPayments.Text.Digits

/-! # Digits that are written and read back

What is known of written digits beside their value: they are digits, the first one is no zero unless
the number is zero, and padded ones have exactly the width they were given when the number fits.
Hexadecimal digits of a width hold a number up to that width. -/
set_option autoImplicit false

namespace CardPayments.Text

/-! ## Decimal digits -/

theorem isDigit_digitChar {d : Nat} (small : d < 10) : isDigit (digitChar d) = true := by
  rw [isDigit, digit?_digitChar d small]
  rfl

theorem exists_digit {c : Char} (digit : isDigit c = true) : ∃ d, digit? c = some d :=
  Option.isSome_iff_exists.mp digit

theorem isDigit_zero : isDigit '0' = true := by decide

theorem isDigit_reverseDigits (n : Nat) : ∀ c ∈ reverseDigits n, isDigit c = true := by
  induction n using Nat.strongRecOn with
  | ind n ih =>
      intro c member
      unfold reverseDigits at member
      split at member
      · cases member
      · next positive =>
          rcases List.mem_cons.mp member with rfl | later
          · exact isDigit_digitChar (Nat.mod_lt n (by decide))
          · exact ih (n / 10) (Nat.div_lt_self (by omega) (by decide)) c later

theorem isDigit_digits (n : Nat) : ∀ c ∈ digits n, isDigit c = true := by
  intro c member
  unfold digits at member
  split at member
  · rw [List.mem_singleton.mp member]
    exact isDigit_zero
  · exact isDigit_reverseDigits n c (List.mem_reverse.mp member)

theorem digits_ne_nil (n : Nat) : digits n ≠ [] := by
  unfold digits
  split
  · exact List.cons_ne_nil _ _
  · next positive =>
      exact fun empty => reverseDigits_ne_nil positive (List.reverse_eq_nil_iff.mp empty)

theorem digitsFrom_digits (n : Nat) : digitsFrom 0 (digits n) = some n := by
  unfold digits
  split
  · next zero => rw [zero]; rfl
  · exact digitsFrom_reverseDigits n

theorem digit?_lt {c : Char} {d : Nat} (digit : digit? c = some d) : d < 10 := by
  rw [digit?] at digit
  split at digit
  · next between =>
      have upper : c.toNat ≤ '9'.toNat := between.2
      have zero : '0'.toNat = 48 := rfl
      have nine : '9'.toNat = 57 := rfl
      have value := Option.some.inj digit
      omega
  · cases digit

theorem digitsFrom_replicate (start k : Nat) :
    digitsFrom start (List.replicate k '0') = some (start * Nat.pow 10 k) := by
  induction k generalizing start with
  | zero => exact congrArg some (Nat.mul_one start).symm
  | succ k ih =>
      have next := ih (start * 10)
      have tenfold : Nat.pow 10 (k + 1) = 10 * Nat.pow 10 k := Nat.pow_succ'
      rw [Nat.mul_assoc, ← tenfold] at next
      exact next

/-- The value of a run of digits is bounded by its length. -/
theorem lt_of_digitsFrom {start n : Nat} {ds : List Char}
    (read : digitsFrom start ds = some n) : n < (start + 1) * Nat.pow 10 ds.length := by
  induction ds generalizing start with
  | nil =>
      cases read
      exact Nat.lt_of_lt_of_eq (Nat.lt_succ_self n) (Nat.mul_one (n + 1)).symm
  | cons c rest ih =>
      rw [digitsFrom] at read
      split at read
      · next d digit =>
          have small : d < 10 := digit?_lt digit
          have later := ih read
          have wider : start * 10 + d + 1 ≤ (start + 1) * 10 := by omega
          have tenfold : Nat.pow 10 (rest.length + 1) = 10 * Nat.pow 10 rest.length :=
            Nat.pow_succ'
          rw [List.length_cons, tenfold, ← Nat.mul_assoc]
          exact Nat.lt_of_lt_of_le later (Nat.mul_le_mul_right _ wider)
      · cases read

/-- A number other than zero is written without a zero in front. -/
theorem getLast?_reverseDigits (n : Nat) : (reverseDigits n).getLast? ≠ some '0' := by
  induction n using Nat.strongRecOn with
  | ind n ih =>
      unfold reverseDigits
      split
      · exact nofun
      · next positive =>
          have smaller := ih (n / 10) (Nat.div_lt_self (by omega) (by decide))
          rw [List.getLast?_cons]
          cases last : (reverseDigits (n / 10)).getLast? with
          | some c =>
              rw [last] at smaller
              simpa using smaller
          | none =>
              -- the number has one digit, and that is not zero
              rw [List.getLast?_eq_none_iff] at last
              have single : n / 10 = 0 :=
                Decidable.byContradiction fun more => reverseDigits_ne_nil more last
              have digit : ∀ k : Fin 10, k.val ≠ 0 → digitChar k.val ≠ '0' := by decide
              have nonzero := digit ⟨n % 10, Nat.mod_lt n (by decide)⟩ (by simp only; omega)
              simpa using nonzero

theorem head?_digits {n : Nat} (positive : n ≠ 0) : (digits n).head? ≠ some '0' := by
  rw [digits, if_neg positive, List.head?_reverse]
  exact getLast?_reverseDigits n

theorem length_reverseDigits_le {n width : Nat} (fits : n < Nat.pow 10 width) :
    (reverseDigits n).length ≤ width := by
  induction width generalizing n with
  | zero =>
      have zero : n = 0 := by simpa using fits
      rw [zero, reverseDigits, if_pos rfl]
      exact Nat.le_refl 0
  | succ width ih =>
      unfold reverseDigits
      split
      · exact Nat.zero_le _
      · have wider : Nat.pow 10 (width + 1) = Nat.pow 10 width * 10 := Nat.pow_succ _ _
        have rest := ih (show n / 10 < Nat.pow 10 width by omega)
        simpa using rest

theorem length_digits_le {n width : Nat} (wide : 0 < width) (fits : n < Nat.pow 10 width) :
    (digits n).length ≤ width := by
  unfold digits
  split
  · exact wide
  · simpa using length_reverseDigits_le fits

theorem takeWhile_isDigit {s : List Char} (all : ∀ c ∈ s, isDigit c = true) :
    s.takeWhile isDigit = s := by
  have whole : (s ++ []).takeWhile isDigit = s ++ [].takeWhile isDigit :=
    List.takeWhile_append_of_pos all
  simpa using whole

theorem dropWhile_isDigit {s : List Char} (all : ∀ c ∈ s, isDigit c = true) :
    s.dropWhile isDigit = [] := by
  have rest : (s ++ []).dropWhile isDigit = [].dropWhile isDigit :=
    List.dropWhile_append_of_pos all
  simpa using rest

/-! ## Padded digits -/

theorem isDigit_padLeft {width : Nat} {s : List Char} (all : ∀ c ∈ s, isDigit c = true) :
    ∀ c ∈ padLeft width s, isDigit c = true := by
  intro c member
  rcases List.mem_append.mp member with zero | written
  · rw [(List.mem_replicate.mp zero).2]
    exact isDigit_zero
  · exact all c written

theorem length_padLeft (width : Nat) (s : List Char) :
    (padLeft width s).length = max width s.length := by
  simp only [padLeft, List.length_append, List.length_replicate]
  omega

theorem digitsFrom_padLeft (width : Nat) (s : List Char) :
    digitsFrom 0 (padLeft width s) = digitsFrom 0 s := by
  rw [padLeft, digitsFrom_append, digitsFrom_replicate, Nat.zero_mul]
  rfl

section

variable {width n : Nat}

theorem isDigit_paddedDigits (width n : Nat) : ∀ c ∈ paddedDigits width n, isDigit c = true :=
  isDigit_padLeft (isDigit_digits n)

theorem length_paddedDigits (wide : 0 < width) (fits : n < Nat.pow 10 width) :
    (paddedDigits width n).length = width := by
  rw [paddedDigits, length_padLeft]
  exact Nat.max_eq_left (length_digits_le wide fits)

theorem digitsFrom_paddedDigits (width n : Nat) : digitsFrom 0 (paddedDigits width n) = some n := by
  rw [paddedDigits, digitsFrom_padLeft, digitsFrom_digits]

theorem number?_paddedDigits (width n : Nat) : number? (paddedDigits width n) = some n := by
  have filled : (paddedDigits width n).isEmpty = false := by
    simp [paddedDigits, padLeft, digits_ne_nil]
  rw [number?, filled, digitsFrom_paddedDigits]
  rfl

end

/-- A blank is no digit. -/
theorem not_isBlank_of_isDigit {c : Char} (digit : isDigit c = true) : isBlank c = false := by
  rw [isDigit, digit?] at digit
  split at digit
  · next between =>
      have lower : '0'.toNat ≤ c.toNat := between.1
      have upper : c.toNat ≤ '9'.toNat := between.2
      have zero : '0'.toNat = 48 := rfl
      have nine : '9'.toNat = 57 := rfl
      simp only [isBlank, Bool.or_eq_false_iff, Bool.and_eq_false_iff, beq_eq_false_iff_ne,
        decide_eq_false_iff_not, ne_eq]
      omega
  · cases digit

theorem trimList_of_visible {s : List Char} (visible : ∀ c ∈ s, isBlank c = false) :
    trimList s = s := by
  have front {s : List Char} (visible : ∀ c ∈ s, isBlank c = false) :
      s.dropWhile isBlank = s := by
    cases s with
    | nil => rfl
    | cons c rest =>
        rw [List.dropWhile_cons_of_neg]
        simp [visible c List.mem_cons_self]
  rw [trimList, front visible, front, List.reverse_reverse]
  exact fun c member => visible c (List.mem_reverse.mp member)

theorem dropWhile_isBlank_append {s : List Char} {c : Char} {t : List Char}
    (visible : isBlank c = false) :
    (s ++ c :: t).dropWhile isBlank = s.dropWhile isBlank ++ c :: t := by
  induction s with
  | nil => simp [visible]
  | cons d s ih =>
      by_cases blank : isBlank d = true
      · simp [blank, ih]
      · simp [blank]

/-- Blanks are only dropped before and after what is visible. -/
theorem trimList_around (before after : List Char) : ∃ front back, ∀ middle : List Char,
    middle ≠ [] → (∀ c ∈ middle, isBlank c = false) →
      trimList (before ++ (middle ++ after)) = front ++ (middle ++ back) := by
  refine ⟨before.dropWhile isBlank, (after.reverse.dropWhile isBlank).reverse, ?_⟩
  have head {s m t : List Char} (filled : m ≠ []) (visible : ∀ c ∈ m, isBlank c = false) :
      (s ++ (m ++ t)).dropWhile isBlank = s.dropWhile isBlank ++ (m ++ t) := by
    obtain ⟨c, m, rfl⟩ := List.exists_cons_of_ne_nil filled
    exact dropWhile_isBlank_append (visible c List.mem_cons_self)
  intro middle filled visible
  rw [trimList, head filled visible]
  have turned (front : List Char) : (front ++ (middle ++ after)).reverse =
      after.reverse ++ (middle.reverse ++ front.reverse) := by simp
  rw [turned, head (by simpa using filled) fun c member => visible c (List.mem_reverse.mp member)]
  simp

/-! ## Hexadecimal digits -/

theorem hexDigit?_hexChar {d : Nat} (small : d < 16) : hexDigit? (hexChar d) = some d := by
  have every : ∀ k : Fin 16, hexDigit? (hexChar k.val) = some k.val := by decide
  exact every ⟨d, small⟩

theorem hexFrom_append (start : Nat) (left right : List Char) :
    hexFrom start (left ++ right) = (hexFrom start left).bind (hexFrom · right) := by
  induction left generalizing start with
  | nil => rfl
  | cons c rest ih =>
      simp only [List.cons_append, hexFrom]
      cases hexDigit? c with
      | none => rfl
      | some d => exact ih _

theorem length_hexDigits (width n : Nat) : (hexDigits width n).length = width := by
  induction width generalizing n with
  | zero => rfl
  | succ width ih => simp [hexDigits, ih]

theorem hexFrom_hexDigits (width n : Nat) :
    hexFrom 0 (hexDigits width n) = some (n % Nat.pow 16 width) := by
  induction width generalizing n with
  | zero => simp [hexDigits, hexFrom, Nat.mod_one]
  | succ width ih =>
      have digit := hexDigit?_hexChar (Nat.mod_lt n (by decide : 0 < 16))
      rw [hexDigits, hexFrom_append, ih, Option.bind_some]
      simp only [hexFrom, digit, Option.some.injEq]
      have wider : Nat.pow 16 (width + 1) = 16 * Nat.pow 16 width :=
        (Nat.pow_succ _ _).trans (Nat.mul_comm _ _)
      rw [wider, Nat.mod_mul]
      omega

end CardPayments.Text
