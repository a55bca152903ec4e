import CardPayments.Csv.Command
import CardPayments.Proofs.Decimal.Passage

/-! # Plain numerals

A sign, digits, and maybe a point and more digits.  As an amount, one without a point is read when
it fits into 64 bits and refused otherwise, and one with a point is read as the shortest decimal of
the nearest double.  So at most fifteen digits come through unchanged, and more of them almost. -/
set_option autoImplicit false

namespace CardPayments.Csv

/-! ## Numerals -/

inductive Sign where
  | none
  | plus
  | minus
deriving DecidableEq, Repr

namespace Sign

def text : Sign → List Char
  | none => []
  | plus => ['+']
  | minus => ['-']

def isMinus : Sign → Bool
  | minus => true
  | _ => false

end Sign

/-- A sign, digits, and the digits behind a point if there is one. -/
structure PlainNumeral where
  sign : Sign
  whole : List (Fin 10)
  filled : whole ≠ []
  fraction : Option (List (Fin 10))
deriving DecidableEq

def digitsText (ds : List (Fin 10)) : List Char := ds.map fun d => Text.digitChar d.val

namespace PlainNumeral

def unsigned (n : PlainNumeral) : List Char :=
  digitsText n.whole ++
    match n.fraction with
    | none => []
    | some ds => '.' :: digitsText ds

def text (n : PlainNumeral) : String := String.ofList (n.sign.text ++ n.unsigned)

def digits (n : PlainNumeral) : List (Fin 10) := n.whole ++ n.fraction.getD []

/-- The number of all digits, as if there were no point. -/
def magnitude (n : PlainNumeral) : ℕ := n.digits.foldl (fun start d => start * 10 + d.val) 0

def places (n : PlainNumeral) : ℕ := (n.fraction.getD []).length

def number (n : PlainNumeral) : ℚ := signed n.sign.isMinus (n.magnitude / 10 ^ n.places)

def FitsWord (n : PlainNumeral) : Prop := -2 ^ 63 ≤ n.number ∧ n.number < 2 ^ 64

instance (n : PlainNumeral) : Decidable n.FitsWord := inferInstanceAs (Decidable (_ ∧ _))

/-- The numeral is read without loss: as a word of 64 bits, or by at most fifteen digits. -/
def IsShort (n : PlainNumeral) : Prop :=
  match n.fraction with
  | none => n.FitsWord
  | some _ => ∃ (m : ℕ) (e : ℤ), m < 10 ^ 15 ∧ |n.number| = m * 10 ^ e

/-- The number that is read from the numeral, if it is read. -/
def kept (n : PlainNumeral) : Option ℚ :=
  match n.fraction with
  | none => if n.FitsWord then some n.number else none
  | some _ =>
      (Binary64.nearest n.magnitude (10 ^ n.places)).bind fun x =>
        if x.shortestNumber < Decimal.limit then some (signed n.sign.isMinus x.shortestNumber)
        else none

end PlainNumeral

/-! ## Reading numerals -/

theorem digitsFrom_digitsText (start : ℕ) (ds : List (Fin 10)) :
    Text.digitsFrom start (digitsText ds) =
      some (ds.foldl (fun start d => start * 10 + d.val) start) := by
  induction ds generalizing start with
  | nil => rfl
  | cons d ds ih =>
      have next := ih (start * 10 + d.val)
      rw [digitsText] at next
      rw [digitsText, List.map_cons, Text.digitsFrom, Text.digit?_digitChar d d.isLt]
      exact next

theorem isDigit_digitsText (ds : List (Fin 10)) : ∀ c ∈ digitsText ds, Text.isDigit c = true := by
  intro c member
  obtain ⟨d, _, rfl⟩ := List.mem_map.mp member
  exact Text.isDigit_digitChar d.isLt

theorem Sign.readSign_append (sign : Sign) {c : Char} (digit : Text.isDigit c = true)
    (s : List Char) : Decimal.readSign (sign.text ++ c :: s) = (sign.isMinus, c :: s) := by
  cases sign with
  | none => exact Decimal.readSign_of_isDigit digit s
  | plus => rfl
  | minus => rfl

namespace PlainNumeral

variable (n : PlainNumeral)

theorem digitsText_ne_nil : digitsText n.whole ≠ [] := by
  simpa [digitsText] using n.filled

theorem exists_unsigned : ∃ c s, Text.isDigit c = true ∧ n.unsigned = c :: s := by
  cases first : digitsText n.whole with
  | nil => exact absurd first n.digitsText_ne_nil
  | cons c ds =>
      have digit := isDigit_digitsText n.whole c (by rw [first]; exact List.mem_cons_self)
      exact ⟨c, _, digit, by rw [unsigned, first, List.cons_append]⟩

theorem readSign_text : Decimal.readSign n.text.toList = (n.sign.isMinus, n.unsigned) := by
  obtain ⟨c, s, digit, first⟩ := n.exists_unsigned
  rw [text, String.toList_ofList, first, n.sign.readSign_append digit]

theorem digitsFrom_digits : Text.digitsFrom 0 (digitsText n.digits) = some n.magnitude :=
  digitsFrom_digitsText 0 n.digits

/-- The text is nothing that has no digit behind its sign. -/
theorem text_ne {word : String}
    (letter : (Decimal.readSign word.toList).2.head?.any Text.isDigit = false) :
    n.text ≠ word := by
  rintro rfl
  obtain ⟨c, s, digit, first⟩ := n.exists_unsigned
  rw [n.readSign_text, first] at letter
  simp [digit] at letter

theorem text_not_bool : ¬ (n.text = "true" ∨ n.text = "false") :=
  not_or.mpr ⟨n.text_ne (by decide), n.text_ne (by decide)⟩

def integer (n : PlainNumeral) : ℤ := if n.sign.isMinus then -n.magnitude else n.magnitude

variable {n}

theorem number_eq_integer (pointless : n.fraction = none) : n.number = n.integer := by
  rw [number, places, pointless, integer, signed]
  split <;> simp

theorem exists_ofInt {i : ℤ} (fits : fitsWord i = true) :
    ∃ a, Decimal.ofInt? i = some a ∧ a.number = i := by
  obtain ⟨lower, upper⟩ := of_decide_eq_true fits
  have small : i.natAbs < Decimal.limit := by
    have limit : Decimal.limit = 79228162514264337593543950336 := by decide
    norm_num at lower upper
    omega
  obtain ⟨a, found, value⟩ := Decimal.exists_ofParts (decide (i < 0)) small (Nat.zero_le 28)
  refine ⟨a, found, value.trans ?_⟩
  rw [pow_zero, div_one, signed, Nat.cast_natAbs]
  rcases lt_or_ge i 0 with negative | nonneg
  · rw [if_pos (decide_eq_true negative), abs_of_neg negative, Int.cast_neg, neg_neg]
  · rw [if_neg (by simpa using nonneg), abs_of_nonneg nonneg]

theorem readAmount_whole (pointless : n.fraction = none) :
    (readAmount n.text).map Decimal.number = if n.FitsWord then some n.number else none := by
  have all : n.unsigned = digitsText n.digits := by
    rw [unsigned, digits, pointless]
    simp
  have filled : digitsText n.digits ≠ [] := by
    rw [← all]
    obtain ⟨c, s, _, first⟩ := n.exists_unsigned
    rw [first]
    exact List.cons_ne_nil c s
  have isWhole : isInteger n.text.toList = true := by
    rw [isInteger, n.readSign_text, all]
    simpa [filled] using isDigit_digitsText n.digits
  have value : integer? n.text.toList = some n.integer := by
    rw [integer?, n.readSign_text, all]
    simp [Text.number?, filled, n.digitsFrom_digits, integer]
  have fits : fitsWord n.integer = true ↔ n.FitsWord := by
    rw [FitsWord, number_eq_integer pointless, fitsWord, decide_eq_true_eq]
    norm_num
    norm_cast
  rw [readAmount, if_neg n.text_not_bool, if_pos isWhole, value]
  dsimp only
  by_cases word : n.FitsWord
  · obtain ⟨a, found, same⟩ := exists_ofInt (fits.mpr word)
    rw [if_pos (fits.mpr word), if_pos word, found, Option.map_some, same,
      number_eq_integer pointless]
  · rw [if_neg (mt fits.mp word), if_neg word, Option.map_none]

theorem readAmount_pointed {ds : List (Fin 10)} (pointed : n.fraction = some ds)
    (held : Binary64.Held n.magnitude n.places) :
    readAmount n.text =
      (Binary64.nearest n.magnitude (10 ^ n.places)).bind
        (Binary64.toDecimal? n.sign.isMinus) := by
  have parts : n.unsigned = digitsText n.whole ++ '.' :: digitsText ds := by
    rw [unsigned, pointed]
  have isPointed : isInteger n.text.toList = false := by
    rw [isInteger, n.readSign_text, parts]
    simp [show Text.isDigit '.' = false by decide]
  have sign := n.readSign_text
  rw [parts] at sign
  have number : Text.digitsFrom 0 (digitsText n.whole ++ digitsText ds) = some n.magnitude := by
    rw [← n.digitsFrom_digits, digits, pointed, Option.getD_some, digitsText, digitsText,
      digitsText, List.map_append]
  have read := Binary64.read?_pointed sign n.digitsText_ne_nil (isDigit_digitsText n.whole)
    (isDigit_digitsText ds) number
  have places : (digitsText ds).length = n.places := by
    rw [PlainNumeral.places, pointed, Option.getD_some, digitsText, List.length_map]
  rw [places, Binary64.ofDecimal_eq held] at read
  rw [readAmount, if_neg n.text_not_bool, isPointed, if_neg Bool.false_ne_true, read]
  cases Binary64.nearest n.magnitude (10 ^ n.places) <;> rfl

/-! ## What is kept of the number -/

def IsHeld (n : PlainNumeral) : Prop := ∃ a : Decimal, a.number = n.number

def size (n : PlainNumeral) : ℚ := n.magnitude / 10 ^ n.places

theorem abs_number (n : PlainNumeral) : |n.number| = n.size := by
  have nonneg : 0 ≤ n.size := div_nonneg (Nat.cast_nonneg _) (by positivity)
  rw [number, abs_signed]
  exact abs_of_nonneg nonneg

theorem size_eq {a : Decimal} (same : a.number = n.number) :
    n.size = a.coefficient.natAbs / 10 ^ a.scale := by
  rw [← abs_number, ← same, Decimal.number, abs_div,
    abs_of_pos (by positivity : (0 : ℚ) < 10 ^ a.scale), Nat.cast_natAbs, Int.cast_abs]

theorem IsHeld.held (held : n.IsHeld) : Binary64.Held n.magnitude n.places := by
  obtain ⟨a, same⟩ := held
  have sizes := size_eq same
  rw [size, div_eq_div_iff (by positivity) (by positivity)] at sizes
  exact ⟨a.coefficient.natAbs, a.scale, a.fits, a.scale_le, by exact_mod_cast sizes⟩

theorem IsHeld.size_lt (held : n.IsHeld) : n.size < Decimal.limit := by
  obtain ⟨a, same⟩ := held
  have fits : (a.coefficient.natAbs : ℚ) < Decimal.limit := by exact_mod_cast a.fits
  rw [size_eq same]
  exact (div_le_self (Nat.cast_nonneg _) (one_le_pow₀ (by norm_num))).trans_lt fits

theorem kept_pointed (held : n.IsHeld) {ds : List (Fin 10)} (pointed : n.fraction = some ds) :
    ∃ x, Binary64.nearest n.magnitude (10 ^ n.places) = some x ∧ Binary64.Passes n.size x ∧
      n.kept = if x.shortestNumber < Decimal.limit then
        some (signed n.sign.isMinus x.shortestNumber) else none := by
  obtain ⟨x, found, passes⟩ := Binary64.exists_passes held.held
  exact ⟨x, found, passes, by rw [kept, pointed]; dsimp only; rw [found, Option.bind_some]⟩

theorem readAmount_text (held : n.IsHeld) : (readAmount n.text).map Decimal.number = n.kept := by
  cases point : n.fraction with
  | none =>
      rw [readAmount_whole point, kept, point]
  | some ds =>
      obtain ⟨x, found, passes, kept⟩ := kept_pointed held point
      rw [readAmount_pointed point held.held, found, Option.bind_some, kept]
      obtain ⟨fits, large⟩ := Binary64.toDecimal?_spec n.sign.isMinus passes.places passes.short
      split
      · next small =>
          obtain ⟨a, read, value⟩ := fits small
          rw [read, Option.map_some, value]
      · next tooLarge => rw [large (not_lt.mp tooLarge), Option.map_none]

/-- A short numeral is kept. -/
theorem kept_of_isShort (held : n.IsHeld) (short : n.IsShort) : n.kept = some n.number := by
  cases point : n.fraction with
  | none =>
      rw [IsShort, point] at short
      rw [kept, point]
      exact if_pos short
  | some ds =>
      rw [IsShort, point] at short
      obtain ⟨m, e, digits, value⟩ := short
      obtain ⟨x, _, passes, kept⟩ := kept_pointed held point
      have same := passes.same m e digits (n.abs_number.symm.trans value)
      rw [kept, same, if_pos held.size_lt]
      rfl

/-- Whatever is kept is almost the number. -/
theorem kept_near (held : n.IsHeld) {q : ℚ} (kept : n.kept = some q) :
    |q - n.number| ≤ |n.number| / 2 ^ 51 := by
  cases point : n.fraction with
  | none =>
      rw [PlainNumeral.kept, point] at kept
      dsimp only at kept
      split at kept
      · cases kept
        rw [sub_self, abs_zero]
        positivity
      · cases kept
  | some ds =>
      obtain ⟨x, _, passes, pointed⟩ := kept_pointed held point
      rw [pointed] at kept
      split at kept
      · cases kept
        have near := passes.near
        rw [n.abs_number, number, ← signed_sub, abs_signed]
        exact near
      · cases kept

/-- Only integers beyond a word are refused, and what comes near the limit by rounding. -/
theorem of_kept_none (held : n.IsHeld) (refused : n.kept = none) :
    n.fraction = none ∧ ¬ n.FitsWord ∨ (Decimal.limit : ℚ) ≤ |n.number| * (1 + 1 / 2 ^ 51) := by
  cases point : n.fraction with
  | none =>
      rw [kept, point] at refused
      dsimp only at refused
      split at refused
      · cases refused
      · next wide => exact Or.inl ⟨rfl, wide⟩
  | some ds =>
      obtain ⟨x, _, passes, pointed⟩ := kept_pointed held point
      rw [pointed] at refused
      split at refused
      · cases refused
      · next large =>
          have near := (abs_le.mp passes.near).2
          rw [n.abs_number]
          exact Or.inr (by linarith)

end PlainNumeral

end CardPayments.Csv
