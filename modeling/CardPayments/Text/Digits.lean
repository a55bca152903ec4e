/-! # Decimal digits

The value of a run of decimal digits, and the digits of a number: without leading zeros, or padded
with zeros on the left to a width.  Reading the digits of a number gives the number back. -/
set_option autoImplicit false

namespace CardPayments.Text

def digit? (c : Char) : Option Nat :=
  if '0' ≤ c ∧ c ≤ '9' then some (c.toNat - '0'.toNat) else none

def isDigit (c : Char) : Bool := (digit? c).isSome

def digitChar (d : Nat) : Char := Char.ofNat ('0'.toNat + d)

/-- The number that a run of digits continues, or nothing when a character is no digit. -/
def digitsFrom (start : Nat) : List Char → Option Nat
  | [] => some start
  | c :: rest =>
      match digit? c with
      | some d => digitsFrom (start * 10 + d) rest
      | none => none

def number? (s : List Char) : Option Nat :=
  if s.isEmpty then none else digitsFrom 0 s

/-- The digits of a number, last digit first, without leading zeros; zero has none. -/
def reverseDigits (n : Nat) : List Char :=
  if n = 0 then [] else digitChar (n % 10) :: reverseDigits (n / 10)

/-- The digits of a number without leading zeros; zero is `0`. -/
def digits (n : Nat) : List Char :=
  if n = 0 then ['0'] else (reverseDigits n).reverse

def padLeft (width : Nat) (s : List Char) : List Char :=
  List.replicate (width - s.length) '0' ++ s

def paddedDigits (width n : Nat) : List Char := padLeft width (digits n)

def hexDigit? (c : Char) : Option Nat :=
  if '0' ≤ c ∧ c ≤ '9' then some (c.toNat - '0'.toNat)
  else if 'a' ≤ c ∧ c ≤ 'f' then some (c.toNat - 'a'.toNat + 10)
  else if 'A' ≤ c ∧ c ≤ 'F' then some (c.toNat - 'A'.toNat + 10)
  else none

def hexFrom (start : Nat) : List Char → Option Nat
  | [] => some start
  | c :: rest =>
      match hexDigit? c with
      | some d => hexFrom (start * 16 + d) rest
      | none => none

def hexChar (d : Nat) : Char :=
  if d < 10 then Char.ofNat ('0'.toNat + d) else Char.ofNat ('a'.toNat + (d - 10))

/-- The lowest `width` hexadecimal digits of a number, in lower case. -/
def hexDigits : (width n : Nat) → List Char
  | 0, _ => []
  | width + 1, n => hexDigits width (n / 16) ++ [hexChar (n % 16)]

def hexNumber (n : Nat) : List Char := hexDigits (max 1 ((n.log2 + 4) / 4)) n

theorem digit?_digitChar (d : Nat) (small : d < 10) : digit? (digitChar d) = some d := by
  have cases : ∀ k : Fin 10, digit? (digitChar k.val) = some k.val := by decide
  exact cases ⟨d, small⟩

theorem digitsFrom_append (start : Nat) (left right : List Char) :
    digitsFrom start (left ++ right) = (digitsFrom start left).bind (digitsFrom · right) := by
  induction left generalizing start with
  | nil => rfl
  | cons c rest ih =>
      simp only [List.cons_append, digitsFrom]
      cases digit? c with
      | none => rfl
      | some d => exact ih _

theorem digitsFrom_reverseDigits (n : Nat) :
    digitsFrom 0 (reverseDigits n).reverse = some n := by
  induction n using Nat.strongRecOn with
  | ind n ih =>
      unfold reverseDigits
      split
      · next zero => subst zero; rfl
      · next positive =>
          have smaller := ih (n / 10) (Nat.div_lt_self (by omega) (by decide))
          rw [List.reverse_cons, digitsFrom_append, smaller]
          simp only [Option.bind_some, digitsFrom]
          rw [digit?_digitChar _ (Nat.mod_lt _ (by decide))]
          simp only [Option.some.injEq]
          omega

theorem reverseDigits_ne_nil {n : Nat} (positive : n ≠ 0) : reverseDigits n ≠ [] := by
  unfold reverseDigits
  simp [positive]

theorem number?_digits (n : Nat) : number? (digits n) = some n := by
  unfold number? digits
  by_cases zero : n = 0
  · subst zero; rfl
  · have filled : (reverseDigits n).reverse.isEmpty = false := by
      simp [reverseDigits_ne_nil zero]
    simp [zero, filled, digitsFrom_reverseDigits]

end CardPayments.Text
