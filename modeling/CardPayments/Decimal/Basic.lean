import CardPayments.Text.Digits

/-! # Decimal numbers

A decimal is a coefficient below 2^96 in magnitude and a scale of at most 28: the number is the
coefficient over ten to the power of the scale.  Two decimals may stand for the same number with
different scales; `same` and `below` compare the numbers.  Zero has no sign. -/
set_option autoImplicit false

namespace CardPayments

/-- Every coefficient is smaller than this in magnitude. -/
def Decimal.limit : Nat := Nat.pow 2 96

structure Decimal where
  coefficient : Int
  scale : Nat
  fits : coefficient.natAbs < Decimal.limit
  scale_le : scale ≤ 28
deriving DecidableEq

namespace Decimal

def ofParts (negative : Bool) (magnitude scale : Nat) : Option Decimal :=
  if bounds : magnitude < limit ∧ scale ≤ 28 then
    some { coefficient := if negative then -(magnitude : Int) else magnitude
           scale := scale
           fits := by split <;> simpa using bounds.1
           scale_le := bounds.2 }
  else none

def ofInt? (n : Int) : Option Decimal := ofParts (decide (n < 0)) n.natAbs 0

def zero : Decimal := ⟨0, 0, by decide, by decide⟩

def thirty : Decimal := ⟨30, 0, by decide, by decide⟩

instance : Inhabited Decimal := ⟨zero⟩

def same (a b : Decimal) : Bool :=
  a.coefficient * Nat.pow 10 b.scale == b.coefficient * Nat.pow 10 a.scale

def below (a b : Decimal) : Bool :=
  decide (a.coefficient * Nat.pow 10 b.scale < b.coefficient * Nat.pow 10 a.scale)

def order (a b : Decimal) : Ordering :=
  if a.below b then .lt else if a.same b then .eq else .gt

/-! ## Written form -/

/-- The digits of the coefficient with the point in front of the last `scale` of them. -/
def pointed (scale : Nat) (ds : List Char) : List Char :=
  if scale = 0 then ds
  else
    let padded := Text.padLeft (scale + 1) ds
    let whole := padded.length - scale
    padded.take whole ++ '.' :: padded.drop whole

/-- All digits of the scale are written, and a zero in front of the point where nothing else is. -/
def toList (a : Decimal) : List Char :=
  let written := pointed a.scale (Text.digits a.coefficient.natAbs)
  if a.coefficient < 0 then '-' :: written else written

def toText (a : Decimal) : String := String.ofList a.toList

/-! ## Trailing zeros -/

/-- The coefficient and scale after the zeros at the end of the fraction are dropped. -/
def stripParts (coefficient : Int) : Nat → Int × Nat
  | 0 => (coefficient, 0)
  | scale + 1 =>
      if coefficient % 10 = 0 then stripParts (coefficient / 10) scale
      else (coefficient, scale + 1)

theorem stripParts_bounds (coefficient : Int) (scale : Nat) :
    (stripParts coefficient scale).1.natAbs ≤ coefficient.natAbs ∧
      (stripParts coefficient scale).2 ≤ scale := by
  induction scale generalizing coefficient with
  | zero => simp [stripParts]
  | succ scale ih =>
      simp only [stripParts]
      split
      · next divides =>
          have smaller := ih (coefficient / 10)
          omega
      · simp

/-- The same number with the smallest scale. -/
def strip (a : Decimal) : Decimal where
  coefficient := (stripParts a.coefficient a.scale).1
  scale := (stripParts a.coefficient a.scale).2
  fits := Nat.lt_of_le_of_lt (stripParts_bounds a.coefficient a.scale).1 a.fits
  scale_le := Nat.le_trans (stripParts_bounds a.coefficient a.scale).2 a.scale_le

end Decimal
end CardPayments
