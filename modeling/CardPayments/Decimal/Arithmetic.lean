import CardPayments.Decimal.Basic

/-! # Sums and differences of decimals

A sum is exact at the larger of the two scales.  Where its coefficient would not fit, the fewest
digits that make it fit are dropped from the fraction, rounding to nearest with ties to the even
neighbour; where no fraction digit is left to drop, the sum overflows.  A zero operand leaves the
other one as it is, scale included. -/
set_option autoImplicit false

namespace CardPayments.Decimal

/-- The operation whose exact result no decimal can hold. -/
inductive Overflow where
  | addition
  | subtraction
deriving DecidableEq, Repr

def Overflow.message : Overflow → String
  | .addition => "Addition overflowed"
  | .subtraction => "Subtraction overflowed"

/-- The whole number nearest to a quotient; a tie goes to the even neighbour. -/
def roundHalfEven (n d : Nat) : Nat :=
  let q := n / d
  let twice := 2 * (n % d)
  if twice < d then q
  else if d < twice then q + 1
  else if q % 2 = 0 then q else q + 1

/-- The exact number `x / (divisor * 10 ^ scale)` scaled by `divisor`, rounded at the largest scale
not above `scale` where it fits. -/
def fitScale (x : Int) (divisor : Nat) : (scale : Nat) → scale ≤ 28 → Option Decimal
  | scale, bound =>
      let magnitude := roundHalfEven x.natAbs divisor
      if small : magnitude < limit then
        some { coefficient := if x < 0 then -(magnitude : Int) else magnitude
               scale := scale
               fits := by split <;> simpa using small
               scale_le := bound }
      else
        match scale, bound with
        | 0, _ => none
        | scale + 1, bound => fitScale x (divisor * 10) scale (by omega)

/-- The decimal nearest to `x` over ten to the power `scale`, as fine as it fits. -/
def ofExact (x : Int) (scale : Nat) (bound : scale ≤ 28) : Option Decimal :=
  fitScale x 1 scale bound

def neg (a : Decimal) : Decimal :=
  { a with coefficient := -a.coefficient, fits := by simpa using a.fits }

/-- The coefficient of the same number at a scale that is not smaller. -/
def atScale (a : Decimal) (scale : Nat) : Int :=
  a.coefficient * Nat.pow 10 (scale - a.scale)

def add? (a b : Decimal) : Option Decimal :=
  if a.coefficient = 0 then some b
  else if b.coefficient = 0 then some a
  else
    ofExact (a.atScale (max a.scale b.scale) + b.atScale (max a.scale b.scale))
      (max a.scale b.scale) (Nat.max_le.2 ⟨a.scale_le, b.scale_le⟩)

def add (a b : Decimal) : Except Overflow Decimal :=
  match a.add? b with
  | some sum => .ok sum
  | none => .error .addition

def sub (a b : Decimal) : Except Overflow Decimal :=
  match a.add? b.neg with
  | some difference => .ok difference
  | none => .error .subtraction

end CardPayments.Decimal
