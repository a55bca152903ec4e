import CardPayments.Decimal.Arithmetic
import CardPayments.Decimal.Numeral

/-! # Binary floating-point numbers in 64 bits

A finite nonnegative double is a whole significand times a power of two.  Everything here is exact
integer arithmetic: the double nearest to a quotient (ties to the even significand), products and
quotients with powers of ten, the double of a decimal text, and the shortest decimal text that reads
back as the same double. -/
set_option autoImplicit false

namespace CardPayments

/-- The number `significand * 2 ^ exponent`. -/
structure Binary64 where
  significand : Nat
  exponent : Int
deriving DecidableEq, Repr

namespace Binary64

def zero : Binary64 := ⟨0, -1074⟩

/-- Numerator and denominator of a quotient after its value is divided by `2 ^ e`. -/
def overTwoPower (num den : Nat) (e : Int) : Nat × Nat :=
  if 0 ≤ e then (num, den * Nat.pow 2 e.toNat) else (num * Nat.pow 2 (-e).toNat, den)

def overTenPower (num den : Nat) (p : Int) : Nat × Nat :=
  if 0 ≤ p then (num, den * Nat.pow 10 p.toNat) else (num * Nat.pow 10 (-p).toNat, den)

/-- The double nearest to a quotient, or nothing when it is too large for any. -/
def nearest (num den : Nat) : Option Binary64 :=
  if num = 0 then some zero
  else
    let least : Int := max ((num.log2 : Int) - den.log2 - 53) (-1074)
    let trial := overTwoPower num den least
    let exponent := if trial.1 / trial.2 < Nat.pow 2 53 then least else least + 1
    let exact := overTwoPower num den exponent
    let significand := Decimal.roundHalfEven exact.1 exact.2
    let rounded : Binary64 :=
      if significand = Nat.pow 2 53 then ⟨Nat.pow 2 52, exponent + 1⟩
      else ⟨significand, exponent⟩
    if 971 < rounded.exponent then none else some rounded

def quotient (x : Binary64) : Nat × Nat :=
  if 0 ≤ x.exponent then (x.significand * Nat.pow 2 x.exponent.toNat, 1)
  else (x.significand, Nat.pow 2 (-x.exponent).toNat)

def timesTenPower (x : Binary64) (n : Nat) : Option Binary64 :=
  match nearest (Nat.pow 10 n) 1 with
  | none => none
  | some ten =>
      nearest (x.quotient.1 * ten.quotient.1) (x.quotient.2 * ten.quotient.2)

def overTen (x : Binary64) (n : Nat) : Option Binary64 :=
  match nearest (Nat.pow 10 n) 1 with
  | none => none
  | some ten =>
      nearest (x.quotient.1 * ten.quotient.2) (x.quotient.2 * ten.quotient.1)

def powerStep : Nat := 308

/-- Divides by `10 ^ powerStep` the given number of times; nothing can be taken from a zero. -/
def shrinkSteps (x : Binary64) : (steps : Nat) → Option Binary64
  | 0 => some x
  | steps + 1 =>
      if x.significand = 0 then some x
      else
        match x.overTen powerStep with
        | none => none
        | some y => shrinkSteps y steps

/-- Divides by a power of ten, at most `powerStep` digits at a time and the remaining ones last. -/
def shrink (x : Binary64) (n : Nat) : Option Binary64 :=
  match x.shrinkSteps ((n - 1) / powerStep) with
  | none => none
  | some y => y.overTen (n - (n - 1) / powerStep * powerStep)

/-- The double of a whole number scaled by a power of ten, each step rounded. -/
def scaled (whole : Nat) (power : Int) : Option Binary64 :=
  match nearest whole 1 with
  | none => none
  | some x =>
      if power < 0 then x.shrink (-power).toNat
      else if power ≤ powerStep then x.timesTenPower power.toNat
      else if x.significand = 0 then some x
      else none

def ofDecimal (whole : Nat) (power : Int) : Option Binary64 :=
  let places : Int := (Text.digits whole).length + power
  if whole = 0 ∨ places < -400 then some zero
  else if 400 < places then none
  else if 0 ≤ power then nearest (whole * Nat.pow 10 power.toNat) 1
  else nearest whole (Nat.pow 10 (-power).toNat)

/-! ## Shortest decimal text -/

/-- The bounds of the numbers that round to `x`, as multiples of a quarter of its last place. -/
def bounds (x : Binary64) : Nat × Nat :=
  let below := if x.significand = Nat.pow 2 52 ∧ -1074 < x.exponent then 1 else 2
  (4 * x.significand - below, 4 * x.significand + 2)

/-- The multiple of `10 ^ p` nearest to `x` among those that round to `x`; of two equally near ones
the larger. -/
def onGrid (x : Binary64) (p : Int) : Option Nat :=
  let quarter := overTenPower 1 1 p
  let unit := overTwoPower quarter.1 quarter.2 (2 - x.exponent)
  let value := 4 * x.significand * unit.1
  let isInside (c : Nat) : Bool :=
    let low := x.bounds.1 * unit.1
    let high := x.bounds.2 * unit.1
    if x.significand % 2 = 0 then low ≤ c * unit.2 && c * unit.2 ≤ high
    else low < c * unit.2 && c * unit.2 < high
  let c := value / unit.2
  match isInside c, isInside (c + 1) with
  | true, true =>
      if value - c * unit.2 < (c + 1) * unit.2 - value then some c else some (c + 1)
  | true, false => some c
  | false, true => some (c + 1)
  | false, false => none

/-- The first grid, from `p` downwards, on which some number rounds to `x`. -/
def coarsest (x : Binary64) : (fuel : Nat) → (p : Int) → Nat × Int
  | 0, p => (0, p)
  | fuel + 1, p =>
      match x.onGrid p with
      | some c => (c, p)
      | none => coarsest x fuel (p - 1)

/-- Digits and power of ten of the shortest decimal that rounds to `x`.  Seventeen digits always
suffice, and the search starts at most three places above the first of them. -/
def shortest (x : Binary64) : Nat × Int :=
  if x.significand = 0 then (0, 0)
  else
    let binaryPlaces : Int := x.significand.log2 + x.exponent + 1
    coarsest x 40 (binaryPlaces * 30103 / 100000 + 2)

def toList (x : Binary64) : List Char :=
  let (whole, power) := x.shortest
  if 0 ≤ power then
    if whole = 0 then ['0'] else Text.digits whole ++ List.replicate power.toNat '0'
  else Decimal.pointed (-power).toNat (Text.digits whole)

/-! ## Reading -/

inductive Reading where
  | finite (negative : Bool) (x : Binary64)
  /-- An infinity, a number too large for a double, or no number. -/
  | special
deriving DecidableEq, Repr

def readPower (s : List Char) : Option Int :=
  match (Decimal.readSign s) with
  | (negative, rest) =>
      (Text.number? rest).map fun n => if negative then -(n : Int) else n

def readFinite (s : List Char) : Option (Nat × Int) :=
  let whole := s.takeWhile Text.isDigit
  let afterWhole := s.dropWhile Text.isDigit
  let (fraction, rest) :=
    match afterWhole with
    | '.' :: more => (more.takeWhile Text.isDigit, more.dropWhile Text.isDigit)
    | more => ([], more)
  match Text.number? (whole ++ fraction) with
  | none => none
  | some magnitude =>
      match rest with
      | [] => some (magnitude, -(fraction.length : Int))
      | c :: power =>
          if Decimal.isExponentMark c then
            (readPower power).map fun p => (magnitude, p - fraction.length)
          else none

/-- The double nearest to a text of digits, point and exponent, or one of the words for infinity and
for no number, in any case and with any sign. -/
def read? (s : List Char) : Option Reading :=
  let (negative, rest) := Decimal.readSign s
  let word := String.ofList (rest.map Char.toLower)
  if word = "inf" ∨ word = "infinity" ∨ word = "nan" then some .special
  else
    (readFinite rest).map fun (magnitude, power) =>
      match ofDecimal magnitude power with
      | some x => .finite negative x
      | none => .special

def toDecimal? (negative : Bool) (x : Binary64) : Option Decimal :=
  Decimal.ofPlain? (if negative then '-' :: x.toList else x.toList)

end Binary64
end CardPayments
