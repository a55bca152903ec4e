import CardPayments.Decimal.Basic

/-! # Reading decimals

A plain numeral is an optional sign, digits, at most one point, and `_` after the first digit.
Fraction digits that do not fit any more are dropped after rounding by the first of them; a whole
part that does not fit is refused.  A scientific numeral is a plain one with a power of ten. -/
set_option autoImplicit false

namespace CardPayments.Decimal

/-- What may follow a digit by which the numeral was rounded. -/
def isFiller (c : Char) : Bool := Text.isDigit c || c == '_'

/-- Ends a numeral at a fraction digit that does not fit: the magnitude is rounded by that digit,
half up, and one more fraction digit is given up if the rounded magnitude does not fit. -/
def roundedBy (magnitude scale digit : Nat) (rest : List Char) : Option (Nat × Nat) :=
  if rest.all isFiller then
    if digit < 5 then some (magnitude, scale)
    else if magnitude + 1 < limit then some (magnitude + 1, scale)
    else if scale = 0 then none
    else some ((magnitude + 5) / 10, scale - 1)
  else none

/-- The rest of a numeral after the point: `digitSeen` tells whether any digit was read yet. -/
def readFraction (magnitude scale : Nat) (digitSeen : Bool) : List Char → Option (Nat × Nat)
  | [] => if digitSeen then some (magnitude, scale) else none
  | c :: rest =>
      match Text.digit? c with
      | some d =>
          if scale < 28 ∧ magnitude * 10 + d < limit then
            readFraction (magnitude * 10 + d) (scale + 1) true rest
          else roundedBy magnitude scale d rest
      | none =>
          if c = '_' ∧ digitSeen then readFraction magnitude scale digitSeen rest else none

def readWhole (magnitude : Nat) (digitSeen : Bool) : List Char → Option (Nat × Nat)
  | [] => if digitSeen then some (magnitude, 0) else none
  | c :: rest =>
      match Text.digit? c with
      | some d =>
          if magnitude * 10 + d < limit then readWhole (magnitude * 10 + d) true rest else none
      | none =>
          if c = '.' then readFraction magnitude 0 digitSeen rest
          else if c = '_' ∧ digitSeen then readWhole magnitude digitSeen rest
          else none

/-- Takes one sign from the front: whether it was a minus, and the rest. -/
def readSign : List Char → Bool × List Char
  | '-' :: rest => (true, rest)
  | '+' :: rest => (false, rest)
  | rest => (false, rest)

def ofPlain? (s : List Char) : Option Decimal :=
  match readWhole 0 false (readSign s).2 with
  | some (magnitude, scale) => ofParts (readSign s).1 magnitude scale
  | none => none

def readExponent (s : List Char) : Option Nat :=
  match s with
  | '+' :: rest => Text.number? rest
  | rest => Text.number? rest

/-- The number times a power of ten, without changing the value of its digits: a scale that is large
enough shrinks, otherwise the result is whole. -/
def timesPower (a : Decimal) (exponent : Nat) : Option Decimal :=
  if exponent ≤ a.scale then
    ofParts (decide (a.coefficient < 0)) a.coefficient.natAbs (a.scale - exponent)
  else if 28 < exponent then none
  else
    ofParts (decide (a.coefficient < 0))
      (a.coefficient.natAbs * Nat.pow 10 (exponent - a.scale)) 0

def overPower (a : Decimal) (exponent : Nat) : Option Decimal :=
  if 28 < exponent then none
  else ofParts (decide (a.coefficient < 0)) a.coefficient.natAbs (a.scale + exponent)

def isExponentMark (c : Char) : Bool := c == 'e' || c == 'E'

/-- The decimal of a plain numeral followed by `e` and a power of ten. -/
def ofScientific? (s : List Char) : Option Decimal :=
  match s.dropWhile (fun c => !isExponentMark c) with
  | [] => none
  | _ :: power =>
      match ofPlain? (s.takeWhile (fun c => !isExponentMark c)) with
      | none => none
      | some base =>
          match power with
          | '-' :: rest => (readExponent rest).bind base.overPower
          | rest => (readExponent rest).bind base.timesPower

def ofNumeral? (s : List Char) : Option Decimal :=
  match ofPlain? s with
  | some a => some a
  | none => ofScientific? s

end CardPayments.Decimal
