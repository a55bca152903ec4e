import CardPayments.Decimal.Binary64

/-! # JSON values

A value keeps the spelling of its numbers, because a reader asks different things of the same
literal: a 64-bit word, an exact decimal, a double.  A string whose escapes name half of a surrogate
pair stands for no text; it, and an object with such a key, is kept as `unreadable`, which every
reader refuses but which may stand where a value is skipped. -/
set_option autoImplicit false

namespace CardPayments

/-- A number as it is spelled: without a point the fraction is empty. -/
structure Numeral where
  negative : Bool
  whole : List Char
  fraction : List Char
  /-- The sign (true for minus) and the digits of the power of ten. -/
  exponent : Option (Bool × List Char)
deriving DecidableEq, Repr

inductive Json where
  | null
  | bool (value : Bool)
  | number (value : Numeral)
  | string (value : String)
  | unreadable
  | array (items : List Json)
  | object (fields : List (String × Json))
deriving Inhabited

namespace Numeral

def ofNat (n : Nat) : Numeral := ⟨false, Text.digits n, [], none⟩

def readExponent (s : List Char) : Option (Bool × List Char) :=
  match s with
  | '-' :: rest => if rest.isEmpty || !rest.all Text.isDigit then none else some (true, rest)
  | '+' :: rest => if rest.isEmpty || !rest.all Text.isDigit then none else some (false, rest)
  | rest => if rest.isEmpty || !rest.all Text.isDigit then none else some (false, rest)

def readEnd (negative : Bool) (whole fraction : List Char) : List Char → Option Numeral
  | [] => some ⟨negative, whole, fraction, none⟩
  | c :: rest =>
      if Decimal.isExponentMark c then
        match readExponent rest with
        | some power => some ⟨negative, whole, fraction, some power⟩
        | none => none
      else none

/-- Reads a numeral without its sign: no superfluous leading zero, and digits on both sides of a
point. -/
def readUnsigned (negative : Bool) (s : List Char) : Option Numeral :=
  let whole := s.takeWhile Text.isDigit
  match whole with
  | [] => none
  | first :: more =>
      if first = '0' ∧ more ≠ [] then none
      else
        match s.dropWhile Text.isDigit with
        | '.' :: rest =>
            let fraction := rest.takeWhile Text.isDigit
            if fraction.isEmpty then none
            else readEnd negative whole fraction (rest.dropWhile Text.isDigit)
        | rest => readEnd negative whole [] rest

def ofList? (s : List Char) : Option Numeral :=
  match s with
  | '-' :: rest => readUnsigned true rest
  | rest => readUnsigned false rest

def toList (n : Numeral) : List Char :=
  (if n.negative then ['-'] else []) ++ n.whole ++
    (if n.fraction.isEmpty then [] else '.' :: n.fraction) ++
    (match n.exponent with
      | none => []
      | some (true, power) => 'e' :: '-' :: power
      | some (false, power) => 'e' :: power)

/-! ## What a numeral stands for -/

def integer? (n : Numeral) : Option Nat :=
  if n.fraction = [] ∧ n.exponent = none then Text.number? n.whole else none

/-- The value of an unsigned integer literal that fits in 64 bits. -/
def word? (n : Numeral) : Option UInt64 :=
  match n.integer? with
  | some m => if n.negative = false ∧ m < Nat.pow 2 64 then some (UInt64.ofNat m) else none
  | none => none

/-- The value of an integer literal that fits in 64 bits with or without a sign. -/
def smallInteger? (n : Numeral) : Option Int :=
  match n.integer? with
  | none => none
  | some m =>
      if n.negative then
        if 0 < m ∧ m ≤ Nat.pow 2 63 then some (-(m : Int)) else none
      else if m < Nat.pow 2 64 then some m
      else none

/-- Takes digits while the number they continue fits in 64 bits, and counts those left over. -/
def absorb (start : Nat) : List Char → Nat × Nat
  | [] => (start, 0)
  | c :: rest =>
      match Text.digit? c with
      | none => (start, rest.length + 1)
      | some d =>
          if start * 10 + d < Nat.pow 2 64 then absorb (start * 10 + d) rest
          else (start, rest.length + 1)

/-- The double of a numeral: its leading digits, as many as fit in 64 bits, scaled by the power of
ten that is left; nothing when that is too large for a double. -/
def double? (n : Numeral) : Option Binary64 :=
  let whole := absorb 0 n.whole
  let all := absorb whole.1 n.fraction
  let point : Int := whole.2 - (n.fraction.length - all.2 : Nat)
  let power : Int :=
    match n.exponent with
    | none => point
    | some (negative, ds) =>
        match Text.number? ds with
        | none => point
        | some e => if negative then point - e else point + e
  Binary64.scaled all.1 power

def isInRange (n : Numeral) : Bool := n.smallInteger?.isSome || n.double?.isSome

/-- The decimal of a numeral: a 64-bit integer as it is, any other number through the shortest text
of its double. -/
def decimal? (n : Numeral) : Option Decimal :=
  match n.smallInteger? with
  | some m => Decimal.ofInt? m
  | none =>
      match n.double? with
      | some x => Binary64.toDecimal? n.negative x
      | none => none

end Numeral
end CardPayments
