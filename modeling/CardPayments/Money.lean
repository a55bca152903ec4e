import CardPayments.Error
import CardPayments.Text.Blank

/-! # Amounts and currencies

An amount is a decimal above zero, in major units of its currency.  It is shown without the zeros at
the end of its fraction.  A currency is the alphabetic code of ISO 4217 in capital letters. -/
set_option autoImplicit false

namespace CardPayments

structure Amount where
  value : Decimal
  positive : 0 < value.coefficient
deriving DecidableEq

namespace Amount

def ofDecimal? (value : Decimal) : Option Amount :=
  if positive : 0 < value.coefficient then some ⟨value, positive⟩ else none

def ofDecimal (value : Decimal) : Except PaymentError Amount :=
  match ofDecimal? value with
  | some a => .ok a
  | none => .error (.invalid .amountNotPositive)

def toText (a : Amount) : String := a.value.strip.toText

def same (a b : Amount) : Bool := a.value.same b.value

@[simp] theorem ofDecimal?_value (a : Amount) : ofDecimal? a.value = some a := by
  simp [ofDecimal?, a.positive]

theorem ofDecimal_eq_ok {value : Decimal} {a : Amount} :
    ofDecimal value = .ok a ↔ value = a.value := by
  constructor
  · intro isAmount
    rw [ofDecimal, ofDecimal?] at isAmount
    split at isAmount
    · next positive found =>
        cases isAmount
        split at found <;> cases found
        rfl
    · cases isAmount
  · rintro rfl
    rw [ofDecimal, ofDecimal?_value]

end Amount

def isCurrencyCode (s : String) : Bool :=
  s.toList.length == 3 && s.toList.all Char.isUpper

structure Currency where
  code : String
  wellFormed : isCurrencyCode code = true
deriving DecidableEq

namespace Currency

/-- The currency of a code in either case, with blanks around it. -/
def ofText? (s : String) : Option Currency :=
  if wellFormed : isCurrencyCode (Text.upperAscii (Text.trim s)) = true then some ⟨_, wellFormed⟩
  else none

def ofText (s : String) : Except PaymentError Currency :=
  match ofText? s with
  | some currency => .ok currency
  | none => .error (.invalid (.currency s))

theorem ofText_eq_ok {s : String} {currency : Currency} :
    ofText s = .ok currency ↔ Text.upperAscii (Text.trim s) = currency.code := by
  obtain ⟨code, isCode⟩ := currency
  by_cases wellFormed : isCurrencyCode (Text.upperAscii (Text.trim s)) = true
  · rw [ofText, ofText?, dif_pos wellFormed]
    simp only [Except.ok.injEq, Currency.mk.injEq]
  · rw [ofText, ofText?, dif_neg wellFormed]
    simp only [reduceCtorEq, false_iff]
    rintro rfl
    exact wellFormed isCode

end Currency
end CardPayments
