/-! # Card schemes

The card networks that messages are sent to, and their names. -/
set_option autoImplicit false

namespace CardPayments

inductive Scheme where
  | mastercard
  | visa
deriving DecidableEq, Repr, Inhabited

namespace Scheme

def name : Scheme → String
  | .mastercard => "mastercard"
  | .visa => "visa"

def ofName? (s : String) : Option Scheme :=
  if s = "mastercard" then some .mastercard
  else if s = "visa" then some .visa
  else none

@[simp] theorem ofName?_name (scheme : Scheme) : ofName? scheme.name = some scheme := by
  cases scheme <;> decide

end Scheme
end CardPayments
