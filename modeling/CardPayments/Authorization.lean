import CardPayments.Card
import CardPayments.Money
import CardPayments.Network

/-! # Authorizations and refunds

An authorization asks a card network to hold an amount; a refund asks it to give one back.  Both
share their lifecycle. -/
set_option autoImplicit false

namespace CardPayments

/-- The exemption from strong customer authentication that the merchant declared. -/
inductive Exemption where
  | none
  | lowValue
  | transactionRiskAnalysis
deriving DecidableEq, Repr, Inhabited

namespace Exemption

def name : Exemption → String
  | .none => "none"
  | .lowValue => "lowValue"
  | .transactionRiskAnalysis => "transactionRiskAnalysis"

def ofName? (s : String) : Option Exemption :=
  if s = "none" then some .none
  else if s = "lowValue" then some .lowValue
  else if s = "transactionRiskAnalysis" then some .transactionRiskAnalysis
  else Option.none

@[simp] theorem ofName?_name (exemption : Exemption) : ofName? exemption.name = some exemption := by
  cases exemption <;> decide

end Exemption

inductive Initiator where
  | cardholder
  | merchant
deriving DecidableEq, Repr, Inhabited

namespace Initiator

def name : Initiator → String
  | .cardholder => "cardholder"
  | .merchant => "merchant"

def ofName? (s : String) : Option Initiator :=
  if s = "cardholder" then some .cardholder
  else if s = "merchant" then some .merchant
  else none

@[simp] theorem ofName?_name (initiator : Initiator) : ofName? initiator.name = some initiator := by
  cases initiator <;> decide

end Initiator

structure Initiation where
  initiator : Initiator
  recurring : Bool
  /-- The trace of the first transaction of a recurring series. -/
  initialTraceId : Option String
deriving DecidableEq, Repr

def Initiation.byCardholder : Initiation := ⟨.cardholder, false, none⟩

structure Authorization where
  id : Uuid
  psp : String
  merchant : String
  amount : Amount
  currency : Currency
  card : Card
  exemption : Exemption
  /-- The exemption that the risk rules accepted. -/
  appliedExemption : Option Exemption
  initiation : Initiation
  status : Status
  response : Option SchemeResponse
  schemeData : Option SchemeData
  createdAt : Instant
deriving DecidableEq

namespace Authorization

def intake (id : Uuid) (psp merchant : String) (amount : Amount) (currency : Currency) (card : Card)
    (exemption : Exemption) (createdAt : Instant) : Authorization where
  id := id
  psp := psp
  merchant := merchant
  amount := amount
  currency := currency
  card := card
  exemption := exemption
  appliedExemption := none
  initiation := .byCardholder
  status := .new
  response := none
  schemeData := none
  createdAt := createdAt

/-- The row that is stored: without clear number and without scheme data. -/
def row (a : Authorization) : Authorization :=
  { a with card := a.card.redacted, schemeData := none }

end Authorization

structure Refund where
  id : Uuid
  psp : String
  merchant : String
  amount : Amount
  currency : Currency
  card : Card
  status : Status
  response : Option SchemeResponse
  schemeData : Option SchemeData
  createdAt : Instant
deriving DecidableEq

namespace Refund

def intake (id : Uuid) (psp merchant : String) (amount : Amount) (currency : Currency) (card : Card)
    (createdAt : Instant) : Refund where
  id := id
  psp := psp
  merchant := merchant
  amount := amount
  currency := currency
  card := card
  status := .new
  response := none
  schemeData := none
  createdAt := createdAt

def row (r : Refund) : Refund :=
  { r with card := r.card.redacted, schemeData := none }

end Refund

/-- The status that a response implies; a transaction without one has failed. -/
def Status.ofResponse (response : Option SchemeResponse) : Status :=
  match response with
  | some r => r.code.status
  | none => .failed

end CardPayments
