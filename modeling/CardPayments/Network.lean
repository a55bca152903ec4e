import CardPayments.Scheme
import CardPayments.Time.Instant

/-! # What a card network answers

The response common to all schemes, and the data of one scheme, which is stored apart from it. -/
set_option autoImplicit false

namespace CardPayments

inductive Status where
  | new
  | approved
  | declined
  | failed
  | riskDeclined
deriving DecidableEq, Repr, Inhabited

namespace Status

def name : Status → String
  | .new => "new"
  | .approved => "approved"
  | .declined => "declined"
  | .failed => "failed"
  | .riskDeclined => "riskDeclined"

def ofName? (s : String) : Option Status :=
  if s = "new" then some .new
  else if s = "approved" then some .approved
  else if s = "declined" then some .declined
  else if s = "failed" then some .failed
  else if s = "riskDeclined" then some .riskDeclined
  else none

@[simp] theorem ofName?_name (status : Status) : ofName? status.name = some status := by
  cases status <;> decide

end Status

structure ResponseCode where
  text : String
deriving DecidableEq, Repr

namespace ResponseCode

/-- Partial approvals and approvals of important customers count as approvals. -/
def isApproval (code : ResponseCode) : Bool :=
  code.text == "00" || code.text == "08" || code.text == "10" || code.text == "11"

def isFormatError (code : ResponseCode) : Bool := code.text == "30"

/-- The status of an authorization or refund that was answered with this code. -/
def status (code : ResponseCode) : Status := if code.isApproval then .approved else .declined

end ResponseCode

structure SchemeResponse where
  code : ResponseCode
  stan : UInt64
  approvalCode : Option String
  respondedAt : Instant
deriving DecidableEq, Repr

inductive SchemeData where
  | mastercard (banknetReference financialNetworkCode settlementDate : Option String)
  | visa (transactionId validationCode : Option String)
deriving DecidableEq, Repr

def SchemeData.scheme : SchemeData → Scheme
  | .mastercard .. => .mastercard
  | .visa .. => .visa

end CardPayments
