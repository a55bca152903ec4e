import CardPayments.Money
import CardPayments.Time.Instant

/-! # Captures

A capture settles part of an authorization, a refund capture part of a refund.  What may still be
captured is decided on a summary of the captures so far: failed ones neither count nor close the
authorization. -/
set_option autoImplicit false

namespace CardPayments

inductive CaptureStatus where
  | created
  | failed
  | cleared
  | rejected
deriving DecidableEq, Repr, Inhabited

namespace CaptureStatus

def name : CaptureStatus → String
  | .created => "created"
  | .failed => "failed"
  | .cleared => "cleared"
  | .rejected => "rejected"

def ofName? (s : String) : Option CaptureStatus :=
  if s = "created" then some .created
  else if s = "failed" then some .failed
  else if s = "cleared" then some .cleared
  else if s = "rejected" then some .rejected
  else none

@[simp] theorem ofName?_name (status : CaptureStatus) : ofName? status.name = some status := by
  cases status <;> decide

end CaptureStatus

structure Capture where
  id : Uuid
  authorizationId : Uuid
  amount : Amount
  isFinal : Bool
  status : CaptureStatus
  createdAt : Instant
deriving DecidableEq

structure RefundCapture where
  id : Uuid
  refundId : Uuid
  amount : Amount
  isFinal : Bool
  status : CaptureStatus
  createdAt : Instant
deriving DecidableEq

structure CaptureEntry where
  amount : Amount
  isFinal : Bool
  status : CaptureStatus
deriving DecidableEq

def Capture.entry (c : Capture) : CaptureEntry := ⟨c.amount, c.isFinal, c.status⟩

def RefundCapture.entry (c : RefundCapture) : CaptureEntry := ⟨c.amount, c.isFinal, c.status⟩

structure CaptureSummary where
  total : Decimal
  hasFinal : Bool
deriving DecidableEq

namespace CaptureSummary

def empty : CaptureSummary := ⟨.zero, false⟩

/-- Both summaries count the same number and agree on finality. -/
def same (a b : CaptureSummary) : Bool := a.total.same b.total && a.hasFinal == b.hasFinal

def count (s : CaptureSummary) (entry : CaptureEntry) : Except PaymentError CaptureSummary :=
  match s.total.plus entry.amount.value with
  | .ok total => .ok ⟨total, s.hasFinal || entry.isFinal⟩
  | .error e => .error e

/-- Counts further captures in their order; failed ones are passed over. -/
def extend (s : CaptureSummary) : List CaptureEntry → Except PaymentError CaptureSummary
  | [] => .ok s
  | entry :: rest =>
      if entry.status = .failed then s.extend rest
      else
        match s.count entry with
        | .ok next => next.extend rest
        | .error e => .error e

def ofEntries (entries : List CaptureEntry) : Except PaymentError CaptureSummary :=
  empty.extend entries

def ofCaptures (captures : List Capture) : Except PaymentError CaptureSummary :=
  ofEntries (captures.map Capture.entry)

def ofRefundCaptures (captures : List RefundCapture) : Except PaymentError CaptureSummary :=
  ofEntries (captures.map RefundCapture.entry)

def remaining (s : CaptureSummary) (authorized : Amount) : Except PaymentError Decimal :=
  authorized.value.minus s.total

/-- A capture may neither follow a final one nor take the total above the authorized amount. -/
def checkCapturable (s : CaptureSummary) (authorized requested : Amount) :
    Except PaymentError Unit :=
  if s.hasFinal then .error .finalCaptureExists
  else
    match s.total.plus requested.value with
    | .error e => .error e
    | .ok total =>
        if authorized.value.below total then .error .authorizedAmountExceeded else .ok ()

/-- A capture is final when the caller says so, and when it brings the total up to the authorized
amount. -/
def becomesFinal (s : CaptureSummary) (authorized requested : Amount) (flagged : Bool) :
    Except PaymentError Bool :=
  if flagged then .ok true
  else
    match s.total.plus requested.value with
    | .error e => .error e
    | .ok total => .ok (total.same authorized.value)

/-- The amount of a reversal: what is left, which must not be nothing. -/
def reversalAmount (s : CaptureSummary) (authorized : Amount) : Except PaymentError Amount :=
  match s.remaining authorized with
  | .error e => .error e
  | .ok left => Amount.ofDecimal left

theorem reversalAmount_eq_ok {s : CaptureSummary} {authorized amount : Amount} :
    s.reversalAmount authorized = .ok amount ↔ s.remaining authorized = .ok amount.value := by
  rw [reversalAmount]
  cases s.remaining authorized with
  | error e => simp
  | ok left => simp only [Amount.ofDecimal_eq_ok, Except.ok.injEq]

end CaptureSummary
end CardPayments
