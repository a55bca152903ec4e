import CardPayments.Capture
import CardPayments.Store.Table

/-! # Stored captures

Captures are kept in the order they were stored.  A capture is stored only when the summary of the
rows it joins still is the one it was checked against, so that two captures cannot both rely on the
same remainder. -/
set_option autoImplicit false

namespace CardPayments

structure CaptureStore where
  captures : List Capture
  refundCaptures : List RefundCapture
deriving DecidableEq

namespace CaptureStore

def empty : CaptureStore := ⟨[], []⟩

def ofAuthorization (s : CaptureStore) (id : Uuid) : List Capture :=
  s.captures.filter fun c => c.authorizationId = id

def ofRefund (s : CaptureStore) (id : Uuid) : List RefundCapture :=
  s.refundCaptures.filter fun c => c.refundId = id

def summary (s : CaptureStore) (authorizationId : Uuid) : Except PaymentError CaptureSummary :=
  CaptureSummary.ofCaptures (s.ofAuthorization authorizationId)

def refundSummary (s : CaptureStore) (refundId : Uuid) : Except PaymentError CaptureSummary :=
  CaptureSummary.ofRefundCaptures (s.ofRefund refundId)

/-- Stores a capture that was checked against the summary `seen`. -/
def create (s : CaptureStore) (c : Capture) (seen : CaptureSummary) :
    Except PaymentError CaptureStore :=
  match s.summary c.authorizationId with
  | .error e => .error e
  | .ok current =>
      if current.same seen then .ok { s with captures := s.captures ++ [c] }
      else .error .duplicateValue

def createForRefund (s : CaptureStore) (c : RefundCapture) (seen : CaptureSummary) :
    Except PaymentError CaptureStore :=
  match s.refundSummary c.refundId with
  | .error e => .error e
  | .ok current =>
      if current.same seen then .ok { s with refundCaptures := s.refundCaptures ++ [c] }
      else .error .duplicateValue

/-- Copies the status of a capture into its row. -/
def update (s : CaptureStore) (c : Capture) : Except PaymentError CaptureStore :=
  match Table.changeFirst (fun row => row.authorizationId = c.authorizationId ∧ row.id = c.id)
      (fun row => { row with status := c.status }) s.captures with
  | some captures => .ok { s with captures := captures }
  | none => .error .recordNotFound

def finalExists (s : CaptureStore) (authorizationId : Uuid) : Except PaymentError Bool :=
  match s.summary authorizationId with
  | .ok summary => .ok summary.hasFinal
  | .error e => .error e

end CaptureStore
end CardPayments
