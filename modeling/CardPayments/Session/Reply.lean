import CardPayments.Store.Basic
import CardPayments.Trace.Session

/-! # Replies

What an operation of a session answers with, and the entity that is shown beside it. -/
set_option autoImplicit false

namespace CardPayments

structure OpenedCard where
  card : Card
  /-- The card came back with the token it was asked for. -/
  sameToken : Bool
deriving DecidableEq

inductive Reply where
  | done
  | set
  | stored
  | updated
  | published
  | trace (reply : TraceReply)
  | authorization (a : Authorization)
  | refund (r : Refund)
  | capture (c : Capture)
  | refundCapture (c : RefundCapture)
  | captures (cs : List Capture)
  | refundCaptures (cs : List RefundCapture)
  | reversals (rs : List Reversal)
  | ids (ids : List Uuid)
  | summary (s : CaptureSummary)
  | flag (value : Bool)
  | messages (published : List Publication)
  /-- The number of a token among those of the session, and whether it is a new one. -/
  | token (index : Nat) (isFresh : Bool)
  | opened (card : OpenedCard)

inductive Entity where
  | authorization (a : Authorization)
  | refund (r : Refund)
  | reversal (r : Reversal)

namespace SchemeData

/-- A transaction identifier whose day, its first five characters, is left open. -/
def undatedTransaction (s : String) : String := "<YYDDD>" ++ String.ofList (s.toList.drop 5)

/-- The data without the days that a simulated network takes from the calendar. -/
def undated : SchemeData → SchemeData
  | .mastercard reference network settlement =>
      if network = some "MCC" then .mastercard reference network (settlement.map fun _ => "<MMDD>")
      else .mastercard reference network settlement
  | .visa transaction validation =>
      if validation = some "A1B2" then .visa (transaction.map undatedTransaction) validation
      else .visa transaction validation

end SchemeData
end CardPayments
