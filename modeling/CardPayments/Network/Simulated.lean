import CardPayments.Flow.Basic
import CardPayments.Trace.Allocator

/-! # A simulated card network

A connection that answers every message with one code.  Every message it answers takes a trace
number, and approvals carry an approval code; the data of the scheme is made from the trace number
and the day. -/
set_option autoImplicit false

namespace CardPayments

structure SimulatedNetwork where
  scheme : Scheme
  code : ResponseCode
deriving DecidableEq, Repr

namespace SimulatedNetwork

def approving (scheme : Scheme) : SimulatedNetwork := ⟨scheme, ⟨"00"⟩⟩

def sixDigits (stan : UInt64) : String :=
  String.ofList (Text.paddedDigits 6 (stan.toNat % 1000000))

def response (n : SimulatedNetwork) (stan : UInt64) (today : Date) : SchemeResponse where
  code := n.code
  stan := stan
  approvalCode := if n.code.isApproval then some (sixDigits stan) else none
  respondedAt := .ofDate today

def schemeData (n : SimulatedNetwork) (stan : UInt64) (today : Date) : SchemeData :=
  match n.scheme with
  | .mastercard => .mastercard (some ("MCC" ++ sixDigits stan)) (some "MCC") (some today.monthDay)
  | .visa =>
      .visa (some (today.yearDay ++ String.ofList (Text.paddedDigits 9 stan.toNat))) (some "A1B2")

def attach (n : SimulatedNetwork) (stan : UInt64) (today : Date) : Message → Attached
  | .authorize _ => ⟨some (n.response stan today), some (n.schemeData stan today)⟩
  | .refund _ => ⟨some (n.response stan today), some (n.schemeData stan today)⟩
  | .reverse _ => ⟨some (n.response stan today), none⟩
  | .echo => ⟨none, none⟩

/-- A message that cannot be sent takes no trace number. -/
def refuse : Message → Option PaymentError
  | .reverse r =>
      match r.authorization.bind fun a => a.card.pan with
      | some _ => none
      | none => some (.network "reversal message requires the clear PAN")
  | _ => none

def exchange (n : SimulatedNetwork) (t : TraceNumbers) (m : Message) :
    Attached × Except PaymentError Unit × TraceNumbers :=
  match refuse m with
  | some e => (m.attached, .error e, t)
  | none =>
      match t.next with
      | (.error e, t) => (m.attached, .error e, t)
      | (.ok stan, t) => (n.attach stan t.today m, .ok (), t)

end SimulatedNetwork
end CardPayments
