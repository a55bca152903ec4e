import CardPayments.Wire.Entity

/-! # Forms

What callers hand in comes as texts.  A form is turned into a transaction field by field, and the
first field that is not acceptable decides the error. -/
set_option autoImplicit false

namespace CardPayments

def Decimal.ofText (s : String) : Except PaymentError Decimal :=
  match Decimal.ofNumeral? s.toList with
  | some a => .ok a
  | none => .error (.internal .decimal)

def Amount.ofText (s : String) : Except PaymentError Amount :=
  match Decimal.ofText s with
  | .ok value => Amount.ofDecimal value
  | .error e => .error e

/-- A case that must be one of those with a name. -/
def PaymentError.known {α : Type} : Option α → Except PaymentError α
  | some a => .ok a
  | none => .error (.internal .json)

def Scheme.samplePan : Scheme → String
  | .mastercard => "5555555555554444"
  | .visa => "4111111111111111"

structure CardForm where
  scheme : String
  /-- Without one, the sample number of the scheme is used. -/
  pan : Option String
  isRedacted : Bool
deriving DecidableEq, Repr

namespace CardForm

def cardOf (form : CardForm) (scheme : Scheme) : Except PaymentError Card :=
  match Pan.check (form.pan.getD scheme.samplePan) with
  | .error e => .error e
  | .ok pan =>
      let card := Card.ofPan pan scheme
      .ok (if form.isRedacted then card.redacted else card)

def card (form : CardForm) : Except PaymentError Card :=
  match Scheme.ofText form.scheme with
  | .error e => .error e
  | .ok scheme => form.cardOf scheme

end CardForm

structure TransactionForm where
  id : Nat
  psp : String
  merchant : String
  amount : String
  currency : String
  card : CardForm
  exemption : String
  createdAt : Int
deriving DecidableEq, Repr

namespace TransactionForm

/-- Reads the fields that authorizations and refunds share. -/
def shared (form : TransactionForm) : Except PaymentError (Amount × Currency × Card) := do
  let amount ← Amount.ofText form.amount
  let currency ← Currency.ofText form.currency
  let card ← form.card.card
  return (amount, currency, card)

def authorization (form : TransactionForm) : Except PaymentError Authorization := do
  let (amount, currency, card) ← form.shared
  let exemption ← PaymentError.known (Exemption.ofName? form.exemption)
  return .intake (.ofNat form.id) form.psp form.merchant amount currency card exemption
    (.ofSeconds form.createdAt)

def refund (form : TransactionForm) : Except PaymentError Refund := do
  let (amount, currency, card) ← form.shared
  return .intake (.ofNat form.id) form.psp form.merchant amount currency card
    (.ofSeconds form.createdAt)

end TransactionForm

/-- What became of a transaction, as it is handed in. -/
structure VerdictForm where
  status : String
  appliedExemption : Option String
  response : Option SchemeResponse
  schemeData : Option Json

namespace VerdictForm

def readSchemeData : Option Json → Except PaymentError (Option SchemeData)
  | none => .ok none
  | some j => (PaymentError.known (SchemeData.ofJson 0 j)).map some

def readApplied : Option String → Except PaymentError (Option Exemption)
  | none => .ok none
  | some name => (PaymentError.known (Exemption.ofName? name)).map some

def authorization (verdict : VerdictForm) (form : TransactionForm) :
    Except PaymentError Authorization := do
  let a ← form.authorization
  let status ← PaymentError.known (Status.ofName? verdict.status)
  let applied ← readApplied verdict.appliedExemption
  let schemeData ← readSchemeData verdict.schemeData
  return { a with
    status := status, appliedExemption := applied, response := verdict.response,
    schemeData := schemeData }

def refund (verdict : VerdictForm) (form : TransactionForm) : Except PaymentError Refund := do
  let r ← form.refund
  let status ← PaymentError.known (Status.ofName? verdict.status)
  let schemeData ← readSchemeData verdict.schemeData
  return { r with status := status, response := verdict.response, schemeData := schemeData }

end VerdictForm

/-- A capture as it is handed in; `target` is the transaction that is captured. -/
structure CaptureForm where
  id : Nat
  target : Nat
  amount : String
  isFinal : Bool
  status : String
  createdAt : Int
deriving DecidableEq, Repr

namespace CaptureForm

def capture (form : CaptureForm) : Except PaymentError Capture := do
  let amount ← Amount.ofText form.amount
  let status ← PaymentError.known (CaptureStatus.ofName? form.status)
  return ⟨.ofNat form.id, .ofNat form.target, amount, form.isFinal, status,
    .ofSeconds form.createdAt⟩

def refundCapture (form : CaptureForm) : Except PaymentError RefundCapture := do
  let amount ← Amount.ofText form.amount
  let status ← PaymentError.known (CaptureStatus.ofName? form.status)
  return ⟨.ofNat form.id, .ofNat form.target, amount, form.isFinal, status,
    .ofSeconds form.createdAt⟩

end CaptureForm

structure SummaryForm where
  total : String
  hasFinal : Bool
deriving DecidableEq, Repr

def SummaryForm.summary (form : SummaryForm) : Except PaymentError CaptureSummary := do
  let total ← Decimal.ofText form.total
  return ⟨total, form.hasFinal⟩

end CardPayments
