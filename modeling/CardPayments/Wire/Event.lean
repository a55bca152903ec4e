import CardPayments.Wire.Entity

/-! # Published events

What is published once a capture or a refund capture is stored. -/
set_option autoImplicit false

namespace CardPayments

structure CaptureEvent where
  captureId : Uuid
  authorizationId : Uuid
  psp : String
  amount : Decimal
  currency : Currency
  isFinal : Bool
  scheme : Scheme
  maskedPan : String
  capturedAt : Instant
deriving DecidableEq

namespace CaptureEvent

def ofCapture (a : Authorization) (c : Capture) : CaptureEvent where
  captureId := c.id
  authorizationId := a.id
  psp := a.psp
  amount := c.amount.value
  currency := a.currency
  isFinal := c.isFinal
  scheme := a.card.scheme
  maskedPan := a.card.maskedPan
  capturedAt := c.createdAt

def fieldNames : List String :=
  ["captureId", "authorizationId", "pspId", "amount", "currency", "isFinal", "scheme", "maskedPan",
    "capturedAt"]

def ofJson (j : Json) : Option CaptureEvent := do
  let [captureId, authorizationId, psp, amount, currency, isFinal, scheme, maskedPan, capturedAt] ←
    j.record fieldNames | none
  return {
    captureId := ← Json.required Uuid.ofJson captureId
    authorizationId := ← Json.required Uuid.ofJson authorizationId
    psp := ← Json.required Json.readString psp
    amount := ← Json.required Json.readDecimal amount
    currency := ← Json.required Currency.ofJson currency
    isFinal := ← Json.required Json.readBool isFinal
    scheme := ← Json.required Scheme.ofJson scheme
    maskedPan := ← Json.required Json.readString maskedPan
    capturedAt := ← Json.required Instant.ofJson capturedAt }

def toJson (e : CaptureEvent) : Json :=
  .object [("captureId", e.captureId.toJson), ("authorizationId", e.authorizationId.toJson),
    ("pspId", .string e.psp), ("amount", Json.ofDecimal e.amount), ("currency", e.currency.toJson),
    ("isFinal", .bool e.isFinal), ("scheme", e.scheme.toJson), ("maskedPan", .string e.maskedPan),
    ("capturedAt", e.capturedAt.toJson)]

end CaptureEvent

structure RefundCaptureEvent where
  captureId : Uuid
  refundId : Uuid
  psp : String
  amount : Decimal
  currency : Currency
  isFinal : Bool
  scheme : Scheme
  maskedPan : String
  capturedAt : Instant
deriving DecidableEq

namespace RefundCaptureEvent

def ofCapture (r : Refund) (c : RefundCapture) : RefundCaptureEvent where
  captureId := c.id
  refundId := r.id
  psp := r.psp
  amount := c.amount.value
  currency := r.currency
  isFinal := c.isFinal
  scheme := r.card.scheme
  maskedPan := r.card.maskedPan
  capturedAt := c.createdAt

def fieldNames : List String :=
  ["captureId", "refundId", "pspId", "amount", "currency", "isFinal", "scheme", "maskedPan",
    "capturedAt"]

def ofJson (j : Json) : Option RefundCaptureEvent := do
  let [captureId, refundId, psp, amount, currency, isFinal, scheme, maskedPan, capturedAt] ←
    j.record fieldNames | none
  return {
    captureId := ← Json.required Uuid.ofJson captureId
    refundId := ← Json.required Uuid.ofJson refundId
    psp := ← Json.required Json.readString psp
    amount := ← Json.required Json.readDecimal amount
    currency := ← Json.required Currency.ofJson currency
    isFinal := ← Json.required Json.readBool isFinal
    scheme := ← Json.required Scheme.ofJson scheme
    maskedPan := ← Json.required Json.readString maskedPan
    capturedAt := ← Json.required Instant.ofJson capturedAt }

def toJson (e : RefundCaptureEvent) : Json :=
  .object [("captureId", e.captureId.toJson), ("refundId", e.refundId.toJson),
    ("pspId", .string e.psp), ("amount", Json.ofDecimal e.amount), ("currency", e.currency.toJson),
    ("isFinal", .bool e.isFinal), ("scheme", e.scheme.toJson), ("maskedPan", .string e.maskedPan),
    ("capturedAt", e.capturedAt.toJson)]

end RefundCaptureEvent
end CardPayments
