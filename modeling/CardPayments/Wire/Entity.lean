import CardPayments.Trace.Block
import CardPayments.Wire.Value

/-! # JSON forms of records

Each record is written as an object of its fields in order; the clear number of a card is read but
never written.  Scheme data is written with its scheme in front, and may name it anywhere when it is
read; it is read as a whole first, so nothing in it may be unsound. -/
set_option autoImplicit false

namespace CardPayments

/-- How deep arrays and objects may be nested in a value that is read as a whole. -/
def nestingLimit : Nat := 127

namespace Card

def fieldNames : List String := ["pan", "masked_pan", "token_id", "scheme"]

def ofJson (j : Json) : Option Card := do
  let [pan, maskedPan, token, scheme] ← j.record fieldNames | none
  return {
    pan := ← Json.optional Pan.ofJson pan
    maskedPan := ← Json.required Json.readString maskedPan
    token := ← Json.optional Json.readString token
    scheme := ← Json.required Scheme.ofJson scheme }

def toJson (card : Card) : Json :=
  .object [("masked_pan", .string card.maskedPan), ("token_id", Json.ofOption .string card.token),
    ("scheme", card.scheme.toJson)]

end Card

namespace Initiation

def fieldNames : List String := ["initiator", "recurring", "initial_trace_id"]

def ofJson (j : Json) : Option Initiation := do
  let [initiator, recurring, trace] ← j.record fieldNames | none
  return {
    initiator := ← Json.required Initiator.ofJson initiator
    recurring := ← Json.required Json.readBool recurring
    initialTraceId := ← Json.optional Json.readString trace }

def toJson (i : Initiation) : Json :=
  .object [("initiator", i.initiator.toJson), ("recurring", .bool i.recurring),
    ("initial_trace_id", Json.ofOption .string i.initialTraceId)]

end Initiation

namespace SchemeResponse

def fieldNames : List String := ["response_code", "stan", "approval_code", "responded_at"]

def ofJson (j : Json) : Option SchemeResponse := do
  let [code, stan, approvalCode, respondedAt] ← j.record fieldNames | none
  return {
    code := ← Json.required ResponseCode.ofJson code
    stan := ← Json.required Json.readWord stan
    approvalCode := ← Json.optional Json.readString approvalCode
    respondedAt := ← Json.required Instant.ofJson respondedAt }

def toJson (r : SchemeResponse) : Json :=
  .object [("response_code", r.code.toJson), ("stan", Json.ofWord r.stan),
    ("approval_code", Json.ofOption .string r.approvalCode), ("responded_at", r.respondedAt.toJson)]

end SchemeResponse

namespace SchemeData

def ofFields (scheme : Scheme) (j : Json) : Option SchemeData :=
  match scheme with
  | .mastercard => do
      let [reference, network, settlement] ←
        j.record ["banknet_reference", "financial_network_code", "settlement_date"] | none
      return .mastercard (← Json.optional Json.readString reference)
        (← Json.optional Json.readString network) (← Json.optional Json.readString settlement)
  | .visa => do
      let [transaction, validation] ← j.record ["transaction_id", "validation_code"] | none
      return .visa (← Json.optional Json.readString transaction)
        (← Json.optional Json.readString validation)

def readScheme (j : Json) : Option Scheme := j.readString.bind Scheme.ofName?

/-- Reads scheme data that stands inside `outer` other records. -/
def ofJson (outer : Nat) (j : Json) : Option SchemeData :=
  if j.isSound (nestingLimit - outer) then
    match j with
    | .array (scheme :: rest) => (readScheme scheme).bind fun s => ofFields s (.array rest)
    | .object fields =>
        match Json.lookupOnce fields "scheme" with
        | some (some scheme) => (readScheme scheme).bind fun s => ofFields s j
        | _ => none
    | _ => none
  else none

def toJson : SchemeData → Json
  | .mastercard reference network settlement =>
      .object [("scheme", Scheme.mastercard.toJson),
        ("banknet_reference", Json.ofOption .string reference),
        ("financial_network_code", Json.ofOption .string network),
        ("settlement_date", Json.ofOption .string settlement)]
  | .visa transaction validation =>
      .object [("scheme", Scheme.visa.toJson),
        ("transaction_id", Json.ofOption .string transaction),
        ("validation_code", Json.ofOption .string validation)]

end SchemeData

namespace Authorization

def fieldNames : List String :=
  ["id", "psp_id", "merchant_id", "amount", "currency", "card", "exemption", "applied_exemption",
    "cit_mit", "status", "response", "scheme_data", "created_at"]

def ofJson (outer : Nat) (j : Json) : Option Authorization := do
  let [id, psp, merchant, amount, currency, card, exemption, applied, initiation, status, response,
    schemeData, createdAt] ← j.record fieldNames | none
  return {
    id := ← Json.required Uuid.ofJson id
    psp := ← Json.required Json.readString psp
    merchant := ← Json.required Json.readString merchant
    amount := ← Json.required Amount.ofJson amount
    currency := ← Json.required Currency.ofJson currency
    card := ← Json.required Card.ofJson card
    exemption := ← Json.required Exemption.ofJson exemption
    appliedExemption := ← Json.optional Exemption.ofJson applied
    initiation := ← Json.required Initiation.ofJson initiation
    status := ← Json.required Status.ofJson status
    response := ← Json.optional SchemeResponse.ofJson response
    schemeData := ← Json.optional (SchemeData.ofJson (outer + 1)) schemeData
    createdAt := ← Json.required Instant.ofJson createdAt }

def toJson (a : Authorization) : Json :=
  .object [("id", a.id.toJson), ("psp_id", .string a.psp), ("merchant_id", .string a.merchant),
    ("amount", a.amount.toJson), ("currency", a.currency.toJson), ("card", a.card.toJson),
    ("exemption", a.exemption.toJson),
    ("applied_exemption", Json.ofOption Exemption.toJson a.appliedExemption),
    ("cit_mit", a.initiation.toJson), ("status", a.status.toJson),
    ("response", Json.ofOption SchemeResponse.toJson a.response),
    ("scheme_data", Json.ofOption SchemeData.toJson a.schemeData),
    ("created_at", a.createdAt.toJson)]

end Authorization

namespace Refund

def fieldNames : List String :=
  ["id", "psp_id", "merchant_id", "amount", "currency", "card", "status", "response", "scheme_data",
    "created_at"]

def ofJson (j : Json) : Option Refund := do
  let [id, psp, merchant, amount, currency, card, status, response, schemeData, createdAt] ←
    j.record fieldNames | none
  return {
    id := ← Json.required Uuid.ofJson id
    psp := ← Json.required Json.readString psp
    merchant := ← Json.required Json.readString merchant
    amount := ← Json.required Amount.ofJson amount
    currency := ← Json.required Currency.ofJson currency
    card := ← Json.required Card.ofJson card
    status := ← Json.required Status.ofJson status
    response := ← Json.optional SchemeResponse.ofJson response
    schemeData := ← Json.optional (SchemeData.ofJson 1) schemeData
    createdAt := ← Json.required Instant.ofJson createdAt }

def toJson (r : Refund) : Json :=
  .object [("id", r.id.toJson), ("psp_id", .string r.psp), ("merchant_id", .string r.merchant),
    ("amount", r.amount.toJson), ("currency", r.currency.toJson), ("card", r.card.toJson),
    ("status", r.status.toJson), ("response", Json.ofOption SchemeResponse.toJson r.response),
    ("scheme_data", Json.ofOption SchemeData.toJson r.schemeData),
    ("created_at", r.createdAt.toJson)]

end Refund

namespace Capture

def fieldNames : List String :=
  ["id", "authorization_id", "amount", "is_final", "status", "created_at"]

def ofJson (j : Json) : Option Capture := do
  let [id, authorizationId, amount, isFinal, status, createdAt] ← j.record fieldNames | none
  return {
    id := ← Json.required Uuid.ofJson id
    authorizationId := ← Json.required Uuid.ofJson authorizationId
    amount := ← Json.required Amount.ofJson amount
    isFinal := ← Json.required Json.readBool isFinal
    status := ← Json.required CaptureStatus.ofJson status
    createdAt := ← Json.required Instant.ofJson createdAt }

def toJson (c : Capture) : Json :=
  .object [("id", c.id.toJson), ("authorization_id", c.authorizationId.toJson),
    ("amount", c.amount.toJson), ("is_final", .bool c.isFinal), ("status", c.status.toJson),
    ("created_at", c.createdAt.toJson)]

end Capture

namespace RefundCapture

def fieldNames : List String := ["id", "refund_id", "amount", "is_final", "status", "created_at"]

def ofJson (j : Json) : Option RefundCapture := do
  let [id, refundId, amount, isFinal, status, createdAt] ← j.record fieldNames | none
  return {
    id := ← Json.required Uuid.ofJson id
    refundId := ← Json.required Uuid.ofJson refundId
    amount := ← Json.required Amount.ofJson amount
    isFinal := ← Json.required Json.readBool isFinal
    status := ← Json.required CaptureStatus.ofJson status
    createdAt := ← Json.required Instant.ofJson createdAt }

def toJson (c : RefundCapture) : Json :=
  .object [("id", c.id.toJson), ("refund_id", c.refundId.toJson), ("amount", c.amount.toJson),
    ("is_final", .bool c.isFinal), ("status", c.status.toJson), ("created_at", c.createdAt.toJson)]

end RefundCapture

namespace CaptureSummary

def fieldNames : List String := ["total_captured_amount", "has_final_capture"]

def ofJson (j : Json) : Option CaptureSummary := do
  let [total, hasFinal] ← j.record fieldNames | none
  return {
    total := ← Json.required Json.readDecimal total
    hasFinal := ← Json.required Json.readBool hasFinal }

def toJson (s : CaptureSummary) : Json :=
  .object [("total_captured_amount", Json.ofDecimal s.total),
    ("has_final_capture", .bool s.hasFinal)]

end CaptureSummary

namespace Reversal

def fieldNames : List String :=
  ["id", "authorization_id", "authorization", "amount", "status", "response", "created_at"]

def ofJson (j : Json) : Option Reversal := do
  let [id, authorizationId, authorization, amount, status, response, createdAt] ←
    j.record fieldNames | none
  return {
    id := ← Json.required Uuid.ofJson id
    authorizationId := ← Json.required Uuid.ofJson authorizationId
    authorization := ← Json.optional (Authorization.ofJson 1) authorization
    amount := ← Json.optional Amount.ofJson amount
    status := ← Json.required ReversalStatus.ofJson status
    response := ← Json.optional SchemeResponse.ofJson response
    createdAt := ← Json.required Instant.ofJson createdAt }

def toJson (r : Reversal) : Json :=
  .object [("id", r.id.toJson), ("authorization_id", r.authorizationId.toJson),
    ("authorization", Json.ofOption Authorization.toJson r.authorization),
    ("amount", Json.ofOption Amount.toJson r.amount), ("status", r.status.toJson),
    ("response", Json.ofOption SchemeResponse.toJson r.response),
    ("created_at", r.createdAt.toJson)]

end Reversal

namespace Block

def fieldNames : List String := ["next_value", "rollover_value"]

def ofJson (j : Json) : Option Block := do
  let [nextValue, tag] ← j.record fieldNames | none
  return {
    nextValue := ← Json.required Json.readWord nextValue
    tag := ← Json.required Json.readString tag }

def toJson (b : Block) : Json :=
  .object [("next_value", Json.ofWord b.nextValue), ("rollover_value", .string b.tag)]

end Block
end CardPayments
