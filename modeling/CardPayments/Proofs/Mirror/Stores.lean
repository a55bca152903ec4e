import CardPayments.Proofs.Store.Images
import CardPayments.Proofs.Wire.Record
import CardPayments.Store.Basic
import Mathlib.Data.List.Forall2

/-! # Refunds seen as authorizations

Without its exemptions and its initiation an authorization is a refund, and a capture of an
authorization is one of a refund.  The tables of both sides answer the same when one is the image of
the other. -/
set_option autoImplicit false

namespace CardPayments

/-! ## Entities -/

def Authorization.asRefund (a : Authorization) : Refund where
  id := a.id
  psp := a.psp
  merchant := a.merchant
  amount := a.amount
  currency := a.currency
  card := a.card
  status := a.status
  response := a.response
  schemeData := a.schemeData
  createdAt := a.createdAt

def Capture.asRefundCapture (c : Capture) : RefundCapture where
  id := c.id
  refundId := c.authorizationId
  amount := c.amount
  isFinal := c.isFinal
  status := c.status
  createdAt := c.createdAt

def CaptureEvent.asRefundEvent (e : CaptureEvent) : RefundCaptureEvent where
  captureId := e.captureId
  refundId := e.authorizationId
  psp := e.psp
  amount := e.amount
  currency := e.currency
  isFinal := e.isFinal
  scheme := e.scheme
  maskedPan := e.maskedPan
  capturedAt := e.capturedAt

/-! ## Tables -/

namespace AuthorizationStore

def asRefunds (s : AuthorizationStore) : RefundStore :=
  ⟨s.rows.map Authorization.asRefund, s.schemeData⟩

theorem asRefund_copies : TransactionStore.Copies Authorization.asRefund id where
  id _ := rfl
  psp _ := rfl
  createdAt _ := rfl
  row _ := rfl
  decided _ _ := rfl
  withData _ data := by
    rw [Option.map_id]
    rfl
  checked a scheme := by
    change SchemeData.checked a.id a.schemeData scheme = _
    cases SchemeData.checked a.id a.schemeData scheme <;> rfl

theorem asRefunds_eq_image :
    asRefunds = TransactionStore.image (fun _ => true) Authorization.asRefund id := by
  funext s
  simp [asRefunds, TransactionStore.image]

variable (s : AuthorizationStore)

theorem create_asRefunds (a : Authorization) :
    s.asRefunds.create a.asRefund = (s.create a).map asRefunds := by
  rw [asRefunds_eq_image, s.create_image asRefund_copies a rfl]

theorem createData_asRefunds (scheme : Scheme) (a : Authorization) :
    s.asRefunds.createData scheme a.asRefund = (s.createData scheme a).map asRefunds := by
  rw [asRefunds_eq_image, s.createData_image asRefund_copies scheme a rfl]

theorem update_asRefunds (a : Authorization) :
    s.asRefunds.update a.asRefund = (s.update a).map asRefunds := by
  rw [asRefunds_eq_image, s.update_image asRefund_copies a rfl]

theorem getFull_asRefunds (psp : String) (id : Uuid) :
    s.asRefunds.getFull psp id = (s.getFull psp id).map Authorization.asRefund := by
  rw [asRefunds_eq_image, s.getFull_image asRefund_copies psp rfl]

end AuthorizationStore

namespace CaptureStore

variable {s t : CaptureStore}

/-- The refund captures of one store are the captures of the other. -/
def Mirrors (s t : CaptureStore) : Prop :=
  s.refundCaptures = t.captures.map Capture.asRefundCapture

theorem Mirrors.summary (mirrors : s.Mirrors t) (id : Uuid) :
    s.refundSummary id = t.summary id := by
  have entries : (s.ofRefund id).map RefundCapture.entry =
      (t.ofAuthorization id).map Capture.entry := by
    rw [ofRefund, mirrors, List.filter_map, List.map_map]
    rfl
  rw [refundSummary, CaptureSummary.ofRefundCaptures, entries]
  rfl

theorem Mirrors.create (mirrors : s.Mirrors t) (c : Capture) (seen : CaptureSummary) :
    (∃ e, s.createForRefund c.asRefundCapture seen = .error e ∧ t.create c seen = .error e) ∨
      ∃ s' t', s.createForRefund c.asRefundCapture seen = .ok s' ∧ t.create c seen = .ok t' ∧
        s'.Mirrors t' := by
  have summary : s.refundSummary c.asRefundCapture.refundId = _ :=
    mirrors.summary c.authorizationId
  rw [createForRefund, summary, CaptureStore.create]
  cases t.summary c.authorizationId with
  | error e => exact Or.inl ⟨e, rfl, rfl⟩
  | ok current =>
      by_cases same : current.same seen = true
      · refine Or.inr ⟨_, _, if_pos same, if_pos same, ?_⟩
        rw [Mirrors, mirrors, List.map_append]
        rfl
      · exact Or.inl ⟨.duplicateValue, if_neg same, if_neg same⟩

end CaptureStore

/-! ## The stores together -/

/-- The refund side publishes on its topic what the other side publishes on its own, and readers get
the two events from their texts. -/
def Publication.Mirrors (topics : Topics) (x y : Publication) : Prop :=
  ∃ e : CaptureEvent, x = ⟨topics.refundCapture, e.asRefundEvent.toJson.render⟩ ∧
    y = ⟨topics.capture, e.toJson.render⟩ ∧
    (e.capturedAt.Plain →
      (Json.parseText x.payload).bind RefundCaptureEvent.ofJson = some e.asRefundEvent ∧
      (Json.parseText y.payload).bind CaptureEvent.ofJson = some e)

theorem Publication.mirrors_render (topics : Topics) (e : CaptureEvent) :
    Mirrors topics ⟨topics.refundCapture, e.asRefundEvent.toJson.render⟩
      ⟨topics.capture, e.toJson.render⟩ :=
  ⟨e, rfl, rfl, fun dated =>
    ⟨(RefundCaptureEvent.gives (e := e.asRefundEvent) dated).text,
      (CaptureEvent.gives dated).text⟩⟩

/-- The refunds of `s` are the authorizations of `t`, which are not reversed. -/
structure Stores.Mirrors (topics : Topics) (s t : Stores) : Prop where
  vault : s.vault = t.vault
  refunds : s.refunds = t.authorizations.asRefunds
  assessed : ∀ row ∈ t.authorizations.rows, row.status ≠ .riskDeclined
  captures : s.captures.Mirrors t.captures
  unreversed : t.reversals.rows = []
  published : List.Forall₂ (Publication.Mirrors topics) s.published t.published

end CardPayments
