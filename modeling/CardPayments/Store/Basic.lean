import CardPayments.Flow.Basic
import CardPayments.Store.Captures
import CardPayments.Store.Reversals
import CardPayments.Store.Transactions
import CardPayments.Store.Vault

/-! # The stores together

One answer per call: a call either changes one store and succeeds, or leaves all of them as they
are. -/
set_option autoImplicit false

namespace CardPayments

structure Publication where
  topic : String
  payload : String
deriving DecidableEq, Repr

structure Stores where
  vault : Vault
  authorizations : AuthorizationStore
  refunds : RefundStore
  captures : CaptureStore
  reversals : ReversalStore
  published : List Publication
deriving DecidableEq

namespace Stores

def empty : Stores := ⟨.empty, .empty, .empty, .empty, .empty, []⟩

/-- The answer to a call that only changes a store: the stores with the changed one put back. -/
def changed {σ : Type} (s : Stores) (put : σ → Stores) :
    Except PaymentError σ → Except PaymentError Unit × Stores
  | .ok store => (.ok (), put store)
  | .error e => (.error e, s)

def answer (s : Stores) : (call : Call) → Except PaymentError call.Value × Stores
  | .tokenize merchant card =>
      match s.vault.tokenize merchant card with
      | .ok (token, vault) => (.ok token, { s with vault := vault })
      | .error e => (.error e, s)
  | .detokenize merchant card => (s.vault.detokenize merchant card, s)
  | .createAuthorization a =>
      s.changed (fun store => { s with authorizations := store }) (s.authorizations.create a)
  | .createAuthorizationData scheme a =>
      s.changed (fun store => { s with authorizations := store })
        (s.authorizations.createData scheme a)
  | .updateAuthorization a =>
      s.changed (fun store => { s with authorizations := store }) (s.authorizations.update a)
  | .authorizations psp order => (.ok (s.authorizations.ofPsp psp order), s)
  | .authorization psp id => (s.authorizations.getFull psp id, s)
  | .createRefund r => s.changed (fun store => { s with refunds := store }) (s.refunds.create r)
  | .createRefundData scheme r =>
      s.changed (fun store => { s with refunds := store }) (s.refunds.createData scheme r)
  | .updateRefund r => s.changed (fun store => { s with refunds := store }) (s.refunds.update r)
  | .refunds psp order => (.ok (s.refunds.ofPsp psp order), s)
  | .refund psp id => (s.refunds.getFull psp id, s)
  | .createCapture c seen =>
      s.changed (fun store => { s with captures := store }) (s.captures.create c seen)
  | .updateCapture c =>
      s.changed (fun store => { s with captures := store }) (s.captures.update c)
  | .captureSummary id => (s.captures.summary id, s)
  | .finalCaptureExists id => (s.captures.finalExists id, s)
  | .createRefundCapture c seen =>
      s.changed (fun store => { s with captures := store }) (s.captures.createForRefund c seen)
  | .refundCaptureSummary id => (s.captures.refundSummary id, s)
  | .createReversal r =>
      s.changed (fun store => { s with reversals := store }) (s.reversals.create r)
  | .updateReversal r =>
      s.changed (fun store => { s with reversals := store }) (s.reversals.update r)
  | .alreadyReversed id => (.ok (s.reversals.reversed id), s)
  | .reversalExists id => (.ok (s.reversals.pending id), s)
  | .reversals id => (.ok (s.reversals.ofAuthorization id), s)
  | .publish topic payload => (.ok (), { s with published := s.published ++ [⟨topic, payload⟩] })

end Stores
end CardPayments
