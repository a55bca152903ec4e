import CardPayments.Session.Form
import CardPayments.Session.Reply

/-! # Adjustments

An adjustment works on the stores directly, past the processor: it puts rows, changes them, or looks
at them.  It stands for whatever else uses the same stores. -/
set_option autoImplicit false

namespace CardPayments

/-- A token by its number among those of the session, or by its text. -/
inductive TokenChoice where
  | none
  | index (k : Nat)
  | text (s : String)
deriving DecidableEq, Repr

inductive Adjustment where
  /-- Without a summary, the current one is taken as seen. -/
  | putCapture (c : Capture) (seen : Option CaptureSummary)
  | putRefundCapture (c : RefundCapture) (seen : Option CaptureSummary)
  | setCaptureStatus (authorizationId id : Uuid) (status : CaptureStatus)
  /-- Stores a reversal, which may carry a stored authorization. -/
  | putReversal (r : Reversal) (carried : Option (String × Uuid))
  | setReversal (r : Reversal) (carried : Option (String × Uuid))
  | putAuthorization (a : Authorization)
  | setAuthorization (a : Authorization)
  | putAuthorizationData (a : Authorization)
  | putRefund (r : Refund)
  | setRefund (r : Refund)
  | putRefundData (r : Refund)
  | storedAuthorization (psp : String) (id : Uuid)
  | captures (authorizationId : Uuid)
  | refundCaptures (refundId : Uuid)
  | summary (authorizationId : Uuid)
  | refundSummary (refundId : Uuid)
  | finalCaptureExists (authorizationId : Uuid)
  | alreadyReversed (authorizationId : Uuid)
  | reversalExists (authorizationId : Uuid)
  | messages
  | publish (topic payload : String)
  | tokenize (merchant : String) (card : Card)
  | detokenize (merchant : String) (card : Card) (token : TokenChoice)

/-- The stores with the tokens that were made directly, first one first. -/
structure Bench where
  stores : Stores
  tokens : List String
deriving DecidableEq

namespace Bench

def act (b : Bench) (call : Call) (reply : Reply) : Except PaymentError Reply × Bench :=
  let answered := b.stores.answer call
  (answered.1.map fun _ => reply, { b with stores := answered.2 })

def look {α : Type} (b : Bench) (found : Except PaymentError α) (reply : α → Reply) :
    Except PaymentError Reply × Bench :=
  (found.map reply, b)

def after {α : Type} (b : Bench) (found : Except PaymentError α)
    (next : α → Except PaymentError Reply × Bench) : Except PaymentError Reply × Bench :=
  match found with
  | .ok a => next a
  | .error e => (.error e, b)

/-- A summary that was given, or else the current one. -/
def seenOr (given : Option CaptureSummary) (current : Except PaymentError CaptureSummary) :
    Except PaymentError CaptureSummary :=
  match given with
  | some summary => .ok summary
  | none => current

/-- A reversal with the stored authorization that it is to carry. -/
def carrying (b : Bench) (r : Reversal) (carried : Option (String × Uuid)) :
    Except PaymentError Reversal :=
  match carried with
  | none => .ok r
  | some (psp, id) =>
      match b.stores.authorizations.get psp id with
      | .ok a => .ok { r with authorization := some a }
      | .error e => .error e

def tokenText (b : Bench) : TokenChoice → Option String
  | .none => Option.none
  | .index k => b.tokens[k]?
  | .text s => some s

def tokenize (b : Bench) (merchant : String) (card : Card) : Except PaymentError Reply × Bench :=
  match b.stores.vault.tokenize merchant card with
  | .error e => (.error e, b)
  | .ok (made, vault) =>
      (.ok (.token b.tokens.length (!b.tokens.contains made)),
        ⟨{ b.stores with vault := vault }, b.tokens ++ [made]⟩)

def detokenize (b : Bench) (merchant : String) (card : Card) (choice : TokenChoice) :
    Except PaymentError Reply :=
  let card := { card with token := b.tokenText choice }
  (b.stores.vault.detokenize merchant card).map fun found =>
    .opened ⟨found, found.token == card.token⟩

def apply (b : Bench) : Adjustment → Except PaymentError Reply × Bench
  | .putCapture c seen =>
      b.after (seenOr seen (b.stores.captures.summary c.authorizationId)) fun summary =>
        b.act (.createCapture c summary) .stored
  | .putRefundCapture c seen =>
      b.after (seenOr seen (b.stores.captures.refundSummary c.refundId)) fun summary =>
        b.act (.createRefundCapture c summary) .stored
  | .setCaptureStatus authorizationId id status =>
      match (b.stores.captures.ofAuthorization authorizationId).find? fun c => c.id = id with
      | some c => b.act (.updateCapture { c with status := status }) .updated
      | none => (.error .recordNotFound, b)
  | .putReversal r carried =>
      b.after (b.carrying r carried) fun r => b.act (.createReversal r) .stored
  | .setReversal r carried =>
      b.after (b.carrying r carried) fun r => b.act (.updateReversal r) .stored
  | .putAuthorization a => b.act (.createAuthorization a) .stored
  | .setAuthorization a => b.act (.updateAuthorization a) .stored
  | .putAuthorizationData a => b.act (.createAuthorizationData a.card.scheme a) .stored
  | .putRefund r => b.act (.createRefund r) .stored
  | .setRefund r => b.act (.updateRefund r) .stored
  | .putRefundData r => b.act (.createRefundData r.card.scheme r) .stored
  | .storedAuthorization psp id => b.look (b.stores.authorizations.get psp id) .authorization
  | .captures id => b.look (.ok (b.stores.captures.ofAuthorization id)) .captures
  | .refundCaptures id => b.look (.ok (b.stores.captures.ofRefund id)) .refundCaptures
  | .summary id => b.look (b.stores.captures.summary id) .summary
  | .refundSummary id => b.look (b.stores.captures.refundSummary id) .summary
  | .finalCaptureExists id => b.look (b.stores.captures.finalExists id) .flag
  | .alreadyReversed id => b.look (.ok (b.stores.reversals.reversed id)) .flag
  | .reversalExists id => b.look (.ok (b.stores.reversals.pending id)) .flag
  | .messages => b.look (.ok b.stores.published) .messages
  | .publish topic payload => b.act (.publish topic payload) .published
  | .tokenize merchant card => b.tokenize merchant card
  | .detokenize merchant card choice => (b.detokenize merchant card choice, b)

end Bench
end CardPayments
