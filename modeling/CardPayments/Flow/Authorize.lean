import CardPayments.Flow.Basic

/-! # Authorizing and refunding

The card is replaced by a token, the row is stored as new, an authorization is looked at by the risk
rules, the network is asked, its data and at last its answer are stored.  A failure after the row
was stored leaves it in place: as new when the exchange failed, as declined by risk when a rule
rejected. -/
set_option autoImplicit false

namespace CardPayments.Processor

/-! ## Authorizations -/

def concludeAuthorization (a : Authorization) : Flow Authorization Unit :=
  let a := { a with status := .ofResponse a.response }
  .require a "failed to update authorization" (.updateAuthorization a) fun _ => .finish a (.ok ())

def storeAuthorizationData (a : Authorization) : Flow Authorization Unit :=
  .require a ("failed to create " ++ a.card.scheme.name ++ " authorization")
    (.createAuthorizationData a.card.scheme a) fun _ => concludeAuthorization a

def sendAuthorization (p : Processor) (a : Authorization) : Flow Authorization Unit :=
  p.dispatch a.attach a.card.scheme (.authorize a) fun attached outcome =>
    match outcome with
    | .error e => .fail (a.attach attached) "failed to authorize with the cardscheme" e
    | .ok () => storeAuthorizationData (a.attach attached)

def assessAuthorization (p : Processor) (a : Authorization) : Flow Authorization Unit :=
  match RiskRule.assess p.rules a with
  | .ok found => p.sendAuthorization { a with appliedExemption := found.applied }
  | .error e =>
      let rejected := { a with status := .riskDeclined }
      .require rejected "failed to store risk decline" (.updateAuthorization rejected) fun _ =>
        .fail rejected "risk assessment failed" e

/-- Stores an authorization whose card has its token. -/
def registerAuthorization (p : Processor) (a : Authorization) : Flow Authorization Unit :=
  .require a "failed to create authorization" (.createAuthorization a) fun _ =>
    p.assessAuthorization a

/-- Takes an authorization from intake to the stored answer of the network. -/
def authorize (p : Processor) (a : Authorization) : Flow Authorization Unit :=
  .require a "failed to tokenize consumer token" (.tokenize a.merchant a.card) fun token =>
    p.registerAuthorization { a with card := { a.card with token := some token }, status := .new }

/-! ## Refunds -/

def concludeRefund (r : Refund) : Flow Refund Unit :=
  let r := { r with status := .ofResponse r.response }
  .require r "failed to update refund" (.updateRefund r) fun _ => .finish r (.ok ())

def storeRefundData (r : Refund) : Flow Refund Unit :=
  .require r ("failed to create " ++ r.card.scheme.name ++ " refund")
    (.createRefundData r.card.scheme r) fun _ => concludeRefund r

def sendRefund (p : Processor) (r : Refund) : Flow Refund Unit :=
  p.dispatch r.attach r.card.scheme (.refund r) fun attached outcome =>
    match outcome with
    | .error e => .fail (r.attach attached) "failed to refund with the cardscheme" e
    | .ok () => storeRefundData (r.attach attached)

def registerRefund (p : Processor) (r : Refund) : Flow Refund Unit :=
  .require r "failed to create refund" (.createRefund r) fun _ => p.sendRefund r

def refund (p : Processor) (r : Refund) : Flow Refund Unit :=
  .require r "failed to tokenize consumer token" (.tokenize r.merchant r.card) fun token =>
    p.registerRefund { r with card := { r.card with token := some token }, status := .new }

end CardPayments.Processor
