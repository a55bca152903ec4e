import CardPayments.Flow.Basic

/-! # Reversing

A reversal cancels what is not captured of an approved authorization.  That no other reversal is
under way is decided when it is stored; a capture that was stored after the summary was read makes
it withdraw before anything is sent.  A reversal that the network declines is stored as failed and
may be tried again. -/
set_option autoImplicit false

namespace CardPayments.Processor

def concludeReversal (r : Reversal) : Flow Reversal Unit :=
  let r := { r with status := .ofResponse r.response }
  .require r "failed to update reversal" (.updateReversal r) fun _ => .finish r (.ok ())

def dispatchReversal {α : Type} (p : Processor) (r : Reversal)
    (next : Reversal → Except PaymentError Unit → Flow Reversal α) : Flow Reversal α :=
  match r.scheme? with
  | none => next r (.error (.invalid .noScheme))
  | some scheme =>
      p.dispatch r.attach scheme (.reverse r) fun attached outcome =>
        next (r.attach attached) outcome

/-- Sends a reversal as it is, without storing anything. -/
def sendOnly (p : Processor) (r : Reversal) : Flow Reversal Unit :=
  p.dispatchReversal r fun r outcome => .finish r outcome

def sendReversal (p : Processor) (r : Reversal) : Flow Reversal Unit :=
  p.dispatchReversal r fun r outcome =>
    match outcome with
    | .error e => .fail r "failed to reverse with the cardscheme" e
    | .ok () => concludeReversal r

def withdrawReversal (r : Reversal) : Flow Reversal Unit :=
  let r := { r with status := .failed }
  .require r "failed to withdraw reversal" (.updateReversal r) fun _ =>
    .fail r "invalid reversal" .duplicateValue

/-- A capture stored after the summary was read would make the amount too large. -/
def recheckReversal (p : Processor) (authorizationId : Uuid) (seen : CaptureSummary)
    (r : Reversal) : Flow Reversal Unit :=
  .require r "failed to get capture summary" (.captureSummary authorizationId) fun current =>
    if current.same seen then p.sendReversal r else withdrawReversal r

def storeReversal (p : Processor) (a : Authorization) (summary : CaptureSummary) (r : Reversal) :
    Flow Reversal Unit :=
  match summary.reversalAmount a.amount with
  | .ok amount =>
      let r := { r with amount := some amount, authorization := some a, status := .new }
      .require r "failed to create reversal" (.createReversal r) fun _ =>
        p.recheckReversal a.id summary r
  | .error e =>
      match e.overflow? with
      | some _ => .finish r (.error e)
      | none => .fail r "nothing left to reverse" .authorizedAmountExceeded

/-- Looks for a reversal and for a final capture of an authorization whose card is clear, and reads
the summary of its captures. -/
def prepareReversal (p : Processor) (a : Authorization) (r : Reversal) : Flow Reversal Unit :=
  .require r "failed to check reversal" (.alreadyReversed a.id) fun (reversed : Bool) =>
    if reversed then .fail r "invalid reversal" .alreadyReversed
    else
      .require r "failed to check final capture" (.finalCaptureExists a.id) fun (isFinal : Bool) =>
        if isFinal then .fail r "invalid reversal" .finalCaptureExists
        else
          .require r "failed to get capture summary" (.captureSummary a.id) fun summary =>
            p.storeReversal a summary r

/-- Checks that the authorization may be reversed by this caller, and looks up its clear number. -/
def reverseAuthorization (p : Processor) (psp : String) (r : Reversal) (a : Authorization) :
    Flow Reversal Unit :=
  if a.psp ≠ psp then .fail r "failed to get authorization" .recordNotFound
  else if a.id ≠ r.authorizationId then .finish r (.error (.invalid .otherAuthorization))
  else if a.status ≠ .approved then .fail r "invalid reversal" .authorizationNotApproved
  else
    .require r "failed to detokenize card" (.detokenize a.merchant a.card) fun card =>
      p.prepareReversal { a with card := card } r

def reverse (p : Processor) (psp : String) (r : Reversal) : Flow Reversal Unit :=
  match r.authorization with
  | some a => p.reverseAuthorization psp r a
  | none =>
      .require r "failed to get authorization" (.authorization psp r.authorizationId) fun a =>
        p.reverseAuthorization psp r a

end CardPayments.Processor
