import CardPayments.Flow.Basic

/-! # Capturing

A capture is checked against a summary of the captures so far, and stored only while that summary
still holds; a capture that loses this race is checked again, at most three times in all.  Reversals
go first: a capture looks for one before and after it is stored, and is withdrawn in the second
case.  A capture that could not be published stays stored. -/
set_option autoImplicit false

namespace CardPayments.Processor

/-- How often a capture that lost a race is checked again. -/
def captureRetries : Nat := 2

/-! ## Captures of authorizations -/

def publishCapture (p : Processor) (a : Authorization) (c : Capture) : Flow Unit Capture :=
  .require () "failed to publish capture event"
    (.publish p.topics.capture (CaptureEvent.ofCapture a c).toJson.render) fun _ =>
      .finish () (.ok c)

/-- Marks a stored capture as failed, and ends with the reason. -/
def withdrawCapture (c : Capture) (reason : PaymentError) : Flow Unit Capture :=
  .require () "failed to withdraw capture" (.updateCapture { c with status := .failed }) fun _ =>
    .finish () (.error reason)

def reversedError : PaymentError := PaymentError.alreadyReversed.within "invalid capture"

/-- A reversal that was created while the capture was stored takes precedence. -/
def recheckCapture (p : Processor) (a : Authorization) (c : Capture) : Flow Unit Capture :=
  .ask () (.reversalExists a.id) fun
    | .ok false => p.publishCapture a c
    | .ok true => withdrawCapture c reversedError
    | .error e => withdrawCapture c (e.within "failed to check reversal")

def insertCapture (p : Processor) (a : Authorization) (c : Capture) (seen : CaptureSummary)
    (again : PaymentError → Flow Unit Capture) : Flow Unit Capture :=
  .ask () (.createCapture c seen) fun
    | .ok _ => p.recheckCapture a c
    | .error e =>
        if e.root = .duplicateValue then again e else .fail () "failed to create capture" e

/-- One attempt: reads the summary, checks the capture against it and stores it.  `again` goes on
after a lost race. -/
def attemptCapture (p : Processor) (a : Authorization) (c : Capture)
    (again : PaymentError → Flow Unit Capture) : Flow Unit Capture :=
  .require () "failed to get capture summary" (.captureSummary a.id) fun summary =>
    match summary.checkCapturable a.amount c.amount with
    | .error e => .fail () "invalid capture" e
    | .ok () =>
        match summary.becomesFinal a.amount c.amount c.isFinal with
        | .error e => .fail () "invalid capture" e
        | .ok isFinal =>
            .require () "failed to check reversal" (.reversalExists a.id) fun (reversed : Bool) =>
              if reversed then .finish () (.error reversedError)
              else p.insertCapture a { c with isFinal := isFinal } summary again

/-- Attempts a capture, and again after each lost race while there are retries left. -/
def attemptsCapture (p : Processor) (a : Authorization) (c : Capture) : Nat → Flow Unit Capture
  | 0 => p.attemptCapture a c (.fail () "failed to create capture")
  | retries + 1 => p.attemptCapture a c fun _ => attemptsCapture p a c retries

def capture (p : Processor) (psp : String) (c : Capture) : Flow Unit Capture :=
  .require () "failed to get authorization" (.authorization psp c.authorizationId) fun a =>
    if a.status = .declined ∨ a.status = .riskDeclined then
      .fail () "invalid capture" .authorizationDeclined
    else p.attemptsCapture a c captureRetries

/-! ## Captures of refunds

A refund cannot be reversed, so there is nothing to look for before and after storing. -/

def publishRefundCapture (p : Processor) (r : Refund) (c : RefundCapture) :
    Flow Unit RefundCapture :=
  .require () "failed to publish capture event"
    (.publish p.topics.refundCapture (RefundCaptureEvent.ofCapture r c).toJson.render) fun _ =>
      .finish () (.ok c)

def insertRefundCapture (p : Processor) (r : Refund) (c : RefundCapture) (seen : CaptureSummary)
    (again : PaymentError → Flow Unit RefundCapture) : Flow Unit RefundCapture :=
  .ask () (.createRefundCapture c seen) fun
    | .ok _ => p.publishRefundCapture r c
    | .error e =>
        if e.root = .duplicateValue then again e else .fail () "failed to create refund capture" e

def attemptRefundCapture (p : Processor) (r : Refund) (c : RefundCapture)
    (again : PaymentError → Flow Unit RefundCapture) : Flow Unit RefundCapture :=
  .require () "failed to get capture refund summary" (.refundCaptureSummary r.id) fun summary =>
    match summary.checkCapturable r.amount c.amount with
    | .error e => .fail () "invalid refund capture" e
    | .ok () =>
        match summary.becomesFinal r.amount c.amount c.isFinal with
        | .error e => .fail () "invalid refund capture" e
        | .ok isFinal => p.insertRefundCapture r { c with isFinal := isFinal } summary again

def attemptsRefundCapture (p : Processor) (r : Refund) (c : RefundCapture) :
    Nat → Flow Unit RefundCapture
  | 0 => p.attemptRefundCapture r c (.fail () "failed to create refund capture")
  | retries + 1 => p.attemptRefundCapture r c fun _ => attemptsRefundCapture p r c retries

def captureRefund (p : Processor) (psp : String) (c : RefundCapture) : Flow Unit RefundCapture :=
  .require () "failed to get refund" (.refund psp c.refundId) fun r =>
    if r.status = .declined then .fail () "invalid refund capture" .refundDeclined
    else p.attemptsRefundCapture r c captureRetries

end CardPayments.Processor
