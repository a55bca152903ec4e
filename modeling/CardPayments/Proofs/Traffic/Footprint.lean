import CardPayments.Proofs.Store.Rows
import CardPayments.Proofs.Traffic.Basic

/-! # What a request can touch

Whatever a request is answered, the calls it makes either only read or are about its own entity, and
the messages it sends are about that entity too. -/
set_option autoImplicit false

namespace CardPayments

namespace Flow

variable {σ α : Type} {C C' : Call → Prop} {M M' : Message → Prop}

/-- Every path through the flow only makes such calls and only sends such messages. -/
def Only (C : Call → Prop) (M : Message → Prop) : Flow σ α → Prop
  | .finish .. => True
  | .ask _ call next => C call ∧ ∀ answer, (next answer).Only C M
  | .send _ _ message next => M message ∧ ∀ attached outcome, (next attached outcome).Only C M

theorem only_require {held : σ} {step : String} {call : Call} {next : call.Value → Flow σ α}
    (asks : C call) (rest : ∀ value, (next value).Only C M) :
    (require held step call next).Only C M := by
  refine ⟨asks, fun answer => ?_⟩
  cases answer with
  | ok value => exact rest value
  | error e => trivial

theorem only_dispatch {p : Processor} {held : Attached → σ} {scheme : Scheme} {message : Message}
    {next : Attached → Except PaymentError Unit → Flow σ α} (sends : M message)
    (rest : ∀ attached outcome, (next attached outcome).Only C M) :
    (p.dispatch held scheme message next).Only C M := by
  rw [Processor.dispatch]
  split
  · refine ⟨sends, fun attached outcome => ?_⟩
    cases outcome with
    | ok _ => exact rest _ _
    | error e => exact rest _ _
  · exact rest _ _

theorem Only.mono {flow : Flow σ α} (only : flow.Only C M) (calls : ∀ call, C call → C' call)
    (messages : ∀ message, M message → M' message) : flow.Only C' M' := by
  induction flow with
  | finish held answer => trivial
  | ask held call next ih => exact ⟨calls call only.1, fun answer => ih answer (only.2 answer)⟩
  | send held scheme message next ih =>
      exact ⟨messages message only.1, fun attached outcome => ih attached outcome
        (only.2 attached outcome)⟩

/-- On every path the flow only reads, until it fails or goes on as one of the given flows. -/
def ReadsUntil (last : Flow σ α → Prop) : Flow σ α → Prop
  | .finish held answer => last (.finish held answer) ∨ ∃ e, answer = .error e
  | .ask held call next =>
      last (.ask held call next) ∨ call.IsRead ∧ ∀ answer, (next answer).ReadsUntil last
  | .send held scheme message next => last (.send held scheme message next)

variable {last : Flow σ α → Prop}

theorem readsUntil_last {flow : Flow σ α} (holds : last flow) : flow.ReadsUntil last := by
  cases flow with
  | finish held answer => exact Or.inl holds
  | ask held call next => exact Or.inl holds
  | send held scheme message next => exact holds

theorem readsUntil_error {held : σ} (e : PaymentError) :
    (Flow.finish held (.error e)).ReadsUntil last :=
  Or.inr ⟨e, rfl⟩

theorem readsUntil_require {held : σ} {step : String} {call : Call} {next : call.Value → Flow σ α}
    (reads : call.IsRead) (rest : ∀ value, (next value).ReadsUntil last) :
    (require held step call next).ReadsUntil last := by
  refine Or.inr ⟨reads, fun answer => ?_⟩
  cases answer with
  | ok value => exact rest value
  | error e => exact readsUntil_error _

end Flow

/-! ## Attempts to capture

They only read the summary and look for a reversal, store the capture or withdraw it, and announce
it. -/

section

variable {p : Processor} {C : Call → Prop} {M : Message → Prop}

theorem attemptCapture_calls {a : Authorization} {c : Capture}
    {again : PaymentError → Flow Unit Capture} (sums : C (.captureSummary a.id))
    (looks : C (.reversalExists a.id))
    (stores : ∀ isFinal seen, seen.checkCapturable a.amount c.amount = .ok () →
      seen.becomesFinal a.amount c.amount c.isFinal = .ok isFinal →
      C (.createCapture { c with isFinal := isFinal } seen))
    (withdraws : ∀ isFinal, C (.updateCapture { c with isFinal := isFinal, status := .failed }))
    (announces : ∀ isFinal, C (.publish p.topics.capture
      (CaptureEvent.ofCapture a { c with isFinal := isFinal }).toJson.render))
    (retries : ∀ e, (again e).Only C M) : (p.attemptCapture a c again).Only C M := by
  refine Flow.only_require sums fun summary => ?_
  split
  · trivial
  · next checked =>
      split
      · trivial
      · next isFinal becomes =>
          refine Flow.only_require looks fun reversed => ?_
          split
          · trivial
          · refine ⟨stores isFinal summary checked becomes, fun answer => ?_⟩
            cases answer with
            | error e =>
                dsimp only
                split
                · exact retries e
                · trivial
            | ok _ =>
                refine ⟨looks, fun answer => ?_⟩
                match answer with
                | .ok false => exact Flow.only_require (announces isFinal) fun _ => trivial
                | .ok true => exact Flow.only_require (withdraws isFinal) fun _ => trivial
                | .error e => exact Flow.only_require (withdraws isFinal) fun _ => trivial

theorem attemptsCapture_calls {a : Authorization} {c : Capture} (sums : C (.captureSummary a.id))
    (looks : C (.reversalExists a.id))
    (stores : ∀ isFinal seen, seen.checkCapturable a.amount c.amount = .ok () →
      seen.becomesFinal a.amount c.amount c.isFinal = .ok isFinal →
      C (.createCapture { c with isFinal := isFinal } seen))
    (withdraws : ∀ isFinal, C (.updateCapture { c with isFinal := isFinal, status := .failed }))
    (announces : ∀ isFinal, C (.publish p.topics.capture
      (CaptureEvent.ofCapture a { c with isFinal := isFinal }).toJson.render))
    (retries : Nat) : (p.attemptsCapture a c retries).Only C M := by
  induction retries with
  | zero => exact attemptCapture_calls sums looks stores withdraws announces fun _ => trivial
  | succ retries ih => exact attemptCapture_calls sums looks stores withdraws announces fun _ => ih

theorem attemptRefundCapture_calls {r : Refund} {c : RefundCapture}
    {again : PaymentError → Flow Unit RefundCapture} (sums : C (.refundCaptureSummary r.id))
    (stores : ∀ isFinal seen, seen.checkCapturable r.amount c.amount = .ok () →
      seen.becomesFinal r.amount c.amount c.isFinal = .ok isFinal →
      C (.createRefundCapture { c with isFinal := isFinal } seen))
    (announces : ∀ isFinal, C (.publish p.topics.refundCapture
      (RefundCaptureEvent.ofCapture r { c with isFinal := isFinal }).toJson.render))
    (retries : ∀ e, (again e).Only C M) : (p.attemptRefundCapture r c again).Only C M := by
  refine Flow.only_require sums fun summary => ?_
  split
  · trivial
  · next checked =>
      split
      · trivial
      · next isFinal becomes =>
          refine ⟨stores isFinal summary checked becomes, fun answer => ?_⟩
          cases answer with
          | ok _ => exact Flow.only_require (announces isFinal) fun _ => trivial
          | error e =>
              dsimp only
              split
              · exact retries e
              · trivial

theorem attemptsRefundCapture_calls {r : Refund} {c : RefundCapture}
    (sums : C (.refundCaptureSummary r.id))
    (stores : ∀ isFinal seen, seen.checkCapturable r.amount c.amount = .ok () →
      seen.becomesFinal r.amount c.amount c.isFinal = .ok isFinal →
      C (.createRefundCapture { c with isFinal := isFinal } seen))
    (announces : ∀ isFinal, C (.publish p.topics.refundCapture
      (RefundCaptureEvent.ofCapture r { c with isFinal := isFinal }).toJson.render))
    (retries : Nat) : (p.attemptsRefundCapture r c retries).Only C M := by
  induction retries with
  | zero => exact attemptRefundCapture_calls sums stores announces fun _ => trivial
  | succ retries ih => exact attemptRefundCapture_calls sums stores announces fun _ => ih

end

/-! ## The calls and messages of each request -/

namespace Request

def Concludes : Request → Call → Prop
  | .authorize a, .createAuthorizationData _ b => b.id = a.id
  | .authorize a, .updateAuthorization b =>
      b.id = a.id ∧ (b.status = .riskDeclined ∨ b.status = .ofResponse b.response)
  | .refund r, .createRefundData _ x => x.id = r.id
  | .refund r, .updateRefund x => x.id = r.id ∧ x.status = .ofResponse x.response
  | _, _ => False

def Writes : Request → Call → Prop
  | .authorize a, .tokenize merchant card => merchant = a.merchant ∧ card = a.card
  | .authorize a, .createAuthorization b => b.id = a.id ∧ b.status = .new
  | .refund r, .tokenize merchant card => merchant = r.merchant ∧ card = r.card
  | .refund r, .createRefund x => x.id = r.id ∧ x.status = .new
  | .capture _ c, .createCapture d _ => d = { c with isFinal := d.isFinal }
  | .capture _ c, .updateCapture d => d = { c with isFinal := d.isFinal, status := .failed }
  | .capture .., .publish .. => True
  | .captureRefund _ c, .createRefundCapture d _ => d = { c with isFinal := d.isFinal }
  | .captureRefund .., .publish .. => True
  | .reverse _ r, .createReversal x => x.id = r.id ∧ x.authorizationId = r.authorizationId
  | .reverse _ r, .updateReversal x => x.id = r.id ∧ x.authorizationId = r.authorizationId
  | q, call => q.Concludes call

def Reads : Request → Call → Prop
  | .reverse .., .detokenize .. => True
  | _, .detokenize .. => False
  | _, call => call.IsRead

def Asks (q : Request) (call : Call) : Prop := q.Reads call ∨ q.Writes call

def Sends : Request → Message → Prop
  | .authorize a, .authorize b => b.id = a.id
  | .refund r, .refund x => x.id = r.id
  | .reverse _ r, .reverse x => x.id = r.id ∧ x.authorizationId = r.authorizationId
  | _, _ => False

theorem Reads.isRead {q : Request} {call : Call} (reads : q.Reads call) : call.IsRead := by
  cases q <;> cases call <;> first | exact reads | exact reads.elim

theorem Concludes.writes {q : Request} {call : Call} (concludes : q.Concludes call) :
    q.Writes call := by
  cases q <;> cases call <;> first | exact concludes | exact concludes.elim

end Request

section

variable (p : Processor)

theorem assessAuthorization_only {a b : Authorization} (own : b.id = a.id) :
    (p.assessAuthorization b).Only (Request.authorize a).Concludes (Request.authorize a).Sends := by
  rw [Processor.assessAuthorization]
  split
  · refine Flow.only_dispatch own fun attached outcome => ?_
    cases outcome with
    | ok _ =>
        exact Flow.only_require own fun _ => Flow.only_require ⟨own, Or.inr rfl⟩ fun _ => trivial
    | error e => trivial
  · exact Flow.only_require ⟨own, Or.inl rfl⟩ fun _ => trivial

theorem sendRefund_only {r x : Refund} (own : x.id = r.id) :
    (p.sendRefund x).Only (Request.refund r).Concludes (Request.refund r).Sends := by
  refine Flow.only_dispatch own fun attached outcome => ?_
  cases outcome with
  | ok _ => exact Flow.only_require own fun _ => Flow.only_require ⟨own, rfl⟩ fun _ => trivial
  | error e => trivial

theorem authorize_only (a : Authorization) :
    (p.authorize a).Only (Request.authorize a).Asks (Request.authorize a).Sends := by
  refine Flow.only_require (Or.inr ⟨rfl, rfl⟩) fun token => ?_
  refine Flow.only_require (Or.inr ⟨rfl, rfl⟩) fun _ => ?_
  have rest := assessAuthorization_only p (a := a)
    (b := { a with card := { a.card with token := some token }, status := .new }) rfl
  exact rest.mono (fun _ concludes => Or.inr concludes.writes) fun _ => id

theorem refund_only (r : Refund) :
    (p.refund r).Only (Request.refund r).Asks (Request.refund r).Sends := by
  refine Flow.only_require (Or.inr ⟨rfl, rfl⟩) fun token => ?_
  refine Flow.only_require (Or.inr ⟨rfl, rfl⟩) fun _ => ?_
  have rest := sendRefund_only p (r := r)
    (x := { r with card := { r.card with token := some token }, status := .new }) rfl
  exact rest.mono (fun _ concludes => Or.inr concludes.writes) fun _ => id

theorem attemptsCapture_only (psp : String) (a : Authorization) (c : Capture) (retries : Nat) :
    (p.attemptsCapture a c retries).Only (Request.capture psp c).Asks
      (Request.capture psp c).Sends :=
  attemptsCapture_calls (Or.inl trivial) (Or.inl trivial) (fun _ _ _ _ => Or.inr rfl)
    (fun _ => Or.inr rfl) (fun _ => Or.inr trivial) retries

theorem capture_only (psp : String) (c : Capture) :
    (p.capture psp c).Only (Request.capture psp c).Asks (Request.capture psp c).Sends := by
  refine Flow.only_require (Or.inl trivial) fun a => ?_
  split
  · trivial
  · exact attemptsCapture_only p psp a c _

theorem attemptsRefundCapture_only (psp : String) (r : Refund) (c : RefundCapture)
    (retries : Nat) :
    (p.attemptsRefundCapture r c retries).Only (Request.captureRefund psp c).Asks
      (Request.captureRefund psp c).Sends :=
  attemptsRefundCapture_calls (Or.inl trivial) (fun _ _ _ _ => Or.inr rfl) (fun _ => Or.inr trivial)
    retries

theorem captureRefund_only (psp : String) (c : RefundCapture) :
    (p.captureRefund psp c).Only (Request.captureRefund psp c).Asks
      (Request.captureRefund psp c).Sends := by
  refine Flow.only_require (Or.inl trivial) fun r => ?_
  split
  · trivial
  · exact attemptsRefundCapture_only p psp r c _

theorem sendReversal_only (psp : String) {r x : Reversal}
    (own : x.id = r.id ∧ x.authorizationId = r.authorizationId) :
    (p.sendReversal x).Only (Request.reverse psp r).Asks (Request.reverse psp r).Sends := by
  rw [Processor.sendReversal, Processor.dispatchReversal]
  split
  · trivial
  · refine Flow.only_dispatch own fun attached outcome => ?_
    cases outcome with
    | ok _ => exact Flow.only_require (Or.inr own) fun _ => trivial
    | error e => trivial

theorem prepareReversal_only (psp : String) (a : Authorization) (r : Reversal) :
    (p.prepareReversal a r).Only (Request.reverse psp r).Asks (Request.reverse psp r).Sends := by
  refine Flow.only_require (Or.inl trivial) fun reversed => ?_
  split
  · trivial
  · refine Flow.only_require (Or.inl trivial) fun isFinal => ?_
    split
    · trivial
    · refine Flow.only_require (Or.inl trivial) fun summary => ?_
      unfold Processor.storeReversal
      split
      · refine Flow.only_require (Or.inr ⟨rfl, rfl⟩) fun _ => ?_
        refine Flow.only_require (Or.inl trivial) fun current => ?_
        split
        · exact sendReversal_only p psp ⟨rfl, rfl⟩
        · exact Flow.only_require (Or.inr ⟨rfl, rfl⟩) fun _ => trivial
      · split
        · trivial
        · trivial

theorem reverseAuthorization_only (psp : String) (r : Reversal) (a : Authorization) :
    (p.reverseAuthorization psp r a).Only (Request.reverse psp r).Asks
      (Request.reverse psp r).Sends := by
  rw [Processor.reverseAuthorization]
  split
  · trivial
  · split
    · trivial
    · split
      · trivial
      · exact Flow.only_require (Or.inl trivial) fun card => prepareReversal_only p psp _ r

theorem reverse_only (psp : String) (r : Reversal) :
    (p.reverse psp r).Only (Request.reverse psp r).Asks (Request.reverse psp r).Sends := by
  rw [Processor.reverse]
  split
  · exact reverseAuthorization_only p psp r _
  · exact Flow.only_require (Or.inl trivial) fun a => reverseAuthorization_only p psp r a

/-- Until a reversal is stored, its request only reads. -/
theorem reverse_readsUntil (psp : String) (r : Reversal) :
    (p.reverse psp r).ReadsUntil fun flow => ∃ a summary, flow = p.storeReversal a summary r := by
  have prepares (a : Authorization) : (p.prepareReversal a r).ReadsUntil
      fun flow => ∃ a summary, flow = p.storeReversal a summary r := by
    refine Flow.readsUntil_require trivial fun reversed => ?_
    split
    · exact Flow.readsUntil_error _
    · refine Flow.readsUntil_require trivial fun isFinal => ?_
      split
      · exact Flow.readsUntil_error _
      · exact Flow.readsUntil_require trivial fun summary =>
          Flow.readsUntil_last ⟨a, summary, rfl⟩
  have looks (a : Authorization) : (p.reverseAuthorization psp r a).ReadsUntil
      fun flow => ∃ a summary, flow = p.storeReversal a summary r := by
    rw [Processor.reverseAuthorization]
    split
    · exact Flow.readsUntil_error _
    · split
      · exact Flow.readsUntil_error _
      · split
        · exact Flow.readsUntil_error _
        · exact Flow.readsUntil_require trivial fun card => prepares _
  rw [Processor.reverse]
  split
  · exact looks _
  · exact Flow.readsUntil_require trivial looks

end

/-- Whatever it is answered, a request writes only what is its own. -/
theorem Request.flow_only (p : Processor) (q : Request) : (q.flow p).Only q.Asks q.Sends := by
  cases q with
  | authorize a => exact authorize_only p a
  | refund r => exact refund_only p r
  | capture psp c => exact capture_only p psp c
  | captureRefund psp c => exact captureRefund_only p psp c
  | reverse psp r => exact reverse_only p psp r

end CardPayments
