import CardPayments.Proofs.Traffic.Footprint
import CardPayments.Proofs.Traffic.Protocol
import CardPayments.Proofs.Wire.Record

/-! # Phases of a delivery

The life of a request up to its event.  A capture of an authorization is looked at once more after
it was stored, and taken back or announced; a refund capture is announced at once.  What is told is
read off the stored row and the authorization or refund it belongs to. -/
set_option autoImplicit false

namespace CardPayments

/-- A stored capture, of an authorization or of a refund. -/
inductive CaptureRow where
  | ofAuthorization (c : Capture)
  | ofRefund (c : RefundCapture)
deriving DecidableEq

namespace CaptureRow

/-- Captures of authorizations and of refunds have ids of their own. -/
def key : CaptureRow → Uuid ⊕ Uuid
  | .ofAuthorization c => .inl c.id
  | .ofRefund c => .inr c.id

def status : CaptureRow → CaptureStatus
  | .ofAuthorization c => c.status
  | .ofRefund c => c.status

/-- The row is what the request asks to store; whether it is final was decided while storing it, and
its status is what became of it. -/
def Of : CaptureRow → Request → Prop
  | .ofAuthorization row, .capture _ c =>
      row = { c with isFinal := row.isFinal, status := row.status }
  | .ofRefund row, .captureRefund _ c =>
      row = { c with isFinal := row.isFinal, status := row.status }
  | _, _ => False

end CaptureRow

namespace Request

def Settles : Request → Prop
  | .capture .. => True
  | .captureRefund .. => True
  | .reverse .. => True
  | _ => False

def Captures : Request → Prop
  | .capture .. => True
  | .captureRefund .. => True
  | _ => False

def refundCaptureId? : Request → Option Uuid
  | .captureRefund _ c => some c.id
  | _ => none

def captureStatus? : Request → Option CaptureStatus
  | .capture _ c => some c.status
  | .captureRefund _ c => some c.status
  | _ => none

end Request

/-- An event tells what is stored, of the row and of what it was captured from, and a reader gets it
from its text. -/
inductive Announces (topics : Topics) (authorizations : AuthorizationStore)
    (refunds : RefundStore) : CaptureRow → Publication → Prop
  | capture (row : Capture) (a : Authorization) (e : CaptureEvent)
      (stored : authorizations.row? row.authorizationId = some a) (captureId : e.captureId = row.id)
      (authorizationId : e.authorizationId = a.id) (amount : e.amount = row.amount.value)
      (isFinal : e.isFinal = row.isFinal) (psp : e.psp = a.psp) (currency : e.currency = a.currency)
      (scheme : e.scheme = a.card.scheme) (maskedPan : e.maskedPan = a.card.maskedPan)
      (capturedAt : e.capturedAt = row.createdAt) (reads : row.createdAt.Plain →
        (Json.parseText e.toJson.render).bind CaptureEvent.ofJson = some e) :
      Announces topics authorizations refunds (.ofAuthorization row)
        ⟨topics.capture, e.toJson.render⟩
  | refundCapture (row : RefundCapture) (r : Refund) (e : RefundCaptureEvent)
      (stored : refunds.row? row.refundId = some r) (captureId : e.captureId = row.id)
      (refundId : e.refundId = r.id) (amount : e.amount = row.amount.value)
      (isFinal : e.isFinal = row.isFinal) (psp : e.psp = r.psp) (currency : e.currency = r.currency)
      (scheme : e.scheme = r.card.scheme) (maskedPan : e.maskedPan = r.card.maskedPan)
      (capturedAt : e.capturedAt = row.createdAt) (reads : row.createdAt.Plain →
        (Json.parseText e.toJson.render).bind RefundCaptureEvent.ofJson = some e) :
      Announces topics authorizations refunds (.ofRefund row)
        ⟨topics.refundCapture, e.toJson.render⟩

def Call.Aside (call : Call) : Prop := call.IsRead ∨ call.WritesReversals

namespace Delivery

inductive Phase where
  /-- Nothing is stored for the request. -/
  | idle
  | stored (c : Capture)
  | withdrawing (c : Capture)
  /-- The capture was taken back. -/
  | withdrawn
  | publishing (row : CaptureRow)
  | published (row : CaptureRow)
  | unpublished (row : CaptureRow) (e : PaymentError)

/-- The row of the request, unless it was taken back. -/
def Phase.row? : Phase → Option CaptureRow
  | .stored c => some (.ofAuthorization c)
  | .withdrawing c => some (.ofAuthorization c)
  | .publishing row => some row
  | .published row => some row
  | .unpublished row _ => some row
  | _ => none

section

variable (q : Request) (topics : Topics) (authorizations : AuthorizationStore)
  (refunds : RefundStore)

/-- The capture is stored as the request brought it, but for its being final. -/
def Wanted : CaptureRow → Prop
  | .ofAuthorization row => ∃ psp c, q = .capture psp c ∧ row = { c with isFinal := row.isFinal }
  | .ofRefund row => ∃ psp c, q = .captureRefund psp c ∧ row = { c with isFinal := row.isFinal }

inductive Asks : Phase → (call : Call) → Except PaymentError call.Value → Phase → Prop
  | aside (call : Call) (answer : Except PaymentError call.Value) (aside : call.Aside) :
      Asks .idle call answer .idle
  | store (c : Capture) (seen : CaptureSummary) (wanted : Wanted q (.ofAuthorization c)) :
      Asks .idle (.createCapture c seen) (.ok ()) (.stored c)
  | refused (c : Capture) (seen : CaptureSummary) (e : PaymentError) :
      Asks .idle (.createCapture c seen) (.error e) .idle
  | keep (c : Capture) (id : Uuid) : Asks (.stored c) (.reversalExists id) (.ok false)
      (.publishing (.ofAuthorization c))
  | regret (c : Capture) (id : Uuid) (answer : Except PaymentError Bool) :
      Asks (.stored c) (.reversalExists id) answer (.withdrawing c)
  | withdraw (c : Capture) (answer : Except PaymentError Unit) :
      Asks (.withdrawing c) (.updateCapture { c with status := .failed }) answer .withdrawn
  | storeRefund (c : RefundCapture) (seen : CaptureSummary) (wanted : Wanted q (.ofRefund c)) :
      Asks .idle (.createRefundCapture c seen) (.ok ()) (.publishing (.ofRefund c))
  | refusedRefund (c : RefundCapture) (seen : CaptureSummary) (e : PaymentError) :
      Asks .idle (.createRefundCapture c seen) (.error e) .idle
  | publish (row : CaptureRow) (event : Publication)
      (announces : Announces topics authorizations refunds row event) :
      Asks (.publishing row) (.publish event.topic event.payload) (.ok ()) (.published row)
  | unpublished (row : CaptureRow) (topic payload : String) (e : PaymentError) :
      Asks (.publishing row) (.publish topic payload) (.error e) (.unpublished row e)

/-- What a request is answered tells whether its event was published. -/
def Finishes {α : Type} : Phase → Except PaymentError α → Prop
  | .idle, answer => q.Captures → ∃ e, answer = .error e
  | .withdrawn, answer => ∃ e, answer = .error e
  | .published _, answer => ∃ value, answer = .ok value
  | .unpublished _ e, answer => answer = .error (e.within "failed to publish capture event")
  | _, _ => False

/-- What is shown is stored, but for the data of the scheme. -/
def Expects : (call : Call) → call.Value → Prop
  | .authorization _ id, (a : Authorization) =>
      ∃ row, authorizations.row? id = some row ∧ a = { row with schemeData := a.schemeData }
  | .refund _ id, (r : Refund) =>
      ∃ row, refunds.row? id = some row ∧ r = { row with schemeData := r.schemeData }
  | _, _ => True

def protocol (σ α : Type) : Protocol σ α Phase where
  expects := Expects authorizations refunds
  asks := Asks q topics authorizations refunds
  sends before _ _ _ after := before = .idle ∧ after = .idle
  finishes phase _ answer := Finishes q phase answer

end

/-! ## Requests go through the phases -/

section

variable {p : Processor} {q : Request} {authorizations : AuthorizationStore} {refunds : RefundStore}

theorem aside_obeys {σ α : Type} {held : σ} {step : String} {call : Call}
    {next : call.Value → Flow σ α} (aside : call.Aside)
    (rest : ∀ value, Expects authorizations refunds call value →
      (next value).Obeys (protocol q p.topics authorizations refunds σ α) .idle) :
    (Flow.require held step call next).Obeys (protocol q p.topics authorizations refunds σ α)
      .idle := by
  apply Flow.obeys_require
  · intro value expected
    exact ⟨.idle, .aside call _ aside, rest value expected⟩
  · intro e
    exact ⟨.idle, .aside call _ aside, fun _ => ⟨_, rfl⟩⟩

theorem publish_obeys {α : Type} {row : CaptureRow} {value : α} (event : Publication)
    (announces : Announces p.topics authorizations refunds row event) :
    (Flow.require () "failed to publish capture event" (.publish event.topic event.payload)
      fun _ => .finish () (.ok value)).Obeys (protocol q p.topics authorizations refunds Unit α)
      (.publishing row) := by
  apply Flow.obeys_require
  · intro _ _
    exact ⟨.published row, .publish row event announces, ⟨value, rfl⟩⟩
  · intro e
    exact ⟨.unpublished row e, .unpublished row _ _ e, rfl⟩

section

variable {a row : Authorization} {c : Capture}

theorem withdrawCapture_obeys {reason : PaymentError} :
    (Processor.withdrawCapture c reason).Obeys
      (protocol q p.topics authorizations refunds Unit Capture) (.withdrawing c) := by
  apply Flow.obeys_require
  · intro _ _
    exact ⟨.withdrawn, .withdraw c _, ⟨_, rfl⟩⟩
  · intro e
    exact ⟨.withdrawn, .withdraw c _, ⟨_, rfl⟩⟩

theorem recheckCapture_obeys (stored : authorizations.row? c.authorizationId = some row)
    (shown : a = { row with schemeData := a.schemeData }) :
    (p.recheckCapture a c).Obeys (protocol q p.topics authorizations refunds Unit Capture)
      (.stored c) := by
  constructor
  · intro reversed _
    cases (reversed : Bool) with
    | false =>
        refine ⟨.publishing (.ofAuthorization c), .keep c _, ?_⟩
        refine publish_obeys ⟨_, _⟩
          (.capture c row (.ofCapture a c) stored rfl ?_ rfl rfl ?_ ?_ ?_ ?_ rfl
            fun dated => (CaptureEvent.gives dated).text)
        all_goals rw [shown]; rfl
    | true => exact ⟨.withdrawing c, .regret c _ _, withdrawCapture_obeys⟩
  · intro e
    exact ⟨.withdrawing c, .regret c _ _, withdrawCapture_obeys⟩

theorem attemptCapture_obeys {psp : String} {again : PaymentError → Flow Unit Capture}
    (own : q = .capture psp c) (stored : authorizations.row? c.authorizationId = some row)
    (shown : a = { row with schemeData := a.schemeData })
    (retries : ∀ e, (again e).Obeys
      (protocol q p.topics authorizations refunds Unit Capture) .idle) :
    (p.attemptCapture a c again).Obeys (protocol q p.topics authorizations refunds Unit Capture)
      .idle := by
  refine aside_obeys (Or.inl trivial) fun summary _ => ?_
  split
  · exact fun _ => ⟨_, rfl⟩
  · split
    · exact fun _ => ⟨_, rfl⟩
    · next isFinal _ =>
        refine aside_obeys (Or.inl trivial) fun (reversed : Bool) _ => ?_
        cases reversed with
        | true => exact fun _ => ⟨_, rfl⟩
        | false =>
            constructor
            · intro _ _
              refine ⟨.stored { c with isFinal := isFinal }, .store _ _ ⟨psp, c, own, rfl⟩, ?_⟩
              exact recheckCapture_obeys (c := { c with isFinal := isFinal }) stored shown
            · intro e
              refine ⟨.idle, .refused _ _ e, ?_⟩
              dsimp only
              split
              · exact retries e
              · exact fun _ => ⟨_, rfl⟩

theorem attemptsCapture_obeys {psp : String} (own : q = .capture psp c)
    (stored : authorizations.row? c.authorizationId = some row)
    (shown : a = { row with schemeData := a.schemeData }) (retries : Nat) :
    (p.attemptsCapture a c retries).Obeys
      (protocol q p.topics authorizations refunds Unit Capture) .idle := by
  induction retries with
  | zero => exact attemptCapture_obeys own stored shown fun _ _ => ⟨_, rfl⟩
  | succ retries ih => exact attemptCapture_obeys own stored shown fun _ => ih

theorem capture_obeys {psp : String} (own : q = .capture psp c) :
    (p.capture psp c).Obeys (protocol q p.topics authorizations refunds Unit Capture) .idle := by
  refine aside_obeys (Or.inl trivial) fun a expected => ?_
  obtain ⟨row, stored, shown⟩ := expected
  split
  · exact fun _ => ⟨_, rfl⟩
  · exact attemptsCapture_obeys own stored shown _

end

section

variable {r row : Refund} {c : RefundCapture}

theorem attemptRefundCapture_obeys {psp : String} {again : PaymentError → Flow Unit RefundCapture}
    (own : q = .captureRefund psp c) (stored : refunds.row? c.refundId = some row)
    (shown : r = { row with schemeData := r.schemeData })
    (retries : ∀ e, (again e).Obeys
      (protocol q p.topics authorizations refunds Unit RefundCapture) .idle) :
    (p.attemptRefundCapture r c again).Obeys
      (protocol q p.topics authorizations refunds Unit RefundCapture) .idle := by
  refine aside_obeys (Or.inl trivial) fun summary _ => ?_
  split
  · exact fun _ => ⟨_, rfl⟩
  · split
    · exact fun _ => ⟨_, rfl⟩
    · next isFinal _ =>
        constructor
        · intro _ _
          refine ⟨.publishing (.ofRefund { c with isFinal := isFinal }),
            .storeRefund _ _ ⟨psp, c, own, rfl⟩, ?_⟩
          refine publish_obeys ⟨_, _⟩ (.refundCapture _ row
            (.ofCapture r { c with isFinal := isFinal }) stored rfl ?_ rfl rfl ?_ ?_ ?_ ?_ rfl
            fun dated => (RefundCaptureEvent.gives dated).text)
          all_goals rw [shown]; rfl
        · intro e
          refine ⟨.idle, .refusedRefund _ _ e, ?_⟩
          dsimp only
          split
          · exact retries e
          · exact fun _ => ⟨_, rfl⟩

theorem attemptsRefundCapture_obeys {psp : String} (own : q = .captureRefund psp c)
    (stored : refunds.row? c.refundId = some row)
    (shown : r = { row with schemeData := r.schemeData }) (retries : Nat) :
    (p.attemptsRefundCapture r c retries).Obeys
      (protocol q p.topics authorizations refunds Unit RefundCapture) .idle := by
  induction retries with
  | zero => exact attemptRefundCapture_obeys own stored shown fun _ _ => ⟨_, rfl⟩
  | succ retries ih => exact attemptRefundCapture_obeys own stored shown fun _ => ih

theorem captureRefund_obeys {psp : String} (own : q = .captureRefund psp c) :
    (p.captureRefund psp c).Obeys (protocol q p.topics authorizations refunds Unit RefundCapture)
      .idle := by
  refine aside_obeys (Or.inl trivial) fun r expected => ?_
  obtain ⟨row, stored, shown⟩ := expected
  split
  · exact fun _ => ⟨_, rfl⟩
  · exact attemptsRefundCapture_obeys own stored shown _

end

/-- A request that does not capture stays idle. -/
theorem obeys_of_aside {σ α : Type} {flow : Flow σ α} {M : Message → Prop} (other : ¬ q.Captures)
    (only : flow.Only Call.Aside M) :
    flow.Obeys (protocol q p.topics authorizations refunds σ α) .idle := by
  induction flow with
  | finish held answer => exact fun captures => absurd captures other
  | ask held call next ih =>
      exact ⟨fun value _ => ⟨.idle, .aside call _ only.1, ih _ (only.2 _)⟩,
        fun e => ⟨.idle, .aside call _ only.1, ih _ (only.2 _)⟩⟩
  | send held scheme message next ih =>
      exact fun attached outcome => ⟨.idle, ⟨rfl, rfl⟩, ih _ _ (only.2 _ _)⟩

theorem flow_obeys (p : Processor) (q : Request) (settles : q.Settles) :
    (q.flow p).Obeys (protocol q p.topics authorizations refunds q.Held q.Answer) .idle := by
  cases q with
  | capture psp c => exact capture_obeys rfl
  | captureRefund psp c => exact captureRefund_obeys rfl
  | reverse psp r =>
      refine obeys_of_aside (M := fun _ => True) id
        ((reverse_only p psp r).mono (fun call asks => ?_) fun _ _ => trivial)
      rcases asks with reads | writes
      · exact Or.inl reads.isRead
      · cases call <;> first | exact Or.inr trivial | exact writes.elim
  | authorize a => exact settles.elim
  | refund r => exact settles.elim

end
end Delivery
end CardPayments
