import CardPayments.Proofs.Sequence.Basic
import CardPayments.Proofs.Service.Basic
import CardPayments.Proofs.Settlement.Limit
import CardPayments.Proofs.Undisturbed.Capture

/-! # Captures that run alone

While a request runs alone only its card network and the publisher can fail: the network answers a
message in any way, and the publisher refuses an event, with or without passing it on.  A capture
then does all or nothing: it is refused and leaves everything as it was, or it is stored and
announced.  Only where the publisher refuses the event is the capture stored and answered with an
error. -/
set_option autoImplicit false

namespace CardPayments

/-- Card networks that answer as they like, and a publisher that may refuse an event: it says why,
and whether the event went out all the same. -/
structure Ports (τ : Type) extends Networks τ where
  refuses : Publication → Option (PaymentError × Bool)

/-- What a request came to when it ran alone, with the messages that it sent. -/
structure Completion (τ α : Type) where
  answer : Except PaymentError α
  world : World τ
  sent : List Message

variable {τ : Type}

namespace Ports

/-- The answer to a call: of the stores, which do not fail, or of the publisher. -/
def reply (ports : Ports τ) (s : Stores) : (call : Call) → Except PaymentError call.Value × Stores
  | .publish topic payload =>
      match ports.refuses ⟨topic, payload⟩ with
      | none => s.answer (.publish topic payload)
      | some (e, accepted) => (.error e, s.touched (.publish topic payload) accepted)
  | call => s.answer call

end Ports

/-- Runs a request to its end while no other one runs. -/
def Flow.complete {σ α : Type} (ports : Ports τ) (w : World τ) : Flow σ α → Completion τ α
  | .finish _ answer => ⟨answer, w, []⟩
  | .ask _ call next =>
      let replied := ports.reply w.stores call
      (next replied.1).complete ports { w with stores := replied.2 }
  | .send _ scheme m next =>
      let exchanged := ports.exchange w.line scheme m
      let later := (next exchanged.1 exchanged.2.1).complete ports { w with line := exchanged.2.2 }
      { later with sent := m :: later.sent }

/-- Nothing happened: all rows and events and the line to the networks are as before, and no message
was sent. -/
structure Completion.Untouched {α : Type} (w : World τ) (c : Completion τ α) : Prop where
  world : c.world = w
  sent : c.sent = []

namespace Flow

variable {σ α : Type} {ports : Ports τ} {w : World τ} {held : σ} {step : String} {call : Call}
  {next : call.Value → Flow σ α} {s : Stores}

theorem complete_require_ok {value : call.Value}
    (replied : ports.reply w.stores call = (.ok value, s)) :
    (require held step call next).complete ports w =
      (next value).complete ports { w with stores := s } := by
  simp only [require, complete, replied]

theorem complete_require_error {e : PaymentError}
    (replied : ports.reply w.stores call = (.error e, s)) :
    (require held step call next).complete ports w =
      ⟨.error (e.within step), { w with stores := s }, []⟩ := by
  simp only [require, complete, replied, fail]

end Flow

/-! ## Captures of authorizations -/

/-- What came of the event of a stored capture: it was published, or the publisher refused it. -/
def Ports.announced {α : Type} (ports : Ports τ) (w : World τ) (stored : α) (event : Publication) :
    Completion τ α :=
  match ports.refuses event with
  | none => ⟨.ok stored,
      { w with stores := { w.stores with published := w.stores.published ++ [event] } }, []⟩
  | some (e, accepted) => ⟨.error (e.within "failed to publish capture event"),
      { w with stores := w.stores.touched (.publish event.topic event.payload) accepted }, []⟩

namespace Processor

variable (p : Processor) (ports : Ports τ) (w : World τ)

def event (a : Authorization) (c : Capture) : Publication :=
  ⟨p.topics.capture, (CaptureEvent.ofCapture a c).toJson.render⟩

def refundEvent (r : Refund) (c : RefundCapture) : Publication :=
  ⟨p.topics.refundCapture, (RefundCaptureEvent.ofCapture r c).toJson.render⟩

section

variable (a : Authorization) (c : Capture)

theorem complete_publishCapture :
    (p.publishCapture a c).complete ports w = ports.announced w c (p.event a c) := by
  rw [Ports.announced, event]
  cases refused : ports.refuses ⟨p.topics.capture, (CaptureEvent.ofCapture a c).toJson.render⟩ with
  | none =>
      simp only [publishCapture, Flow.require, Flow.complete, Ports.reply, refused]
      rfl
  | some refusal =>
      simp only [publishCapture, Flow.require, Flow.complete, Ports.reply, refused]
      rfl

theorem complete_insertCapture (seen : CaptureSummary) (again : PaymentError → Flow Unit Capture)
    (account : c.authorizationId = a.id) (summed : w.stores.captures.summary a.id = .ok seen)
    (free : w.stores.reversals.pending a.id = false) :
    (p.insertCapture a c seen again).complete ports w =
      ports.announced { w with stores := w.stores.withCapture c } c (p.event a c) := by
  have created : w.stores.captures.create c seen =
      .ok { w.stores.captures with captures := w.stores.captures.captures ++ [c] } := by
    rw [CaptureStore.create, account, summed]
    simp
  simp only [insertCapture, Flow.complete, Ports.reply, Stores.answer, created, Stores.changed,
    recheckCapture, free]
  exact p.complete_publishCapture ports { w with stores := w.stores.withCapture c } a c

theorem complete_attemptCapture (again : PaymentError → Flow Unit Capture)
    (account : c.authorizationId = a.id) :
    (p.attemptCapture a c again).complete ports w =
      match w.stores.admits a c with
      | .error e => ⟨.error e, w, []⟩
      | .ok stored =>
          ports.announced { w with stores := w.stores.withCapture stored } stored
            (p.event a stored) := by
  rw [attemptCapture_eq]
  cases summed : w.stores.captures.summary a.id with
  | error e =>
      simp only [Flow.require, Flow.complete, Ports.reply, Stores.answer, summed, Flow.fail,
        Stores.admits]
  | ok summary =>
      rw [Stores.admits_within _ a c summary summed]
      simp only [Flow.require, Flow.complete, Ports.reply, Stores.answer, summed]
      cases summary.verdict a.amount c.amount c.isFinal with
      | error e => simp only [Flow.fail, Flow.complete]
      | ok isFinal =>
          simp only [Flow.complete, Ports.reply, Stores.answer]
          cases free : w.stores.reversals.pending a.id with
          | true => simp only [if_true, Flow.complete]
          | false =>
              simp only [Bool.false_eq_true, if_false]
              exact p.complete_insertCapture ports w a { c with isFinal := isFinal } summary again
                account summed free

theorem complete_attemptsCapture (account : c.authorizationId = a.id) (retries : ℕ) :
    (p.attemptsCapture a c retries).complete ports w =
      match w.stores.admits a c with
      | .error e => ⟨.error e, w, []⟩
      | .ok stored =>
          ports.announced { w with stores := w.stores.withCapture stored } stored
            (p.event a stored) := by
  cases retries with
  | zero => exact p.complete_attemptCapture ports w a c _ account
  | succ retries => exact p.complete_attemptCapture ports w a c _ account

end

end Processor

/-- An amount was added to a summary: the new total is the old one and the amount, and it is final
if the caller said so or if it is the limit. -/
def CaptureSummary.Adds (limit amount : Amount) (flagged isFinal : Bool)
    (before after : Except PaymentError CaptureSummary) : Prop :=
  ∃ seen total, before = .ok seen ∧ seen.total.plus amount.value = .ok total ∧
    isFinal = (flagged || total.same limit.value) ∧ after = .ok ⟨total, isFinal⟩

theorem CaptureSummary.adds_of_verdict {entries : List CaptureEntry} {e : CaptureEntry}
    {seen : CaptureSummary} {limit : Amount} {flagged : Bool}
    (summed : ofEntries entries = .ok seen)
    (passes : seen.verdict limit e.amount flagged = .ok e.isFinal) (live : e.status = .created) :
    Adds limit e.amount flagged e.isFinal (ofEntries entries) (ofEntries (entries ++ [e])) := by
  obtain ⟨capturable, becomes⟩ := (verdict_ok _ _ _ _ _).mp passes
  obtain ⟨opened, next, counted, sum, _⟩ := checkCapturable_ok seen limit e capturable
  have counts : e.Counts := by
    rw [CaptureEntry.Counts, live]
    rintro ⟨⟩
  have isNext : next = ⟨next.total, e.isFinal⟩ := by
    rw [count, sum, opened, Bool.false_or] at counted
    exact (Except.ok.inj counted).symm
  refine ⟨seen, next.total, summed, sum, ?_, ?_⟩
  · rw [becomesFinal] at becomes
    cases flagged with
    | true => exact (Except.ok.inj becomes).symm
    | false =>
        simp only [Bool.false_eq_true, if_false, sum] at becomes
        rw [Bool.false_or]
        exact (Except.ok.inj becomes).symm
  · rw [ofEntries_concat entries e seen summed, if_pos counts, counted, ← isNext]

def Ports.Refused (ports : Ports τ) (e : PaymentError) : Prop :=
  ∃ event x accepted, ports.refuses event = some (x, accepted) ∧
    e = x.within "failed to publish capture event"

namespace Ports

variable {ports : Ports τ} {w : World τ} {α : Type} {stored : α} {event : Publication}

theorem announced_error {e : PaymentError}
    (failed : (ports.announced w stored event).answer = .error e) : ports.Refused e := by
  rw [announced] at failed
  split at failed
  · cases failed
  · next x accepted refused => exact ⟨event, x, accepted, refused, (Except.error.inj failed).symm⟩

theorem announced_ok {value : α} (answered : (ports.announced w stored event).answer = .ok value) :
    value = stored ∧ ports.announced w stored event = ⟨.ok stored,
      { w with stores := { w.stores with published := w.stores.published ++ [event] } }, []⟩ := by
  cases refused : ports.refuses event with
  | none =>
      simp only [announced, refused] at answered ⊢
      exact ⟨(Except.ok.inj answered).symm, trivial⟩
  | some refusal =>
      simp only [announced, refused] at answered
      cases answered

end Ports

/-- A capture that is answered with success: one row was appended and one event published, and
nothing else was done. -/
structure Captured (p : Processor) (psp : String) (c stored : Capture) (w : World τ)
    (done : Completion τ Capture) : Prop where
  effect : ∃ a, w.stores.authorizations.getFull psp c.authorizationId = .ok a ∧
    stored = { c with isFinal := stored.isFinal } ∧
    done.world = { w with stores := (w.stores.withCapture stored).announce p a stored } ∧
    CaptureSummary.Adds a.amount c.amount c.isFinal stored.isFinal
      (w.stores.captures.summary c.authorizationId)
      (done.world.stores.captures.summary c.authorizationId)
  sent : done.sent = []

theorem Captured.of_admits {p : Processor} {w : World τ} {psp : String} {a : Authorization}
    {c stored : Capture}
    (found : w.stores.authorizations.getFull psp c.authorizationId = .ok a)
    (admitted : w.stores.admits a c = .ok stored) (created : c.status = .created) :
    Captured p psp c stored w
      ⟨.ok stored, { w with stores := (w.stores.withCapture stored).announce p a stored }, []⟩ := by
  obtain ⟨_, _, named, _⟩ := AuthorizationStore.getFull_ok found
  obtain ⟨seen, isFinal, summed, passes, _, rfl⟩ := Stores.admits_ok admitted
  rw [named] at summed
  refine ⟨⟨a, found, rfl, rfl, ?_⟩, rfl⟩
  have adds := CaptureSummary.adds_of_verdict (e := { c with isFinal := isFinal }.entry) summed
    passes created
  simp only [CaptureStore.summary, Stores.ofAuthorization_withCapture, if_true,
    CaptureSummary.ofCaptures, List.map_append, List.map_singleton]
  exact adds

/-- A capture that runs alone does all of its work or nothing, unless the publisher refuses its
event. -/
theorem Processor.complete_capture (p : Processor) (ports : Ports τ) (w : World τ) (psp : String)
    (c : Capture) :
    (∀ e, ((p.capture psp c).complete ports w).answer = .error e →
        ((p.capture psp c).complete ports w).Untouched w ∨ ports.Refused e) ∧
      ∀ stored, ((p.capture psp c).complete ports w).answer = .ok stored → c.status = .created →
        Captured p psp c stored w ((p.capture psp c).complete ports w) := by
  cases found : w.stores.authorizations.getFull psp c.authorizationId with
  | error e =>
      have ran : (p.capture psp c).complete ports w =
          ⟨.error (e.within "failed to get authorization"), w, []⟩ :=
        Flow.complete_require_error (Prod.ext found rfl)
      rw [ran]
      exact ⟨fun _ _ => Or.inl ⟨rfl, rfl⟩, nofun⟩
  | ok a =>
      have ran : (p.capture psp c).complete ports w =
          (if a.status = .declined ∨ a.status = .riskDeclined then
            .fail () "invalid capture" .authorizationDeclined
          else p.attemptsCapture a c captureRetries : Flow Unit Capture).complete ports w :=
        Flow.complete_require_ok (Prod.ext found rfl)
      obtain ⟨_, _, named, _⟩ := AuthorizationStore.getFull_ok found
      rw [ran]
      by_cases declined : a.status = .declined ∨ a.status = .riskDeclined
      · rw [if_pos declined]
        exact ⟨fun _ _ => Or.inl ⟨rfl, rfl⟩, nofun⟩
      · rw [if_neg declined, p.complete_attemptsCapture ports w a c named.symm]
        cases admitted : w.stores.admits a c with
        | error e => exact ⟨fun _ _ => Or.inl ⟨rfl, rfl⟩, nofun⟩
        | ok stored =>
            refine ⟨fun e failed => Or.inr (Ports.announced_error failed), ?_⟩
            intro value answered created
            obtain ⟨rfl, after⟩ := Ports.announced_ok answered
            dsimp only at after ⊢
            rw [after]
            exact .of_admits found admitted created

/-! ## Captures of refunds -/

namespace Processor

variable (p : Processor) (ports : Ports τ) (w : World τ) (r : Refund) (c : RefundCapture)

theorem complete_insertRefundCapture (seen : CaptureSummary)
    (again : PaymentError → Flow Unit RefundCapture) (account : c.refundId = r.id)
    (summed : w.stores.captures.refundSummary r.id = .ok seen) :
    (p.insertRefundCapture r c seen again).complete ports w =
      ports.announced { w with stores := w.stores.withRefundCapture c } c (p.refundEvent r c) := by
  have created : w.stores.captures.createForRefund c seen =
      .ok { w.stores.captures with
        refundCaptures := w.stores.captures.refundCaptures ++ [c] } := by
    rw [CaptureStore.createForRefund, account, summed]
    simp
  rw [Ports.announced, refundEvent]
  simp only [insertRefundCapture, publishRefundCapture, Flow.require, Flow.complete, Ports.reply,
    Stores.answer, created, Stores.changed]
  cases ports.refuses
    ⟨p.topics.refundCapture, (RefundCaptureEvent.ofCapture r c).toJson.render⟩ with
  | none => rfl
  | some refusal => rfl

theorem complete_attemptRefundCapture (again : PaymentError → Flow Unit RefundCapture)
    (account : c.refundId = r.id) :
    (p.attemptRefundCapture r c again).complete ports w =
      match w.stores.admitsRefund r c with
      | .error e => ⟨.error e, w, []⟩
      | .ok stored =>
          ports.announced { w with stores := w.stores.withRefundCapture stored } stored
            (p.refundEvent r stored) := by
  rw [attemptRefundCapture_eq]
  cases summed : w.stores.captures.refundSummary r.id with
  | error e =>
      simp only [Flow.require, Flow.complete, Ports.reply, Stores.answer, summed, Flow.fail,
        Stores.admitsRefund]
  | ok summary =>
      simp only [Flow.require, Flow.complete, Ports.reply, Stores.answer, summed,
        Stores.admitsRefund]
      cases summary.verdict r.amount c.amount c.isFinal with
      | error e => simp only [Flow.fail, Flow.complete]
      | ok isFinal =>
          exact p.complete_insertRefundCapture ports w r { c with isFinal := isFinal } summary again
            account summed

theorem complete_attemptsRefundCapture (account : c.refundId = r.id) (retries : ℕ) :
    (p.attemptsRefundCapture r c retries).complete ports w =
      match w.stores.admitsRefund r c with
      | .error e => ⟨.error e, w, []⟩
      | .ok stored =>
          ports.announced { w with stores := w.stores.withRefundCapture stored } stored
            (p.refundEvent r stored) := by
  cases retries with
  | zero => exact p.complete_attemptRefundCapture ports w r c _ account
  | succ retries => exact p.complete_attemptRefundCapture ports w r c _ account

end Processor

structure RefundCaptured (p : Processor) (psp : String) (c stored : RefundCapture) (w : World τ)
    (done : Completion τ RefundCapture) : Prop where
  effect : ∃ r, w.stores.refunds.getFull psp c.refundId = .ok r ∧
    stored = { c with isFinal := stored.isFinal } ∧
    done.world =
      { w with stores := (w.stores.withRefundCapture stored).announceRefund p r stored } ∧
    CaptureSummary.Adds r.amount c.amount c.isFinal stored.isFinal
      (w.stores.captures.refundSummary c.refundId)
      (done.world.stores.captures.refundSummary c.refundId)
  sent : done.sent = []

theorem RefundCaptured.of_admits {p : Processor} {w : World τ} {psp : String} {r : Refund}
    {c stored : RefundCapture} (found : w.stores.refunds.getFull psp c.refundId = .ok r)
    (admitted : w.stores.admitsRefund r c = .ok stored) (created : c.status = .created) :
    RefundCaptured p psp c stored w ⟨.ok stored,
      { w with stores := (w.stores.withRefundCapture stored).announceRefund p r stored }, []⟩ := by
  have named := RefundStore.getFull_ok found
  rw [Stores.admitsRefund, named] at admitted
  cases summed : w.stores.captures.refundSummary c.refundId with
  | error e => simp [summed] at admitted
  | ok seen =>
      simp only [summed] at admitted
      cases passes : seen.verdict r.amount c.amount c.isFinal with
      | error e => simp [passes] at admitted
      | ok isFinal =>
          simp only [passes, Except.ok.injEq] at admitted
          subst admitted
          refine ⟨⟨r, found, rfl, rfl, ?_⟩, rfl⟩
          have adds := CaptureSummary.adds_of_verdict
            (e := { c with isFinal := isFinal }.entry) summed passes created
          have rows : ((w.stores.withRefundCapture { c with isFinal := isFinal }).announceRefund p r
              { c with isFinal := isFinal }).captures.ofRefund c.refundId =
                w.stores.captures.ofRefund c.refundId ++ [{ c with isFinal := isFinal }] := by
            simp [Stores.withRefundCapture, Stores.announceRefund, CaptureStore.ofRefund]
          simp only [CaptureStore.refundSummary, rows, CaptureSummary.ofRefundCaptures,
            List.map_append, List.map_singleton]
          exact adds

theorem Processor.complete_captureRefund (p : Processor) (ports : Ports τ) (w : World τ)
    (psp : String) (c : RefundCapture) :
    (∀ e, ((p.captureRefund psp c).complete ports w).answer = .error e →
        ((p.captureRefund psp c).complete ports w).Untouched w ∨ ports.Refused e) ∧
      ∀ stored, ((p.captureRefund psp c).complete ports w).answer = .ok stored →
        c.status = .created →
          RefundCaptured p psp c stored w ((p.captureRefund psp c).complete ports w) := by
  cases found : w.stores.refunds.getFull psp c.refundId with
  | error e =>
      have ran : (p.captureRefund psp c).complete ports w =
          ⟨.error (e.within "failed to get refund"), w, []⟩ :=
        Flow.complete_require_error (Prod.ext found rfl)
      rw [ran]
      exact ⟨fun _ _ => Or.inl ⟨rfl, rfl⟩, nofun⟩
  | ok r =>
      have ran : (p.captureRefund psp c).complete ports w =
          (if r.status = .declined then .fail () "invalid refund capture" .refundDeclined
          else p.attemptsRefundCapture r c captureRetries :
            Flow Unit RefundCapture).complete ports w :=
        Flow.complete_require_ok (Prod.ext found rfl)
      have named := RefundStore.getFull_ok found
      rw [ran]
      by_cases declined : r.status = .declined
      · rw [if_pos declined]
        exact ⟨fun _ _ => Or.inl ⟨rfl, rfl⟩, nofun⟩
      · rw [if_neg declined, p.complete_attemptsRefundCapture ports w r c named.symm]
        cases admitted : w.stores.admitsRefund r c with
        | error e => exact ⟨fun _ _ => Or.inl ⟨rfl, rfl⟩, nofun⟩
        | ok stored =>
            refine ⟨fun e failed => Or.inr (Ports.announced_error failed), ?_⟩
            intro value answered created
            obtain ⟨rfl, after⟩ := Ports.announced_ok answered
            dsimp only at after ⊢
            rw [after]
            exact .of_admits found admitted created

end CardPayments
