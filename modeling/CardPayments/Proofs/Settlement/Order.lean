import CardPayments.Proofs.Traffic.Linearization
import CardPayments.Proofs.Undisturbed.Capture

/-! # Captures in one order

Captures that are made at the same time, and that no reversal disturbs, have the answers and leave
the rows of the same captures made one after another.  A capture that is refused is decided when it
reads the summary, one that is accepted when it is stored: the summary then counts the same number
as the one that it was checked against, so that it would have been decided in the same way. -/
set_option autoImplicit false

namespace CardPayments

/-- What captures are made from. -/
inductive Account where
  | authorization (id : Uuid)
  | refund (id : Uuid)

def Capture.account (c : Capture) : Account := .authorization c.authorizationId

def RefundCapture.account (c : RefundCapture) : Account := .refund c.refundId

def Request.CapturesFrom : Account → Request → Prop
  | .authorization id, .capture _ c => c.authorizationId = id
  | .refund id, .captureRefund _ c => c.refundId = id
  | _, _ => False

namespace Stores

def summaryOf (s : Stores) : Account → Except PaymentError CaptureSummary
  | .authorization id => s.captures.summary id
  | .refund id => s.captures.refundSummary id

/-- No reversal of the account is under way or done; refunds are never reversed. -/
def Unreversed (s : Stores) : Account → Prop
  | .authorization id => s.reversals.pending id = false
  | .refund _ => True

end Stores

structure Account.Steady (account : Account) (first s : Stores) : Prop where
  authorizations : s.authorizations = first.authorizations
  refunds : s.refunds = first.refunds
  summed : ∃ summary, s.summaryOf account = .ok summary
  unreversed : s.Unreversed account

theorem Account.Steady.published {account : Account} {first s : Stores}
    (steady : account.Steady first s) (published : List Publication) :
    account.Steady first { s with published := published } := by
  obtain ⟨authorizations, refunds, summed, unreversed⟩ := steady
  cases account <;> exact ⟨authorizations, refunds, summed, unreversed⟩

namespace CaptureSummary

/-- What was allowed on a summary can be counted on it. -/
theorem count_of_verdict {s : CaptureSummary} {limit : Amount} {e : CaptureEntry}
    {flagged isFinal : Bool} (passes : s.verdict limit e.amount flagged = .ok isFinal) :
    ∃ u, s.count e = .ok u := by
  obtain ⟨_, u, counted, _⟩ :=
    s.checkCapturable_ok limit e ((verdict_ok _ _ _ _ _).mp passes).1
  exact ⟨u, counted⟩

section

variable {s : CaptureSummary} {limit requested : Amount} {flagged : Bool} {e : PaymentError}

theorem checkCapturable_error (fails : s.checkCapturable limit requested = .error e) :
    e.root ≠ .duplicateValue := by
  rw [checkCapturable] at fails
  split at fails
  · cases fails
    rintro ⟨⟩
  · split at fails
    · next overflows =>
        cases fails
        rw [Decimal.plus_error_eq overflows]
        rintro ⟨⟩
    · split at fails
      · cases fails
        rintro ⟨⟩
      · cases fails

theorem becomesFinal_error (fails : s.becomesFinal limit requested flagged = .error e) :
    e.root ≠ .duplicateValue := by
  rw [becomesFinal] at fails
  split at fails
  · cases fails
  · split at fails
    · next overflows =>
        cases fails
        rw [Decimal.plus_error_eq overflows]
        rintro ⟨⟩
    · cases fails

theorem verdict_error (fails : s.verdict limit requested flagged = .error e) :
    e.root ≠ .duplicateValue := by
  rw [verdict] at fails
  split at fails
  · next checked =>
      cases fails
      exact checkCapturable_error checked
  · exact becomesFinal_error fails

end

theorem ofEntries_extended {entries : List CaptureEntry} {e : CaptureEntry}
    {current : CaptureSummary} (summed : ofEntries entries = .ok current)
    (counted : ∃ u, current.count e = .ok u) : ∃ u, ofEntries (entries ++ [e]) = .ok u := by
  rw [ofEntries_concat entries e current summed]
  split
  · exact counted
  · exact ⟨current, rfl⟩

end CaptureSummary

namespace CaptureStore

variable {store : CaptureStore} {current : CaptureSummary} {limit : Amount} {flagged isFinal : Bool}

/-- The rows of an authorization still have a sum when a capture joins that was allowed on it. -/
theorem summary_joined {c : Capture} (summed : store.summary c.authorizationId = .ok current)
    (passes : current.verdict limit c.amount flagged = .ok isFinal) :
    ∃ u, ({ store with captures := store.captures ++ [c] } : CaptureStore).summary
      c.authorizationId = .ok u := by
  have rows : ({ store with captures := store.captures ++ [c] } : CaptureStore).ofAuthorization
      c.authorizationId = store.ofAuthorization c.authorizationId ++ [c] := by
    simp [ofAuthorization]
  rw [summary, rows, CaptureSummary.ofCaptures, List.map_append]
  exact CaptureSummary.ofEntries_extended summed (CaptureSummary.count_of_verdict passes)

theorem refundSummary_joined {c : RefundCapture}
    (summed : store.refundSummary c.refundId = .ok current)
    (passes : current.verdict limit c.amount flagged = .ok isFinal) :
    ∃ u, ({ store with refundCaptures := store.refundCaptures ++ [c] } : CaptureStore).refundSummary
      c.refundId = .ok u := by
  have rows : ({ store with refundCaptures := store.refundCaptures ++ [c] } : CaptureStore).ofRefund
      c.refundId = store.ofRefund c.refundId ++ [c] := by
    simp [ofRefund]
  rw [refundSummary, rows, CaptureSummary.ofRefundCaptures, List.map_append]
  exact CaptureSummary.ofEntries_extended summed (CaptureSummary.count_of_verdict passes)

end CaptureStore

/-! ## Captures of authorizations -/

namespace Stores

theorem capture_blind (p : Processor) (psp : String) (c : Capture) :
    Effect.Blind fun s => s.capture p psp c := by
  intro s t same
  rw [eq_of_records same]
  simp only [capture]
  cases s.authorizations.getFull psp c.authorizationId with
  | error e => exact ⟨rfl, rfl⟩
  | ok a =>
      have sameAdmission : ({ s with published := t.published } : Stores).admits a c =
          s.admits a c := rfl
      by_cases declined : a.status = .declined ∨ a.status = .riskDeclined
      · simp only [if_pos declined]
        exact ⟨trivial, rfl⟩
      · simp only [if_neg declined, sameAdmission]
        cases s.admits a c with
        | error e => exact ⟨trivial, rfl⟩
        | ok joined => exact ⟨trivial, rfl⟩

end Stores

namespace Processor

variable {first : Stores} {psp : String} {a : Authorization} {c : Capture} (p : Processor)

/-- A capture that is stored has its answer. -/
theorem recheckCapture_settles (joined : Capture) (named : a.id = c.authorizationId) :
    (p.recheckCapture a joined).Settles
      (c.account.Steady first) (.ok joined) := by
  intro s steady
  have free : s.reversals.pending a.id = false := named ▸ steady.unreversed
  refine ⟨steady, rfl, ?_⟩
  simp only [Stores.answer, free]
  intro s steady
  exact ⟨steady.published _, rfl, rfl⟩

/-- What a capture does alone, once its authorization is found. -/
theorem capture_alone {s : Stores}
    (found : first.authorizations.getFull psp c.authorizationId = .ok a)
    (accepted : ¬ (a.status = .declined ∨ a.status = .riskDeclined))
    (steady : c.account.Steady first s) :
    s.capture p psp c = (s.admits a c, s.settle p a (s.admits a c)) := by
  simp only [Stores.capture, steady.authorizations, found, if_neg accepted]

theorem insertCapture_competes {seen : CaptureSummary} {isFinal : Bool}
    {again : PaymentError → Flow Unit Capture}
    (found : first.authorizations.getFull psp c.authorizationId = .ok a)
    (accepted : ¬ (a.status = .declined ∨ a.status = .riskDeclined))
    (passes : seen.verdict a.amount c.amount c.isFinal = .ok isFinal)
    (loses : ∀ e, e.root = .duplicateValue → (again e).Competes
      (c.account.Steady first) (fun s => s.capture p psp c)) :
    (p.insertCapture a { c with isFinal := isFinal } seen again).Competes
      (c.account.Steady first) (fun s => s.capture p psp c) := by
  intro s steady
  obtain ⟨_, _, named, _⟩ := AuthorizationStore.getFull_ok found
  obtain ⟨current, summed⟩ := steady.summed
  have here : s.captures.summary a.id = .ok current := named ▸ summed
  have free : s.reversals.pending a.id = false := named ▸ steady.unreversed
  by_cases same : current.same seen = true
  · have nonneg := CaptureSummary.ofEntries_nonneg _ current summed
    have passesNow :=
      (current.verdict_same seen a.amount c.amount c.isFinal nonneg same).trans passes
    have created : s.captures.create { c with isFinal := isFinal } seen = .ok
        { s.captures with captures := s.captures.captures ++ [{ c with isFinal := isFinal }] } := by
      have summary : s.captures.summary c.authorizationId = .ok current := summed
      simp only [CaptureStore.create, summary, same, if_true]
    have admitted : s.admits a c = .ok { c with isFinal := isFinal } := by
      rw [Stores.admits_within s a c current here]
      simp only [passesNow, free, Bool.false_eq_true, if_false]
    have alone := p.capture_alone found accepted steady
    rw [admitted] at alone
    simp only [Stores.answer, created, Stores.changed, alone]
    refine ⟨⟨steady.authorizations, steady.refunds, ?_, steady.unreversed⟩,
      Or.inr ⟨rfl, not_lostRace_ok _, p.recheckCapture_settles _ named⟩⟩
    exact CaptureStore.summary_joined (c := { c with isFinal := isFinal }) summed passesNow
  · have refused : s.captures.create { c with isFinal := isFinal } seen =
        .error .duplicateValue := by
      have summary : s.captures.summary c.authorizationId = .ok current := summed
      simp only [CaptureStore.create, summary, same, Bool.false_eq_true, if_false]
    simp only [Stores.answer, refused, Stores.changed]
    exact ⟨steady, Or.inl ⟨trivial, loses .duplicateValue rfl⟩⟩

theorem attemptCapture_competes {again : PaymentError → Flow Unit Capture}
    (found : first.authorizations.getFull psp c.authorizationId = .ok a)
    (accepted : ¬ (a.status = .declined ∨ a.status = .riskDeclined))
    (loses : ∀ e, e.root = .duplicateValue → (again e).Competes
      (c.account.Steady first) (fun s => s.capture p psp c)) :
    (p.attemptCapture a c again).Competes (c.account.Steady first)
      (fun s => s.capture p psp c) := by
  rw [attemptCapture_eq]
  intro s steady
  obtain ⟨_, _, named, _⟩ := AuthorizationStore.getFull_ok found
  obtain ⟨current, summed⟩ := steady.summed
  have here : s.captures.summary a.id = .ok current := named ▸ summed
  have alone := p.capture_alone found accepted steady
  refine ⟨steady, ?_⟩
  simp only [Stores.answer, here]
  cases passes : current.verdict a.amount c.amount c.isFinal with
  | error e =>
      -- a capture that is refused is decided when it reads the summary
      have admitted : s.admits a c = .error (e.within "invalid capture") := by
        rw [Stores.admits_within s a c current here, passes]
      rw [admitted] at alone
      rw [alone]
      have unrelated : (e.within "invalid capture").root ≠ .duplicateValue := by
        rw [PaymentError.root_within]
        exact CaptureSummary.verdict_error passes
      exact Or.inr ⟨rfl, not_lostRace_error unrelated, rfl⟩
  | ok isFinal =>
      refine Or.inl ⟨trivial, ?_⟩
      intro s steady
      have free : s.reversals.pending a.id = false := named ▸ steady.unreversed
      refine ⟨steady, ?_⟩
      simp only [Stores.answer, free]
      refine Or.inl ⟨trivial, ?_⟩
      exact p.insertCapture_competes found accepted passes loses

theorem attemptsCapture_competes (retries : ℕ)
    (found : first.authorizations.getFull psp c.authorizationId = .ok a)
    (accepted : ¬ (a.status = .declined ∨ a.status = .riskDeclined)) :
    (p.attemptsCapture a c retries).Competes
      (c.account.Steady first) (fun s => s.capture p psp c) := by
  induction retries with
  | zero => exact p.attemptCapture_competes found accepted fun e root => ⟨_, rfl, root⟩
  | succ retries ih => exact p.attemptCapture_competes found accepted fun _ _ => ih

theorem capture_competes (psp : String) (c : Capture) :
    (p.capture psp c).Competes (c.account.Steady first)
      (fun s => s.capture p psp c) := by
  intro s steady
  refine ⟨steady, ?_⟩
  simp only [Stores.answer, steady.authorizations]
  cases found : first.authorizations.getFull psp c.authorizationId with
  | error e =>
      refine Or.inr ?_
      simp only [Stores.capture, steady.authorizations, found]
      refine ⟨trivial, not_lostRace_error ?_, rfl⟩
      rw [TransactionStore.getFull_error found]
      rintro ⟨⟩
  | ok a =>
      by_cases declined : a.status = .declined ∨ a.status = .riskDeclined
      · refine Or.inr ?_
        simp only [Stores.capture, steady.authorizations, found, if_pos declined]
        exact ⟨trivial, not_lostRace_error (by rintro ⟨⟩), rfl⟩
      · simp only [if_neg declined]
        exact Or.inl ⟨trivial, p.attemptsCapture_competes captureRetries found declined⟩

end Processor

/-! ## Captures of refunds -/

theorem Stores.captureRefund_blind (p : Processor) (psp : String) (c : RefundCapture) :
    Effect.Blind fun s => s.captureRefund p psp c := by
  intro s t same
  rw [eq_of_records same]
  simp only [captureRefund]
  cases s.refunds.getFull psp c.refundId with
  | error e => exact ⟨rfl, rfl⟩
  | ok r =>
      have sameAdmission : ({ s with published := t.published } : Stores).admitsRefund r c =
          s.admitsRefund r c := rfl
      by_cases declined : r.status = .declined
      · simp only [if_pos declined]
        exact ⟨trivial, rfl⟩
      · simp only [if_neg declined, sameAdmission]
        cases s.admitsRefund r c with
        | error e => exact ⟨trivial, rfl⟩
        | ok joined => exact ⟨trivial, rfl⟩

namespace Processor

variable {first : Stores} {psp : String} {r : Refund} {c : RefundCapture} (p : Processor)

theorem captureRefund_alone {s : Stores}
    (found : first.refunds.getFull psp c.refundId = .ok r) (accepted : ¬ r.status = .declined)
    (steady : c.account.Steady first s) :
    s.captureRefund p psp c = (s.admitsRefund r c, s.settleRefund p r (s.admitsRefund r c)) := by
  simp only [Stores.captureRefund, steady.refunds, found, if_neg accepted]

theorem insertRefundCapture_competes {seen : CaptureSummary} {isFinal : Bool}
    {again : PaymentError → Flow Unit RefundCapture}
    (found : first.refunds.getFull psp c.refundId = .ok r) (accepted : ¬ r.status = .declined)
    (passes : seen.verdict r.amount c.amount c.isFinal = .ok isFinal)
    (loses : ∀ e, e.root = .duplicateValue → (again e).Competes (c.account.Steady first)
      (fun s => s.captureRefund p psp c)) :
    (p.insertRefundCapture r { c with isFinal := isFinal } seen again).Competes
      (c.account.Steady first) (fun s => s.captureRefund p psp c) := by
  intro s steady
  have named := RefundStore.getFull_ok found
  obtain ⟨current, summed⟩ := steady.summed
  have here : s.captures.refundSummary r.id = .ok current := named ▸ summed
  have summary : s.captures.refundSummary c.refundId = .ok current := summed
  by_cases same : current.same seen = true
  · have nonneg := CaptureSummary.ofEntries_nonneg _ current summed
    have passesNow :=
      (current.verdict_same seen r.amount c.amount c.isFinal nonneg same).trans passes
    have created : s.captures.createForRefund { c with isFinal := isFinal } seen = .ok
        { s.captures with
          refundCaptures := s.captures.refundCaptures ++ [{ c with isFinal := isFinal }] } := by
      simp only [CaptureStore.createForRefund, summary, same, if_true]
    have admitted : s.admitsRefund r c = .ok { c with isFinal := isFinal } := by
      simp only [Stores.admitsRefund, here, passesNow]
    have alone := p.captureRefund_alone found accepted steady
    rw [admitted] at alone
    simp only [Stores.answer, created, Stores.changed, alone]
    refine ⟨⟨steady.authorizations, steady.refunds, ?_, trivial⟩,
      Or.inr ⟨rfl, not_lostRace_ok _, ?_⟩⟩
    · exact CaptureStore.refundSummary_joined (c := { c with isFinal := isFinal }) summed passesNow
    · intro s steady
      exact ⟨steady.published _, rfl, rfl⟩
  · have refused : s.captures.createForRefund { c with isFinal := isFinal } seen =
        .error .duplicateValue := by
      simp only [CaptureStore.createForRefund, summary, same, Bool.false_eq_true, if_false]
    simp only [Stores.answer, refused, Stores.changed]
    exact ⟨steady, Or.inl ⟨trivial, loses .duplicateValue rfl⟩⟩

theorem attemptRefundCapture_competes {again : PaymentError → Flow Unit RefundCapture}
    (found : first.refunds.getFull psp c.refundId = .ok r) (accepted : ¬ r.status = .declined)
    (loses : ∀ e, e.root = .duplicateValue → (again e).Competes (c.account.Steady first)
      (fun s => s.captureRefund p psp c)) :
    (p.attemptRefundCapture r c again).Competes (c.account.Steady first)
      (fun s => s.captureRefund p psp c) := by
  rw [attemptRefundCapture_eq]
  intro s steady
  have named := RefundStore.getFull_ok found
  obtain ⟨current, summed⟩ := steady.summed
  have here : s.captures.refundSummary r.id = .ok current := named ▸ summed
  have alone := p.captureRefund_alone found accepted steady
  refine ⟨steady, ?_⟩
  simp only [Stores.answer, here]
  cases passes : current.verdict r.amount c.amount c.isFinal with
  | error e =>
      have admitted : s.admitsRefund r c = .error (e.within "invalid refund capture") := by
        simp only [Stores.admitsRefund, here, passes]
      rw [admitted] at alone
      rw [alone]
      have unrelated : (e.within "invalid refund capture").root ≠ .duplicateValue := by
        rw [PaymentError.root_within]
        exact CaptureSummary.verdict_error passes
      exact Or.inr ⟨rfl, not_lostRace_error unrelated, rfl⟩
  | ok isFinal =>
      exact Or.inl ⟨trivial, p.insertRefundCapture_competes found accepted passes loses⟩

theorem attemptsRefundCapture_competes (retries : ℕ)
    (found : first.refunds.getFull psp c.refundId = .ok r) (accepted : ¬ r.status = .declined) :
    (p.attemptsRefundCapture r c retries).Competes (c.account.Steady first)
      (fun s => s.captureRefund p psp c) := by
  induction retries with
  | zero => exact p.attemptRefundCapture_competes found accepted fun e root => ⟨_, rfl, root⟩
  | succ retries ih => exact p.attemptRefundCapture_competes found accepted fun _ _ => ih

theorem captureRefund_competes (psp : String) (c : RefundCapture) :
    (p.captureRefund psp c).Competes (c.account.Steady first)
      (fun s => s.captureRefund p psp c) := by
  intro s steady
  refine ⟨steady, ?_⟩
  simp only [Stores.answer, steady.refunds]
  cases found : first.refunds.getFull psp c.refundId with
  | error e =>
      refine Or.inr ?_
      simp only [Stores.captureRefund, steady.refunds, found]
      refine ⟨trivial, not_lostRace_error ?_, rfl⟩
      rw [TransactionStore.getFull_error found]
      rintro ⟨⟩
  | ok r =>
      by_cases declined : r.status = .declined
      · refine Or.inr ?_
        simp only [Stores.captureRefund, steady.refunds, found, if_pos declined]
        exact ⟨trivial, not_lostRace_error (by rintro ⟨⟩), rfl⟩
      · simp only [if_neg declined]
        exact Or.inl ⟨trivial, p.attemptsRefundCapture_competes captureRetries found declined⟩

end Processor

/-! ## Runs -/

/-- What a request does to the stores of a system when it has them to itself. -/
def Request.effect (s : System) (p : Processor) (q : Request) : Effect q.Answer := fun stores =>
  ((({ s with stores := stores } : System).perform p q).1,
    (({ s with stores := stores } : System).perform p q).2.stores)

namespace Request

variable {account : Account} {q : Request} (s : System) (p : Processor)

theorem effect_capture (psp : String) (c : Capture) :
    effect s p (.capture psp c) = fun stores => stores.capture p psp c := by
  funext stores
  rw [effect, System.perform_capture]
  rfl

theorem effect_captureRefund (psp : String) (c : RefundCapture) :
    effect s p (.captureRefund psp c) = fun stores => stores.captureRefund p psp c := by
  funext stores
  rw [effect, System.perform_captureRefund]
  rfl

theorem effect_blind (captures : q.CapturesFrom account) : (effect s p q).Blind := by
  cases q with
  | capture psp c =>
      rw [effect_capture]
      exact Stores.capture_blind p psp c
  | captureRefund psp c =>
      rw [effect_captureRefund]
      exact Stores.captureRefund_blind p psp c
  | authorize a => cases account <;> exact captures.elim
  | refund r => cases account <;> exact captures.elim
  | reverse psp r => cases account <;> exact captures.elim

theorem flow_competes (captures : q.CapturesFrom account) (first : Stores) :
    (q.flow p).Competes (account.Steady first) (effect s p q) := by
  cases q with
  | capture psp c =>
      rw [effect_capture]
      cases account with
      | authorization id =>
          obtain rfl : c.authorizationId = id := captures
          exact p.capture_competes psp c
      | refund id => exact captures.elim
  | captureRefund psp c =>
      rw [effect_captureRefund]
      cases account with
      | authorization id => exact captures.elim
      | refund id =>
          obtain rfl : c.refundId = id := captures
          exact p.captureRefund_competes psp c
  | authorize a => cases account <;> exact captures.elim
  | refund r => cases account <;> exact captures.elim
  | reverse psp r => cases account <;> exact captures.elim

/-- A capture works on the stores only. -/
theorem perform_system (captures : q.CapturesFrom account) (stores : Stores) :
    ({ s with stores := stores } : System).perform p q =
      ((effect s p q stores).1, { s with stores := (effect s p q stores).2 }) := by
  cases q with
  | capture psp c =>
      rw [effect_capture, System.perform_capture]
      rfl
  | captureRefund psp c =>
      rw [effect_captureRefund, System.perform_captureRefund]
      rfl
  | authorize a => cases account <;> exact captures.elim
  | refund r => cases account <;> exact captures.elim
  | reverse psp r => cases account <;> exact captures.elim

end Request

section

variable {ι : Type} {requests : ι → Request} {account : Account}

theorem System.performAll_captures (s : System) (p : Processor)
    (captures : ∀ i, (requests i).CapturesFrom account) (stores : Stores) (order : List ι) :
    ({ s with stores := stores } : System).performAll p (order.map requests) =
      { s with stores := stores.after (fun i => (requests i).effect s p) order } := by
  induction order generalizing stores with
  | nil => rfl
  | cons i rest ih =>
      rw [List.map_cons, performAll, List.foldl_cons,
        Request.perform_system s p (captures i) stores]
      exact ih _

variable [DecidableEq ι]

/-- The schedule has the answers and leaves the rows of the requests of the order, run one after
another.  The order leaves out the requests that lost their last race, and none of its requests
comes after one that had not been started when it was answered. -/
structure Traffic.Linearizes (p : Processor) (s : System) (requests : ι → Request)
    (schedule : List (Act ι)) (order : List ι) : Prop where
  once : order.Nodup
  begun : ∀ i ∈ order, (((start requests s.stores).play p schedule).stage i) ≠ .waiting
  complete : ∀ i answer,
    (((start requests s.stores).play p schedule).stage i).answer? = some answer →
      (i ∈ order ↔ ¬ LostRace answer)
  timely : order.Pairwise fun i j => ¬ (start requests s.stores).Precedes p schedule j i
  rows : (s.performAll p (order.map requests)).stores.captures =
    ((start requests s.stores).play p schedule).stores.captures
  answers : ∀ front i back, order = front ++ i :: back → ∀ answer,
    (((start requests s.stores).play p schedule).stage i).answer? = some answer →
      answer = ((s.performAll p (front.map requests)).perform p (requests i)).1

omit [DecidableEq ι] in
theorem Stage.answer?_eq_some {q : Request} {stage : Stage q}
    {answer : Except PaymentError q.Answer} (ended : stage.answer? = some answer) :
    ∃ held, stage = .running (.finish held answer) := by
  cases stage with
  | waiting => cases ended
  | dropped => cases ended
  | running flow =>
      cases flow with
      | finish held other =>
          cases ended
          exact ⟨held, rfl⟩
      | ask held call next => cases ended
      | send held scheme message next => cases ended

/-- Captures of one account that no reversal disturbs can be put in one order, at any moment of any
undisturbed schedule. -/
theorem captures_linearize (account : Account) (p : Processor) (s : System)
    (captures : ∀ i, (requests i).CapturesFrom account)
    (summed : ∃ summary, s.stores.summaryOf account = .ok summary)
    (unreversed : s.stores.Unreversed account) (schedule : List (Act ι))
    (smooth : ∀ a ∈ schedule, a.turn.Smooth) :
    ∃ order, Traffic.Linearizes p s requests schedule order := by
  have steady : account.Steady s.stores s.stores := ⟨rfl, rfl, summed, unreversed⟩
  obtain ⟨order, decided⟩ := Traffic.exists_decided (fun i => (requests i).effect s p) s.stores
    steady (fun i => Request.effect_blind s p (captures i))
    (fun i => Request.flow_competes s p (captures i) s.stores) schedule smooth
  have sequential := s.performAll_captures p captures s.stores
  refine ⟨order, decided.once, fun i => decided.not_waiting, ?_, decided.timely, ?_, ?_⟩
  · intro i answer ended
    obtain ⟨held, stage⟩ := Stage.answer?_eq_some ended
    constructor
    · intro member
      obtain ⟨front, back, split⟩ := List.append_of_mem member
      obtain ⟨won, settles⟩ := decided.settled front i back split
      rw [stage] at settles
      obtain rfl : answer = _ := settles
      exact won
    · intro won
      by_contra isNew
      have competes := decided.undecided i isNew
      rw [stage] at competes
      exact won competes
  · have records := congrArg Stores.captures decided.records
    rw [sequential order]
    exact records
  · intro front i back split answer ended
    obtain ⟨held, stage⟩ := Stage.answer?_eq_some ended
    have settles := (decided.settled front i back split).2
    rw [stage] at settles
    rw [sequential front]
    exact settles

end

/-- Both captures are checked on the same summary, so that one of them has to be checked again. -/
theorem captures_linearize_race : ∃ order, Traffic.Linearizes Sample.processor
    (Sample.calm Sample.stores) Sample.captures (Sample.race ++ [.answer false]) order :=
  captures_linearize (.authorization (.ofNat 1)) Sample.processor
    (Sample.calm Sample.stores) (fun second => by cases second <;> rfl) ⟨.empty, rfl⟩ rfl _
    (by simp [Sample.race, Act.turn, Turn.Smooth])

end CardPayments
