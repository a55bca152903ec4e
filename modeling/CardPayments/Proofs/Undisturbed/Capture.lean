import CardPayments.Proofs.Settlement.Limit
import CardPayments.System

/-! # Captures that nothing disturbs

A capture that has the stores to itself is decided once, on the summary as it stands, and loses no
race: it adds one row and publishes it, or it changes nothing.  Only the number that a summary
counts matters for the decision, not the digits it is written with. -/
set_option autoImplicit false

namespace CardPayments

namespace Decimal

/-- A sum that does not fit is reported in the same way wherever it is computed. -/
theorem plus_error_eq {a b : Decimal} {e : PaymentError} (failed : a.plus b = .error e) :
    e = .internal (.overflow .addition) := by
  rw [plus, add] at failed
  split at failed
  · cases failed
  · next operation overflows =>
      split at overflows
      · cases overflows
      · cases overflows
        cases failed
        rfl

/-- Sums with the same amount are the same number, or neither of them fits. -/
theorem plus_same (s t : Decimal) (amount : Amount) (nonneg : 0 ≤ s.number)
    (same : s.number = t.number) :
    (∃ u v, s.plus amount.value = .ok u ∧ t.plus amount.value = .ok v ∧ u.number = v.number) ∨
      ∃ e, s.plus amount.value = .error e ∧ t.plus amount.value = .error e := by
  have sign : 0 ≤ s.number + amount.value.number := add_nonneg nonneg amount.number_pos.le
  have signToo : 0 ≤ t.number + amount.value.number := same ▸ sign
  cases left : s.plus amount.value with
  | ok u =>
      have rounds := plus_ok _ _ _ sign left
      cases right : t.plus amount.value with
      | ok v =>
          have roundsToo := plus_ok _ _ _ signToo right
          rw [← same] at roundsToo
          exact Or.inl ⟨u, v, rfl, rfl, le_antisymm (rounds.number_le roundsToo sign le_rfl)
            (roundsToo.number_le rounds sign le_rfl)⟩
      | error e =>
          have overflows := plus_error _ _ _ signToo right
          exact absurd (same ▸ overflows) (rounds.not_overflows sign)
  | error e =>
      have overflows := plus_error _ _ _ sign left
      cases right : t.plus amount.value with
      | ok v =>
          have roundsToo := plus_ok _ _ _ signToo right
          exact absurd (same ▸ overflows) (roundsToo.not_overflows signToo)
      | error e' =>
          refine Or.inr ⟨e, rfl, ?_⟩
          rw [plus_error_eq left, plus_error_eq right]

end Decimal

namespace CaptureSummary

/-- Whether a capture may be made, and whether it is final then. -/
def verdict (s : CaptureSummary) (limit requested : Amount) (flagged : Bool) :
    Except PaymentError Bool :=
  match s.checkCapturable limit requested with
  | .error e => .error e
  | .ok () => s.becomesFinal limit requested flagged

@[simp] theorem same_self (s : CaptureSummary) : s.same s = true :=
  (same_iff s s).mpr ⟨rfl, rfl⟩

/-- Summaries that count the same number decide alike. -/
theorem verdict_same (s t : CaptureSummary) (limit requested : Amount) (flagged : Bool)
    (nonneg : 0 ≤ s.total.number) (same : s.same t = true) :
    s.verdict limit requested flagged = t.verdict limit requested flagged := by
  obtain ⟨sameTotal, sameFinal⟩ := (same_iff s t).mp same
  rw [verdict, verdict, checkCapturable, checkCapturable, becomesFinal, becomesFinal, sameFinal]
  rcases Decimal.plus_same s.total t.total requested nonneg sameTotal with
    ⟨u, v, left, right, sameSum⟩ | ⟨e, left, right⟩
  · have below : limit.value.below u = limit.value.below v := by
      rw [Bool.eq_iff_iff, Decimal.below_iff, Decimal.below_iff, sameSum]
    have reached : u.same limit.value = v.same limit.value := by
      rw [Bool.eq_iff_iff, Decimal.same_iff, Decimal.same_iff, sameSum]
    simp only [left, right, below, reached]
  · simp only [left, right]

/-- What the verdict allows was checked, and is final as the verdict says. -/
theorem verdict_ok (s : CaptureSummary) (limit requested : Amount) (flagged isFinal : Bool) :
    s.verdict limit requested flagged = .ok isFinal ↔
      s.checkCapturable limit requested = .ok () ∧
        s.becomesFinal limit requested flagged = .ok isFinal := by
  rw [verdict]
  cases s.checkCapturable limit requested with
  | error e => simp
  | ok value => simp

end CaptureSummary

/-! ## Captures of authorizations -/

namespace Stores

/-- The row that is stored for a capture of an authorization, or why none is. -/
def admits (s : Stores) (a : Authorization) (c : Capture) : Except PaymentError Capture :=
  match s.captures.summary a.id with
  | .error e => .error (e.within "failed to get capture summary")
  | .ok summary =>
      match summary.verdict a.amount c.amount c.isFinal with
      | .error e => .error (e.within "invalid capture")
      | .ok isFinal =>
          if s.reversals.pending a.id then .error Processor.reversedError
          else .ok { c with isFinal := isFinal }

def withCapture (s : Stores) (c : Capture) : Stores :=
  { s with captures := { s.captures with captures := s.captures.captures ++ [c] } }

def announce (s : Stores) (p : Processor) (a : Authorization) (c : Capture) : Stores :=
  { s with
    published := s.published ++
      [⟨p.topics.capture, (CaptureEvent.ofCapture a c).toJson.render⟩] }

@[simp] theorem ofAuthorization_withCapture (s : Stores) (p : Processor)
    (a : Authorization) (c : Capture) (id : Uuid) :
    ((s.withCapture c).announce p a c).captures.ofAuthorization id =
      s.captures.ofAuthorization id ++ if c.authorizationId = id then [c] else [] := by
  by_cases same : c.authorizationId = id <;>
    simp [withCapture, announce, CaptureStore.ofAuthorization, same]

def settle (s : Stores) (p : Processor) (a : Authorization) :
    Except PaymentError Capture → Stores
  | .ok c => (s.withCapture c).announce p a c
  | .error _ => s

theorem admits_within (s : Stores) (a : Authorization) (c : Capture) (summary : CaptureSummary)
    (summed : s.captures.summary a.id = .ok summary) :
    s.admits a c =
      match summary.verdict a.amount c.amount c.isFinal with
      | .error e => .error (e.within "invalid capture")
      | .ok isFinal =>
          if s.reversals.pending a.id then .error Processor.reversedError
          else .ok { c with isFinal := isFinal } := by
  rw [admits, summed]

end Stores

namespace Processor

variable (p : Processor) (s : System) (a : Authorization) (c : Capture)

theorem run_recheckCapture (free : s.stores.reversals.pending a.id = false) :
    (p.recheckCapture a c).run s =
      (((), .ok c), { s with stores := s.stores.announce p a c }) := by
  simp only [recheckCapture, Flow.run, System.answer, Stores.answer, free]
  rfl

theorem run_insertCapture (seen : CaptureSummary) (again : PaymentError → Flow Unit Capture)
    (account : c.authorizationId = a.id) (summed : s.stores.captures.summary a.id = .ok seen)
    (free : s.stores.reversals.pending a.id = false) :
    (p.insertCapture a c seen again).run s =
      (((), .ok c), { s with stores := s.stores.settle p a (.ok c) }) := by
  have created : s.stores.captures.create c seen =
      .ok { s.stores.captures with captures := s.stores.captures.captures ++ [c] } := by
    rw [CaptureStore.create, account, summed]
    simp
  simp only [insertCapture, Flow.run, System.answer, Stores.answer, created, Stores.changed]
  exact p.run_recheckCapture { s with stores := s.stores.withCapture c } a c free

/-- An attempt goes on as the verdict on the summary says. -/
theorem attemptCapture_eq (again : PaymentError → Flow Unit Capture) :
    p.attemptCapture a c again =
      .require () "failed to get capture summary" (.captureSummary a.id) fun summary =>
        match summary.verdict a.amount c.amount c.isFinal with
        | .error e => .fail () "invalid capture" e
        | .ok isFinal =>
            .require () "failed to check reversal" (.reversalExists a.id) fun (reversed : Bool) =>
              if reversed then .finish () (.error reversedError)
              else p.insertCapture a { c with isFinal := isFinal } summary again := by
  rw [attemptCapture]
  congr 1
  funext summary
  simp only [CaptureSummary.verdict]
  cases summary.checkCapturable a.amount c.amount with
  | error e => rfl
  | ok _ => rfl

/-- No race is lost where nothing else happens, so there is no second attempt. -/
theorem run_attemptCapture (again : PaymentError → Flow Unit Capture)
    (account : c.authorizationId = a.id) :
    (p.attemptCapture a c again).run s =
      (((), s.stores.admits a c),
        { s with stores := s.stores.settle p a (s.stores.admits a c) }) := by
  rw [attemptCapture_eq]
  cases summed : s.stores.captures.summary a.id with
  | error e =>
      simp only [Flow.require, Flow.run, System.answer, Stores.answer, summed, Flow.fail,
        Stores.admits, Stores.settle]
  | ok summary =>
      rw [Stores.admits_within _ a c summary summed]
      simp only [Flow.require, Flow.run, System.answer, Stores.answer, summed]
      cases summary.verdict a.amount c.amount c.isFinal with
      | error e => simp only [Flow.fail, Flow.run, Stores.settle]
      | ok isFinal =>
          simp only [Flow.run, System.answer, Stores.answer]
          cases free : s.stores.reversals.pending a.id with
          | true => simp only [if_true, Flow.run, Stores.settle]
          | false =>
              simp only [Bool.false_eq_true, if_false]
              exact p.run_insertCapture s a { c with isFinal := isFinal } summary again account
                summed free

theorem run_attemptsCapture (account : c.authorizationId = a.id) (retries : Nat) :
    (p.attemptsCapture a c retries).run s =
      (((), s.stores.admits a c),
        { s with stores := s.stores.settle p a (s.stores.admits a c) }) := by
  cases retries with
  | zero => exact p.run_attemptCapture s a c _ account
  | succ retries => exact p.run_attemptCapture s a c _ account

end Processor

namespace Stores

def capture (s : Stores) (p : Processor) (psp : String) (c : Capture) :
    Except PaymentError Capture × Stores :=
  match s.authorizations.getFull psp c.authorizationId with
  | .error e => (.error (e.within "failed to get authorization"), s)
  | .ok a =>
      if a.status = .declined ∨ a.status = .riskDeclined then
        (.error (PaymentError.authorizationDeclined.within "invalid capture"), s)
      else (s.admits a c, s.settle p a (s.admits a c))

/-- A capture was checked against the summary of the rows that it joins. -/
structure Joins (s : Stores) (c : Capture) (row : Authorization) (summary : CaptureSummary)
    (isFinal : Bool) : Prop where
  stored : s.authorizations.row? c.authorizationId = some row
  summed : s.captures.summary c.authorizationId = .ok summary
  passes : summary.verdict row.amount c.amount c.isFinal = .ok isFinal

theorem admits_ok {s : Stores} {a : Authorization} {c joined : Capture}
    (admitted : s.admits a c = .ok joined) : ∃ summary isFinal,
      s.captures.summary a.id = .ok summary ∧
      summary.verdict a.amount c.amount c.isFinal = .ok isFinal ∧
      s.reversals.pending a.id = false ∧ joined = { c with isFinal := isFinal } := by
  cases summed : s.captures.summary a.id with
  | error e => simp [admits, summed] at admitted
  | ok summary =>
      rw [admits_within s a c summary summed] at admitted
      cases passes : summary.verdict a.amount c.amount c.isFinal with
      | error e => simp [passes] at admitted
      | ok isFinal =>
          cases free : s.reversals.pending a.id with
          | true => simp [passes, free] at admitted
          | false =>
              simp only [passes, free, Bool.false_eq_true, if_false, Except.ok.injEq] at admitted
              exact ⟨summary, isFinal, rfl, passes, rfl, admitted.symm⟩

/-- A capture adds one row that was checked, or changes nothing. -/
theorem capture_effect (s : Stores) (p : Processor) (psp : String) (c : Capture) :
    (s.capture p psp c).2 = s ∨ ∃ a row summary isFinal, s.Joins c row summary isFinal ∧
      (s.capture p psp c).2 =
        (s.withCapture { c with isFinal := isFinal }).announce p a
          { c with isFinal := isFinal } := by
  cases found : s.authorizations.getFull psp c.authorizationId with
  | error e => exact Or.inl (by simp only [capture, found])
  | ok a =>
      by_cases declined : a.status = .declined ∨ a.status = .riskDeclined
      · exact Or.inl (by simp only [capture, found, if_pos declined])
      · have after : (s.capture p psp c).2 = s.settle p a (s.admits a c) := by
          simp only [capture, found, if_neg declined]
        rw [after]
        cases admitted : s.admits a c with
        | error e => exact Or.inl rfl
        | ok joined =>
            obtain ⟨row, stored, named, amount⟩ := AuthorizationStore.getFull_ok found
            obtain ⟨summary, isFinal, summed, passes, _, rfl⟩ := admits_ok admitted
            rw [named] at summed
            rw [amount] at passes
            exact Or.inr ⟨a, row, summary, isFinal, ⟨stored, summed, passes⟩, rfl⟩

theorem capture_row {s : Stores} {c : Capture} {row : Authorization} (p : Processor)
    (stored : s.authorizations.row? c.authorizationId = some row) :
    s.capture p row.psp c =
      if row.status = .declined ∨ row.status = .riskDeclined then
        (.error (PaymentError.authorizationDeclined.within "invalid capture"), s)
      else
        (s.admits (s.authorizations.shown row) c,
          s.settle p (s.authorizations.shown row) (s.admits (s.authorizations.shown row) c)) := by
  have found : s.authorizations.getFull row.psp c.authorizationId =
      .ok (s.authorizations.shown row) := (TransactionStore.getFull_row stored).2
  simp only [capture, found]
  rfl

/-- A capture of an authorization that was not declined joins its rows unless it is reversed. -/
theorem capture_joins {s : Stores} {c : Capture} {row : Authorization} {summary : CaptureSummary}
    {isFinal : Bool} (p : Processor) (joins : s.Joins c row summary isFinal)
    (accepted : row.status ≠ .declined ∧ row.status ≠ .riskDeclined)
    (free : s.reversals.pending c.authorizationId = false) :
    ∃ a, s.capture p row.psp c = (.ok { c with isFinal := isFinal },
      (s.withCapture { c with isFinal := isFinal }).announce p a
        { c with isFinal := isFinal }) := by
  have named : row.id = c.authorizationId := TransactionStore.id_of_row? joins.stored
  have admitted : s.admits (s.authorizations.shown row) c = .ok { c with isFinal := isFinal } := by
    have summed : s.captures.summary (s.authorizations.shown row).id = .ok summary :=
      named ▸ joins.summed
    have notPending : s.reversals.pending (s.authorizations.shown row).id = false := named ▸ free
    have passes : summary.verdict (s.authorizations.shown row).amount c.amount c.isFinal =
        .ok isFinal := joins.passes
    rw [admits_within s _ c summary summed]
    simp only [passes, notPending, Bool.false_eq_true, if_false]
  refine ⟨s.authorizations.shown row, ?_⟩
  rw [capture_row p joins.stored, if_neg (not_or.mpr accepted), admitted]
  rfl

end Stores

theorem Processor.run_capture (p : Processor) (s : System) (psp : String) (c : Capture) :
    (p.capture psp c).run s =
      (((), (s.stores.capture p psp c).1), { s with stores := (s.stores.capture p psp c).2 }) := by
  simp only [Processor.capture, Flow.require, Flow.run, System.answer, Stores.answer,
    Stores.capture]
  cases found : s.stores.authorizations.getFull psp c.authorizationId with
  | error e => simp only [Flow.fail, Flow.run]
  | ok a =>
      obtain ⟨row, _, named, _⟩ := AuthorizationStore.getFull_ok found
      by_cases declined : a.status = .declined ∨ a.status = .riskDeclined
      · simp only [if_pos declined, Flow.fail, Flow.run]
      · simp only [if_neg declined]
        exact p.run_attemptsCapture s a c named.symm _

/-! ## Captures of refunds -/

/-- What is shown of a refund has the id it was asked for. -/
theorem RefundStore.getFull_ok {s : RefundStore} {psp : String} {id : Uuid} {r : Refund}
    (found : s.getFull psp id = .ok r) : r.id = id := by
  obtain ⟨row, _, isRow, _, rfl⟩ := TransactionStore.getFull_shows found
  exact isRow

namespace Stores

def admitsRefund (s : Stores) (r : Refund) (c : RefundCapture) :
    Except PaymentError RefundCapture :=
  match s.captures.refundSummary r.id with
  | .error e => .error (e.within "failed to get capture refund summary")
  | .ok summary =>
      match summary.verdict r.amount c.amount c.isFinal with
      | .error e => .error (e.within "invalid refund capture")
      | .ok isFinal => .ok { c with isFinal := isFinal }

def withRefundCapture (s : Stores) (c : RefundCapture) : Stores :=
  { s with captures := { s.captures with refundCaptures := s.captures.refundCaptures ++ [c] } }

def announceRefund (s : Stores) (p : Processor) (r : Refund) (c : RefundCapture) : Stores :=
  { s with
    published := s.published ++
      [⟨p.topics.refundCapture, (RefundCaptureEvent.ofCapture r c).toJson.render⟩] }

def settleRefund (s : Stores) (p : Processor) (r : Refund) :
    Except PaymentError RefundCapture → Stores
  | .ok c => (s.withRefundCapture c).announceRefund p r c
  | .error _ => s

def captureRefund (s : Stores) (p : Processor) (psp : String) (c : RefundCapture) :
    Except PaymentError RefundCapture × Stores :=
  match s.refunds.getFull psp c.refundId with
  | .error e => (.error (e.within "failed to get refund"), s)
  | .ok r =>
      if r.status = .declined then
        (.error (PaymentError.refundDeclined.within "invalid refund capture"), s)
      else (s.admitsRefund r c, s.settleRefund p r (s.admitsRefund r c))

theorem captureRefund_row {s : Stores} {c : RefundCapture} {row : Refund} (p : Processor)
    (stored : s.refunds.row? c.refundId = some row) :
    s.captureRefund p row.psp c =
      if row.status = .declined then
        (.error (PaymentError.refundDeclined.within "invalid refund capture"), s)
      else
        (s.admitsRefund (s.refunds.shown row) c,
          s.settleRefund p (s.refunds.shown row) (s.admitsRefund (s.refunds.shown row) c)) := by
  have found : s.refunds.getFull row.psp c.refundId = .ok (s.refunds.shown row) :=
    (TransactionStore.getFull_row stored).2
  simp only [captureRefund, found]
  rfl

end Stores

namespace Processor

variable (p : Processor) (s : System) (r : Refund) (c : RefundCapture)

theorem run_insertRefundCapture (seen : CaptureSummary)
    (again : PaymentError → Flow Unit RefundCapture) (account : c.refundId = r.id)
    (summed : s.stores.captures.refundSummary r.id = .ok seen) :
    (p.insertRefundCapture r c seen again).run s =
      (((), .ok c), { s with stores := s.stores.settleRefund p r (.ok c) }) := by
  have created : s.stores.captures.createForRefund c seen =
      .ok { s.stores.captures with
        refundCaptures := s.stores.captures.refundCaptures ++ [c] } := by
    rw [CaptureStore.createForRefund, account, summed]
    simp
  simp only [insertRefundCapture, publishRefundCapture, Flow.require, Flow.run, System.answer,
    Stores.answer, created, Stores.changed]
  rfl

theorem attemptRefundCapture_eq (again : PaymentError → Flow Unit RefundCapture) :
    p.attemptRefundCapture r c again =
      .require () "failed to get capture refund summary" (.refundCaptureSummary r.id)
        fun summary =>
          match summary.verdict r.amount c.amount c.isFinal with
          | .error e => .fail () "invalid refund capture" e
          | .ok isFinal =>
              p.insertRefundCapture r { c with isFinal := isFinal } summary again := by
  rw [attemptRefundCapture]
  congr 1
  funext summary
  simp only [CaptureSummary.verdict]
  cases summary.checkCapturable r.amount c.amount with
  | error e => rfl
  | ok _ => rfl

theorem run_attemptRefundCapture (again : PaymentError → Flow Unit RefundCapture)
    (account : c.refundId = r.id) :
    (p.attemptRefundCapture r c again).run s =
      (((), s.stores.admitsRefund r c),
        { s with stores := s.stores.settleRefund p r (s.stores.admitsRefund r c) }) := by
  rw [attemptRefundCapture_eq]
  cases summed : s.stores.captures.refundSummary r.id with
  | error e =>
      simp only [Flow.require, Flow.run, System.answer, Stores.answer, summed, Flow.fail,
        Stores.admitsRefund, Stores.settleRefund]
  | ok summary =>
      simp only [Flow.require, Flow.run, System.answer, Stores.answer, summed,
        Stores.admitsRefund]
      cases summary.verdict r.amount c.amount c.isFinal with
      | error e => simp only [Flow.fail, Flow.run, Stores.settleRefund]
      | ok isFinal =>
          exact p.run_insertRefundCapture s r { c with isFinal := isFinal } summary again account
            summed

theorem run_attemptsRefundCapture (account : c.refundId = r.id) (retries : Nat) :
    (p.attemptsRefundCapture r c retries).run s =
      (((), s.stores.admitsRefund r c),
        { s with stores := s.stores.settleRefund p r (s.stores.admitsRefund r c) }) := by
  cases retries with
  | zero => exact p.run_attemptRefundCapture s r c _ account
  | succ retries => exact p.run_attemptRefundCapture s r c _ account

theorem run_captureRefund (psp : String) :
    (p.captureRefund psp c).run s = (((), (s.stores.captureRefund p psp c).1),
      { s with stores := (s.stores.captureRefund p psp c).2 }) := by
  simp only [captureRefund, Flow.require, Flow.run, System.answer, Stores.answer,
    Stores.captureRefund]
  cases found : s.stores.refunds.getFull psp c.refundId with
  | error e => simp only [Flow.fail, Flow.run]
  | ok r =>
      have named := RefundStore.getFull_ok found
      by_cases declined : r.status = .declined
      · simp only [if_pos declined, Flow.fail, Flow.run]
      · simp only [if_neg declined]
        exact p.run_attemptsRefundCapture s r c named.symm _

end Processor

/-! ## Requests one after another -/

namespace System

/-- The answer to a request that runs to its end, and the system after it. -/
def perform (s : System) (p : Processor) (q : Request) : Except PaymentError q.Answer × System :=
  let ran := (q.flow p).run s
  (ran.1.2, ran.2)

def performAll (s : System) (p : Processor) (requests : List Request) : System :=
  requests.foldl (fun s q => (s.perform p q).2) s

theorem perform_capture (s : System) (p : Processor) (psp : String) (c : Capture) :
    s.perform p (.capture psp c) =
      ((s.stores.capture p psp c).1, { s with stores := (s.stores.capture p psp c).2 }) :=
  congrArg (fun ran => (ran.1.2, ran.2)) (p.run_capture s psp c)

theorem perform_captureRefund (s : System) (p : Processor) (psp : String) (c : RefundCapture) :
    s.perform p (.captureRefund psp c) =
      ((s.stores.captureRefund p psp c).1,
        { s with stores := (s.stores.captureRefund p psp c).2 }) :=
  congrArg (fun ran => (ran.1.2, ran.2)) (p.run_captureRefund s c psp)

end System

/-- A system of these stores that is connected to no network. -/
def Sample.calm (stores : Stores) : System :=
  ⟨stores, ⟨.empty, .ofConfig .default, ⟨2024, 3, 4⟩⟩, fun _ => none⟩

end CardPayments
