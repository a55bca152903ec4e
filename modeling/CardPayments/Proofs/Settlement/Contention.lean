import CardPayments.Proofs.Settlement.Order
import CardPayments.Proofs.Traffic.History

/-! # Captures that lose every race

A capture gives up after it has lost a race in each of its attempts.  Each attempt reads the
summary of the account, and loses only when the summary that it finds at its insert counts another
number or says something else of finality.  So in each attempt another request changed the summary,
and no change is counted for two attempts, since an attempt reads the summary again after the insert
of the one before it. -/
set_option autoImplicit false

namespace CardPayments

/-! ## Changes of a summary -/

def Call.insertsOrWithdraws : Call → Bool
  | .createCapture .. | .createRefundCapture .. => true
  | .updateCapture c => c.status = .failed
  | _ => false

def Call.Sums : Account → Call → Prop
  | .authorization id, .captureSummary own => own = id
  | .refund id, .refundCaptureSummary own => own = id
  | _, _ => False

def Call.Inserts : Account → Call → Prop
  | .authorization id, .createCapture c _ => c.authorizationId = id
  | .refund id, .createRefundCapture c _ => c.refundId = id
  | _, _ => False

namespace CaptureSummary

theorem same_symm {a b : CaptureSummary} (same : a.same b = true) : b.same a = true := by
  obtain ⟨total, final⟩ := (same_iff a b).mp same
  exact (same_iff b a).mpr ⟨total.symm, final.symm⟩

theorem same_trans {a b c : CaptureSummary} (first : a.same b = true) (second : b.same c = true) :
    a.same c = true := by
  obtain ⟨total, final⟩ := (same_iff a b).mp first
  obtain ⟨total', final'⟩ := (same_iff b c).mp second
  exact (same_iff a c).mpr ⟨total.trans total', final.trans final'⟩

def agree : Except PaymentError CaptureSummary → Except PaymentError CaptureSummary → Bool
  | .ok a, .ok b => a.same b
  | .error _, .error _ => true
  | _, _ => false

theorem agree_self (a : Except PaymentError CaptureSummary) : agree a a = true := by
  cases a with
  | ok summary => exact summary.same_self
  | error e => rfl

theorem agree_symm {a b : Except PaymentError CaptureSummary} (agrees : agree a b = true) :
    agree b a = true := by
  cases a with
  | ok summary =>
      cases b with
      | ok other => exact same_symm agrees
      | error e => cases agrees
  | error e =>
      cases b with
      | ok other => cases agrees
      | error e => rfl

theorem agree_trans {a b c : Except PaymentError CaptureSummary} (first : agree a b = true)
    (second : agree b c = true) : agree a c = true := by
  cases a with
  | ok summary =>
      cases b with
      | error e => cases first
      | ok middle =>
          cases c with
          | error e => cases second
          | ok last => exact same_trans first second
  | error e =>
      cases b with
      | ok middle => cases first
      | error e =>
          cases c with
          | ok last => cases second
          | error e => rfl

end CaptureSummary

namespace Stores

/-- Only captures that are stored and withdrawn change a summary. -/
theorem answer_summaryOf {q : Request} {call : Call} (s : Stores) (asks : q.Asks call)
    (other : call.insertsOrWithdraws = false) (account : Account) :
    (s.answer call).2.summaryOf account = s.summaryOf account := by
  have quiet : ¬ call.WritesCaptures := by
    intro writes
    cases call <;> try exact writes
    · cases other
    · next c =>
        rcases asks with reads | writes
        · exact reads.isRead
        · cases q with
          | capture psp own =>
              have failed : c.status = .failed := by
                rw [show c = _ from writes]
              simp [Call.insertsOrWithdraws, failed] at other
          | authorize a => exact writes
          | refund r => exact writes
          | captureRefund psp own => exact writes
          | reverse psp r => exact writes
    · cases other
  cases account with
  | authorization id => simp only [summaryOf, s.answer_captures call quiet]
  | refund id => simp only [summaryOf, s.answer_captures call quiet]

end Stores

namespace Asked

variable {ι : Type}

def changes (account : Account) (e : Asked ι) : Bool :=
  e.call.insertsOrWithdraws &&
    !CaptureSummary.agree (e.stores.summaryOf account) (e.after.summaryOf account)

def outpaces [DecidableEq ι] (account : Account) (i : ι) (e : Asked ι) : Bool :=
  decide (e.request ≠ i) && e.changes account

theorem agree_of_unchanged {q : Request} {account : Account} {e : Asked ι} (asks : q.Asks e.call)
    (unchanged : e.changes account = false) :
    CaptureSummary.agree (e.after.summaryOf account) (e.stores.summaryOf account) = true := by
  cases kind : e.call.insertsOrWithdraws with
  | false =>
      rw [after, e.stores.answer_summaryOf asks kind account]
      exact CaptureSummary.agree_self _
  | true =>
      rw [changes, kind, Bool.true_and, Bool.not_eq_false'] at unchanged
      exact CaptureSummary.agree_symm unchanged

end Asked

/-! ## How far a capture has come -/

/-- Where a capture stands between its attempts: it will read the summary, with so many races lost,
or it has read one and will store its row.  A capture whose outcome is decided in another way is
over. -/
inductive Pursuit where
  | reading (lost : ℕ)
  | seeing (lost : ℕ) (seen : CaptureSummary)
  | ended

/-- What the answer of the stores to a call means for a capture from the account. -/
inductive Pursuit.Step (account : Account) (s : Stores) : Pursuit → Call → Pursuit → Prop
  | aside (pursuit : Pursuit) (call : Call) (reads : call.IsRead) (other : ¬ call.Sums account) :
      Step account s pursuit call pursuit
  | saw (lost : ℕ) (call : Call) (seen : CaptureSummary) (sums : call.Sums account)
      (summed : s.summaryOf account = .ok seen) :
      Step account s (.reading lost) call (.seeing lost seen)
  | lost (lost : ℕ) (seen current : CaptureSummary) (call : Call) (inserts : call.Inserts account)
      (summed : s.summaryOf account = .ok current) (differs : current.same seen = false) :
      Step account s (.seeing lost seen) call (.reading (lost + 1))
  | ended (pursuit : Pursuit) (call : Call) : Step account s pursuit call .ended

/-- Whatever the stores are when they answer, the flow goes on like a capture from the account, and
is only beaten when it has lost a race in every attempt. -/
def Flow.Races {σ α : Type} (account : Account) : Flow σ α → Pursuit → Prop
  | .finish _ answer, pursuit =>
      LostRace answer → pursuit = .reading (Processor.captureRetries + 1)
  | .ask _ call next, pursuit => ∀ s : Stores, ∃ after,
      Pursuit.Step account s pursuit call after ∧ (next (s.answer call).1).Races account after
  | .send .., _ => False

def Stage.Races {q : Request} (account : Account) : Stage q → Pursuit → Prop
  | .waiting, pursuit => pursuit = .reading 0
  | .running flow, pursuit => flow.Races account pursuit
  | .dropped, _ => True

namespace Flow

variable {σ α : Type} {account : Account} {pursuit : Pursuit} {held : σ} {step : String}

theorem races_ok (value : α) : (finish held (.ok value)).Races account pursuit :=
  fun lost => absurd lost (not_lostRace_ok value)

theorem races_error {e : PaymentError} (other : e.root ≠ .duplicateValue) :
    (finish held (.error e) : Flow σ α).Races account pursuit :=
  fun lost => absurd lost (not_lostRace_error other)

theorem races_fail {e : PaymentError} (other : e.root ≠ .duplicateValue) :
    (fail held step e : Flow σ α).Races account pursuit :=
  races_error (by rwa [PaymentError.root_within])

end Flow

/-! ## The flows of captures -/

namespace CaptureSummary

theorem extend_error {entries : List CaptureEntry} {s : CaptureSummary} {e : PaymentError}
    (failed : s.extend entries = .error e) : e.root ≠ .duplicateValue := by
  induction entries generalizing s with
  | nil => cases failed
  | cons entry rest inductionHypothesis =>
      by_cases counts : entry.Counts
      · rw [extend_count s entry rest counts, count] at failed
        cases sum : s.total.plus entry.amount.value with
        | ok total =>
            rw [sum] at failed
            exact inductionHypothesis failed
        | error cause =>
            rw [sum] at failed
            cases failed
            rw [Decimal.plus_error_eq sum]
            rintro ⟨⟩
      · rw [extend_skip s entry rest counts] at failed
        exact inductionHypothesis failed

end CaptureSummary

theorem Stores.summaryOf_error {s : Stores} (account : Account) {e : PaymentError}
    (failed : s.summaryOf account = .error e) : e.root ≠ .duplicateValue := by
  cases account with
  | authorization id => exact CaptureSummary.extend_error failed
  | refund id => exact CaptureSummary.extend_error failed

namespace Processor

variable {account : Account} (p : Processor)

/-! ### From an authorization -/

section

variable {a : Authorization} {c : Capture}

theorem publishCapture_races : (p.publishCapture a c).Races account .ended :=
  fun _ => ⟨.ended, .ended _ _, Flow.races_ok c⟩

theorem withdrawCapture_races {reason : PaymentError} (other : reason.root ≠ .duplicateValue) :
    (withdrawCapture c reason).Races account .ended := by
  intro s
  refine ⟨.ended, .ended _ _, ?_⟩
  cases withdrawn : s.captures.update { c with status := .failed } with
  | ok store =>
      simp only [Stores.answer, withdrawn, Stores.changed]
      exact Flow.races_error other
  | error e =>
      simp only [Stores.answer, withdrawn, Stores.changed]
      refine Flow.races_fail ?_
      rw [CaptureStore.update] at withdrawn
      split at withdrawn
      · cases withdrawn
      · cases withdrawn
        rintro ⟨⟩

theorem recheckCapture_races : (p.recheckCapture a c).Races account .ended := by
  intro s
  refine ⟨.ended, .ended _ _, ?_⟩
  simp only [Stores.answer]
  cases s.reversals.pending a.id with
  | false => exact p.publishCapture_races
  | true => exact withdrawCapture_races (by rintro ⟨⟩)

theorem insertCapture_races {lost : ℕ} {seen : CaptureSummary}
    {again : PaymentError → Flow Unit Capture}
    (goesOn : ∀ e, e.root = .duplicateValue → (again e).Races c.account (.reading (lost + 1))) :
    (p.insertCapture a c seen again).Races c.account (.seeing lost seen) := by
  intro s
  cases summed : s.captures.summary c.authorizationId with
  | error e =>
      have other : e.root ≠ .duplicateValue := Stores.summaryOf_error c.account summed
      refine ⟨.ended, .ended _ _, ?_⟩
      simp only [Stores.answer, CaptureStore.create, summed, Stores.changed, if_neg other]
      exact Flow.races_fail other
  | ok current =>
      cases same : current.same seen with
      | true =>
          refine ⟨.ended, .ended _ _, ?_⟩
          simp only [Stores.answer, CaptureStore.create, summed, same, Stores.changed, if_true]
          exact p.recheckCapture_races
      | false =>
          refine ⟨.reading (lost + 1), .lost lost seen current _ rfl summed same, ?_⟩
          simp only [Stores.answer, CaptureStore.create, summed, same, Stores.changed,
            Bool.false_eq_true, if_false]
          exact goesOn .duplicateValue rfl

theorem attemptCapture_races {lost : ℕ} {again : PaymentError → Flow Unit Capture}
    (named : a.id = c.authorizationId)
    (goesOn : ∀ e, e.root = .duplicateValue → (again e).Races c.account (.reading (lost + 1))) :
    (p.attemptCapture a c again).Races c.account (.reading lost) := by
  rw [attemptCapture_eq]
  intro s
  cases summed : s.captures.summary a.id with
  | error e =>
      refine ⟨.ended, .ended _ _, ?_⟩
      simp only [Stores.answer, summed]
      exact Flow.races_fail (Stores.summaryOf_error (.authorization a.id) summed)
  | ok seen =>
      have here : s.summaryOf c.account = .ok seen := by
        rw [named] at summed
        exact summed
      refine ⟨.seeing lost seen, .saw lost _ seen named here, ?_⟩
      simp only [Stores.answer, summed]
      cases passes : seen.verdict a.amount c.amount c.isFinal with
      | error e => exact Flow.races_fail (CaptureSummary.verdict_error passes)
      | ok isFinal =>
          intro t
          refine ⟨.seeing lost seen, .aside _ _ trivial id, ?_⟩
          simp only [Stores.answer]
          cases t.reversals.pending a.id with
          | true => exact Flow.races_error (by rintro ⟨⟩)
          | false => exact p.insertCapture_races (c := { c with isFinal := isFinal }) goesOn

theorem attemptsCapture_races (named : a.id = c.authorizationId) (retries lost : ℕ)
    (all : lost + retries = captureRetries) :
    (p.attemptsCapture a c retries).Races c.account (.reading lost) := by
  induction retries generalizing lost with
  | zero =>
      refine p.attemptCapture_races named fun e _ _ => ?_
      rw [← all]
  | succ retries inductionHypothesis =>
      exact p.attemptCapture_races named fun e _ => inductionHypothesis (lost + 1) (by omega)

theorem capture_races (psp : String) (c : Capture) :
    (p.capture psp c).Races c.account (.reading 0) := by
  intro s
  refine ⟨.reading 0, .aside _ _ trivial id, ?_⟩
  simp only [Stores.answer]
  cases found : s.authorizations.getFull psp c.authorizationId with
  | error e =>
      refine Flow.races_fail ?_
      rw [TransactionStore.getFull_error found]
      rintro ⟨⟩
  | ok a =>
      obtain ⟨_, _, named, _⟩ := AuthorizationStore.getFull_ok found
      dsimp only
      split
      · exact Flow.races_fail (by rintro ⟨⟩)
      · exact p.attemptsCapture_races named captureRetries 0 (Nat.zero_add _)

end

/-! ### From a refund -/

section

variable {r : Refund} {c : RefundCapture}

theorem publishRefundCapture_races : (p.publishRefundCapture r c).Races account .ended :=
  fun _ => ⟨.ended, .ended _ _, Flow.races_ok c⟩

theorem insertRefundCapture_races {lost : ℕ} {seen : CaptureSummary}
    {again : PaymentError → Flow Unit RefundCapture}
    (goesOn : ∀ e, e.root = .duplicateValue → (again e).Races c.account (.reading (lost + 1))) :
    (p.insertRefundCapture r c seen again).Races c.account (.seeing lost seen) := by
  intro s
  cases summed : s.captures.refundSummary c.refundId with
  | error e =>
      have other : e.root ≠ .duplicateValue := Stores.summaryOf_error c.account summed
      refine ⟨.ended, .ended _ _, ?_⟩
      simp only [Stores.answer, CaptureStore.createForRefund, summed, Stores.changed, if_neg other]
      exact Flow.races_fail other
  | ok current =>
      cases same : current.same seen with
      | true =>
          refine ⟨.ended, .ended _ _, ?_⟩
          simp only [Stores.answer, CaptureStore.createForRefund, summed, same, Stores.changed,
            if_true]
          exact p.publishRefundCapture_races
      | false =>
          refine ⟨.reading (lost + 1), .lost lost seen current _ rfl summed same, ?_⟩
          simp only [Stores.answer, CaptureStore.createForRefund, summed, same, Stores.changed,
            Bool.false_eq_true, if_false]
          exact goesOn .duplicateValue rfl

theorem attemptRefundCapture_races {lost : ℕ} {again : PaymentError → Flow Unit RefundCapture}
    (named : r.id = c.refundId)
    (goesOn : ∀ e, e.root = .duplicateValue → (again e).Races c.account (.reading (lost + 1))) :
    (p.attemptRefundCapture r c again).Races c.account (.reading lost) := by
  rw [attemptRefundCapture_eq]
  intro s
  cases summed : s.captures.refundSummary r.id with
  | error e =>
      refine ⟨.ended, .ended _ _, ?_⟩
      simp only [Stores.answer, summed]
      exact Flow.races_fail (Stores.summaryOf_error (.refund r.id) summed)
  | ok seen =>
      have here : s.summaryOf c.account = .ok seen := by
        rw [named] at summed
        exact summed
      refine ⟨.seeing lost seen, .saw lost _ seen named here, ?_⟩
      simp only [Stores.answer, summed]
      cases passes : seen.verdict r.amount c.amount c.isFinal with
      | error e => exact Flow.races_fail (CaptureSummary.verdict_error passes)
      | ok isFinal => exact p.insertRefundCapture_races (c := { c with isFinal := isFinal }) goesOn

theorem attemptsRefundCapture_races (named : r.id = c.refundId) (retries lost : ℕ)
    (all : lost + retries = captureRetries) :
    (p.attemptsRefundCapture r c retries).Races c.account (.reading lost) := by
  induction retries generalizing lost with
  | zero =>
      refine p.attemptRefundCapture_races named fun e _ _ => ?_
      rw [← all]
  | succ retries inductionHypothesis =>
      exact p.attemptRefundCapture_races named fun e _ =>
        inductionHypothesis (lost + 1) (by omega)

theorem captureRefund_races (psp : String) (c : RefundCapture) :
    (p.captureRefund psp c).Races c.account (.reading 0) := by
  intro s
  refine ⟨.reading 0, .aside _ _ trivial id, ?_⟩
  simp only [Stores.answer]
  cases found : s.refunds.getFull psp c.refundId with
  | error e =>
      refine Flow.races_fail ?_
      rw [TransactionStore.getFull_error found]
      rintro ⟨⟩
  | ok r =>
      dsimp only
      split
      · exact Flow.races_fail (by rintro ⟨⟩)
      · exact p.attemptsRefundCapture_races (RefundStore.getFull_ok found) captureRetries 0
          (Nat.zero_add _)

end

end Processor

theorem Request.flow_races (p : Processor) {account : Account} {q : Request}
    (captures : q.CapturesFrom account) : (q.flow p).Races account (.reading 0) := by
  cases q with
  | capture psp c =>
      cases account with
      | authorization id =>
          obtain rfl : c.authorizationId = id := captures
          exact p.capture_races psp c
      | refund id => exact captures.elim
  | captureRefund psp c =>
      cases account with
      | authorization id => exact captures.elim
      | refund id =>
          obtain rfl : c.refundId = id := captures
          exact p.captureRefund_races psp c
  | authorize a => cases account <;> exact captures.elim
  | refund r => cases account <;> exact captures.elim
  | reverse psp r => cases account <;> exact captures.elim

/-! ## Runs -/

section

variable {ι : Type} {account : Account} {i : ι} {history : List (Asked ι)} {s : Stores}
  {pursuit next : Pursuit}

namespace Asked

def Looks (account : Account) (i : ι) (e : Asked ι) : Prop := e.request = i ∧ e.call.Sums account

def Tries (account : Account) (i : ι) (e : Asked ι) : Prop :=
  e.request = i ∧ e.call.Inserts account

end Asked

/-- The request reads the summary for the first time, with so much of the history behind it. -/
def LooksFirst (account : Account) (i : ι) (history since : List (Asked ι)) : Prop :=
  ∃ front first, history = front ++ first :: since ∧ first.Looks account i ∧
    ∀ e ∈ front, ¬ e.Looks account i

/-- Other requests changed the summary of the account at least so many times after the request read
it for the first time and before its last insert. -/
def Outpaced [DecidableEq ι] (account : Account) (i : ι) (times : ℕ) (history : List (Asked ι)) :
    Prop :=
  ∃ window last back, LooksFirst account i history (window ++ last :: back) ∧
    last.Tries account i ∧ (∀ e ∈ back, ¬ e.Tries account i) ∧
    times ≤ window.countP (Asked.outpaces account i)

theorem LooksFirst.concat {since : List (Asked ι)} (looks : LooksFirst account i history since)
    (e : Asked ι) : LooksFirst account i (history ++ [e]) (since ++ [e]) := by
  obtain ⟨front, first, rfl, isFirst, before⟩ := looks
  exact ⟨front, first, by simp, isFirst, before⟩

theorem Call.IsRead.not_inserts {call : Call} (reads : call.IsRead) : ¬ call.Inserts account := by
  intro inserts
  cases call <;> cases account <;> first | exact reads | exact inserts

theorem Call.Sums.isRead {call : Call} (sums : call.Sums account) : call.IsRead := by
  cases call <;> cases account <;> first | exact trivial | exact sums.elim

variable [DecidableEq ι]

theorem Outpaced.concat {times : ℕ} (outpaced : Outpaced account i times history) {e : Asked ι}
    (other : ¬ e.Tries account i) : Outpaced account i times (history ++ [e]) := by
  obtain ⟨window, last, back, looks, tries, after, changed⟩ := outpaced
  refine ⟨window, last, back ++ [e], ?_, tries, ?_, changed⟩
  · have concat := looks.concat e
    rwa [List.append_assoc, List.cons_append] at concat
  · rw [List.forall_mem_append, List.forall_mem_singleton]
    exact ⟨after, other⟩

/-- What the history says of a capture that stands somewhere, while the stores are as given: for
every race that it lost the summary was changed once, and once more unless the summary still is the
one that it sees. -/
def Pursuit.Holds (account : Account) (i : ι) (history : List (Asked ι)) (s : Stores) :
    Pursuit → Prop
  | .reading 0 => ∀ e ∈ history, ¬ e.Looks account i
  | .reading (lost + 1) => Outpaced account i (lost + 1) history
  | .seeing lost seen => ∃ since, LooksFirst account i history since ∧
      (lost ≤ since.countP (Asked.outpaces account i) ∧
          CaptureSummary.agree (s.summaryOf account) (.ok seen) = true ∨
        lost + 1 ≤ since.countP (Asked.outpaces account i))
  | .ended => True

namespace Pursuit.Holds

theorem other {e : Asked ι} {q : Request} (holds : pursuit.Holds account i history e.stores)
    (asks : q.Asks e.call) (foreign : e.request ≠ i) :
    pursuit.Holds account i (history ++ [e]) e.after := by
  have notLooks : ¬ e.Looks account i := fun looks => foreign looks.1
  have notTries : ¬ e.Tries account i := fun tries => foreign tries.1
  match pursuit with
  | .ended => trivial
  | .reading 0 =>
      rw [Holds, List.forall_mem_append, List.forall_mem_singleton]
      exact ⟨holds, notLooks⟩
  | .reading (lost + 1) => exact Outpaced.concat holds notTries
  | .seeing lost seen =>
      obtain ⟨since, looks, counted⟩ := holds
      refine ⟨since ++ [e], looks.concat e, ?_⟩
      rw [List.countP_append]
      rcases counted with ⟨enough, agrees⟩ | more
      · cases changed : e.changes account with
        | true =>
            have outpaces : e.outpaces account i = true := by
              simp [Asked.outpaces, foreign, changed]
            refine Or.inr ?_
            rw [List.countP_singleton, if_pos outpaces]
            omega
        | false =>
            refine Or.inl ⟨by omega, ?_⟩
            exact CaptureSummary.agree_trans (Asked.agree_of_unchanged asks changed) agrees
      · exact Or.inr (by omega)

/-- The request itself goes a step. -/
theorem own {e : Asked ι} (holds : pursuit.Holds account i history e.stores)
    (mine : e.request = i) (step : Pursuit.Step account e.stores pursuit e.call next) :
    next.Holds account i (history ++ [e]) e.after := by
  cases step with
  | ended => trivial
  | aside _ _ reads notSums =>
      have still : e.after = e.stores := e.stores.answer_read e.call reads
      have notLooks : ¬ e.Looks account i := fun looks => notSums looks.2
      have notTries : ¬ e.Tries account i := fun tries => reads.not_inserts tries.2
      match pursuit with
      | .ended => trivial
      | .reading 0 =>
          rw [Holds, List.forall_mem_append, List.forall_mem_singleton]
          exact ⟨holds, notLooks⟩
      | .reading (lost + 1) => exact Outpaced.concat holds notTries
      | .seeing lost seen =>
          obtain ⟨since, looks, counted⟩ := holds
          refine ⟨since ++ [e], looks.concat e, ?_⟩
          rw [List.countP_append, still]
          rcases counted with ⟨enough, agrees⟩ | more
          · exact Or.inl ⟨by omega, agrees⟩
          · exact Or.inr (by omega)
  | saw lost _ seen sums summed =>
      have still : e.after = e.stores := e.stores.answer_read e.call sums.isRead
      have agrees : CaptureSummary.agree (e.after.summaryOf account) (.ok seen) = true := by
        rw [still, summed]
        exact CaptureSummary.agree_self _
      match lost with
      | 0 => exact ⟨[], ⟨history, e, rfl, ⟨mine, sums⟩, holds⟩, Or.inl ⟨Nat.zero_le _, agrees⟩⟩
      | lost + 1 =>
          obtain ⟨window, last, back, looks, _, _, changed⟩ := holds
          refine ⟨_, looks.concat e, Or.inl ⟨?_, agrees⟩⟩
          rw [List.append_assoc, List.countP_append]
          omega
  | lost lost seen current _ inserts summed differs =>
      -- the insert is refused since the summary is not the one that was seen any more
      obtain ⟨since, looks, ⟨_, agrees⟩ | more⟩ := holds
      · rw [summed, CaptureSummary.agree, differs] at agrees
        cases agrees
      · exact ⟨since, e, [], looks.concat e, ⟨mine, inserts⟩, by simp, more⟩

end Pursuit.Holds

end

section

variable {ι : Type} [DecidableEq ι] {requests : ι → Request}

/-- At any time of a schedule in which no call fails, a capture stands somewhere between its
attempts, and the history tells how often it was outpaced. -/
theorem Traffic.exists_pursuit {account : Account} (p : Processor) (stores : Stores) (i : ι)
    (captures : (requests i).CapturesFrom account) (schedule : List (Act ι))
    (heard : ∀ a ∈ schedule, a.turn.Heard) :
    ∃ pursuit, (((start requests stores).play p schedule).stage i).Races account pursuit ∧
      pursuit.Holds account i ((start requests stores).history p schedule)
        ((start requests stores).play p schedule).stores := by
  have asks := history_asks (p := p) (start requests stores) (fun _ => trivial)
  induction schedule using List.reverseRecOn with
  | nil => exact ⟨.reading 0, rfl, by simp [Pursuit.Holds, history]⟩
  | append_singleton schedule a inductionHypothesis =>
      obtain ⟨pursuit, races, holds⟩ := inductionHypothesis fun b member =>
        heard b (List.mem_append_left _ member)
      have asksNow := asks (schedule ++ [a])
      rw [history_concat] at asksNow ⊢
      rw [play_concat]
      generalize (start requests stores).play p schedule = s at *
      generalize (start requests stores).history p schedule = past at *
      rcases s.act_heard (p := p) a (heard a (by simp)) with ⟨same, unasked⟩ |
        ⟨j, held, call, next, stage, after, asked⟩ | ⟨j, stage, sent, after, unasked, goes⟩
      · rw [same, unasked]
        exact ⟨pursuit, races, by simpa using holds⟩
      · rw [after, asked]
        by_cases here : j = i
        · subst here
          rw [stage] at races
          obtain ⟨following, step, goesOn⟩ := races s.stores
          refine ⟨following, ?_, Pursuit.Holds.own (e := ⟨j, call, s.stores⟩) holds rfl step⟩
          rw [advance_stage_self]
          exact goesOn
        · have may : (requests j).Asks call := asksNow ⟨j, call, s.stores⟩ (by simp [asked])
          refine ⟨pursuit, ?_, Pursuit.Holds.other (e := ⟨j, call, s.stores⟩) holds may here⟩
          rwa [advance_stage_of_ne _ _ _ _ (Ne.symm here)]
      · rw [after, unasked, Option.toList_none, List.append_nil]
        refine ⟨pursuit, ?_, holds⟩
        by_cases here : j = i
        · subst here
          rw [advance_stage_self]
          rcases goes with ⟨waits, rfl⟩ | rfl | ⟨_, _, _, _, _, _, sends, _⟩
          · rw [waits] at races
            obtain rfl : pursuit = .reading 0 := races
            exact Request.flow_races p captures
          · trivial
          · rw [sends] at races
            exact races.elim
        · rwa [advance_stage_of_ne _ _ _ _ (Ne.symm here)]

/-- A capture that is beaten was outpaced once in each of its attempts; while no other request
changes the summary of its account, from its first look at it on, a capture is not beaten. -/
theorem beaten_captures_are_outpaced (account : Account) (p : Processor) (stores : Stores) (i : ι)
    (captures : (requests i).CapturesFrom account) (schedule : List (Act ι))
    (heard : ∀ a ∈ schedule, a.turn.Heard) (answer : Except PaymentError (requests i).Answer)
    (answered : (((Traffic.start requests stores).play p schedule).stage i).answer? =
      some answer) :
    (LostRace answer → Outpaced account i (Processor.captureRetries + 1)
        ((Traffic.start requests stores).history p schedule)) ∧
      ((∀ since, LooksFirst account i ((Traffic.start requests stores).history p schedule) since →
        ∀ e ∈ since, e.outpaces account i = false) → ¬ LostRace answer) := by
  have outpaced (beaten : LostRace answer) : Outpaced account i (Processor.captureRetries + 1)
      ((Traffic.start requests stores).history p schedule) := by
    obtain ⟨pursuit, races, holds⟩ := Traffic.exists_pursuit p stores i captures schedule heard
    obtain ⟨held, stage⟩ := Stage.answer?_eq_some answered
    rw [stage] at races
    obtain rfl : pursuit = .reading (Processor.captureRetries + 1) := races beaten
    exact holds
  refine ⟨outpaced, fun alone beaten => ?_⟩
  obtain ⟨window, last, back, looks, _, _, changed⟩ := outpaced beaten
  have none : window.countP (Asked.outpaces account i) = 0 := by
    rw [List.countP_eq_zero]
    intro e member
    rw [alone _ looks e (List.mem_append_left _ member)]
    exact Bool.false_ne_true
  omega

end

namespace Sample

def one : Amount := ⟨{ Decimal.zero with coefficient := 1, fits := by decide }, by decide⟩

def contender (k : Fin 4) : Request :=
  .capture "psp" ⟨.ofNat (k + 2), .ofNat 1, one, false, .created, .ofSeconds 0⟩

/-- A capture runs from its start to its answer. -/
def atOnce (k : Fin 4) : List (Act (Fin 4)) := .start k :: List.replicate 6 (.answer k)

/-- The first capture is overtaken by another one in each of its attempts. -/
def contention : List (Act (Fin 4)) :=
  [.start 0, .answer 0, .answer 0, .answer 0] ++ atOnce 1 ++ [.answer 0, .answer 0, .answer 0] ++
    atOnce 2 ++ [.answer 0, .answer 0, .answer 0] ++ atOnce 3 ++ [.answer 0]

def contended : Traffic contender := (Traffic.start contender stores).play processor contention

def contendedAnswer : Option (Except PaymentError Capture) := (contended.stage 0).answer?

end Sample

theorem beaten_captures_are_outpaced_three_times :
    Sample.contendedAnswer =
        some (.error (PaymentError.duplicateValue.within "failed to create capture")) ∧
      Outpaced (.authorization (.ofNat 1)) 0 3
        ((Traffic.start Sample.contender Sample.stores).history Sample.processor
          Sample.contention) := by
  have answered : Sample.contendedAnswer =
      some (.error (PaymentError.duplicateValue.within "failed to create capture")) := by
    decide +kernel
  have heard : ∀ a ∈ Sample.contention, a.turn.Heard := by
    simp [Sample.contention, Sample.atOnce, Act.turn, Turn.Heard]
  have captures : (Sample.contender 0).CapturesFrom (.authorization (.ofNat 1)) := rfl
  have outpaced := beaten_captures_are_outpaced (.authorization (.ofNat 1)) Sample.processor
    Sample.stores 0 captures Sample.contention heard _ answered
  exact ⟨answered, outpaced.1 ⟨_, rfl, rfl⟩⟩

end CardPayments
