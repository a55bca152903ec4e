import CardPayments.Proofs.Settlement.Phase

/-! # Requests go through the phases

The flows of captures and reversals obey the protocol of a settlement, one piece of a flow after
the other from its last one to its first. -/
set_option autoImplicit false

namespace CardPayments.Settlement

variable {p : Processor} {q : Request} {id : Uuid} {authorized : Amount → Prop}

theorem finishes_error {α : Type} {phase : Phase} {e : PaymentError}
    (settled : phase.balance? = none)
    (other : ∀ cause : PaymentError, e ≠ cause.within "failed to reverse with the cardscheme") :
    Finishes q phase (.error e : Except PaymentError α) where
  settled := settled
  accepted _ _ _ isOk := nomatch isOk
  failed cause isCause := absurd (Except.error.inj isCause) (other cause)

theorem within_ne (e cause : PaymentError) (step other : String) (differ : step ≠ other) :
    e.within step ≠ cause.within other :=
  fun same => differ (PaymentError.context.inj same).1

theorem finishes_fail {α : Type} {phase : Phase} {e : PaymentError} {step : String}
    (settled : phase.balance? = none) (differ : step ≠ "failed to reverse with the cardscheme") :
    Finishes q phase (.error (e.within step) : Except PaymentError α) :=
  finishes_error settled fun cause => within_ne e cause step _ differ

theorem finishes_stuck {α : Type} {r : Reversal} {e : PaymentError} :
    Finishes q (.stuck r) (.error e : Except PaymentError α) where
  settled := rfl
  accepted _ _ _ isOk := nomatch isOk
  failed _ _ := ⟨r, rfl⟩

theorem finishes_over {α : Type} {phase : Phase} {value : α} (settled : phase.balance? = none)
    (none : q.capture? = none) : Finishes q phase (.ok value) where
  settled := settled
  accepted c isCapture := by simp [none] at isCapture
  failed _ isError := nomatch isError

theorem read_obeys {σ α : Type} {held : σ} {step : String} {call : Call}
    {next : call.Value → Flow σ α} (reads : call.IsRead)
    (differ : step ≠ "failed to reverse with the cardscheme")
    (obeys : ∀ value, Expects id authorized call value →
      (next value).Obeys (protocol q id authorized σ α) .idle) :
    (Flow.require held step call next).Obeys (protocol q id authorized σ α) .idle := by
  apply Flow.obeys_require
  · intro value expected
    exact ⟨.idle, .read call _ reads, obeys value expected⟩
  · intro e
    exact ⟨.idle, .read call _ reads, finishes_fail rfl differ⟩

/-! ## Captures -/

section

variable {a : Authorization} {c : Capture}

theorem publishCapture_obeys :
    (p.publishCapture a c).Obeys (protocol q id authorized Unit Capture) (.accepted c) := by
  apply Flow.obeys_require
  · intro value _
    exact ⟨.accepted c, .publish c _ _ _, rfl, fun _ _ _ _ => ⟨c, rfl⟩,
      fun _ error => nomatch error⟩
  · intro e
    exact ⟨.accepted c, .publish c _ _ _, finishes_fail rfl (by decide)⟩

theorem withdrawCapture_obeys {reason : PaymentError} (of : c.authorizationId = id)
    (other : ∀ cause : PaymentError,
      reason ≠ cause.within "failed to reverse with the cardscheme") :
    (Processor.withdrawCapture c reason).Obeys (protocol q id authorized Unit Capture)
      (.withdrawn c) := by
  apply Flow.obeys_require
  · intro value _
    exact ⟨.over, .withdraw c _ of, finishes_error rfl other⟩
  · intro e
    exact ⟨.over, .withdraw c _ of, finishes_fail rfl (by decide)⟩

theorem recheckCapture_obeys (account : a.id = id) (of : c.authorizationId = id) :
    (p.recheckCapture a c).Obeys (protocol q id authorized Unit Capture) (.captured c) := by
  subst account
  constructor
  · intro reversed _
    cases (reversed : Bool) with
    | false => exact ⟨.accepted c, .keep c, publishCapture_obeys⟩
    | true =>
        refine ⟨.withdrawn c, .regret c _, withdrawCapture_obeys of fun cause => ?_⟩
        exact within_ne .alreadyReversed cause _ _ (by decide)
  · intro e
    refine ⟨.withdrawn c, .regret c _, withdrawCapture_obeys of fun cause => ?_⟩
    exact within_ne e cause _ _ (by decide)

theorem insertCapture_obeys {seen : CaptureSummary} {again : PaymentError → Flow Unit Capture}
    (account : a.id = id) (checked : Checked q id authorized c seen)
    (retries : ∀ e, (again e).Obeys (protocol q id authorized Unit Capture) .idle) :
    (p.insertCapture a c seen again).Obeys (protocol q id authorized Unit Capture) .idle := by
  constructor
  · intro value _
    exact ⟨.captured c, .capture c seen checked, recheckCapture_obeys account checked.account⟩
  · intro e
    refine ⟨.idle, .lost c seen e checked, ?_⟩
    by_cases lost : e.root = .duplicateValue
    · simpa only [if_pos lost] using retries e
    · simp only [if_neg lost]
      exact finishes_fail rfl (by decide)

theorem attemptCapture_obeys {again : PaymentError → Flow Unit Capture} (account : a.id = id)
    (isAuthorized : authorized a.amount) (own : q.capture? = some c) (of : c.authorizationId = id)
    (retries : ∀ e, (again e).Obeys (protocol q id authorized Unit Capture) .idle) :
    (p.attemptCapture a c again).Obeys (protocol q id authorized Unit Capture) .idle := by
  refine read_obeys trivial (by decide) fun summary _ => ?_
  split
  · next e _ => exact finishes_fail rfl (by decide)
  · next capturable =>
      split
      · next e _ => exact finishes_fail rfl (by decide)
      · next isFinal becomes =>
          refine read_obeys trivial (by decide) fun reversed _ => ?_
          have checked : Checked q id authorized { c with isFinal := isFinal } summary :=
            ⟨⟨c, own, rfl⟩, of, a.amount, c.isFinal, isAuthorized, capturable, becomes⟩
          cases (reversed : Bool) with
          | false => exact insertCapture_obeys account checked retries
          | true =>
              exact finishes_fail rfl (by decide)

theorem attemptsCapture_obeys (account : a.id = id) (isAuthorized : authorized a.amount)
    (own : q.capture? = some c) (of : c.authorizationId = id) (retries : Nat) :
    (p.attemptsCapture a c retries).Obeys (protocol q id authorized Unit Capture) .idle := by
  induction retries with
  | zero =>
      refine attemptCapture_obeys account isAuthorized own of fun e => ?_
      exact finishes_fail rfl (by decide)
  | succ retries ih => exact attemptCapture_obeys account isAuthorized own of fun _ => ih

theorem capture_obeys {psp : String} (own : q.capture? = some c) (of : c.authorizationId = id) :
    (p.capture psp c).Obeys (protocol q id authorized Unit Capture) .idle := by
  refine read_obeys trivial (by decide) fun stored expected => ?_
  obtain ⟨account, isAuthorized⟩ := expected of
  split
  · exact finishes_fail rfl (by decide)
  · exact attemptsCapture_obeys account isAuthorized own of _

end

/-! ## Reversals -/

section

variable {a : Authorization} {r : Reversal}

theorem concludeReversal_obeys (none : q.capture? = none) (of : r.authorizationId = id) :
    (Processor.concludeReversal r).Obeys (protocol q id authorized Reversal Unit)
      (.answered r) := by
  apply Flow.obeys_require
  · intro value _
    exact ⟨.over, .conclude r _ of, finishes_over rfl none⟩
  · intro e
    exact ⟨.over, .conclude r _ of, finishes_fail rfl (by decide)⟩

theorem sendReversal_obeys (none : q.capture? = none) (of : r.authorizationId = id) :
    ∃ after, (after = .cleared r ∨ after = .stuck r) ∧
      (p.sendReversal r).Obeys (protocol q id authorized Reversal Unit) after := by
  rw [Processor.sendReversal, Processor.dispatchReversal]
  split
  · exact ⟨.stuck r, Or.inr rfl, finishes_stuck⟩
  · next scheme _ =>
      rw [Processor.dispatch]
      split
      · refine ⟨.cleared r, Or.inl rfl, fun attached outcome => ?_⟩
        cases outcome with
        | error e => exact ⟨.stuck r, .failed r attached _, finishes_stuck⟩
        | ok value =>
            cases form : Processor.checkFormat attached.response with
            | error e =>
                refine ⟨.stuck r, .failed r attached _, ?_⟩
                simp only [form]
                exact finishes_stuck
            | ok value =>
                refine ⟨.answered (r.attach attached), .answered r attached form, ?_⟩
                simp only [form]
                exact concludeReversal_obeys none of
      · exact ⟨.stuck r, Or.inr rfl, finishes_stuck⟩

theorem withdrawReversal_obeys (of : r.authorizationId = id) :
    (Processor.withdrawReversal r).Obeys (protocol q id authorized Reversal Unit)
      (.withdrawing r) := by
  apply Flow.obeys_require
  · intro value _
    exact ⟨.over, .retract r _ of, finishes_fail rfl (by decide)⟩
  · intro e
    exact ⟨.over, .retract r _ of, finishes_fail rfl (by decide)⟩

theorem recheckReversal_obeys {seen : CaptureSummary} {amount value : Amount}
    (none : q.capture? = none) (of : r.authorizationId = id)
    (isAuthorized : Authorizes q authorized amount)
    (left : seen.remaining amount = .ok value.value) (isAmount : r.amount = some value) :
    (p.recheckReversal id seen r).Obeys (protocol q id authorized Reversal Unit)
      (.reversing r) := by
  apply Flow.obeys_require
  · intro current _
    by_cases same : CaptureSummary.same current seen = true
    · obtain ⟨after, which, obeys⟩ :=
        sendReversal_obeys none of
      rw [if_pos same]
      refine ⟨after, ?_, obeys⟩
      rcases which with rfl | rfl
      · exact .clear r current ⟨seen, amount, value, isAuthorized, same, left, isAmount⟩
      · exact .abandon r _
    · rw [if_neg same]
      exact ⟨.withdrawing r, .back r _, withdrawReversal_obeys of⟩
  · intro e
    exact ⟨.stuck r, .abandon r _, finishes_stuck⟩

theorem reversalAmount_error_ne {summary : CaptureSummary} {amount : Amount} {e : PaymentError}
    (cause : PaymentError) (step : String) (failed : summary.reversalAmount amount = .error e) :
    e ≠ cause.within step := by
  rw [CaptureSummary.reversalAmount, CaptureSummary.remaining, Decimal.minus] at failed
  split at failed
  · next unpaid =>
      split at unpaid <;> cases unpaid
      cases failed
      intro same
      cases same
  · rw [Amount.ofDecimal] at failed
    split at failed <;> cases failed
    intro same
    cases same

theorem storeReversal_obeys {summary : CaptureSummary} (own : q.reversalId? = some r.id)
    (none : q.capture? = none) (of : r.authorizationId = id) (account : a.id = id)
    (isAuthorized : Authorizes q authorized a.amount) :
    (p.storeReversal a summary r).Obeys (protocol q id authorized Reversal Unit) .idle := by
  rw [Processor.storeReversal]
  split
  · next amount isLeft =>
      have prepared : Prepared q id { r with
          amount := some amount, authorization := some a, status := .new } :=
        ⟨own, of, rfl, rfl⟩
      have remains := CaptureSummary.reversalAmount_eq_ok.mp isLeft
      apply Flow.obeys_require
      · intro value _
        refine ⟨_, .reverse _ prepared, ?_⟩
        rw [account]
        exact recheckReversal_obeys none of isAuthorized remains rfl
      · intro e
        exact ⟨.over, .refused _ e prepared, finishes_fail rfl (by decide)⟩
  · next e failed =>
      split
      · exact finishes_error rfl fun cause => reversalAmount_error_ne cause _ failed
      · exact finishes_fail rfl (by decide)

theorem prepareReversal_obeys (own : q.reversalId? = some r.id) (none : q.capture? = none)
    (of : r.authorizationId = id) (account : a.id = id)
    (isAuthorized : Authorizes q authorized a.amount) :
    (p.prepareReversal a r).Obeys (protocol q id authorized Reversal Unit) .idle := by
  refine read_obeys trivial (by decide) fun reversed _ => ?_
  cases (reversed : Bool) with
  | true => exact finishes_fail rfl (by decide)
  | false =>
      refine read_obeys trivial (by decide) fun isFinal _ => ?_
      cases (isFinal : Bool) with
      | true => exact finishes_fail rfl (by decide)
      | false =>
          refine read_obeys trivial (by decide) fun summary _ => ?_
          exact storeReversal_obeys own none of account isAuthorized

theorem reverseAuthorization_obeys {psp : String} (own : q.reversalId? = some r.id)
    (none : q.capture? = none) (of : r.authorizationId = id)
    (isAuthorized : a.id = id → Authorizes q authorized a.amount) :
    (p.reverseAuthorization psp r a).Obeys (protocol q id authorized Reversal Unit) .idle := by
  rw [Processor.reverseAuthorization]
  split
  · exact finishes_fail rfl (by decide)
  · split
    · exact finishes_error rfl fun cause same => nomatch same
    · next same =>
        have account : a.id = id := (not_not.mp same).trans of
        split
        · exact finishes_fail rfl (by decide)
        · refine read_obeys trivial (by decide) fun card _ => ?_
          exact prepareReversal_obeys own none of account (isAuthorized account)

theorem reverse_obeys {psp : String} (own : q.reversal? = some r) (none : q.capture? = none)
    (of : r.authorizationId = id) :
    (p.reverse psp r).Obeys (protocol q id authorized Reversal Unit) .idle := by
  have named : q.reversalId? = some r.id := by
    rw [Request.reversalId?, own]
    rfl
  rw [Processor.reverse]
  split
  · next a carried =>
      exact reverseAuthorization_obeys named none of fun _ => Or.inr ⟨r, a, own, carried, rfl⟩
  · refine read_obeys trivial (by decide) fun stored expected => ?_
    exact reverseAuthorization_obeys named none of fun _ => Or.inl (expected of).2

end

theorem flow_obeys (p : Processor) (q : Request) (on : q.On id) :
    (q.flow p).Obeys (protocol q id authorized q.Held q.Answer) .idle := by
  cases q with
  | capture psp c => exact capture_obeys rfl on
  | reverse psp r => exact reverse_obeys rfl rfl on
  | authorize a => exact on.elim
  | refund r => exact on.elim
  | captureRefund psp c => exact on.elim

end CardPayments.Settlement
