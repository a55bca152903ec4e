import CardPayments.Proofs.Replay.Book
import CardPayments.Proofs.Undisturbed.Reverse

/-! # Holdings in the stores

What the stores have of a holding: the row of its authorization or refund, the summary of its
captures and the row of its reversal.  A capture or reversal that nothing disturbs does to the
stores what it does to the holding, and leaves all other holdings as they are. -/
set_option autoImplicit false

namespace CardPayments

namespace Decimal

/-- What is left of a larger number is there, and more than nothing. -/
theorem minus_pos {a b : Decimal} (nonneg : 0 ≤ b.number) (less : b.number < a.number) :
    ∃ left, a.minus b = .ok left ∧ 0 < left.coefficient := by
  have positive : 0 < a.number - b.number := sub_pos.mpr less
  have split : a.number - b.number = a.number + b.neg.number := by
    rw [number_neg]
    ring
  cases difference : a.minus b with
  | ok left =>
      refine ⟨left, rfl, (number_pos_iff left).mp ?_⟩
      have rounds := minus_ok a b left less.le difference
      by_cases exact_ : left.number = a.number - b.number
      · rw [exact_]
        exact positive
      · -- what is rounded has so many digits that it is not rounded to nothing
        have large := rounds.limit_le_number_mul_pow positive.le exact_
          (Nat.lt_succ_self left.scale)
        have limitPos : (0 : ℚ) < limit := by
          exact_mod_cast (by decide : 0 < limit)
        exact pos_of_mul_pos_left (lt_of_lt_of_le limitPos large) (by positivity)
  | error e =>
      have overflows : Overflows (a.number - b.number) := by
        rw [split]
        apply add?_none a b.neg (by rw [← split]; exact positive.le)
        cases found : a.add? b.neg with
        | none => rfl
        | some d => simp [minus, sub, found] at difference
      have fits := (rounds_self a (le_trans nonneg less.le)).not_overflows (by linarith)
      exact absurd (overflows.mono positive.le (by linarith)) fits

end Decimal

/-- One more row that has not failed is counted in the summary of the rows before it. -/
theorem CaptureSummary.ofEntries_counted {entries : List CaptureEntry} {u v : CaptureSummary}
    {entry : CaptureEntry} (summed : ofEntries entries = .ok u) (created : entry.status = .created)
    (counted : u.count ⟨entry.amount, entry.isFinal, .created⟩ = .ok v) :
    ofEntries (entries ++ [entry]) = .ok v := by
  have counts : entry.Counts := by simp [CaptureEntry.Counts, created]
  rw [ofEntries_concat _ _ u summed, if_pos counts, ← counted, ← created]

namespace Holding

def summary (h : Holding) : CaptureSummary := ⟨h.captured, h.standing = .closed⟩

/-- Captures of a holding are decided like captures on its summary. -/
theorem capture_eq (h : Holding) (amount : Amount) (flagged : Bool) :
    h.capture amount flagged =
      match h.summary.verdict h.amount amount flagged, h.captured.plus amount.value with
      | .error e, _ => .error e
      | .ok _, .error e => .error e
      | .ok isFinal, .ok total =>
          if h.standing = .reversed then .error .alreadyReversed
          else .ok { h with
            captured := total
            standing := if isFinal then .closed else .running } := by
  rw [capture, CaptureSummary.verdict, CaptureSummary.checkCapturable, CaptureSummary.becomesFinal,
    summary]
  by_cases closed : h.standing = .closed
  · simp [closed]
  · simp only [closed, if_false, decide_false]
    cases sum : h.captured.plus amount.value with
    | error e => rfl
    | ok total =>
        cases above : h.amount.value.below total with
        | true => simp [above]
        | false => cases flagged <;> simp [above]

theorem verdict_total {h : Holding} {amount : Amount} {flagged isFinal : Bool}
    (passes : h.summary.verdict h.amount amount flagged = .ok isFinal) :
    ∃ total, h.captured.plus amount.value = .ok total ∧ h.standing ≠ .closed ∧
      (isFinal = false → total.number < h.amount.value.number) := by
  obtain ⟨checked, becomes⟩ := (CaptureSummary.verdict_ok _ _ _ _ _).mp passes
  obtain ⟨unclosed, u, _, sum, le⟩ :=
    h.summary.checkCapturable_ok h.amount ⟨amount, flagged, .created⟩ checked
  refine ⟨u.total, sum, of_decide_eq_false unclosed, fun isOpen => ?_⟩
  rw [isOpen] at becomes
  exact lt_of_le_of_ne le (CaptureSummary.becomesFinal_ok _ _ _ flagged u.total sum becomes)

/-- A capture is counted in the summary, and closes the holding unless something is left. -/
theorem capture_ok {h after : Holding} {amount : Amount} {flagged : Bool}
    (captured : h.capture amount flagged = .ok after) :
    h.summary.count ⟨amount, after.standing = .closed, .created⟩ = .ok after.summary ∧
      h.standing ≠ .reversed ∧ after.standing ≠ .reversed ∧ after.amount = h.amount ∧
      (after.standing = .running → after.captured.number < h.amount.value.number) := by
  rw [capture_eq] at captured
  cases passes : h.summary.verdict h.amount amount flagged with
  | error e => simp [passes] at captured
  | ok isFinal =>
      obtain ⟨total, sum, unclosed, below⟩ := verdict_total passes
      simp only [passes, sum] at captured
      by_cases isReversed : h.standing = .reversed
      · simp [isReversed] at captured
      · simp only [isReversed, if_false, Except.ok.injEq] at captured
        subst captured
        have sameSum : h.summary.total.plus amount.value = .ok total := sum
        have isOpen : h.summary.hasFinal = false := decide_eq_false unclosed
        refine ⟨?_, isReversed, ?_, rfl, fun runs => ?_⟩
        · simp only [CaptureSummary.count, sameSum, isOpen, Bool.false_or]
          rfl
        · cases isFinal <;> simp
        · cases isFinal with
          | true => simp at runs
          | false => exact below rfl

theorem reverse_ok {h after : Holding} {left : Decimal} (reverses : h.reverse = .ok (left, after)) :
    h.standing = .running ∧ after = { h with standing := .reversed } := by
  rw [reverse] at reverses
  split at reverses
  · cases reverses
  · cases reverses
  · next running =>
      split at reverses
      · cases reverses
      · cases reverses
        exact ⟨running, rfl⟩

end Holding

namespace ReversalStore

theorem pending_of_reversed {store : ReversalStore} {id : Uuid}
    (reversed : store.reversed id = true) : store.pending id = true := by
  rw [ReversalStore.reversed, List.any_eq_true] at reversed
  obtain ⟨row, member, succeeded⟩ := reversed
  rw [pending, List.any_eq_true]
  refine ⟨row, member, ?_⟩
  rw [beq_iff_eq] at succeeded
  rw [succeeded]
  rfl

end ReversalStore

/-! ## Holdings of authorizations -/

namespace Stores

structure Holds (s : Stores) (psp : String) (id : Uuid) (h : Holding) : Prop where
  row : ∃ row, s.authorizations.row? id = some row ∧ row.psp = psp ∧ row.status = .approved ∧
    row.amount = h.amount ∧ s.vault.Opens row.merchant row.card
  summed : s.captures.summary id = .ok h.summary
  leaves : h.standing = .running → h.captured.number < h.amount.value.number
  reversed : h.standing = .reversed → s.reversals.reversed id = true
  unreversed : h.standing ≠ .reversed → s.reversals.ofAuthorization id = []

def Keeps (s : Stores) (psp : String) (id : Uuid) : Entry → Prop
  | .riskDeclined => ∃ row, s.authorizations.row? id = some row ∧ row.psp = psp ∧
      row.status = .riskDeclined
  | .held h => s.Holds psp id h

/-- Nothing about the authorization is changed. -/
structure Stays (s t : Stores) (id : Uuid) : Prop where
  row : ∀ row, s.authorizations.row? id = some row → t.authorizations.row? id = some row
  vault : ∀ merchant card, s.vault.Opens merchant card → t.vault.Opens merchant card
  captures : t.captures.ofAuthorization id = s.captures.ofAuthorization id
  reversals : t.reversals.ofAuthorization id = s.reversals.ofAuthorization id

theorem Keeps.stays {s t : Stores} {psp : String} {id : Uuid} {entry : Entry}
    (keeps : s.Keeps psp id entry) (stays : s.Stays t id) : t.Keeps psp id entry := by
  cases entry with
  | riskDeclined =>
      obtain ⟨row, stored, owned⟩ := keeps
      exact ⟨row, stays.row row stored, owned⟩
  | held h =>
      obtain ⟨⟨row, stored, owner, approved, amount, opens⟩, summed, leaves, reversed,
        unreversed⟩ := keeps
      refine ⟨⟨row, stays.row row stored, owner, approved, amount, stays.vault _ _ opens⟩, ?_,
        leaves, ?_, ?_⟩
      · rw [CaptureStore.summary, stays.captures]
        exact summed
      · rw [ReversalStore.reversed, stays.reversals]
        exact reversed
      · rw [stays.reversals]
        exact unreversed

variable {s : Stores} {psp : String} {c : Capture} {h : Holding}

theorem capture_riskDeclined (p : Processor)
    (keeps : s.Keeps psp c.authorizationId .riskDeclined) :
    s.capture p psp c =
      (.error (PaymentError.authorizationDeclined.within "invalid capture"), s) := by
  obtain ⟨row, stored, rfl, declined⟩ := keeps
  rw [capture_row p stored, if_pos (Or.inr declined)]

/-- A capture that nothing disturbs is admitted like a capture of the holding. -/
theorem Holds.capture_eq (holds : s.Holds psp c.authorizationId h) (p : Processor) :
    ∃ a, s.capture p psp c =
      match h.capture c.amount c.isFinal with
      | .error e => (.error (e.within "invalid capture"), s)
      | .ok after => (.ok { c with isFinal := after.standing = .closed },
          (s.withCapture { c with isFinal := after.standing = .closed }).announce p a
            { c with isFinal := after.standing = .closed }) := by
  obtain ⟨⟨row, stored, rfl, approved, amount, _⟩, summed, _, reversed, unreversed⟩ := holds
  have named : (s.authorizations.shown row).id = c.authorizationId :=
    TransactionStore.id_of_row? stored
  have accepted : ¬ (row.status = .declined ∨ row.status = .riskDeclined) := by
    simp [approved]
  have here : s.captures.summary (s.authorizations.shown row).id = .ok h.summary := by
    rw [named, summed]
  have pending : s.reversals.pending (s.authorizations.shown row).id =
      decide (h.standing = .reversed) := by
    rw [named]
    by_cases isReversed : h.standing = .reversed
    · rw [ReversalStore.pending_of_reversed (reversed isReversed), decide_eq_true isReversed]
    · rw [ReversalStore.pending_of_none (unreversed isReversed), decide_eq_false isReversed]
  refine ⟨s.authorizations.shown row, ?_⟩
  have limit : (s.authorizations.shown row).amount = h.amount := amount
  rw [capture_row p stored, if_neg accepted, admits_within s _ c h.summary here, h.capture_eq,
    limit, pending]
  cases passes : h.summary.verdict h.amount c.amount c.isFinal with
  | error e => rfl
  | ok isFinal =>
      obtain ⟨total, sum, unclosed, _⟩ := Holding.verdict_total passes
      by_cases isReversed : h.standing = .reversed
      · simp [isReversed, sum, settle, Processor.reversedError]
      · cases isFinal <;> simp [isReversed, sum, settle]

/-- The row of a capture of another authorization is of no concern. -/
theorem stays_withCapture (s : Stores) (p : Processor) (a : Authorization) (c : Capture) {id : Uuid}
    (other : c.authorizationId ≠ id) : s.Stays ((s.withCapture c).announce p a c) id where
  row _ stored := stored
  vault _ _ opens := opens
  captures := by
    rw [ofAuthorization_withCapture, if_neg other, List.append_nil]
  reversals := rfl

theorem Holds.after_capture {after : Holding} (holds : s.Holds psp c.authorizationId h)
    (p : Processor) (a : Authorization) (created : c.status = .created)
    (captured : h.capture c.amount c.isFinal = .ok after) :
    ((s.withCapture { c with isFinal := after.standing = .closed }).announce p a
      { c with isFinal := after.standing = .closed }).Holds psp c.authorizationId after := by
  obtain ⟨⟨row, stored, owner, approved, amount, opens⟩, summed, _, _, unreversed⟩ := holds
  obtain ⟨counted, free, freeAfter, sameAmount, leaves⟩ := Holding.capture_ok captured
  refine ⟨⟨row, stored, owner, approved, sameAmount ▸ amount, opens⟩, ?_, sameAmount ▸ leaves,
    fun isReversed => absurd isReversed freeAfter, fun _ => unreversed free⟩
  rw [CaptureStore.summary, ofAuthorization_withCapture, if_pos rfl, CaptureSummary.ofCaptures,
    List.map_append, List.map_singleton]
  exact CaptureSummary.ofEntries_counted summed created counted

def withReversal (s : Stores) (r : Reversal) : Stores :=
  { s with reversals := ⟨s.reversals.rows ++ [r.row]⟩ }

@[simp] theorem ofAuthorization_withReversal (s : Stores) (r : Reversal) (id : Uuid) :
    (s.withReversal r).reversals.ofAuthorization id =
      s.reversals.ofAuthorization id ++ if r.authorizationId = id then [r.row] else [] := by
  by_cases same : r.authorizationId = id <;>
    simp [withReversal, ReversalStore.ofAuthorization, Reversal.row, same]

theorem stays_withReversal (s : Stores) (r : Reversal) {id : Uuid}
    (other : r.authorizationId ≠ id) : s.Stays (s.withReversal r) id where
  row _ stored := stored
  vault _ _ opens := opens
  captures := rfl
  reversals := by
    rw [ofAuthorization_withReversal, if_neg other, List.append_nil]

theorem Holds.after_reversal {id : Uuid} {r : Reversal} {left : Decimal} {after : Holding}
    (holds : s.Holds psp id h) (account : r.authorizationId = id)
    (succeeded : r.status = .succeeded) (reverses : h.reverse = .ok (left, after)) :
    (s.withReversal r).Holds psp id after := by
  obtain ⟨running, rfl⟩ := Holding.reverse_ok reverses
  obtain ⟨row, summed, _, _, _⟩ := holds
  have isReversed : (s.withReversal r).reversals.reversed id = true := by
    rw [ReversalStore.reversed, ofAuthorization_withReversal, if_pos account, List.any_append]
    simp [Reversal.row, succeeded]
  refine ⟨row, ?_, by rintro ⟨⟩, fun _ => isReversed, fun unreversed => ?_⟩
  · have sameSummary : h.summary = Holding.summary { h with standing := .reversed } := by
      rw [Holding.summary, running]
      rfl
    exact sameSummary ▸ summed
  · exact absurd rfl unreversed

end Stores

section

variable {s : System} {p : Processor} {stan : UInt64} {traces : TraceNumbers} {id : Uuid}
  {psp : String} {h : Holding}

/-- A reversal that nothing disturbs is answered like a reversal of the holding. -/
theorem Stores.Holds.reverse_eq (holds : s.stores.Holds psp id h) (approves : s.Approves p)
    (taken : s.traces.next = (.ok stan, traces)) (reversalId : Uuid) (createdAt : Instant) :
    match h.reverse with
    | .error e => ∃ x, (p.reverse psp (.ofId reversalId id createdAt)).run s = ((x, .error e), s)
    | .ok (left, _) => ∃ (x : Reversal) (amount : Amount), x.authorizationId = id ∧
        x.status = .succeeded ∧ x.amount = some amount ∧ amount.value = left ∧
        x.response = some (.approval stan traces.today) ∧
        (p.reverse psp (.ofId reversalId id createdAt)).run s = ((x, .ok ()),
          { s with stores := s.stores.withReversal x, traces := traces }) := by
  obtain ⟨⟨row, stored, rfl, approved, limit, opens⟩, summed, leaves, reversed, unreversed⟩ := holds
  obtain ⟨a, rfl, amount, clear, prepares⟩ :=
    p.run_reverse_approved reversalId createdAt stored approved opens
  rw [Holding.reverse]
  cases standing : h.standing with
  | reversed =>
      rw [prepares, p.run_prepareReversal_reversed (reversed standing)]
      exact ⟨_, rfl⟩
  | closed =>
      have none := unreversed (by simp [standing])
      have final : h.summary.hasFinal = true := decide_eq_true standing
      rw [prepares, p.run_prepareReversal_unreversed (ReversalStore.reversed_of_none none) summed,
        if_pos final]
      exact ⟨_, rfl⟩
  | running =>
      have none := unreversed (by simp [standing])
      have isOpen : ¬ h.summary.hasFinal = true := by simp [Holding.summary, standing]
      have nonneg : 0 ≤ h.captured.number := CaptureSummary.ofEntries_nonneg _ _ summed
      obtain ⟨left, difference, positive⟩ := Decimal.minus_pos nonneg (leaves standing)
      have isLeft : h.summary.reversalAmount a.amount = .ok ⟨left, positive⟩ := by
        rw [CaptureSummary.reversalAmount_eq_ok, CaptureSummary.remaining, amount, limit]
        exact difference
      simp only [difference]
      refine ⟨((Reversal.ofId reversalId a.id createdAt).prepared a ⟨left, positive⟩).approved stan
        traces.today, ⟨left, positive⟩, rfl, rfl, rfl, rfl, rfl, ?_⟩
      rw [prepares, p.run_prepareReversal_unreversed (ReversalStore.reversed_of_none none) summed,
        if_neg isOpen]
      exact p.run_storeReversal approves taken clear rfl summed isLeft none

theorem Stores.reverse_riskDeclined (keeps : s.stores.Keeps psp id .riskDeclined)
    (reversalId : Uuid) (createdAt : Instant) :
    (p.reverse psp (.ofId reversalId id createdAt)).run s = ((.ofId reversalId id createdAt,
      .error (PaymentError.authorizationNotApproved.within "invalid reversal")), s) := by
  obtain ⟨row, stored, rfl, declined⟩ := keeps
  rw [p.run_reverse stored, if_pos (by simp [declined])]

end

/-! ## Holdings of refunds -/

namespace Stores

structure HoldsRefund (s : Stores) (psp : String) (id : Uuid) (h : Holding) : Prop where
  row : ∃ row, s.refunds.row? id = some row ∧ row.psp = psp ∧ row.status = .approved ∧
    row.amount = h.amount
  summed : s.captures.refundSummary id = .ok h.summary
  unreversed : h.standing ≠ .reversed

theorem HoldsRefund.stays {s t : Stores} {psp : String} {id : Uuid} {h : Holding}
    (holds : s.HoldsRefund psp id h)
    (row : ∀ row, s.refunds.row? id = some row → t.refunds.row? id = some row)
    (captures : t.captures.ofRefund id = s.captures.ofRefund id) : t.HoldsRefund psp id h := by
  obtain ⟨⟨found, stored, owned⟩, summed, unreversed⟩ := holds
  refine ⟨⟨found, row found stored, owned⟩, ?_, unreversed⟩
  rw [CaptureStore.refundSummary, captures]
  exact summed

@[simp] theorem ofRefund_withRefundCapture (s : Stores) (p : Processor) (r : Refund)
    (c : RefundCapture) (id : Uuid) :
    ((s.withRefundCapture c).announceRefund p r c).captures.ofRefund id =
      s.captures.ofRefund id ++ if c.refundId = id then [c] else [] := by
  by_cases same : c.refundId = id <;>
    simp [withRefundCapture, announceRefund, CaptureStore.ofRefund, same]

/-- The row of a capture of another refund is of no concern. -/
theorem HoldsRefund.stays_withRefundCapture {s : Stores} {psp : String} {id : Uuid} {h : Holding}
    (holds : s.HoldsRefund psp id h) (p : Processor) (r : Refund) {c : RefundCapture}
    (other : c.refundId ≠ id) :
    ((s.withRefundCapture c).announceRefund p r c).HoldsRefund psp id h :=
  holds.stays (fun _ stored => stored) <| by
    rw [ofRefund_withRefundCapture, if_neg other, List.append_nil]

variable {s : Stores} {psp : String} {c : RefundCapture} {h : Holding}

/-- A capture of a refund that nothing disturbs is admitted like a capture of the holding. -/
theorem HoldsRefund.capture_eq (holds : s.HoldsRefund psp c.refundId h) (p : Processor) :
    ∃ r, s.captureRefund p psp c =
      match h.capture c.amount c.isFinal with
      | .error e => (.error (e.within "invalid refund capture"), s)
      | .ok after => (.ok { c with isFinal := after.standing = .closed },
          (s.withRefundCapture { c with isFinal := after.standing = .closed }).announceRefund p r
            { c with isFinal := after.standing = .closed }) := by
  obtain ⟨⟨row, stored, rfl, approved, amount⟩, summed, unreversed⟩ := holds
  have named : (s.refunds.shown row).id = c.refundId := TransactionStore.id_of_row? stored
  have accepted : ¬ row.status = .declined := by simp [approved]
  have limit : (s.refunds.shown row).amount = h.amount := amount
  refine ⟨s.refunds.shown row, ?_⟩
  simp only [captureRefund_row p stored, if_neg accepted, admitsRefund, named, summed, limit,
    h.capture_eq]
  cases passes : h.summary.verdict h.amount c.amount c.isFinal with
  | error e => rfl
  | ok isFinal =>
      obtain ⟨total, sum, _⟩ := Holding.verdict_total passes
      cases isFinal <;> simp [unreversed, sum, settleRefund]

theorem HoldsRefund.after_capture {after : Holding} (holds : s.HoldsRefund psp c.refundId h)
    (p : Processor) (r : Refund) (created : c.status = .created)
    (captured : h.capture c.amount c.isFinal = .ok after) :
    ((s.withRefundCapture { c with isFinal := after.standing = .closed }).announceRefund p r
      { c with isFinal := after.standing = .closed }).HoldsRefund psp c.refundId after := by
  obtain ⟨⟨row, stored, owner, approved, amount⟩, summed, _⟩ := holds
  obtain ⟨counted, _, freeAfter, sameAmount, _⟩ := Holding.capture_ok captured
  refine ⟨⟨row, stored, owner, approved, sameAmount ▸ amount⟩, ?_, freeAfter⟩
  rw [CaptureStore.refundSummary, ofRefund_withRefundCapture, if_pos rfl,
    CaptureSummary.ofRefundCaptures, List.map_append, List.map_singleton]
  exact CaptureSummary.ofEntries_counted summed created counted

end Stores
end CardPayments
