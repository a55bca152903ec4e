import CardPayments.Proofs.Overflow.Reachable
import CardPayments.Proofs.Settlement.Rounding

/-! # Captures that overflow

A capture is added to the captured total before it is compared with the amount of the transaction,
and the amount that is asked for has no bound.  In a reachable state the sum is the only one that
can overflow, and it does so from half a unit below the limit of decimals on.  Below, a capture that
takes the exact total above the amount is refused, unless its digits are rounded away. -/
set_option autoImplicit false

namespace CardPayments

open Intake

namespace Decimal

/-- A tie goes to the even neighbour, and the limit is even. -/
theorem overflows_iff (q : ℚ) (nonneg : 0 ≤ q) : Overflows q ↔ (limit : ℚ) ≤ q + 1 / 2 := by
  obtain ⟨_, lower⟩ := nearest_bounds q nonneg
  constructor
  · intro overflows
    have large : (limit : ℚ) ≤ nearest q := by exact_mod_cast overflows
    linarith
  · intro large
    have tie : roundHalfEven (2 * limit - 1) 2 = limit := by decide +kernel
    have isTie : roundHalfEven (2 * limit - 1) 2 = nearest (limit - 1 / 2) := by
      refine roundHalfEven_eq_nearest _ _ two_pos _ ?_
      have positive : 1 ≤ 2 * limit := by decide
      rw [Nat.cast_sub positive]
      push_cast
      ring
    have below : (0 : ℚ) ≤ limit - 1 / 2 := by
      have : (1 : ℚ) ≤ limit := by exact_mod_cast (by decide : 1 ≤ limit)
      linarith
    calc limit = nearest (limit - 1 / 2) := tie.symm.trans isTie
      _ ≤ nearest q := nearest_le _ _ below (by linarith)

/-- A sum is rounded, or it overflows. -/
theorem plus_cases (a b : Decimal) (nonneg : 0 ≤ a.number + b.number) :
    (∃ sum, a.plus b = .ok sum ∧ Rounds (a.number + b.number) sum ∧
      ¬ Overflows (a.number + b.number)) ∨
    a.plus b = .error (.internal (.overflow .addition)) ∧ Overflows (a.number + b.number) := by
  cases result : a.plus b with
  | ok sum =>
      have rounds := plus_ok a b sum nonneg result
      exact Or.inl ⟨sum, rfl, rounds, rounds.not_overflows nonneg⟩
  | error e => exact Or.inr ⟨congrArg _ (plus_error_eq result), plus_error a b e nonneg result⟩

end Decimal

/-! ## Answers that are not given -/

/-- An addition or subtraction has overflowed, and there is no answer. -/
def Aborts {α : Type} (answer : Except PaymentError α) : Prop :=
  ∃ e, answer = .error e ∧ e.overflow? ≠ none

section

variable {α : Type}

@[simp] theorem not_aborts_ok (value : α) : ¬ Aborts (.ok value : Except PaymentError α) := by
  rintro ⟨e, ⟨⟩, _⟩

theorem PaymentError.overflow?_ne_none_iff (e : PaymentError) :
    e.overflow? ≠ none ↔ ∃ operation, e.root = .internal (.overflow operation) := by
  rw [overflow?.eq_def]
  split
  · next operation root => exact iff_of_true (Option.some_ne_none _) ⟨operation, root⟩
  · next other => exact iff_of_false (absurd rfl) fun ⟨operation, root⟩ => other operation root

@[simp] theorem aborts_error (e : PaymentError) : Aborts (.error e : Except PaymentError α) ↔
    ∃ operation, e.root = .internal (.overflow operation) := by
  rw [← e.overflow?_ne_none_iff]
  constructor
  · rintro ⟨_, ⟨⟩, overflows⟩
    exact overflows
  · exact fun overflows => ⟨e, rfl, overflows⟩

end

namespace CaptureSummary

variable {s : CaptureSummary} {limit requested : Amount} {flagged : Bool}

/-- The exact total after a capture is half a unit below the limit of decimals, or above. -/
def TooLarge (s : CaptureSummary) (requested : Amount) : Prop :=
  (Decimal.limit : ℚ) ≤ s.total.number + requested.value.number + 1 / 2

theorem plus_cases (nonneg : 0 ≤ s.total.number) (requested : Amount) :
    (∃ sum, s.total.plus requested.value = .ok sum ∧
      Decimal.Rounds (s.total.number + requested.value.number) sum ∧ ¬ s.TooLarge requested) ∨
    s.total.plus requested.value = .error (.internal (.overflow .addition)) ∧
      s.TooLarge requested := by
  have sign := add_nonneg nonneg requested.number_pos.le
  rw [TooLarge, ← Decimal.overflows_iff _ sign]
  exact Decimal.plus_cases _ _ sign

theorem checkCapturable_aborts_iff (limit : Amount) (nonneg : 0 ≤ s.total.number) :
    Aborts (s.checkCapturable limit requested) ↔ s.hasFinal = false ∧ s.TooLarge requested := by
  rw [checkCapturable]
  cases closed : s.hasFinal with
  | true => simp [PaymentError.root]
  | false =>
      rcases plus_cases nonneg requested with ⟨sum, adds, _, small⟩ | ⟨overflows, large⟩
      · cases above : limit.value.below sum <;>
          simp [adds, above, small, PaymentError.root]
      · simp [overflows, large, PaymentError.root]

theorem becomesFinal_aborts_iff (nonneg : 0 ≤ s.total.number) :
    Aborts (s.becomesFinal limit requested flagged) ↔
      flagged = false ∧ s.TooLarge requested := by
  rw [becomesFinal]
  cases flagged with
  | true => simp
  | false =>
      rcases plus_cases nonneg requested with ⟨sum, adds, _, small⟩ | ⟨overflows, large⟩
      · simp [adds, small]
      · simp [overflows, large, PaymentError.root]

theorem verdict_aborts_iff (limit : Amount) (flagged : Bool) (nonneg : 0 ≤ s.total.number) :
    Aborts (s.verdict limit requested flagged) ↔ s.hasFinal = false ∧ s.TooLarge requested := by
  rw [← checkCapturable_aborts_iff limit nonneg, verdict]
  cases checked : s.checkCapturable limit requested with
  | error e => simp
  | ok _ =>
      -- a sum that was checked is the one that decides on the end
      have small : ¬ (s.hasFinal = false ∧ s.TooLarge requested) := by
        rw [← checkCapturable_aborts_iff limit nonneg, checked]
        exact not_aborts_ok _
      have unclosed : s.hasFinal = false := by
        rw [checkCapturable] at checked
        split at checked
        · cases checked
        · next isOpen => exact Bool.eq_false_iff.mpr isOpen
      simp only [not_aborts_ok, iff_false]
      rw [becomesFinal_aborts_iff nonneg]
      exact fun large => small ⟨unclosed, large.2⟩

/-- A capture that takes the exact total above the amount is refused when no digit is rounded. -/
theorem verdict_exceeds (nonneg : 0 ≤ s.total.number) (unclosed : s.hasFinal = false)
    (small : ¬ s.TooLarge requested)
    (exceeds : limit.value.number < s.total.number + requested.value.number)
    (exact : Exact limit (max s.total.scale requested.value.scale)) :
    s.verdict limit requested flagged = .error .authorizedAmountExceeded := by
  rcases plus_cases nonneg requested with ⟨sum, adds, rounds, _⟩ | ⟨_, large⟩
  · have above : limit.value.below sum = true := by
      rw [Decimal.below_iff]
      by_contra within
      have left := (Decimal.onGrid_number _ nonneg).mono
        (le_max_left s.total.scale requested.value.scale)
      have right := (Decimal.onGrid_number _ requested.number_pos.le).mono
        (le_max_right s.total.scale requested.value.scale)
      have unrounded := rounds.number_eq_of_lt (add_nonneg nonneg requested.number_pos.le)
        (left.add right) (lt_of_le_of_lt
          (mul_le_mul_of_nonneg_right (not_lt.mp within) (by positivity)) exact.fits)
      linarith
    simp [verdict, checkCapturable, unclosed, adds, above]
  · exact absurd large small

end CaptureSummary

/-! ## Captures of a reachable state -/

namespace Stores

/-- An authorization of the PSP that was not declined, with its amount and the summary of its
captures. -/
structure Account (s : Stores) (psp : String) (id : Uuid) (limit : Amount)
    (summary : CaptureSummary) : Prop where
  stored : ∃ row, s.authorizations.row? id = some row ∧ row.psp = psp ∧ row.amount = limit ∧
    ¬ (row.status = .declined ∨ row.status = .riskDeclined)
  summed : s.captures.summary id = .ok summary

/-- A refund of the PSP that was not declined, with its amount and the summary of its captures. -/
structure RefundAccount (s : Stores) (psp : String) (id : Uuid) (limit : Amount)
    (summary : CaptureSummary) : Prop where
  stored : ∃ row, s.refunds.row? id = some row ∧ row.psp = psp ∧ row.amount = limit ∧
    ¬ row.status = .declined
  summed : s.captures.refundSummary id = .ok summary

variable {s : Stores} {key : Key} {limit : Amount} {p : Processor} {psp : String}

/-- The summary of a stored row can be read, and stays within the amount of the row. -/
theorem Covered.summed (covered : s.Covered key) (stored : limit ∈ s.amounts key) :
    ∃ summary, s.captures.summaryOf key = .ok summary ∧ 0 ≤ summary.total.number ∧
      summary.total.number ≤ limit.value.number := by
  rcases covered with ⟨none, _⟩ | ⟨amount, one, within⟩
  · rw [none] at stored
    cases stored
  · rw [one, List.mem_singleton] at stored
    subst stored
    obtain ⟨summary, summed, le⟩ := within.total
    refine ⟨summary, ?_, CaptureSummary.ofEntries_nonneg _ summary summed, le⟩
    rw [CaptureStore.summaryOf_eq, summed]

theorem Covered.nonneg {summary : CaptureSummary} (covered : s.Covered key)
    (stored : limit ∈ s.amounts key) (summed : s.captures.summaryOf key = .ok summary) :
    0 ≤ summary.total.number := by
  obtain ⟨current, current_eq, nonneg, _⟩ := covered.summed stored
  rwa [Except.ok.inj (summed.symm.trans current_eq)]

namespace Account

variable {id : Uuid} {summary : CaptureSummary}

theorem nonneg (account : s.Account psp id limit summary)
    (covered : s.Covered ⟨.authorization, id⟩) : 0 ≤ summary.total.number := by
  obtain ⟨row, stored, _⟩ := account.stored
  exact covered.nonneg (amounts_authorization stored) account.summed

/-- A capture is answered as the verdict says, or refused because of a reversal. -/
theorem capture {c : Capture} (account : s.Account psp c.authorizationId limit summary) :
    (s.capture p psp c).1 = match summary.verdict limit c.amount c.isFinal with
      | .error e => .error (e.within "invalid capture")
      | .ok isFinal =>
          if s.reversals.pending c.authorizationId then .error Processor.reversedError
          else .ok { c with isFinal := isFinal } := by
  obtain ⟨⟨row, stored, rfl, rfl, accepted⟩, summed⟩ := account
  have named : (s.authorizations.shown row).id = c.authorizationId :=
    TransactionStore.id_of_row? stored
  have amount : (s.authorizations.shown row).amount = row.amount := rfl
  rw [capture_row p stored, if_neg accepted]
  cases decides : summary.verdict row.amount c.amount c.isFinal with
  | error e => simp only [admits, named, amount, summed, decides]
  | ok isFinal => simp only [admits, named, amount, summed, decides]

theorem capture_aborts_iff {c : Capture} (account : s.Account psp c.authorizationId limit summary)
    (nonneg : 0 ≤ summary.total.number) :
    Aborts (s.capture p psp c).1 ↔ summary.hasFinal = false ∧ summary.TooLarge c.amount := by
  rw [account.capture, ← CaptureSummary.verdict_aborts_iff limit c.isFinal nonneg]
  cases summary.verdict limit c.amount c.isFinal with
  | error e => simp
  | ok isFinal =>
      dsimp only
      split <;> simp [Processor.reversedError, PaymentError.root]

theorem capture_exceeds {c : Capture} (account : s.Account psp c.authorizationId limit summary)
    (nonneg : 0 ≤ summary.total.number) (unclosed : summary.hasFinal = false)
    (small : ¬ summary.TooLarge c.amount)
    (exceeds : limit.value.number < summary.total.number + c.amount.value.number)
    (exact : Exact limit (max summary.total.scale c.amount.value.scale)) :
    (s.capture p psp c).1 =
      .error (PaymentError.authorizedAmountExceeded.within "invalid capture") := by
  rw [account.capture]
  simp only [CaptureSummary.verdict_exceeds nonneg unclosed small exceeds exact]

end Account

namespace RefundAccount

variable {id : Uuid} {summary : CaptureSummary}

theorem nonneg (account : s.RefundAccount psp id limit summary)
    (covered : s.Covered ⟨.refund, id⟩) : 0 ≤ summary.total.number := by
  obtain ⟨row, stored, _⟩ := account.stored
  exact covered.nonneg (amounts_refund stored) account.summed

theorem captureRefund {c : RefundCapture} (account : s.RefundAccount psp c.refundId limit summary) :
    (s.captureRefund p psp c).1 = match summary.verdict limit c.amount c.isFinal with
      | .error e => .error (e.within "invalid refund capture")
      | .ok isFinal => .ok { c with isFinal := isFinal } := by
  obtain ⟨⟨row, stored, rfl, rfl, accepted⟩, summed⟩ := account
  have named : (s.refunds.shown row).id = c.refundId := TransactionStore.id_of_row? stored
  have amount : (s.refunds.shown row).amount = row.amount := rfl
  rw [captureRefund_row p stored, if_neg accepted]
  cases decides : summary.verdict row.amount c.amount c.isFinal with
  | error e => simp only [admitsRefund, named, amount, summed, decides]
  | ok isFinal => simp only [admitsRefund, named, amount, summed, decides]

theorem captureRefund_aborts_iff {c : RefundCapture}
    (account : s.RefundAccount psp c.refundId limit summary) (nonneg : 0 ≤ summary.total.number) :
    Aborts (s.captureRefund p psp c).1 ↔
      summary.hasFinal = false ∧ summary.TooLarge c.amount := by
  rw [account.captureRefund, ← CaptureSummary.verdict_aborts_iff limit c.isFinal nonneg]
  cases summary.verdict limit c.amount c.isFinal with
  | error e => simp
  | ok isFinal => simp

theorem captureRefund_exceeds {c : RefundCapture}
    (account : s.RefundAccount psp c.refundId limit summary) (nonneg : 0 ≤ summary.total.number)
    (unclosed : summary.hasFinal = false) (small : ¬ summary.TooLarge c.amount)
    (exceeds : limit.value.number < summary.total.number + c.amount.value.number)
    (exact : Exact limit (max summary.total.scale c.amount.value.scale)) :
    (s.captureRefund p psp c).1 =
      .error (PaymentError.authorizedAmountExceeded.within "invalid refund capture") := by
  rw [account.captureRefund]
  simp only [CaptureSummary.verdict_exceeds nonneg unclosed small exceeds exact]

end RefundAccount

/-- A capture that is not answered is one of an account. -/
theorem account_of_aborts {c : Capture} (covered : s.Covered ⟨.authorization, c.authorizationId⟩)
    (aborts : Aborts (s.capture p psp c).1) :
    ∃ limit summary, s.Account psp c.authorizationId limit summary := by
  cases found : s.authorizations.getFull psp c.authorizationId with
  | error e =>
      rw [TransactionStore.getFull_error found] at found
      simp [Stores.capture, found, PaymentError.root] at aborts
  | ok a =>
      obtain ⟨row, stored, _, owner, _⟩ := TransactionStore.getFull_shows found
      obtain rfl : row.psp = psp := owner
      obtain ⟨summary, summed, _⟩ := covered.summed (amounts_authorization stored)
      refine ⟨row.amount, summary, ⟨row, stored, rfl, rfl, fun declined => ?_⟩, summed⟩
      rw [capture_row p stored, if_pos declined] at aborts
      simp [PaymentError.root] at aborts

theorem capture_aborts_iff {c : Capture} (covered : s.Covered ⟨.authorization, c.authorizationId⟩) :
    Aborts (s.capture p psp c).1 ↔ ∃ limit summary,
      s.Account psp c.authorizationId limit summary ∧
      summary.hasFinal = false ∧ summary.TooLarge c.amount := by
  constructor
  · intro aborts
    obtain ⟨limit, summary, account⟩ := account_of_aborts covered aborts
    exact ⟨limit, summary, account,
      (account.capture_aborts_iff (account.nonneg covered)).mp aborts⟩
  · rintro ⟨limit, summary, account, large⟩
    exact (account.capture_aborts_iff (account.nonneg covered)).mpr large

theorem refundAccount_of_aborts {c : RefundCapture} (covered : s.Covered ⟨.refund, c.refundId⟩)
    (aborts : Aborts (s.captureRefund p psp c).1) :
    ∃ limit summary, s.RefundAccount psp c.refundId limit summary := by
  cases found : s.refunds.getFull psp c.refundId with
  | error e =>
      rw [TransactionStore.getFull_error found] at found
      simp [Stores.captureRefund, found, PaymentError.root] at aborts
  | ok r =>
      obtain ⟨row, stored, _, owner, _⟩ := TransactionStore.getFull_shows found
      obtain rfl : row.psp = psp := owner
      obtain ⟨summary, summed, _⟩ := covered.summed (amounts_refund stored)
      refine ⟨row.amount, summary, ⟨row, stored, rfl, rfl, fun declined => ?_⟩, summed⟩
      rw [captureRefund_row p stored, if_pos declined] at aborts
      simp [PaymentError.root] at aborts

theorem captureRefund_aborts_iff {c : RefundCapture} (covered : s.Covered ⟨.refund, c.refundId⟩) :
    Aborts (s.captureRefund p psp c).1 ↔ ∃ limit summary,
      s.RefundAccount psp c.refundId limit summary ∧
      summary.hasFinal = false ∧ summary.TooLarge c.amount := by
  constructor
  · intro aborts
    obtain ⟨limit, summary, account⟩ := refundAccount_of_aborts covered aborts
    exact ⟨limit, summary, account,
      (account.captureRefund_aborts_iff (account.nonneg covered)).mp aborts⟩
  · rintro ⟨limit, summary, account, large⟩
    exact (account.captureRefund_aborts_iff (account.nonneg covered)).mpr large

end Stores

/-- In every state that any requests can reach, whatever fails on the way, the summary of a stored
authorization or refund can be read and is within its amount.  The checks of a further capture, and
so the capture itself, are not answered exactly when the capture is not refused as one after the
final one and the exact total gets as close to the limit of decimals as half a unit.  Below, a
capture that takes the exact total above the amount is refused for that, as long as no digit is
rounded away. -/
theorem captures_abort_iff {ι : Type} [DecidableEq ι] {requests : ι → Request} {p : Processor}
    {t : Traffic requests}
    (reaches : (Traffic.start requests .empty).Reaches p (fun _ => True) t)
    (traces : TraceNumbers) (network : Scheme → Option SimulatedNetwork) :
    let s : System := ⟨t.stores, traces, network⟩
    (∀ key limit, limit ∈ t.stores.amounts key → ∃ summary,
      t.stores.captures.summaryOf key = .ok summary ∧ 0 ≤ summary.total.number ∧
      summary.total.number ≤ limit.value.number ∧ ∀ requested flagged,
        (Aborts (summary.checkCapturable limit requested) ↔
          summary.hasFinal = false ∧ summary.TooLarge requested) ∧
        (Aborts (summary.becomesFinal limit requested flagged) ↔
          flagged = false ∧ summary.TooLarge requested)) ∧
    (∀ psp c, Aborts (s.perform p (.capture psp c)).1 ↔
      ∃ limit summary, t.stores.Account psp c.authorizationId limit summary ∧
        summary.hasFinal = false ∧ summary.TooLarge c.amount) ∧
    (∀ psp c, Aborts (s.perform p (.captureRefund psp c)).1 ↔
      ∃ limit summary, t.stores.RefundAccount psp c.refundId limit summary ∧
        summary.hasFinal = false ∧ summary.TooLarge c.amount) ∧
    (∀ psp c limit summary, t.stores.Account psp c.authorizationId limit summary →
      summary.hasFinal = false → ¬ summary.TooLarge c.amount →
      limit.value.number < summary.total.number + c.amount.value.number →
      Exact limit (max summary.total.scale c.amount.value.scale) →
      (s.perform p (.capture psp c)).1 =
        .error (PaymentError.authorizedAmountExceeded.within "invalid capture")) ∧
    ∀ psp c limit summary, t.stores.RefundAccount psp c.refundId limit summary →
      summary.hasFinal = false → ¬ summary.TooLarge c.amount →
      limit.value.number < summary.total.number + c.amount.value.number →
      Exact limit (max summary.total.scale c.amount.value.scale) →
      (s.perform p (.captureRefund psp c)).1 =
        .error (PaymentError.authorizedAmountExceeded.within "invalid refund capture") := by
  have covered := reaches.covered
  refine ⟨fun key limit stored => ?_, fun psp c => ?_, fun psp c => ?_, ?_, ?_⟩
  · obtain ⟨summary, summed, nonneg, within⟩ := (covered key).summed stored
    exact ⟨summary, summed, nonneg, within, fun requested flagged =>
      ⟨CaptureSummary.checkCapturable_aborts_iff limit nonneg,
        CaptureSummary.becomesFinal_aborts_iff nonneg⟩⟩
  · rw [System.perform_capture]
    exact Stores.capture_aborts_iff (covered _)
  · rw [System.perform_captureRefund]
    exact Stores.captureRefund_aborts_iff (covered _)
  · intro psp c limit summary account unclosed small exceeds exact
    rw [System.perform_capture]
    exact account.capture_exceeds (account.nonneg (covered _)) unclosed small exceeds exact
  · intro psp c limit summary account unclosed small exceeds exact
    rw [System.perform_captureRefund]
    exact account.captureRefund_exceeds (account.nonneg (covered _)) unclosed small exceeds exact

namespace Overflow.Sample

def whole (n : ℕ) (fits : n < Decimal.limit) (positive : 0 < n) : Amount :=
  ⟨{ Decimal.zero with coefficient := n, fits := by rwa [Int.natAbs_natCast] },
    Int.natCast_pos.mpr positive⟩

@[simp] theorem whole_scale {n : ℕ} (fits : n < Decimal.limit) (positive : 0 < n) :
    (whole n fits positive).value.scale = 0 := rfl

@[simp] theorem whole_number {n : ℕ} (fits : n < Decimal.limit) (positive : 0 < n) :
    (whole n fits positive).value.number = n := by
  simp [whole, Decimal.zero, Decimal.number]

def hundred : Amount := whole 100 (by decide) (by decide)

def forty : Amount := whole 40 (by decide) (by decide)

def authorization : Authorization :=
  .intake (.ofNat 1) "psp" "shop" hundred ⟨"NOK", by decide⟩
    (.ofPan ⟨"4111111111111111"⟩ .visa) .none (.ofSeconds 0)

def captureOf (id : ℕ) (amount : Amount) : Capture :=
  ⟨.ofNat id, .ofNat 1, amount, false, .created, .ofSeconds 0⟩

/-- An authorization of a hundred, and a capture of forty. -/
def requests : Bool → Request
  | false => .authorize authorization
  | true => .capture "psp" (captureOf 2 forty)

def approval : Attached :=
  ⟨some ⟨⟨"00"⟩, 1, some "000001", .ofSeconds 0⟩, some (.visa (some "1") none)⟩

def acts : List (Act Bool) :=
  [.start false, .answer false, .answer false, .exchange false approval (.ok ()), .answer false,
    .answer false, .start true, .answer true, .answer true, .answer true, .answer true,
    .answer true, .answer true]

def captured : Traffic requests :=
  (Traffic.start requests .empty).play CardPayments.Sample.processor acts

theorem captured_reached :
    (Traffic.start requests .empty).Reaches CardPayments.Sample.processor (fun _ => True)
      captured :=
  Traffic.play_reaches _ _ _ acts fun _ _ => trivial

def row : Authorization :=
  { authorization with
    card := ⟨none, "411111******1111", some (Vault.token 0), .visa⟩
    status := .approved
    response := approval.response }

theorem account : captured.stores.Account "psp" (.ofNat 1) hundred ⟨forty.value, false⟩ :=
  ⟨⟨row, by decide +kernel, rfl, rfl, by decide +kernel⟩, rfl⟩

def largest : Amount := whole (Decimal.limit - 1) (by decide +kernel) (by decide +kernel)

def rest : Amount := whole 61 (by decide) (by decide)

def answer (amount : Amount) : Except PaymentError Capture :=
  ((CardPayments.Sample.calm captured.stores).perform CardPayments.Sample.processor
    (.capture "psp" (captureOf 3 amount))).1

end Overflow.Sample

open Overflow.Sample in
/-- Of a hundred, of which forty are captured, sixty-one are refused; for the largest amount there
is no answer. -/
theorem captures_after_forty :
    answer rest = .error (PaymentError.authorizedAmountExceeded.within "invalid capture") ∧
      Aborts (answer largest) := by
  have limit_eq : Decimal.limit = 79228162514264337593543950336 := by decide
  obtain ⟨_, captures, _, exceeding, _⟩ := captures_abort_iff captured_reached
    (CardPayments.Sample.calm captured.stores).traces fun _ => none
  constructor
  · refine exceeding "psp" (captureOf 3 rest) hundred ⟨forty.value, false⟩ account rfl ?_ ?_ ⟨?_⟩
    · norm_num [CaptureSummary.TooLarge, limit_eq, captureOf, rest, forty]
    · norm_num [captureOf, rest, forty, hundred]
    · norm_num [limit_eq, captureOf, rest, forty, hundred]
  · refine (captures "psp" (captureOf 3 largest)).mpr
      ⟨hundred, ⟨forty.value, false⟩, account, rfl, ?_⟩
    norm_num [CaptureSummary.TooLarge, limit_eq, captureOf, largest, forty]

open Overflow.Sample in
/-- The authorization is open and the capture exceeds it, and yet it is not refused for that. -/
theorem largest_capture_overflows :
    captured.stores.Account "psp" (.ofNat 1) hundred ⟨forty.value, false⟩ ∧
      hundred.value.number < forty.value.number + largest.value.number ∧
      answer largest = .error ((PaymentError.internal (.overflow .addition)).within
        "invalid capture") ∧
      answer largest ≠
        .error (PaymentError.authorizedAmountExceeded.within "invalid capture") := by
  have overflows : answer largest = .error ((PaymentError.internal (.overflow .addition)).within
      "invalid capture") := by decide +kernel
  refine ⟨account, ?_, overflows, by rw [overflows]; nofun⟩
  have limit_eq : Decimal.limit = 79228162514264337593543950336 := by decide
  norm_num [limit_eq, largest, forty, hundred]

end CardPayments
