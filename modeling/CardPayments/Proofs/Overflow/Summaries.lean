import CardPayments.Proofs.Intake.Dossier
import CardPayments.Proofs.Settlement.Limit

/-! # Captures of every transaction

What a call can do to the captures of an authorization or of a refund, whichever of them the call is
about: as long as captures are only stored against the amount of a stored row, the captures of every
row stay within its amount, and there are none without a row. -/
set_option autoImplicit false

namespace CardPayments

open Intake

def RefundCapture.asCapture (c : RefundCapture) : Capture where
  id := c.id
  authorizationId := c.refundId
  amount := c.amount
  isFinal := c.isFinal
  status := c.status
  createdAt := c.createdAt

namespace CaptureStore

def under (s : CaptureStore) (key : Key) : List Capture :=
  match key.kind with
  | .authorization => s.ofAuthorization key.id
  | .refund => (s.ofRefund key.id).map RefundCapture.asCapture

def summaryOf (s : CaptureStore) (key : Key) : Except PaymentError CaptureSummary :=
  match key.kind with
  | .authorization => s.summary key.id
  | .refund => s.refundSummary key.id

variable {s t : CaptureStore} {key : Key}

theorem summaryOf_eq (s : CaptureStore) (key : Key) :
    s.summaryOf key = CaptureSummary.ofCaptures (s.under key) := by
  obtain ⟨kind, id⟩ := key
  cases kind with
  | authorization => rfl
  | refund =>
      have entries : ((s.ofRefund id).map RefundCapture.asCapture).map Capture.entry =
          (s.ofRefund id).map RefundCapture.entry := by
        rw [List.map_map]
        rfl
      change CaptureSummary.ofEntries ((s.ofRefund id).map RefundCapture.entry) =
        CaptureSummary.ofEntries (((s.ofRefund id).map RefundCapture.asCapture).map Capture.entry)
      rw [entries]

theorem create_under {c : Capture} {seen : CaptureSummary} (done : s.create c seen = .ok t) :
    ∃ current, s.summaryOf ⟨.authorization, c.authorizationId⟩ = .ok current ∧
      current.same seen = true ∧ ∀ key, t.under key =
        s.under key ++ if key = ⟨.authorization, c.authorizationId⟩ then [c] else [] := by
  rw [create] at done
  split at done
  · cases done
  · next current summed =>
      split at done
      · next same =>
          cases done
          refine ⟨current, summed, same, fun key => ?_⟩
          obtain ⟨kind, id⟩ := key
          cases kind with
          | refund => simp [under, ofRefund]
          | authorization =>
              by_cases own : c.authorizationId = id
              · simp [under, ofAuthorization, List.filter_append, own]
              · simp [under, ofAuthorization, List.filter_append, own, Ne.symm own]
      · cases done

theorem createForRefund_under {c : RefundCapture} {seen : CaptureSummary}
    (done : s.createForRefund c seen = .ok t) :
    ∃ current, s.summaryOf ⟨.refund, c.refundId⟩ = .ok current ∧
      current.same seen = true ∧ ∀ key, t.under key =
        s.under key ++ if key = ⟨.refund, c.refundId⟩ then [c.asCapture] else [] := by
  rw [createForRefund] at done
  split at done
  · cases done
  · next current summed =>
      split at done
      · next same =>
          cases done
          refine ⟨current, summed, same, fun key => ?_⟩
          obtain ⟨kind, id⟩ := key
          cases kind with
          | authorization => simp [under, ofAuthorization]
          | refund =>
              by_cases own : c.refundId = id
              · simp [under, ofRefund, List.filter_append, own]
              · simp [under, ofRefund, List.filter_append, own, Ne.symm own]
      · cases done

theorem update_under {c : Capture} (done : s.update c = .ok t) (key : Key) :
    t.under key = s.under key ∨
      RowChanged (fun _ => True) (fun row => { row with status := c.status }) (s.under key)
        (t.under key) := by
  obtain ⟨kind, id⟩ := key
  cases kind with
  | refund =>
      rw [update] at done
      split at done
      · cases done
        exact Or.inl rfl
      · cases done
  | authorization =>
      by_cases own : c.authorizationId = id
      · subst own
        obtain ⟨front, row, back, split, splitAfter, _⟩ := update_ok done
        exact Or.inr ⟨front, row, back, split, splitAfter, trivial⟩
      · exact Or.inl (update_other done own)

end CaptureStore

/-! ## Amounts of stored rows -/

namespace Stores

/-- The amounts of the rows of a transaction, of which there is at most one. -/
def amounts (s : Stores) (key : Key) : List Amount :=
  (s.dossier key).rows.map Transaction.amount

variable {s : Stores} {key : Key}

theorem amounts_authorization {id : Uuid} {a : Authorization}
    (stored : s.authorizations.row? id = some a) : a.amount ∈ s.amounts ⟨.authorization, id⟩ := by
  have named : a.id = id := TransactionStore.id_of_row? stored
  refine List.mem_map.mpr ⟨a.transaction, List.mem_filter.mpr ⟨?_, decide_eq_true named⟩, rfl⟩
  exact List.mem_map_of_mem (List.mem_of_find?_eq_some stored)

theorem amounts_refund {id : Uuid} {r : Refund} (stored : s.refunds.row? id = some r) :
    r.amount ∈ s.amounts ⟨.refund, id⟩ := by
  have named : r.id = id := TransactionStore.id_of_row? stored
  refine List.mem_map.mpr ⟨r.transaction, List.mem_filter.mpr ⟨?_, decide_eq_true named⟩, rfl⟩
  exact List.mem_map_of_mem (List.mem_of_find?_eq_some stored)

/-- No call changes the amount of a row or takes a row away. -/
theorem answer_amounts (s : Stores) (call : Call) (key : Key) :
    (s.answer call).2.amounts key = s.amounts key ∨
      s.amounts key = [] ∧ ∃ amount, (s.answer call).2.amounts key = [amount] := by
  cases files : call.filing? with
  | none => exact Or.inl (by rw [amounts, s.answer_dossier files, amounts])
  | some filed =>
      obtain ⟨worked, filing⟩ := filed
      rcases s.answer_filing files with ⟨e, answers⟩ | ⟨value, t, answers, filed, others⟩
      · exact Or.inl (by rw [answers])
      · rw [answers]
        by_cases own : key = worked
        · subst own
          rw [amounts, amounts]
          generalize s.dossier key = before at filed ⊢
          generalize t.dossier key = after at filed ⊢
          cases filed with
          | opens x _ unknown => exact Or.inr ⟨by rw [unknown, List.map_nil], x.amount, rfl⟩
          | records data => exact Or.inl rfl
          | settles status response _ rows changed =>
              obtain ⟨front, row, back, split, splitAfter, _⟩ := changed
              exact Or.inl (by simp [split, splitAfter, Transaction.settled])
        · exact Or.inl (by rw [amounts, others key own, amounts])

theorem answer_amounts_of_mem {amount : Amount} (call : Call) (known : s.amounts key = [amount]) :
    (s.answer call).2.amounts key = [amount] := by
  rcases s.answer_amounts call key with same | ⟨none, _⟩
  · rw [same, known]
  · rw [none] at known
    cases known

/-! ## Captures within the amount of a row -/

/-- There is a row whose amount the captures stay within, or neither row nor capture. -/
def Covered (s : Stores) (key : Key) : Prop :=
  (s.amounts key = [] ∧ s.captures.under key = []) ∨
    ∃ amount, s.amounts key = [amount] ∧ WithinLimit amount (s.captures.under key)

theorem covered_empty (key : Key) : empty.Covered key := by
  obtain ⟨kind, id⟩ := key
  cases kind <;> exact Or.inl ⟨rfl, rfl⟩

theorem Covered.amounts_eq {amount : Amount} (covered : s.Covered key)
    (stored : amount ∈ s.amounts key) : s.amounts key = [amount] := by
  rcases covered with ⟨none, _⟩ | ⟨limit, one, _⟩
  · rw [none] at stored
    cases stored
  · rw [one, List.mem_singleton] at stored
    rw [one, stored]

/-- The captures that are stored were checked against the amount of a stored row. -/
def Vouches (s : Stores) : Call → Prop
  | .createCapture c seen => ∃ amount flagged,
      s.amounts ⟨.authorization, c.authorizationId⟩ = [amount] ∧
      seen.checkCapturable amount c.amount = .ok () ∧
      seen.becomesFinal amount c.amount flagged = .ok c.isFinal
  | .createRefundCapture c seen => ∃ amount flagged,
      s.amounts ⟨.refund, c.refundId⟩ = [amount] ∧
      seen.checkCapturable amount c.amount = .ok () ∧
      seen.becomesFinal amount c.amount flagged = .ok c.isFinal
  | .updateCapture c => c.status = .failed
  | _ => True

theorem Covered.withCaptures {store : CaptureStore} (covered : s.Covered key)
    (bare : s.amounts key = [] → s.captures.under key = [] → store.under key = [])
    (within : ∀ amount, s.amounts key = [amount] → WithinLimit amount (s.captures.under key) →
      WithinLimit amount (store.under key)) :
    ({ s with captures := store } : Stores).Covered key := by
  rcases covered with ⟨none, uncaptured⟩ | ⟨amount, known, before⟩
  · exact Or.inl ⟨none, bare none uncaptured⟩
  · exact Or.inr ⟨amount, known, within amount known before⟩

theorem Covered.add {worked : Key} {amount : Amount} {c : Capture} {seen current : CaptureSummary}
    {flagged : Bool} {store : CaptureStore} (covered : s.Covered key)
    (known : s.amounts worked = [amount])
    (checked : seen.checkCapturable amount c.amount = .ok ())
    (becomes : seen.becomesFinal amount c.amount flagged = .ok c.isFinal)
    (summed : s.captures.summaryOf worked = .ok current) (same : current.same seen = true)
    (joined : store.under key = s.captures.under key ++ if key = worked then [c] else []) :
    ({ s with captures := store } : Stores).Covered key := by
  rw [CaptureStore.summaryOf_eq] at summed
  refine covered.withCaptures (fun none uncaptured => ?_) fun limit isLimit within => ?_
  · have other : key ≠ worked := by
      rintro rfl
      rw [none] at known
      cases known
    rw [joined, if_neg other, uncaptured, List.append_nil]
  · rw [joined]
    split
    · next own =>
        subst own
        obtain rfl : limit = amount := List.head_eq_of_cons_eq (isLimit.symm.trans known)
        exact within.append c seen current flagged checked becomes summed same
    · rwa [List.append_nil]

theorem Covered.answer {call : Call} (covered : s.Covered key) (vouches : s.Vouches call) :
    (s.answer call).2.Covered key := by
  by_cases writes : call.WritesCaptures
  · cases call with
    | createCapture c seen =>
        obtain ⟨amount, flagged, known, checked, becomes⟩ := vouches
        rcases s.changed_cases (fun store => { s with captures := store })
          (s.captures.create c seen) with ⟨e, failed⟩ | ⟨store, done, answers⟩
        · rwa [Stores.answer, failed]
        · obtain ⟨current, summed, same, joined⟩ := CaptureStore.create_under done
          rw [Stores.answer, answers]
          exact covered.add known checked becomes summed same (joined key)
    | createRefundCapture c seen =>
        obtain ⟨amount, flagged, known, checked, becomes⟩ := vouches
        rcases s.changed_cases (fun store => { s with captures := store })
          (s.captures.createForRefund c seen) with ⟨e, failed⟩ | ⟨store, done, answers⟩
        · rwa [Stores.answer, failed]
        · obtain ⟨current, summed, same, joined⟩ := CaptureStore.createForRefund_under done
          rw [Stores.answer, answers]
          exact covered.add (c := c.asCapture) known checked becomes summed same (joined key)
    | updateCapture c =>
        have failed : c.status = .failed := vouches
        rcases s.changed_cases (fun store => { s with captures := store })
          (s.captures.update c) with ⟨e, refused⟩ | ⟨store, done, answers⟩
        · rwa [Stores.answer, refused]
        · rw [Stores.answer, answers]
          have under := CaptureStore.update_under done key
          rw [failed] at under
          refine covered.withCaptures (fun _ uncaptured => ?_) fun amount _ within => ?_
          · rcases under with same | changed
            · rw [same, uncaptured]
            · have length := changed.length_eq
              rw [uncaptured] at length
              exact List.eq_nil_of_length_eq_zero length
          · rcases under with same | changed
            · rwa [same]
            · exact within.withdraw changed
    | _ => exact writes.elim
  · have captures := s.answer_captures call writes
    rcases s.answer_amounts call key with same | ⟨none, amount, one⟩
    · rwa [Covered, same, captures]
    · rw [Covered, captures, one]
      rcases covered with ⟨_, uncaptured⟩ | ⟨limit, isLimit, _⟩
      · rw [uncaptured]
        exact Or.inr ⟨amount, rfl, .nil amount⟩
      · rw [none] at isLimit
        cases isLimit

end Stores

end CardPayments
