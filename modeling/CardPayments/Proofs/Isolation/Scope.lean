import CardPayments.Proofs.Isolation.Untraced
import CardPayments.Proofs.Json.RoundTrip
import CardPayments.Proofs.Store.Images
import CardPayments.Proofs.Store.Rows
import CardPayments.Wire.Event

/-! # What one PSP sees of the tables

Authorizations and refunds are kept under ids, captures and reversals under the id of what they
belong to, card numbers under tokens, and events say for which PSP they are.  Of each table only
what is kept for one PSP is left, without trace numbers; what the PSP asks about its own ids is
answered from that, and what is changed elsewhere does not show. -/
set_option autoImplicit false

namespace CardPayments

theorem Replies.of_map {α β : Type} {f : α → β} {x y : Except PaymentError α}
    (same : x.map f = y.map f) : Replies (fun u v => f u = f v) (fun e e' => e = e') x y := by
  cases x with
  | ok u =>
      cases y with
      | ok v => exact .ok (Except.ok.inj same)
      | error e => cases same
  | error e =>
      cases y with
      | ok v => cases same
      | error e' => exact .error (Except.error.inj same)

/-! ## Authorizations and refunds -/

theorem Authorization.untraced_copies :
    TransactionStore.Copies Authorization.untraced SchemeData.untraced where
  id _ := rfl
  psp _ := rfl
  createdAt _ := rfl
  row _ := rfl
  decided _ _ := rfl
  withData _ _ := rfl
  checked a scheme := SchemeData.checked_untraced a.id a.schemeData scheme

theorem Refund.untraced_copies :
    TransactionStore.Copies Refund.untraced SchemeData.untraced where
  id _ := rfl
  psp _ := rfl
  createdAt _ := rfl
  row _ := rfl
  decided _ _ := rfl
  withData _ _ := rfl
  checked r scheme := SchemeData.checked_untraced r.id r.schemeData scheme

def AuthorizationStore.seen (keep : Uuid → Bool) (s : AuthorizationStore) : AuthorizationStore :=
  s.image keep Authorization.untraced SchemeData.untraced

def RefundStore.seen (keep : Uuid → Bool) (s : RefundStore) : RefundStore :=
  s.image keep Refund.untraced SchemeData.untraced

/-! ## Captures and reversals -/

namespace CaptureStore

variable {keep keepRefund : Uuid → Bool}

def seen (keep keepRefund : Uuid → Bool) (s : CaptureStore) : CaptureStore :=
  ⟨s.captures.filter fun c => keep c.authorizationId,
    s.refundCaptures.filter fun c => keepRefund c.refundId⟩

variable (s : CaptureStore)

theorem summary_seen {id : Uuid} (kept : keep id = true) :
    (s.seen keep keepRefund).summary id = s.summary id := by
  have rows : (s.seen keep keepRefund).ofAuthorization id = s.ofAuthorization id := by
    rw [ofAuthorization, ofAuthorization, seen, List.filter_filter]
    refine List.filter_congr fun c _ => ?_
    by_cases own : c.authorizationId = id
    · simp [own, kept]
    · simp [own]
  rw [summary, summary, rows]

theorem refundSummary_seen {id : Uuid} (kept : keepRefund id = true) :
    (s.seen keep keepRefund).refundSummary id = s.refundSummary id := by
  have rows : (s.seen keep keepRefund).ofRefund id = s.ofRefund id := by
    rw [ofRefund, ofRefund, seen, List.filter_filter]
    refine List.filter_congr fun c _ => ?_
    by_cases own : c.refundId = id
    · simp [own, kept]
    · simp [own]
  rw [refundSummary, refundSummary, rows]

theorem create_seen (c : Capture) (looked : CaptureSummary)
    (kept : keep c.authorizationId = true) :
    (s.seen keep keepRefund).create c looked = (s.create c looked).map (seen keep keepRefund) := by
  rw [create, s.summary_seen kept, create]
  cases s.summary c.authorizationId with
  | error e => rfl
  | ok current =>
      dsimp only
      split
      · simp [Except.map, seen, List.filter_append, kept]
      · rfl

theorem createForRefund_seen (c : RefundCapture) (looked : CaptureSummary)
    (kept : keepRefund c.refundId = true) :
    (s.seen keep keepRefund).createForRefund c looked =
      (s.createForRefund c looked).map (seen keep keepRefund) := by
  rw [createForRefund, s.refundSummary_seen kept, createForRefund]
  cases s.refundSummary c.refundId with
  | error e => rfl
  | ok current =>
      dsimp only
      split
      · simp [Except.map, seen, List.filter_append, kept]
      · rfl

theorem update_seen (c : Capture) (kept : keep c.authorizationId = true) :
    (s.seen keep keepRefund).update c = (s.update c).map (seen keep keepRefund) := by
  have own (row : Capture)
      (isRow : decide (row.authorizationId = c.authorizationId ∧ row.id = c.id) = true) :
      keep row.authorizationId = true := by
    rw [(of_decide_eq_true isRow).1]
    exact kept
  have changed := Table.changeFirst_filter
    (fun row : Capture => { row with status := c.status }) own own s.captures
  rw [update, update, seen]
  rw [changed]
  cases Table.changeFirst _ _ s.captures <;> rfl

variable {s} {t : CaptureStore}

theorem create_unseen {c : Capture} {looked : CaptureSummary}
    (other : keep c.authorizationId = false) (done : s.create c looked = .ok t) :
    t.seen keep keepRefund = s.seen keep keepRefund := by
  rw [create] at done
  split at done
  · cases done
  · split at done <;> cases done
    simp [seen, List.filter_append, other]

theorem createForRefund_unseen {c : RefundCapture} {looked : CaptureSummary}
    (other : keepRefund c.refundId = false) (done : s.createForRefund c looked = .ok t) :
    t.seen keep keepRefund = s.seen keep keepRefund := by
  rw [createForRefund] at done
  split at done
  · cases done
  · split at done <;> cases done
    simp [seen, List.filter_append, other]

theorem update_unseen {c : Capture} (other : keep c.authorizationId = false)
    (done : s.update c = .ok t) : t.seen keep keepRefund = s.seen keep keepRefund := by
  rw [update] at done
  split at done
  · next rows changed =>
      cases done
      have hidden (row : Capture)
          (isRow : decide (row.authorizationId = c.authorizationId ∧ row.id = c.id) = true) :
          keep row.authorizationId = false := by
        rw [(of_decide_eq_true isRow).1]
        exact other
      have same := Table.filter_changeFirst (fun row => keep row.authorizationId) hidden
        hidden changed
      rw [seen, seen, same]
  · cases done

end CaptureStore

namespace ReversalStore

variable {keep : Uuid → Bool}

def seen (keep : Uuid → Bool) (s : ReversalStore) : ReversalStore :=
  ⟨(s.rows.filter fun r => keep r.authorizationId).map Reversal.untraced⟩

variable (s : ReversalStore)

theorem any_seen {id : Uuid} (kept : keep id = true) (holds : Reversal → Bool)
    (same : ∀ r, holds r.untraced = holds r) :
    ((s.seen keep).ofAuthorization id).any holds = (s.ofAuthorization id).any holds := by
  have rows : (s.seen keep).ofAuthorization id =
      (s.ofAuthorization id).map Reversal.untraced := by
    rw [ofAuthorization, ofAuthorization, seen, List.filter_map, List.filter_filter]
    congr 1
    refine List.filter_congr fun r _ => ?_
    by_cases own : r.authorizationId = id
    · simp [own, kept, Reversal.untraced]
    · simp [own, Reversal.untraced]
  have holdsToo : holds ∘ Reversal.untraced = holds := funext same
  rw [rows, List.any_map, holdsToo]

theorem pending_seen {id : Uuid} (kept : keep id = true) :
    (s.seen keep).pending id = s.pending id := s.any_seen kept _ fun _ => rfl

theorem reversed_seen {id : Uuid} (kept : keep id = true) :
    (s.seen keep).reversed id = s.reversed id := s.any_seen kept _ fun _ => rfl

theorem create_seen (r : Reversal) (kept : keep r.authorizationId = true) :
    (s.seen keep).create r.untraced = (s.create r).map (seen keep) := by
  have pending : (s.seen keep).pending r.untraced.authorizationId =
      s.pending r.authorizationId := s.pending_seen kept
  have stored : keep r.row.authorizationId = true := kept
  have row : r.untraced.row = r.row.untraced := by
    simp only [Reversal.row, Reversal.untraced, Option.map_map]
    rfl
  rw [create, pending, create]
  split
  · rfl
  · simp only [Except.map, seen, List.filter_append, List.map_append, List.filter_cons, stored,
      if_true, row]
    rfl

theorem update_seen (r : Reversal) (kept : keep r.authorizationId = true) :
    (s.seen keep).update r.untraced = (s.update r).map (seen keep) := by
  have own (row : Reversal)
      (isRow : decide (row.authorizationId = r.authorizationId ∧ row.id = r.id) = true) :
      keep row.authorizationId = true := by
    rw [(of_decide_eq_true isRow).1]
    exact kept
  have changed : Table.changeFirst
        (fun row : Reversal => row.authorizationId = r.untraced.authorizationId ∧
          row.id = r.untraced.id)
        (fun row => { row with status := r.untraced.status, response := r.untraced.response })
        (s.seen keep).rows =
      (Table.changeFirst
        (fun row : Reversal => row.authorizationId = r.authorizationId ∧ row.id = r.id)
        (fun row => { row with status := r.status, response := r.response }) s.rows).map
          fun rows => (rows.filter fun row => keep row.authorizationId).map .untraced := by
    apply Table.changeFirst_kept Reversal.untraced own
    exacts [own, fun _ => rfl, fun _ => rfl]
  rw [update, update]
  rw [changed]
  cases Table.changeFirst _ _ s.rows <;> rfl

variable {s} {t : ReversalStore} {r : Reversal}

theorem create_unseen (other : keep r.authorizationId = false) (done : s.create r = .ok t) :
    t.seen keep = s.seen keep := by
  have stored : keep r.row.authorizationId = false := other
  rw [create] at done
  split at done <;> cases done
  simp [seen, List.filter_append, stored]

theorem update_unseen (other : keep r.authorizationId = false) (done : s.update r = .ok t) :
    t.seen keep = s.seen keep := by
  rw [update] at done
  split at done
  · next rows changed =>
      cases done
      have hidden (row : Reversal)
          (isRow : decide (row.authorizationId = r.authorizationId ∧ row.id = r.id) = true) :
          keep row.authorizationId = false := by
        rw [(of_decide_eq_true isRow).1]
        exact other
      have same := Table.filter_changeFirst (fun row => keep row.authorizationId) hidden
        hidden changed
      rw [seen, seen, same]
  · cases done

end ReversalStore

/-! ## Card numbers -/

namespace Vault

variable {keep : String → Bool}

/-- The entries that may be opened, whatever was issued so far. -/
def seen (keep : String → Bool) (v : Vault) : List ((String × String) × Pan) :=
  v.entries.filter fun e => keep e.1.2

end Vault

/-! ## Events -/

namespace Publication

/-- The PSP that a published event names. -/
def psp? (x : Publication) : Option String :=
  (Json.parseText x.payload).bind fun j =>
    match j.record ["pspId"] with
    | some [psp] => Json.required Json.readString psp
    | _ => none

def isFor (psp : String) (x : Publication) : Bool := x.psp? = some psp

end Publication
end CardPayments
