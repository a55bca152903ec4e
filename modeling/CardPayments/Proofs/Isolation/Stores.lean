import CardPayments.Proofs.Isolation.Scope

/-! # Stores that agree for one PSP

Two stores agree for a PSP when what it sees of them is the same.  Calls about what belongs to the
PSP are then answered alike and leave stores that agree again; calls about what belongs to others
leave a store that agrees with the one before. -/
set_option autoImplicit false

namespace CardPayments

/-- What belongs to one PSP: the ids of its authorizations and of its refunds, and its tokens. -/
structure Scope where
  psp : String
  authorizations : Uuid → Bool
  refunds : Uuid → Bool
  tokens : String → Bool

namespace Scope

variable (scope : Scope)

/-- The rows under the ids of the PSP are its own, and their cards have its tokens. -/
structure Fits (s : Stores) : Prop where
  authorizations : ∀ row ∈ s.authorizations.rows,
    (row.psp = scope.psp ↔ scope.authorizations row.id = true)
  refunds : ∀ row ∈ s.refunds.rows, (row.psp = scope.psp ↔ scope.refunds row.id = true)
  tokens : ∀ row ∈ s.authorizations.rows, row.psp = scope.psp → ∀ token,
    row.card.token = some token → scope.tokens token = true
  refundTokens : ∀ row ∈ s.refunds.rows, row.psp = scope.psp → ∀ token,
    row.card.token = some token → scope.tokens token = true

structure Agree (s t : Stores) : Prop where
  left : scope.Fits s
  right : scope.Fits t
  vault : s.vault.seen scope.tokens = t.vault.seen scope.tokens
  authorizations :
    s.authorizations.seen scope.authorizations = t.authorizations.seen scope.authorizations
  refunds : s.refunds.seen scope.refunds = t.refunds.seen scope.refunds
  captures : s.captures.seen scope.authorizations scope.refunds =
    t.captures.seen scope.authorizations scope.refunds
  reversals : s.reversals.seen scope.authorizations = t.reversals.seen scope.authorizations
  published : s.published.filter (Publication.isFor scope.psp) =
    t.published.filter (Publication.isFor scope.psp)

/-- What is stored under an id of the PSP is its own. -/
def Respects : Call → Prop
  | .createAuthorization a => (a.psp = scope.psp ↔ scope.authorizations a.id = true) ∧
      (a.psp = scope.psp → ∀ token, a.card.token = some token → scope.tokens token = true)
  | .createRefund r => (r.psp = scope.psp ↔ scope.refunds r.id = true) ∧
      (r.psp = scope.psp → ∀ token, r.card.token = some token → scope.tokens token = true)
  | _ => True

/-- The call reads, or writes what belongs to others; a card may not be tokenized. -/
def Outside : Call → Prop
  | .tokenize .. => False
  | .createAuthorization a => a.psp ≠ scope.psp ∧ scope.authorizations a.id = false
  | .createAuthorizationData _ a => scope.authorizations a.id = false
  | .updateAuthorization a => scope.authorizations a.id = false
  | .createRefund r => r.psp ≠ scope.psp ∧ scope.refunds r.id = false
  | .createRefundData _ r => scope.refunds r.id = false
  | .updateRefund r => scope.refunds r.id = false
  | .createCapture c _ => scope.authorizations c.authorizationId = false
  | .updateCapture c => scope.authorizations c.authorizationId = false
  | .createRefundCapture c _ => scope.refunds c.refundId = false
  | .createReversal r => scope.authorizations r.authorizationId = false
  | .updateReversal r => scope.authorizations r.authorizationId = false
  | .publish topic payload => Publication.isFor scope.psp ⟨topic, payload⟩ = false
  | _ => True

variable {scope} {s t u : Stores}

/-! ## Rows of the PSP -/

theorem Fits.of_rows (fits : scope.Fits s)
    (authorizations : t.authorizations.rows = s.authorizations.rows)
    (refunds : t.refunds.rows = s.refunds.rows) : scope.Fits t :=
  ⟨authorizations ▸ fits.authorizations, refunds ▸ fits.refunds, authorizations ▸ fits.tokens,
    refunds ▸ fits.refundTokens⟩

theorem Fits.createAuthorization (fits : scope.Fits s) {a : Authorization}
    (respects : scope.Respects (.createAuthorization a)) {store : AuthorizationStore}
    (done : s.authorizations.create a = .ok store) :
    scope.Fits { s with authorizations := store } :=
  { fits with
    authorizations := TransactionStore.create_forall fits.authorizations respects.1 done
    tokens := TransactionStore.create_forall fits.tokens respects.2 done }

theorem Fits.createRefund (fits : scope.Fits s) {r : Refund}
    (respects : scope.Respects (.createRefund r)) {store : RefundStore}
    (done : s.refunds.create r = .ok store) : scope.Fits { s with refunds := store } :=
  { fits with
    refunds := TransactionStore.create_forall fits.refunds respects.1 done
    refundTokens := TransactionStore.create_forall fits.refundTokens respects.2 done }

theorem Fits.updateAuthorization (fits : scope.Fits s) {a : Authorization}
    {store : AuthorizationStore} (done : s.authorizations.update a = .ok store) :
    scope.Fits { s with authorizations := store } :=
  { fits with
    authorizations := TransactionStore.update_forall fits.authorizations (fun _ own => own) done
    tokens := TransactionStore.update_forall fits.tokens (fun _ own => own) done }

theorem Fits.updateRefund (fits : scope.Fits s) {r : Refund} {store : RefundStore}
    (done : s.refunds.update r = .ok store) : scope.Fits { s with refunds := store } :=
  { fits with
    refunds := TransactionStore.update_forall fits.refunds (fun _ own => own) done
    refundTokens := TransactionStore.update_forall fits.refundTokens (fun _ own => own) done }

theorem Fits.createAuthorizationData (fits : scope.Fits s) {scheme : Scheme} {a : Authorization}
    {store : AuthorizationStore} (done : s.authorizations.createData scheme a = .ok store) :
    scope.Fits { s with authorizations := store } :=
  { fits with
    authorizations := TransactionStore.createData_forall fits.authorizations done
    tokens := TransactionStore.createData_forall fits.tokens done }

theorem Fits.createRefundData (fits : scope.Fits s) {scheme : Scheme} {r : Refund}
    {store : RefundStore} (done : s.refunds.createData scheme r = .ok store) :
    scope.Fits { s with refunds := store } :=
  { fits with
    refunds := TransactionStore.createData_forall fits.refunds done
    refundTokens := TransactionStore.createData_forall fits.refundTokens done }

/-- Only under its own ids a PSP finds anything. -/
theorem Fits.authorization_error (fits : scope.Fits s) {id : Uuid}
    (other : scope.authorizations id = false) :
    s.authorizations.getFull scope.psp id = .error .recordNotFound := by
  refine TransactionStore.getFull_hidden fun row stored own => ?_
  have isRow : row.id = id := TransactionStore.id_of_row? stored
  have kept := (fits.authorizations row (List.mem_of_find?_eq_some stored)).mp own
  rw [isRow, other] at kept
  cases kept

theorem Fits.refund_error (fits : scope.Fits s) {id : Uuid} (other : scope.refunds id = false) :
    s.refunds.getFull scope.psp id = .error .recordNotFound := by
  refine TransactionStore.getFull_hidden fun row stored own => ?_
  have isRow : row.id = id := TransactionStore.id_of_row? stored
  have kept := (fits.refunds row (List.mem_of_find?_eq_some stored)).mp own
  rw [isRow, other] at kept
  cases kept

namespace Agree

theorem refl (fits : scope.Fits s) : scope.Agree s s := ⟨fits, fits, rfl, rfl, rfl, rfl, rfl, rfl⟩

theorem trans (first : scope.Agree s t) (second : scope.Agree t u) : scope.Agree s u :=
  ⟨first.left, second.right, first.vault.trans second.vault,
    first.authorizations.trans second.authorizations, first.refunds.trans second.refunds,
    first.captures.trans second.captures, first.reversals.trans second.reversals,
    first.published.trans second.published⟩

theorem changed {σ β : Type} (view : σ → β) {put put' : σ → Stores}
    {x y : Except PaymentError σ} (agree : scope.Agree s t) (images : x.map view = y.map view)
    (joined : ∀ u v, x = .ok u → y = .ok v → view u = view v → scope.Agree (put u) (put' v)) :
    (s.changed put x).1 = (t.changed put' y).1 ∧
      scope.Agree (s.changed put x).2 (t.changed put' y).2 := by
  cases Replies.of_map images with
  | ok same => exact ⟨rfl, joined _ _ rfl rfl same⟩
  | error same => exact ⟨congrArg Except.error same, agree⟩

variable (agree : scope.Agree s t)
include agree

theorem tokenize (issued : s.vault.issued = t.vault.issued)
    (own : scope.tokens (Vault.token t.vault.issued) = true) (merchant : String) (card : Card) :
    (s.answer (.tokenize merchant card)).1 = (t.answer (.tokenize merchant card)).1 ∧
      scope.Agree (s.answer (.tokenize merchant card)).2
        (t.answer (.tokenize merchant card)).2 := by
  simp only [Stores.answer, Vault.tokenize]
  cases card.pan with
  | none => exact ⟨rfl, agree⟩
  | some pan =>
      refine ⟨by rw [issued], { agree with
        left := agree.left.of_rows rfl rfl, right := agree.right.of_rows rfl rfl, vault := ?_ }⟩
      have vault := agree.vault
      simp only [Vault.seen] at vault
      simp only [Vault.seen, issued, List.filter_cons, own, if_true, vault]

theorem createAuthorization {a : Authorization}
    (respects : scope.Respects (.createAuthorization a)) (own : a.psp = scope.psp) :
    (s.answer (.createAuthorization a)).1 = (t.answer (.createAuthorization a)).1 ∧
      scope.Agree (s.answer (.createAuthorization a)).2 (t.answer (.createAuthorization a)).2 := by
  have kept := respects.1.mp own
  exact agree.changed (AuthorizationStore.seen scope.authorizations)
    (TransactionStore.create_alike Authorization.untraced_copies agree.authorizations rfl kept)
    fun _ _ stored stored' same => { agree with
      left := agree.left.createAuthorization respects stored
      right := agree.right.createAuthorization respects stored'
      authorizations := same }

theorem createAuthorizationData {a b : Authorization} (same : a.untraced = b.untraced)
    (kept : scope.authorizations a.id = true) (scheme : Scheme) :
    (s.answer (.createAuthorizationData scheme a)).1 =
        (t.answer (.createAuthorizationData scheme b)).1 ∧
      scope.Agree (s.answer (.createAuthorizationData scheme a)).2
        (t.answer (.createAuthorizationData scheme b)).2 :=
  agree.changed (AuthorizationStore.seen scope.authorizations)
    (TransactionStore.createData_alike Authorization.untraced_copies agree.authorizations same kept
      scheme)
    fun _ _ stored stored' same => { agree with
      left := agree.left.createAuthorizationData stored
      right := agree.right.createAuthorizationData stored'
      authorizations := same }

theorem updateAuthorization {a b : Authorization} (same : a.untraced = b.untraced)
    (kept : scope.authorizations a.id = true) :
    (s.answer (.updateAuthorization a)).1 = (t.answer (.updateAuthorization b)).1 ∧
      scope.Agree (s.answer (.updateAuthorization a)).2 (t.answer (.updateAuthorization b)).2 :=
  agree.changed (AuthorizationStore.seen scope.authorizations)
    (TransactionStore.update_alike Authorization.untraced_copies agree.authorizations same kept)
    fun _ _ stored stored' same => { agree with
      left := agree.left.updateAuthorization stored
      right := agree.right.updateAuthorization stored'
      authorizations := same }

theorem createRefund {r : Refund} (respects : scope.Respects (.createRefund r))
    (own : r.psp = scope.psp) :
    (s.answer (.createRefund r)).1 = (t.answer (.createRefund r)).1 ∧
      scope.Agree (s.answer (.createRefund r)).2 (t.answer (.createRefund r)).2 := by
  have kept : scope.refunds r.id = true := respects.1.mp own
  exact agree.changed (RefundStore.seen scope.refunds)
    (TransactionStore.create_alike Refund.untraced_copies agree.refunds rfl kept)
    fun _ _ stored stored' same => { agree with
      left := agree.left.createRefund respects stored
      right := agree.right.createRefund respects stored'
      refunds := same }

theorem createRefundData {r x : Refund} (same : r.untraced = x.untraced)
    (kept : scope.refunds r.id = true) (scheme : Scheme) :
    (s.answer (.createRefundData scheme r)).1 = (t.answer (.createRefundData scheme x)).1 ∧
      scope.Agree (s.answer (.createRefundData scheme r)).2
        (t.answer (.createRefundData scheme x)).2 :=
  agree.changed (RefundStore.seen scope.refunds)
    (TransactionStore.createData_alike Refund.untraced_copies agree.refunds same kept scheme)
    fun _ _ stored stored' same => { agree with
      left := agree.left.createRefundData stored
      right := agree.right.createRefundData stored'
      refunds := same }

theorem updateRefund {r x : Refund} (same : r.untraced = x.untraced)
    (kept : scope.refunds r.id = true) :
    (s.answer (.updateRefund r)).1 = (t.answer (.updateRefund x)).1 ∧
      scope.Agree (s.answer (.updateRefund r)).2 (t.answer (.updateRefund x)).2 :=
  agree.changed (RefundStore.seen scope.refunds)
    (TransactionStore.update_alike Refund.untraced_copies agree.refunds same kept)
    fun _ _ stored stored' same => { agree with
      left := agree.left.updateRefund stored
      right := agree.right.updateRefund stored'
      refunds := same }

theorem createCapture {c : Capture} (kept : scope.authorizations c.authorizationId = true)
    (looked : CaptureSummary) :
    (s.answer (.createCapture c looked)).1 = (t.answer (.createCapture c looked)).1 ∧
      scope.Agree (s.answer (.createCapture c looked)).2
        (t.answer (.createCapture c looked)).2 := by
  refine agree.changed (CaptureStore.seen scope.authorizations scope.refunds) ?_
    fun u v _ _ same => { agree with
      left := agree.left.of_rows rfl rfl, right := agree.right.of_rows rfl rfl, captures := same }
  rw [← CaptureStore.create_seen _ _ _ kept, agree.captures, CaptureStore.create_seen _ _ _ kept]

theorem updateCapture {c : Capture} (kept : scope.authorizations c.authorizationId = true) :
    (s.answer (.updateCapture c)).1 = (t.answer (.updateCapture c)).1 ∧
      scope.Agree (s.answer (.updateCapture c)).2 (t.answer (.updateCapture c)).2 := by
  refine agree.changed (CaptureStore.seen scope.authorizations scope.refunds) ?_
    fun u v _ _ same => { agree with
      left := agree.left.of_rows rfl rfl, right := agree.right.of_rows rfl rfl, captures := same }
  rw [← CaptureStore.update_seen _ _ kept, agree.captures, CaptureStore.update_seen _ _ kept]

theorem createRefundCapture {c : RefundCapture} (kept : scope.refunds c.refundId = true)
    (looked : CaptureSummary) :
    (s.answer (.createRefundCapture c looked)).1 = (t.answer (.createRefundCapture c looked)).1 ∧
      scope.Agree (s.answer (.createRefundCapture c looked)).2
        (t.answer (.createRefundCapture c looked)).2 := by
  refine agree.changed (CaptureStore.seen scope.authorizations scope.refunds) ?_
    fun u v _ _ same => { agree with
      left := agree.left.of_rows rfl rfl, right := agree.right.of_rows rfl rfl, captures := same }
  rw [← CaptureStore.createForRefund_seen _ _ _ kept, agree.captures,
    CaptureStore.createForRefund_seen _ _ _ kept]

theorem createReversal {r x : Reversal} (same : r.untraced = x.untraced)
    (kept : scope.authorizations r.authorizationId = true) :
    (s.answer (.createReversal r)).1 = (t.answer (.createReversal x)).1 ∧
      scope.Agree (s.answer (.createReversal r)).2 (t.answer (.createReversal x)).2 := by
  have kept' : scope.authorizations x.authorizationId = true := by
    rwa [← Reversal.authorizationId_of_untraced same]
  refine agree.changed (ReversalStore.seen scope.authorizations) ?_
    fun u v _ _ same => { agree with
      left := agree.left.of_rows rfl rfl, right := agree.right.of_rows rfl rfl, reversals := same }
  rw [← ReversalStore.create_seen _ _ kept, agree.reversals, same,
    ReversalStore.create_seen _ _ kept']

theorem updateReversal {r x : Reversal} (same : r.untraced = x.untraced)
    (kept : scope.authorizations r.authorizationId = true) :
    (s.answer (.updateReversal r)).1 = (t.answer (.updateReversal x)).1 ∧
      scope.Agree (s.answer (.updateReversal r)).2 (t.answer (.updateReversal x)).2 := by
  have kept' : scope.authorizations x.authorizationId = true := by
    rwa [← Reversal.authorizationId_of_untraced same]
  refine agree.changed (ReversalStore.seen scope.authorizations) ?_
    fun u v _ _ same => { agree with
      left := agree.left.of_rows rfl rfl, right := agree.right.of_rows rfl rfl, reversals := same }
  rw [← ReversalStore.update_seen _ _ kept, agree.reversals, same,
    ReversalStore.update_seen _ _ kept']

theorem publish (topic payload : String) :
    scope.Agree (s.answer (.publish topic payload)).2 (t.answer (.publish topic payload)).2 := by
  refine { agree with
    left := agree.left.of_rows rfl rfl, right := agree.right.of_rows rfl rfl, published := ?_ }
  simp only [Stores.answer, List.filter_append, agree.published]

/-! Reads are answered alike. -/

theorem authorization (id : Uuid) :
    Replies (fun a b => a.untraced = b.untraced) (fun e e' => e = e')
      (s.authorizations.getFull scope.psp id) (t.authorizations.getFull scope.psp id) := by
  cases kept : scope.authorizations id with
  | true =>
      exact Replies.of_map <| TransactionStore.getFull_alike Authorization.untraced_copies
        agree.authorizations scope.psp kept
  | false =>
      rw [agree.left.authorization_error kept, agree.right.authorization_error kept]
      exact .error rfl

theorem refund (id : Uuid) :
    Replies (fun r x => r.untraced = x.untraced) (fun e e' => e = e')
      (s.refunds.getFull scope.psp id) (t.refunds.getFull scope.psp id) := by
  cases kept : scope.refunds id with
  | true =>
      exact Replies.of_map <|
        TransactionStore.getFull_alike Refund.untraced_copies agree.refunds scope.psp kept
  | false =>
      rw [agree.left.refund_error kept, agree.right.refund_error kept]
      exact .error rfl

theorem ofPsp (order : List Uuid) :
    (s.authorizations.ofPsp scope.psp order).map Authorization.untraced =
      (t.authorizations.ofPsp scope.psp order).map Authorization.untraced :=
  TransactionStore.ofPsp_alike Authorization.untraced_copies agree.authorizations order
    (fun row stored => (agree.left.authorizations row stored).mp)
    fun row stored => (agree.right.authorizations row stored).mp

theorem summary {id : Uuid} (kept : scope.authorizations id = true) :
    s.captures.summary id = t.captures.summary id := by
  rw [← CaptureStore.summary_seen _ kept, agree.captures, CaptureStore.summary_seen _ kept]

theorem finalExists {id : Uuid} (kept : scope.authorizations id = true) :
    s.captures.finalExists id = t.captures.finalExists id := by
  rw [CaptureStore.finalExists, agree.summary kept, CaptureStore.finalExists]

theorem refundSummary {id : Uuid} (kept : scope.refunds id = true) :
    s.captures.refundSummary id = t.captures.refundSummary id := by
  rw [← CaptureStore.refundSummary_seen _ kept, agree.captures,
    CaptureStore.refundSummary_seen _ kept]

theorem pending {id : Uuid} (kept : scope.authorizations id = true) :
    s.reversals.pending id = t.reversals.pending id := by
  rw [← ReversalStore.pending_seen _ kept, agree.reversals, ReversalStore.pending_seen _ kept]

theorem reversed {id : Uuid} (kept : scope.authorizations id = true) :
    s.reversals.reversed id = t.reversals.reversed id := by
  rw [← ReversalStore.reversed_seen _ kept, agree.reversals, ReversalStore.reversed_seen _ kept]

end Agree

/-! ## Calls of others -/

theorem Fits.changed {σ : Type} {put : σ → Stores} {x : Except PaymentError σ}
    (fits : scope.Fits s) (joined : ∀ store, x = .ok store → scope.Agree (put store) s) :
    scope.Agree (s.changed put x).2 s := by
  cases x with
  | ok store => exact joined store rfl
  | error e => exact .refl fits

/-- What belongs to others does not show when it changes. -/
theorem Fits.outside (fits : scope.Fits s) {call : Call} (outside : scope.Outside call) :
    scope.Agree (s.answer call).2 s := by
  cases call with
  | tokenize => exact outside.elim
  | createAuthorization a =>
      obtain ⟨foreign, other⟩ := outside
      refine fits.changed fun store done => { Agree.refl fits with
        left := fits.createAuthorization ?_ done
        authorizations := TransactionStore.create_image_other other done }
      refine ⟨⟨fun own => absurd own foreign, fun own => ?_⟩, fun own => absurd own foreign⟩
      rw [other] at own
      cases own
  | createAuthorizationData scheme a =>
      exact fits.changed fun store done => { Agree.refl fits with
        left := fits.createAuthorizationData done
        authorizations := TransactionStore.createData_image_other outside done }
  | updateAuthorization a =>
      exact fits.changed fun store done => { Agree.refl fits with
        left := fits.updateAuthorization done
        authorizations := TransactionStore.update_image_other outside done }
  | createRefund r =>
      obtain ⟨foreign, other⟩ := outside
      refine fits.changed fun store done => { Agree.refl fits with
        left := fits.createRefund ?_ done
        refunds := TransactionStore.create_image_other other done }
      refine ⟨⟨fun own => absurd own foreign, fun own => ?_⟩, fun own => absurd own foreign⟩
      rw [other] at own
      cases own
  | createRefundData scheme r =>
      exact fits.changed fun store done => { Agree.refl fits with
        left := fits.createRefundData done
        refunds := TransactionStore.createData_image_other outside done }
  | updateRefund r =>
      exact fits.changed fun store done => { Agree.refl fits with
        left := fits.updateRefund done
        refunds := TransactionStore.update_image_other outside done }
  | createCapture c looked =>
      exact fits.changed fun store done => { Agree.refl fits with
        left := fits.of_rows rfl rfl
        captures := CaptureStore.create_unseen outside done }
  | updateCapture c =>
      exact fits.changed fun store done => { Agree.refl fits with
        left := fits.of_rows rfl rfl
        captures := CaptureStore.update_unseen outside done }
  | createRefundCapture c looked =>
      exact fits.changed fun store done => { Agree.refl fits with
        left := fits.of_rows rfl rfl
        captures := CaptureStore.createForRefund_unseen outside done }
  | createReversal r =>
      exact fits.changed fun store done => { Agree.refl fits with
        left := fits.of_rows rfl rfl
        reversals := ReversalStore.create_unseen outside done }
  | updateReversal r =>
      exact fits.changed fun store done => { Agree.refl fits with
        left := fits.of_rows rfl rfl
        reversals := ReversalStore.update_unseen outside done }
  | publish topic payload =>
      have hidden : ¬ Publication.isFor scope.psp ⟨topic, payload⟩ = true :=
        Bool.eq_false_iff.mp outside
      refine { Agree.refl fits with left := fits.of_rows rfl rfl, published := ?_ }
      simp [Stores.answer, List.filter_append, hidden]
  | _ => exact .refl fits

end Scope
end CardPayments
