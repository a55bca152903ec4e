import CardPayments.Proofs.Undisturbed.Authorize
import CardPayments.Proofs.Undisturbed.Capture

/-! # Reversals that nothing disturbs

A reversal of an approved authorization that is neither reversed nor finally captured is stored,
finds the summary of captures as it was, and is approved by the network. -/
set_option autoImplicit false

namespace CardPayments

def Vault.Opens (v : Vault) (merchant : String) (card : Card) : Prop :=
  ∃ pan, v.detokenize merchant card = .ok { card with pan := some pan }

theorem Vault.Opens.added {v : Vault} {merchant : String} {card : Card}
    (opens : v.Opens merchant card) (other : String) (pan : Pan) :
    (v.added other pan).Opens merchant card := by
  obtain ⟨found, opened⟩ := opens
  rw [detokenize] at opened
  cases holds : card.token with
  | none => simp [holds] at opened
  | some token =>
      simp only [holds] at opened
      rw [Opens, detokenize, holds]
      by_cases same : (merchant, token) = (other, Vault.token v.issued)
      · exact ⟨pan, by simp [Vault.added, same]⟩
      · have differs : ((merchant, token) == (other, Vault.token v.issued)) = false := by
          simpa using same
        refine ⟨found, ?_⟩
        simp only [Vault.added, List.lookup_cons, differs]
        exact opened

/-- The token of a card that was just put into the vault opens it. -/
theorem Vault.opens_added (v : Vault) (merchant : String) (pan : Pan) {card : Card}
    (holds : card.token = some (token v.issued)) : (v.added merchant pan).Opens merchant card := by
  refine ⟨pan, ?_⟩
  simp [detokenize, holds, added]

namespace ReversalStore

variable {store : ReversalStore} {id : Uuid}

theorem pending_of_none (none : store.ofAuthorization id = []) : store.pending id = false := by
  rw [pending, none]
  rfl

theorem reversed_of_none (none : store.ofAuthorization id = []) : store.reversed id = false := by
  rw [reversed, none]
  rfl

theorem update_concat (r row : Reversal) (account : row.authorizationId = r.authorizationId)
    (named : row.id = r.id) (none : store.ofAuthorization r.authorizationId = []) :
    (⟨store.rows ++ [row]⟩ : ReversalStore).update r =
      .ok ⟨store.rows ++ [{ row with status := r.status, response := r.response }]⟩ := by
  have fresh (other : Reversal) (member : other ∈ store.rows) :
      ¬ (other.authorizationId = r.authorizationId ∧ other.id = r.id) := by
    intro isRow
    rw [ofAuthorization, List.filter_eq_nil_iff] at none
    exact none other member (decide_eq_true isRow.1)
  have changed := Table.changeFirst_concat
    (fun x : Reversal => decide (x.authorizationId = r.authorizationId ∧ x.id = r.id))
    (fun x => { x with status := r.status, response := r.response }) store.rows row
    (fun other member => decide_eq_false (fresh other member)) (decide_eq_true ⟨account, named⟩)
  simp only [update, changed]

end ReversalStore

section

variable {s : System} {p : Processor} {stan : UInt64} {traces : TraceNumbers} {id : Uuid}
  {row a : Authorization} {r : Reversal} {seen : CaptureSummary}

def Reversal.approved (r : Reversal) (stan : UInt64) (today : Date) : Reversal :=
  { r with status := .succeeded, response := some (.approval stan today) }

/-- A reversal that was stored is sent, and succeeds. -/
theorem Processor.run_sendReversal {rows : List Reversal} (approves : s.Approves p)
    (taken : s.traces.next = (.ok stan, traces)) (carries : r.authorization = some a)
    (clear : a.card.pan.isSome = true) (stored : s.stores.reversals = ⟨rows ++ [r.row]⟩)
    (none : (⟨rows⟩ : ReversalStore).ofAuthorization r.authorizationId = []) :
    (p.sendReversal r).run s = ((r.approved stan traces.today, .ok ()),
      { s with
        stores := { s.stores with reversals := ⟨rows ++ [(r.approved stan traces.today).row]⟩ }
        traces := traces }) := by
  obtain ⟨pan, isClear⟩ := Option.isSome_iff_exists.mp clear
  have sendable : SimulatedNetwork.refuse (.reverse r) = Option.none := by
    simp only [SimulatedNetwork.refuse, carries, Option.bind_some, isClear]
  have hasScheme : r.scheme? = some a.card.scheme := by
    rw [Reversal.scheme?, carries]
    rfl
  have kept : s.stores.reversals.update (r.approved stan traces.today) =
      .ok ⟨rows ++ [(r.approved stan traces.today).row]⟩ := by
    rw [stored]
    exact ReversalStore.update_concat (r.approved stan traces.today) r.row rfl rfl none
  have updated : s.stores.answer (.updateReversal (r.approved stan traces.today)) =
      (.ok (), { s.stores with reversals := ⟨rows ++ [(r.approved stan traces.today).row]⟩ }) :=
    congrArg (s.stores.changed _) kept
  rw [sendReversal, dispatchReversal, hasScheme]
  refine (p.run_dispatch approves taken _ _ _ _ sendable).trans ?_
  exact Flow.run_require_ok updated

theorem Processor.run_recheckReversal {rows : List Reversal} (approves : s.Approves p)
    (taken : s.traces.next = (.ok stan, traces)) (carries : r.authorization = some a)
    (clear : a.card.pan.isSome = true) (account : r.authorizationId = a.id)
    (summed : s.stores.captures.summary a.id = .ok seen)
    (stored : s.stores.reversals = ⟨rows ++ [r.row]⟩)
    (none : (⟨rows⟩ : ReversalStore).ofAuthorization a.id = []) :
    (p.recheckReversal a.id seen r).run s = ((r.approved stan traces.today, .ok ()),
      { s with
        stores := { s.stores with reversals := ⟨rows ++ [(r.approved stan traces.today).row]⟩ }
        traces := traces }) := by
  have read : s.stores.answer (.captureSummary a.id) = (.ok seen, s.stores) := by
    rw [Stores.answer, summed]
    rfl
  refine (Flow.run_require_ok read).trans ?_
  simp only [CaptureSummary.same_self, if_true]
  exact p.run_sendReversal approves taken carries clear stored (account ▸ none)

/-- What a reversal stores of an authorization whose number was looked up. -/
def Reversal.prepared (r : Reversal) (a : Authorization) (amount : Amount) : Reversal :=
  { r with amount := some amount, authorization := some a, status := .new }

theorem Processor.run_storeReversal {amount : Amount} (approves : s.Approves p)
    (taken : s.traces.next = (.ok stan, traces)) (clear : a.card.pan.isSome = true)
    (account : r.authorizationId = a.id) (summed : s.stores.captures.summary a.id = .ok seen)
    (isLeft : seen.reversalAmount a.amount = .ok amount)
    (none : s.stores.reversals.ofAuthorization a.id = []) :
    let final := (r.prepared a amount).approved stan traces.today
    (p.storeReversal a seen r).run s = ((final, .ok ()),
      { s with
        stores := { s.stores with reversals := ⟨s.stores.reversals.rows ++ [final.row]⟩ }
        traces := traces }) := by
  intro final
  have free : s.stores.reversals.pending r.authorizationId = false :=
    ReversalStore.pending_of_none (account ▸ none)
  have created : s.stores.reversals.create (r.prepared a amount) =
      .ok ⟨s.stores.reversals.rows ++ [(r.prepared a amount).row]⟩ := by
    simp only [ReversalStore.create, Reversal.prepared, free, Bool.false_eq_true, if_false]
  have stored : s.stores.answer (.createReversal (r.prepared a amount)) = (.ok (), { s.stores with
      reversals := ⟨s.stores.reversals.rows ++ [(r.prepared a amount).row]⟩ }) :=
    congrArg (s.stores.changed _) created
  have onStored := approves.withStores { s.stores with
    reversals := ⟨s.stores.reversals.rows ++ [(r.prepared a amount).row]⟩ }
  simp only [storeReversal, isLeft]
  refine (Flow.run_require_ok stored).trans ?_
  exact p.run_recheckReversal onStored taken rfl clear account summed rfl none

/-! ## From the checks to the answer -/

theorem Processor.run_prepareReversal_reversed
    (reversed : s.stores.reversals.reversed a.id = true) :
    (p.prepareReversal a r).run s =
      ((r, .error (PaymentError.alreadyReversed.within "invalid reversal")), s) := by
  have read : s.stores.answer (.alreadyReversed a.id) = (.ok true, s.stores) := by
    rw [Stores.answer, reversed]
  exact (Flow.run_require_ok read).trans rfl

theorem Processor.run_prepareReversal_unreversed
    (unreversed : s.stores.reversals.reversed a.id = false)
    (summed : s.stores.captures.summary a.id = .ok seen) :
    (p.prepareReversal a r).run s =
      if seen.hasFinal then
        ((r, .error (PaymentError.finalCaptureExists.within "invalid reversal")), s)
      else (p.storeReversal a seen r).run s := by
  have first : s.stores.answer (.alreadyReversed a.id) = (.ok false, s.stores) := by
    rw [Stores.answer, unreversed]
  have exists_ : s.stores.captures.finalExists a.id = .ok seen.hasFinal := by
    simp only [CaptureStore.finalExists, summed]
  have second : s.stores.answer (.finalCaptureExists a.id) = (.ok seen.hasFinal, s.stores) := by
    rw [Stores.answer, exists_]
    rfl
  have third : s.stores.answer (.captureSummary a.id) = (.ok seen, s.stores) := by
    rw [Stores.answer, summed]
    rfl
  refine (Flow.run_require_ok first).trans ((Flow.run_require_ok second).trans ?_)
  cases seen.hasFinal with
  | true => rfl
  | false => exact Flow.run_require_ok third

variable {createdAt : Instant} {reversalId : Uuid}

/-- The authorization is shown to its own PSP, and belongs to the reversal. -/
theorem Processor.run_reverse (stored : s.stores.authorizations.row? id = some row) :
    (p.reverse row.psp (.ofId reversalId id createdAt)).run s =
      if row.status ≠ .approved then
        ((.ofId reversalId id createdAt,
          .error (PaymentError.authorizationNotApproved.within "invalid reversal")), s)
      else
        (Flow.require (.ofId reversalId id createdAt) "failed to detokenize card"
          (.detokenize row.merchant row.card) fun card => p.prepareReversal
            { s.stores.authorizations.shown row with card := card }
            (.ofId reversalId id createdAt)).run s := by
  have named : row.id = id := TransactionStore.id_of_row? stored
  have read : s.stores.answer (.authorization row.psp id) =
      (.ok (s.stores.authorizations.shown row), s.stores) :=
    congrArg (·, s.stores) (TransactionStore.getFull_row stored).2
  have owner : ¬ (s.stores.authorizations.shown row).psp ≠ row.psp := not_not.mpr rfl
  have same : ¬ (s.stores.authorizations.shown row).id ≠
      (Reversal.ofId reversalId id createdAt).authorizationId := not_not.mpr named
  refine (Flow.run_require_ok read).trans ?_
  rw [reverseAuthorization, if_neg owner, if_neg same]
  by_cases refused : row.status ≠ .approved
  · have isShown : (s.stores.authorizations.shown row).status ≠ .approved := refused
    rw [if_pos refused, if_pos isShown]
    rfl
  · have isShown : ¬ (s.stores.authorizations.shown row).status ≠ .approved := refused
    rw [if_neg refused, if_neg isShown]
    rfl

theorem Processor.run_reverse_approved (reversalId : Uuid) (createdAt : Instant)
    (stored : s.stores.authorizations.row? id = some row) (approved : row.status = .approved)
    (opens : s.stores.vault.Opens row.merchant row.card) :
    ∃ a, a.id = id ∧ a.amount = row.amount ∧ a.card.pan.isSome = true ∧
      (p.reverse row.psp (.ofId reversalId id createdAt)).run s =
        (p.prepareReversal a (.ofId reversalId id createdAt)).run s := by
  obtain ⟨named, _⟩ := TransactionStore.getFull_row stored
  obtain ⟨pan, opened⟩ := opens
  have read : s.stores.answer (.detokenize row.merchant row.card) =
      (.ok { row.card with pan := some pan }, s.stores) := by
    rw [Stores.answer, opened]
    rfl
  refine ⟨{ s.stores.authorizations.shown row with card := { row.card with pan := some pan } },
    named, rfl, rfl, ?_⟩
  rw [p.run_reverse stored, if_neg (not_not.mpr approved)]
  exact Flow.run_require_ok read

end
end CardPayments
