import CardPayments.Proofs.Secrecy.Card
import CardPayments.Proofs.Store.Rows

/-! # What the stores hold of card numbers

Only the vault holds clear numbers.  Stores that differ in the numbers of their vaults answer alike,
and a row is the same whichever number its card was taken in with. -/
set_option autoImplicit false

namespace CardPayments

/-! ## Entities -/

/-- Equal but for the card, and the cards are alike. -/
def Authorization.Alike (a b : Authorization) : Prop :=
  ∃ card, a.card.Alike card ∧ b = { a with card := card }

def Refund.Alike (r x : Refund) : Prop := ∃ card, r.card.Alike card ∧ x = { r with card := card }

def Reversal.Alike (r x : Reversal) : Prop :=
  ∃ authorization, Option.Rel Authorization.Alike r.authorization authorization ∧
    x = { r with authorization := authorization }

def Message.Alike : Message → Message → Prop
  | .authorize a, .authorize b => a.Alike b
  | .refund r, .refund x => r.Alike x
  | .reverse r, .reverse x => r.Alike x
  | .echo, .echo => True
  | _, _ => False

theorem Authorization.Alike.refl (a : Authorization) : a.Alike a := ⟨a.card, .refl _, rfl⟩

theorem Refund.Alike.refl (r : Refund) : r.Alike r := ⟨r.card, .refl _, rfl⟩

theorem Reversal.Alike.refl (r : Reversal) : r.Alike r := by
  refine ⟨r.authorization, ?_, rfl⟩
  cases r.authorization with
  | none => exact .none
  | some a => exact .some (.refl a)

theorem Authorization.Alike.row {a b : Authorization} (alike : a.Alike b) : b.row = a.row := by
  obtain ⟨card, alike, rfl⟩ := alike
  simp only [Authorization.row, alike.redacted]

theorem Refund.Alike.row {r x : Refund} (alike : r.Alike x) : x.row = r.row := by
  obtain ⟨card, alike, rfl⟩ := alike
  simp only [Refund.row, alike.redacted]

theorem Reversal.Alike.row {r x : Reversal} (alike : r.Alike x) : x.row = r.row := by
  obtain ⟨authorization, related, rfl⟩ := alike
  simp only [Reversal.row]
  cases held : r.authorization with
  | none =>
      rw [held] at related
      cases related
      rfl
  | some a =>
      rw [held] at related
      cases related with
      | some alike =>
          obtain ⟨card, cards, rfl⟩ := alike
          simp only [Option.map_some, cards.redacted]

/-! ## The vault -/

/-- The same tokens stand for some numbers. -/
structure Vault.Alike (v w : Vault) : Prop where
  issued : v.issued = w.issued
  keys : v.entries.map Prod.fst = w.entries.map Prod.fst

namespace Vault

variable {v w : Vault}

theorem isSome_lookup (entries : List ((String × String) × Pan)) (key : String × String) :
    (entries.lookup key).isSome = (entries.map Prod.fst).elem key := by
  induction entries with
  | nil => rfl
  | cons entry rest ih =>
      obtain ⟨found, pan⟩ := entry
      rw [List.lookup_cons, List.map_cons, List.elem_cons]
      cases key == found with
      | true => rfl
      | false => exact ih

theorem Alike.tokenize (alike : v.Alike w) (merchant : String) {c d : Card} (cards : c.Alike d) :
    (∃ e, v.tokenize merchant c = .error e ∧ w.tokenize merchant d = .error e) ∨
      ∃ made v' w', v.tokenize merchant c = .ok (made, v') ∧
        w.tokenize merchant d = .ok (made, w') ∧ v'.Alike w' := by
  have clear := cards.clear
  simp only [Vault.tokenize]
  cases held : c.pan with
  | none =>
      rw [held, Option.isSome_none, eq_comm, Option.isSome_eq_false_iff, Option.isNone_iff_eq_none]
        at clear
      rw [clear]
      exact Or.inl ⟨_, rfl, rfl⟩
  | some pan =>
      rw [held, Option.isSome_some, eq_comm, Option.isSome_iff_exists] at clear
      obtain ⟨pan', held'⟩ := clear
      rw [held']
      refine Or.inr ⟨_, _, _, rfl, by rw [alike.issued], ?_⟩
      exact ⟨by rw [alike.issued], by simp [alike.issued, alike.keys]⟩

theorem Alike.detokenize (alike : v.Alike w) (merchant : String) (card : Card) :
    (∃ e, v.detokenize merchant card = .error e ∧ w.detokenize merchant card = .error e) ∨
      ∃ c d, v.detokenize merchant card = .ok c ∧ w.detokenize merchant card = .ok d ∧
        c.Alike d := by
  simp only [Vault.detokenize]
  cases card.token with
  | none => exact Or.inl ⟨_, rfl, rfl⟩
  | some token =>
      have known : (v.entries.lookup (merchant, token)).isSome =
          (w.entries.lookup (merchant, token)).isSome := by
        rw [isSome_lookup, isSome_lookup, alike.keys]
      dsimp only
      cases found : v.entries.lookup (merchant, token) with
      | none =>
          rw [found, Option.isSome_none, eq_comm, Option.isSome_eq_false_iff,
            Option.isNone_iff_eq_none] at known
          rw [known]
          exact Or.inl ⟨_, rfl, rfl⟩
      | some pan =>
          rw [found, Option.isSome_some, eq_comm, Option.isSome_iff_exists] at known
          obtain ⟨pan', found'⟩ := known
          rw [found']
          exact Or.inr ⟨_, _, rfl, rfl, rfl, rfl⟩

end Vault

/-! ## All stores -/

/-- Equal but for the numbers in the vault. -/
def Stores.Alike (s t : Stores) : Prop :=
  ∃ vault, s.vault.Alike vault ∧ t = { s with vault := vault }

def Call.UsesVault : Call → Prop
  | .tokenize .. => True
  | .detokenize .. => True
  | _ => False

namespace Stores

variable {s t : Stores}

theorem Alike.refl (s : Stores) : s.Alike s := ⟨s.vault, ⟨rfl, rfl⟩, rfl⟩

/-- Only two calls look into the vault. -/
theorem answer_vault (s : Stores) (vault : Vault) {call : Call} (other : ¬ call.UsesVault) :
    answer { s with vault := vault } call =
      ((s.answer call).1, { (s.answer call).2 with vault := vault }) := by
  cases call <;> first
    | rfl
    | exact absurd trivial other
    | (simp only [answer, changed]; split <;> rfl)

theorem vault_answer (s : Stores) {call : Call} (other : ¬ call.UsesVault) :
    (s.answer call).2.vault = s.vault := by
  cases call <;> first
    | rfl
    | exact absurd trivial other
    | exact changed_view Stores.vault fun _ => rfl

theorem Alike.answer (alike : s.Alike t) {call : Call} (other : ¬ call.UsesVault) :
    (t.answer call).1 = (s.answer call).1 ∧ (s.answer call).2.Alike (t.answer call).2 := by
  obtain ⟨vault, alike, rfl⟩ := alike
  rw [s.answer_vault vault other]
  exact ⟨rfl, vault, by rwa [s.vault_answer other], rfl⟩

/-- The same error, or a success in both cases, and stores that are alike after it. -/
def Paired {α β : Type} (x : Except PaymentError α × Stores) (y : Except PaymentError β × Stores) :
    Prop :=
  x.2.Alike y.2 ∧ ((∃ e, x.1 = .error e ∧ y.1 = .error e) ∨ ∃ u v, x.1 = .ok u ∧ y.1 = .ok v)

theorem Alike.paired (alike : s.Alike t) {call : Call} (other : ¬ call.UsesVault) :
    Paired (s.answer call) (t.answer call) := by
  obtain ⟨answers, after⟩ := alike.answer other
  rw [Paired, answers]
  cases (s.answer call).1 with
  | error e => exact ⟨after, Or.inl ⟨e, rfl, rfl⟩⟩
  | ok value => exact ⟨after, Or.inr ⟨value, value, rfl, rfl⟩⟩

theorem Paired.congr {α β : Type} {x : Except PaymentError α × Stores}
    {y y' : Except PaymentError β × Stores} (paired : Paired x y) (same : y' = y) : Paired x y' :=
  same ▸ paired

section

variable (s) {a b : Authorization} {r x : Refund} {u v : Reversal}

theorem answer_createAuthorization (alike : a.Alike b) :
    s.answer (.createAuthorization b) = s.answer (.createAuthorization a) := by
  have same : s.authorizations.create b = s.authorizations.create a := by
    rw [TransactionStore.create, show Stored.row b = Stored.row a from alike.row]
    obtain ⟨card, _, rfl⟩ := alike
    rfl
  exact congrArg (s.changed fun store => { s with authorizations := store }) same

theorem answer_createAuthorizationData (scheme : Scheme) (alike : a.Alike b) :
    s.answer (.createAuthorizationData scheme b) =
      s.answer (.createAuthorizationData scheme a) := by
  obtain ⟨card, _, rfl⟩ := alike
  rfl

theorem answer_updateAuthorization (alike : a.Alike b) :
    s.answer (.updateAuthorization b) = s.answer (.updateAuthorization a) := by
  obtain ⟨card, _, rfl⟩ := alike
  rfl

theorem answer_createRefund (alike : r.Alike x) :
    s.answer (.createRefund x) = s.answer (.createRefund r) := by
  have same : s.refunds.create x = s.refunds.create r := by
    rw [TransactionStore.create, show Stored.row x = Stored.row r from alike.row]
    obtain ⟨card, _, rfl⟩ := alike
    rfl
  exact congrArg (s.changed fun store => { s with refunds := store }) same

theorem answer_createRefundData (scheme : Scheme) (alike : r.Alike x) :
    s.answer (.createRefundData scheme x) = s.answer (.createRefundData scheme r) := by
  obtain ⟨card, _, rfl⟩ := alike
  rfl

theorem answer_updateRefund (alike : r.Alike x) :
    s.answer (.updateRefund x) = s.answer (.updateRefund r) := by
  obtain ⟨card, _, rfl⟩ := alike
  rfl

theorem answer_createReversal (alike : u.Alike v) :
    s.answer (.createReversal v) = s.answer (.createReversal u) := by
  have same : s.reversals.create v = s.reversals.create u := by
    rw [ReversalStore.create, alike.row]
    obtain ⟨authorization, _, rfl⟩ := alike
    rfl
  exact congrArg (s.changed fun store => { s with reversals := store }) same

theorem answer_updateReversal (alike : u.Alike v) :
    s.answer (.updateReversal v) = s.answer (.updateReversal u) := by
  obtain ⟨authorization, _, rfl⟩ := alike
  rfl

end

end Stores

/-! ## No row holds a clear number -/

structure Stores.Veiled (s : Stores) : Prop where
  authorizations : ∀ a ∈ s.authorizations.rows, a.card.pan = none
  refunds : ∀ r ∈ s.refunds.rows, r.card.pan = none
  reversals : ∀ r ∈ s.reversals.rows, ∀ a, r.authorization = some a → a.card.pan = none

theorem Table.changeFirst_forall {α : Type} {P : α → Prop} {isMatch : α → Bool} {change : α → α}
    {rows changed : List α} (done : changeFirst isMatch change rows = some changed)
    (kept : ∀ row, P row → P (change row)) (holds : ∀ row ∈ rows, P row) :
    ∀ row ∈ changed, P row := by
  obtain ⟨front, row, back, split, splitAfter, found⟩ := changeFirst_split _ _ _ _ done
  have rowChanged : RowChanged (fun row => isMatch row = true) change rows changed :=
    ⟨front, row, back, split, splitAfter, found⟩
  intro x member
  rcases rowChanged.mem member with before | ⟨row, before, rfl⟩
  · exact holds x before
  · exact kept row (holds row before)

section

variable {s t : ReversalStore}
  (veiled : ∀ r ∈ s.rows, ∀ a, r.authorization = some a → a.card.pan = none)
include veiled

/-- The copy of the authorization in a stored reversal is redacted too. -/
theorem ReversalStore.create_veiled {r : Reversal} (done : s.create r = .ok t) :
    ∀ r ∈ t.rows, ∀ a, r.authorization = some a → a.card.pan = none := by
  rw [create] at done
  split at done
  · cases done
  · cases done
    refine List.forall_mem_append.mpr ⟨veiled, List.forall_mem_singleton.mpr ?_⟩
    intro a held
    simp only [Reversal.row, Option.map_eq_some_iff] at held
    obtain ⟨_, _, rfl⟩ := held
    rfl

theorem ReversalStore.update_veiled {r : Reversal} (done : s.update r = .ok t) :
    ∀ r ∈ t.rows, ∀ a, r.authorization = some a → a.card.pan = none := by
  rw [update] at done
  split at done
  · next rows changed =>
      cases done
      exact Table.changeFirst_forall changed (fun _ => id) veiled
  · cases done

end

namespace Stores.Veiled

variable {s : Stores}

theorem empty : Stores.empty.Veiled where
  authorizations := List.forall_mem_nil _
  refunds := List.forall_mem_nil _
  reversals := List.forall_mem_nil _

theorem changed (veiled : s.Veiled) {σ : Type} {put : σ → Stores} {result : Except PaymentError σ}
    (kept : ∀ store, result = .ok store → (put store).Veiled) :
    (s.changed put result).2.Veiled := by
  cases result with
  | ok store => exact kept store rfl
  | error e => exact veiled

/-- Every call keeps clear numbers out of the rows. -/
theorem answer (veiled : s.Veiled) (call : Call) : (s.answer call).2.Veiled := by
  have ⟨authorizations, refunds, reversals⟩ := veiled
  cases call with
  | createAuthorization a =>
      exact veiled.changed fun _ done =>
        ⟨TransactionStore.create_forall authorizations rfl done, refunds, reversals⟩
  | createAuthorizationData scheme a =>
      exact veiled.changed fun _ done =>
        ⟨TransactionStore.createData_forall authorizations done, refunds, reversals⟩
  | updateAuthorization a =>
      exact veiled.changed fun _ done =>
        ⟨TransactionStore.update_forall authorizations (fun _ => id) done, refunds, reversals⟩
  | createRefund r =>
      exact veiled.changed fun _ done =>
        ⟨authorizations, TransactionStore.create_forall refunds rfl done, reversals⟩
  | createRefundData scheme r =>
      exact veiled.changed fun _ done =>
        ⟨authorizations, TransactionStore.createData_forall refunds done, reversals⟩
  | updateRefund r =>
      exact veiled.changed fun _ done =>
        ⟨authorizations, TransactionStore.update_forall refunds (fun _ => id) done, reversals⟩
  | createReversal r =>
      exact veiled.changed fun _ done =>
        ⟨authorizations, refunds, ReversalStore.create_veiled reversals done⟩
  | updateReversal r =>
      exact veiled.changed fun _ done =>
        ⟨authorizations, refunds, ReversalStore.update_veiled reversals done⟩
  | tokenize merchant card =>
      simp only [Stores.answer]
      split <;> exact ⟨authorizations, refunds, reversals⟩
  | createCapture c seen => exact veiled.changed fun _ _ => ⟨authorizations, refunds, reversals⟩
  | updateCapture c => exact veiled.changed fun _ _ => ⟨authorizations, refunds, reversals⟩
  | createRefundCapture c seen =>
      exact veiled.changed fun _ _ => ⟨authorizations, refunds, reversals⟩
  | _ => exact ⟨authorizations, refunds, reversals⟩

end Stores.Veiled
end CardPayments
