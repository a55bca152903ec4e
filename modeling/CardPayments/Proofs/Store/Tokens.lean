import CardPayments.Proofs.Secrecy.Stores
import CardPayments.Proofs.Text.Digits
import CardPayments.Proofs.Undisturbed.Authorize

/-! # Tokens

No token is issued twice.  So a number stays in the vault under the merchant and the token it was
put in with, and no later one takes its place. -/
set_option autoImplicit false

namespace CardPayments

namespace Vault

variable {v w u : Vault} {merchant token : String} {pan : Pan}

theorem digits_eq_of_prefixed (front : String) {left right : List Char}
    (same : front ++ String.ofList left = front ++ String.ofList right) : left = right := by
  have lists := congrArg String.toList same
  simpa only [String.toList_append, String.toList_ofList, List.append_cancel_left_eq] using lists

theorem token_injective {m n : Nat} (same : Vault.token m = Vault.token n) : m = n := by
  have digits : Text.paddedDigits 12 m = Text.paddedDigits 12 n := digits_eq_of_prefixed _ same
  have read := Text.number?_paddedDigits 12 m
  rw [digits, Text.number?_paddedDigits] at read
  exact (Option.some.inj read).symm

def Holds (v : Vault) (merchant token : String) (pan : Pan) : Prop :=
  v.entries.lookup (merchant, token) = some pan

/-- All tokens in the vault are among those that were issued. -/
def Issued (v : Vault) : Prop := ∀ entry ∈ v.entries, ∃ n < v.issued, entry.1.2 = Vault.token n

def Within (v w : Vault) : Prop :=
  ∀ merchant token pan, v.Holds merchant token pan → w.Holds merchant token pan

theorem Within.refl (v : Vault) : v.Within v := fun _ _ _ => id

theorem Within.trans (first : v.Within w) (second : w.Within u) : v.Within u :=
  fun merchant token pan holds => second merchant token pan (first merchant token pan holds)

theorem empty_issued : Issued .empty := List.forall_mem_nil _

theorem holds_added (v : Vault) (merchant : String) (pan : Pan) :
    (v.added merchant pan).Holds merchant (Vault.token v.issued) pan := by
  simp [Holds, added]

theorem Issued.added (issued : v.Issued) (merchant : String) (pan : Pan) :
    (v.added merchant pan).Issued := by
  refine List.forall_mem_cons.mpr ⟨⟨v.issued, Nat.lt_succ_self _, rfl⟩, fun entry member => ?_⟩
  obtain ⟨n, small, isToken⟩ := issued entry member
  exact ⟨n, Nat.lt_succ_of_lt small, isToken⟩

/-- The next token is new, so its entry hides no other. -/
theorem Issued.within_added (issued : v.Issued) (merchant : String) (pan : Pan) :
    v.Within (v.added merchant pan) := by
  intro other token number holds
  have fresh : ((other, token) == (merchant, Vault.token v.issued)) = false := by
    rw [beq_eq_false_iff_ne]
    intro same
    obtain ⟨_, isToken⟩ := Prod.mk.inj same
    obtain ⟨front, back, split, _⟩ := List.lookup_eq_some_iff.mp holds
    obtain ⟨n, small, wasIssued⟩ := issued ((other, token), number) (by simp [split])
    have next : v.issued = n := token_injective (isToken.symm.trans wasIssued)
    omega
  rw [Holds, Vault.added, List.lookup_cons, fresh]
  exact holds

theorem tokenize_ok {card : Card} {made : String}
    (done : v.tokenize merchant card = .ok (made, w)) :
    ∃ pan, card.pan = some pan ∧ made = Vault.token v.issued ∧ w = v.added merchant pan := by
  rw [tokenize] at done
  split at done
  · cases done
  · next pan clear =>
      cases done
      exact ⟨pan, clear, rfl, rfl⟩

theorem detokenize_ok {card opened : Card} (done : v.detokenize merchant card = .ok opened) :
    ∃ token pan, card.token = some token ∧ v.Holds merchant token pan ∧
      opened = { card with pan := some pan } := by
  rw [detokenize] at done
  split at done
  · cases done
  · next token isToken =>
      split at done
      · next pan holds =>
          cases done
          exact ⟨token, pan, isToken, holds, rfl⟩
      · cases done

end Vault

namespace Stores

/-- A call leaves the vault as it is, or puts one number into it. -/
theorem answer_vault_cases (s : Stores) (call : Call) :
    (s.answer call).2.vault = s.vault ∨
      ∃ merchant pan, (s.answer call).2.vault = s.vault.added merchant pan := by
  by_cases uses : call.UsesVault
  · cases call with
    | tokenize merchant card =>
        rw [answer]
        split
        · next made vault done =>
            obtain ⟨pan, _, _, rfl⟩ := Vault.tokenize_ok done
            exact Or.inr ⟨merchant, pan, rfl⟩
        · exact Or.inl rfl
    | detokenize merchant card => exact Or.inl rfl
    | _ => cases uses
  · exact Or.inl (s.vault_answer uses)

theorem answer_vault_keeps (s : Stores) (call : Call) (issued : s.vault.Issued) :
    (s.answer call).2.vault.Issued ∧ s.vault.Within (s.answer call).2.vault := by
  rcases s.answer_vault_cases call with same | ⟨merchant, pan, added⟩
  · rw [same]
    exact ⟨issued, .refl _⟩
  · rw [added]
    exact ⟨issued.added merchant pan, issued.within_added merchant pan⟩

end Stores
end CardPayments
