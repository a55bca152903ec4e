import CardPayments.Proofs.Isolation.Stores

/-! # What a PSP has in the stores

Authorizations and refunds name their PSP.  Their scheme data, captures, reversals and card numbers
belong to whom they belong to, and events to the PSP that they name. -/
set_option autoImplicit false

namespace CardPayments

namespace Stores

variable (s : Stores) (psp : String)

/-! Trace numbers are left out. -/

def authorizationsOf : List Authorization :=
  (s.authorizations.rows.filter fun a => a.psp = psp).map Authorization.untraced

def refundsOf : List Refund :=
  (s.refunds.rows.filter fun r => r.psp = psp).map Refund.untraced

def isAuthorizationOf (id : Uuid) : Bool := (s.authorizationsOf psp).any fun a => a.id = id

def isTokenOf (token : String) : Bool :=
  ((s.authorizationsOf psp).any fun a => a.card.token = some token) ||
    (s.refundsOf psp).any fun r => r.card.token = some token

end Stores

namespace Table

variable {α β : Type} {keep own : α → Bool} {l l' : List α}

/-- What agrees on the kept rows agrees on any choice among them. -/
theorem map_filter_eq {f : α → β} (own' : β → Bool) (same : ∀ x, own' (f x) = own x)
    (inside : ∀ x ∈ l, own x = true → keep x = true)
    (inside' : ∀ x ∈ l', own x = true → keep x = true)
    (kept : (l.filter keep).map f = (l'.filter keep).map f) :
    (l.filter own).map f = (l'.filter own).map f := by
  have image {l : List α} (inside : ∀ x ∈ l, own x = true → keep x = true) :
      (l.filter own).map f = ((l.filter keep).map f).filter own' := by
    rw [List.filter_map, List.filter_filter]
    congr 1
    refine List.filter_congr fun x member => ?_
    by_cases chosen : own x = true
    · simp [same, chosen, inside x member chosen]
    · simp [same, chosen]
  rw [image inside, image inside', kept]

end Table

namespace Scope

variable {scope : Scope} {s t : Stores}

/-! Ids and tokens in the rows of the PSP are its own. -/

theorem Fits.authorized (fits : scope.Fits s) {id : Uuid}
    (own : s.isAuthorizationOf scope.psp id = true) : scope.authorizations id = true := by
  simp only [Stores.isAuthorizationOf, Stores.authorizationsOf, List.any_map, List.any_filter,
    List.any_eq_true, Bool.and_eq_true, decide_eq_true_eq, Function.comp_apply] at own
  obtain ⟨row, stored, owner, isRow⟩ := own
  rw [← isRow]
  exact (fits.authorizations row stored).mp owner

theorem Fits.tokenized (fits : scope.Fits s) {token : String}
    (own : s.isTokenOf scope.psp token = true) : scope.tokens token = true := by
  simp only [Stores.isTokenOf, Stores.authorizationsOf, Stores.refundsOf, List.any_map,
    List.any_filter, Bool.or_eq_true, List.any_eq_true, Bool.and_eq_true, decide_eq_true_eq,
    Function.comp_apply] at own
  rcases own with ⟨row, stored, owner, carries⟩ | ⟨row, stored, owner, carries⟩
  · exact fits.tokens row stored owner token carries
  · exact fits.refundTokens row stored owner token carries

namespace Agree

variable (agree : scope.Agree s t)
include agree

theorem authorizationsOf : s.authorizationsOf scope.psp = t.authorizationsOf scope.psp :=
  Table.map_filter_eq (fun a => a.psp = scope.psp) (fun _ => rfl)
    (fun row stored own => (agree.left.authorizations row stored).mp (of_decide_eq_true own))
    (fun row stored own => (agree.right.authorizations row stored).mp (of_decide_eq_true own))
    (TransactionStore.mk.inj agree.authorizations).1

theorem refundsOf : s.refundsOf scope.psp = t.refundsOf scope.psp :=
  Table.map_filter_eq (fun r => r.psp = scope.psp) (fun _ => rfl)
    (fun row stored own => (agree.left.refunds row stored).mp (of_decide_eq_true own))
    (fun row stored own => (agree.right.refunds row stored).mp (of_decide_eq_true own))
    (TransactionStore.mk.inj agree.refunds).1

end Agree
end Scope
end CardPayments
