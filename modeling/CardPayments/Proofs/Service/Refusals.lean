import CardPayments.Store.Basic

/-! # What is refused

What the stores refuse, and what the rules for amounts refuse, is refused for good: only the outside
world, a publisher, a network or the deadline, makes an error that is worth another attempt. -/
set_option autoImplicit false

namespace CardPayments

theorem Decimal.plus_final {a b : Decimal} {e : PaymentError} (failed : a.plus b = .error e) :
    e.isRetryable = false := by
  rw [Decimal.plus] at failed
  split at failed
  · cases failed
  · cases failed
    rfl

namespace CaptureSummary

theorem extend_final {s : CaptureSummary} {entries : List CaptureEntry} {e : PaymentError}
    (failed : s.extend entries = .error e) : e.isRetryable = false := by
  induction entries generalizing s with
  | nil => cases failed
  | cons entry rest ih =>
      rw [extend] at failed
      split at failed
      · exact ih failed
      · split at failed
        · exact ih failed
        · next cause counted =>
            obtain rfl := Except.error.inj failed
            rw [count] at counted
            split at counted
            · cases counted
            · next sum =>
                obtain rfl := Except.error.inj counted
                exact Decimal.plus_final sum

theorem checkCapturable_final {s : CaptureSummary} {authorized requested : Amount}
    {e : PaymentError} (failed : s.checkCapturable authorized requested = .error e) :
    e.isRetryable = false := by
  rw [checkCapturable] at failed
  split at failed
  · cases failed
    rfl
  · split at failed
    · next sum =>
        obtain rfl := Except.error.inj failed
        exact Decimal.plus_final sum
    · split at failed
      · cases failed
        rfl
      · cases failed

theorem becomesFinal_final {s : CaptureSummary} {authorized requested : Amount} {flagged : Bool}
    {e : PaymentError} (failed : s.becomesFinal authorized requested flagged = .error e) :
    e.isRetryable = false := by
  rw [becomesFinal] at failed
  split at failed
  · cases failed
  · split at failed
    · next sum =>
        obtain rfl := Except.error.inj failed
        exact Decimal.plus_final sum
    · cases failed

end CaptureSummary

theorem SchemeData.checked_final {id : Uuid} {data : Option SchemeData} {scheme : Scheme}
    {e : PaymentError} (failed : SchemeData.checked id data scheme = .error e) :
    e.isRetryable = false := by
  unfold checked at failed
  split at failed
  · split at failed
    · cases failed
    · cases failed
      rfl
  · cases failed
    rfl

namespace Vault

variable {v : Vault} {merchant : String} {card : Card} {e : PaymentError}

theorem tokenize_final (failed : v.tokenize merchant card = .error e) : e.isRetryable = false := by
  rw [tokenize] at failed
  split at failed
  · cases failed
    rfl
  · cases failed

theorem detokenize_final (failed : v.detokenize merchant card = .error e) :
    e.isRetryable = false := by
  rw [detokenize] at failed
  split at failed
  · cases failed
    rfl
  · split at failed
    · cases failed
    · cases failed
      rfl

end Vault

namespace TransactionStore

variable {α : Type} [Stored α] {s : TransactionStore α} {a : α} {e : PaymentError}

theorem create_final (failed : s.create a = .error e) : e.isRetryable = false := by
  rw [create] at failed
  split at failed
  · cases failed
    rfl
  · cases failed

theorem createData_final {scheme : Scheme} (failed : s.createData scheme a = .error e) :
    e.isRetryable = false := by
  rw [createData] at failed
  split at failed
  · cases failed
  · next checked =>
      obtain rfl := Except.error.inj failed
      exact SchemeData.checked_final checked

theorem update_final (failed : s.update a = .error e) : e.isRetryable = false := by
  rw [update] at failed
  split at failed
  · cases failed
  · cases failed
    rfl

theorem get_final {psp : String} {id : Uuid} (failed : s.get psp id = .error e) :
    e.isRetryable = false := by
  rw [get] at failed
  split at failed
  · split at failed
    · cases failed
    · cases failed
      rfl
  · cases failed
    rfl

theorem getFull_final {psp : String} {id : Uuid} (failed : s.getFull psp id = .error e) :
    e.isRetryable = false := by
  rw [getFull] at failed
  split at failed
  · cases failed
  · next missing =>
      obtain rfl := Except.error.inj failed
      exact get_final missing

end TransactionStore

namespace CaptureStore

variable {s : CaptureStore} {id : Uuid} {e : PaymentError}

theorem summary_final (failed : s.summary id = .error e) : e.isRetryable = false :=
  CaptureSummary.extend_final failed

theorem refundSummary_final (failed : s.refundSummary id = .error e) : e.isRetryable = false :=
  CaptureSummary.extend_final failed

theorem create_final {c : Capture} {seen : CaptureSummary} (failed : s.create c seen = .error e) :
    e.isRetryable = false := by
  rw [create] at failed
  split at failed
  · next sum =>
      obtain rfl := Except.error.inj failed
      exact summary_final sum
  · split at failed
    · cases failed
    · cases failed
      rfl

theorem createForRefund_final {c : RefundCapture} {seen : CaptureSummary}
    (failed : s.createForRefund c seen = .error e) : e.isRetryable = false := by
  rw [createForRefund] at failed
  split at failed
  · next sum =>
      obtain rfl := Except.error.inj failed
      exact refundSummary_final sum
  · split at failed
    · cases failed
    · cases failed
      rfl

theorem update_final {c : Capture} (failed : s.update c = .error e) : e.isRetryable = false := by
  rw [update] at failed
  split at failed
  · cases failed
  · cases failed
    rfl

theorem finalExists_final (failed : s.finalExists id = .error e) : e.isRetryable = false := by
  rw [finalExists] at failed
  split at failed
  · cases failed
  · next sum =>
      obtain rfl := Except.error.inj failed
      exact summary_final sum

end CaptureStore

namespace ReversalStore

variable {s : ReversalStore} {r : Reversal} {e : PaymentError}

theorem create_final (failed : s.create r = .error e) : e.isRetryable = false := by
  rw [create] at failed
  split at failed
  · cases failed
    rfl
  · cases failed

theorem update_final (failed : s.update r = .error e) : e.isRetryable = false := by
  rw [update] at failed
  split at failed
  · cases failed
  · cases failed
    rfl

end ReversalStore

namespace Stores

theorem changed_error {σ : Type} {s : Stores} {put : σ → Stores} {result : Except PaymentError σ}
    {e : PaymentError} (failed : (s.changed put result).1 = .error e) : result = .error e := by
  cases result with
  | ok store => cases failed
  | error cause => exact congrArg Except.error (Except.error.inj failed)

/-- Whatever the stores refuse, they refuse for good. -/
theorem answer_final {s : Stores} {call : Call} {e : PaymentError}
    (failed : (s.answer call).1 = .error e) : e.isRetryable = false := by
  cases call with
  | tokenize merchant card =>
      simp only [answer] at failed
      split at failed
      · cases failed
      · next refused =>
          obtain rfl := Except.error.inj failed
          exact Vault.tokenize_final refused
  | detokenize merchant card => exact Vault.detokenize_final failed
  | createAuthorization a => exact TransactionStore.create_final (changed_error failed)
  | createAuthorizationData scheme a =>
      exact TransactionStore.createData_final (changed_error failed)
  | updateAuthorization a => exact TransactionStore.update_final (changed_error failed)
  | authorization psp id => exact TransactionStore.getFull_final failed
  | createRefund r => exact TransactionStore.create_final (changed_error failed)
  | createRefundData scheme r => exact TransactionStore.createData_final (changed_error failed)
  | updateRefund r => exact TransactionStore.update_final (changed_error failed)
  | refund psp id => exact TransactionStore.getFull_final failed
  | createCapture c seen => exact CaptureStore.create_final (changed_error failed)
  | updateCapture c => exact CaptureStore.update_final (changed_error failed)
  | captureSummary id => exact CaptureStore.summary_final failed
  | finalCaptureExists id => exact CaptureStore.finalExists_final failed
  | createRefundCapture c seen => exact CaptureStore.createForRefund_final (changed_error failed)
  | refundCaptureSummary id => exact CaptureStore.refundSummary_final failed
  | createReversal r => exact ReversalStore.create_final (changed_error failed)
  | updateReversal r => exact ReversalStore.update_final (changed_error failed)
  -- the others do not fail here
  | authorizations psp order => cases failed
  | refunds psp order => cases failed
  | alreadyReversed id => cases failed
  | reversalExists id => cases failed
  | reversals id => cases failed
  | publish topic payload => cases failed

end Stores
end CardPayments
