import CardPayments.Error
import CardPayments.Reversal
import CardPayments.Store.Table

/-! # Stored reversals

At most one reversal of an authorization has not failed; storing another one is refused. -/
set_option autoImplicit false

namespace CardPayments

structure ReversalStore where
  rows : List Reversal
deriving DecidableEq

namespace ReversalStore

def empty : ReversalStore := ⟨[]⟩

def ofAuthorization (s : ReversalStore) (id : Uuid) : List Reversal :=
  s.rows.filter fun r => r.authorizationId = id

def pending (s : ReversalStore) (authorizationId : Uuid) : Bool :=
  (s.ofAuthorization authorizationId).any fun r => r.status != .failed

def reversed (s : ReversalStore) (authorizationId : Uuid) : Bool :=
  (s.ofAuthorization authorizationId).any fun r => r.status == .succeeded

def create (s : ReversalStore) (r : Reversal) : Except PaymentError ReversalStore :=
  if s.pending r.authorizationId then .error .duplicateValue
  else .ok ⟨s.rows ++ [r.row]⟩

/-- Copies status and response into the stored row. -/
def update (s : ReversalStore) (r : Reversal) : Except PaymentError ReversalStore :=
  match Table.changeFirst (fun row => row.authorizationId = r.authorizationId ∧ row.id = r.id)
      (fun row => { row with status := r.status, response := r.response }) s.rows with
  | some rows => .ok ⟨rows⟩
  | none => .error .recordNotFound

end ReversalStore
end CardPayments
