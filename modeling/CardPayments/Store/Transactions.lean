import CardPayments.Authorization
import CardPayments.Error
import CardPayments.Store.Table

/-! # Stored authorizations and refunds

Both are stored alike.  A row is found by its id, and shown only to the PSP it belongs to.  Rows
hold neither clear numbers nor scheme data; the data of one scheme has a table of its own, in which
a later entry for an id hides the earlier ones.  An update changes what the network and the risk
rules decided and nothing else. -/
set_option autoImplicit false

namespace CardPayments

/-- Scheme data that may be stored for a transaction as data of the given scheme. -/
def SchemeData.checked (id : Uuid) (data : Option SchemeData) (expected : Scheme) :
    Except PaymentError SchemeData :=
  match data with
  | some d =>
      if d.scheme = expected then .ok d else .error (.invalid (.noSchemeData id expected))
  | none => .error (.invalid (.noSchemeData id expected))

/-- An entity that is stored: what is read off it, and what of it is kept. -/
class Stored (α : Type) where
  id : α → Uuid
  psp : α → String
  createdAt : α → Instant
  schemeData : α → Option SchemeData
  row : α → α
  /-- A row with what was decided of the entity copied into it. -/
  decided : α → α → α
  /-- A row as it is shown. -/
  withData : α → Option SchemeData → α
  row_id : ∀ a, id (row a) = id a
  row_psp : ∀ a, psp (row a) = psp a
  decided_id : ∀ a x, id (decided a x) = id x

structure TransactionStore (α : Type) where
  rows : List α
  schemeData : List (Uuid × SchemeData)
deriving DecidableEq

namespace TransactionStore

variable {α : Type}

def empty : TransactionStore α := ⟨[], []⟩

variable [Stored α] (s : TransactionStore α)

def row? (id : Uuid) : Option α := s.rows.find? fun a => Stored.id a = id

def create (a : α) : Except PaymentError (TransactionStore α) :=
  match s.row? (Stored.id a) with
  | some _ => .error .duplicateValue
  | none => .ok { s with rows := s.rows ++ [Stored.row a] }

def createData (scheme : Scheme) (a : α) : Except PaymentError (TransactionStore α) :=
  match SchemeData.checked (Stored.id a) (Stored.schemeData a) scheme with
  | .ok data => .ok { s with schemeData := (Stored.id a, data) :: s.schemeData }
  | .error e => .error e

def update (a : α) : Except PaymentError (TransactionStore α) :=
  match Table.changeFirst (fun row => Stored.id row = Stored.id a) (Stored.decided a) s.rows with
  | some rows => .ok { s with rows := rows }
  | none => .error .recordNotFound

/-- All rows of a PSP by time of creation; rows of one time come as they are enumerated. -/
def ofPsp (psp : String) (order : List Uuid) : List α :=
  (Table.enumerate Stored.id order (s.rows.filter fun a => Stored.psp a = psp)).mergeSort
    fun a b => !(Stored.createdAt b).before (Stored.createdAt a)

theorem ofPsp_perm (psp : String) (order : List Uuid) :
    (s.ofPsp psp order).Perm (s.rows.filter fun a => Stored.psp a = psp) :=
  (List.mergeSort_perm _ _).trans (Table.enumerate_perm _ order _)

def get (psp : String) (id : Uuid) : Except PaymentError α :=
  match s.row? id with
  | some a => if Stored.psp a = psp then .ok a else .error .recordNotFound
  | none => .error .recordNotFound

def getFull (psp : String) (id : Uuid) : Except PaymentError α :=
  match s.get psp id with
  | .ok a => .ok (Stored.withData a (s.schemeData.lookup id))
  | .error e => .error e

end TransactionStore

instance : Stored Authorization where
  id := Authorization.id
  psp := Authorization.psp
  createdAt := Authorization.createdAt
  schemeData := Authorization.schemeData
  row := Authorization.row
  decided a row := { row with
    status := a.status, appliedExemption := a.appliedExemption, response := a.response }
  withData row data := { row with schemeData := data }
  row_id _ := rfl
  row_psp _ := rfl
  decided_id _ _ := rfl

instance : Stored Refund where
  id := Refund.id
  psp := Refund.psp
  createdAt := Refund.createdAt
  schemeData := Refund.schemeData
  row := Refund.row
  decided r row := { row with status := r.status, response := r.response }
  withData row data := { row with schemeData := data }
  row_id _ := rfl
  row_psp _ := rfl
  decided_id _ _ := rfl

abbrev AuthorizationStore := TransactionStore Authorization

abbrev RefundStore := TransactionStore Refund

end CardPayments
