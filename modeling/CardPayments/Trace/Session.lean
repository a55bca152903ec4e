import CardPayments.Trace.Allocator

/-! # Sessions with trace numbers

A session is a list of operations on one allocator, or on one sequence store.  Between two
operations on an allocator its fill loop runs until it can do nothing more. -/
set_option autoImplicit false

namespace CardPayments

inductive Provisioning where
  /-- At the least value, on the starting day. -/
  | standard
  | missing
  | block (b : Block)
deriving DecidableEq, Repr

/-- The store at the start of a session, whose first `failures` reservations fail. -/
def SequenceStore.ofProvisioning (c : SequenceConfig) (today : Date) (failures : Nat) :
    Provisioning → SequenceStore
  | .standard => (SequenceStore.empty.failNext failures).provision c.name ⟨c.least, today.monthDay⟩
  | .missing => SequenceStore.empty.failNext failures
  | .block b => (SequenceStore.empty.failNext failures).provision c.name b

def TraceNumbers.open (c : SequenceConfig) (today : Date) (failures : Nat) (p : Provisioning) :
    Except PaymentError TraceNumbers :=
  TraceNumbers.start c (.ofProvisioning c today failures p) today

/-! ## Operations on an allocator -/

inductive TraceOp where
  | next (count : Nat)
  | date (today : Date)
  | failNext (count : Nat)
  | provision (b : Block)
  | shutDown
  | block
deriving DecidableEq, Repr

inductive TraceReply where
  /-- The values that were taken, and the error that stopped it. -/
  | values (taken : List UInt64) (stopped : Option PaymentError)
  | set
  | shutDown
  | block (b : Option Block)
deriving DecidableEq

namespace TraceNumbers

def perform (t : TraceNumbers) : TraceOp → TraceReply × TraceNumbers
  | .next count =>
      let taken := t.take count
      (.values taken.1 taken.2.1, taken.2.2)
  | .date today => (.set, t.setToday today)
  | .failNext count => (.set, t.failNext count)
  | .provision b => (.set, t.provision b)
  | .shutDown => (.shutDown, t.shutDown)
  | .block => (.block t.block?, t)

/-- The replies to a list of operations, each with the stored block after it. -/
def replies (t : TraceNumbers) : List TraceOp → List (TraceReply × Option Block)
  | [] => []
  | op :: rest =>
      let performed := t.perform op
      let settled := performed.2.settle
      (performed.1, settled.block?) :: settled.replies rest

end TraceNumbers

/-! ## Operations on a store -/

inductive StoreOp where
  | provision (b : Block)
  | failNext (count : Nat)
  | batch (size : UInt64) (policy : RolloverPolicy) (today : String)
deriving DecidableEq, Repr

namespace SequenceStore

/-- Performs one operation on a sequence; a reservation answers with its first value. -/
def perform (s : SequenceStore) (sequence : String) :
    StoreOp → Except PaymentError (Option UInt64) × SequenceStore
  | .provision b => (.ok none, s.provision sequence b)
  | .failNext count => (.ok none, s.failNext count)
  | .batch size policy today =>
      let reserved := s.nextBatch sequence size policy today
      (reserved.1.map some, reserved.2)

def replies (s : SequenceStore) :
    List (String × StoreOp) → List (Except PaymentError (Option UInt64) × Option Block)
  | [] => []
  | (sequence, op) :: rest =>
      let performed := s.perform sequence op
      (performed.1, performed.2.block? sequence) :: performed.2.replies rest

end SequenceStore
end CardPayments
