import CardPayments.Error
import CardPayments.Time.Date

/-! # Blocks of trace numbers

The durable state of a sequence is one block: the next value, and the day it belongs to as a tag of
month and day.  A reservation takes a run of values from the block.  When the run would end above
the greatest value, or the block belongs to another day, the sequence starts over at its least
value. -/
set_option autoImplicit false

namespace CardPayments

structure Block where
  nextValue : UInt64
  tag : String
deriving DecidableEq, Repr

/-- A sequence stays within a range and starts over every day. -/
structure RolloverPolicy where
  least : UInt64
  greatest : UInt64
deriving DecidableEq, Repr

namespace RolloverPolicy

/-- Whether the block that a reservation would leave behind is out of range or out of date. -/
def rollsOver (policy : RolloverPolicy) (projected : Block) (today : String) : Bool :=
  decide (policy.greatest < projected.nextValue) || projected.tag != today

def target (policy : RolloverPolicy) (today : String) : Block := ⟨policy.least, today⟩

/-- Reserves `size` values: the first of them, and the block to store. -/
def reserve (policy : RolloverPolicy) (today : String) (size : UInt64) (current : Block) :
    UInt64 × Block :=
  let projected : Block := { current with nextValue := current.nextValue + size }
  if policy.rollsOver projected today then
    let target := policy.target today
    (target.nextValue, { target with nextValue := target.nextValue + size })
  else (current.nextValue, projected)

end RolloverPolicy

/-- The blocks of all sequences, and how many of the next reservations fail. -/
structure SequenceStore where
  blocks : List (String × Block)
  failures : Nat
deriving DecidableEq, Repr

namespace SequenceStore

def empty : SequenceStore := ⟨[], 0⟩

def block? (s : SequenceStore) (name : String) : Option Block := s.blocks.lookup name

def setBlock (name : String) (block : Block) : List (String × Block) → List (String × Block)
  | [] => [(name, block)]
  | entry :: rest =>
      if entry.1 = name then (name, block) :: rest else entry :: setBlock name block rest

def provision (s : SequenceStore) (name : String) (block : Block) : SequenceStore :=
  { s with blocks := setBlock name block s.blocks }

def failNext (s : SequenceStore) (count : Nat) : SequenceStore := { s with failures := count }

def nextBatch (s : SequenceStore) (name : String) (size : UInt64) (policy : RolloverPolicy)
    (today : String) : Except PaymentError UInt64 × SequenceStore :=
  match s.failures with
  | failures + 1 => (.error (.internal .unavailable), { s with failures := failures })
  | 0 =>
      match s.block? name with
      | none => (.error (.unknownSequence name), s)
      | some current =>
          let reserved := policy.reserve today size current
          (.ok reserved.1, s.provision name reserved.2)

end SequenceStore
end CardPayments
