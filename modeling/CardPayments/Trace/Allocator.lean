import CardPayments.Config
import CardPayments.Trace.Block

/-! # Trace numbers

An allocator keeps a buffer of values that were reserved in the store.  Its fill loop reserves a
batch whenever the buffer has room for a whole one, and only then makes the values available; every
value remembers the day it was reserved for.  Whoever takes a value discards those of other days in
front of it.  The loop ends for good when the sequence is not provisioned or the allocator is shut
down; buffered values can still be taken then. -/
set_option autoImplicit false

namespace CardPayments

/-- A reserved value and the tag of the day it was reserved for. -/
structure Reserved where
  value : UInt64
  tag : String
deriving DecidableEq, Repr

inductive FillEnd where
  | unknownSequence
  | shutDown
deriving DecidableEq, Repr

structure Allocator where
  name : String
  policy : RolloverPolicy
  batchSize : UInt64
  prefetch : UInt64
  buffer : List Reserved
  ended : Option FillEnd
deriving DecidableEq, Repr

namespace Allocator

def ofConfig (c : SequenceConfig) : Allocator :=
  ⟨c.name, ⟨c.least, c.greatest⟩, c.batchSize, c.prefetch, [], none⟩

/-- The buffer never holds more values than this. -/
def capacity (a : Allocator) : Nat := a.batchSize.toNat + a.prefetch.toNat

def hasRoom (a : Allocator) : Bool := a.buffer.length + a.batchSize.toNat ≤ a.capacity

def batch (start size : UInt64) (tag : String) : List Reserved :=
  (List.range size.toNat).map fun i => ⟨start + UInt64.ofNat i, tag⟩

/-- Ends the fill loop; the first reason stays. -/
def finish (a : Allocator) (reason : FillEnd) : Allocator :=
  match a.ended with
  | some _ => a
  | none => { a with ended := some reason }

/-- One pass of the fill loop: a reservation if the loop still runs and has room.  A reservation
that fails for another reason than a missing sequence is tried again in a later pass. -/
def fill (a : Allocator) (store : SequenceStore) (today : String) : Allocator × SequenceStore :=
  if a.ended.isSome || !a.hasRoom then (a, store)
  else
    match store.nextBatch a.name a.batchSize a.policy today with
    | (.ok start, store) => ({ a with buffer := a.buffer ++ batch start a.batchSize today }, store)
    | (.error (.unknownSequence _), store) => (a.finish .unknownSequence, store)
    | (.error _, store) => (a, store)

/-- What is told to whoever finds the buffer empty after the fill loop has ended. -/
def exhausted (a : Allocator) : PaymentError :=
  match a.ended with
  | some .unknownSequence => .unknownSequence a.name
  | _ => .sequenceClosed a.name

def firstOf (tag : String) : List Reserved → Option (UInt64 × List Reserved)
  | [] => none
  | r :: rest => if r.tag = tag then some (r.value, rest) else firstOf tag rest

end Allocator

/-- An allocator with the store it reserves in and the calendar day. -/
structure TraceNumbers where
  store : SequenceStore
  allocator : Allocator
  today : Date
deriving DecidableEq, Repr

namespace TraceNumbers

/-- The fill loop has ended or waits for room. -/
def isIdle (t : TraceNumbers) : Bool := t.allocator.ended.isSome || !t.allocator.hasRoom

def pass (t : TraceNumbers) : TraceNumbers :=
  let filled := t.allocator.fill t.store t.today.monthDay
  { t with allocator := filled.1, store := filled.2 }

def passes (t : TraceNumbers) : (count : Nat) → TraceNumbers
  | 0 => t
  | count + 1 => if t.isIdle then t else t.pass.passes count

/-- Runs the fill loop until it can do nothing more: every failing reservation and every batch that
fits takes one pass. -/
def settle (t : TraceNumbers) : TraceNumbers :=
  t.passes (t.store.failures + (t.allocator.capacity - t.allocator.buffer.length) /
    t.allocator.batchSize.toNat + 1)

def start (c : SequenceConfig) (store : SequenceStore) (today : Date) :
    Except PaymentError TraceNumbers :=
  match c.validate with
  | .ok () => .ok (settle ⟨store, .ofConfig c, today⟩)
  | .error e => .error e

/-- Takes the next value of today, waiting for the fill loop where the buffer holds none. -/
def next (t : TraceNumbers) : Except PaymentError UInt64 × TraceNumbers :=
  match Allocator.firstOf t.today.monthDay t.allocator.buffer with
  | some (value, rest) => (.ok value, { t with allocator := { t.allocator with buffer := rest } })
  | none =>
      let filled := settle { t with allocator := { t.allocator with buffer := [] } }
      match Allocator.firstOf t.today.monthDay filled.allocator.buffer with
      | some (value, rest) =>
          (.ok value, { filled with allocator := { filled.allocator with buffer := rest } })
      | none => (.error filled.allocator.exhausted, filled)

/-- Takes values in turn, up to the first error, after those already taken, last one first. -/
def takeOnto (taken : List UInt64) (t : TraceNumbers) :
    (count : Nat) → List UInt64 × Option PaymentError × TraceNumbers
  | 0 => (taken.reverse, none, t)
  | count + 1 =>
      match t.next with
      | (.error e, t) => (taken.reverse, some e, t)
      | (.ok value, t) => takeOnto (value :: taken) t count

def take (t : TraceNumbers) (count : Nat) : List UInt64 × Option PaymentError × TraceNumbers :=
  takeOnto [] t count

def shutDown (t : TraceNumbers) : TraceNumbers :=
  { t with allocator := t.allocator.finish .shutDown }

def setToday (t : TraceNumbers) (today : Date) : TraceNumbers := { t with today := today }

def provision (t : TraceNumbers) (block : Block) : TraceNumbers :=
  { t with store := t.store.provision t.allocator.name block }

def failNext (t : TraceNumbers) (count : Nat) : TraceNumbers :=
  { t with store := t.store.failNext count }

def block? (t : TraceNumbers) : Option Block := t.store.block? t.allocator.name

end TraceNumbers
end CardPayments
