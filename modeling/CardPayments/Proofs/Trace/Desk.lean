import Mathlib.Logic.Relation
import CardPayments.Trace.Session

/-! # Callers of an allocator

Any number of callers ask one allocator for values while its fill loop runs, reservations fail, the
clock moves to other days and the allocator is shut down.  The callers wait for one another: the one
at the front takes values from the buffer until one is of the day it reads off the clock.  The fill
loop reads the clock when there is room for a batch, reserves it some time later, and then makes its
values available one after the other. -/
set_option autoImplicit false

namespace CardPayments

def TraceNumbers.keep (t : TraceNumbers) (rest : List Reserved) : TraceNumbers :=
  { t with allocator := { t.allocator with buffer := rest } }

/-- A call is answered from the buffer, or from what the fill loop puts into an empty one. -/
theorem TraceNumbers.next_ok {t after : TraceNumbers} {value : UInt64}
    (taken : t.next = (.ok value, after)) :
    (∃ rest, Allocator.firstOf t.today.monthDay t.allocator.buffer = some (value, rest) ∧
        after = t.keep rest) ∨
      (Allocator.firstOf t.today.monthDay t.allocator.buffer = none ∧
        ∃ rest, Allocator.firstOf t.today.monthDay (t.keep []).settle.allocator.buffer =
          some (value, rest) ∧ after = (t.keep []).settle.keep rest) := by
  rw [next] at taken
  cases buffered : Allocator.firstOf t.today.monthDay t.allocator.buffer with
  | some found =>
      simp only [buffered] at taken
      cases taken
      exact Or.inl ⟨found.2, rfl, rfl⟩
  | none =>
      simp only [buffered] at taken
      refine Or.inr ⟨rfl, ?_⟩
      split at taken
      · next rest filled =>
          cases taken
          exact ⟨rest, filled, rfl⟩
      · simp at taken

/-- A call that fails has emptied the buffer, and the fill loop put nothing into it. -/
theorem TraceNumbers.next_error {t after : TraceNumbers} {e : PaymentError}
    (failed : t.next = (.error e, after)) :
    Allocator.firstOf t.today.monthDay t.allocator.buffer = none ∧ after = (t.keep []).settle := by
  rw [next] at failed
  cases buffered : Allocator.firstOf t.today.monthDay t.allocator.buffer with
  | some found => simp [buffered] at failed
  | none =>
      simp only [buffered] at failed
      refine ⟨rfl, ?_⟩
      split at failed
      · simp at failed
      · cases failed
        rfl

structure TraceDesk (κ : Type) where
  numbers : TraceNumbers
  /-- The tag of the day for which the fill loop is about to reserve a batch. -/
  reading : Option String
  /-- How many of the last values in the buffer are not available yet. -/
  unsent : Nat
  /-- The caller at the front, and the value it took from the buffer and has not looked at. -/
  front : Option (κ × Option Reserved)
  closing : Bool
  /-- The days before today, last one first. -/
  past : List Date
  /-- What was handed out: to whom, on which day, and the value. -/
  handed : List (κ × Date × UInt64)

namespace TraceDesk

variable {κ : Type}

/-- Nothing is reserved yet, and nobody has called. -/
def opened (c : SequenceConfig) (store : SequenceStore) (today : Date) : TraceDesk κ :=
  ⟨⟨store, .ofConfig c, today⟩, none, 0, none, false, [], []⟩

def days (s : TraceDesk κ) : List Date := s.numbers.today :: s.past

def handedOn (s : TraceDesk κ) (day : Date) : List UInt64 :=
  (s.handed.filter fun h => h.2.1 = day).map fun h => h.2.2

/-- The fill loop is between two passes. -/
structure Rests (s : TraceDesk κ) : Prop where
  reading : s.reading = none
  unsent : s.unsent = 0

def reserve (s : TraceDesk κ) (tag : String) : TraceDesk κ :=
  let filled := s.numbers.allocator.fill s.numbers.store tag
  { s with
    numbers := { s.numbers with allocator := filled.1, store := filled.2 }
    reading := none
    unsent := filled.1.buffer.length - s.numbers.allocator.buffer.length }

inductive Step (s : TraceDesk κ) : TraceDesk κ → Prop
  | look (rests : s.Rests) (runs : s.numbers.isIdle = false) :
      Step s { s with reading := some s.numbers.today.monthDay }
  | reserve (tag : String) (reads : s.reading = some tag) : Step s (s.reserve tag)
  | send (count : Nat) (more : s.unsent = count + 1) : Step s { s with unsent := count }
  | fail (count : Nat) : Step s { s with numbers := s.numbers.failNext count }
  | enter (caller : κ) (free : s.front = none) : Step s { s with front := some (caller, none) }
  | receive (caller : κ) (r : Reserved) (rest : List Reserved)
      (first : s.front = some (caller, none)) (buffered : s.numbers.allocator.buffer = r :: rest)
      (sent : s.unsent ≤ rest.length) :
      Step s { s with numbers := s.numbers.keep rest, front := some (caller, some r) }
  | give (caller : κ) (r : Reserved) (first : s.front = some (caller, some r))
      (current : r.tag = s.numbers.today.monthDay) :
      Step s { s with
        front := none
        handed := s.handed ++ [(caller, s.numbers.today, r.value)] }
  | discard (caller : κ) (r : Reserved) (first : s.front = some (caller, some r))
      (stale : r.tag ≠ s.numbers.today.monthDay) : Step s { s with front := some (caller, none) }
  /-- The caller is told that there are no more values, or gives up. -/
  | leave (caller : κ) (first : s.front = some (caller, none)) : Step s { s with front := none }
  | advance (today : Date) (isNew : ∀ day ∈ s.days, day.monthDay ≠ today.monthDay) :
      Step s { s with numbers := s.numbers.setToday today, past := s.numbers.today :: s.past }
  | shutDown : Step s { s with closing := true }
  | stop (closes : s.closing = true) (rests : s.Rests) :
      Step s { s with numbers := s.numbers.shutDown }

def Reaches : TraceDesk κ → TraceDesk κ → Prop := Relation.ReflTransGen Step

/-! ## Reservations that are under way -/

theorem isIdle_keep (t : TraceNumbers) (r : Reserved) (rest : List Reserved)
    (buffered : t.allocator.buffer = r :: rest) (runs : t.isIdle = false) :
    (t.keep rest).isIdle = false := by
  rw [TraceNumbers.isIdle, Bool.or_eq_false_iff] at runs ⊢
  obtain ⟨runs, room⟩ := runs
  rw [Bool.not_eq_false', Allocator.hasRoom, decide_eq_true_eq, buffered, List.length_cons] at room
  have fits : rest.length + t.allocator.batchSize.toNat ≤ t.allocator.capacity := by omega
  exact ⟨runs, congrArg not (decide_eq_true fits)⟩

theorem Step.isIdle {s t : TraceDesk κ} (step : Step s t)
    (before : s.reading.isSome = true → s.numbers.isIdle = false)
    (reads : t.reading.isSome = true) : t.numbers.isIdle = false := by
  cases step with
  | look _ runs => exact runs
  | reserve _ _ => cases reads
  | receive _ r rest _ buffered _ => exact isIdle_keep _ r rest buffered (before reads)
  | stop _ rests => simp [rests.reading] at reads
  | send _ _ | fail _ | enter _ _ | give _ _ _ _ | discard _ _ _ _ | leave _ _ | advance _ _
  | shutDown => exact before reads

/-! ## Passes and calls as runs -/

def withNumbers (s : TraceDesk κ) (numbers : TraceNumbers) : TraceDesk κ :=
  { s with numbers := numbers }

theorem withNumbers_rests {s : TraceDesk κ} (rests : s.Rests) (numbers : TraceNumbers) :
    (s.withNumbers numbers).Rests := ⟨rests.reading, rests.unsent⟩

theorem reaches_sent (s : TraceDesk κ) (count : Nat) (unsent : s.unsent = count) :
    s.Reaches { s with unsent := 0 } := by
  induction count generalizing s with
  | zero =>
      have same : { s with unsent := 0 } = s := by rw [← unsent]
      rw [same]
      exact .refl
  | succ count ih =>
      have sent : s.Reaches { s with unsent := count } := .single (.send count unsent)
      exact sent.trans (ih { s with unsent := count } rfl)

theorem reaches_pass (s : TraceDesk κ) (rests : s.Rests) (runs : s.numbers.isIdle = false) :
    s.Reaches (s.withNumbers s.numbers.pass) := by
  have looked : s.Reaches { s with reading := some s.numbers.today.monthDay } :=
    .single (.look rests runs)
  have filled := looked.tail (.reserve _ rfl)
  have sent := filled.trans (reaches_sent _ _ rfl)
  have same : s.withNumbers s.numbers.pass =
      { s with numbers := s.numbers.pass, reading := none, unsent := 0 } := by
    rw [withNumbers, ← rests.reading, ← rests.unsent]
  rw [same]
  exact sent

theorem reaches_passes (s : TraceDesk κ) (rests : s.Rests) (count : Nat) :
    s.Reaches (s.withNumbers (s.numbers.passes count)) := by
  induction count generalizing s with
  | zero => exact .refl
  | succ count ih =>
      rw [TraceNumbers.passes]
      split
      · exact .refl
      · next busy =>
          have first := reaches_pass s rests (Bool.eq_false_iff.mpr busy)
          exact first.trans (ih (s.withNumbers s.numbers.pass) (withNumbers_rests rests _))

theorem reaches_settle (s : TraceDesk κ) (rests : s.Rests) :
    s.Reaches (s.withNumbers s.numbers.settle) := reaches_passes s rests _

theorem reaches_received (s : TraceDesk κ) (caller : κ) (first : s.front = some (caller, none))
    (sent : s.unsent = 0) (r : Reserved) (rest : List Reserved)
    (buffered : s.numbers.allocator.buffer = r :: rest) :
    s.Reaches { s with numbers := s.numbers.keep rest, front := some (caller, some r) } :=
  .single (.receive caller r rest first buffered (sent ▸ Nat.zero_le _))

theorem reaches_stale (s : TraceDesk κ) (caller : κ) (first : s.front = some (caller, none))
    (sent : s.unsent = 0) (r : Reserved) (rest : List Reserved)
    (buffered : s.numbers.allocator.buffer = r :: rest)
    (stale : r.tag ≠ s.numbers.today.monthDay) :
    s.Reaches { s with numbers := s.numbers.keep rest } := by
  have received := reaches_received s caller first sent r rest buffered
  have discarded := received.tail (.discard caller r rfl stale)
  rw [← first] at discarded
  exact discarded

theorem reaches_firstOf (s : TraceDesk κ) (caller : κ) (first : s.front = some (caller, none))
    (sent : s.unsent = 0) (buffer : List Reserved) (buffered : s.numbers.allocator.buffer = buffer)
    (value : UInt64) (rest : List Reserved)
    (found : Allocator.firstOf s.numbers.today.monthDay buffer = some (value, rest)) :
    s.Reaches { s with
      numbers := s.numbers.keep rest
      front := none
      handed := s.handed ++ [(caller, s.numbers.today, value)] } := by
  induction buffer generalizing s with
  | nil => cases found
  | cons r more ih =>
      rw [Allocator.firstOf] at found
      by_cases current : r.tag = s.numbers.today.monthDay
      · simp only [current, if_true, Option.some.injEq, Prod.mk.injEq] at found
        obtain ⟨rfl, rfl⟩ := found
        have received := reaches_received s caller first sent r more buffered
        exact received.tail (.give caller r rfl current)
      · rw [if_neg current] at found
        have stale := reaches_stale s caller first sent r more buffered current
        exact stale.trans (ih { s with numbers := s.numbers.keep more } first sent rfl found)

/-- The caller at the front empties a buffer that holds no value of today. -/
theorem reaches_empty (s : TraceDesk κ) (caller : κ) (first : s.front = some (caller, none))
    (sent : s.unsent = 0) (buffer : List Reserved) (buffered : s.numbers.allocator.buffer = buffer)
    (none : Allocator.firstOf s.numbers.today.monthDay buffer = none) :
    s.Reaches { s with numbers := s.numbers.keep [] } := by
  induction buffer generalizing s with
  | nil =>
      have same : { s with numbers := s.numbers.keep [] } = s := by
        rw [TraceNumbers.keep, ← buffered]
      rw [same]
      exact .refl
  | cons r more ih =>
      rw [Allocator.firstOf] at none
      by_cases current : r.tag = s.numbers.today.monthDay
      · simp [current] at none
      · rw [if_neg current] at none
        have stale := reaches_stale s caller first sent r more buffered current
        exact stale.trans (ih { s with numbers := s.numbers.keep more } first sent rfl none)

theorem passes_today (t : TraceNumbers) (count : Nat) : (t.passes count).today = t.today := by
  induction count generalizing t with
  | zero => rfl
  | succ count ih =>
      rw [TraceNumbers.passes]
      split
      · rfl
      · exact ih t.pass

theorem next_today {t after : TraceNumbers} {answer : Except PaymentError UInt64}
    (called : t.next = (answer, after)) : after.today = t.today := by
  cases answer with
  | ok value =>
      rcases TraceNumbers.next_ok called with ⟨_, _, rfl⟩ | ⟨_, _, _, rfl⟩
      · rfl
      · exact passes_today _ _
  | error e =>
      obtain ⟨_, rfl⟩ := TraceNumbers.next_error called
      exact passes_today _ _

def served (s : TraceDesk κ) (after : TraceNumbers) (caller : κ) (values : List UInt64) :
    TraceDesk κ :=
  { s with
    numbers := after
    handed := s.handed ++ values.map fun value => (caller, s.numbers.today, value) }

/-- A call that is answered with a value is a run that hands it out. -/
theorem reaches_next (s : TraceDesk κ) (caller : κ) (free : s.front = none) (rests : s.Rests)
    (value : UInt64) (after : TraceNumbers) (taken : s.numbers.next = (.ok value, after)) :
    s.Reaches (s.served after caller [value]) := by
  have entered : s.Reaches { s with front := some (caller, none) } := .single (.enter caller free)
  rw [served, free]
  rcases TraceNumbers.next_ok taken with ⟨rest, found, rfl⟩ | ⟨isNone, rest, found, rfl⟩
  · have given := reaches_firstOf { s with front := some (caller, none) } caller rfl rests.unsent
      _ rfl value rest found
    exact entered.trans given
  · have emptied := reaches_empty { s with front := some (caller, none) } caller rfl rests.unsent
      _ rfl isNone
    have settled := reaches_settle
      { s with numbers := s.numbers.keep [], front := some (caller, none) }
      ⟨rests.reading, rests.unsent⟩
    have today : (s.numbers.keep []).settle.today = s.numbers.today := passes_today _ _
    have given := reaches_firstOf
      { s with numbers := (s.numbers.keep []).settle, front := some (caller, none) } caller rfl
      rests.unsent _ rfl value rest (today ▸ found)
    simp only [today] at given
    exact (entered.trans emptied).trans (settled.trans given)

/-- A call that fails leaves what the fill loop can do done. -/
theorem reaches_next_error (s : TraceDesk κ) (caller : κ) (free : s.front = none) (rests : s.Rests)
    (e : PaymentError) (after : TraceNumbers) (failed : s.numbers.next = (.error e, after)) :
    s.Reaches (s.withNumbers after) := by
  obtain ⟨isNone, rfl⟩ := TraceNumbers.next_error failed
  have entered : s.Reaches { s with front := some (caller, none) } := .single (.enter caller free)
  have emptied := reaches_empty { s with front := some (caller, none) } caller rfl rests.unsent
    _ rfl isNone
  have settled := reaches_settle
    { s with numbers := s.numbers.keep [], front := some (caller, none) }
    ⟨rests.reading, rests.unsent⟩
  have left := (entered.trans (emptied.trans settled)).tail (.leave caller rfl)
  rw [← free] at left
  exact left

theorem reaches_takeOnto (s : TraceDesk κ) (caller : κ) (free : s.front = none) (rests : s.Rests)
    (count : Nat) (before values : List UInt64) (stopped : Option PaymentError)
    (after : TraceNumbers)
    (taken : s.numbers.takeOnto before count = (values, stopped, after)) :
    ∃ more, values = before.reverse ++ more ∧ s.Reaches (s.served after caller more) := by
  induction count generalizing s before with
  | zero =>
      cases taken
      refine ⟨[], (List.append_nil _).symm, ?_⟩
      rw [served, List.map_nil, List.append_nil]
      exact .refl
  | succ count ih =>
      rw [TraceNumbers.takeOnto] at taken
      cases called : s.numbers.next with
      | mk answer next =>
          cases answer with
          | error e =>
              simp only [called] at taken
              cases taken
              refine ⟨[], (List.append_nil _).symm, ?_⟩
              rw [served, List.map_nil, List.append_nil]
              exact reaches_next_error s caller free rests e after called
          | ok value =>
              simp only [called] at taken
              have given := reaches_next s caller free rests value next called
              obtain ⟨more, same, rest⟩ := ih (s.served next caller [value]) free
                ⟨rests.reading, rests.unsent⟩ (value :: before) taken
              refine ⟨value :: more, ?_, ?_⟩
              · rw [same, List.reverse_cons, List.append_assoc]
                rfl
              · have joined := given.trans rest
                simp only [served, next_today called, List.append_assoc] at joined
                exact joined

theorem reaches_take (s : TraceDesk κ) (caller : κ) (free : s.front = none) (rests : s.Rests)
    (count : Nat) (values : List UInt64) (stopped : Option PaymentError) (after : TraceNumbers)
    (taken : s.numbers.take count = (values, stopped, after)) :
    s.Reaches (s.served after caller values) := by
  obtain ⟨more, rfl, reaches⟩ :=
    reaches_takeOnto s caller free rests count [] values stopped after taken
  exact reaches

end TraceDesk
end CardPayments
