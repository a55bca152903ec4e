import CardPayments.Proofs.Trace.Reservations

/-! # Where the values of an allocator are

Beside a desk runs an audit: it notes each reservation that the store granted, and each value that a
caller looked at, with the day of the look.  Nothing is lost, made up or handed out early: the
values that were looked at, the one in the hands of the caller at the front and those in the buffer
are together the granted reservations, one behind the other.  The clock may move anywhere, and
others may use the store, as long as they leave the sequence of this allocator alone. -/
set_option autoImplicit false

namespace CardPayments

def Reservation.entries (r : Reservation) : List Reserved :=
  Allocator.batch r.start r.demand.size r.demand.today

namespace TraceNumbers

variable {t : TraceNumbers} {tag : String}

def request (t : TraceNumbers) (tag : String) : Except PaymentError UInt64 × SequenceStore :=
  t.store.nextBatch t.allocator.name t.allocator.batchSize t.allocator.policy tag

/-- A granted request advances the block of the sequence. -/
theorem request_ok {start : UInt64} {store : SequenceStore}
    (granted : t.request tag = (.ok start, store)) :
    t.store.failures = 0 ∧ ∃ block, t.block? = some block ∧
      start = (t.allocator.policy.reserve tag t.allocator.batchSize block).1 ∧
      store = t.store.provision t.allocator.name
        (t.allocator.policy.reserve tag t.allocator.batchSize block).2 := by
  rw [request, SequenceStore.nextBatch] at granted
  split at granted
  · cases granted
  · next works =>
      split at granted
      · cases granted
      · next block stored =>
          cases granted
          exact ⟨works, block, stored, rfl, rfl⟩

/-- A refused request leaves all blocks as they are. -/
theorem request_error {e : PaymentError} (refused : (t.request tag).1 = .error e) :
    (t.request tag).2.blocks = t.store.blocks ∧
      (e = .internal .unavailable ∨
        e = .unknownSequence t.allocator.name ∧ t.block? = none) := by
  rw [request, SequenceStore.nextBatch] at refused ⊢
  split at refused
  · cases refused
    exact ⟨rfl, Or.inl rfl⟩
  · split at refused
    · next missing =>
        cases refused
        exact ⟨rfl, Or.inr ⟨rfl, missing⟩⟩
    · cases refused

end TraceNumbers

namespace TraceDesk

variable {κ : Type} {s t : TraceDesk κ} {tag : String}

/-- The value that the caller at the front has taken and not looked at. -/
def hand (s : TraceDesk κ) : Option Reserved := s.front.bind Prod.snd

def gave (s : TraceDesk κ) (caller : κ) (r : Reserved) : TraceDesk κ :=
  { s with front := none, handed := s.handed ++ [(caller, s.numbers.today, r.value)] }

structure Blocked (s : TraceDesk κ) : Prop where
  rests : s.Rests
  runs : s.numbers.allocator.ended = none
  full : s.numbers.allocator.hasRoom = false

theorem reserve_granted {start : UInt64} {store : SequenceStore}
    (runs : s.numbers.isIdle = false) (granted : s.numbers.request tag = (.ok start, store)) :
    s.reserve tag = { s with
      numbers := ⟨store, { s.numbers.allocator with
        buffer := s.numbers.allocator.buffer ++
          Allocator.batch start s.numbers.allocator.batchSize tag }, s.numbers.today⟩
      reading := none
      unsent := s.numbers.allocator.batchSize.toNat } := by
  have goes : (s.numbers.allocator.ended.isSome || !s.numbers.allocator.hasRoom) = false := runs
  have answer : s.numbers.store.nextBatch s.numbers.allocator.name s.numbers.allocator.batchSize
    s.numbers.allocator.policy tag = (.ok start, store) := granted
  simp only [reserve, Allocator.fill, goes, Bool.false_eq_true, if_false, answer,
    List.length_append, Allocator.length_batch, Nat.add_sub_cancel_left]

theorem reserve_refused {e : PaymentError} (runs : s.numbers.isIdle = false)
    (refused : (s.numbers.request tag).1 = .error e) :
    ∃ ended, (ended = none ∨ ended = some .unknownSequence ∧ s.numbers.block? = none) ∧
      s.reserve tag = { s with
        numbers := ⟨(s.numbers.request tag).2, { s.numbers.allocator with ended := ended },
          s.numbers.today⟩
        reading := none
        unsent := 0 } := by
  have goes : (s.numbers.allocator.ended.isSome || !s.numbers.allocator.hasRoom) = false := runs
  have going : s.numbers.allocator.ended = none := by
    rw [Bool.or_eq_false_iff] at goes
    simpa using goes.1
  have answer : s.numbers.store.nextBatch s.numbers.allocator.name s.numbers.allocator.batchSize
      s.numbers.allocator.policy tag = (.error e, (s.numbers.request tag).2) :=
    Prod.ext refused rfl
  rcases (TraceNumbers.request_error refused).2 with rfl | ⟨rfl, missing⟩
  · refine ⟨none, Or.inl rfl, ?_⟩
    simp only [reserve, Allocator.fill, goes, Bool.false_eq_true, if_false, answer, Nat.sub_self,
      ← going]
  · refine ⟨some .unknownSequence, Or.inr ⟨rfl, missing⟩, ?_⟩
    simp only [reserve, Allocator.fill, goes, Bool.false_eq_true, if_false, answer]
    simp only [Allocator.finish, going, Nat.sub_self]

end TraceDesk

/-- A desk, the reservations that its store granted, and the values that callers looked at, each
with the day of the look; all in their order. -/
structure Audit (κ : Type) where
  desk : TraceDesk κ
  granted : List Reservation
  seen : List (Reserved × Date)

namespace Audit

variable {κ : Type}

def opened (c : SequenceConfig) (store : SequenceStore) (today : Date) : Audit κ :=
  ⟨.opened c store today, [], []⟩

/-- What was handed out of the values that were looked at; all others were discarded. -/
def delivered (seen : List (Reserved × Date)) : List (Date × UInt64) :=
  (seen.filter fun x => x.1.tag = x.2.monthDay).map fun x => (x.2, x.1.value)

/-- What can happen at a desk, with what is noted of it.  `meddles` says what others may do to the
store. -/
inductive Step (meddles : SequenceStore → SequenceStore → Prop) (a : Audit κ) : Audit κ → Prop
  | grant (tag : String) (r : Reservation) (reads : a.desk.reading = some tag)
      (demand : r.demand = ⟨a.desk.numbers.allocator.batchSize, tag⟩)
      (before : a.desk.numbers.block? = some r.before)
      (grants : a.desk.numbers.request tag =
        (.ok r.start, a.desk.numbers.store.provision a.desk.numbers.allocator.name r.after)) :
      Step meddles a { a with desk := a.desk.reserve tag, granted := a.granted ++ [r] }
  | refuse (tag : String) (e : PaymentError) (reads : a.desk.reading = some tag)
      (refuses : (a.desk.numbers.request tag).1 = .error e) :
      Step meddles a { a with desk := a.desk.reserve tag }
  | give (caller : κ) (r : Reserved) (first : a.desk.front = some (caller, some r))
      (current : r.tag = a.desk.numbers.today.monthDay) :
      Step meddles a { a with
        desk := a.desk.gave caller r
        seen := a.seen ++ [(r, a.desk.numbers.today)] }
  | discard (caller : κ) (r : Reserved) (first : a.desk.front = some (caller, some r))
      (stale : r.tag ≠ a.desk.numbers.today.monthDay) :
      Step meddles a { a with
        desk := { a.desk with front := some (caller, none) }
        seen := a.seen ++ [(r, a.desk.numbers.today)] }
  /-- No reservation is made and no value looked at. -/
  | quiet (desk : TraceDesk κ) (step : a.desk.Step desk)
      (reads : a.desk.reading = none ∨ desk.reading = a.desk.reading)
      (holds : a.desk.hand = none ∨ desk.hand = a.desk.hand) :
      Step meddles a { a with desk := desk }
  | clock (today : Date) :
      Step meddles a { a with desk := a.desk.withNumbers (a.desk.numbers.setToday today) }
  | meddle (store : SequenceStore) (meddled : meddles a.desk.numbers.store store) :
      Step meddles a { a with
        desk := a.desk.withNumbers { a.desk.numbers with store := store } }

def Reaches (meddles : SequenceStore → SequenceStore → Prop) : Audit κ → Audit κ → Prop :=
  Relation.ReflTransGen (Step meddles)

/-- Others may do anything to the store but touch the block of a sequence. -/
def Spares (name : String) (s t : SequenceStore) : Prop := t.block? name = s.block? name

variable {meddles : SequenceStore → SequenceStore → Prop} {a b : Audit κ}

/-- Every step at a desk is noted, one way or another. -/
theorem exists_step {desk : TraceDesk κ} (step : a.desk.Step desk) :
    ∃ b, a.Step meddles b ∧ b.desk = desk := by
  have asQuiet (reads : a.desk.reading = none ∨ desk.reading = a.desk.reading)
      (holds : a.desk.hand = none ∨ desk.hand = a.desk.hand) :
      ∃ b, a.Step meddles b ∧ b.desk = desk :=
    ⟨_, .quiet desk step reads holds, rfl⟩
  cases step with
  | look rests => exact asQuiet (Or.inl rests.reading) (Or.inr rfl)
  | reserve tag reads =>
      cases answer : a.desk.numbers.request tag with
      | mk result store =>
          cases result with
          | error e => exact ⟨_, .refuse tag e reads (by rw [answer]), rfl⟩
          | ok start =>
              obtain ⟨_, block, stored, rfl, rfl⟩ := TraceNumbers.request_ok answer
              exact ⟨_, .grant tag ⟨⟨_, tag⟩, block, _, _⟩ reads rfl stored answer, rfl⟩
  | give caller r first current => exact ⟨_, .give caller r first current, rfl⟩
  | discard caller r first stale => exact ⟨_, .discard caller r first stale, rfl⟩
  | enter caller free => exact asQuiet (Or.inr rfl) (Or.inl (by rw [TraceDesk.hand, free]; rfl))
  | receive caller r rest first =>
      exact asQuiet (Or.inr rfl) (Or.inl (by rw [TraceDesk.hand, first]; rfl))
  | leave caller first => exact asQuiet (Or.inr rfl) (Or.inl (by rw [TraceDesk.hand, first]; rfl))
  | send | fail | advance | shutDown | stop => exact asQuiet (Or.inr rfl) (Or.inr rfl)

theorem exists_reaches {desk : TraceDesk κ} (reaches : a.desk.Reaches desk) :
    ∃ b, a.Reaches meddles b ∧ b.desk = desk := by
  induction reaches with
  | refl => exact ⟨a, .refl, rfl⟩
  | tail _ step ih =>
      obtain ⟨b, reached, rfl⟩ := ih
      obtain ⟨next, noted, same⟩ := exists_step step
      exact ⟨next, reached.tail noted, same⟩

/-! ## The balance -/

/-- What every step keeps, whatever others do to the store. -/
structure Balanced (c : SequenceConfig) (a : Audit κ) : Prop where
  serves : a.desk.numbers.allocator.Serves c
  prefetch : a.desk.numbers.allocator.prefetch = c.prefetch
  /-- Room for a batch is kept from the look at the clock until the reservation. -/
  busy : a.desk.reading.isSome = true → a.desk.numbers.isIdle = false
  conserved : a.seen.map Prod.fst ++ a.desk.pending = a.granted.flatMap Reservation.entries
  handed : a.desk.handed.map Prod.snd = delivered a.seen
  bounded : a.desk.numbers.allocator.buffer.length ≤ a.desk.numbers.allocator.capacity

/-- The values are where they were. -/
theorem Balanced.same {c : SequenceConfig} {desk : TraceDesk κ} (balanced : Balanced c a)
    (ended : Option FillEnd)
    (allocator : desk.numbers.allocator = { a.desk.numbers.allocator with ended := ended })
    (busy : desk.reading.isSome = true → desk.numbers.isIdle = false)
    (front : desk.hand = a.desk.hand) (handed : desk.handed = a.desk.handed) :
    Balanced c { a with desk := desk } where
  serves := by
    rw [allocator]
    exact ⟨balanced.serves.name, balanced.serves.policy, balanced.serves.size⟩
  prefetch := by
    rw [allocator]
    exact balanced.prefetch
  busy := busy
  conserved := by
    have pending : desk.pending = a.desk.pending := by
      change desk.hand.toList ++ _ = a.desk.hand.toList ++ _
      rw [front, allocator]
    rw [pending]
    exact balanced.conserved
  handed := by
    rw [handed]
    exact balanced.handed
  bounded := by
    rw [allocator]
    exact balanced.bounded

theorem opened_balanced (c : SequenceConfig) (store : SequenceStore) (today : Date) :
    Balanced c (opened c store today : Audit κ) where
  serves := ⟨rfl, rfl, rfl⟩
  prefetch := rfl
  busy reads := by cases reads
  conserved := rfl
  handed := rfl
  bounded := Nat.zero_le _

theorem Balanced.quiet {c : SequenceConfig} {desk : TraceDesk κ} (balanced : Balanced c a)
    (step : a.desk.Step desk) (reads : a.desk.reading = none ∨ desk.reading = a.desk.reading)
    (holds : a.desk.hand = none ∨ desk.hand = a.desk.hand) :
    Balanced c { a with desk := desk } := by
  have busy := step.isIdle balanced.busy
  cases step with
  | look | send | fail | advance | shutDown => exact balanced.same _ rfl busy rfl rfl
  | stop =>
      obtain ⟨ended, finished⟩ := a.desk.numbers.allocator.finish_eq .shutDown
      exact balanced.same ended finished busy rfl rfl
  | enter caller free =>
      have empty : a.desk.hand = none := by
        rw [TraceDesk.hand, free]
        rfl
      exact balanced.same _ rfl busy empty.symm rfl
  | leave caller first =>
      have empty : a.desk.hand = none := by
        rw [TraceDesk.hand, first]
        rfl
      exact balanced.same _ rfl busy empty.symm rfl
  | receive caller r rest first buffered =>
      -- the value leaves the buffer for the hands of the caller
      have pending : TraceDesk.pending { a.desk with
          numbers := a.desk.numbers.keep rest, front := some (caller, some r) } =
            a.desk.pending := by
        rw [TraceDesk.pending, TraceDesk.pending, first, buffered]
        rfl
      have bounded := balanced.bounded
      rw [buffered, List.length_cons] at bounded
      exact ⟨⟨balanced.serves.name, balanced.serves.policy, balanced.serves.size⟩,
        balanced.prefetch, busy, by rw [pending]; exact balanced.conserved, balanced.handed,
        Nat.le_of_succ_le bounded⟩
  | reserve tag reading =>
      rw [reading] at reads
      cases reads with
      | inl none => cases none
      | inr same => cases same
  | give caller r first | discard caller r first =>
      simp [TraceDesk.hand, first] at holds

theorem Balanced.looked {c : SequenceConfig} {desk : TraceDesk κ} (balanced : Balanced c a)
    (r : Reserved) (hand : a.desk.hand = some r) (numbers : desk.numbers = a.desk.numbers)
    (reading : desk.reading = a.desk.reading) (front : desk.hand = none)
    (handed : desk.handed.map Prod.snd =
      a.desk.handed.map Prod.snd ++ delivered [(r, a.desk.numbers.today)]) :
    Balanced c ⟨desk, a.granted, a.seen ++ [(r, a.desk.numbers.today)]⟩ where
  serves := numbers ▸ balanced.serves
  prefetch := numbers ▸ balanced.prefetch
  busy := by
    rw [numbers, reading]
    exact balanced.busy
  conserved := by
    have before : a.desk.pending = r :: a.desk.numbers.allocator.buffer := by
      change a.desk.hand.toList ++ _ = _
      rw [hand]
      rfl
    have after : desk.pending = a.desk.numbers.allocator.buffer := by
      change desk.hand.toList ++ _ = _
      rw [front, numbers]
      rfl
    have conserved := balanced.conserved
    rw [before] at conserved
    rw [after, ← conserved, List.map_append, List.append_assoc]
    rfl
  handed := by
    rw [handed, balanced.handed, delivered, delivered, delivered, List.filter_append,
      List.map_append]
  bounded := numbers ▸ balanced.bounded

theorem Balanced.grant {c : SequenceConfig} (balanced : Balanced c a) (tag : String)
    (r : Reservation) (reads : a.desk.reading = some tag)
    (demand : r.demand = ⟨a.desk.numbers.allocator.batchSize, tag⟩) {store : SequenceStore}
    (grants : a.desk.numbers.request tag = (.ok r.start, store)) :
    Balanced c { a with desk := a.desk.reserve tag, granted := a.granted ++ [r] } := by
  have runs := balanced.busy (by rw [reads]; rfl)
  have room : a.desk.numbers.allocator.hasRoom = true := by
    rw [TraceNumbers.isIdle, Bool.or_eq_false_iff, Bool.not_eq_false'] at runs
    exact runs.2
  rw [Allocator.hasRoom, decide_eq_true_eq] at room
  have entries : r.entries =
      Allocator.batch r.start a.desk.numbers.allocator.batchSize tag := by
    rw [Reservation.entries, demand]
  rw [TraceDesk.reserve_granted runs grants]
  refine ⟨⟨balanced.serves.name, balanced.serves.policy, balanced.serves.size⟩,
    balanced.prefetch, fun reads => (by cases reads), ?_, balanced.handed, ?_⟩
  · rw [List.flatMap_append, ← balanced.conserved, List.flatMap_singleton, entries,
      List.append_assoc, TraceDesk.pending, TraceDesk.pending, List.append_assoc]
  · change (_ ++ _ : List Reserved).length ≤ _
    rw [List.length_append, Allocator.length_batch]
    exact room

theorem Balanced.refuse {c : SequenceConfig} (balanced : Balanced c a) (tag : String)
    (e : PaymentError) (reads : a.desk.reading = some tag)
    (refuses : (a.desk.numbers.request tag).1 = .error e) :
    Balanced c { a with desk := a.desk.reserve tag } := by
  have runs := balanced.busy (by rw [reads]; rfl)
  obtain ⟨ended, _, reserved⟩ := TraceDesk.reserve_refused runs refuses
  rw [reserved]
  exact balanced.same ended rfl (fun reads => by cases reads) rfl rfl

theorem Step.balanced {c : SequenceConfig} (balanced : Balanced c a) (step : a.Step meddles b) :
    Balanced c b := by
  cases step with
  | grant tag r reads demand before grants => exact balanced.grant tag r reads demand grants
  | refuse tag e reads refuses => exact balanced.refuse tag e reads refuses
  | give caller r first current =>
      refine balanced.looked r (by rw [TraceDesk.hand, first]; rfl) rfl rfl rfl ?_
      simp [TraceDesk.gave, delivered, current]
  | discard caller r first stale =>
      refine balanced.looked r (by rw [TraceDesk.hand, first]; rfl) rfl rfl rfl ?_
      simp [delivered, stale]
  | quiet desk step reads holds => exact balanced.quiet step reads holds
  | clock today => exact balanced.same _ rfl balanced.busy rfl rfl
  | meddle store meddled => exact balanced.same _ rfl balanced.busy rfl rfl

theorem Reaches.balanced {c : SequenceConfig} (balanced : Balanced c a)
    (reaches : a.Reaches meddles b) : Balanced c b := by
  induction reaches with
  | refl => exact balanced
  | tail _ step ih => exact step.balanced ih

/-! ## The stored block -/

def Stored (c : SequenceConfig) (a : Audit κ) : Prop :=
  ∀ last ∈ a.granted.getLast?, a.desk.numbers.store.block? c.name = some last.after ∧
    last.after.nextValue = last.start + c.batchSize

theorem Stored.same {c : SequenceConfig} {desk : TraceDesk κ} (stored : Stored c a)
    (block : desk.numbers.store.block? c.name = a.desk.numbers.store.block? c.name)
    (seen : List (Reserved × Date)) : Stored c ⟨desk, a.granted, seen⟩ := by
  intro last isLast
  rw [block]
  exact stored last isLast

/-- Where the sequence starts over or not, the block behind a reservation is at its end. -/
theorem reserve_next (policy : RolloverPolicy) (tag : String) (size : UInt64) (block : Block) :
    (policy.reserve tag size block).2.nextValue = (policy.reserve tag size block).1 + size := by
  rw [RolloverPolicy.reserve]
  split
  · rfl
  · rfl

theorem Step.store_quiet {desk : TraceDesk κ} (step : a.desk.Step desk)
    (reads : a.desk.reading = none ∨ desk.reading = a.desk.reading) :
    desk.numbers.store.blocks = a.desk.numbers.store.blocks := by
  cases step with
  | reserve tag reading =>
      rw [reading] at reads
      cases reads with
      | inl none => cases none
      | inr same => cases same
  | _ => rfl

theorem Step.stored {c : SequenceConfig} (balanced : Balanced c a) (stored : Stored c a)
    (step : a.Step (Spares c.name) b) : Stored c b := by
  cases step with
  | grant tag r reads demand before grants =>
      have runs := balanced.busy (by rw [reads]; rfl)
      intro last isLast
      rw [List.getLast?_append, List.getLast?_singleton, Option.some_or, Option.mem_some_iff]
        at isLast
      subst isLast
      obtain ⟨_, block, found, start, store⟩ := TraceNumbers.request_ok grants
      have after : r.after = (a.desk.numbers.allocator.policy.reserve tag
          a.desk.numbers.allocator.batchSize block).2 := by
        have same := congrArg (·.block? a.desk.numbers.allocator.name) store
        simp only [SequenceStore.block?, SequenceStore.provision,
          SequenceStore.lookup_setBlock, Option.some.injEq] at same
        exact same
      constructor
      · rw [TraceDesk.reserve_granted runs grants, ← balanced.serves.name]
        exact SequenceStore.lookup_setBlock ..
      · rw [after, start, ← balanced.serves.size]
        exact reserve_next ..
  | refuse tag e reads refuses =>
      have runs := balanced.busy (by rw [reads]; rfl)
      obtain ⟨ended, _, reserved⟩ := TraceDesk.reserve_refused runs refuses
      have blocks := (TraceNumbers.request_error refuses).1
      refine stored.same ?_ a.seen
      rw [reserved]
      exact congrArg (List.lookup c.name) blocks
  | give caller r first current => exact stored.same rfl _
  | discard caller r first stale => exact stored.same rfl _
  | quiet desk step reads holds =>
      exact stored.same (congrArg (List.lookup c.name) (Step.store_quiet step reads)) _
  | clock today => exact stored.same rfl _
  | meddle store meddled =>
      have block : (a.desk.withNumbers { a.desk.numbers with store := store }).numbers.store.block?
          c.name = a.desk.numbers.store.block? c.name := meddled
      exact stored.same block _

theorem Reaches.stored {c : SequenceConfig} (balanced : Balanced c a) (stored : Stored c a)
    (reaches : a.Reaches (Spares c.name) b) : Stored c b := by
  induction reaches with
  | refl => exact stored
  | tail earlier step ih => exact step.stored (Reaches.balanced balanced earlier) ih

end Audit

namespace Sample

/-- The fill loop has filled the buffer and waits. -/
def fullDesk : TraceDesk Bool := tuesdayDesk.withNumbers tuesdayDesk.numbers.settle

theorem fullDesk_reached : openDesk.Reaches fullDesk :=
  tuesdayDesk_reached.trans (tuesdayDesk.reaches_settle ⟨rfl, rfl⟩)

end Sample

end CardPayments
