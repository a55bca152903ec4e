import CardPayments.Proofs.Trace.Conservation

/-! # After the fill loop

A fill loop ends where a reservation finds no block of its sequence, or between two passes once the
allocator is shut down.  From then on it makes no reservation, whatever happens to the clock and to
the store: the callers take what is left in the buffer, and then all are told the same error. -/
set_option autoImplicit false

namespace CardPayments

/-- What callers are told once the buffer is empty. -/
def FillEnd.error (name : String) : FillEnd → PaymentError
  | .unknownSequence => .unknownSequence name
  | .shutDown => .sequenceClosed name

theorem TraceNumbers.settle_ended {t : TraceNumbers} {why : FillEnd}
    (ended : t.allocator.ended = some why) : t.settle = t := by
  have idle : t.isIdle = true := by
    rw [isIdle, ended]
    rfl
  rw [settle, passes, if_pos idle]

/-- A call after the fill loop looks through the buffer, once. -/
theorem TraceNumbers.next_ended {t : TraceNumbers} {why : FillEnd}
    (ended : t.allocator.ended = some why) :
    t.next = match Allocator.firstOf t.today.monthDay t.allocator.buffer with
      | some (value, rest) => (.ok value, t.keep rest)
      | none => (.error (why.error t.allocator.name), t.keep []) := by
  have settled : (t.keep []).settle = t.keep [] := settle_ended ended
  have told : (t.keep []).allocator.exhausted = why.error t.allocator.name := by
    rw [Allocator.exhausted]
    cases why with
    | unknownSequence => simp only [keep, ended, FillEnd.error]
    | shutDown => simp only [keep, ended, FillEnd.error]
  cases buffered : Allocator.firstOf t.today.monthDay t.allocator.buffer with
  | some found =>
      rw [next, buffered]
      rfl
  | none =>
      have filled : t.next =
          match Allocator.firstOf t.today.monthDay (t.keep []).settle.allocator.buffer with
          | some (value, rest) => (.ok value, (t.keep []).settle.keep rest)
          | none => (.error (t.keep []).settle.allocator.exhausted, (t.keep []).settle) := by
        rw [next, buffered]
        rfl
      rw [filled, settled, told]
      rfl

namespace Audit

variable {κ : Type} {meddles : SequenceStore → SequenceStore → Prop} {a b d : Audit κ}

/-- The fill loop can end now, for a reason. -/
inductive Exits (a : Audit κ) : FillEnd → Prop
  | unprovisioned (tag : String) (reads : a.desk.reading = some tag)
      (missing : a.desk.numbers.block? = none) : Exits a .unknownSequence
  | shutDown (closes : a.desk.closing = true) (rests : a.desk.Rests) : Exits a .shutDown

/-- The fill loop has ended, for a reason, and left nothing undone. -/
structure Over (why : FillEnd) (a : Audit κ) : Prop where
  ended : a.desk.numbers.allocator.ended = some why
  rests : a.desk.Rests

/-- A step that ends the fill loop finds no block, or comes after the allocator was shut down. -/
theorem Step.exits {c : SequenceConfig} (balanced : Balanced c a) (step : a.Step meddles b)
    (runs : a.desk.numbers.allocator.ended = none)
    (stops : b.desk.numbers.allocator.ended ≠ none) : ∃ why, Exits a why ∧ Over why b := by
  cases step with
  | grant tag r reads demand before grants =>
      rw [TraceDesk.reserve_granted (balanced.busy (by rw [reads]; rfl)) grants] at stops
      exact absurd runs stops
  | refuse tag e reads refuses =>
      have busy := balanced.busy (by rw [reads]; rfl)
      obtain ⟨ended, found, reserved⟩ := TraceDesk.reserve_refused busy refuses
      rw [reserved] at stops ⊢
      rcases found with rfl | ⟨rfl, missing⟩
      · exact absurd rfl stops
      · exact ⟨.unknownSequence, .unprovisioned tag reads missing, ⟨rfl, rfl, rfl⟩⟩
  | quiet desk moved reads holds =>
      cases moved with
      | stop closes rests =>
          refine ⟨.shutDown, .shutDown closes rests, ⟨?_, rests.reading, rests.unsent⟩⟩
          simp only [TraceNumbers.shutDown, Allocator.finish, runs]
      | reserve tag reading =>
          rw [reading] at reads
          cases reads with
          | inl none => cases none
          | inr same => cases same
      | _ => exact absurd runs stops
  | give | discard | clock | meddle => exact absurd runs stops

/-! ## Draining -/

/-- What happened since the fill loop ended: values were looked at, and that is all. -/
structure Drains (a b : Audit κ) (looks : List (Reserved × Date)) : Prop where
  granted : b.granted = a.granted
  seen : b.seen = a.seen ++ looks
  pending : looks.map Prod.fst ++ b.desk.pending = a.desk.pending
  suffix : b.desk.numbers.allocator.buffer <:+ a.desk.numbers.allocator.buffer

theorem Drains.trans {looks more : List (Reserved × Date)} (drains : Drains a b looks)
    (drained : Drains b d more) : Drains a d (looks ++ more) where
  granted := drained.granted.trans drains.granted
  seen := by rw [drained.seen, drains.seen, List.append_assoc]
  pending := by rw [List.map_append, List.append_assoc, drained.pending, drains.pending]
  suffix := drained.suffix.trans drains.suffix

theorem Drains.same {desk : TraceDesk κ} (pending : desk.pending = a.desk.pending)
    (suffix : desk.numbers.allocator.buffer <:+ a.desk.numbers.allocator.buffer) :
    Drains a { a with desk := desk } [] where
  granted := rfl
  seen := (List.append_nil _).symm
  pending := pending
  suffix := suffix

theorem Drains.looked {desk : TraceDesk κ} {r : Reserved} (hand : a.desk.hand = some r)
    (empty : desk.hand = none) (numbers : desk.numbers = a.desk.numbers) :
    Drains a ⟨desk, a.granted, a.seen ++ [(r, a.desk.numbers.today)]⟩
      [(r, a.desk.numbers.today)] where
  granted := rfl
  seen := rfl
  pending := by
    change [r] ++ (desk.hand.toList ++ _) = a.desk.hand.toList ++ _
    rw [hand, empty, numbers]
    rfl
  suffix := numbers ▸ List.suffix_rfl

theorem Over.quiet {why : FillEnd} {desk : TraceDesk κ} (isOver : Over why a)
    (step : a.desk.Step desk) (holds : a.desk.hand = none ∨ desk.hand = a.desk.hand) :
    Over why { a with desk := desk } ∧ Drains a { a with desk := desk } [] := by
  obtain ⟨ended, rests⟩ := isOver
  cases step with
  | look _ runs =>
      rw [TraceNumbers.isIdle, ended] at runs
      cases runs
  | reserve tag reads => cases rests.reading.symm.trans reads
  | send count more => cases rests.unsent.symm.trans more
  | enter caller free =>
      refine ⟨⟨ended, rests.reading, rests.unsent⟩, .same ?_ List.suffix_rfl⟩
      rw [TraceDesk.pending, TraceDesk.pending, free]
      rfl
  | leave caller first =>
      refine ⟨⟨ended, rests.reading, rests.unsent⟩, .same ?_ List.suffix_rfl⟩
      rw [TraceDesk.pending, TraceDesk.pending, first]
      rfl
  | receive caller r rest first buffered =>
      refine ⟨⟨ended, rests.reading, rests.unsent⟩, .same ?_ ?_⟩
      · rw [TraceDesk.pending, TraceDesk.pending, first, buffered]
        rfl
      · rw [buffered]
        exact List.suffix_cons r rest
  | stop =>
      have stays : a.desk.numbers.shutDown = a.desk.numbers := by
        rw [TraceNumbers.shutDown, Allocator.finish, ended]
      rw [stays]
      exact ⟨⟨ended, rests.reading, rests.unsent⟩, .same rfl List.suffix_rfl⟩
  | give caller r first | discard caller r first => simp [TraceDesk.hand, first] at holds
  | fail | advance | shutDown =>
      exact ⟨⟨ended, rests.reading, rests.unsent⟩, .same rfl List.suffix_rfl⟩

theorem Step.over {why : FillEnd} (isOver : Over why a) (step : a.Step meddles b) :
    Over why b ∧ ∃ looks, Drains a b looks := by
  have nothingRead (tag : String) (reads : a.desk.reading = some tag) : False := by
    cases isOver.rests.reading.symm.trans reads
  cases step with
  | grant tag r reads => exact (nothingRead tag reads).elim
  | refuse tag e reads => exact (nothingRead tag reads).elim
  | give caller r first current =>
      exact ⟨⟨isOver.ended, isOver.rests.reading, isOver.rests.unsent⟩, _,
        .looked (by rw [TraceDesk.hand, first]; rfl) rfl rfl⟩
  | discard caller r first stale =>
      exact ⟨⟨isOver.ended, isOver.rests.reading, isOver.rests.unsent⟩, _,
        .looked (by rw [TraceDesk.hand, first]; rfl) rfl rfl⟩
  | quiet desk moved reads holds =>
      obtain ⟨later, drains⟩ := isOver.quiet moved holds
      exact ⟨later, [], drains⟩
  | clock | meddle =>
      exact ⟨⟨isOver.ended, isOver.rests.reading, isOver.rests.unsent⟩, [],
        .same rfl List.suffix_rfl⟩

theorem Reaches.over {why : FillEnd} (isOver : Over why a) (reaches : a.Reaches meddles b) :
    Over why b ∧ ∃ looks, Drains a b looks := by
  induction reaches with
  | refl => exact ⟨isOver, [], .same rfl List.suffix_rfl⟩
  | tail _ step ih =>
      obtain ⟨overThen, looks, drains⟩ := ih
      obtain ⟨overNow, more, drained⟩ := step.over overThen
      exact ⟨overNow, looks ++ more, drains.trans drained⟩

/-- Once the fill loop has ended, no reservation is granted, the values in the buffer are looked at
in their order, and a call that finds none of its day is told why the loop ended; others may do
anything to the store, also provision the sequence. -/
theorem ended_loops_only_drain (c : SequenceConfig) (store : SequenceStore) (today : Date)
    (a b d : Audit κ) (reaches : (opened c store today).Reaches (fun _ _ => True) a)
    (step : a.Step (fun _ _ => True) b) (runs : a.desk.numbers.allocator.ended = none)
    (stops : b.desk.numbers.allocator.ended ≠ none) (later : b.Reaches (fun _ _ => True) d) :
    ∃ why, Exits a why ∧ d.desk.numbers.allocator.ended = some why ∧ d.desk.Rests ∧
      d.granted = b.granted ∧
      (∀ desk, d.desk.Step desk →
        desk.numbers.store.blocks = d.desk.numbers.store.blocks) ∧
      (∃ looks, d.seen = b.seen ++ looks ∧
        looks.map Prod.fst ++ d.desk.pending = b.desk.pending ∧
        d.desk.handed.map Prod.snd = b.desk.handed.map Prod.snd ++ delivered looks) ∧
      d.desk.numbers.allocator.buffer <:+ b.desk.numbers.allocator.buffer ∧
      d.desk.numbers.next =
        (match Allocator.firstOf d.desk.numbers.today.monthDay d.desk.numbers.allocator.buffer with
          | some (value, rest) => (.ok value, d.desk.numbers.keep rest)
          | none => (.error (why.error c.name), d.desk.numbers.keep [])) ∧
      (d.desk.numbers.allocator.buffer = [] →
        d.desk.numbers.next = (.error (why.error c.name), d.desk.numbers)) := by
  have balanced := Reaches.balanced (opened_balanced c store today) reaches
  have balancedThen := step.balanced balanced
  have balancedNow := Reaches.balanced balancedThen later
  obtain ⟨why, exits, overThen⟩ := step.exits balanced runs stops
  obtain ⟨isOver, looks, drains⟩ := Reaches.over overThen later
  have told := TraceNumbers.next_ended isOver.ended
  rw [balancedNow.serves.name] at told
  refine ⟨why, exits, isOver.ended, isOver.rests, drains.granted, fun desk moved => ?_,
    ⟨looks, drains.seen, drains.pending, ?_⟩, drains.suffix, told, fun empty => ?_⟩
  · cases moved with
    | reserve tag reads => cases isOver.rests.reading.symm.trans reads
    | _ => rfl
  · rw [balancedNow.handed, balancedThen.handed, drains.seen, delivered, delivered, delivered,
      List.filter_append, List.map_append]
  · have unchanged : d.desk.numbers.keep [] = d.desk.numbers := by rw [TraceNumbers.keep, ← empty]
    rw [told, empty, unchanged]
    rfl

end Audit

namespace Sample

/-- The fill loop has filled the buffer and is about to end. -/
def closingDesk : TraceDesk Bool := { fullDesk with closing := true }

def closedDesk : TraceDesk Bool :=
  { closingDesk with numbers := closingDesk.numbers.shutDown }

/-- The values in the buffer are of the next day. -/
def earlierDesk : TraceDesk Bool :=
  closedDesk.withNumbers (closedDesk.numbers.setToday monday)

/-- The fill loop is about to reserve a batch of a sequence that is not provisioned. -/
def searchingDesk : TraceDesk Bool :=
  { TraceDesk.opened sequence .empty monday with reading := some monday.monthDay }

def lostDesk : TraceDesk Bool := searchingDesk.reserve monday.monthDay

def provisionedDesk : TraceDesk Bool :=
  lostDesk.withNumbers { lostDesk.numbers with
    store := lostDesk.numbers.store.provision "stan" ⟨1, monday.monthDay⟩ }

end Sample

/-- The values left in the buffer are not of the day; a sequence is provisioned too late. -/
theorem Audit.ended_loops_only_drain_samples :
    (Sample.earlierDesk.numbers.allocator.buffer.map Reserved.value = [4, 1, 2] ∧
      Sample.earlierDesk.numbers.next =
        (.error (.sequenceClosed "stan"), Sample.earlierDesk.numbers.keep [])) ∧
    Sample.provisionedDesk.numbers.block? = some ⟨1, "0304"⟩ ∧
      Sample.provisionedDesk.numbers.next =
        (.error (.unknownSequence "stan"), Sample.provisionedDesk.numbers) := by
  constructor
  · have reaches : Sample.openDesk.Reaches Sample.closingDesk :=
      Sample.fullDesk_reached.tail .shutDown
    have noted : ∃ a : Audit Bool,
        (opened Sample.sequence Sample.numberStore Sample.monday).Reaches (fun _ _ => True) a ∧
          a.desk = Sample.closingDesk := exists_reaches reaches
    obtain ⟨⟨_, granted, seen⟩, reached, rfl⟩ := noted
    have stopped : Step (fun _ _ => True) ⟨Sample.closingDesk, granted, seen⟩
        ⟨Sample.closedDesk, granted, seen⟩ :=
      .quiet _ (.stop rfl ⟨rfl, rfl⟩) (Or.inl rfl) (Or.inr rfl)
    have later : Reaches (fun _ _ => True) ⟨Sample.closedDesk, granted, seen⟩
        ⟨Sample.earlierDesk, granted, seen⟩ := .single (.clock Sample.monday)
    have runs : Sample.closingDesk.numbers.allocator.ended = none := by decide +kernel
    have stops : Sample.closedDesk.numbers.allocator.ended ≠ none := by decide +kernel
    obtain ⟨why, _, ended, _, _, _, _, _, told, _⟩ := ended_loops_only_drain Sample.sequence
      Sample.numberStore Sample.monday _ _ _ reached stopped runs stops later
    have shutDown : Sample.earlierDesk.numbers.allocator.ended = some .shutDown := by
      decide +kernel
    obtain rfl := Option.some.inj (ended.symm.trans shutDown)
    have noneOfMonday : Allocator.firstOf Sample.earlierDesk.numbers.today.monthDay
        Sample.earlierDesk.numbers.allocator.buffer = none := by decide +kernel
    rw [noneOfMonday] at told
    exact ⟨by decide +kernel, told⟩
  · have reached : Reaches (fun _ _ => True)
        (opened Sample.sequence .empty Sample.monday) ⟨Sample.searchingDesk, [], []⟩ :=
      .single (.quiet _ (.look ⟨rfl, rfl⟩ (by decide +kernel)) (Or.inl rfl) (Or.inr rfl))
    have refused : Step (fun _ _ => True) ⟨Sample.searchingDesk, [], []⟩
        ⟨Sample.lostDesk, [], []⟩ := .refuse _ (.unknownSequence "stan") rfl (by decide +kernel)
    have later : Reaches (fun _ _ => True) ⟨Sample.lostDesk, [], []⟩
        ⟨Sample.provisionedDesk, [], []⟩ := .single (.meddle _ trivial)
    have stops : Sample.lostDesk.numbers.allocator.ended ≠ none := by decide +kernel
    obtain ⟨why, _, ended, _, _, _, _, _, _, empty⟩ := ended_loops_only_drain Sample.sequence
      .empty Sample.monday _ _ _ reached refused rfl stops later
    have unknown : Sample.provisionedDesk.numbers.allocator.ended = some .unknownSequence := by
      decide +kernel
    obtain rfl := Option.some.inj (ended.symm.trans unknown)
    exact ⟨by decide +kernel, empty (by decide +kernel)⟩

end CardPayments
