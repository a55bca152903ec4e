import CardPayments.Proofs.Secrecy.Requests

/-! # Replays that differ in card numbers

Replaying commands whose numbers look the same gives the same outcomes and the same rows in every
store; only the vault knows which numbers they were.  No state on the way holds a clear number in a
row. -/
set_option autoImplicit false

namespace CardPayments

/-! ## Replays side by side -/

/-- Both hosts answer every request of a replay alike when the cards are related. -/
structure Host.Twins {ω ω' : Type} (h : Host ω) (h' : Host ω') (p : Processor)
    (cards : Card → Card → Prop) (states : ω → ω' → Prop) : Prop where
  authorize : ∀ w w' a b, states w w' → cards a.card b.card → b = { a with card := b.card } →
    Ends Authorization.Alike states (h.run w (p.authorize a)) (h'.run w' (p.authorize b))
  refund : ∀ w w' r x, states w w' → cards r.card x.card → x = { r with card := x.card } →
    Ends Refund.Alike states (h.run w (p.refund r)) (h'.run w' (p.refund x))
  capture : ∀ w w' psp c, states w w' →
    Ends Eq states (h.run w (p.capture psp c)) (h'.run w' (p.capture psp c))
  captureRefund : ∀ w w' psp c, states w w' →
    Ends Eq states (h.run w (p.captureRefund psp c)) (h'.run w' (p.captureRefund psp c))
  reverse : ∀ w w' psp r, states w w' →
    Ends Reversal.Alike states (h.run w (p.reverse psp r)) (h'.run w' (p.reverse psp r))
  echo : ∀ w w' scheme, states w w' →
    Ends Eq states (h.run w (p.echo scheme)) (h'.run w' (p.echo scheme))

namespace Replay

/-- The same answer, the same references, and related states. -/
structure Abreast {ω ω' : Type} (states : ω → ω' → Prop)
    (x : Except PaymentError Applied × Replay × ω)
    (y : Except PaymentError Applied × Replay × ω') : Prop where
  answer : x.1 = y.1
  references : x.2.1 = y.2.1
  state : states x.2.2 y.2.2

variable {ω ω' : Type} {h : Host ω} {h' : Host ω'} {p : Processor}
  {cards : Card → Card → Prop} {states : ω → ω' → Prop} {w : ω} {w' : ω'} {c d : Command}

theorem authorize_abreast (twins : h.Twins h' p cards states) (related : states w w') (r : Replay)
    (pays : Command.Pays cards c d) :
    Abreast states (authorize h p w r c) (authorize h' p w' r d) := by
  obtain ⟨⟨pan, rfl⟩, ⟨e, failed, failed'⟩ | ⟨card, card', amount, currency, same, paid, paid'⟩⟩ :=
    pays
  · rw [authorize, authorize, failed, failed']
    exact ⟨rfl, rfl, related⟩
  · have ran := twins.authorize w w'
      (.intake (.ofNat r.nextId) c.psp c.psp amount currency card (c.exemption.getD .none) default)
      (.intake (.ofNat r.nextId) c.psp c.psp amount currency card' (c.exemption.getD .none) default)
      related same rfl
    generalize left : h.run w _ = x at ran
    generalize right : h'.run w' _ = y at ran
    obtain ⟨⟨a, answer⟩, v⟩ := x
    obtain ⟨⟨b, answer'⟩, v'⟩ := y
    obtain ⟨⟨card, _, rfl⟩, rfl, state⟩ := ran
    simp only [authorize, paid, paid', fresh, left, right]
    exact ⟨rfl, rfl, state⟩

theorem refund_abreast (twins : h.Twins h' p cards states) (related : states w w') (r : Replay)
    (pays : Command.Pays cards c d) :
    Abreast states (refund h p w r c) (refund h' p w' r d) := by
  obtain ⟨⟨pan, rfl⟩, ⟨e, failed, failed'⟩ | ⟨card, card', amount, currency, same, paid, paid'⟩⟩ :=
    pays
  · rw [refund, refund, failed, failed']
    exact ⟨rfl, rfl, related⟩
  · have ran := twins.refund w w'
      (.intake (.ofNat r.nextId) c.psp c.psp amount currency card default)
      (.intake (.ofNat r.nextId) c.psp c.psp amount currency card' default) related same rfl
    generalize left : h.run w _ = x at ran
    generalize right : h'.run w' _ = y at ran
    obtain ⟨⟨a, answer⟩, v⟩ := x
    obtain ⟨⟨b, answer'⟩, v'⟩ := y
    obtain ⟨⟨card, _, rfl⟩, rfl, state⟩ := ran
    simp only [refund, paid, paid', fresh, left, right]
    exact ⟨rfl, rfl, state⟩

theorem capture_abreast (twins : h.Twins h' p cards states) (related : states w w') (r : Replay)
    (pan : Option String) :
    Abreast states (capture h p w r c) (capture h' p w' r { c with pan := pan }) := by
  have looks : lookup r.authorizations { c with pan := pan } = lookup r.authorizations c := rfl
  have amounts : amountOf { c with pan := pan } = amountOf c := rfl
  rw [capture, capture, looks, amounts]
  split
  · exact ⟨rfl, rfl, related⟩
  · exact ⟨rfl, rfl, related⟩
  · next authorizationId amount _ _ =>
      have ran := twins.capture w w' c.psp
        ⟨.ofNat r.nextId, authorizationId, amount, c.isFinal.getD false, .created, default⟩ related
      exact ⟨by simp only [fresh, ran.answer], rfl, ran.state⟩

theorem captureRefund_abreast (twins : h.Twins h' p cards states) (related : states w w')
    (r : Replay) (pan : Option String) :
    Abreast states (captureRefund h p w r c) (captureRefund h' p w' r { c with pan := pan }) := by
  have looks : lookup r.refunds { c with pan := pan } = lookup r.refunds c := rfl
  have amounts : amountOf { c with pan := pan } = amountOf c := rfl
  rw [captureRefund, captureRefund, looks, amounts]
  split
  · exact ⟨rfl, rfl, related⟩
  · exact ⟨rfl, rfl, related⟩
  · next refundId amount _ _ =>
      have ran := twins.captureRefund w w' c.psp
        ⟨.ofNat r.nextId, refundId, amount, c.isFinal.getD false, .created, default⟩ related
      exact ⟨by simp only [fresh, ran.answer], rfl, ran.state⟩

theorem reverse_abreast (twins : h.Twins h' p cards states) (related : states w w') (r : Replay)
    (pan : Option String) :
    Abreast states (reverse h p w r c) (reverse h' p w' r { c with pan := pan }) := by
  have looks : lookup r.authorizations { c with pan := pan } = lookup r.authorizations c := rfl
  rw [reverse, reverse, looks]
  split
  · exact ⟨rfl, rfl, related⟩
  · next authorizationId _ =>
      have ran := twins.reverse w w' c.psp (.ofId (.ofNat r.nextId) authorizationId default) related
      generalize left : h.run w _ = x at ran
      generalize right : h'.run w' _ = y at ran
      obtain ⟨⟨a, answer⟩, v⟩ := x
      obtain ⟨⟨b, answer'⟩, v'⟩ := y
      obtain ⟨⟨authorization, _, rfl⟩, rfl, state⟩ := ran
      simp only [fresh, left, right]
      exact ⟨rfl, rfl, state⟩

theorem echo_abreast (twins : h.Twins h' p cards states) (related : states w w') (r : Replay)
    (pan : Option String) :
    Abreast states (echo h p w r c) (echo h' p w' r { c with pan := pan }) := by
  have schemes : ({ c with pan := pan } : Command).scheme = c.scheme := rfl
  rw [echo, echo, schemes]
  split
  · exact ⟨rfl, rfl, related⟩
  · next scheme _ =>
      have ran := twins.echo w w' scheme related
      exact ⟨by simp only [ran.answer], rfl, ran.state⟩

theorem apply_abreast (twins : h.Twins h' p cards states) (related : states w w') (r : Replay)
    (pays : Command.Pays cards c d) : Abreast states (apply h p w r c) (apply h' p w' r d) := by
  obtain ⟨pan, same⟩ := pays.same
  have kinds : d.kind = c.kind := by rw [same]
  rw [apply, apply, kinds]
  cases c.kind with
  | authorize => exact authorize_abreast twins related r pays
  | refund => exact refund_abreast twins related r pays
  | capture => exact same ▸ capture_abreast twins related r pan
  | captureRefund => exact same ▸ captureRefund_abreast twins related r pan
  | reverse => exact same ▸ reverse_abreast twins related r pan
  | echo => exact same ▸ echo_abreast twins related r pan

/-- The same read errors, and commands that are related, in the same order. -/
def Rows (commands : Command → Command → Prop) (rows rows' : List (Except ReadError Command)) :
    Prop :=
  List.Forall₂ (fun row row' =>
    (∃ e, row = .error e ∧ row' = .error e) ∨
      ∃ c d, row = .ok c ∧ row' = .ok d ∧ commands c d) rows rows'

structure Level (states : ω → ω' → Prop) (x : Result ω) (y : Result ω') : Prop where
  rows : x.rows = y.rows
  overflow : x.overflow = y.overflow
  state : states x.state y.state

theorem Level.after {x : Result ω} {y : Result ω'} (level : Level states x y)
    (row : Except ReadError Outcome) : Level states (x.after row) (y.after row) :=
  ⟨congrArg (row :: ·) level.rows, level.overflow, level.state⟩

theorem outcome_eq (pays : Command.Pays cards c d)
    (answer : Except PaymentError Applied) : outcome d answer = outcome c answer := by
  obtain ⟨pan, rfl⟩ := pays.same
  cases answer <;> rfl

theorem applyAll_level (twins : h.Twins h' p cards states) (related : states w w') (r : Replay)
    {rows rows' : List (Except ReadError Command)} (same : Rows (Command.Pays cards) rows rows') :
    Level states (applyAll h p w r rows) (applyAll h' p w' r rows') := by
  induction same generalizing w w' r with
  | nil => exact ⟨rfl, rfl, related⟩
  | cons row _ ih =>
      rcases row with ⟨e, rfl, rfl⟩ | ⟨c, d, rfl, rfl, pays⟩
      · exact (ih related r).after _
      · -- the commands have the same answer, so both replays stop here or neither does
        have abreast := apply_abreast twins related r pays
        rw [applyAll, applyAll]
        generalize apply h p w r c = x at abreast
        generalize apply h' p w' r d = y at abreast
        obtain ⟨answer, next, v⟩ := x
        obtain ⟨answer', next', v'⟩ := y
        obtain ⟨rfl, rfl, state⟩ := abreast
        simp only [outcome_eq pays]
        cases answer with
        | ok applied => exact (ih state next).after _
        | error e =>
            simp only
            cases e.overflow? with
            | some operation => exact ⟨rfl, rfl, state⟩
            | none => exact (ih state next).after _

end Replay

/-! ## Replays on systems -/

/-- Runs requests as the system does, and keeps the stores after every call. -/
def Host.watched : Host Watched := ⟨Flow.watch⟩

/-- Two watched runs that differ in card numbers, with no clear number in a row. -/
structure Watched.Apart (v w : Watched) : Prop where
  alike : v.Alike w
  veiled : v.Veiled
  veiled' : w.Veiled

/-- What a run was watched to pass through ends where the run ends. -/
structure Watched.Follows (w : Watched) (s : System) : Prop where
  system : w.system = s
  last : w.seen.head? = some s.stores

theorem Flow.Alike.apart {σ α : Type} {holds : σ → σ → Prop} {f g : Flow σ α}
    (alike : f.Alike holds g) {v w : Watched} (apart : v.Apart w) :
    Ends holds Watched.Apart (Host.watched.run v f) (Host.watched.run w g) := by
  obtain ⟨held, answer, state⟩ := alike v w apart.alike
  exact ⟨held, answer, state, apart.veiled.watch f, apart.veiled'.watch g⟩

theorem watched_twins (p : Processor) :
    Host.watched.Twins Host.watched p Card.Alike Watched.Apart where
  authorize _ _ _ b apart cards same := (authorize_alike p ⟨b.card, cards, same⟩).apart apart
  refund _ _ _ x apart cards same := (refund_alike p ⟨x.card, cards, same⟩).apart apart
  capture _ _ psp c apart := (capture_alike p psp c).apart apart
  captureRefund _ _ psp c apart := (captureRefund_alike p psp c).apart apart
  reverse _ _ psp r apart := (reverse_alike p psp r).apart apart
  echo _ _ scheme apart := (echo_alike p scheme).apart apart

theorem Flow.watch_follows {σ α : Type} (flow : Flow σ α) {w : Watched} {s : System}
    (follows : w.Follows s) : (flow.watch w).1 = (flow.run s).1 ∧
      (flow.watch w).2.Follows (flow.run s).2 := by
  induction flow generalizing w s with
  | finish held answer => exact ⟨rfl, follows⟩
  | ask held call next ih =>
      obtain ⟨rfl, _⟩ := follows
      exact ih _ ⟨rfl, rfl⟩
  | send held scheme m next ih =>
      obtain ⟨rfl, last⟩ := follows
      refine ih _ _ ⟨rfl, ?_⟩
      rw [System.exchange_stores]
      exact last

theorem Flow.follows {σ α : Type} (flow : Flow σ α) {holds : σ → σ → Prop}
    (same : ∀ held, holds held held) {w : Watched} {s : System} (follows : w.Follows s) :
    Ends holds Watched.Follows (Host.watched.run w flow) (Host.system.run s flow) := by
  obtain ⟨answers, after⟩ := flow.watch_follows follows
  have held : Host.watched.run w flow = flow.watch w := rfl
  have ran : Host.system.run s flow = flow.run s := rfl
  rw [held, ran]
  exact ⟨answers ▸ same _, congrArg Prod.snd answers, after⟩

theorem system_twins (p : Processor) :
    Host.watched.Twins Host.system p Eq Watched.Follows where
  authorize _ _ a b follows cards same := by
    obtain rfl : b = a := by rw [same, ← cards]
    exact Flow.follows _ Authorization.Alike.refl follows
  refund _ _ r x follows cards same := by
    obtain rfl : x = r := by rw [same, ← cards]
    exact Flow.follows _ Refund.Alike.refl follows
  capture _ _ _ _ follows := Flow.follows _ (fun _ => rfl) follows
  captureRefund _ _ _ _ follows := Flow.follows _ (fun _ => rfl) follows
  reverse _ _ _ _ follows := Flow.follows _ Reversal.Alike.refl follows
  echo _ _ _ follows := Flow.follows _ (fun _ => rfl) follows

/-- The stores that a replay passes through, last ones first. -/
def Replay.passed (p : Processor) (s : System) (rows : List (Except ReadError Command)) :
    List Stores :=
  (applyAll .watched p ⟨s, [s.stores]⟩ .empty rows).state.seen

theorem Replay.Rows.refl {commands : Command → Command → Prop} (same : ∀ c, commands c c)
    (rows : List (Except ReadError Command)) : Rows commands rows rows := by
  refine List.forall₂_same.mpr fun row _ => ?_
  cases row with
  | error e => exact Or.inl ⟨e, rfl, rfl⟩
  | ok c => exact Or.inr ⟨c, c, rfl, rfl, same c⟩

/-- A watched replay is the replay on the system. -/
theorem Replay.watched_level (p : Processor) (s : System)
    (rows : List (Except ReadError Command)) :
    Level Watched.Follows (applyAll .watched p ⟨s, [s.stores]⟩ .empty rows)
      (applyAll .system p s .empty rows) :=
  applyAll_level (system_twins p) ⟨rfl, rfl⟩ .empty
    (.refl (fun c => .refl (fun _ => rfl) c) rows)

/-- Two files of commands with the same read errors, whose commands are equal but for accepted
numbers that look the same, have the same outcomes; they pass through stores that are equal but for
the numbers in the vault, and no row of them holds a clear number. -/
theorem replays_do_not_tell_numbers_apart (p : Processor) (traces : TraceNumbers)
    (network : Scheme → Option SimulatedNetwork) (rows rows' : List (Except ReadError Command))
    (alike : Replay.Rows Command.Alike rows rows') :
    let start := System.start traces network
    let result := Replay.applyAll .system p start .empty rows
    let result' := Replay.applyAll .system p start .empty rows'
    result'.rows = result.rows ∧ result'.overflow = result.overflow ∧
      result'.state.traces = result.state.traces ∧
      result'.state.stores = { result.state.stores with vault := result'.state.stores.vault } ∧
      List.Forall₂ Stores.Alike (Replay.passed p start rows) (Replay.passed p start rows') ∧
      ∀ s ∈ Replay.passed p start rows ++ Replay.passed p start rows', s.Veiled := by
  intro start result result'
  have veiled : Watched.Veiled ⟨start, [start.stores]⟩ :=
    ⟨.empty, List.forall_mem_singleton.mpr .empty⟩
  have apart : Watched.Apart ⟨start, [start.stores]⟩ ⟨start, [start.stores]⟩ :=
    ⟨⟨⟨_, .refl _, rfl⟩, .cons (.refl _) .nil⟩, veiled, veiled⟩
  have pays : Replay.Rows (Command.Pays Card.Alike) rows rows' := by
    refine alike.imp fun row row' same => ?_
    rcases same with failed | ⟨c, d, isRow, isRow', commands⟩
    · exact Or.inl failed
    · exact Or.inr ⟨c, d, isRow, isRow', commands.pays⟩
  obtain ⟨outcomes, overflow, ⟨⟨systems, history⟩, kept, kept'⟩⟩ :=
    Replay.applyAll_level (watched_twins p) apart .empty pays
  obtain ⟨left, leftOverflow, ⟨isLeft, _⟩⟩ := Replay.watched_level p start rows
  obtain ⟨right, rightOverflow, ⟨isRight, _⟩⟩ := Replay.watched_level p start rows'
  rw [isLeft, isRight] at systems
  obtain ⟨stores, ⟨vault, _, same⟩, system⟩ := systems
  refine ⟨?_, ?_, ?_, ?_, history, ?_⟩
  · exact right.symm.trans (outcomes.symm.trans left)
  · exact rightOverflow.symm.trans (overflow.symm.trans leftOverflow)
  · have after := congrArg System.traces system
    exact after
  · have after : result'.state.stores = stores := congrArg System.stores system
    rw [after, same]
  · exact List.forall_mem_append.mpr ⟨kept.2, kept'.2⟩

/-! ## Runs -/

namespace Secrecy.Sample

def today : Date := ⟨2024, 3, 4⟩

def traces : TraceNumbers :=
  ⟨.empty, ⟨"stan", ⟨1, 9⟩, 1, 2, [⟨1, today.monthDay⟩, ⟨2, today.monthDay⟩, ⟨3, today.monthDay⟩],
    none⟩, today⟩

def network : Scheme → Option SimulatedNetwork := fun scheme => some (.approving scheme)

def processor : Processor := ⟨fun _ => true, [], ⟨"captures", "refunds"⟩, 0⟩

def eleven : Decimal := { Decimal.zero with coefficient := 11, fits := by decide }

def command (kind : CommandKind) (reference pan : String) : Except ReadError Command :=
  .ok ⟨kind, "psp", reference, some "visa", some pan, some eleven, some "EUR", none, none⟩

/-- An authorization that is reversed, and a refund. -/
def commands (pan : String) : List (Except ReadError Command) :=
  [command .authorize "a" pan, command .reverse "a" pan, command .refund "b" pan]

end Secrecy.Sample

open Secrecy.Sample in
theorem replays_do_not_tell_numbers_apart_reversed :
    let start := System.start traces network
    let result := Replay.applyAll .system processor start .empty (commands "4111111111111111")
    let result' := Replay.applyAll .system processor start .empty (commands "4111110000091111")
    Replay.Rows Command.Alike (commands "4111111111111111") (commands "4111110000091111") ∧
      result'.rows = result.rows ∧
      result.outcomes.map (fun o => (o.kind, o.outcome, o.status)) =
        [("authorize", "ok", "approved"), ("reverse", "ok", "succeeded"),
          ("refund", "ok", "approved")] ∧
      result.state.stores.vault ≠ result'.state.stores.vault := by
  intro start result result'
  have rows : Replay.Rows Command.Alike (commands "4111111111111111")
      (commands "4111110000091111") := by
    have numbers : ∀ kind reference, ∃ c d,
        command kind reference "4111111111111111" = .ok c ∧
          command kind reference "4111110000091111" = .ok d ∧ c.Alike d :=
      fun kind reference => ⟨_, _, rfl, rfl, Or.inr ⟨_, _, ⟨"4111111111111111"⟩,
        ⟨"4111110000091111"⟩, rfl, rfl, by decide, by decide, by decide, by decide, by decide⟩⟩
    exact .cons (Or.inr (numbers _ _)) (.cons (Or.inr (numbers _ _))
      (.cons (Or.inr (numbers _ _)) .nil))
  refine ⟨rows, (replays_do_not_tell_numbers_apart processor traces network _ _ rows).1, ?_, ?_⟩
  · decide +kernel
  · decide +kernel

end CardPayments
