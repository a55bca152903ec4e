import CardPayments.Proofs.Overflow.Summaries
import CardPayments.Proofs.Traffic.Footprint
import CardPayments.Proofs.Traffic.Protocol
import CardPayments.Proofs.Undisturbed.Capture

/-! # Captures in every reachable state

A request that captures has read the row it captures from, and rows keep their amounts; so it checks
its capture against the amount of a stored row, however late it stores it.  The captures of every
transaction therefore stay within its amount, whatever requests there are and wherever they fail or
are dropped. -/
set_option autoImplicit false

namespace CardPayments

open Intake

theorem vouches_of_quiet {s : Stores} {call : Call} (quiet : ¬ call.WritesCaptures) :
    s.Vouches call := by
  cases call <;> first | trivial | exact absurd trivial quiet

theorem Request.Asks.not_writesCaptures {q : Request} {call : Call} (asks : q.Asks call)
    (other : (∀ psp c, q ≠ .capture psp c) ∧ ∀ psp c, q ≠ .captureRefund psp c) :
    ¬ call.WritesCaptures := by
  rcases asks with reads | writes
  · cases call <;> first | exact reads.isRead.elim | exact id
  · cases q with
    | capture psp c => exact absurd rfl (other.1 psp c)
    | captureRefund psp c => exact absurd rfl (other.2 psp c)
    | _ => cases call <;> first | exact id | exact writes.elim

namespace Overflow

/-- The transaction that a request captures from and the amount it read there, once it did. -/
abbrev Reading : Type := Option (Key × Amount)

/-- What the request has read is stored. -/
def Reading.Knows (reading : Reading) (s : Stores) : Prop :=
  ∀ key amount, reading = some (key, amount) → s.amounts key = [amount]

/-- As long as what was read is stored, the call stores nothing unchecked. -/
def Reading.Justifies (reading : Reading) (call : Call) : Prop :=
  ∀ s : Stores, reading.Knows s → s.Vouches call

inductive Asks : Reading → (call : Call) → Except PaymentError call.Value → Reading → Prop
  | keeps (reading : Reading) (call : Call) (answer : Except PaymentError call.Value)
      (justified : reading.Justifies call) : Asks reading call answer reading
  | authorization (psp : String) (id : Uuid) (a : Authorization) :
      Asks none (.authorization psp id) (.ok a) (some (⟨.authorization, id⟩, a.amount))
  | refund (psp : String) (id : Uuid) (r : Refund) :
      Asks none (.refund psp id) (.ok r) (some (⟨.refund, id⟩, r.amount))

def protocol (σ α : Type) : Protocol σ α Reading where
  expects _ _ := True
  asks := Asks
  sends reading _ _ _ after := after = reading
  finishes _ _ _ := True

/-! ## Flows -/

theorem obeys_of_only {σ α : Type} {reading : Reading} {M : Message → Prop} {flow : Flow σ α}
    (only : flow.Only reading.Justifies M) : flow.Obeys (protocol σ α) reading := by
  induction flow with
  | finish held answer => trivial
  | ask held call next ih =>
      exact ⟨fun value _ => ⟨reading, .keeps reading call _ only.1, ih _ (only.2 _)⟩,
        fun e => ⟨reading, .keeps reading call _ only.1, ih _ (only.2 _)⟩⟩
  | send held scheme message next ih =>
      exact fun attached outcome => ⟨reading, rfl, ih _ _ (only.2 _ _)⟩

theorem flow_obeys (p : Processor) (q : Request) :
    (q.flow p).Obeys (protocol q.Held q.Answer) none := by
  have quiet (other : (∀ psp c, q ≠ .capture psp c) ∧ ∀ psp c, q ≠ .captureRefund psp c) :
      (q.flow p).Obeys (protocol q.Held q.Answer) none :=
    obeys_of_only ((q.flow_only p).mono (fun call asks s _ =>
      vouches_of_quiet (Request.Asks.not_writesCaptures asks other)) fun _ => id)
  cases q with
  | capture psp c =>
      refine Flow.obeys_require (fun (a : Authorization) _ => ⟨_, .authorization psp _ a, ?_⟩)
        fun e => ⟨_, .keeps _ _ _ fun _ _ => trivial, trivial⟩
      split
      · trivial
      · exact obeys_of_only (M := fun _ => True) (attemptsCapture_calls (fun _ _ => trivial)
          (fun _ _ => trivial) (fun isFinal seen checked becomes s knows =>
            ⟨a.amount, c.isFinal, knows _ _ rfl, checked, becomes⟩)
          (fun _ _ _ => rfl) (fun _ _ _ => trivial) _)
  | captureRefund psp c =>
      refine Flow.obeys_require (fun (r : Refund) _ => ⟨_, .refund psp _ r, ?_⟩)
        fun e => ⟨_, .keeps _ _ _ fun _ _ => trivial, trivial⟩
      split
      · trivial
      · exact obeys_of_only (M := fun _ => True) (attemptsRefundCapture_calls
          (fun _ _ => trivial) (fun isFinal seen checked becomes s knows =>
            ⟨r.amount, c.isFinal, knows _ _ rfl, checked, becomes⟩) (fun _ _ _ => trivial) _)
  | _ => exact quiet ⟨nofun, nofun⟩

/-! ## Runs -/

theorem Reading.Knows.answer {reading : Reading} {s : Stores} (knows : reading.Knows s)
    (call : Call) : reading.Knows (s.answer call).2 :=
  fun key amount isRead => s.answer_amounts_of_mem call (knows key amount isRead)

/-- What a request was told it read is stored. -/
theorem Asks.knows {before after : Reading} {s : Stores} {call : Call}
    {told : Except PaymentError call.Value} (asks : Asks before call told after)
    (heard : told = (s.answer call).1 ∨ ∃ e, told = .error e) (knows : before.Knows s)
    (covered : ∀ key, s.Covered key) : after.Knows (s.answer call).2 := by
  cases asks with
  | keeps reading call told justified => exact knows.answer call
  | authorization psp id a =>
      have found : .ok a = s.authorizations.getFull psp id := heard.resolve_right nofun
      obtain ⟨row, stored, _, amount⟩ := AuthorizationStore.getFull_ok found.symm
      rintro _ _ ⟨⟩
      rw [amount]
      exact (covered _).amounts_eq (Stores.amounts_authorization stored)
  | refund psp id r =>
      have found : .ok r = s.refunds.getFull psp id := heard.resolve_right nofun
      obtain ⟨row, stored, _, _, rfl⟩ := TransactionStore.getFull_shows found.symm
      rintro _ _ ⟨⟩
      have kept := Stores.amounts_refund stored
      exact (covered _).amounts_eq kept

theorem Asks.after_error {before after : Reading} {call : Call} {e : PaymentError}
    (asks : Asks before call (.error e) after) : after = before := by
  cases asks
  rfl

theorem Asks.vouches {before after : Reading} {s : Stores} {call : Call}
    {told : Except PaymentError call.Value} (asks : Asks before call told after)
    (knows : before.Knows s) : s.Vouches call := by
  cases asks with
  | keeps reading call told justified => exact justified s knows
  | authorization => trivial
  | refund => trivial

variable {ι : Type} [DecidableEq ι] {requests : ι → Request}

structure Inv (o : Overview ι Reading) : Prop where
  covered : ∀ key, o.stores.Covered key
  knows : ∀ i, (o.phase i).Knows o.stores

theorem Inv.ask {o : Overview ι Reading} (inv : Inv o) {i : ι} {call : Call} {after : Reading}
    {told : Except PaymentError call.Value} (asks : Asks (o.phase i) call told after)
    (heard : told = (o.stores.answer call).1 ∨ ∃ e, told = .error e) :
    Inv ⟨(o.stores.answer call).2, o.exchanges, Function.update o.phase i after⟩ := by
  refine ⟨fun key => (inv.covered key).answer (asks.vouches (inv.knows i)), fun j => ?_⟩
  by_cases same : j = i
  · subst same
    simpa only [Function.update_self] using asks.knows heard (inv.knows j) inv.covered
  · simpa only [Function.update_of_ne same] using (inv.knows j).answer call

theorem Inv.move {o o' : Overview ι Reading} {turn : Turn}
    (move : o.Move (fun i => protocol (requests i).Held (requests i).Answer) turn o')
    (inv : Inv o) : Inv o' := by
  cases move with
  | still => exact inv
  | answered i call told stores after answers asks =>
      have moved := inv.ask asks (Or.inl (by rw [answers]))
      rwa [answers] at moved
  | unheard i call told stores e after answers asks =>
      have moved := inv.ask asks (Or.inr ⟨e, rfl⟩)
      rwa [answers] at moved
  | refused i call e after asks =>
      refine ⟨inv.covered, fun j => ?_⟩
      simpa only [asks.after_error, Function.update_eq_self] using inv.knows j
  | exchanged i message attached outcome after sends =>
      have same : after = o.phase i := sends
      refine ⟨inv.covered, fun j => ?_⟩
      simpa only [same, Function.update_eq_self] using inv.knows j

end Overflow

/-- Whatever requests there are and whatever happens to them, the captures of every transaction
stay within its amount. -/
theorem Traffic.Reaches.covered {ι : Type} [DecidableEq ι] {requests : ι → Request}
    {p : Processor} {t : Traffic requests}
    (reaches : (start requests .empty).Reaches p (fun _ => True) t) (key : Key) :
    t.stores.Covered key := by
  have obeys (i : ι) : ((requests i).flow p).Obeys
      (Overflow.protocol (requests i).Held (requests i).Answer) none :=
    Overflow.flow_obeys p (requests i)
  obtain ⟨o, shows, inv⟩ := reaches.invariant Overflow.Inv obeys (fun _ _ _ _ _ _ _ => trivial)
    (fun _ _ _ _ inv move => inv.move move) (start_shows .empty)
    ⟨Stores.covered_empty, fun _ => nofun⟩
  rw [← shows.stores]
  exact inv.covered key

end CardPayments
