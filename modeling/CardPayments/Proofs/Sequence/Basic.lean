import CardPayments.Proofs.Traffic.Footprint
import CardPayments.System

/-! # Requests one after another, on any networks

A request runs to its end on the stores and on card networks that answer as they like; what they
know between two messages, the trace numbers included, is their line.  Two requests are run side by
side from related worlds: as long as their steps are answered alike they end alike, in related
worlds again. -/
set_option autoImplicit false

namespace CardPayments

/-- What is answered to a message, which may depend on the messages before. -/
structure Networks (τ : Type) where
  exchange : τ → Scheme → Message → Attached × Except PaymentError Unit × τ

structure World (τ : Type) where
  stores : Stores
  line : τ

variable {τ : Type}

/-- Runs a request to its end: what its caller holds, its answer, and the world after it. -/
def Flow.settle {σ α : Type} (n : Networks τ) (w : World τ) :
    Flow σ α → (σ × Except PaymentError α) × World τ
  | .finish held answer => ((held, answer), w)
  | .ask _ call next =>
      let answered := w.stores.answer call
      (next answered.1).settle n { w with stores := answered.2 }
  | .send _ scheme m next =>
      let exchanged := n.exchange w.line scheme m
      (next exchanged.1 exchanged.2.1).settle n { w with line := exchanged.2.2 }

/-! ## Simulated networks -/

/-- The networks of a running system, whose line are its trace numbers. -/
def Networks.simulated (network : Scheme → Option SimulatedNetwork) : Networks TraceNumbers where
  exchange t scheme m :=
    match network scheme with
    | none => (m.attached, .error (.noConnection scheme.name), t)
    | some n => n.exchange t m

/-! ## Two runs side by side -/

/-- Both calls succeed or both fail, with related values or errors. -/
inductive Replies {α β : Type} (values : α → β → Prop)
    (errors : PaymentError → PaymentError → Prop) :
    Except PaymentError α → Except PaymentError β → Prop
  | ok {x : α} {y : β} (related : values x y) : Replies values errors (.ok x) (.ok y)
  | error {e e' : PaymentError} (related : errors e e') :
      Replies values errors (.error e) (.error e')

theorem Replies.of_eq {α : Type} {errors : PaymentError → PaymentError → Prop}
    (refl : ∀ e, errors e e) {x y : Except PaymentError α} (same : x = y) :
    Replies (fun x y => x = y) errors x y := by
  subst same
  cases x with
  | ok value => exact .ok rfl
  | error e => exact .error (refl e)

structure Outcomes {σ σ' α α' : Type} (holds : σ → σ' → Prop) (values : α → α' → Prop)
    (errors : PaymentError → PaymentError → Prop) (x : σ × Except PaymentError α)
    (y : σ' × Except PaymentError α') : Prop where
  held : holds x.1 y.1
  answer : Replies values errors x.2 y.2

namespace Flow

variable {σ σ' α α' : Type}

/-- Run from related worlds, the flows end related, in related worlds. -/
def Pairs (n : Networks τ) (worlds : World τ → World τ → Prop)
    (ends : σ × Except PaymentError α → σ' × Except PaymentError α' → Prop)
    (f : Flow σ α) (g : Flow σ' α') : Prop :=
  ∀ v w, worlds v w →
    ends (f.settle n v).1 (g.settle n w).1 ∧ worlds (f.settle n v).2 (g.settle n w).2

section

variable {n : Networks τ} {worlds : World τ → World τ → Prop}
  {ends : σ × Except PaymentError α → σ' × Except PaymentError α' → Prop}

theorem pairs_finish {held : σ} {held' : σ'} {answer : Except PaymentError α}
    {answer' : Except PaymentError α'} (related : ends (held, answer) (held', answer')) :
    (Flow.finish held answer).Pairs n worlds ends (Flow.finish held' answer') :=
  fun _ _ before => ⟨related, before⟩

theorem pairs_ask {held : σ} {held' : σ'} {call call' : Call}
    {next : Except PaymentError call.Value → Flow σ α}
    {next' : Except PaymentError call'.Value → Flow σ' α'}
    (replies : Except PaymentError call.Value → Except PaymentError call'.Value → Prop)
    (answered : ∀ v w, worlds v w →
      replies (v.stores.answer call).1 (w.stores.answer call').1 ∧
        worlds { v with stores := (v.stores.answer call).2 }
          { w with stores := (w.stores.answer call').2 })
    (rest : ∀ x y, replies x y → (next x).Pairs n worlds ends (next' y)) :
    (Flow.ask held call next).Pairs n worlds ends (Flow.ask held' call' next') := by
  intro v w before
  obtain ⟨related, after⟩ := answered v w before
  exact rest _ _ related _ _ after

/-- One side asks for what is known, and nothing comes of it. -/
theorem pairs_right {f : Flow σ α} {held' : σ'} {call' : Call}
    {next' : Except PaymentError call'.Value → Flow σ' α'} {reply : Except PaymentError call'.Value}
    (answered : ∀ v w, worlds v w → w.stores.answer call' = (reply, w.stores))
    (rest : f.Pairs n worlds ends (next' reply)) :
    f.Pairs n worlds ends (Flow.ask held' call' next') := by
  intro v w before
  rw [settle, answered v w before]
  exact rest v w before

theorem pairs_send {held : Attached → σ} {held' : Attached → σ'} {scheme : Scheme}
    {m m' : Message} {next : Attached → Except PaymentError Unit → Flow σ α}
    {next' : Attached → Except PaymentError Unit → Flow σ' α'}
    (attached : Attached → Attached → Prop)
    (answered : ∀ v w, worlds v w →
      attached (n.exchange v.line scheme m).1 (n.exchange w.line scheme m').1 ∧
        (n.exchange v.line scheme m).2.1 = (n.exchange w.line scheme m').2.1 ∧
        worlds { v with line := (n.exchange v.line scheme m).2.2 }
          { w with line := (n.exchange w.line scheme m').2.2 })
    (rest : ∀ x y outcome, attached x y →
      (next x outcome).Pairs n worlds ends (next' y outcome)) :
    (Flow.send held scheme m next).Pairs n worlds ends (Flow.send held' scheme m' next') := by
  intro v w before
  obtain ⟨related, same, after⟩ := answered v w before
  rw [settle, settle, same]
  exact rest _ _ _ related _ _ after

/-- Either both sides are not connected, or both send. -/
theorem pairs_dispatch {p : Processor} {held : Attached → σ} {held' : Attached → σ'}
    {scheme : Scheme} {m m' : Message}
    {next : Attached → Except PaymentError Unit → Flow σ α}
    {next' : Attached → Except PaymentError Unit → Flow σ' α'}
    (attached : Attached → Attached → Prop)
    (form : ∀ x y, attached x y →
      Processor.checkFormat x.response = Processor.checkFormat y.response)
    (unsent : attached m.attached m'.attached)
    (answered : ∀ v w, worlds v w →
      attached (n.exchange v.line scheme m).1 (n.exchange w.line scheme m').1 ∧
        (n.exchange v.line scheme m).2.1 = (n.exchange w.line scheme m').2.1 ∧
        worlds { v with line := (n.exchange v.line scheme m).2.2 }
          { w with line := (n.exchange w.line scheme m').2.2 })
    (rest : ∀ x y outcome, attached x y →
      (next x outcome).Pairs n worlds ends (next' y outcome)) :
    (p.dispatch held scheme m next).Pairs n worlds ends (p.dispatch held' scheme m' next') := by
  rw [Processor.dispatch, Processor.dispatch]
  split
  · refine pairs_send attached answered fun x y outcome related => ?_
    cases outcome with
    | error e => exact rest x y (.error e) related
    | ok _ =>
        rw [← form x y related]
        exact rest x y _ related
  · exact rest _ _ _ unsent

end

section

variable {n : Networks τ} {worlds : World τ → World τ → Prop} {holds : σ → σ' → Prop}
  {values : α → α' → Prop} {errors : PaymentError → PaymentError → Prop}

theorem pairs_ok {held : σ} {held' : σ'} {x : α} {y : α'} (kept : holds held held')
    (related : values x y) :
    (Flow.finish held (.ok x)).Pairs n worlds (Outcomes holds values errors)
      (Flow.finish held' (.ok y)) :=
  pairs_finish ⟨kept, .ok related⟩

theorem pairs_error {held : σ} {held' : σ'} {e e' : PaymentError} (kept : holds held held')
    (related : errors e e') :
    (Flow.finish held (.error e)).Pairs n worlds (Outcomes holds values errors)
      (Flow.finish held' (.error e')) :=
  pairs_finish ⟨kept, .error related⟩

/-- Both sides go on with what they need, or both fail. -/
theorem pairs_require {held : σ} {held' : σ'} {step step' : String} {call call' : Call}
    {next : call.Value → Flow σ α} {next' : call'.Value → Flow σ' α'}
    (given : call.Value → call'.Value → Prop) (kept : holds held held')
    (reported : ∀ e e', errors e e' → errors (e.within step) (e'.within step'))
    (answered : ∀ v w, worlds v w →
      Replies given errors (v.stores.answer call).1 (w.stores.answer call').1 ∧
        worlds { v with stores := (v.stores.answer call).2 }
          { w with stores := (w.stores.answer call').2 })
    (rest : ∀ x y, given x y →
      (next x).Pairs n worlds (Outcomes holds values errors) (next' y)) :
    (Flow.require held step call next).Pairs n worlds (Outcomes holds values errors)
      (Flow.require held' step' call' next') := by
  refine pairs_ask _ answered fun x y related => ?_
  cases related with
  | ok related => exact rest _ _ related
  | error related => exact pairs_error kept (reported _ _ related)

end

end Flow
end CardPayments
