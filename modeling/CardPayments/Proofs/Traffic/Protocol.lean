import CardPayments.Proofs.Traffic.Basic

/-! # Protocols of requests

A protocol divides the life of a request into phases and says which calls and messages lead from one
phase to another.  A flow obeys a protocol when every path through it does.  Of traffic in which all
flows obey their protocols only the phases matter: what holds at the start and is kept by every move
from phase to phase holds throughout every run. -/
set_option autoImplicit false

namespace CardPayments

structure Protocol (σ α φ : Type) where
  /-- What a call may be answered with when it does not fail. -/
  expects : (call : Call) → call.Value → Prop
  asks : φ → (call : Call) → Except PaymentError call.Value → φ → Prop
  sends : φ → Message → Attached → Except PaymentError Unit → φ → Prop
  finishes : φ → σ → Except PaymentError α → Prop

/-- Every path through the flow follows the protocol, from the given phase on. -/
def Flow.Obeys {σ α φ : Type} (P : Protocol σ α φ) : Flow σ α → φ → Prop
  | .finish held answer, phase => P.finishes phase held answer
  | .ask _ call next, phase =>
      (∀ value, P.expects call value →
        ∃ after, P.asks phase call (.ok value) after ∧ (next (.ok value)).Obeys P after) ∧
      ∀ e, ∃ after, P.asks phase call (.error e) after ∧ (next (.error e)).Obeys P after
  | .send _ _ message next, phase =>
      ∀ attached outcome, ∃ after,
        P.sends phase message attached outcome after ∧ (next attached outcome).Obeys P after

namespace Flow

variable {σ α φ : Type} {P : Protocol σ α φ} {phase : φ}

theorem obeys_require {held : σ} {step : String} {call : Call} {next : call.Value → Flow σ α}
    (value : ∀ value, P.expects call value →
      ∃ after, P.asks phase call (.ok value) after ∧ (next value).Obeys P after)
    (error : ∀ e, ∃ after, P.asks phase call (.error e) after ∧
      P.finishes after held (.error (e.within step))) :
    (Flow.require held step call next).Obeys P phase :=
  ⟨value, error⟩

end Flow

/-- A request in a stage is in a phase; before it is started it is in the first one. -/
def Stage.Obeys {q : Request} {φ : Type} (P : Protocol q.Held q.Answer φ) (first : φ) :
    Stage q → φ → Prop
  | .waiting, phase => phase = first
  | .running flow, phase => flow.Obeys P phase
  | .dropped, _ => True

/-- The stores and messages of traffic, with the phases of its requests. -/
structure Overview (ι φ : Type) where
  stores : Stores
  exchanges : List (Exchange ι)
  phase : ι → φ

section

variable {ι φ : Type} [DecidableEq ι] {requests : ι → Request}
  (P : (i : ι) → Protocol (requests i).Held (requests i).Answer φ) (first : φ)

inductive Overview.Move (o : Overview ι φ) : Turn → Overview ι φ → Prop
  | still (turn : Turn) : Move o turn o
  | answered (i : ι) (call : Call) (answer : Except PaymentError call.Value) (stores : Stores)
      (after : φ) (answers : o.stores.answer call = (answer, stores))
      (asks : (P i).asks (o.phase i) call answer after) :
      Move o .answered ⟨stores, o.exchanges, Function.update o.phase i after⟩
  | refused (i : ι) (call : Call) (e : PaymentError) (after : φ)
      (asks : (P i).asks (o.phase i) call (.error e) after) :
      Move o .refused ⟨o.stores, o.exchanges, Function.update o.phase i after⟩
  | unheard (i : ι) (call : Call) (answer : Except PaymentError call.Value) (stores : Stores)
      (e : PaymentError) (after : φ) (answers : o.stores.answer call = (answer, stores))
      (asks : (P i).asks (o.phase i) call (.error e) after) :
      Move o .unheard ⟨stores, o.exchanges, Function.update o.phase i after⟩
  | exchanged (i : ι) (message : Message) (attached : Attached)
      (outcome : Except PaymentError Unit) (after : φ)
      (sends : (P i).sends (o.phase i) message attached outcome after) :
      Move o .exchanged ⟨o.stores, o.exchanges ++ [⟨i, message, attached, outcome⟩],
        Function.update o.phase i after⟩

structure Traffic.Shows (s : Traffic requests) (o : Overview ι φ) : Prop where
  stores : o.stores = s.stores
  exchanges : o.exchanges = s.exchanges
  staged : ∀ i, (s.stage i).Obeys (P i) first (o.phase i)

namespace Traffic

variable {P first} {s t : Traffic requests} {o : Overview ι φ}

omit [DecidableEq ι] in
theorem start_shows (stores : Stores) :
    (start requests stores).Shows P first ⟨stores, [], fun _ => first⟩ :=
  ⟨rfl, rfl, fun _ => rfl⟩

omit [DecidableEq ι] in
theorem Shows.waiting (shows : s.Shows P first o) {i : ι} (waits : s.stage i = .waiting) :
    o.phase i = first := by
  have staged := shows.staged i
  rw [waits] at staged
  exact staged

theorem Shows.advance (shows : s.Shows P first o) (i : ι) (stage : Stage (requests i))
    (stores : Stores) (sent : List (Exchange ι)) (after : φ)
    (obeys : stage.Obeys (P i) first after) :
    (s.advance i stage stores sent).Shows P first
      ⟨stores, o.exchanges ++ sent, Function.update o.phase i after⟩ := by
  refine ⟨rfl, congrArg (· ++ sent) shows.exchanges, fun j => ?_⟩
  by_cases same : j = i
  · subst same
    simpa only [Traffic.advance, Function.update_self] using obeys
  · simpa only [Traffic.advance, Function.update_of_ne same] using shows.staged j

theorem Shows.advance_same (shows : s.Shows P first o) (i : ι) (stage : Stage (requests i))
    (obeys : stage.Obeys (P i) first (o.phase i)) :
    (s.advance i stage s.stores []).Shows P first o := by
  have moved := shows.advance i stage s.stores [] (o.phase i) obeys
  rw [Function.update_eq_self, List.append_nil, ← shows.stores] at moved
  exact shows.stores ▸ moved

theorem Step.move {p : Processor} {turn : Turn}
    (obeys : ∀ i, ((requests i).flow p).Obeys (P i) first) (shows : s.Shows P first o)
    (expected : ∀ i call value stores, o.stores.answer call = (.ok value, stores) →
      (P i).expects call value)
    (step : s.Step p turn t) : ∃ o', t.Shows P first o' ∧ o.Move P turn o' := by
  cases step with
  | start i waits =>
      refine ⟨o, shows.advance_same i _ ?_, .still _⟩
      rw [shows.waiting waits]
      exact obeys i
  | answer i held call next asks =>
      have staged := shows.staged i
      rw [asks] at staged
      rw [← shows.stores]
      cases result : o.stores.answer call with
      | mk answer stores =>
          have follows : ∃ after, (P i).asks (o.phase i) call answer after ∧
              (next answer).Obeys (P i) after := by
            cases answer with
            | ok value => exact staged.1 value (expected i call value stores result)
            | error e => exact staged.2 e
          obtain ⟨after, follow, rest⟩ := follows
          have shown := shows.advance i (.running (next answer)) stores [] after rest
          rw [List.append_nil] at shown
          exact ⟨_, shown, .answered i call answer stores after result follow⟩
  | refuse i held call next asks e =>
      have staged := shows.staged i
      rw [asks] at staged
      obtain ⟨after, follow, rest⟩ := staged.2 e
      have shown := shows.advance i (.running (next (.error e))) o.stores [] after rest
      rw [List.append_nil] at shown
      rw [← shows.stores]
      exact ⟨_, shown, .refused i call e after follow⟩
  | lose i held call next asks e =>
      have staged := shows.staged i
      rw [asks] at staged
      rw [← shows.stores]
      cases result : o.stores.answer call with
      | mk answer stores =>
          obtain ⟨after, follow, rest⟩ := staged.2 e
          have shown := shows.advance i (.running (next (.error e))) stores [] after rest
          rw [List.append_nil] at shown
          exact ⟨_, shown, .unheard i call answer stores e after result follow⟩
  | exchange i held scheme message next sends attached outcome =>
      have staged := shows.staged i
      rw [sends] at staged
      obtain ⟨after, follow, rest⟩ := staged attached outcome
      rw [← shows.stores]
      exact ⟨_, shows.advance i _ o.stores _ after rest,
        .exchanged i message attached outcome after follow⟩
  | drop i flow runs => exact ⟨o, shows.advance_same i .dropped trivial, .still _⟩

theorem Reaches.invariant {p : Processor} {allowed : Turn → Prop} (Inv : Overview ι φ → Prop)
    (obeys : ∀ i, ((requests i).flow p).Obeys (P i) first)
    (expected : ∀ o, Inv o → ∀ i call value stores,
      o.stores.answer call = (.ok value, stores) → (P i).expects call value)
    (kept : ∀ o turn o', allowed turn → Inv o → o.Move P turn o' → Inv o')
    (shows : s.Shows P first o) (holds : Inv o) (reaches : s.Reaches p allowed t) :
    ∃ o', t.Shows P first o' ∧ Inv o' := by
  induction reaches with
  | refl => exact ⟨o, shows, holds⟩
  | tail _ step ih =>
      obtain ⟨turn, isAllowed, step⟩ := step
      obtain ⟨middle, shown, held⟩ := ih
      obtain ⟨o', shown', move⟩ := step.move obeys shown (expected middle held)
      exact ⟨o', shown', kept middle turn o' isAllowed held move⟩

end Traffic
end
end CardPayments
