import CardPayments.Proofs.Intake.Archive
import CardPayments.Proofs.Traffic.Footprint
import CardPayments.Proofs.Traffic.Protocol

/-! # Custody of a file

A request opens the file of its entity, records the data of the scheme, and settles the row with
what was decided of the entity; when it is answered with a success, that entity is what it leaves
with its caller.  Requests of other kinds leave the archive alone. -/
set_option autoImplicit false

namespace CardPayments

namespace Archive

/-- How far a request has come with the file of its entity. -/
inductive Phase (α : Type) where
  /-- The request opened no file, or did not get to settle it. -/
  | resting
  | opened (stored : α)
  | recorded (stored e : α)
  | settled (e : α)

def Phase.onSuccess {α β : Type} (answer : Except PaymentError β) (phase : Phase α) : Phase α :=
  match answer with
  | .ok _ => phase
  | .error _ => .resting

section

variable {α : Type} [Stored α] (k : Archive α)

/-- The entity whose file the request has opened. -/
def Phase.id? : Phase α → Option Uuid
  | .resting => none
  | .opened stored => some (Stored.id stored)
  | .recorded stored _ => some (Stored.id stored)
  | .settled e => some (Stored.id e)

/-- The file holds what the request has filed. -/
def Phase.Kept (s : Stores) : Phase α → Prop
  | .resting => True
  | .opened stored => (k.file s (Stored.id stored)).rows = [Stored.row stored]
  | .recorded stored e => k.file s (Stored.id stored) = ⟨[Stored.row stored], Stored.schemeData e⟩
  | .settled e => k.file s (Stored.id e) = ⟨[Stored.row e], Stored.schemeData e⟩

inductive Asks : Phase α → (call : Call) → Except PaymentError call.Value → Phase α → Prop
  | other (phase : Phase α) (call : Call) (answer : Except PaymentError call.Value)
      (other : ∀ f, call ≠ k.call f) : Asks phase call answer phase
  | opens (call : Call) (answer : Except PaymentError call.Value) (e : α)
      (files : call = k.call (.opens e)) :
      Asks .resting call answer (.onSuccess answer (.opened e))
  | records (call : Call) (answer : Except PaymentError call.Value) (stored e : α) (scheme : Scheme)
      (files : call = k.call (.records scheme e)) (own : Stored.id e = Stored.id stored) :
      Asks (.opened stored) call answer (.onSuccess answer (.recorded stored e))
  /-- What is decided of the stored row makes it the row of what the caller is left with. -/
  | settles (call : Call) (answer : Except PaymentError call.Value) (stored e e' : α)
      (files : call = k.call (.settles e')) (own : Stored.id e' = Stored.id stored)
      (same : Stored.schemeData e' = Stored.schemeData e)
      (decides : Stored.decided e' (Stored.row stored) = Stored.row e') :
      Asks (.recorded stored e) call answer (.onSuccess answer (.settled e'))
  | rejects (call : Call) (answer : Except PaymentError call.Value) (stored e : α)
      (files : call = k.call (.settles e)) (own : Stored.id e = Stored.id stored) :
      Asks (.opened stored) call answer .resting

/-- A request that is answered with a success has settled what it leaves with its caller, and that
is the entity it brought. -/
def protocol {σ : Type} (β : Type) (held? : σ → Option α) (brought? : Option α) :
    Protocol σ β (Phase α) where
  expects _ _ := True
  asks := Asks k
  sends before _ _ _ after := after = before
  finishes phase held answer := ∀ value e, answer = .ok value → held? held = some e →
    phase = .settled e ∧
      ∃ a, brought? = some a ∧ Stored.id e = Stored.id a ∧ Stored.psp e = Stored.psp a

def protocolOf (q : Request) : Protocol q.Held q.Answer (Phase α) :=
  k.protocol q.Answer (k.held? q) (k.brought? q)

end

/-! ## Requests go through the phases -/

section

variable {α σ β : Type} [Stored α] {k : Archive α} {held? : σ → Option α} {brought? : Option α}
  {phase after : Phase α}

theorem fails_obeys {held : σ} {step : String} {e : PaymentError} :
    (Flow.fail held step e : Flow σ β).Obeys (k.protocol β held? brought?) phase := by
  intro value left accepted
  cases accepted

theorem require_obeys {held : σ} {step : String} {call : Call} {next : call.Value → Flow σ β}
    (asks : ∀ value, Asks k phase call (.ok value) after)
    (fails : ∀ e, ∃ phase', Asks k phase call (.error e) phase')
    (rest : ∀ value, (next value).Obeys (k.protocol β held? brought?) after) :
    (Flow.require held step call next).Obeys (k.protocol β held? brought?) phase := by
  apply Flow.obeys_require
  · intro value _
    exact ⟨after, asks value, rest value⟩
  · intro e
    obtain ⟨phase', asks⟩ := fails e
    exact ⟨phase', asks, fails_obeys⟩

theorem dispatch_obeys {p : Processor} {held : Attached → σ} {scheme : Scheme}
    {message : Message} {next : Attached → Except PaymentError Unit → Flow σ β}
    (rest : ∀ attached outcome,
      (next attached outcome).Obeys (k.protocol β held? brought?) phase) :
    (p.dispatch held scheme message next).Obeys (k.protocol β held? brought?) phase := by
  rw [Processor.dispatch]
  split
  · intro attached outcome
    refine ⟨phase, rfl, ?_⟩
    cases outcome with
    | ok _ => exact rest _ _
    | error e => exact rest _ _
  · exact rest _ _

/-- A request of another kind files nothing here, and leaves no entity of this kind. -/
theorem obeys_of_only {C : Call → Prop} {M : Message → Prop} {flow : Flow σ β}
    (only : flow.Only C M) (calls : ∀ call, C call → ∀ f, call ≠ k.call f)
    (leaves : ∀ held, held? held = none) : flow.Obeys (k.protocol β held? brought?) phase := by
  induction flow with
  | finish held answer =>
      intro value e _ left
      rw [leaves] at left
      cases left
  | ask held call next ih =>
      obtain ⟨asks, rest⟩ := only
      have stays (answer : Except PaymentError call.Value) : Asks k phase call answer phase :=
        .other phase call answer (calls call asks)
      exact ⟨fun value _ => ⟨phase, stays _, ih _ (rest _)⟩,
        fun e => ⟨phase, stays _, ih _ (rest _)⟩⟩
  | send held scheme message next ih =>
      intro attached outcome
      exact ⟨phase, rfl, ih _ _ (only.2 _ _)⟩

end

section

variable {p : Processor} {a b : Authorization}

theorem assessAuthorization_obeys (sameId : b.id = a.id) (samePsp : b.psp = a.psp) :
    (p.assessAuthorization b).Obeys (authorizations.protocol Unit some (some a)) (.opened b) := by
  rw [Processor.assessAuthorization]
  split
  · refine dispatch_obeys fun attached outcome => ?_
    cases outcome with
    | error e => exact fails_obeys
    | ok _ =>
        refine require_obeys (fun value => .records _ (.ok value) _ _ _ rfl rfl)
          (fun e => ⟨_, .records _ (.error e) _ _ _ rfl rfl⟩) fun _ => ?_
        refine require_obeys (fun value => .settles _ (.ok value) _ _ _ rfl rfl rfl rfl)
          (fun e => ⟨_, .settles _ (.error e) _ _ _ rfl rfl rfl rfl⟩) fun _ => ?_
        intro _ e _ left
        obtain rfl := Option.some.inj left
        exact ⟨rfl, a, rfl, sameId, samePsp⟩
  · exact require_obeys (fun value => .rejects _ (.ok value) _ _ rfl rfl)
      (fun e => ⟨_, .rejects _ (.error e) _ _ rfl rfl⟩) fun _ => fails_obeys

theorem authorize_obeys :
    (p.authorize a).Obeys (authorizations.protocol Unit some (some a)) .resting := by
  have other (f : Filing Authorization) : .tokenize a.merchant a.card ≠ authorizations.call f := by
    cases f <;> exact nofun
  refine require_obeys (fun _ => .other _ _ _ other) (fun e => ⟨_, .other _ _ _ other⟩)
    fun token => ?_
  refine require_obeys (fun value => .opens _ (.ok value) _ rfl)
    (fun e => ⟨_, .opens _ (.error e) _ rfl⟩) fun _ => ?_
  exact assessAuthorization_obeys rfl rfl

end

section

variable {p : Processor} {r x : Refund}

theorem sendRefund_obeys (sameId : x.id = r.id) (samePsp : x.psp = r.psp) :
    (p.sendRefund x).Obeys (refunds.protocol Unit some (some r)) (.opened x) := by
  refine dispatch_obeys fun attached outcome => ?_
  cases outcome with
  | error e => exact fails_obeys
  | ok _ =>
      refine require_obeys (fun value => .records _ (.ok value) _ _ _ rfl rfl)
        (fun e => ⟨_, .records _ (.error e) _ _ _ rfl rfl⟩) fun _ => ?_
      refine require_obeys (fun value => .settles _ (.ok value) _ _ _ rfl rfl rfl rfl)
        (fun e => ⟨_, .settles _ (.error e) _ _ _ rfl rfl rfl rfl⟩) fun _ => ?_
      intro _ e _ left
      obtain rfl := Option.some.inj left
      exact ⟨rfl, r, rfl, sameId, samePsp⟩

theorem refund_obeys : (p.refund r).Obeys (refunds.protocol Unit some (some r)) .resting := by
  have other (f : Filing Refund) : .tokenize r.merchant r.card ≠ refunds.call f := by
    cases f <;> exact nofun
  refine require_obeys (fun _ => .other _ _ _ other) (fun e => ⟨_, .other _ _ _ other⟩)
    fun token => ?_
  refine require_obeys (fun value => .opens _ (.ok value) _ rfl)
    (fun e => ⟨_, .opens _ (.error e) _ rfl⟩) fun _ => ?_
  exact sendRefund_obeys rfl rfl

end

variable {p : Processor}

theorem other_obeys {α : Type} [Stored α] {k : Archive α} {q : Request}
    (leaves : ∀ held, k.held? q held = none)
    (calls : ∀ call, q.Asks call → ∀ f, call ≠ k.call f) :
    (q.flow p).Obeys (k.protocolOf q) .resting :=
  obeys_of_only (q.flow_only p) calls leaves

theorem authorizations_obeys (q : Request) :
    (q.flow p).Obeys (authorizations.protocolOf q) .resting := by
  cases q with
  | authorize a => exact authorize_obeys
  | _ =>
      refine other_obeys (fun _ => rfl) ?_
      rintro call (reads | writes) f rfl <;> cases f <;> first | cases reads | cases writes

theorem refunds_obeys (q : Request) : (q.flow p).Obeys (refunds.protocolOf q) .resting := by
  cases q with
  | refund r => exact refund_obeys
  | _ =>
      refine other_obeys (fun _ => rfl) ?_
      rintro call (reads | writes) f rfl <;> cases f <;> first | cases reads | cases writes

end Archive
end CardPayments
