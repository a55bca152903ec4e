import CardPayments.Proofs.Intake.Dossier
import CardPayments.Proofs.Traffic.Footprint
import CardPayments.Proofs.Traffic.Protocol

/-! # Phases of an authorization or refund

The row is stored as new, the network is asked, the data it attached is recorded, and at last the
row is settled; a risk rule settles it before the network is asked.  Captures and reversals file
nothing and stay in the first phase. -/
set_option autoImplicit false

namespace CardPayments

/-- An authorization or refund that no network has answered, as every intake is. -/
def Request.Unanswered : Request → Prop
  | .authorize a => a.response = none
  | .refund r => r.response = none
  | _ => True

namespace Intake

inductive Phase where
  /-- The request stored no row, or files nothing any more. -/
  | resting
  | stored (key : Key) (scheme : Scheme)
  /-- The network answered in due form and attached this. -/
  | answered (key : Key) (scheme : Scheme) (x : Attached)
  | recorded (key : Key) (response : Option SchemeResponse)

/-- The transaction that the request may still file something for. -/
def Phase.key? : Phase → Option Key
  | .resting => none
  | .stored key _ => some key
  | .answered key _ _ => some key
  | .recorded key _ => some key

inductive Asks : Phase → (call : Call) → Except PaymentError call.Value → Phase → Prop
  | other (phase : Phase) (call : Call) (answer : Except PaymentError call.Value)
      (files : call.filing? = none) : Asks phase call answer phase
  | opens (call : Call) (answer : Except PaymentError call.Value) (key : Key) (x : Transaction)
      (files : call.filing? = some (key, .opens x)) (fresh : x.status = .new)
      (unanswered : x.response = none) :
      Asks .resting call answer
        (match answer with
        | .ok _ => .stored key x.card.scheme
        | .error _ => .resting)
  | rejects (call : Call) (answer : Except PaymentError call.Value) (key : Key) (scheme : Scheme)
      (files : call.filing? = some (key, .settles .riskDeclined none)) :
      Asks (.stored key scheme) call answer .resting
  | records (call : Call) (answer : Except PaymentError call.Value) (key : Key) (scheme : Scheme)
      (x : Attached) (files : call.filing? = some (key, .records scheme x.schemeData)) :
      Asks (.answered key scheme x) call answer
        (match answer with
        | .ok _ => .recorded key x.response
        | .error _ => .resting)
  | settles (call : Call) (answer : Except PaymentError call.Value) (key : Key)
      (response : Option SchemeResponse)
      (files : call.filing? = some (key, .settles (.ofResponse response) response)) :
      Asks (.recorded key response) call answer .resting

inductive Sends : Phase → Message → Attached → Except PaymentError Unit → Phase → Prop
  | other (phase : Phase) (message : Message) (attached : Attached)
      (outcome : Except PaymentError Unit) (names : message.key? = none) :
      Sends phase message attached outcome phase
  | answered (key : Key) (scheme : Scheme) (message : Message) (attached : Attached)
      (names : message.key? = some key)
      (wellFormed : Processor.checkFormat attached.response = .ok ()) :
      Sends (.stored key scheme) message attached (.ok ()) (.answered key scheme attached)
  | failed (key : Key) (scheme : Scheme) (message : Message) (attached : Attached)
      (outcome : Except PaymentError Unit) (names : message.key? = some key) :
      Sends (.stored key scheme) message attached outcome .resting

def protocol (σ α : Type) : Protocol σ α Phase where
  expects _ _ := True
  asks := Asks
  sends := Sends
  finishes _ _ _ := True

section

variable {σ α : Type} {phase after : Phase}

theorem require_obeys {held : σ} {step : String} {call : Call} {next : call.Value → Flow σ α}
    (asks : ∀ value, Asks phase call (.ok value) after)
    (fails : ∀ e, ∃ phase', Asks phase call (.error e) phase')
    (rest : ∀ value, (next value).Obeys (protocol σ α) after) :
    (Flow.require held step call next).Obeys (protocol σ α) phase := by
  apply Flow.obeys_require
  · intro value _
    exact ⟨after, asks value, rest value⟩
  · intro e
    obtain ⟨phase', asks⟩ := fails e
    exact ⟨phase', asks, trivial⟩

/-- A message either comes back in due form, or nothing more is filed. -/
theorem dispatch_obeys {p : Processor} {held : Attached → σ} {scheme : Scheme}
    {message : Message} {next : Attached → Except PaymentError Unit → Flow σ α} {key : Key}
    (names : message.key? = some key)
    (rest : ∀ attached, Processor.checkFormat attached.response = .ok () →
      (next attached (.ok ())).Obeys (protocol σ α) (.answered key scheme attached))
    (ends : ∀ attached e phase, (next attached (.error e)).Obeys (protocol σ α) phase) :
    (p.dispatch held scheme message next).Obeys (protocol σ α) (.stored key scheme) := by
  rw [Processor.dispatch]
  split
  · intro attached outcome
    cases outcome with
    | error e => exact ⟨.resting, .failed key scheme message attached _ names, ends _ _ _⟩
    | ok _ =>
        cases form : Processor.checkFormat attached.response with
        | ok _ =>
            refine ⟨_, .answered key scheme message attached names form, ?_⟩
            simp only [form]
            exact rest attached form
        | error e =>
            refine ⟨.resting, .failed key scheme message attached _ names, ?_⟩
            simp only [form]
            exact ends _ _ _
  · exact ends _ _ _

theorem obeys_of_only {C : Call → Prop} {M : Message → Prop} {flow : Flow σ α}
    (only : flow.Only C M) (calls : ∀ call, C call → call.filing? = none)
    (messages : ∀ message, M message → message.key? = none) :
    flow.Obeys (protocol σ α) phase := by
  induction flow with
  | finish held answer => trivial
  | ask held call next ih =>
      obtain ⟨asks, rest⟩ := only
      have stays (answer : Except PaymentError call.Value) : Asks phase call answer phase :=
        .other phase call answer (calls call asks)
      exact ⟨fun value _ => ⟨phase, stays _, ih _ (rest _)⟩,
        fun e => ⟨phase, stays _, ih _ (rest _)⟩⟩
  | send held scheme message next ih =>
      obtain ⟨sends, rest⟩ := only
      intro attached outcome
      exact ⟨phase, .other phase message attached outcome (messages message sends),
        ih _ _ (rest _ _)⟩

end

variable {p : Processor}

/-! ## Authorizations -/

section

variable {a : Authorization}

theorem storeAuthorizationData_obeys {x : Attached} :
    (Processor.storeAuthorizationData (a.attach x)).Obeys (protocol Authorization Unit)
      (.answered ⟨.authorization, a.id⟩ a.card.scheme x) := by
  refine require_obeys (fun value => .records _ (.ok value) _ _ x rfl)
    (fun e => ⟨_, .records _ _ _ _ x rfl⟩) fun _ => ?_
  exact require_obeys (fun _ => .settles _ _ _ x.response rfl)
    (fun e => ⟨_, .settles _ _ _ x.response rfl⟩) fun _ => trivial

theorem assessAuthorization_obeys (unanswered : a.response = none) :
    (p.assessAuthorization a).Obeys (protocol Authorization Unit)
      (.stored ⟨.authorization, a.id⟩ a.card.scheme) := by
  rw [Processor.assessAuthorization]
  split
  · refine dispatch_obeys rfl (fun attached _ => ?_) fun attached e phase => trivial
    exact storeAuthorizationData_obeys (a := { a with appliedExemption := _ })
  · have files : (Call.updateAuthorization { a with status := .riskDeclined }).filing? =
        some (⟨.authorization, a.id⟩, .settles .riskDeclined none) := by
      rw [← unanswered]
      rfl
    exact require_obeys (fun _ => .rejects _ _ _ _ files) (fun e => ⟨_, .rejects _ _ _ _ files⟩)
      fun _ => trivial

theorem authorize_obeys (unanswered : a.response = none) :
    (p.authorize a).Obeys (protocol Authorization Unit) .resting := by
  refine require_obeys (fun _ => .other _ _ _ rfl) (fun e => ⟨_, .other _ _ _ rfl⟩)
    fun token => ?_
  refine require_obeys (fun value => .opens _ (.ok value) _ _ rfl rfl unanswered)
    (fun e => ⟨_, .opens _ _ _ _ rfl rfl unanswered⟩) fun _ => ?_
  exact assessAuthorization_obeys (a := { a with card := _, status := .new }) unanswered

end

/-! ## Refunds -/

section

variable {r : Refund}

theorem storeRefundData_obeys {x : Attached} :
    (Processor.storeRefundData (r.attach x)).Obeys (protocol Refund Unit)
      (.answered ⟨.refund, r.id⟩ r.card.scheme x) := by
  refine require_obeys (fun value => .records _ (.ok value) _ _ x rfl)
    (fun e => ⟨_, .records _ _ _ _ x rfl⟩) fun _ => ?_
  exact require_obeys (fun _ => .settles _ _ _ x.response rfl)
    (fun e => ⟨_, .settles _ _ _ x.response rfl⟩) fun _ => trivial

theorem refund_obeys (unanswered : r.response = none) :
    (p.refund r).Obeys (protocol Refund Unit) .resting := by
  refine require_obeys (fun _ => .other _ _ _ rfl) (fun e => ⟨_, .other _ _ _ rfl⟩)
    fun token => ?_
  refine require_obeys (fun value => .opens _ (.ok value) _ _ rfl rfl unanswered)
    (fun e => ⟨_, .opens _ _ _ _ rfl rfl unanswered⟩) fun _ => ?_
  refine dispatch_obeys rfl (fun attached _ => ?_) fun attached e phase => trivial
  exact storeRefundData_obeys (r := { r with card := _, status := .new })

end

/-- A request that files nothing and does not ask for a transaction rests all the time. -/
theorem flow_rests {q : Request} (calls : ∀ call, q.Writes call → call.filing? = none)
    (messages : ∀ message, q.Sends message → message.key? = none) :
    (q.flow p).Obeys (protocol q.Held q.Answer) .resting := by
  refine obeys_of_only (q.flow_only p) (fun call asks => ?_) messages
  rcases asks with reads | writes
  · have isRead := reads.isRead
    cases call <;> first | rfl | cases isRead
  · exact calls call writes

theorem flow_obeys {q : Request} (unanswered : q.Unanswered) :
    (q.flow p).Obeys (protocol q.Held q.Answer) .resting := by
  cases q with
  | authorize a => exact authorize_obeys unanswered
  | refund r => exact refund_obeys unanswered
  | capture psp c =>
      refine flow_rests (fun call writes => ?_) fun message sends => sends.elim
      cases call <;> first | rfl | exact writes.elim
  | captureRefund psp c =>
      refine flow_rests (fun call writes => ?_) fun message sends => sends.elim
      cases call <;> first | rfl | exact writes.elim
  | reverse psp r =>
      refine flow_rests (fun call writes => ?_) fun message sends => ?_
      · cases call <;> first | rfl | exact writes.elim
      · cases message <;> first | rfl | exact sends.elim

end Intake
end CardPayments
