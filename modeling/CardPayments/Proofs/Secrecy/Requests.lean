import CardPayments.Proofs.Secrecy.Stores
import CardPayments.Proofs.Traffic.Footprint
import CardPayments.System
import Mathlib.Data.List.Forall2

/-! # Requests that differ in card numbers

Two requests whose cards are alike are run side by side, on systems that only differ in the numbers
of their vaults.  Step by step they are answered alike, so that they end alike; a network sees that
a number is there, but answers the same whichever it is. -/
set_option autoImplicit false

namespace CardPayments

/-! ## Runs that are watched -/

/-- A system, and the stores after every call so far, last one first. -/
structure Watched where
  system : System
  seen : List Stores

/-- Runs a request as the system does, and keeps the stores after every call. -/
def Flow.watch {σ α : Type} (w : Watched) : Flow σ α → (σ × Except PaymentError α) × Watched
  | .finish held answer => ((held, answer), w)
  | .ask _ call next =>
      let answered := w.system.answer call
      (next answered.1).watch ⟨answered.2, answered.2.stores :: w.seen⟩
  | .send _ scheme m next =>
      let exchanged := w.system.exchange scheme m
      (next exchanged.1 exchanged.2.1).watch { w with system := exchanged.2.2 }

def Watched.Veiled (w : Watched) : Prop := w.system.stores.Veiled ∧ ∀ s ∈ w.seen, s.Veiled

theorem System.exchange_stores (s : System) (scheme : Scheme) (m : Message) :
    (s.exchange scheme m).2.2.stores = s.stores := by
  rw [exchange]
  split <;> rfl

theorem Watched.Veiled.watch {σ α : Type} (flow : Flow σ α) {w : Watched} (veiled : w.Veiled) :
    (flow.watch w).2.Veiled := by
  induction flow generalizing w with
  | finish held answer => exact veiled
  | ask held call next ih =>
      have after := veiled.1.answer call
      exact ih _ ⟨after, List.forall_mem_cons.mpr ⟨after, veiled.2⟩⟩
  | send held scheme m next ih =>
      refine ih _ _ ⟨?_, veiled.2⟩
      rw [System.exchange_stores]
      exact veiled.1

/-! ## Runs side by side -/

def System.Alike (s t : System) : Prop :=
  ∃ stores, s.stores.Alike stores ∧ t = { s with stores := stores }

def Watched.Alike (v w : Watched) : Prop :=
  v.system.Alike w.system ∧ List.Forall₂ Stores.Alike v.seen w.seen

/-- The answers are the same, what the callers hold is related, and so are the states after it. -/
structure Ends {σ α ω ω' : Type} (holds : σ → σ → Prop) (states : ω → ω' → Prop)
    (x : (σ × Except PaymentError α) × ω) (y : (σ × Except PaymentError α) × ω') : Prop where
  held : holds x.1.1 y.1.1
  answer : x.1.2 = y.1.2
  state : states x.2 y.2

def Flow.Alike {σ α : Type} (holds : σ → σ → Prop) (f g : Flow σ α) : Prop :=
  ∀ v w : Watched, v.Alike w → Ends holds Watched.Alike (f.watch v) (g.watch w)

namespace Message

variable {m m' : Message}

theorem Alike.attached (alike : m.Alike m') : m'.attached = m.attached := by
  cases m <;> cases m' <;> first
    | rfl
    | exact alike.elim
    | (obtain ⟨_, _, rfl⟩ := alike; rfl)

/-- A network asks whether a number is clear, and not which one it is. -/
theorem Alike.refuse (alike : m.Alike m') :
    SimulatedNetwork.refuse m' = SimulatedNetwork.refuse m := by
  cases m with
  | reverse r =>
      cases m' with
      | reverse x =>
          obtain ⟨authorization, related, rfl⟩ := alike
          simp only [SimulatedNetwork.refuse]
          cases held : r.authorization with
          | none =>
              rw [held] at related
              cases related
              rfl
          | some a =>
              rw [held] at related
              cases related with
              | some alike =>
                  obtain ⟨card, cards, rfl⟩ := alike
                  have clear := cards.clear
                  simp only [Option.bind_some]
                  generalize a.card.pan = pan at clear
                  generalize card.pan = pan' at clear
                  cases pan <;> cases pan' <;> first | rfl | cases clear
      | _ => exact alike.elim
  | _ => cases m' <;> first | rfl | exact alike.elim

/-- What a network attaches does not depend on the card. -/
theorem Alike.attach (alike : m.Alike m') (n : SimulatedNetwork) (stan : UInt64)
    (today : Date) : n.attach stan today m' = n.attach stan today m := by
  cases m <;> cases m' <;> first | rfl | exact alike.elim

theorem Alike.exchange (alike : m.Alike m') (n : SimulatedNetwork) (t : TraceNumbers) :
    n.exchange t m' = n.exchange t m := by
  simp only [SimulatedNetwork.exchange, alike.refuse, alike.attached, alike.attach]

end Message

/-- Systems that are alike answer messages that are alike in the same way. -/
theorem System.Alike.exchange {s t : System} (alike : s.Alike t) (scheme : Scheme) {m m' : Message}
    (messages : m.Alike m') : (t.exchange scheme m').1 = (s.exchange scheme m).1 ∧
      (t.exchange scheme m').2.1 = (s.exchange scheme m).2.1 ∧
      (s.exchange scheme m).2.2.Alike (t.exchange scheme m').2.2 := by
  obtain ⟨stores, alike, rfl⟩ := alike
  cases found : s.network scheme with
  | none =>
      simp only [System.exchange, found, true_and]
      exact ⟨messages.attached, stores, alike, rfl⟩
  | some n =>
      simp only [System.exchange, found, messages.exchange n, true_and]
      exact ⟨stores, alike, rfl⟩

namespace Flow

variable {σ α : Type} {holds : σ → σ → Prop}

theorem alike_finish {held held' : σ} (related : holds held held')
    (answer : Except PaymentError α) :
    (Flow.finish held answer).Alike holds (Flow.finish held' answer) :=
  fun _ _ alike => ⟨related, rfl, alike⟩

theorem alike_ask {held held' : σ} {call call' : Call}
    {next : Except PaymentError call.Value → Flow σ α}
    {next' : Except PaymentError call'.Value → Flow σ α}
    (rest : ∀ s t : Stores, s.Alike t → (s.answer call).2.Alike (t.answer call').2 ∧
      (next (s.answer call).1).Alike holds (next' (t.answer call').1)) :
    (Flow.ask held call next).Alike holds (Flow.ask held' call' next') := by
  intro v w alike
  obtain ⟨system, seen⟩ := v
  obtain ⟨system', seen'⟩ := w
  obtain ⟨⟨stores, alike, rfl⟩, history⟩ := alike
  obtain ⟨answered, next⟩ := rest _ _ alike
  exact next _ _ ⟨⟨_, answered, rfl⟩, .cons answered history⟩

theorem alike_require {held held' : σ} {step : String} {call call' : Call}
    {next : call.Value → Flow σ α} {next' : call'.Value → Flow σ α}
    (related : holds held held')
    (rest : ∀ s t : Stores, s.Alike t → (s.answer call).2.Alike (t.answer call').2 ∧
      ((∃ e, (s.answer call).1 = .error e ∧ (t.answer call').1 = .error e) ∨
        ∃ x y, (s.answer call).1 = .ok x ∧ (t.answer call').1 = .ok y ∧
          (next x).Alike holds (next' y))) :
    (require held step call next).Alike holds (require held' step call' next') := by
  refine alike_ask fun s t alike => ?_
  obtain ⟨answered, ⟨e, failed, failed'⟩ | ⟨x, y, done, done', next⟩⟩ := rest s t alike
  · rw [failed, failed']
    exact ⟨answered, alike_finish related _⟩
  · rw [done, done']
    exact ⟨answered, next⟩

/-- Two calls with the same outcome, whose values are not looked at. -/
theorem alike_twin {held held' : σ} {step : String} {call call' : Call}
    {next : call.Value → Flow σ α} {next' : call'.Value → Flow σ α}
    (paired : ∀ s t : Stores, s.Alike t → Stores.Paired (s.answer call) (t.answer call'))
    (related : holds held held') (rest : ∀ u v, (next u).Alike holds (next' v)) :
    (require held step call next).Alike holds (require held' step call' next') := by
  refine alike_require related fun s t alike => ?_
  obtain ⟨after, failed | ⟨u, v, done, done'⟩⟩ := paired s t alike
  · exact ⟨after, Or.inl failed⟩
  · exact ⟨after, Or.inr ⟨u, v, done, done', rest u v⟩⟩

theorem alike_same {held held' : σ} {step : String} {call : Call}
    {next next' : call.Value → Flow σ α} (other : ¬ call.UsesVault) (related : holds held held')
    (rest : ∀ value, (next value).Alike holds (next' value)) :
    (require held step call next).Alike holds (require held' step call next') := by
  refine alike_require related fun s t alike => ?_
  obtain ⟨answers, after⟩ := alike.answer other
  rw [answers]
  cases (s.answer call).1 with
  | error e => exact ⟨after, Or.inl ⟨e, rfl, rfl⟩⟩
  | ok value => exact ⟨after, Or.inr ⟨value, value, rfl, rfl, rest value⟩⟩

theorem alike_send {held held' : Attached → σ} {scheme : Scheme} {m m' : Message}
    {next next' : Attached → Except PaymentError Unit → Flow σ α} (alike : m.Alike m')
    (rest : ∀ attached outcome, (next attached outcome).Alike holds (next' attached outcome)) :
    (Flow.send held scheme m next).Alike holds (Flow.send held' scheme m' next') := by
  intro v w watched
  obtain ⟨attached, outcome, systems⟩ := watched.1.exchange scheme alike
  rw [watch, watch, attached, outcome]
  exact rest _ _ _ _ ⟨systems, watched.2⟩

theorem alike_dispatch {p : Processor} {held held' : Attached → σ} {scheme : Scheme}
    {m m' : Message} {next next' : Attached → Except PaymentError Unit → Flow σ α}
    (alike : m.Alike m')
    (rest : ∀ attached outcome, (next attached outcome).Alike holds (next' attached outcome)) :
    (p.dispatch held scheme m next).Alike holds (p.dispatch held' scheme m' next') := by
  rw [Processor.dispatch, Processor.dispatch]
  split
  · refine alike_send alike fun attached outcome => ?_
    cases outcome with
    | error e => exact rest _ _
    | ok _ => exact rest _ _
  · rw [alike.attached]
    exact rest _ _

theorem alike_tokenize {held held' : σ} {step merchant : String} {c d : Card}
    {next next' : String → Flow σ α} (cards : c.Alike d) (related : holds held held')
    (rest : ∀ token, (next token).Alike holds (next' token)) :
    (require held step (.tokenize merchant c) next).Alike holds
      (require held' step (.tokenize merchant d) next') := by
  refine alike_require related fun s t stores => ?_
  obtain ⟨vault, vaults, rfl⟩ := stores
  rcases vaults.tokenize merchant cards with
    ⟨e, failed, failed'⟩ | ⟨token, v, w, done, done', after⟩
  · simp only [Stores.answer, failed, failed']
    exact ⟨⟨vault, vaults, rfl⟩, Or.inl ⟨e, rfl, rfl⟩⟩
  · simp only [Stores.answer, done, done']
    exact ⟨⟨w, after, rfl⟩, Or.inr ⟨token, token, rfl, rfl, rest token⟩⟩

theorem alike_detokenize {held held' : σ} {step merchant : String} {card : Card}
    {next next' : Card → Flow σ α} (related : holds held held')
    (rest : ∀ c d : Card, c.Alike d → (next c).Alike holds (next' d)) :
    (require held step (.detokenize merchant card) next).Alike holds
      (require held' step (.detokenize merchant card) next') := by
  refine alike_require related fun s t stores => ?_
  obtain ⟨vault, vaults, rfl⟩ := stores
  refine ⟨⟨vault, vaults, rfl⟩, ?_⟩
  rcases vaults.detokenize merchant card with ⟨e, failed⟩ | ⟨c, d, found, found', cards⟩
  · exact Or.inl ⟨e, failed⟩
  · exact Or.inr ⟨c, d, found, found', rest c d cards⟩

/-- A request that neither looks into the vault nor sends a message is alike itself. -/
theorem Only.alike {flow : Flow σ α}
    (only : flow.Only (fun call => ¬ call.UsesVault) fun _ => False)
    (same : ∀ held, holds held held) : flow.Alike holds flow := by
  induction flow with
  | finish held answer => exact alike_finish (same held) answer
  | ask held call next ih =>
      refine alike_ask fun s t alike => ?_
      obtain ⟨answers, after⟩ := alike.answer only.1
      rw [answers]
      exact ⟨after, ih _ (only.2 _)⟩
  | send held scheme m next ih => exact only.1.elim

end Flow

theorem Card.Alike.scheme {c d : Card} (alike : c.Alike d) : d.scheme = c.scheme :=
  (congrArg Card.scheme alike.redacted).symm

theorem Card.Alike.withToken {c d : Card} (alike : c.Alike d) (token : String) :
    ({ c with token := some token } : Card).Alike { d with token := some token } := by
  refine ⟨?_, alike.clear⟩
  have masked : c.maskedPan = d.maskedPan :=
    (congrArg Card.maskedPan alike.redacted : c.redacted.maskedPan = d.redacted.maskedPan)
  simp only [Card.redacted, masked, alike.scheme]

theorem Authorization.Alike.scheme {a b : Authorization} (alike : a.Alike b) :
    b.card.scheme = a.card.scheme := by
  obtain ⟨card, cards, rfl⟩ := alike
  exact cards.scheme

theorem Refund.Alike.scheme {r x : Refund} (alike : r.Alike x) :
    x.card.scheme = r.card.scheme := by
  obtain ⟨card, cards, rfl⟩ := alike
  exact cards.scheme

/-! ## Authorizations -/

/-- The risk rules do not look at the card. -/
theorem RiskRule.assess_card (rules : List RiskRule) (a : Authorization) (card : Card) :
    assess rules { a with card := card } = assess rules a := by
  have supports (rule : RiskRule) : rule.supports { a with card := card } = rule.supports a := rfl
  have evaluates (rule : RiskRule) (found : RiskAssessment) :
      rule.evaluate { a with card := card } found = rule.evaluate a found := by
    cases rule <;> rfl
  suffices every : ∀ found, assessFrom found { a with card := card } rules =
      assessFrom found a rules from every _
  induction rules with
  | nil => exact fun _ => rfl
  | cons rule rest ih =>
      intro found
      simp only [assessFrom, supports, evaluates, ih]

section

variable (p : Processor) {a b : Authorization}

theorem concludeAuthorization_alike (alike : a.Alike b) :
    (Processor.concludeAuthorization a).Alike Authorization.Alike
      (Processor.concludeAuthorization b) := by
  obtain ⟨card, cards, rfl⟩ := alike
  have updated : Authorization.Alike { a with status := .ofResponse a.response }
      { a with card := card, status := .ofResponse a.response } := ⟨card, cards, rfl⟩
  exact Flow.alike_twin
    (fun s t stores => (stores.paired id).congr (t.answer_updateAuthorization updated)) updated
    fun _ _ => Flow.alike_finish updated _

theorem storeAuthorizationData_alike (alike : a.Alike b) :
    (Processor.storeAuthorizationData a).Alike Authorization.Alike
      (Processor.storeAuthorizationData b) := by
  rw [Processor.storeAuthorizationData, Processor.storeAuthorizationData, alike.scheme]
  exact Flow.alike_twin
    (fun s t stores => (stores.paired id).congr (t.answer_createAuthorizationData _ alike)) alike
    fun _ _ => concludeAuthorization_alike alike

theorem sendAuthorization_alike (alike : a.Alike b) :
    (p.sendAuthorization a).Alike Authorization.Alike (p.sendAuthorization b) := by
  rw [Processor.sendAuthorization, Processor.sendAuthorization, alike.scheme]
  refine Flow.alike_dispatch alike fun attached outcome => ?_
  have attaches : (a.attach attached).Alike (b.attach attached) := by
    obtain ⟨card, cards, rfl⟩ := alike
    exact ⟨card, cards, rfl⟩
  cases outcome with
  | error e => exact Flow.alike_finish attaches _
  | ok _ => exact storeAuthorizationData_alike attaches

theorem assessAuthorization_alike (alike : a.Alike b) :
    (p.assessAuthorization a).Alike Authorization.Alike (p.assessAuthorization b) := by
  obtain ⟨card, cards, rfl⟩ := alike
  rw [Processor.assessAuthorization, Processor.assessAuthorization,
    RiskRule.assess_card p.rules a card]
  cases RiskRule.assess p.rules a with
  | ok found => exact sendAuthorization_alike p ⟨card, cards, rfl⟩
  | error e =>
      have rejected : Authorization.Alike { a with status := .riskDeclined }
          { a with card := card, status := .riskDeclined } := ⟨card, cards, rfl⟩
      exact Flow.alike_twin
        (fun s t stores => (stores.paired id).congr (t.answer_updateAuthorization rejected))
        rejected fun _ _ => Flow.alike_finish rejected _

theorem registerAuthorization_alike (alike : a.Alike b) :
    (p.registerAuthorization a).Alike Authorization.Alike (p.registerAuthorization b) :=
  Flow.alike_twin
    (fun _ t stores => (stores.paired id).congr (t.answer_createAuthorization alike)) alike
    fun _ _ => assessAuthorization_alike p alike

theorem authorize_alike (alike : a.Alike b) :
    (p.authorize a).Alike Authorization.Alike (p.authorize b) := by
  obtain ⟨card, cards, rfl⟩ := alike
  exact Flow.alike_tokenize cards ⟨card, cards, rfl⟩ fun token =>
    registerAuthorization_alike p ⟨_, cards.withToken token, rfl⟩

end

/-! ## Refunds -/

section

variable (p : Processor) {r x : Refund}

theorem concludeRefund_alike (alike : r.Alike x) :
    (Processor.concludeRefund r).Alike Refund.Alike (Processor.concludeRefund x) := by
  obtain ⟨card, cards, rfl⟩ := alike
  have updated : Refund.Alike { r with status := .ofResponse r.response }
      { r with card := card, status := .ofResponse r.response } := ⟨card, cards, rfl⟩
  exact Flow.alike_twin
    (fun s t stores => (stores.paired id).congr (t.answer_updateRefund updated)) updated
    fun _ _ => Flow.alike_finish updated _

theorem storeRefundData_alike (alike : r.Alike x) :
    (Processor.storeRefundData r).Alike Refund.Alike (Processor.storeRefundData x) := by
  rw [Processor.storeRefundData, Processor.storeRefundData, alike.scheme]
  exact Flow.alike_twin
    (fun s t stores => (stores.paired id).congr (t.answer_createRefundData _ alike)) alike
    fun _ _ => concludeRefund_alike alike

theorem sendRefund_alike (alike : r.Alike x) :
    (p.sendRefund r).Alike Refund.Alike (p.sendRefund x) := by
  rw [Processor.sendRefund, Processor.sendRefund, alike.scheme]
  refine Flow.alike_dispatch alike fun attached outcome => ?_
  have attaches : (r.attach attached).Alike (x.attach attached) := by
    obtain ⟨card, cards, rfl⟩ := alike
    exact ⟨card, cards, rfl⟩
  cases outcome with
  | error e => exact Flow.alike_finish attaches _
  | ok _ => exact storeRefundData_alike attaches

theorem registerRefund_alike (alike : r.Alike x) :
    (p.registerRefund r).Alike Refund.Alike (p.registerRefund x) :=
  Flow.alike_twin
    (fun _ t stores => (stores.paired id).congr (t.answer_createRefund alike)) alike
    fun _ _ => sendRefund_alike p alike

theorem refund_alike (alike : r.Alike x) :
    (p.refund r).Alike Refund.Alike (p.refund x) := by
  obtain ⟨card, cards, rfl⟩ := alike
  exact Flow.alike_tokenize cards ⟨card, cards, rfl⟩ fun token =>
    registerRefund_alike p ⟨_, cards.withToken token, rfl⟩

end

/-! ## Captures -/

theorem Request.capture_blind {psp : String} {c : Capture} {call : Call}
    (asks : (Request.capture psp c).Asks call) : ¬ call.UsesVault := by
  rcases asks with reads | writes
  · cases call <;> first | exact id | exact reads.elim
  · cases call <;> first | exact id | exact writes.elim

theorem Request.captureRefund_blind {psp : String} {c : RefundCapture} {call : Call}
    (asks : (Request.captureRefund psp c).Asks call) : ¬ call.UsesVault := by
  rcases asks with reads | writes
  · cases call <;> first | exact id | exact reads.elim
  · cases call <;> first | exact id | exact writes.elim

theorem capture_alike (p : Processor) (psp : String) (c : Capture) :
    (p.capture psp c).Alike Eq (p.capture psp c) :=
  ((capture_only p psp c).mono (fun _ => Request.capture_blind) fun _ => id).alike fun _ => rfl

theorem captureRefund_alike (p : Processor) (psp : String) (c : RefundCapture) :
    (p.captureRefund psp c).Alike Eq (p.captureRefund psp c) :=
  ((captureRefund_only p psp c).mono (fun _ => Request.captureRefund_blind) fun _ => id).alike
    fun _ => rfl

/-! ## Reversals -/

section

variable (p : Processor) {r x : Reversal}

theorem concludeReversal_alike (alike : r.Alike x) :
    (Processor.concludeReversal r).Alike Reversal.Alike (Processor.concludeReversal x) := by
  obtain ⟨authorization, related, rfl⟩ := alike
  have updated : Reversal.Alike { r with status := .ofResponse r.response }
      { r with authorization := authorization, status := .ofResponse r.response } :=
    ⟨authorization, related, rfl⟩
  exact Flow.alike_twin
    (fun s t stores => (stores.paired id).congr (t.answer_updateReversal updated)) updated
    fun _ _ => Flow.alike_finish updated _

theorem withdrawReversal_alike (alike : r.Alike x) :
    (Processor.withdrawReversal r).Alike Reversal.Alike (Processor.withdrawReversal x) := by
  obtain ⟨authorization, related, rfl⟩ := alike
  have updated : Reversal.Alike { r with status := .failed }
      { r with authorization := authorization, status := .failed } :=
    ⟨authorization, related, rfl⟩
  exact Flow.alike_twin
    (fun s t stores => (stores.paired id).congr (t.answer_updateReversal updated)) updated
    fun _ _ => Flow.alike_finish updated _

theorem sendReversal_alike (alike : r.Alike x) :
    (p.sendReversal r).Alike Reversal.Alike (p.sendReversal x) := by
  have scheme : x.scheme? = r.scheme? := by
    obtain ⟨authorization, related, rfl⟩ := alike
    simp only [Reversal.scheme?]
    generalize r.authorization = held at related
    cases related with
    | none => rfl
    | some alike => exact congrArg some alike.scheme
  rw [Processor.sendReversal, Processor.sendReversal, Processor.dispatchReversal,
    Processor.dispatchReversal, scheme]
  cases r.scheme? with
  | none => exact Flow.alike_finish alike _
  | some scheme =>
      refine Flow.alike_dispatch alike fun attached outcome => ?_
      have attaches : (r.attach attached).Alike (x.attach attached) := by
        obtain ⟨authorization, related, rfl⟩ := alike
        exact ⟨authorization, related, rfl⟩
      cases outcome with
      | error e => exact Flow.alike_finish attaches _
      | ok _ => exact concludeReversal_alike attaches

theorem storeReversal_alike {a b : Authorization} (alike : a.Alike b) (summary : CaptureSummary)
    (r : Reversal) :
    (p.storeReversal a summary r).Alike Reversal.Alike (p.storeReversal b summary r) := by
  obtain ⟨card, cards, rfl⟩ := alike
  unfold Processor.storeReversal
  dsimp only
  split
  · next amount _ =>
      have stored : Reversal.Alike
          { r with amount := some amount, authorization := some a, status := .new }
          { r with
            amount := some amount, authorization := some { a with card := card }
            status := .new } :=
        ⟨_, .some ⟨card, cards, rfl⟩, rfl⟩
      refine Flow.alike_twin
        (fun s t stores => (stores.paired id).congr (t.answer_createReversal stored)) stored
        fun _ _ => Flow.alike_same id stored fun current => ?_
      split
      · exact sendReversal_alike p stored
      · exact withdrawReversal_alike stored
  · split
    · exact Flow.alike_finish (.refl r) _
    · exact Flow.alike_finish (.refl r) _

theorem prepareReversal_alike {a b : Authorization} (alike : a.Alike b) (r : Reversal) :
    (p.prepareReversal a r).Alike Reversal.Alike (p.prepareReversal b r) := by
  obtain ⟨card, cards, rfl⟩ := alike
  refine Flow.alike_same id (.refl r) fun reversed => ?_
  split
  · exact Flow.alike_finish (.refl r) _
  · refine Flow.alike_same id (.refl r) fun isFinal => ?_
    split
    · exact Flow.alike_finish (.refl r) _
    · exact Flow.alike_same id (.refl r) fun summary =>
        storeReversal_alike p ⟨card, cards, rfl⟩ summary r

theorem reverseAuthorization_alike (psp : String) (r : Reversal) (a : Authorization) :
    (p.reverseAuthorization psp r a).Alike Reversal.Alike (p.reverseAuthorization psp r a) := by
  rw [Processor.reverseAuthorization]
  split
  · exact Flow.alike_finish (.refl r) _
  · split
    · exact Flow.alike_finish (.refl r) _
    · split
      · exact Flow.alike_finish (.refl r) _
      · exact Flow.alike_detokenize (.refl r) fun c d cards =>
          prepareReversal_alike p ⟨d, cards, rfl⟩ r

theorem reverse_alike (psp : String) (r : Reversal) :
    (p.reverse psp r).Alike Reversal.Alike (p.reverse psp r) := by
  rw [Processor.reverse]
  split
  · exact reverseAuthorization_alike p psp r _
  · exact Flow.alike_same id (.refl r) fun a => reverseAuthorization_alike p psp r a

end

theorem echo_alike (p : Processor) (scheme : Scheme) :
    (p.echo scheme).Alike Eq (p.echo scheme) :=
  Flow.alike_dispatch trivial fun _ outcome => Flow.alike_finish rfl outcome

end CardPayments
