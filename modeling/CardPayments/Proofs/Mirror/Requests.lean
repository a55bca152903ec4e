import CardPayments.Proofs.Mirror.Stores
import CardPayments.Proofs.Sequence.Basic
import CardPayments.Trace.Session

/-! # Refund requests and their mirrors

A refund does to the stores of refunds what an authorization without exemption does to those of
authorizations, and a refund capture what a capture does: the risk rules accept such an
authorization, and where nothing is reversed a capture finds no reversal.  A list of requests of the
one side is followed step by step on the other. -/
set_option autoImplicit false

namespace CardPayments

/-- The errors have the same root, but for the name of what was declined. -/
def PaymentError.Mirrors (e e' : PaymentError) : Prop :=
  e.root = e'.root ∨ e.root = .refundDeclined ∧ e'.root = .authorizationDeclined

namespace PaymentError

theorem Mirrors.refl (e : PaymentError) : e.Mirrors e := Or.inl rfl

theorem Mirrors.within {e e' : PaymentError} (mirrors : e.Mirrors e') (step step' : String) :
    (e.within step).Mirrors (e'.within step') := mirrors

end PaymentError

theorem Status.ofResponse_ne_riskDeclined (response : Option SchemeResponse) :
    Status.ofResponse response ≠ .riskDeclined := by
  cases response with
  | none => exact nofun
  | some r =>
      simp only [ofResponse, ResponseCode.status]
      split <;> exact nofun

/-! ## Stores that are asked the same -/

namespace Stores.Mirrors

variable {topics : Topics} {s t : Stores}

theorem empty : Stores.empty.Mirrors topics Stores.empty where
  vault := rfl
  refunds := rfl
  assessed := by
    intro row stored
    cases stored
  captures := rfl
  unreversed := rfl
  published := .nil

theorem tokenize (mirrors : s.Mirrors topics t) (merchant : String) (card : Card) :
    (s.answer (.tokenize merchant card)).1 = (t.answer (.tokenize merchant card)).1 ∧
      (s.answer (.tokenize merchant card)).2.Mirrors topics
        (t.answer (.tokenize merchant card)).2 := by
  rw [answer, answer, mirrors.vault]
  generalize t.vault.tokenize merchant card = made
  cases made with
  | error e => exact ⟨rfl, mirrors⟩
  | ok made => exact ⟨rfl, rfl, mirrors.refunds, mirrors.assessed, mirrors.captures,
      mirrors.unreversed, mirrors.published⟩

/-- The table of refunds is the image of the other one before and after a change. -/
theorem changed (mirrors : s.Mirrors topics t) {result : Except PaymentError AuthorizationStore}
    (assessed : ∀ store, result = .ok store → ∀ row ∈ store.rows, row.status ≠ .riskDeclined) :
    (s.changed (fun store => { s with refunds := store })
        (result.map AuthorizationStore.asRefunds)).1 =
      (t.changed (fun store => { t with authorizations := store }) result).1 ∧
    (s.changed (fun store => { s with refunds := store })
        (result.map AuthorizationStore.asRefunds)).2.Mirrors topics
      (t.changed (fun store => { t with authorizations := store }) result).2 := by
  cases result with
  | error e => exact ⟨rfl, mirrors⟩
  | ok store =>
      exact ⟨rfl, mirrors.vault, rfl, assessed store rfl, mirrors.captures, mirrors.unreversed,
        mirrors.published⟩

theorem create (mirrors : s.Mirrors topics t) {a : Authorization} (isNew : a.status = .new) :
    (s.answer (.createRefund a.asRefund)).1 = (t.answer (.createAuthorization a)).1 ∧
      (s.answer (.createRefund a.asRefund)).2.Mirrors topics
        (t.answer (.createAuthorization a)).2 := by
  have image := t.authorizations.create_asRefunds a
  rw [← mirrors.refunds] at image
  rw [answer, answer, image]
  refine mirrors.changed fun store created =>
    TransactionStore.create_forall mirrors.assessed (fun rejected => ?_) created
  have status : a.status = .riskDeclined := rejected
  rw [isNew] at status
  cases status

theorem createData (mirrors : s.Mirrors topics t) (scheme : Scheme) (a : Authorization) :
    (s.answer (.createRefundData scheme a.asRefund)).1 =
        (t.answer (.createAuthorizationData scheme a)).1 ∧
      (s.answer (.createRefundData scheme a.asRefund)).2.Mirrors topics
        (t.answer (.createAuthorizationData scheme a)).2 := by
  have image := t.authorizations.createData_asRefunds scheme a
  rw [← mirrors.refunds] at image
  rw [answer, answer, image]
  exact mirrors.changed fun store created =>
    TransactionStore.createData_forall mirrors.assessed created

theorem update (mirrors : s.Mirrors topics t) {a : Authorization}
    (assessed : a.status ≠ .riskDeclined) :
    (s.answer (.updateRefund a.asRefund)).1 = (t.answer (.updateAuthorization a)).1 ∧
      (s.answer (.updateRefund a.asRefund)).2.Mirrors topics
        (t.answer (.updateAuthorization a)).2 := by
  have image := t.authorizations.update_asRefunds a
  rw [← mirrors.refunds] at image
  rw [answer, answer, image]
  exact mirrors.changed fun store updated =>
    TransactionStore.update_forall mirrors.assessed (fun _ _ => assessed) updated

/-- Where nothing is reversed no reversal is found. -/
theorem reversalExists (mirrors : s.Mirrors topics t) (id : Uuid) :
    t.answer (.reversalExists id) = (.ok false, t) := by
  have none : t.reversals.pending id = false := by
    rw [ReversalStore.pending, ReversalStore.ofAuthorization, mirrors.unreversed]
    rfl
  rw [answer, none]

theorem found (mirrors : s.Mirrors topics t) (psp : String) (id : Uuid) :
    Replies (fun r a => r = a.asRefund ∧ a.status ≠ .riskDeclined) PaymentError.Mirrors
      (s.answer (.refund psp id)).1 (t.answer (.authorization psp id)).1 := by
  have image := t.authorizations.getFull_asRefunds psp id
  rw [← mirrors.refunds] at image
  rw [answer, answer, image]
  cases found : t.authorizations.getFull psp id with
  | error e => exact .error (.refl e)
  | ok a =>
      obtain ⟨row, stored, _, _, rfl⟩ := TransactionStore.getFull_shows found
      exact .ok ⟨rfl, mirrors.assessed row (List.mem_of_find?_eq_some stored)⟩

theorem createCapture (mirrors : s.Mirrors topics t) (c : Capture) (seen : CaptureSummary) :
    (s.answer (.createRefundCapture c.asRefundCapture seen)).1 =
        (t.answer (.createCapture c seen)).1 ∧
      (s.answer (.createRefundCapture c.asRefundCapture seen)).2.Mirrors topics
        (t.answer (.createCapture c seen)).2 := by
  rw [answer, answer]
  rcases mirrors.captures.create c seen with
    ⟨e, refused, refused'⟩ | ⟨s', t', stored, stored', after⟩
  · rw [refused, refused']
    exact ⟨rfl, mirrors⟩
  · rw [stored, stored']
    exact ⟨rfl, mirrors.vault, mirrors.refunds, mirrors.assessed, after, mirrors.unreversed,
      mirrors.published⟩

theorem publish (mirrors : s.Mirrors topics t) (e : CaptureEvent) :
    (s.answer (.publish topics.refundCapture e.asRefundEvent.toJson.render)).2.Mirrors topics
      (t.answer (.publish topics.capture e.toJson.render)).2 :=
  ⟨mirrors.vault, mirrors.refunds, mirrors.assessed, mirrors.captures, mirrors.unreversed,
    List.rel_append mirrors.published (.cons (Publication.mirrors_render topics e) .nil)⟩

end Stores.Mirrors

/-! ## Networks -/

/-- A refund is answered as the authorization it is the mirror of. -/
def Networks.Evenhanded {τ : Type} (n : Networks τ) : Prop :=
  ∀ line scheme a, a.exemption = .none →
    n.exchange line scheme (.refund a.asRefund) = n.exchange line scheme (.authorize a)

theorem Networks.simulated_evenhanded (network : Scheme → Option SimulatedNetwork) :
    (Networks.simulated network).Evenhanded := by
  intro line scheme a _
  rw [simulated]
  cases network scheme <;> rfl

def World.Mirrors {τ : Type} (topics : Topics) (v w : World τ) : Prop :=
  v.stores.Mirrors topics w.stores ∧ v.line = w.line

/-! ## Requests -/

namespace Processor

open CardPayments.Flow

variable {τ : Type} {n : Networks τ} {p : Processor}

section

/-- What the callers of a refund and of an authorization are left with. -/
abbrev Refunds :
    (Refund × Except PaymentError Unit) → (Authorization × Except PaymentError Unit) → Prop :=
  Outcomes (fun r a => r = a.asRefund) (fun _ _ => True) PaymentError.Mirrors

theorem concludeRefund_pairs (a : Authorization) :
    (concludeRefund a.asRefund).Pairs n (World.Mirrors p.topics) Refunds
      (concludeAuthorization a) := by
  refine pairs_require (fun x y => x = y) rfl (fun _ _ related => related.within _ _) ?_ ?_
  · rintro v w ⟨stores, line⟩
    have updated := stores.update (a := { a with status := .ofResponse a.response })
      (Status.ofResponse_ne_riskDeclined a.response)
    exact ⟨.of_eq PaymentError.Mirrors.refl updated.1, updated.2, line⟩
  · exact fun _ _ _ => pairs_ok rfl trivial

theorem storeRefundData_pairs (a : Authorization) :
    (storeRefundData a.asRefund).Pairs n (World.Mirrors p.topics) Refunds
      (storeAuthorizationData a) := by
  refine pairs_require (fun x y => x = y) rfl (fun _ _ related => related.within _ _) ?_ ?_
  · rintro v w ⟨stores, line⟩
    have created := stores.createData a.card.scheme a
    exact ⟨.of_eq PaymentError.Mirrors.refl created.1, created.2, line⟩
  · exact fun _ _ _ => concludeRefund_pairs a

theorem sendRefund_pairs (even : n.Evenhanded) {a : Authorization} (plain : a.exemption = .none) :
    (p.sendRefund a.asRefund).Pairs n (World.Mirrors p.topics) Refunds
      (p.sendAuthorization a) := by
  refine pairs_dispatch (fun x y => x = y) (fun x y same => by rw [same]) rfl ?_ ?_
  · rintro v w ⟨stores, line⟩
    have same : n.exchange v.line a.card.scheme (.refund a.asRefund) =
        n.exchange w.line a.card.scheme (.authorize a) := by
      rw [line, even w.line a.card.scheme a plain]
    exact ⟨congrArg Prod.fst same, congrArg (·.2.1) same, stores, congrArg (·.2.2) same⟩
  · rintro attached _ outcome rfl
    cases outcome with
    | error e => exact pairs_error rfl (.within (.refl e) _ _)
    | ok _ => exact storeRefundData_pairs (a.attach attached)

theorem refund_pairs (even : n.Evenhanded) {ceiling : Decimal}
    (rules : p.rules = RiskRule.standard ceiling) {a : Authorization}
    (plain : a.exemption = .none) :
    (p.refund a.asRefund).Pairs n (World.Mirrors p.topics) Refunds (p.authorize a) := by
  refine pairs_require (fun made made' => made = made') rfl (fun _ _ related => related.within _ _)
    ?_ ?_
  · rintro v w ⟨stores, line⟩
    have made := stores.tokenize a.merchant a.card
    exact ⟨.of_eq PaymentError.Mirrors.refl made.1, made.2, line⟩
  · rintro token _ rfl
    refine pairs_require (fun x y => x = y) rfl (fun _ _ related => related.within _ _) ?_ ?_
    · rintro v w ⟨stores, line⟩
      have created := stores.create (a := { a with
        card := { a.card with token := some token }, status := .new }) rfl
      exact ⟨.of_eq PaymentError.Mirrors.refl created.1, created.2, line⟩
    · intro _ _ _
      -- the rule for authorizations without exemption accepts and applies none
      obtain ⟨found, accepts⟩ : ∃ found, RiskRule.assess p.rules { a with
          card := { a.card with token := some token }, status := .new } = .ok found := by
        rw [rules]
        simp [RiskRule.assess, RiskRule.standard, RiskRule.assessFrom, RiskRule.supports, plain,
          RiskRule.exemption, RiskRule.evaluate]
      rw [assessAuthorization, accepts]
      exact sendRefund_pairs even (a := { a with
        card := { a.card with token := some token }, status := .new,
        appliedExemption := found.applied }) plain

end

section

variable {a : Authorization}

abbrev RefundCaptures :
    (Unit × Except PaymentError RefundCapture) → (Unit × Except PaymentError Capture) → Prop :=
  Outcomes (fun _ _ => True) (fun c d => c = d.asRefundCapture) PaymentError.Mirrors

theorem publishRefundCapture_pairs (c : Capture) :
    (p.publishRefundCapture a.asRefund c.asRefundCapture).Pairs n (World.Mirrors p.topics)
      RefundCaptures (p.publishCapture a c) := by
  refine pairs_require (fun x y => x = y) trivial (fun _ _ related => related.within _ _) ?_ ?_
  · rintro v w ⟨stores, line⟩
    exact ⟨.ok rfl, stores.publish (.ofCapture a c), line⟩
  · exact fun _ _ _ => pairs_ok trivial rfl

theorem insertRefundCapture_pairs (c : Capture) (seen : CaptureSummary)
    {again : PaymentError → Flow Unit RefundCapture} {again' : PaymentError → Flow Unit Capture}
    (retries : ∀ e, (again e).Pairs n (World.Mirrors p.topics) RefundCaptures (again' e)) :
    (p.insertRefundCapture a.asRefund c.asRefundCapture seen again).Pairs n
      (World.Mirrors p.topics) RefundCaptures (p.insertCapture a c seen again') := by
  refine pairs_ask (fun x y => x = y) ?_ ?_
  · rintro v w ⟨stores, line⟩
    have created := stores.createCapture c seen
    exact ⟨created.1, created.2, line⟩
  · rintro answer _ rfl
    cases answer with
    | ok _ =>
        -- only the capture of an authorization looks for a reversal, and there is none
        refine pairs_right (fun v w before => before.1.reversalExists a.id) ?_
        exact publishRefundCapture_pairs c
    | error e =>
        dsimp only
        split
        · exact retries e
        · exact pairs_error trivial (.within (.refl e) _ _)

theorem attemptRefundCapture_pairs (c : Capture)
    {again : PaymentError → Flow Unit RefundCapture} {again' : PaymentError → Flow Unit Capture}
    (retries : ∀ e, (again e).Pairs n (World.Mirrors p.topics) RefundCaptures (again' e)) :
    (p.attemptRefundCapture a.asRefund c.asRefundCapture again).Pairs n
      (World.Mirrors p.topics) RefundCaptures (p.attemptCapture a c again') := by
  refine pairs_require (fun x y => x = y) trivial (fun _ _ related => related.within _ _) ?_ ?_
  · rintro v w ⟨stores, line⟩
    exact ⟨.of_eq PaymentError.Mirrors.refl (stores.captures.summary a.id), stores, line⟩
  · rintro summary _ rfl
    have capturable : summary.checkCapturable a.asRefund.amount c.asRefundCapture.amount =
        summary.checkCapturable a.amount c.amount := rfl
    have becomes : summary.becomesFinal a.asRefund.amount c.asRefundCapture.amount
        c.asRefundCapture.isFinal = summary.becomesFinal a.amount c.amount c.isFinal := rfl
    rw [capturable, becomes]
    cases summary.checkCapturable a.amount c.amount with
    | error e => exact pairs_error trivial (.within (.refl e) _ _)
    | ok _ =>
        cases summary.becomesFinal a.amount c.amount c.isFinal with
        | error e => exact pairs_error trivial (.within (.refl e) _ _)
        | ok isFinal =>
            refine pairs_right (fun v w before => before.1.reversalExists a.id) ?_
            exact insertRefundCapture_pairs { c with isFinal := isFinal } summary retries

theorem attemptsRefundCapture_pairs (c : Capture) (retries : Nat) :
    (p.attemptsRefundCapture a.asRefund c.asRefundCapture retries).Pairs n
      (World.Mirrors p.topics) RefundCaptures (p.attemptsCapture a c retries) := by
  induction retries with
  | zero =>
      exact attemptRefundCapture_pairs c fun e => pairs_error trivial (.within (.refl e) _ _)
  | succ retries ih => exact attemptRefundCapture_pairs c fun _ => ih

end

theorem captureRefund_pairs (psp : String) (c : Capture) :
    (p.captureRefund psp c.asRefundCapture).Pairs n (World.Mirrors p.topics) RefundCaptures
      (p.capture psp c) := by
  refine pairs_require (fun r a => r = a.asRefund ∧ a.status ≠ .riskDeclined) trivial
    (fun _ _ related => related.within _ _) ?_ ?_
  · rintro v w ⟨stores, line⟩
    exact ⟨stores.found psp c.authorizationId, stores, line⟩
  · rintro r a ⟨rfl, assessed⟩
    by_cases declined : a.status = .declined
    · have declined' : a.asRefund.status = .declined := declined
      rw [if_pos declined', if_pos (Or.inl declined)]
      exact pairs_error trivial (Or.inr ⟨rfl, rfl⟩)
    · have declined' : ¬ a.asRefund.status = .declined := declined
      rw [if_neg declined', if_neg (not_or.mpr ⟨declined, assessed⟩)]
      exact attemptsRefundCapture_pairs c captureRetries

end Processor

/-! ## Lists of requests -/

/-- What became of a request, and the stores after it. -/
structure Settled where
  request : Request
  held : request.Held
  answer : Except PaymentError request.Answer
  stores : Stores

def Networks.settleAll {τ : Type} (n : Networks τ) (p : Processor) (w : World τ) :
    List Request → List Settled
  | [] => []
  | q :: rest =>
      let ended := (q.flow p).settle n w
      ⟨q, ended.1.1, ended.1.2, ended.2.stores⟩ :: n.settleAll p ended.2 rest

/-- A refund and an authorization without exemption of the same terms, or captures of such. -/
inductive Request.Mirrors : Request → Request → Prop
  | refund (a : Authorization) (plain : a.exemption = .none) :
      Mirrors (.refund a.asRefund) (.authorize a)
  | capture (psp : String) (c : Capture) :
      Mirrors (.captureRefund psp c.asRefundCapture) (.capture psp c)

inductive Settled.Mirrors (topics : Topics) : Settled → Settled → Prop
  | refund (a held : Authorization) {answer answer' : Except PaymentError Unit} {s t : Stores}
      (answers : Replies (fun _ _ => True) PaymentError.Mirrors answer answer')
      (stores : s.Mirrors topics t) :
      Mirrors topics ⟨.refund a.asRefund, held.asRefund, answer, s⟩ ⟨.authorize a, held, answer', t⟩
  | capture {psp : String} {c : Capture} {answer : Except PaymentError RefundCapture}
      {answer' : Except PaymentError Capture} {s t : Stores}
      (answers : Replies (fun x y => x = y.asRefundCapture) PaymentError.Mirrors answer answer')
      (stores : s.Mirrors topics t) :
      Mirrors topics ⟨.captureRefund psp c.asRefundCapture, (), answer, s⟩
        ⟨.capture psp c, (), answer', t⟩

theorem Networks.settleAll_mirrors {τ : Type} {n : Networks τ} (even : n.Evenhanded)
    {p : Processor} {ceiling : Decimal} (rules : p.rules = RiskRule.standard ceiling)
    {requests mirrored : List Request} (mirrors : List.Forall₂ Request.Mirrors requests mirrored)
    {v w : World τ} (before : v.Mirrors p.topics w) :
    List.Forall₂ (Settled.Mirrors p.topics) (n.settleAll p v requests)
      (n.settleAll p w mirrored) := by
  induction mirrors generalizing v w with
  | nil => exact .nil
  | cons first _ ih =>
      cases first with
      | refund a plain =>
          obtain ⟨⟨held, answers⟩, after⟩ := Processor.refund_pairs even rules plain v w before
          have settled := Settled.Mirrors.refund a ((p.authorize a).settle n w).1.1 answers after.1
          rw [← held] at settled
          exact .cons settled (ih after)
      | capture psp c =>
          obtain ⟨⟨_, answers⟩, after⟩ := Processor.captureRefund_pairs psp c v w before
          exact .cons (.capture answers after.1) (ih after)

/-- Refunds and their captures run like authorizations without exemption and theirs: request by
request with the same outcome, the same rows and the same events. -/
theorem refunds_mirror_authorizations {τ : Type} (n : Networks τ) (even : n.Evenhanded)
    (config : Config) (isConnected : Scheme → Bool) {requests mirrored : List Request}
    (mirrors : List.Forall₂ Request.Mirrors requests mirrored) {s t : Stores}
    (start : s.Mirrors config.topics t) (line : τ) :
    List.Forall₂ (Settled.Mirrors config.topics)
      (n.settleAll (.ofConfig config isConnected) ⟨s, line⟩ requests)
      (n.settleAll (.ofConfig config isConnected) ⟨t, line⟩ mirrored) := by
  have before : World.Mirrors config.topics ⟨s, line⟩ ⟨t, line⟩ := ⟨start, rfl⟩
  exact Networks.settleAll_mirrors (p := .ofConfig config isConnected) even rfl mirrors before

namespace Mirror.Sample

def authorization : Authorization :=
  .intake (.ofNat 1) "psp" "shop" ⟨.thirty, by decide⟩ ⟨"GBP", by decide⟩
    (.ofPan ⟨"4111111111111111"⟩ .visa) .none (.ofSeconds 0)

def capture (id : Nat) : Capture :=
  ⟨.ofNat id, .ofNat 1, ⟨.thirty, by decide⟩, false, .created, .ofSeconds 0⟩

/-- The second capture finds nothing left. -/
def authorizations : List Request :=
  [.authorize authorization, .capture "psp" (capture 2), .capture "psp" (capture 3)]

def refunds : List Request :=
  [.refund authorization.asRefund, .captureRefund "psp" (capture 2).asRefundCapture,
    .captureRefund "psp" (capture 3).asRefundCapture]

def networks : Networks TraceNumbers := .simulated fun scheme => some (.approving scheme)

def line : TraceNumbers :=
  ⟨.ofProvisioning .default ⟨2024, 3, 4⟩ 0 .standard, .ofConfig .default, ⟨2024, 3, 4⟩⟩

def settled (requests : List Request) : List Settled :=
  networks.settleAll (.ofConfig .default fun _ => true) ⟨.empty, line⟩ requests

end Mirror.Sample

open Mirror.Sample in
theorem refunds_mirror_authorizations_used_up :
    List.Forall₂ (Settled.Mirrors Config.default.topics) (settled refunds)
        (settled authorizations) ∧
      (settled refunds).map (fun s => (s.stores.published.length, s.answer.isOk)) =
        [(0, true), (1, true), (1, false)] :=
  ⟨refunds_mirror_authorizations networks (Networks.simulated_evenhanded _) .default (fun _ => true)
    (.cons (.refund _ rfl) (.cons (.capture _ _) (.cons (.capture _ _) .nil))) .empty line,
    by decide +kernel⟩

end CardPayments
