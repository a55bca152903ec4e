import CardPayments.Proofs.Risk.Assessment
import CardPayments.Proofs.Store.Rows
import CardPayments.System

/-! # Authorizations and refunds that networks approve

Where every network approves and trace numbers do not run out, an authorization is stored as
approved unless the risk rules reject it, and a refund always is.  The network attaches the trace
number that it took. -/
set_option autoImplicit false

namespace CardPayments

namespace Table

variable {α : Type}

/-- The row that was added last is changed when no row before it matches. -/
theorem changeFirst_concat (isMatch : α → Bool) (change : α → α) (rows : List α) (row : α)
    (others : ∀ other ∈ rows, isMatch other = false) (found : isMatch row = true) :
    changeFirst isMatch change (rows ++ [row]) = some (rows ++ [change row]) := by
  induction rows with
  | nil => simp [changeFirst, found]
  | cons other rest ih =>
      have skipped := others other (List.mem_cons_self ..)
      have changed := ih fun x member => others x (List.mem_cons_of_mem other member)
      simp [changeFirst, skipped, changed]

end Table

section

variable {σ α : Type} {s : System} {held : σ} {step : String} {call : Call}
  {next : call.Value → Flow σ α} {after : Stores}

theorem Flow.run_require_ok {value : call.Value}
    (answered : s.stores.answer call = (.ok value, after)) :
    (Flow.require held step call next).run s = (next value).run { s with stores := after } := by
  simp only [Flow.require, Flow.run, System.answer, answered]

end

/-- Every scheme has a network that approves, and the processor is connected to it. -/
structure System.Approves (s : System) (p : Processor) : Prop where
  network : ∀ scheme, s.network scheme = some (.approving scheme)
  connected : ∀ scheme, p.isConnected scheme = true

theorem System.Approves.withStores {s : System} {p : Processor} (approves : s.Approves p)
    (stores : Stores) : ({ s with stores := stores } : System).Approves p :=
  ⟨approves.network, approves.connected⟩

def SchemeResponse.approval (stan : UInt64) (today : Date) : SchemeResponse :=
  ⟨⟨"00"⟩, stan, some (SimulatedNetwork.sixDigits stan), .ofDate today⟩

section

variable {s : System} {p : Processor} {stan : UInt64} {traces : TraceNumbers}

/-- A message that can be sent is answered, and takes the next trace number. -/
theorem Processor.run_dispatch {σ α : Type} (approves : s.Approves p)
    (taken : s.traces.next = (.ok stan, traces)) (held : Attached → σ) (scheme : Scheme)
    (m : Message) (next : Attached → Except PaymentError Unit → Flow σ α)
    (sendable : SimulatedNetwork.refuse m = none) :
    (p.dispatch held scheme m next).run s =
      (next ((SimulatedNetwork.approving scheme).attach stan traces.today m) (.ok ())).run
        { s with traces := traces } := by
  have wellFormed : checkFormat
      ((SimulatedNetwork.approving scheme).attach stan traces.today m).response = .ok () := by
    cases m <;> rfl
  simp only [dispatch, approves.connected, if_true, Flow.run, System.exchange, approves.network,
    SimulatedNetwork.exchange, sendable, taken, wellFormed]

theorem Processor.run_echo (approves : s.Approves p)
    (taken : s.traces.next = (.ok stan, traces)) (scheme : Scheme) :
    (p.echo scheme).run s = (((), .ok ()), { s with traces := traces }) :=
  p.run_dispatch approves taken _ scheme .echo _ rfl

/-! ## Authorizations -/

/-- The rules reject low-value exemptions above the ceiling, and nothing else. -/
theorem RiskRule.assess_standard (ceiling : Decimal) (a : Authorization) :
    (a.exemption = .lowValue ∧ ceiling.below a.amount.value = true ∧
        assess (standard ceiling) a = .error (.lowValueExceeded a.amount.value ceiling)) ∨
      (¬ (a.exemption = .lowValue ∧ ceiling.below a.amount.value = true) ∧
        ∃ found, assess (standard ceiling) a = .ok found) := by
  have listed : standard ceiling ⊆ standard ceiling := List.Subset.refl _
  by_cases rejected : a.exemption = .lowValue ∧ ceiling.below a.amount.value = true
  · obtain ⟨declared, above⟩ := rejected
    refine Or.inl ⟨declared, above, (assess_error_iff listed _).mpr ⟨rfl, declared, ?_, ?_⟩⟩
    · simp [standard]
    · exact (Decimal.below_iff _ _).mp above
  · refine Or.inr ⟨rejected, ?_⟩
    cases outcome : assess (standard ceiling) a with
    | ok found => exact ⟨found, rfl⟩
    | error e =>
        obtain ⟨_, declared, _, above⟩ := (assess_error_iff listed e).mp outcome
        exact absurd ⟨declared, (Decimal.below_iff _ _).mpr above⟩ rejected

def Vault.added (v : Vault) (merchant : String) (pan : Pan) : Vault :=
  ⟨((merchant, token v.issued), pan) :: v.entries, v.issued + 1⟩

def Stores.nextToken (s : Stores) : String := Vault.token s.vault.issued

namespace Authorization

/-- An authorization at intake, with the token of its card. -/
def tokenized (a : Authorization) (token : String) : Authorization :=
  { a with card := { a.card with token := some token }, status := .new }

def approved (a : Authorization) (applied : Option Exemption) (stan : UInt64) (today : Date) :
    Authorization :=
  { a with
    appliedExemption := applied
    status := .approved
    response := some (.approval stan today)
    schemeData := some ((SimulatedNetwork.approving a.card.scheme).schemeData stan today) }

end Authorization

/-- The stores with a row for an authorization, whose number is in the vault. -/
def Stores.withAuthorization (s : Stores) (pan : Pan) (a : Authorization)
    (data : List (Uuid × SchemeData)) : Stores :=
  { s with
    vault := s.vault.added a.merchant pan
    authorizations := ⟨s.authorizations.rows ++ [a.row], data⟩ }

namespace TransactionStore

variable {β : Type} [Stored β]

theorem update_concat (rows : List β) (data : List (Uuid × SchemeData)) (x row : β)
    (named : Stored.id row = Stored.id x) (fresh : ∀ other ∈ rows, Stored.id other ≠ Stored.id x) :
    (⟨rows ++ [row], data⟩ : TransactionStore β).update x =
      .ok ⟨rows ++ [Stored.decided x row], data⟩ := by
  have changed := Table.changeFirst_concat (fun y : β => decide (Stored.id y = Stored.id x))
    (Stored.decided x) rows row (fun other member => decide_eq_false (fresh other member))
    (decide_eq_true named)
  simp only [update, changed]

theorem row?_fresh {store : TransactionStore β} {x : β}
    (fresh : ∀ row ∈ store.rows, Stored.id row ≠ Stored.id x) :
    store.row? (Stored.id x) = none := by
  rw [row?, List.find?_eq_none]
  intro row member
  simpa using fresh row member

theorem create_fresh {store : TransactionStore β} {x : β}
    (fresh : ∀ row ∈ store.rows, Stored.id row ≠ Stored.id x) :
    store.create x = .ok ⟨store.rows ++ [Stored.row x], store.schemeData⟩ := by
  simp only [create, row?_fresh fresh]

/-- The first row of an id is found also after a further one was added. -/
theorem row?_concat {store : TransactionStore β} {id : Uuid} {row : β}
    (found : store.row? id = some row) (x : β) (data : List (Uuid × SchemeData)) :
    (⟨store.rows ++ [x], data⟩ : TransactionStore β).row? id = some row := by
  rw [row?] at found ⊢
  rw [List.find?_append, found, Option.some_or]

theorem row?_concat_fresh {store : TransactionStore β} {x : β}
    (fresh : ∀ row ∈ store.rows, Stored.id row ≠ Stored.id x) (data : List (Uuid × SchemeData)) :
    (⟨store.rows ++ [Stored.row x], data⟩ : TransactionStore β).row? (Stored.id x) =
      some (Stored.row x) := by
  have none := row?_fresh fresh
  rw [row?] at none ⊢
  rw [List.find?_append, none, Option.none_or]
  simp [Stored.row_id]

theorem createData_checked {store : TransactionStore β} {scheme : Scheme} {x : β}
    {data : SchemeData}
    (checked : SchemeData.checked (Stored.id x) (Stored.schemeData x) scheme = .ok data) :
    store.createData scheme x = .ok ⟨store.rows, (Stored.id x, data) :: store.schemeData⟩ := by
  simp only [createData, checked]

end TransactionStore

variable {ceiling : Decimal} {a : Authorization} {pan : Pan}

/-- The clear number of a card is replaced by a token, and the row is stored as new. -/
theorem Processor.run_authorize (clear : a.card.pan = some pan)
    (fresh : ∀ row ∈ s.stores.authorizations.rows, row.id ≠ a.id) :
    (p.authorize a).run s =
      (p.assessAuthorization (a.tokenized s.stores.nextToken)).run
        { s with
          stores := s.stores.withAuthorization pan (a.tokenized s.stores.nextToken)
            s.stores.authorizations.schemeData } := by
  let tokenized := a.tokenized s.stores.nextToken
  have made : s.stores.vault.tokenize a.merchant a.card =
      .ok (s.stores.nextToken, s.stores.vault.added a.merchant pan) := by
    simp only [Vault.tokenize, clear]
    rfl
  have first : s.stores.answer (.tokenize a.merchant a.card) =
      (.ok s.stores.nextToken, { s.stores with vault := s.stores.vault.added a.merchant pan }) := by
    rw [Stores.answer, made]
  have second : ({ s.stores with vault := s.stores.vault.added a.merchant pan } : Stores).answer
      (.createAuthorization tokenized) =
      (.ok (), s.stores.withAuthorization pan tokenized s.stores.authorizations.schemeData) :=
    congrArg (Stores.changed _ _) (TransactionStore.create_fresh (x := tokenized) fresh)
  exact (Flow.run_require_ok first).trans (Flow.run_require_ok second)

theorem Processor.run_authorize_rejected (rules : p.rules = RiskRule.standard ceiling)
    (clear : a.card.pan = some pan) (fresh : ∀ row ∈ s.stores.authorizations.rows, row.id ≠ a.id)
    (rejected : a.exemption = .lowValue ∧ ceiling.below a.amount.value = true) :
    let declined := { a.tokenized s.stores.nextToken with status := .riskDeclined }
    (p.authorize a).run s = ((declined, .error
        ((PaymentError.lowValueExceeded a.amount.value ceiling).within "risk assessment failed")),
      { s with
        stores := s.stores.withAuthorization pan declined
          s.stores.authorizations.schemeData }) := by
  intro declined
  rw [p.run_authorize clear fresh]
  have assessed : RiskRule.assess p.rules (a.tokenized s.stores.nextToken) =
      .error (.lowValueExceeded a.amount.value ceiling) := by
    rw [rules]
    rcases RiskRule.assess_standard ceiling (a.tokenized s.stores.nextToken) with
      ⟨_, _, fails⟩ | ⟨allowed, _⟩
    · exact fails
    · exact absurd rejected allowed
  have updated := TransactionStore.update_concat s.stores.authorizations.rows
    s.stores.authorizations.schemeData declined (a.tokenized s.stores.nextToken).row rfl fresh
  simp only [assessAuthorization, assessed, Flow.require, Flow.run, System.answer, Stores.answer,
    Stores.withAuthorization]
  rw [updated]
  rfl

theorem SimulatedNetwork.schemeData_scheme (n : SimulatedNetwork) (stan : UInt64) (today : Date) :
    (n.schemeData stan today).scheme = n.scheme := by
  rw [schemeData]
  split
  · next isScheme => exact isScheme.symm
  · next isScheme => exact isScheme.symm

theorem SimulatedNetwork.checked_schemeData (id : Uuid) (scheme : Scheme) (stan : UInt64)
    (today : Date) :
    SchemeData.checked id (some ((approving scheme).schemeData stan today)) scheme =
      .ok ((approving scheme).schemeData stan today) := by
  rw [SchemeData.checked, schemeData_scheme, approving, if_pos rfl]

/-- What the network attached is stored, and then its approval. -/
theorem Processor.run_storeAuthorizationData {rows : List Authorization}
    {store : List (Uuid × SchemeData)} (applied : Option Exemption) (today : Date)
    (stored : s.stores.authorizations = ⟨rows ++ [a.row], store⟩)
    (fresh : ∀ row ∈ rows, row.id ≠ a.id) :
    let final := a.approved applied stan today
    (storeAuthorizationData { final with status := a.status }).run s = ((final, .ok ()),
      { s with stores := { s.stores with authorizations := ⟨rows ++ [final.row], (a.id,
        (SimulatedNetwork.approving a.card.scheme).schemeData stan today) :: store⟩ } }) := by
  intro final
  have kept := TransactionStore.update_concat rows
    ((a.id, (SimulatedNetwork.approving a.card.scheme).schemeData stan today) :: store) final a.row
    rfl fresh
  have checked := SimulatedNetwork.checked_schemeData a.id a.card.scheme stan today
  have created : s.stores.authorizations.createData a.card.scheme
      { final with status := a.status } = .ok ⟨rows ++ [a.row],
        (a.id, (SimulatedNetwork.approving a.card.scheme).schemeData stan today) :: store⟩ := by
    rw [stored]
    exact TransactionStore.createData_checked checked
  have first : s.stores.answer (.createAuthorizationData final.card.scheme
      { final with status := a.status }) = (.ok (), { s.stores with
        authorizations := ⟨rows ++ [a.row],
          (a.id, (SimulatedNetwork.approving a.card.scheme).schemeData stan today) :: store⟩ }) :=
    congrArg (s.stores.changed _) created
  have second : ({ s.stores with authorizations := ⟨rows ++ [a.row],
      (a.id, (SimulatedNetwork.approving a.card.scheme).schemeData stan today) :: store⟩ } :
        Stores).answer (.updateAuthorization final) =
      (.ok (), { s.stores with authorizations := ⟨rows ++ [final.row],
        (a.id, (SimulatedNetwork.approving a.card.scheme).schemeData stan today) :: store⟩ }) :=
    congrArg (Stores.changed _ _) kept
  exact (Flow.run_require_ok first).trans (Flow.run_require_ok second)

theorem Processor.run_sendAuthorization {rows : List Authorization}
    {store : List (Uuid × SchemeData)} (approves : s.Approves p)
    (taken : s.traces.next = (.ok stan, traces)) (applied : Option Exemption)
    (stored : s.stores.authorizations = ⟨rows ++ [a.row], store⟩)
    (fresh : ∀ row ∈ rows, row.id ≠ a.id) :
    let final := a.approved applied stan traces.today
    (p.sendAuthorization { a with appliedExemption := applied }).run s = ((final, .ok ()),
      { s with
        stores := { s.stores with authorizations := ⟨rows ++ [final.row], (a.id,
          (SimulatedNetwork.approving a.card.scheme).schemeData stan traces.today) :: store⟩ }
        traces := traces }) :=
  (p.run_dispatch approves taken _ _ _ _ rfl).trans
    (run_storeAuthorizationData applied traces.today stored fresh)

theorem Processor.run_authorize_approved (approves : s.Approves p)
    (taken : s.traces.next = (.ok stan, traces)) (rules : p.rules = RiskRule.standard ceiling)
    (clear : a.card.pan = some pan) (fresh : ∀ row ∈ s.stores.authorizations.rows, row.id ≠ a.id)
    (allowed : ¬ (a.exemption = .lowValue ∧ ceiling.below a.amount.value = true)) :
    ∃ applied data, (p.authorize a).run s =
      (((a.tokenized s.stores.nextToken).approved applied stan traces.today, .ok ()),
        { s with
          stores := s.stores.withAuthorization pan
            ((a.tokenized s.stores.nextToken).approved applied stan traces.today) data
          traces := traces }) := by
  obtain ⟨found, assessed⟩ : ∃ found,
      RiskRule.assess p.rules (a.tokenized s.stores.nextToken) = .ok found := by
    rw [rules]
    rcases RiskRule.assess_standard ceiling (a.tokenized s.stores.nextToken) with
      ⟨low, above, _⟩ | ⟨_, passes⟩
    · exact absurd ⟨low, above⟩ allowed
    · exact passes
  refine ⟨found.applied, (a.id, (SimulatedNetwork.approving a.card.scheme).schemeData stan
    traces.today) :: s.stores.authorizations.schemeData, ?_⟩
  rw [p.run_authorize clear fresh]
  simp only [assessAuthorization, assessed]
  have onStored := approves.withStores (s.stores.withAuthorization pan
    (a.tokenized s.stores.nextToken) s.stores.authorizations.schemeData)
  exact p.run_sendAuthorization onStored taken found.applied rfl fresh

/-! ## Refunds -/

namespace Refund

def tokenized (r : Refund) (token : String) : Refund :=
  { r with card := { r.card with token := some token }, status := .new }

def approved (r : Refund) (stan : UInt64) (today : Date) : Refund :=
  { r with
    status := .approved
    response := some (.approval stan today)
    schemeData := some ((SimulatedNetwork.approving r.card.scheme).schemeData stan today) }

end Refund

def Stores.withRefund (s : Stores) (pan : Pan) (r : Refund) (data : List (Uuid × SchemeData)) :
    Stores :=
  { s with vault := s.vault.added r.merchant pan, refunds := ⟨s.refunds.rows ++ [r.row], data⟩ }

variable {r : Refund}

theorem Processor.run_storeRefundData {rows : List Refund} {store : List (Uuid × SchemeData)}
    (today : Date) (stored : s.stores.refunds = ⟨rows ++ [r.row], store⟩)
    (fresh : ∀ row ∈ rows, row.id ≠ r.id) :
    let final := r.approved stan today
    (storeRefundData { final with status := r.status }).run s = ((final, .ok ()),
      { s with stores := { s.stores with refunds := ⟨rows ++ [final.row], (r.id,
        (SimulatedNetwork.approving r.card.scheme).schemeData stan today) :: store⟩ } }) := by
  intro final
  have kept := TransactionStore.update_concat rows
    ((r.id, (SimulatedNetwork.approving r.card.scheme).schemeData stan today) :: store) final r.row
    rfl fresh
  have checked := SimulatedNetwork.checked_schemeData r.id r.card.scheme stan today
  have created : s.stores.refunds.createData r.card.scheme { final with status := r.status } =
      .ok ⟨rows ++ [r.row],
        (r.id, (SimulatedNetwork.approving r.card.scheme).schemeData stan today) :: store⟩ := by
    rw [stored]
    exact TransactionStore.createData_checked checked
  have first : s.stores.answer (.createRefundData final.card.scheme
      { final with status := r.status }) = (.ok (), { s.stores with refunds := ⟨rows ++ [r.row],
        (r.id, (SimulatedNetwork.approving r.card.scheme).schemeData stan today) :: store⟩ }) :=
    congrArg (s.stores.changed _) created
  have second : ({ s.stores with refunds := ⟨rows ++ [r.row],
      (r.id, (SimulatedNetwork.approving r.card.scheme).schemeData stan today) :: store⟩ } :
        Stores).answer (.updateRefund final) =
      (.ok (), { s.stores with refunds := ⟨rows ++ [final.row],
        (r.id, (SimulatedNetwork.approving r.card.scheme).schemeData stan today) :: store⟩ }) :=
    congrArg (Stores.changed _ _) kept
  exact (Flow.run_require_ok first).trans (Flow.run_require_ok second)

theorem Processor.run_sendRefund {rows : List Refund} {store : List (Uuid × SchemeData)}
    (approves : s.Approves p) (taken : s.traces.next = (.ok stan, traces))
    (stored : s.stores.refunds = ⟨rows ++ [r.row], store⟩) (fresh : ∀ row ∈ rows, row.id ≠ r.id) :
    let final := r.approved stan traces.today
    (p.sendRefund r).run s = ((final, .ok ()),
      { s with
        stores := { s.stores with refunds := ⟨rows ++ [final.row], (r.id,
          (SimulatedNetwork.approving r.card.scheme).schemeData stan traces.today) :: store⟩ }
        traces := traces }) :=
  (p.run_dispatch approves taken _ _ _ _ rfl).trans
    (run_storeRefundData traces.today stored fresh)

theorem Processor.run_refund (approves : s.Approves p)
    (taken : s.traces.next = (.ok stan, traces)) (clear : r.card.pan = some pan)
    (fresh : ∀ row ∈ s.stores.refunds.rows, row.id ≠ r.id) :
    ∃ data, (p.refund r).run s =
      (((r.tokenized s.stores.nextToken).approved stan traces.today, .ok ()),
        { s with
          stores := s.stores.withRefund pan
            ((r.tokenized s.stores.nextToken).approved stan traces.today) data
          traces := traces }) := by
  let tokenized := r.tokenized s.stores.nextToken
  have made : s.stores.vault.tokenize r.merchant r.card =
      .ok (s.stores.nextToken, s.stores.vault.added r.merchant pan) := by
    simp only [Vault.tokenize, clear]
    rfl
  have first : s.stores.answer (.tokenize r.merchant r.card) =
      (.ok s.stores.nextToken, { s.stores with vault := s.stores.vault.added r.merchant pan }) := by
    rw [Stores.answer, made]
  have second : ({ s.stores with vault := s.stores.vault.added r.merchant pan } : Stores).answer
      (.createRefund tokenized) =
      (.ok (), s.stores.withRefund pan tokenized s.stores.refunds.schemeData) :=
    congrArg (Stores.changed _ _) (TransactionStore.create_fresh (x := tokenized) fresh)
  have onStored := approves.withStores
    (s.stores.withRefund pan tokenized s.stores.refunds.schemeData)
  exact ⟨_, (Flow.run_require_ok first).trans <| (Flow.run_require_ok second).trans <|
    p.run_sendRefund onStored taken rfl fresh⟩

end
end CardPayments
