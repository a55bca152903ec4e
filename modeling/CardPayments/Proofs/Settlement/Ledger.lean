import CardPayments.Proofs.Settlement.Flow

/-! # The ledger of an authorization

What is stored for one authorization, which messages were sent, and how far each request on it has
come.  Every turn of traffic on the authorization is a step of its ledger: a request reads and goes
on, a row is added at the end, or one row gets another status. -/
set_option autoImplicit false

namespace CardPayments

structure Ledger (ι : Type) where
  captures : List Capture
  reversals : List Reversal
  exchanges : List (Exchange ι)
  phase : ι → Phase

def Overview.ledger {ι : Type} (o : Overview ι Phase) (id : Uuid) : Ledger ι :=
  ⟨o.stores.captures.ofAuthorization id, o.stores.reversals.ofAuthorization id, o.exchanges,
    o.phase⟩

@[simp] theorem Overview.ledger_phase {ι : Type} (o : Overview ι Phase) (id : Uuid) :
    (o.ledger id).phase = o.phase := rfl

namespace Ledger

open Settlement

variable {ι : Type}

/-- The request goes on, and nothing is stored or sent.  Where a request gives up on a row that it
wanted to change, the row was missing or the answer was lost. -/
inductive Reads (l : Ledger ι) (authorized : Amount → Prop) (turn : Turn) (q : Request) :
    Phase → Phase → Prop
  | keep (c : Capture) (free : ∀ row ∈ l.reversals, row.status = .failed) :
      Reads l authorized turn q (.captured c) (.accepted c)
  | regret (c : Capture) : Reads l authorized turn q (.captured c) (.withdrawn c)
  | withdraw (c : Capture) (missing : turn.Smooth → ∀ row ∈ l.captures, row.id ≠ c.id) :
      Reads l authorized turn q (.withdrawn c) .over
  | refused : Reads l authorized turn q .idle .over
  | clear (r : Reversal) (summary : CaptureSummary) (leaves : Leaves q authorized r summary)
      (current : CaptureSummary.ofCaptures l.captures = .ok summary) :
      Reads l authorized turn q (.reversing r) (.cleared r)
  | back (r : Reversal) : Reads l authorized turn q (.reversing r) (.withdrawing r)
  | abandon (r : Reversal) : Reads l authorized turn q (.reversing r) (.stuck r)
  | retract (r : Reversal) (missing : turn.Smooth → ∀ row ∈ l.reversals, row.id ≠ r.id) :
      Reads l authorized turn q (.withdrawing r) .over
  | conclude (r : Reversal) (missing : turn.Smooth → ∀ row ∈ l.reversals, row.id ≠ r.id) :
      Reads l authorized turn q (.answered r) .over

variable [DecidableEq ι] (requests : ι → Request) (id : Uuid) (authorized : Amount → Prop)

inductive Step (l : Ledger ι) (turn : Turn) : Ledger ι → Prop
  | still : Step l turn l
  | read (i : ι) (after : Phase)
      (reads : l.Reads authorized turn (requests i) (l.phase i) after) :
      Step l turn { l with phase := Function.update l.phase i after }
  /-- A request that does not hear that its capture was stored remains idle. -/
  | capture (i : ι) (c : Capture) (seen current : CaptureSummary) (after : Phase)
      (idle : l.phase i = .idle) (checked : Checked (requests i) id authorized c seen)
      (summary : CaptureSummary.ofCaptures l.captures = .ok current)
      (same : current.same seen = true)
      (heard : after = .captured c ∨ after = .idle ∧ ¬ turn.Smooth) :
      Step l turn { l with captures := l.captures ++ [c], phase := Function.update l.phase i after }
  | withdraw (i : ι) (c : Capture) (captures : List Capture) (withdraws : l.phase i = .withdrawn c)
      (changed : RowChanged (fun row => row.id = c.id) (fun row => { row with status := .failed })
        l.captures captures) :
      Step l turn { l with captures := captures, phase := Function.update l.phase i .over }
  /-- A request that does not hear that its reversal was stored is over. -/
  | reverse (i : ι) (r : Reversal) (after : Phase) (idle : l.phase i = .idle)
      (prepared : Prepared (requests i) id r) (free : ∀ row ∈ l.reversals, row.status = .failed)
      (heard : after = .reversing r ∨ after = .over ∧ ¬ turn.Smooth) :
      Step l turn { l with
        reversals := l.reversals ++ [r.row]
        phase := Function.update l.phase i after }
  | conclude (i : ι) (r : Reversal) (status : ReversalStatus) (reversals : List Reversal)
      (which : l.phase i = .withdrawing r ∧ status = .failed ∨
        l.phase i = .answered r ∧ status = .ofResponse r.response)
      (changed : RowChanged (fun row => row.id = r.id)
        (fun row => { row with status := status, response := r.response }) l.reversals reversals) :
      Step l turn { l with reversals := reversals, phase := Function.update l.phase i .over }
  /-- A request that is not answered properly is stuck. -/
  | send (i : ι) (r : Reversal) (attached : Attached) (outcome : Except PaymentError Unit)
      (after : Phase) (clears : l.phase i = .cleared r)
      (goes : after = .answered (r.attach attached) ∧ outcome = .ok () ∧
        Processor.checkFormat attached.response = .ok () ∨ after = .stuck r) :
      Step l turn { l with
        exchanges := l.exchanges ++ [⟨i, .reverse r, attached, outcome⟩]
        phase := Function.update l.phase i after }

variable {requests id authorized} {l : Ledger ι} {turn : Turn}

theorem Step.same (i : ι) (after : Phase) (stays : after = l.phase i) :
    Step requests id authorized l turn { l with phase := Function.update l.phase i after } := by
  rw [stays, Function.update_eq_self]
  exact .still

end Ledger

open Settlement

variable {ι : Type} [DecidableEq ι] {requests : ι → Request} {id : Uuid}
  {authorized : Amount → Prop}

/-- What became of a call that the stores answer with `said`: they are as it left them, or as they
were, and its answer is what they said unless that was lost. -/
structure Stores.Took {α : Type} (s : Stores) (turn : Turn) (said : Except PaymentError α × Stores)
    (answer : Except PaymentError α) (after : Stores) : Prop where
  effect : after = s ∨ after = said.2
  heard : said = (answer, after) ∨ (¬ turn.Smooth ∧ ∃ e, answer = .error e)

namespace Stores.Took

variable {s after : Stores} {turn : Turn}

theorem reads {call : Call} {answer : Except PaymentError call.Value}
    (took : s.Took turn (s.answer call) answer after) (reads : call.IsRead) : after = s := by
  rcases took.effect with same | same
  · exact same
  · rw [same, s.answer_read call reads]

theorem answered {α : Type} {said : Except PaymentError α × Stores} {value : α}
    (took : s.Took turn said (.ok value) after) : said = (.ok value, after) := by
  rcases took.heard with answered | ⟨_, e, lost⟩
  · exact answered
  · cases lost

theorem changes {σ : Type} {put : σ → Stores} {result : Except PaymentError σ}
    {answer : Except PaymentError Unit} (took : s.Took turn (s.changed put result) answer after) :
    (∃ store, result = .ok store ∧ after = put store ∧ (answer = .ok () ∨ ¬ turn.Smooth)) ∨
      (after = s ∧ (∃ e, answer = .error e) ∧ (turn.Smooth → ∃ e, result = .error e)) := by
  obtain ⟨effect, heard⟩ := took
  cases result with
  | ok store =>
      rcases heard with said | ⟨rough, failed⟩
      · cases said
        exact Or.inl ⟨store, rfl, rfl, Or.inl rfl⟩
      · rcases effect with same | changed
        · exact Or.inr ⟨same, failed, fun smooth => absurd smooth rough⟩
        · exact Or.inl ⟨store, rfl, changed, Or.inr rough⟩
  | error e =>
      have same : after = s := by
        rcases effect with same | same <;> exact same
      refine Or.inr ⟨same, ?_, fun _ => ⟨e, rfl⟩⟩
      rcases heard with said | ⟨_, failed⟩
      · exact ⟨e, (congrArg Prod.fst said).symm⟩
      · exact failed

end Stores.Took

section

variable {o : Overview ι Phase} {turn : Turn} {i : ι} {after : Phase} {stores : Stores}

/-! ## Calls as steps -/

theorem Overview.step_capture {c : Capture} {seen : CaptureSummary} {store : CaptureStore}
    (idle : o.phase i = .idle) (checked : Checked (requests i) id authorized c seen)
    (stored : o.stores.captures.create c seen = .ok store)
    (heard : after = .captured c ∨ after = .idle ∧ ¬ turn.Smooth) :
    (o.ledger id).Step requests id authorized turn
      (Overview.ledger ⟨{ o.stores with captures := store }, o.exchanges,
        Function.update o.phase i after⟩ id) := by
  obtain ⟨rows, current, summary, same⟩ := CaptureStore.create_ok stored
  rw [checked.account] at rows summary
  rw [Overview.ledger, Overview.ledger, rows]
  exact .capture i c seen current after idle checked summary same heard

theorem Overview.step_withdraw {c : Capture} {store : CaptureStore}
    (withdraws : o.phase i = .withdrawn c) (account : c.authorizationId = id)
    (stored : o.stores.captures.update { c with status := .failed } = .ok store) :
    (o.ledger id).Step requests id authorized turn
      (Overview.ledger ⟨{ o.stores with captures := store }, o.exchanges,
        Function.update o.phase i .over⟩ id) := by
  obtain ⟨front, row, back, split, splitAfter, _, named⟩ := CaptureStore.update_ok stored
  rw [account] at split splitAfter
  exact .withdraw i c _ withdraws ⟨front, row, back, split, splitAfter, named⟩

theorem Overview.step_reverse {r : Reversal} {store : ReversalStore} (idle : o.phase i = .idle)
    (prepared : Prepared (requests i) id r) (stored : o.stores.reversals.create r = .ok store)
    (heard : after = .reversing r ∨ after = .over ∧ ¬ turn.Smooth) :
    (o.ledger id).Step requests id authorized turn
      (Overview.ledger ⟨{ o.stores with reversals := store }, o.exchanges,
        Function.update o.phase i after⟩ id) := by
  obtain ⟨rows, free⟩ := ReversalStore.create_ok stored
  rw [prepared.account] at rows free
  rw [Overview.ledger, Overview.ledger, rows]
  exact .reverse i r after idle prepared free heard

theorem Overview.step_conclude {r : Reversal} {status : ReversalStatus} {store : ReversalStore}
    (which : o.phase i = .withdrawing r ∧ status = .failed ∨
      o.phase i = .answered r ∧ status = .ofResponse r.response)
    (account : r.authorizationId = id)
    (stored : o.stores.reversals.update { r with status := status } = .ok store) :
    (o.ledger id).Step requests id authorized turn
      (Overview.ledger ⟨{ o.stores with reversals := store }, o.exchanges,
        Function.update o.phase i .over⟩ id) := by
  obtain ⟨front, row, back, split, splitAfter, _, named⟩ := ReversalStore.update_ok stored
  rw [account] at split splitAfter
  exact .conclude i r status _ which ⟨front, row, back, split, splitAfter, named⟩

/-- A call is a step of the ledger, and changes no stored authorization. -/
theorem Settlement.Asks.step {call : Call} {answer : Except PaymentError call.Value}
    (asks : Asks (requests i) id authorized (o.phase i) call answer after)
    (took : o.stores.Took turn (o.stores.answer call) answer stores) :
    (o.ledger id).Step requests id authorized turn
        (Overview.ledger ⟨stores, o.exchanges, Function.update o.phase i after⟩ id) ∧
      stores.authorizations = o.stores.authorizations := by
  generalize before : o.phase i = phase at asks
  have reads (here : (o.ledger id).Reads authorized turn (requests i) phase after) :
      (o.ledger id).Step requests id authorized turn
        (Overview.ledger ⟨o.stores, o.exchanges, Function.update o.phase i after⟩ id) :=
    .read i after <|
      show (o.ledger id).Reads authorized turn (requests i) (o.phase i) after from before ▸ here
  cases asks with
  | read call answer isRead =>
      cases took.reads isRead
      exact ⟨.same i _ before.symm, rfl⟩
  | capture c seen checked =>
      rcases took.changes with ⟨store, stored, rfl, _⟩ | ⟨_, ⟨e, failed⟩, _⟩
      · exact ⟨Overview.step_capture before checked stored (Or.inl rfl), rfl⟩
      · cases failed
  | lost c seen e checked =>
      rcases took.changes with ⟨store, stored, rfl, heard⟩ | ⟨rfl, _, _⟩
      · have lost := heard.resolve_left fun said => nomatch said
        exact ⟨Overview.step_capture before checked stored (Or.inr ⟨rfl, lost⟩), rfl⟩
      · exact ⟨.same i _ before.symm, rfl⟩
  | keep c =>
      have said := took.answered
      cases took.reads trivial
      have none : o.stores.reversals.pending id = false := by
        injection congrArg Prod.fst said
      exact ⟨reads (.keep c (ReversalStore.pending_eq_false none)), rfl⟩
  | regret c answer =>
      cases took.reads trivial
      exact ⟨reads (.regret c), rfl⟩
  | withdraw c answer account =>
      rcases took.changes with ⟨store, stored, rfl, _⟩ | ⟨rfl, _, failed⟩
      · exact ⟨Overview.step_withdraw before account stored, rfl⟩
      · refine ⟨reads (.withdraw c fun smooth => ?_), rfl⟩
        have absent := CaptureStore.update_error (failed smooth) account
        exact absent
  | publish c topic payload answer =>
      have stays : (o.ledger id).Step requests id authorized turn
          { o.ledger id with phase := Function.update o.phase i (.accepted c) } :=
        .same i _ before.symm
      rcases took.effect with rfl | rfl
      · exact ⟨stays, rfl⟩
      · exact ⟨stays, rfl⟩
  | reverse r prepared =>
      rcases took.changes with ⟨store, stored, rfl, _⟩ | ⟨_, ⟨e, failed⟩, _⟩
      · exact ⟨Overview.step_reverse before prepared stored (Or.inl rfl), rfl⟩
      · cases failed
  | refused r e prepared =>
      rcases took.changes with ⟨store, stored, rfl, heard⟩ | ⟨rfl, _, _⟩
      · have lost := heard.resolve_left fun said => nomatch said
        exact ⟨Overview.step_reverse before prepared stored (Or.inr ⟨rfl, lost⟩), rfl⟩
      · exact ⟨reads .refused, rfl⟩
  | clear r summary leaves =>
      have said := took.answered
      cases took.reads trivial
      exact ⟨reads (.clear r summary leaves (congrArg Prod.fst said)), rfl⟩
  | back r answer =>
      cases took.reads trivial
      exact ⟨reads (.back r), rfl⟩
  | abandon r answer =>
      cases took.reads trivial
      exact ⟨reads (.abandon r), rfl⟩
  | retract r answer account =>
      rcases took.changes with ⟨store, stored, rfl, _⟩ | ⟨rfl, _, failed⟩
      · exact ⟨Overview.step_conclude (Or.inl ⟨before, rfl⟩) account stored, rfl⟩
      · refine ⟨reads (.retract r fun smooth => ?_), rfl⟩
        have absent := ReversalStore.update_error (failed smooth) account
        exact absent
  | conclude r answer account =>
      rcases took.changes with ⟨store, stored, rfl, _⟩ | ⟨rfl, _, failed⟩
      · exact ⟨Overview.step_conclude (Or.inr ⟨before, rfl⟩) account stored, rfl⟩
      · refine ⟨reads (.conclude r fun smooth => ?_), rfl⟩
        have absent := ReversalStore.update_error (failed smooth) account
        exact absent

end

/-! ## Runs -/

variable (requests id authorized) in
def Settlement.protocols (i : ι) : Protocol (requests i).Held (requests i).Answer Phase :=
  protocol (requests i) id authorized (requests i).Held (requests i).Answer

theorem Overview.Move.ledger {o o' : Overview ι Phase} {turn : Turn}
    (move : o.Move (protocols requests id authorized) turn o') :
    (o.ledger id).Step requests id authorized turn (o'.ledger id) ∧
      o'.stores.authorizations = o.stores.authorizations := by
  cases move with
  | still => exact ⟨.still, rfl⟩
  | answered i call answer stores after answers asks =>
      refine asks.step ⟨Or.inr ?_, Or.inl answers⟩
      rw [answers]
  | refused i call e after asks =>
      refine asks.step ⟨Or.inl rfl, Or.inr ⟨?_, e, rfl⟩⟩
      simp [Turn.Smooth]
  | unheard i call answer stores e after answers asks =>
      refine asks.step ⟨Or.inr ?_, Or.inr ⟨?_, e, rfl⟩⟩
      · rw [answers]
      · simp [Turn.Smooth]
  | exchanged i message attached outcome after sends =>
      refine ⟨?_, rfl⟩
      generalize before : o.phase i = phase at sends
      cases sends with
      | answered r _ wellFormed =>
          exact .send i r attached _ _ before (Or.inl ⟨rfl, rfl, wellFormed⟩)
      | failed r => exact .send i r attached outcome _ before (Or.inr rfl)

theorem Stores.answer_expects {s after : Stores} {call : Call} {value : call.Value}
    (known : ∀ a, s.authorizations.row? id = some a → authorized a.amount)
    (answers : s.answer call = (.ok value, after)) : Expects id authorized call value := by
  cases call with
  | authorization psp named =>
      intro isNamed
      subst isNamed
      obtain ⟨row, found, account, amount⟩ :=
        AuthorizationStore.getFull_ok (congrArg Prod.fst answers)
      exact ⟨account, amount ▸ known row found⟩
  | _ => trivial

variable {s t : Traffic requests} {o : Overview ι Phase}

omit [DecidableEq ι] in
theorem Traffic.Shows.ledger_captures {first : Phase}
    (shows : s.Shows (protocols requests id authorized) first o) :
    (o.ledger id).captures = s.stores.captures.ofAuthorization id := by
  rw [Overview.ledger, shows.stores]

omit [DecidableEq ι] in
theorem Traffic.Shows.ledger_reversals {first : Phase}
    (shows : s.Shows (protocols requests id authorized) first o) :
    (o.ledger id).reversals = s.stores.reversals.ofAuthorization id := by
  rw [Overview.ledger, shows.stores]

omit [DecidableEq ι] in
theorem Traffic.Shows.ledger_exchanges {first : Phase}
    (shows : s.Shows (protocols requests id authorized) first o) :
    (o.ledger id).exchanges = s.exchanges :=
  shows.exchanges

omit [DecidableEq ι] in
/-- A request that is not under way any more left no capture that it may still take back. -/
theorem Traffic.Shows.settled (shows : s.Shows (protocols requests id authorized) .idle o) (i : ι)
    (rests : (s.stage i).Rests) (kept : s.stage i ≠ .dropped) : (o.phase i).balance? = none := by
  have staged := shows.staged i
  cases stage : s.stage i with
  | waiting =>
      rw [shows.waiting stage]
      rfl
  | dropped => exact absurd stage kept
  | running flow =>
      rw [stage] at staged rests
      cases flow with
      | finish held answer => exact (finishes_of_answer? staged rfl).settled
      | ask held call next => exact rests.elim
      | send held scheme message next => exact rests.elim

/-- What every step of the ledger keeps holds throughout every run. -/
theorem Traffic.Reaches.ledger {p : Processor} {allowed : Turn → Prop} (authorized : Amount → Prop)
    (Inv : Ledger ι → Prop) (on : ∀ i, (requests i).On id)
    (known : ∀ a, o.stores.authorizations.row? id = some a → authorized a.amount)
    (kept : ∀ l turn l', allowed turn → Inv l → l.Step requests id authorized turn l' → Inv l')
    (shows : s.Shows (protocols requests id authorized) .idle o) (holds : Inv (o.ledger id))
    (reaches : s.Reaches p allowed t) :
    ∃ o', t.Shows (protocols requests id authorized) .idle o' ∧ Inv (o'.ledger id) ∧
      o'.stores.authorizations = o.stores.authorizations := by
  refine reaches.invariant
    (fun o' => Inv (o'.ledger id) ∧ o'.stores.authorizations = o.stores.authorizations)
    (fun i => flow_obeys p (requests i) (on i)) ?_ ?_ shows ⟨holds, rfl⟩
  · intro o' held i call value stores answers
    exact Stores.answer_expects (held.2 ▸ known) answers
  · intro o' turn o'' isAllowed held move
    obtain ⟨step, unchanged⟩ := move.ledger
    exact ⟨kept _ turn _ isAllowed held.1 step, unchanged.trans held.2⟩

end CardPayments
