import CardPayments.Proofs.Settlement.Exclusive

/-! # At most one approval

The network approves at most one reversal of an authorization.  A request sends its reversal while
its row is new; where the network approves it, the row never fails: it succeeds, or stays as it is
when the request does not hear the answer or stops.  A row that has an outcome never changes
again. -/
set_option autoImplicit false

namespace CardPayments

open Settlement

variable {ι : Type} {requests : ι → Request} {id : Uuid} {authorized : Amount → Prop}

/-- The row of an approved reversal stands, and a request that got no proper answer is stuck. -/
structure Sent (requests : ι → Request) (rows : List Reversal) (exchanges : List (Exchange ι))
    (phase : ι → Phase) : Prop where
  sent : ∀ x ∈ exchanges, (phase x.request).HasSent
  failed : ∀ x ∈ exchanges, x.Failed → ∃ r, phase x.request = .stuck r
  stands : ∀ x ∈ exchanges, x.ApprovesReversal →
    ∃ row ∈ rows, (requests x.request).reversalId? = some row.id ∧ row.status ≠ .failed
  answered : ∀ x ∈ exchanges, x.ApprovesReversal → ∀ r, phase x.request = .answered r →
    ReversalStatus.ofResponse r.response = .succeeded
  once : (exchanges.filter fun x => x.ApprovesReversal).length ≤ 1

namespace Sent

variable {rows after : List Reversal} {exchanges : List (Exchange ι)} {phase : ι → Phase} {i : ι}
  {next : Phase}

theorem nil (requests : ι → Request) : Sent requests [] [] (fun _ => .idle) where
  sent _ member := nomatch member
  failed _ member := nomatch member
  stands _ member := nomatch member
  answered _ member := nomatch member
  once := Nat.zero_le 1

theorem ne_request (sent : Sent requests rows exchanges phase) (unsent : ¬ (phase i).HasSent)
    (x : Exchange ι) (member : x ∈ exchanges) : x.request ≠ i :=
  fun same => unsent (same ▸ sent.sent x member)

variable [DecidableEq ι]

theorem unsent (sent : Sent requests rows exchanges phase) (unsent : ¬ (phase i).HasSent)
    (kept : ∀ row ∈ rows, row.status ≠ .failed → row ∈ after) :
    Sent requests after exchanges (Function.update phase i next) := by
  have elsewhere (x : Exchange ι) (member : x ∈ exchanges) :
      Function.update phase i next x.request = phase x.request :=
    Function.update_of_ne (sent.ne_request unsent x member) ..
  refine ⟨?_, ?_, ?_, ?_, sent.once⟩
  · intro x member
    rw [elsewhere x member]
    exact sent.sent x member
  · intro x member failed
    rw [elsewhere x member]
    exact sent.failed x member failed
  · intro x member approves
    obtain ⟨row, stored, owns, notFailed⟩ := sent.stands x member approves
    exact ⟨row, kept row stored notFailed, owns, notFailed⟩
  · intro x member approves r
    rw [elsewhere x member]
    exact sent.answered x member approves r

theorem quiet (sent : Sent requests rows exchanges phase) (quiet : Quiet (phase i) next) :
    Sent requests rows exchanges (Function.update phase i next) := by
  refine ⟨?_, ?_, sent.stands, ?_, sent.once⟩
  · intro x member
    by_cases same : x.request = i
    · rw [same, Function.update_self]
      exact quiet.sent (same ▸ sent.sent x member)
    · rw [Function.update_of_ne same]
      exact sent.sent x member
  · intro x member failed
    obtain ⟨r, stuck⟩ := sent.failed x member failed
    by_cases same : x.request = i
    · rw [same, Function.update_self]
      exact ⟨r, quiet.stuck r (same ▸ stuck)⟩
    · rw [Function.update_of_ne same]
      exact ⟨r, stuck⟩
  · intro x member approves r
    by_cases same : x.request = i
    · rw [same, Function.update_self]
      intro answered
      exact sent.answered x member approves r (same ▸ quiet.answered r answered)
    · rw [Function.update_of_ne same]
      exact sent.answered x member approves r

/-- A request gives its row an outcome, which is a failure only when it was not approved. -/
theorem conclude (sent : Sent requests rows exchanges phase)
    (exclusive : Exclusive requests rows phase)
    (distinct : DistinctIds Request.reversalId? requests)
    {r : Reversal} (awaits : (phase i).open? = some r) (moves : ∀ r, phase i ≠ .stuck r)
    {change : Reversal → Reversal}
    (changed : RowChanged (fun row => row.id = r.id) change rows after)
    (keeps : ∀ row, (change row).id = row.id)
    (succeeds : ∀ x ∈ exchanges, x.ApprovesReversal → x.request = i →
      ∀ row, (change row).status ≠ .failed) :
    Sent requests after exchanges (Function.update phase i .over) := by
  obtain ⟨front, row, back, rfl, rfl, named, isNew, _, others⟩ :=
    exclusive.changed_row awaits changed
  refine ⟨?_, ?_, ?_, ?_, sent.once⟩
  · intro x member
    by_cases same : x.request = i
    · rw [same, Function.update_self]
      trivial
    · rw [Function.update_of_ne same]
      exact sent.sent x member
  · intro x member failed
    obtain ⟨stuck, isStuck⟩ := sent.failed x member failed
    by_cases same : x.request = i
    · exact absurd (same ▸ isStuck) (moves stuck)
    · rw [Function.update_of_ne same]
      exact ⟨stuck, isStuck⟩
  · -- the row that stands is the one that is changed, and belongs to the request that was answered
    intro x member approves
    obtain ⟨stored, inRows, owns, notFailed⟩ := sent.stands x member approves
    have isRow := exclusive.single stored inRows row (by simp) notFailed (by simp [isNew])
    have owner : x.request = i := by
      refine distinct _ _ _ owns ?_
      rw [isRow, named]
      exact (exclusive.awaits i r awaits).1
    refine ⟨change row, by simp, ?_, succeeds x member approves owner row⟩
    rw [keeps row, ← isRow]
    exact owns
  · intro x member approves other
    by_cases same : x.request = i
    · rw [same, Function.update_self]
      intro isAnswered
      cases isAnswered
    · rw [Function.update_of_ne same]
      exact sent.answered x member approves other

theorem send (sent : Sent requests rows exchanges phase)
    (exclusive : Exclusive requests rows phase)
    (distinct : DistinctIds Request.reversalId? requests)
    {r : Reversal} (clears : phase i = .cleared r) (x : Exchange ι) (isSender : x.request = i)
    (goes : next = .answered (r.attach x.attached) ∧ ¬ x.Failed ∨ next = .stuck r) :
    Sent requests rows (exchanges ++ [x]) (Function.update phase i next) := by
  have unsent : ¬ (phase i).HasSent := by
    rw [clears]
    exact id
  have awaits : (phase i).open? = some r := by
    rw [clears]
    rfl
  obtain ⟨owns, row, stored, named, isNew, _⟩ := exclusive.awaits i r awaits
  have before : Sent requests rows exchanges (Function.update phase i next) :=
    sent.unsent unsent fun row member _ => member
  refine ⟨?_, ?_, ?_, ?_, ?_⟩
  · intro y member
    rcases List.mem_append.mp member with old | isLast
    · exact before.sent y old
    · rw [List.mem_singleton.mp isLast, isSender, Function.update_self]
      rcases goes with ⟨rfl, _⟩ | rfl <;> trivial
  · intro y member failed
    rcases List.mem_append.mp member with old | isLast
    · exact before.failed y old failed
    · rw [List.mem_singleton.mp isLast] at failed ⊢
      rw [isSender, Function.update_self]
      exact ⟨r, goes.resolve_left fun answered => answered.2 failed⟩
  · intro y member approves
    rcases List.mem_append.mp member with old | isLast
    · exact before.stands y old approves
    · rw [List.mem_singleton.mp isLast, isSender]
      exact ⟨row, stored, named ▸ owns, by simp [isNew]⟩
  · intro y member approves other
    rcases List.mem_append.mp member with old | isLast
    · exact before.answered y old approves other
    · rw [List.mem_singleton.mp isLast] at approves ⊢
      rw [isSender, Function.update_self]
      intro answered
      rcases goes with ⟨rfl, _⟩ | rfl
      · cases answered
        exact approves.2
      · cases answered
  · by_cases approves : x.ApprovesReversal
    · -- an earlier approval would leave a row that stands, and there is only one
      have none : exchanges.filter (fun y => y.ApprovesReversal) = [] := by
        rw [List.filter_eq_nil_iff]
        intro y member approvesToo
        obtain ⟨other, otherStored, otherOwns, notFailed⟩ :=
          sent.stands y member (of_decide_eq_true approvesToo)
        have same := exclusive.single other otherStored row stored notFailed (by simp [isNew])
        have owner := distinct _ _ _ otherOwns (same ▸ named ▸ owns)
        exact sent.ne_request unsent y member owner
      rw [List.filter_append, none, List.nil_append]
      exact List.length_filter_le ..
    · rw [List.filter_append, List.filter_cons_of_neg (by simpa using approves)]
      simpa using sent.once

end Sent

/-! ## Steps -/

variable [DecidableEq ι] {l l' l'' : Ledger ι} {turn : Turn}

structure Guarded (requests : ι → Request) (l : Ledger ι) : Prop where
  exclusive : Exclusive requests l.reversals l.phase
  sent : Sent requests l.reversals l.exchanges l.phase

theorem Guarded.quiet (guarded : Guarded requests l) {i : ι} {after : Phase}
    (quiet : Quiet (l.phase i) after) (captures : List Capture) :
    Guarded requests { l with captures := captures, phase := Function.update l.phase i after } :=
  ⟨guarded.exclusive.quiet quiet, guarded.sent.quiet quiet⟩

theorem Guarded.conclude (guarded : Guarded requests l)
    (distinct : DistinctIds Request.reversalId? requests)
    {i : ι} {r : Reversal} {status : ReversalStatus} {rows : List Reversal}
    (awaits : (l.phase i).open? = some r) (moves : ∀ r, l.phase i ≠ .stuck r)
    (changed : RowChanged (fun row => row.id = r.id)
      (fun row => { row with status := status, response := r.response }) l.reversals rows)
    (succeeds : ∀ x ∈ l.exchanges, x.ApprovesReversal → x.request = i → status ≠ .failed) :
    Guarded requests
      { l with reversals := rows, phase := Function.update l.phase i .over } where
  exclusive := guarded.exclusive.conclude distinct awaits changed fun _ => rfl
  sent := guarded.sent.conclude guarded.exclusive distinct awaits moves changed (fun _ => rfl)
    fun x member approves isSender _ => succeeds x member approves isSender

namespace Ledger.Step

theorem guarded (step : l.Step requests id authorized turn l')
    (distinct : DistinctIds Request.reversalId? requests) (guarded : Guarded requests l) :
    Guarded requests l' := by
  cases step with
  | still => exact guarded
  | read i after reads => exact guarded.quiet (quiet_of_reads reads) l.captures
  | capture i c seen current after idle checked summary same heard =>
      refine guarded.quiet ?_ _
      rw [idle]
      rcases heard with rfl | ⟨rfl, _⟩
      · exact quiet_captured c
      · exact quiet_idle
  | withdraw i c captures withdraws changed =>
      refine guarded.quiet ?_ captures
      rw [withdraws]
      exact quiet_withdrawn c
  | reverse i r after idle prepared free heard =>
      have unsent : ¬ (l.phase i).HasSent := by
        rw [idle]
        exact not_false
      refine ⟨guarded.exclusive.reverse distinct idle prepared free ?_ ?_,
        guarded.sent.unsent unsent fun row member _ => List.mem_append_left _ member⟩
      · rcases heard with rfl | ⟨rfl, _⟩ <;> simp
      · rcases heard with rfl | ⟨rfl, _⟩ <;> simp [Phase.open?, eq_comm]
  | conclude i r status reversals which changed =>
      rcases which with ⟨withdraws, rfl⟩ | ⟨answered, rfl⟩
      · refine guarded.conclude distinct (by rw [withdraws]; rfl) (by simp [withdraws]) changed ?_
        intro x member _ isSender
        have unsent : ¬ (l.phase i).HasSent := by
          rw [withdraws]
          exact not_false
        exact absurd isSender (guarded.sent.ne_request unsent x member)
      · refine guarded.conclude distinct (by rw [answered]; rfl) (by simp [answered]) changed ?_
        intro x member approves isSender
        rw [guarded.sent.answered x member approves r (isSender ▸ answered)]
        decide
  | send i r attached outcome after clears goes =>
      refine ⟨guarded.exclusive.enter ?_ ?_,
        guarded.sent.send guarded.exclusive distinct clears _ rfl ?_⟩
      · rcases goes with ⟨rfl, _⟩ | rfl <;> simp
      · intro other awaits
        refine ⟨r, by rw [clears]; rfl, ?_⟩
        rcases goes with ⟨rfl, _⟩ | rfl
        · cases awaits
          exact ⟨rfl, rfl⟩
        · cases awaits
          exact ⟨rfl, rfl⟩
      · rcases goes with ⟨rfl, isOk, wellFormed⟩ | rfl
        · exact Or.inl ⟨rfl, by simp [Exchange.Failed, isOk, wellFormed]⟩
        · exact Or.inr rfl

end Ledger.Step

/-- Rows that have an outcome are still there, in their places. -/
def Outlives (before after : List Reversal) : Prop :=
  ∀ (k : ℕ) (row : Reversal), before[k]? = some row → row.status ≠ .new → after[k]? = some row

theorem Outlives.refl (rows : List Reversal) : Outlives rows rows := fun _ _ found _ => found

theorem Outlives.trans {first second third : List Reversal} (left : Outlives first second)
    (right : Outlives second third) : Outlives first third :=
  fun k row found settled => right k row (left k row found settled) settled

theorem Ledger.Step.outlives (step : l.Step requests id authorized turn l')
    (guarded : Guarded requests l) : Outlives l.reversals l'.reversals := by
  cases step with
  | reverse i r after idle prepared free heard =>
      intro k row found _
      exact List.getElem?_append_left (List.getElem?_eq_some_iff.mp found).1 ▸ found
  | conclude i r status reversals which changed =>
      have awaits : (l.phase i).open? = some r := by
        rcases which with ⟨withdraws, _⟩ | ⟨answered, _⟩
        · rw [withdraws]
          rfl
        · rw [answered]
          rfl
      obtain ⟨front, row, back, split, rfl, _, isNew, _⟩ :=
        guarded.exclusive.changed_row awaits changed
      intro k other found settled
      rw [split] at found
      rcases Nat.lt_or_ge k front.length with inFront | later
      · rw [List.getElem?_append_left inFront] at found ⊢
        exact found
      · rw [List.getElem?_append_right later] at found ⊢
        cases place : k - front.length with
        | zero =>
            rw [place] at found
            cases found
            exact absurd isNew settled
        | succ _ =>
            rw [place] at found
            exact found
  | still => exact .refl _
  | read => exact .refl _
  | capture => exact .refl _
  | withdraw => exact .refl _
  | send => exact .refl _

/-! ## A reversal that is stuck -/

omit [DecidableEq ι] in
/-- Requests that are started while a reversal is stuck get nowhere. -/
structure Blocked (i : ι) (r : Reversal) (late : ι → Prop) (exchanges : List (Exchange ι))
    (phase : ι → Phase) : Prop where
  stuck : phase i = .stuck r
  early : ∀ j, late j → (phase j).Early
  unsent : ∀ x ∈ exchanges, ¬ late x.request

theorem Blocked.enter {i j : ι} {r : Reversal} {late : ι → Prop} {exchanges : List (Exchange ι)}
    {phase : ι → Phase} {after : Phase} (blocked : Blocked i r late exchanges phase)
    (moves : phase j ≠ .stuck r) (early : (phase j).Early → after.Early) :
    Blocked i r late exchanges (Function.update phase j after) where
  stuck := by
    have other : i ≠ j := fun same => moves (same ▸ blocked.stuck)
    rw [Function.update_of_ne other]
    exact blocked.stuck
  early k isLate := by
    by_cases same : k = j
    · subst same
      rw [Function.update_self]
      exact early (blocked.early k isLate)
    · rw [Function.update_of_ne same]
      exact blocked.early k isLate
  unsent := blocked.unsent

theorem Ledger.Step.blocked (step : l.Step requests id authorized turn l')
    (guarded : Guarded requests l) {i : ι} {r : Reversal} {late : ι → Prop}
    (blocked : Blocked i r late l.exchanges l.phase) :
    Blocked i r late l'.exchanges l'.phase := by
  have awaits : (l.phase i).open? = some r := by
    rw [blocked.stuck]
    rfl
  obtain ⟨_, row, stored, _, isNew, _⟩ := guarded.exclusive.awaits i r awaits
  have taken (free : ∀ row ∈ l.reversals, row.status = .failed) : False := by
    have failed := free row stored
    rw [isNew] at failed
    cases failed
  cases step with
  | still => exact blocked
  | read j after reads =>
      generalize before : l.phase j = phase at reads
      cases reads with
      | keep c free => exact (taken free).elim
      | regret c => exact blocked.enter (by simp [before]) fun _ => trivial
      | withdraw c missing => exact blocked.enter (by simp [before]) fun _ => trivial
      | refused => exact blocked.enter (by simp [before]) fun _ => trivial
      | clear r summary leaves current =>
          exact blocked.enter (by simp [before]) fun early => by simp [before, Phase.Early] at early
      | back r =>
          exact blocked.enter (by simp [before]) fun early => by simp [before, Phase.Early] at early
      | abandon r =>
          exact blocked.enter (by simp [before]) fun early => by simp [before, Phase.Early] at early
      | retract r missing => exact blocked.enter (by simp [before]) fun _ => trivial
      | conclude r missing => exact blocked.enter (by simp [before]) fun _ => trivial
  | capture j c seen current after idle checked summary same heard =>
      refine blocked.enter (by simp [idle]) fun _ => ?_
      rcases heard with rfl | ⟨rfl, _⟩ <;> trivial
  | withdraw j c captures withdraws changed =>
      exact blocked.enter (by simp [withdraws]) fun _ => trivial
  | reverse j r after idle prepared free heard => exact (taken free).elim
  | conclude j r status reversals which changed =>
      refine blocked.enter ?_ fun _ => trivial
      rcases which with ⟨withdraws, _⟩ | ⟨answered, _⟩
      · simp [withdraws]
      · simp [answered]
  | send j r attached outcome after clears goes =>
      have notEarly : ¬ (l.phase j).Early := by simp [clears, Phase.Early]
      have entered : Blocked i _ late l.exchanges (Function.update l.phase j after) :=
        blocked.enter (by simp [clears]) fun early => absurd early notEarly
      refine ⟨entered.stuck, entered.early, fun x member isLate => ?_⟩
      rcases List.mem_append.mp member with old | isLast
      · exact blocked.unsent x old isLate
      · rw [List.mem_singleton.mp isLast] at isLate
        exact notEarly (blocked.early j isLate)

/-! ## Runs -/

def Traffic.ReversalFailed (s : Traffic requests) (i : ι) : Prop :=
  (s.stage i).ExchangeFailed ∨ ∃ x ∈ s.exchanges, x.request = i ∧ x.Failed

section

variable {t : Traffic requests} {o : Overview ι Phase}

omit [DecidableEq ι] in
theorem Guarded.stuck (guarded : Guarded requests (o.ledger id))
    (shows : t.Shows (protocols requests id authorized) .idle o) {i : ι}
    (failed : t.ReversalFailed i) : ∃ r, o.phase i = .stuck r := by
  rcases failed with ⟨e, answered⟩ | ⟨x, member, rfl, failed⟩
  · exact (finishes_of_answer? (shows.staged i) answered).failed e rfl
  · exact guarded.sent.failed x (shows.ledger_exchanges ▸ member) failed

omit [DecidableEq ι] in
theorem Guarded.blocked (guarded : Guarded requests (o.ledger id))
    (shows : t.Shows (protocols requests id authorized) .idle o) {i : ι} {r : Reversal}
    (stuck : o.phase i = .stuck r) :
    Blocked i r (fun j => t.stage j = .waiting) (o.ledger id).exchanges (o.ledger id).phase := by
  refine ⟨stuck, fun j waits => ?_, fun x member waits => ?_⟩
  · rw [Overview.ledger_phase, shows.waiting waits]
    trivial
  · have sent := guarded.sent.sent x member
    rw [Overview.ledger_phase, shows.waiting waits] at sent
    exact sent

omit [DecidableEq ι] in
/-- A request that was not started before a reversal got stuck neither sends nor captures. -/
theorem Blocked.nothing (shows : t.Shows (protocols requests id authorized) .idle o) {i : ι}
    {r : Reversal} {late : ι → Prop}
    (blocked : Blocked i r late (o.ledger id).exchanges (o.ledger id).phase) {j : ι}
    (isLate : late j) : (∀ x ∈ t.exchanges, x.request ≠ j) ∧
      ((requests j).capture?.isSome → ¬ (t.stage j).Accepted) := by
  refine ⟨fun x member same => ?_, fun captures accepted => ?_⟩
  · exact blocked.unsent x (shows.ledger_exchanges ▸ member) (same ▸ isLate)
  · obtain ⟨value, answered⟩ := accepted
    obtain ⟨c, own⟩ := Option.isSome_iff_exists.mp captures
    obtain ⟨accepted, isAccepted⟩ :=
      (finishes_of_answer? (shows.staged j) answered).accepted c own value rfl
    have early := blocked.early j isLate
    rw [Overview.ledger_phase, isAccepted] at early
    exact early

end

theorem reversals_are_exclusive (p : Processor) (stores : Stores) (id : Uuid)
    (unreversed : stores.reversals.ofAuthorization id = [])
    (distinct : DistinctIds Request.reversalId? requests) (on : ∀ i, (requests i).On id)
    (t u : Traffic requests)
    (reaches : (Traffic.start requests stores).Reaches p (fun _ => True) t)
    (later : t.Reaches p (fun _ => True) u) :
    ((t.stores.reversals.ofAuthorization id).filter fun r => r.status ≠ .failed).length ≤ 1 ∧
      (∀ (k : ℕ) (row : Reversal), (t.stores.reversals.ofAuthorization id)[k]? = some row →
        row.status = .succeeded → (u.stores.reversals.ofAuthorization id)[k]? = some row) ∧
      (t.exchanges.filter fun x => x.ApprovesReversal).length ≤ 1 ∧
      ∀ i, t.ReversalFailed i →
        (∃ row ∈ u.stores.reversals.ofAuthorization id,
          (requests i).reversalId? = some row.id ∧ row.status = .new) ∧
        ∀ j, t.stage j = .waiting → (∀ x ∈ u.exchanges, x.request ≠ j) ∧
          ((requests j).capture?.isSome → ¬ (u.stage j).Accepted) := by
  have first : Guarded requests
      (Overview.ledger (⟨stores, [], fun _ => .idle⟩ : Overview ι Phase) id) := by
    rw [Overview.ledger, unreversed]
    exact ⟨.nil requests, .nil requests⟩
  obtain ⟨o, shows, guarded, _⟩ := reaches.ledger (fun _ => True) (Guarded requests) on
    (fun _ _ => trivial) (fun _ _ _ _ holds step => step.guarded distinct holds)
    (Traffic.start_shows stores) first
  let Inv (l : Ledger ι) : Prop :=
    Guarded requests l ∧ Outlives (o.ledger id).reversals l.reversals ∧ ∀ i r,
      o.phase i = .stuck r → Blocked i r (fun j => t.stage j = .waiting) l.exchanges l.phase
  have kept (l : Ledger ι) (turn : Turn) (l' : Ledger ι) (_ : True) (holds : Inv l)
      (step : l.Step requests id (fun _ => True) turn l') : Inv l' := by
    obtain ⟨held, rows, stuck⟩ := holds
    exact ⟨step.guarded distinct held, rows.trans (step.outlives held),
      fun i r isStuck => step.blocked held (stuck i r isStuck)⟩
  obtain ⟨o', shows', ⟨guarded', outlives, blocked⟩, _⟩ := later.ledger (fun _ => True) Inv
    on (fun _ _ => trivial) kept shows
    ⟨guarded, .refl _, fun _ _ stuck => guarded.blocked shows stuck⟩
  rw [shows.ledger_reversals, shows'.ledger_reversals] at outlives
  refine ⟨?_, ?_, ?_, ?_⟩
  · have atMostOne := guarded.exclusive.length_le
    rw [shows.ledger_reversals] at atMostOne
    exact atMostOne
  · intro k row found succeeded
    exact outlives k row found (by simp [succeeded])
  · have once := guarded.sent.once
    rw [shows.ledger_exchanges] at once
    exact once
  · intro i failed
    obtain ⟨r, stuck⟩ := guarded.stuck shows failed
    have holds := blocked i r stuck
    have awaits : ((o'.ledger id).phase i).open? = some r := by
      rw [holds.stuck]
      rfl
    obtain ⟨owns, row, inRows, named, isNew, _⟩ := guarded'.exclusive.awaits i r awaits
    rw [shows'.ledger_reversals] at inRows
    exact ⟨⟨row, inRows, named ▸ owns, isNew⟩, fun j waits => holds.nothing shows' waits⟩

namespace Sample

def reversals (second : Bool) : Request :=
  .reverse "psp" (.ofId (.ofNat (if second then 3 else 2)) (.ofNat 1) (.ofSeconds 0))

def timedOut : Traffic reversals :=
  (Traffic.start reversals stores).play processor
    (.start false :: List.replicate 7 (.answer false) ++
      [.exchange false ⟨none, none⟩ (.error .deadlineExceeded)])

def retried : Traffic reversals :=
  timedOut.play processor (.start true :: List.replicate 6 (.answer true))

end Sample

theorem reversals_are_exclusive_timeout :
    (∃ row ∈ Sample.retried.stores.reversals.ofAuthorization (.ofNat 1), row.status = .new) ∧
      ∀ x ∈ Sample.retried.exchanges, x.request ≠ true := by
  have distinct : DistinctIds Request.reversalId? Sample.reversals := by
    intro i j reversalId isLeft isRight
    cases i <;> cases j <;> first | rfl | exact absurd (isLeft.trans isRight.symm) (by decide)
  obtain ⟨_, _, _, failed⟩ := reversals_are_exclusive Sample.processor Sample.stores (.ofNat 1)
    (by decide) distinct (fun second => by cases second <;> rfl) Sample.timedOut Sample.retried
    (Traffic.play_reaches _ _ _ _ fun _ _ => trivial)
    (Traffic.play_reaches _ _ _ _ fun _ _ => trivial)
  obtain ⟨⟨row, stored, _, isNew⟩, late⟩ := failed false (Or.inl ⟨.deadlineExceeded, rfl⟩)
  exact ⟨⟨row, stored, isNew⟩, (late true rfl).1⟩

end CardPayments
