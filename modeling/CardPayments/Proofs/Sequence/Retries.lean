import CardPayments.Proofs.Sequence.Basic
import CardPayments.Proofs.Store.Images

/-! # Reversals that are tried again

One request to reverse after another, on networks that answer as they like.  A request stores a row
of its own, and only while all rows of the authorization have failed; but what comes of it is kept
in the first row with the id of the reversal.  A reversal with a new id finds its own row there.
One with the id of an earlier row changes that one, and leaves its own row as new. -/
set_option autoImplicit false

namespace CardPayments

variable {τ : Type}

/-! ## The worlds of a run -/

namespace Flow

variable {σ α : Type}

/-- The worlds a request goes through, from the one it finds to the one it leaves. -/
def worlds (n : Networks τ) (w : World τ) : Flow σ α → List (World τ)
  | .finish .. => [w]
  | .ask _ call next =>
      let answered := w.stores.answer call
      w :: (next answered.1).worlds n { w with stores := answered.2 }
  | .send _ scheme m next =>
      let exchanged := n.exchange w.line scheme m
      w :: (next exchanged.1 exchanged.2.1).worlds n { w with line := exchanged.2.2 }

/-- What holds of the stores throughout a run, and of what it comes to. -/
structure Passes (n : Networks τ) (w : World τ) (through : Stores → Prop)
    (ends : σ → Except PaymentError α → Stores → Prop) (flow : Flow σ α) : Prop where
  through : ∀ v ∈ flow.worlds n w, through v.stores
  ends : ends (flow.settle n w).1.1 (flow.settle n w).1.2 (flow.settle n w).2.stores

variable {n : Networks τ} {w : World τ} {through : Stores → Prop}
  {ends : σ → Except PaymentError α → Stores → Prop}

theorem passes_finish {held : σ} {answer : Except PaymentError α} (here : through w.stores)
    (done : ends held answer w.stores) : (Flow.finish held answer).Passes n w through ends :=
  ⟨List.forall_mem_singleton.mpr here, done⟩

theorem passes_ask {held : σ} {call : Call} {next : Except PaymentError call.Value → Flow σ α}
    (here : through w.stores)
    (rest : (next (w.stores.answer call).1).Passes n { w with stores := (w.stores.answer call).2 }
      through ends) : (Flow.ask held call next).Passes n w through ends :=
  ⟨List.forall_mem_cons.mpr ⟨here, rest.through⟩, rest.ends⟩

theorem passes_send {held : Attached → σ} {scheme : Scheme} {m : Message}
    {next : Attached → Except PaymentError Unit → Flow σ α} (here : through w.stores)
    (rest : (next (n.exchange w.line scheme m).1 (n.exchange w.line scheme m).2.1).Passes n
      { w with line := (n.exchange w.line scheme m).2.2 } through ends) :
    (Flow.send held scheme m next).Passes n w through ends :=
  ⟨List.forall_mem_cons.mpr ⟨here, rest.through⟩, rest.ends⟩

theorem passes_require {held : σ} {step : String} {call : Call} {next : call.Value → Flow σ α}
    (here : through w.stores)
    (refused : ∀ e, (w.stores.answer call).1 = .error e →
      through (w.stores.answer call).2 ∧
        ends held (.error (e.within step)) (w.stores.answer call).2)
    (granted : ∀ value, (w.stores.answer call).1 = .ok value →
      (next value).Passes n { w with stores := (w.stores.answer call).2 } through ends) :
    (require held step call next).Passes n w through ends := by
  refine passes_ask here ?_
  cases answer : (w.stores.answer call).1 with
  | ok value => exact granted value answer
  | error e => exact passes_finish (refused e answer).1 (refused e answer).2

theorem passes_dispatch {p : Processor} {held : Attached → σ} {scheme : Scheme} {m : Message}
    {next : Attached → Except PaymentError Unit → Flow σ α} (here : through w.stores)
    (rest : ∀ line attached outcome,
      (next attached outcome).Passes n { w with line := line } through ends) :
    (p.dispatch held scheme m next).Passes n w through ends := by
  rw [Processor.dispatch]
  split
  · refine passes_send here ?_
    cases (n.exchange w.line scheme m).2.1 with
    | error e => exact rest _ _ _
    | ok _ => exact rest _ _ _
  · exact rest w.line _ _

theorem ReadsUntil.passes {last : Flow σ α → Prop} {flow : Flow σ α}
    (reads : flow.ReadsUntil last) (here : through w.stores)
    (failed : ∀ held e, ends held (.error e) w.stores)
    (after : ∀ flow, last flow → flow.Passes n w through ends) :
    flow.Passes n w through ends := by
  induction flow with
  | finish held answer =>
      rcases reads with isLast | ⟨e, rfl⟩
      · exact after _ isLast
      · exact passes_finish here (failed held e)
  | ask held call next ih =>
      rcases reads with isLast | ⟨isRead, rest⟩
      · exact after _ isLast
      · refine passes_ask here ?_
        rw [w.stores.answer_read call isRead]
        exact ih _ (rest _)
  | send held scheme m next ih => exact after _ reads

end Flow

/-! ## What is kept of a reversal -/

theorem Table.changeFirst_congr {α : Type} {isMatch isMatch' : α → Bool} {change : α → α}
    {rows : List α} (same : ∀ row ∈ rows, isMatch row = isMatch' row) :
    changeFirst isMatch change rows = changeFirst isMatch' change rows := by
  induction rows with
  | nil => rfl
  | cons row rest ih =>
      obtain ⟨first, others⟩ := List.forall_mem_cons.mp same
      rw [changeFirst, changeFirst, first, ih others]

def Reversal.copyTo (held row : Reversal) : Reversal :=
  { row with status := held.status, response := held.response }

/-- Status and response are copied to the first row with the id of the reversal. -/
def Reversal.Kept (held : Reversal) (before after : List Reversal) : Prop :=
  Table.changeFirst (fun row => row.id = held.id) held.copyTo before = some after

theorem ReversalStore.update_kept {s t : ReversalStore} {r : Reversal} (done : s.update r = .ok t) :
    r.Kept (s.ofAuthorization r.authorizationId) (t.ofAuthorization r.authorizationId) := by
  rw [update] at done
  split at done
  · next rows changed =>
      cases done
      let isKept (row : Reversal) : Bool := row.authorizationId = r.authorizationId
      have kept (row : Reversal) (found : decide (row.authorizationId = r.authorizationId ∧
          row.id = r.id) = true) : isKept row = true :=
        decide_eq_true (of_decide_eq_true found).1
      have ofRows := Table.changeFirst_filter r.copyTo kept (fun row => kept row) s.rows
      rw [Reversal.Kept, ofAuthorization, ofAuthorization]
      refine (Table.changeFirst_congr fun row member => ?_).trans
        (ofRows.trans (congrArg (Option.map _) changed))
      have own := of_decide_eq_true (List.mem_filter.mp member).2
      simp [own]
  · cases done

theorem ReversalStatus.ofResponse_ne_new (response : Option SchemeResponse) :
    ofResponse response ≠ .new := by
  rw [ofResponse.eq_def]
  split
  · split <;> decide
  · decide

/-- What a request to reverse has made of the rows of its authorization. -/
inductive Reversal.Stage (r : Reversal) (before : List Reversal) : List Reversal → Prop
  | idle : Stage r before before
  | stored (row : Reversal) (free : ∀ other ∈ before, other.status = .failed)
      (own : row.id = r.id) (fresh : row.status = .new) : Stage r before (before ++ [row])
  | kept (row held : Reversal) (after : List Reversal)
      (free : ∀ other ∈ before, other.status = .failed) (own : row.id = r.id)
      (fresh : row.status = .new) (named : held.id = r.id) (decided : held.status ≠ .new)
      (kept : held.Kept (before ++ [row]) after) : Stage r before after

/-- What a request to reverse that was answered with a success has made of the rows. -/
structure Reversal.Entered (r held : Reversal) (before after : List Reversal) : Prop where
  free : ∀ row ∈ before, row.status = .failed
  named : held.id = r.id
  settled : held.status = .ofResponse held.response
  kept : held.Kept (before ++ [{ held.row with status := .new, response := r.response }]) after

namespace Stores

structure Tried (r : Reversal) (s t : Stores) : Prop where
  stage : r.Stage (s.reversals.ofAuthorization r.authorizationId)
    (t.reversals.ofAuthorization r.authorizationId)
  others : ∀ id, r.authorizationId ≠ id →
    t.reversals.ofAuthorization id = s.reversals.ofAuthorization id

structure Filed (r x : Reversal) (s t : Stores) : Prop where
  named : x.id = r.id
  account : x.authorizationId = r.authorizationId
  fresh : x.status = .new
  unanswered : x.response = r.response
  free : ∀ row ∈ s.reversals.ofAuthorization r.authorizationId, row.status = .failed
  rows : t.reversals.ofAuthorization r.authorizationId =
    s.reversals.ofAuthorization r.authorizationId ++ [x.row]
  others : ∀ id, r.authorizationId ≠ id →
    t.reversals.ofAuthorization id = s.reversals.ofAuthorization id

variable {r x : Reversal} {s t u : Stores}

theorem Tried.refl (r : Reversal) (s : Stores) : Tried r s s := ⟨.idle, fun _ _ => rfl⟩

theorem Filed.tried (filed : Filed r x s t) : Tried r s t := by
  refine ⟨?_, filed.others⟩
  rw [filed.rows]
  exact .stored x.row filed.free filed.named filed.fresh

/-- A reversal is stored as it is, or nothing happens. -/
theorem createReversal_filed (account : x.authorizationId = r.authorizationId)
    (named : x.id = r.id) (fresh : x.status = .new) (unanswered : x.response = r.response) :
    Tried r s (s.answer (.createReversal x)).2 ∧
      ∀ value, (s.answer (.createReversal x)).1 = .ok value →
        Filed r x s (s.answer (.createReversal x)).2 := by
  rcases s.changed_cases (fun store => { s with reversals := store }) (s.reversals.create x)
    with ⟨e, failed⟩ | ⟨store, done, answers⟩
  · rw [answer, failed]
    exact ⟨.refl r s, by rintro _ ⟨⟩⟩
  · obtain ⟨rows, free⟩ := ReversalStore.create_ok done
    rw [account] at rows free
    rw [answer, answers]
    have filed : Filed r x s { s with reversals := store } := ⟨named, account, fresh, unanswered,
      free, rows, fun id other => ReversalStore.create_other done (account ▸ other)⟩
    exact ⟨filed.tried, fun _ _ => filed⟩

/-- What is told to the store of a reversal that was filed is kept, or the call fails. -/
theorem Filed.update (filed : Filed r x s t) (held : Reversal) (named : held.id = x.id)
    (account : held.authorizationId = x.authorizationId) (decided : held.status ≠ .new) :
    Tried r s (t.answer (.updateReversal held)).2 ∧
      ∀ value, (t.answer (.updateReversal held)).1 = .ok value →
        held.Kept (s.reversals.ofAuthorization r.authorizationId ++ [x.row])
          ((t.answer (.updateReversal held)).2.reversals.ofAuthorization r.authorizationId) := by
  rcases t.changed_cases (fun store => { t with reversals := store }) (t.reversals.update held)
    with ⟨e, failed⟩ | ⟨store, done, answers⟩
  · rw [answer, failed]
    exact ⟨filed.tried, by rintro _ ⟨⟩⟩
  · have kept := ReversalStore.update_kept done
    rw [account, filed.account, filed.rows] at kept
    rw [answer, answers]
    refine ⟨⟨.kept x.row held _ filed.free filed.named filed.fresh (named.trans filed.named) decided
      kept, fun id other => ?_⟩, fun _ _ => kept⟩
    have away : held.authorizationId ≠ id := by rwa [account, filed.account]
    exact (ReversalStore.update_other done away).trans (filed.others id other)

end Stores

/-! ## One request -/

namespace Processor

variable {p : Processor} {n : Networks τ} {w : World τ} {r x : Reversal} {s : Stores}

def Ends (r : Reversal) (s : Stores) (held : Reversal) (answer : Except PaymentError Unit)
    (t : Stores) : Prop :=
  answer = .ok () → r.Entered held (s.reversals.ofAuthorization r.authorizationId)
    (t.reversals.ofAuthorization r.authorizationId)

theorem ends_error {held : Reversal} {e : PaymentError} {t : Stores} :
    Ends r s held (.error e) t := by
  rintro ⟨⟩

theorem concludeReversal_passes (filed : Stores.Filed r x s w.stores) (attached : Attached) :
    (concludeReversal (x.attach attached)).Passes n w (Stores.Tried r s) (Ends r s) := by
  obtain ⟨tried, kept⟩ := filed.update
    { x.attach attached with status := .ofResponse (x.attach attached).response } rfl rfl
    (ReversalStatus.ofResponse_ne_new _)
  refine Flow.passes_require filed.tried (fun e _ => ⟨tried, ends_error⟩) fun value granted => ?_
  refine Flow.passes_finish tried fun _ => ⟨filed.free, filed.named, rfl, ?_⟩
  have row : { x.row with status := .new, response := r.response } = x.row := by
    rw [← filed.fresh, ← filed.unanswered]
    rfl
  have isKept := kept value granted
  rw [← row] at isKept
  exact isKept

theorem sendReversal_passes (filed : Stores.Filed r x s w.stores) :
    (p.sendReversal x).Passes n w (Stores.Tried r s) (Ends r s) := by
  rw [sendReversal, dispatchReversal]
  split
  · exact Flow.passes_finish filed.tried ends_error
  · refine Flow.passes_dispatch filed.tried fun line attached outcome => ?_
    cases outcome with
    | error e => exact Flow.passes_finish filed.tried ends_error
    | ok _ => exact concludeReversal_passes (w := { w with line := line }) filed attached

theorem withdrawReversal_passes (filed : Stores.Filed r x s w.stores) :
    (withdrawReversal x).Passes n w (Stores.Tried r s) (Ends r s) := by
  obtain ⟨tried, _⟩ := filed.update { x with status := .failed } rfl rfl nofun
  exact Flow.passes_require filed.tried (fun e _ => ⟨tried, ends_error⟩)
    fun _ _ => Flow.passes_finish tried ends_error

theorem recheckReversal_passes {seen : CaptureSummary} (filed : Stores.Filed r x s w.stores)
    (id : Uuid) : (p.recheckReversal id seen x).Passes n w (Stores.Tried r s) (Ends r s) := by
  have same := w.stores.answer_read (.captureSummary id) trivial
  refine Flow.passes_require filed.tried (fun e _ => ?_) fun current _ => ?_
  · rw [same]
    exact ⟨filed.tried, ends_error⟩
  · rw [same]
    split
    · exact sendReversal_passes filed
    · exact withdrawReversal_passes filed

theorem storeReversal_passes (a : Authorization) (summary : CaptureSummary) :
    (p.storeReversal a summary r).Passes n w (Stores.Tried r w.stores) (Ends r w.stores) := by
  have idle := Stores.Tried.refl r w.stores
  unfold storeReversal
  split
  · next amount _ =>
      obtain ⟨tried, created⟩ := Stores.createReversal_filed (s := w.stores) (r := r)
        (x := { r with amount := some amount, authorization := some a, status := .new })
        rfl rfl rfl rfl
      refine Flow.passes_require idle (fun e _ => ⟨tried, ends_error⟩) fun value granted => ?_
      exact recheckReversal_passes (w := { w with stores := _ }) (created value granted) a.id
  · split
    · exact Flow.passes_finish idle ends_error
    · exact Flow.passes_finish idle ends_error

theorem reverse_passes (psp : String) :
    (p.reverse psp r).Passes n w (Stores.Tried r w.stores) (Ends r w.stores) := by
  refine (reverse_readsUntil p psp r).passes (Stores.Tried.refl r w.stores)
    (fun _ _ => ends_error)
    fun flow isLast => ?_
  obtain ⟨a, summary, rfl⟩ := isLast
  exact storeReversal_passes a summary

end Processor

/-! ## Rows of an authorization -/

namespace Reversal

variable {r held row : Reversal} {before after : List Reversal}

def live (rows : List Reversal) : List Reversal := rows.filter fun row => row.status ≠ .failed

/-- At most one row has not failed, or one succeeded and a later one with its id is still new. -/
def Orderly (rows : List Reversal) : Prop :=
  (live rows).length ≤ 1 ∨ ∃ x y, live rows = [x, y] ∧ x.id = y.id ∧ x.status = .succeeded ∧
    y.status = .new

theorem live_append (rows more : List Reversal) : live (rows ++ more) = live rows ++ live more :=
  List.filter_append rows more

theorem live_of_failed (failed : ∀ row ∈ before, row.status = .failed) : live before = [] := by
  rw [live, List.filter_eq_nil_iff]
  intro row member
  simp [failed row member]

theorem length_live_concat (failed : ∀ row ∈ before, row.status = .failed) (row : Reversal) :
    (live (before ++ [row])).length ≤ 1 := by
  rw [live_append, live_of_failed failed, List.nil_append]
  exact List.length_filter_le _ [row]

/-- Either the row that was just stored changes, or an earlier one with its id. -/
theorem Kept.cases (kept : held.Kept (before ++ [row]) after) :
    ((∀ x ∈ before, x.id ≠ held.id) ∧ after = before ++ [held.copyTo row]) ∨
      ∃ front x back, before = front ++ x :: back ∧ x.id = held.id ∧
        after = front ++ held.copyTo x :: back ++ [row] := by
  obtain ⟨front, x, back, split, rfl, found, others⟩ := Table.changeFirst_at _ _ _ _ kept
  rcases List.eq_nil_or_concat back with rfl | ⟨back, last, rfl⟩
  · obtain ⟨rfl, same⟩ := List.append_inj' split rfl
    cases same
    exact Or.inl ⟨fun x member => of_decide_eq_false (others x member), rfl⟩
  · rw [List.concat_eq_append, ← List.cons_append, ← List.append_assoc] at split
    obtain ⟨rfl, same⟩ := List.append_inj' split rfl
    cases same
    exact Or.inr ⟨front, x, back, rfl, of_decide_eq_true found, by simp⟩

theorem Stage.orderly (stage : r.Stage before after) (orderly : Orderly before) :
    Orderly after := by
  cases stage with
  | idle => exact orderly
  | stored row free own fresh => exact Or.inl (length_live_concat free row)
  | kept row held after free own fresh named decided kept =>
      rcases kept.cases with ⟨_, rfl⟩ | ⟨front, x, back, rfl, found, rfl⟩
      · exact Or.inl (length_live_concat free _)
      · have frontFailed : live front = [] :=
          live_of_failed fun y member => free y (by simp [member])
        have backFailed : live back = [] :=
          live_of_failed fun y member => free y (by simp [member])
        have rowLive : live [row] = [row] := by simp [live, fresh]
        have split : live (front ++ held.copyTo x :: back ++ [row]) =
            live [held.copyTo x] ++ [row] := by
          change live (front ++ ([held.copyTo x] ++ back) ++ [row]) = _
          rw [live_append, live_append, live_append, frontFailed, backFailed, rowLive,
            List.nil_append, List.append_nil]
        cases outcome : held.status with
        | new => exact absurd outcome decided
        | failed =>
            have none : live [held.copyTo x] = [] := by simp [live, copyTo, outcome]
            rw [none] at split
            exact Or.inl (by rw [split]; simp)
        | succeeded =>
            have one : live [held.copyTo x] = [held.copyTo x] := by simp [live, copyTo, outcome]
            rw [one] at split
            exact Or.inr ⟨_, _, split, (found.trans named).trans own.symm, outcome, fresh⟩

/-- The ids are those before, and at most the one of the reversal behind them. -/
theorem Stage.ids (stage : r.Stage before after) :
    List.Sublist (after.map Reversal.id) (before.map Reversal.id ++ [r.id]) := by
  cases stage with
  | idle => exact List.sublist_append_left _ _
  | stored row free own fresh => simp [own]
  | kept row held after free own fresh named decided kept =>
      rcases kept.cases with ⟨_, rfl⟩ | ⟨front, x, back, rfl, found, rfl⟩
      · simp [copyTo, own]
      · simp [copyTo, own]

end Reversal

/-! ## Requests one after another -/

section

variable {α σ : Type} {p : Processor} {n : Networks τ} {w : World τ} {id : Uuid}

theorem Flow.settle_mem_worlds (flow : Flow σ α) : (flow.settle n w).2 ∈ flow.worlds n w := by
  induction flow generalizing w with
  | finish held answer => exact List.mem_singleton_self _
  | ask held call next ih => exact List.mem_cons_of_mem _ (ih _)
  | send held scheme m next ih => exact List.mem_cons_of_mem _ (ih _ _)

theorem Flow.Only.worlds {C : Call → Prop} {M : Message → Prop} {flow : Flow σ α}
    (only : flow.Only C M) (I : Stores → Prop)
    (kept : ∀ s call, C call → I s → I (s.answer call).2) (holds : I w.stores) :
    ∀ v ∈ flow.worlds n w, I v.stores := by
  induction flow generalizing w with
  | finish held answer => exact List.forall_mem_singleton.mpr holds
  | ask held call next ih =>
      exact List.forall_mem_cons.mpr
        ⟨holds, ih _ (only.2 _) (kept w.stores call only.1 holds)⟩
  | send held scheme m next ih =>
      exact List.forall_mem_cons.mpr ⟨holds, ih _ _ (only.2 _ _) holds⟩

/-- The rows of the authorization are as they were, or a reversal of it is on its way. -/
def Stores.Moved (q : Request) (id : Uuid) (s t : Stores) : Prop :=
  t.reversals.ofAuthorization id = s.reversals.ofAuthorization id ∨
    ∃ r, q.reversal? = some r ∧ r.authorizationId = id ∧
      r.Stage (s.reversals.ofAuthorization id) (t.reversals.ofAuthorization id)

theorem Request.Asks.not_writesReversals {q : Request} {call : Call} (asks : q.Asks call)
    (other : q.reversal? = none) : ¬ call.WritesReversals := by
  rcases asks with reads | writes
  · cases call <;> first | exact reads.isRead.elim | exact id
  · cases q <;> cases call <;> first | exact id | exact writes.elim | cases other

theorem Request.moved (q : Request) (id : Uuid) :
    ∀ v ∈ (q.flow p).worlds n w, Stores.Moved q id w.stores v.stores := by
  cases own : q.reversal? with
  | none =>
      refine (q.flow_only p).worlds (Stores.Moved q id w.stores) (fun s call asks moved => ?_)
        (Or.inl rfl)
      rwa [Stores.Moved, s.answer_reversals call (asks.not_writesReversals own)]
  | some r =>
      cases q with
      | reverse psp x =>
          cases own
          intro v member
          have tried := (Processor.reverse_passes (p := p) (n := n) (w := w) psp).through v member
          by_cases same : r.authorizationId = id
          · exact Or.inr ⟨r, rfl, same, same ▸ tried.stage⟩
          · exact Or.inl (tried.others id same)
      | _ => cases own

def Networks.afterAll (n : Networks τ) (p : Processor) (w : World τ) : List Request → World τ
  | [] => w
  | q :: rest => n.afterAll p ((q.flow p).settle n w).2 rest

def Networks.worldsOf (n : Networks τ) (p : Processor) (w : World τ) : List Request → List (World τ)
  | [] => [w]
  | q :: rest => (q.flow p).worlds n w ++ n.worldsOf p ((q.flow p).settle n w).2 rest

def Request.idsOn (id : Uuid) (requests : List Request) : List Uuid :=
  ((requests.filterMap Request.reversal?).filter fun r => r.authorizationId = id).map Reversal.id

theorem Stores.Moved.orderly {q : Request} {s t : Stores} (moved : Moved q id s t)
    (orderly : Reversal.Orderly (s.reversals.ofAuthorization id)) :
    Reversal.Orderly (t.reversals.ofAuthorization id) := by
  rcases moved with same | ⟨r, _, _, stage⟩
  · rwa [same]
  · exact stage.orderly orderly

theorem Stores.Moved.ids {q : Request} {s t : Stores} (moved : Moved q id s t) :
    List.Sublist ((t.reversals.ofAuthorization id).map Reversal.id)
      ((s.reversals.ofAuthorization id).map Reversal.id ++ Request.idsOn id [q]) := by
  rcases moved with same | ⟨r, own, account, stage⟩
  · rw [same]
    exact List.sublist_append_left _ _
  · have ids : Request.idsOn id [q] = [r.id] := by simp [Request.idsOn, own, account]
    rw [ids]
    exact stage.ids

theorem Networks.worldsOf_orderly {requests : List Request}
    (orderly : Reversal.Orderly (w.stores.reversals.ofAuthorization id)) :
    ∀ v ∈ n.worldsOf p w requests, Reversal.Orderly (v.stores.reversals.ofAuthorization id) := by
  induction requests generalizing w with
  | nil => exact List.forall_mem_singleton.mpr orderly
  | cons q rest ih =>
      have moved := q.moved (p := p) (n := n) (w := w) id
      exact List.forall_mem_append.mpr ⟨fun v member => (moved v member).orderly orderly,
        ih ((moved _ (q.flow p).settle_mem_worlds).orderly orderly)⟩

theorem Networks.worldsOf_ids (id : Uuid) {requests : List Request} :
    ∀ v ∈ n.worldsOf p w requests,
      List.Sublist ((v.stores.reversals.ofAuthorization id).map Reversal.id)
        ((w.stores.reversals.ofAuthorization id).map Reversal.id ++ Request.idsOn id requests) := by
  induction requests generalizing w with
  | nil => exact List.forall_mem_singleton.mpr (List.sublist_append_left _ _)
  | cons q rest ih =>
      have moved := q.moved (p := p) (n := n) (w := w) id
      have both : Request.idsOn id (q :: rest) =
          Request.idsOn id [q] ++ Request.idsOn id rest := by
        rw [Request.idsOn, ← List.singleton_append, List.filterMap_append, List.filter_append,
          List.map_append]
        rfl
      rw [both, ← List.append_assoc]
      exact List.forall_mem_append.mpr
        ⟨fun v member => (moved v member).ids.trans (List.sublist_append_left _ _),
          fun v member => (ih v member).trans
            ((moved _ (q.flow p).settle_mem_worlds).ids.append_right _)⟩

/-- The row of its own shows what the caller was told just when no earlier row has its id. -/
theorem Reversal.Entered.shown_iff {r held : Reversal} {before after : List Reversal}
    (entered : r.Entered held before after) :
    ∃ front row, after = front ++ [row] ∧ front.length = before.length ∧ row.id = r.id ∧
      (row.status = held.status ∧ row.response = held.response ↔ ∀ x ∈ before, x.id ≠ r.id) := by
  obtain ⟨free, named, settled, kept⟩ := entered
  rcases kept.cases with ⟨fresh, rfl⟩ | ⟨front, x, back, rfl, found, rfl⟩
  · refine ⟨before, _, rfl, rfl, named, ⟨fun _ => named ▸ fresh, fun _ => ⟨rfl, rfl⟩⟩⟩
  · refine ⟨front ++ held.copyTo x :: back, _, rfl, by simp, named, ?_⟩
    constructor
    · rintro ⟨status, _⟩
      exact absurd (settled ▸ status).symm (ReversalStatus.ofResponse_ne_new _)
    · intro fresh
      exact absurd (found.trans named) (fresh x (by simp))

end

/-! ## All requests -/

/-- Of an authorization without reversals, requests one after another leave at most one reversal
that has not failed, unless one with the id of an earlier row was approved: then that row succeeded,
and the row of the request is new.  A request answered with a success has added a row, and this row
shows what the caller was told just when no earlier row had its id. -/
theorem Networks.reversals_entered {p : Processor} {n : Networks τ} {w : World τ} {id : Uuid}
    (none : w.stores.reversals.ofAuthorization id = []) (requests : List Request) :
    (∀ v ∈ n.worldsOf p w requests, Reversal.Orderly (v.stores.reversals.ofAuthorization id)) ∧
    ((Request.idsOn id requests).Nodup → ∀ v ∈ n.worldsOf p w requests,
      (Reversal.live (v.stores.reversals.ofAuthorization id)).length ≤ 1) ∧
    ∀ psp r, r.authorizationId = id →
      let earlier := (n.afterAll p w requests).stores.reversals.ofAuthorization id
      let run := (p.reverse psp r).settle n (n.afterAll p w requests)
      run.1.2 = .ok () →
        r.Entered run.1.1 earlier (run.2.stores.reversals.ofAuthorization id) ∧
        ∃ front row, run.2.stores.reversals.ofAuthorization id = front ++ [row] ∧
          front.length = earlier.length ∧ row.id = r.id ∧
          (row.status = run.1.1.status ∧ row.response = run.1.1.response ↔
            ∀ x ∈ earlier, x.id ≠ r.id) := by
  have orderly : ∀ v ∈ n.worldsOf p w requests,
      Reversal.Orderly (v.stores.reversals.ofAuthorization id) :=
    n.worldsOf_orderly (Or.inl (by rw [none]; exact Nat.zero_le 1))
  refine ⟨orderly, fun apart v member => ?_, fun psp r account => ?_⟩
  · rcases orderly v member with one | ⟨x, y, two, same, _⟩
    · exact one
    · have ids := n.worldsOf_ids id v member
      rw [none, List.map_nil, List.nil_append] at ids
      have ofLive : List.Sublist [x, y] (v.stores.reversals.ofAuthorization id) :=
        two ▸ List.filter_sublist
      have distinct := apart.sublist ((ofLive.map Reversal.id).trans ids)
      simp [same] at distinct
  · intro earlier run ok
    subst account
    have entered := (Processor.reverse_passes (p := p) (n := n) (w := n.afterAll p w requests)
      (r := r) psp).ends ok
    exact ⟨entered, entered.shown_iff⟩

namespace Retries.Sample

/-- Networks that answer with the response codes of a list, and approve when it is used up. -/
def networks : Networks (List String) where
  exchange codes _ _ :=
    (⟨some ⟨⟨codes.headD "00"⟩, 1, none, .ofSeconds 0⟩, some (.visa (some "1") none)⟩, .ok (),
      codes.tail)

def processor : Processor := .ofConfig .default fun _ => true

def twenty : Amount := ⟨{ Decimal.zero with coefficient := 20, fits := by decide }, by decide⟩

def authorize : Request :=
  .authorize (.intake (.ofNat 1) "psp" "shop" twenty ⟨"SEK", by decide⟩
    (.ofPan ⟨"4111111111111111"⟩ .visa) .none (.ofSeconds 0))

def reversal (id : Nat) : Reversal := .ofId (.ofNat id) (.ofNat 1) (.ofSeconds 0)

/-- The first reversal is declined. -/
def start : World (List String) := ⟨.empty, ["00", "05"]⟩

def declined : (Reversal × Except PaymentError Unit) × World (List String) :=
  (processor.reverse "psp" (reversal 2)).settle networks
    (networks.afterAll processor start [authorize])

def anew : (Reversal × Except PaymentError Unit) × World (List String) :=
  (processor.reverse "psp" (reversal 3)).settle networks declined.2

/-- The declined reversal, as it was left. -/
def again : (Reversal × Except PaymentError Unit) × World (List String) :=
  (processor.reverse "psp" declined.1.1).settle networks declined.2

end Retries.Sample

open Retries.Sample in
/-- A new reversal after one that was declined. -/
theorem new_reversal_shown :
    (∀ v ∈ networks.worldsOf processor start [authorize, .reverse "psp" (reversal 2)],
      (Reversal.live (v.stores.reversals.ofAuthorization (.ofNat 1))).length ≤ 1) ∧
    ∃ front row, anew.2.stores.reversals.ofAuthorization (.ofNat 1) = front ++ [row] ∧
      row.status = .succeeded ∧ row.response = anew.1.1.response := by
  have unreversed : start.stores.reversals.ofAuthorization (.ofNat 1) = [] := rfl
  obtain ⟨_, once, entered⟩ := networks.reversals_entered (p := processor) unreversed
    [authorize, .reverse "psp" (reversal 2)]
  have ok : anew.1.2 = .ok () := rfl
  have succeeded : anew.1.1.status = .succeeded := by decide +kernel
  obtain ⟨_, front, row, rows, _, _, shown⟩ := entered "psp" (reversal 3) rfl ok
  obtain ⟨status, response⟩ := shown.mpr (by decide +kernel)
  exact ⟨once (by decide +kernel), front, row, rows, status.trans succeeded, response⟩

open Retries.Sample in
/-- The reversal that was declined succeeds when it is passed again: its first row says so, and the
row that was added then is still new. -/
theorem declined_reversal_repeated :
    declined.1.2.isOk = true ∧ declined.1.1.status = .failed ∧
      again.1.2.isOk = true ∧ again.1.1.status = .succeeded ∧
      (again.2.stores.reversals.ofAuthorization (.ofNat 1)).map
        (fun row => (row.id, row.status)) = [(.ofNat 2, .succeeded), (.ofNat 2, .new)] := by
  decide +kernel

end CardPayments
