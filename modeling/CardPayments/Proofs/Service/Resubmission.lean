import CardPayments.Proofs.Service.Backing
import CardPayments.Proofs.Service.Messages
import CardPayments.Proofs.Service.Refusals

/-! # Requests that are submitted again

What a request that was answered with a retryable error left behind, and what submitting it again
can do.  No message about its transaction is sent twice.  A capture, however, is stored before it
is published: when the publisher fails it stays, and nothing tells the same capture apart from
another one, so that every attempt can store it once more. -/
set_option autoImplicit false

namespace CardPayments

/-! ## Reversals -/

def reversed (sent : List Message) (id : Uuid) : Nat :=
  sent.countP fun m => m.reverses? = some id

/-- The reversal is stored as failed, with an answer that is no approval. -/
def Stores.Unapproved (s : Stores) (r : Reversal) : Prop :=
  ∃ row ∈ s.reversals.ofAuthorization r.authorizationId,
    row.id = r.id ∧ row.status = .failed ∧ ReversalStatus.ofResponse row.response = .failed

/-- A reversal that was sent still stands, unless the network did not approve it. -/
def Stores.Settles (s : Stores) (r : Reversal) : Prop :=
  s.reversals.pending r.authorizationId = true ∨ s.Unapproved r

/-- Nothing was sent, or one reversal that is settled. -/
def Undertaken (r : Reversal) (ending : Ending Unit) : Prop :=
  ending.sent = [] ∨
    ∃ x, ending.sent = [.reverse x] ∧ x.id = r.id ∧ x.authorizationId = r.authorizationId ∧
      ending.stores.Settles x

section

variable {p : Processor} {s : Stores} {r : Reversal}

theorem updateReversal_settles (pending : s.reversals.pending r.authorizationId = true)
    (effect : Bool) :
    (s.touched (.updateReversal { r with status := .ofResponse r.response }) effect).Settles r := by
  cases effect with
  | false => exact Or.inl pending
  | true =>
      simp only [Stores.touched, if_true, Stores.answer]
      rcases s.changed_cases (fun store => { s with reversals := store })
        (s.reversals.update { r with status := .ofResponse r.response })
        with ⟨e, failed⟩ | ⟨store, done, answers⟩
      · rw [failed]
        exact Or.inl pending
      · rw [answers]
        cases stands : store.pending r.authorizationId with
        | true => exact Or.inl stands
        | false =>
            obtain ⟨front, row, back, _, splitAfter, named⟩ := ReversalStore.update_ok done
            have member : { row with status := .ofResponse r.response, response := r.response } ∈
                store.ofAuthorization r.authorizationId := by
              rw [splitAfter]
              simp
            have failed := ReversalStore.pending_eq_false stands _ member
            exact Or.inr ⟨_, member, named.2, failed, failed⟩

theorem concludeReversal_settles (pending : s.reversals.pending r.authorizationId = true) :
    (Processor.concludeReversal r).Assures Call.publishes s fun ending =>
      ending.sent = [] ∧ ending.stores.Settles r := by
  have settles := updateReversal_settles pending
  exact Flow.assures_require (fun effect => ⟨rfl, settles effect⟩) nofun
    (fun _ _ => ⟨rfl, settles true⟩) fun _ _ => Flow.assures_finish ⟨rfl, settles true⟩

theorem sendReversal_undertaken (pending : s.reversals.pending r.authorizationId = true) :
    (p.sendReversal r).Assures Call.publishes s (Undertaken r) := by
  rw [Processor.sendReversal, Processor.dispatchReversal]
  split
  · exact Flow.assures_finish (Or.inl rfl)
  · refine Flow.assures_dispatch (Or.inl rfl) (Or.inr ⟨r, rfl, rfl, rfl, Or.inl pending⟩)
      (fun attached outcome => ?_) fun e => Flow.assures_finish (Or.inl rfl)
    cases outcome with
    | error e => exact Flow.assures_finish (Or.inr ⟨r, rfl, rfl, rfl, Or.inl pending⟩)
    | ok _ =>
        refine (concludeReversal_settles (r := r.attach attached) pending).mono
          fun ending concluded => ?_
        obtain ⟨silent, settles⟩ := concluded
        exact Or.inr ⟨r, by rw [Ending.after, silent], rfl, rfl, settles⟩

theorem storeReversal_undertaken (a : Authorization) (summary : CaptureSummary) :
    (p.storeReversal a summary r).Assures Call.publishes s (Undertaken r) := by
  unfold Processor.storeReversal
  split
  · next amount _ =>
      refine Flow.assures_require (fun _ => Or.inl rfl) nofun (fun _ _ => Or.inl rfl)
        fun _ granted => ?_
      have pending := s.createReversal_pending granted rfl
      generalize (s.answer (.createReversal _)).2 = t at pending ⊢
      refine Flow.assures_read trivial rfl (Or.inl rfl) (fun _ _ => Or.inl rfl)
        fun current _ => ?_
      split
      · exact sendReversal_undertaken pending
      · have silent : (Processor.withdrawReversal { r with
            amount := some amount, authorization := some a, status := .new }).Only
            (fun _ => True) fun _ => False :=
          Flow.only_require trivial fun _ => trivial
        exact silent.silent.mono fun ending none => Or.inl none
  · split
    · exact Flow.assures_finish (Or.inl rfl)
    · exact Flow.assures_finish (Or.inl rfl)

theorem reverse_undertaken (psp : String) :
    (p.reverse psp r).Assures Call.publishes s (Undertaken r) :=
  reverse_assures psp (fun _ idle => Or.inl idle.2) storeReversal_undertaken

end

/-- A request that reverses the authorization sends one message. -/
theorem Visit.undertaken {p : Processor} {s : Stores} {visit : Visit}
    {ending : Ending visit.request.Answer} {id : Uuid}
    (served : visit.ending? Call.publishes p s = some ending)
    (reverses : reversed ending.sent id ≠ 0) :
    ∃ x, ending.sent = [.reverse x] ∧ x.authorizationId = id ∧ ending.stores.Settles x := by
  obtain ⟨m, member, names⟩ : ∃ m ∈ ending.sent, m.reverses? = some id := by
    simpa [reversed, List.countP_eq_zero] using reverses
  have sends := (((visit.request.flow_only p).assures (fun _ => True)
    (fun _ _ _ _ => trivial) trivial) visit.fates ending served).2 m member
  have own := sends.reverses? names
  obtain ⟨q, fates⟩ := visit
  cases q with
  | reverse psp r =>
      rcases reverse_undertaken psp fates ending served with silent | ⟨x, sent, _, account, settles⟩
      · rw [silent] at member
        cases member
      · exact ⟨x, sent, account.trans (Option.some.inj own), settles⟩
  | _ => cases own

/-- A second message reverses the authorization only after the network did not approve a first
one. -/
theorem Visit.all_reverses_once {p : Processor} {s t : Stores} {visits : List Visit}
    {sent : List Message} (id : Uuid)
    (served : Visit.all Call.publishes p s visits = some (t, sent)) :
    reversed sent id ≤ 1 ∨ ∃ before after u earlier, visits = before ++ after ∧
      Visit.all Call.publishes p s before = some (u, earlier) ∧
      ∃ x, .reverse x ∈ earlier ∧ x.authorizationId = id ∧ u.Unapproved x := by
  induction visits generalizing s sent with
  | nil =>
      simp only [Visit.all, Option.some.injEq, Prod.mk.injEq] at served
      rw [← served.2]
      exact Or.inl (Nat.zero_le 1)
  | cons visit rest ih =>
      obtain ⟨ending, later, first, others, rfl⟩ := Visit.all_cons served
      have both : reversed (ending.sent ++ later) id =
          reversed ending.sent id + reversed later id := List.countP_append ..
      -- the first visit that sends decides: its reversal stands and nothing follows, or it does not
      by_cases silent : reversed ending.sent id = 0
      · rcases ih others with once | ⟨before, after, u, earlier, split, run, x, member, unapproved⟩
        · exact Or.inl (by omega)
        · refine Or.inr ⟨visit :: before, after, u, ending.sent ++ earlier, ?_, ?_, x,
            List.mem_append_right _ member, unapproved⟩
          · rw [split, List.cons_append]
          · rw [Visit.all, first]
            simp only [run]
      · obtain ⟨x, sent, rfl, stands | unapproved⟩ := Visit.undertaken first silent
        · have none : reversed later x.authorizationId = 0 := by
            rw [reversed, List.countP_eq_zero]
            intro m member names
            exact Visit.all_keep_pending stands others m member (of_decide_eq_true names)
          have one : reversed ending.sent x.authorizationId = 1 := by
            rw [sent]
            simp [reversed, Message.reverses?]
          exact Or.inl (by omega)
        · refine Or.inr ⟨[visit], rest, ending.stores, ending.sent, rfl, ?_, x, ?_, rfl,
            unapproved⟩
          · rw [Visit.all, first]
            simp only [Visit.all, List.append_nil]
          · rw [sent]
            exact List.mem_singleton_self _

/-! ## Captures -/

/-- Stores the capture of a request, marked as final or not. -/
def Request.adds? : Request → Option (Bool → CaptureStore → CaptureStore)
  | .capture _ c => some fun isFinal store =>
      { store with captures := store.captures ++ [{ c with isFinal := isFinal }] }
  | .captureRefund _ c => some fun isFinal store =>
      { store with refundCaptures := store.refundCaptures ++ [{ c with isFinal := isFinal }] }
  | _ => none

/-- Nothing was stored, and only the deadline asks to try again; or one capture was stored. -/
def Attempted {α : Type} (add : Bool → CaptureStore → CaptureStore) (s : Stores)
    (ending : Ending α) : Prop :=
  (ending.stores.captures = s.captures ∧
      ∃ e, ending.answer = .error e ∧ (e.isRetryable = true → e = .deadlineExceeded)) ∨
    ∃ isFinal, ending.stores.captures = add isFinal s.captures

/-- Changes nothing, or only the captures to `store`. -/
def Stores.Captures (s : Stores) (call : Call) (store : CaptureStore) : Prop :=
  (∃ e, s.answer call = (.error e, s)) ∨
    ∃ value, s.answer call = (.ok value, { s with captures := store })

section

variable {p : Processor} {s : Stores} {α : Type} {add : Bool → CaptureStore → CaptureStore}

namespace Stores

theorem createCapture_captures (s : Stores) (c : Capture) (seen : CaptureSummary) :
    s.Captures (.createCapture c seen)
      { s.captures with captures := s.captures.captures ++ [c] } := by
  rcases s.changed_cases (fun store => { s with captures := store }) (s.captures.create c seen)
    with ⟨e, failed⟩ | ⟨store, done, answers⟩
  · exact Or.inl ⟨e, failed⟩
  · rw [CaptureStore.create] at done
    split at done
    · cases done
    · split at done
      · cases done
        exact Or.inr ⟨(), answers⟩
      · cases done

theorem createRefundCapture_captures (s : Stores) (c : RefundCapture) (seen : CaptureSummary) :
    s.Captures (.createRefundCapture c seen)
      { s.captures with refundCaptures := s.captures.refundCaptures ++ [c] } := by
  rcases s.changed_cases (fun store => { s with captures := store })
    (s.captures.createForRefund c seen) with ⟨e, failed⟩ | ⟨store, done, answers⟩
  · exact Or.inl ⟨e, failed⟩
  · rw [CaptureStore.createForRefund] at done
    split at done
    · cases done
    · split at done
      · cases done
        exact Or.inr ⟨(), answers⟩
      · cases done

end Stores

theorem Attempted.refused {e : PaymentError} (final : e.isRetryable = false) :
    Attempted (α := α) add s ⟨.error e, s, []⟩ :=
  Or.inl ⟨rfl, e, rfl, fun retryable => by rw [final] at retryable; cases retryable⟩

theorem Attempted.expired : Attempted (α := α) add s (.expired s []) :=
  Or.inl ⟨rfl, _, rfl, fun _ => rfl⟩

theorem fail_attempted {step : String} {e : PaymentError} (final : e.isRetryable = false) :
    (Flow.fail (α := α) () step e).Assures Call.publishes s (Attempted add s) :=
  Flow.assures_finish (.refused ((e.isRetryable_within step).trans final))

theorem read_attempted {step : String} {call : Call} {next : call.Value → Flow Unit α}
    (reads : call.IsRead) (steady : call.publishes = false)
    (granted : ∀ value, (s.answer call).1 = .ok value →
      (next value).Assures Call.publishes s (Attempted add s)) :
    (Flow.require () step call next).Assures Call.publishes s (Attempted add s) :=
  Flow.assures_read reads steady .expired
    (fun e refused => .refused ((e.isRetryable_within step).trans (Stores.answer_final refused)))
    granted

/-- An insert stores the capture, or leaves the stores to another attempt. -/
theorem insert_attempted {call : Call} {next : Except PaymentError call.Value → Flow Unit α}
    {isFinal : Bool} (steady : call.publishes = false)
    (captures : s.Captures call (add isFinal s.captures))
    (stored : ∀ value, (next (.ok value)).Assures Call.publishes
      { s with captures := add isFinal s.captures }
      fun ending => ending.stores.captures = add isFinal s.captures)
    (again : ∀ e, e.isRetryable = false →
      (next (.error e)).Assures Call.publishes s (Attempted add s)) :
    (Flow.ask () call next).Assures Call.publishes s (Attempted add s) := by
  refine Flow.assures_ask (fun effect => ?_) (fun fails => ?_) ?_
  · cases effect with
    | false => exact .expired
    | true =>
        rcases captures with ⟨e, answers⟩ | ⟨value, answers⟩
        · simp only [Stores.touched, if_true, answers]
          exact .expired
        · simp only [Stores.touched, if_true, answers]
          exact Or.inr ⟨isFinal, rfl⟩
  · -- only the publisher fails
    rw [steady] at fails
    cases fails
  · rcases captures with ⟨e, answers⟩ | ⟨value, answers⟩
    · rw [answers]
      exact again e (Stores.answer_final (congrArg Prod.fst answers))
    · rw [answers]
      exact (stored value).mono fun ending kept => Or.inr ⟨isFinal, kept⟩

theorem publish_keeps {step topic payload : String} {answer : Except PaymentError α} :
    (Flow.require () step (.publish topic payload) fun _ => .finish () answer).Assures
      Call.publishes s fun ending => ending.stores.captures = s.captures := by
  have only : (Flow.require () step (.publish topic payload) fun _ => .finish () answer).Only
      (fun call => ¬ call.WritesCaptures) fun _ => False :=
    Flow.only_require id fun _ => trivial
  refine (only.assures (fun t => t.captures = s.captures) (fun t call other kept => ?_) rfl).mono
    fun ending held => held.1
  rw [t.answer_captures call other, kept]

/-- Nobody else stores a reversal in between, so that the capture is not withdrawn. -/
theorem recheckCapture_keeps (a : Authorization) (c : Capture)
    (unreversed : s.reversals.pending a.id = false) :
    (p.recheckCapture a c).Assures Call.publishes s
      fun ending => ending.stores.captures = s.captures := by
  refine Flow.assures_ask (fun effect => ?_) nofun ?_
  · exact congrArg Stores.captures (s.touched_read (.reversalExists a.id) trivial effect)
  · rw [show s.answer (.reversalExists a.id) = (.ok (s.reversals.pending a.id), s) from rfl,
      unreversed]
    exact publish_keeps

theorem attemptCapture_attempted (a : Authorization) (c : Capture)
    {again : PaymentError → Flow Unit Capture} {psp : String}
    (adds : (Request.capture psp c).adds? = some add)
    (retries : ∀ e, e.isRetryable = false →
      (again e).Assures Call.publishes s (Attempted add s)) :
    (p.attemptCapture a c again).Assures Call.publishes s (Attempted add s) := by
  refine read_attempted trivial rfl fun summary _ => ?_
  split
  · next e excess =>
      exact fail_attempted (CaptureSummary.checkCapturable_final excess)
  · split
    · next e overflow =>
        exact fail_attempted (CaptureSummary.becomesFinal_final overflow)
    · next isFinal _ =>
        refine read_attempted trivial rfl fun reversed found => ?_
        split
        · exact Flow.assures_finish (.refused rfl)
        · next unreversed =>
            have pending : s.reversals.pending a.id = reversed := Except.ok.inj found
            cases adds
            refine insert_attempted rfl (s.createCapture_captures _ _)
              (fun _ => recheckCapture_keeps a _ ?_) fun e final => ?_
            · exact pending.trans (Bool.eq_false_iff.mpr unreversed)
            · dsimp only
              split
              · exact retries e final
              · exact fail_attempted final

theorem attemptsCapture_attempted (a : Authorization) (c : Capture) {psp : String}
    (adds : (Request.capture psp c).adds? = some add) (retries : Nat) :
    (p.attemptsCapture a c retries).Assures Call.publishes s (Attempted add s) := by
  induction retries with
  | zero =>
      exact attemptCapture_attempted a c adds fun _ => fail_attempted
  | succ retries ih => exact attemptCapture_attempted a c adds fun _ _ => ih

theorem attemptRefundCapture_attempted (r : Refund) (c : RefundCapture)
    {again : PaymentError → Flow Unit RefundCapture} {psp : String}
    (adds : (Request.captureRefund psp c).adds? = some add)
    (retries : ∀ e, e.isRetryable = false →
      (again e).Assures Call.publishes s (Attempted add s)) :
    (p.attemptRefundCapture r c again).Assures Call.publishes s (Attempted add s) := by
  refine read_attempted trivial rfl fun summary _ => ?_
  split
  · next e excess =>
      exact fail_attempted (CaptureSummary.checkCapturable_final excess)
  · split
    · next e overflow =>
        exact fail_attempted (CaptureSummary.becomesFinal_final overflow)
    · cases adds
      refine insert_attempted rfl (s.createRefundCapture_captures _ _)
        (fun _ => publish_keeps) fun e final => ?_
      dsimp only
      split
      · exact retries e final
      · exact fail_attempted final

theorem attemptsRefundCapture_attempted (r : Refund) (c : RefundCapture) {psp : String}
    (adds : (Request.captureRefund psp c).adds? = some add) (retries : Nat) :
    (p.attemptsRefundCapture r c retries).Assures Call.publishes s (Attempted add s) := by
  induction retries with
  | zero =>
      exact attemptRefundCapture_attempted r c adds fun _ => fail_attempted
  | succ retries ih => exact attemptRefundCapture_attempted r c adds fun _ _ => ih

theorem Request.attempted {q : Request} (adds : q.adds? = some add) :
    (q.flow p).Assures Call.publishes s (Attempted add s) := by
  cases q with
  | capture psp c =>
      refine read_attempted trivial rfl fun a _ => ?_
      split
      · exact Flow.assures_finish (.refused rfl)
      · exact attemptsCapture_attempted a c adds _
  | captureRefund psp c =>
      refine read_attempted trivial rfl fun r _ => ?_
      split
      · exact Flow.assures_finish (.refused rfl)
      · exact attemptsRefundCapture_attempted r c adds _
  | _ => cases adds

theorem Request.adds_nothing {q : Request} (none : q.adds? = none) :
    (q.flow p).Assures Call.publishes s fun ending => ending.stores.captures = s.captures := by
  refine ((q.flow_only p).assures (fun t => t.captures = s.captures) (fun t call asks kept => ?_)
    rfl).mono fun ending held => held.1
  refine (t.answer_captures call fun writes => ?_).trans kept
  rcases asks with reads | own
  · have isRead := reads.isRead
    cases call <;> first | exact isRead | exact writes
  · cases q with
    | capture psp c => cases none
    | captureRefund psp c => cases none
    | _ => cases call <;> first | exact own | exact writes

end

/-- Every attempt of a capture stores it at most once. -/
theorem Visit.all_adds {p : Processor} {add : Bool → CaptureStore → CaptureStore} {s t : Stores}
    {visits : List Visit} {sent : List Message}
    (own : ∀ visit ∈ visits, visit.request.adds? = some add)
    (served : Visit.all Call.publishes p s visits = some (t, sent)) :
    ∃ flags : List Bool, flags.length ≤ visits.length ∧
      t.captures = flags.foldl (fun store isFinal => add isFinal store) s.captures := by
  induction visits generalizing s sent with
  | nil =>
      simp only [Visit.all, Option.some.injEq, Prod.mk.injEq] at served
      exact ⟨[], Nat.le_refl 0, by rw [served.1]; rfl⟩
  | cons visit rest ih =>
      obtain ⟨ending, later, first, others, _⟩ := Visit.all_cons served
      obtain ⟨flags, few, captures⟩ := ih (List.forall_mem_cons.mp own).2 others
      rcases visit.request.attempted (own visit List.mem_cons_self) visit.fates ending first
        with ⟨same, _⟩ | ⟨isFinal, stored⟩
      · exact ⟨flags, Nat.le_succ_of_le few, same ▸ captures⟩
      · exact ⟨isFinal :: flags, Nat.succ_le_succ few, by rw [captures, stored]; rfl⟩

theorem Visit.all_adds_nothing {p : Processor} {s t : Stores} {visits : List Visit}
    {sent : List Message} (others : ∀ visit ∈ visits, visit.request.adds? = none)
    (served : Visit.all Call.publishes p s visits = some (t, sent)) :
    t.captures = s.captures := by
  induction visits generalizing s sent with
  | nil =>
      simp only [Visit.all, Option.some.injEq, Prod.mk.injEq] at served
      rw [served.1]
  | cons visit rest ih =>
      obtain ⟨ending, later, first, rest, _⟩ := Visit.all_cons served
      have none := others visit List.mem_cons_self
      rw [ih (List.forall_mem_cons.mp others).2 rest,
        visit.request.adds_nothing none visit.fates ending first]

/-- What another attempt can do after a request was answered with an error that asks for one.  No
authorization or refund is asked for twice, and a reversal is sent a second time only after its
network did not approve it.  Requests for other things count no capture; a capture counts once for
every attempt that stored it, the failed ones included. -/
theorem retries_repeat_captures_only (p : Processor) (s : Stores) (first : Visit)
    (ending : Ending first.request.Answer) (e : PaymentError) (later : List Visit) (t : Stores)
    (sent : List Message) (served : first.ending? Call.publishes p s = some ending)
    (failed : ending.answer = .error e) (retryable : e.isRetryable = true)
    (again : Visit.all Call.publishes p ending.stores later = some (t, sent)) :
    (∀ key, asked (ending.sent ++ sent) key ≤ 1) ∧
    (∀ id, reversed (ending.sent ++ sent) id ≤ 1 ∨
      ∃ before after u earlier, first :: later = before ++ after ∧
        Visit.all Call.publishes p s before = some (u, earlier) ∧
        ∃ r, .reverse r ∈ earlier ∧ r.authorizationId = id ∧ u.Unapproved r) ∧
    ((∀ visit ∈ first :: later, visit.request.adds? = none) → t.captures = s.captures) ∧
    ∀ add, first.request.adds? = some add →
      (ending.stores.captures = s.captures ∧ e = .deadlineExceeded ∨
        ∃ isFinal, ending.stores.captures = add isFinal s.captures) ∧
      ((∀ visit ∈ later, visit.request.adds? = some add) →
        ∃ flags : List Bool, flags.length ≤ later.length ∧
          t.captures = flags.foldl (fun store isFinal => add isFinal store)
            ending.stores.captures) := by
  have all : Visit.all Call.publishes p s (first :: later) = some (t, ending.sent ++ sent) := by
    rw [Visit.all, served]
    simp only [again]
  refine ⟨fun key => (Visit.all_asks_once key all).1, fun id => Visit.all_reverses_once id all,
    fun others => Visit.all_adds_nothing others all, fun add adds => ⟨?_, fun own =>
      Visit.all_adds own again⟩⟩
  rcases first.request.attempted adds first.fates ending served
    with ⟨same, cause, answer, deadline⟩ | stored
  · obtain rfl : e = cause := Except.error.inj (failed.symm.trans answer)
    exact Or.inl ⟨same, deadline retryable⟩
  · exact Or.inr stored

/-! ## Runs -/

namespace Service.Sample

open CardPayments.Sample

def four : Amount := ⟨{ ten.value with coefficient := 400, fits := by decide }, by decide⟩

def eight : Decimal := { ten.value with coefficient := 800, fits := by decide }

def part : Capture := { capture with amount := four }

def unpublishedError : PaymentError :=
  (PaymentError.publish "down").within "failed to publish capture event"

def authorizes : Visit := ⟨.authorize authorization, approved⟩

/-- The capture is stored, and the publisher fails. -/
def unpublished : Visit := ⟨.capture "psp" part, smooth 5 ++ [.failed (.publish "down") false]⟩

def published : Visit := ⟨.capture "psp" part, smooth 6⟩

end Service.Sample

open Service.Sample in
theorem retries_repeat_captures_only_unpublished :
    ∃ ending t sent,
      unpublished.ending? Call.publishes Sample.processor Sample.stores = some ending ∧
      ending.answer = .error unpublishedError ∧ unpublishedError.isRetryable = true ∧
      Visit.all Call.publishes Sample.processor ending.stores [published] = some (t, sent) ∧
      (∀ key, asked (ending.sent ++ sent) key ≤ 1) ∧
      ∃ flags : List Bool, flags.length ≤ 1 ∧ t.captures = flags.foldl
        (fun store isFinal =>
          { store with captures := store.captures ++ [{ part with isFinal := isFinal }] })
        ending.stores.captures := by
  refine ⟨_, _, _, rfl, rfl, rfl, rfl, ?_⟩
  obtain ⟨once, _, _, counts⟩ := retries_repeat_captures_only Sample.processor Sample.stores
    unpublished _ unpublishedError [published] _ _ rfl rfl rfl rfl
  exact ⟨once, (counts _ rfl).2 fun visit own => by rw [List.mem_singleton.mp own]; rfl⟩

open Service.Sample in
theorem unpublished_captures_count_twice :
    (∃ s sent ending,
      Visit.all Call.publishes Sample.processor .empty [authorizes] = some (s, sent) ∧
      unpublished.ending? Call.publishes Sample.processor s = some ending ∧
      ending.answer = .error unpublishedError ∧ unpublishedError.isRetryable = true) ∧
    ∃ t sent,
      Visit.all Call.publishes Sample.processor .empty [authorizes, unpublished, published] =
        some (t, sent) ∧
      t.captures.captures = [part, part] ∧
      t.captures.summary part.authorizationId = .ok ⟨eight, false⟩ := by
  have counted : (CaptureStore.mk [part, part] []).summary part.authorizationId =
      .ok ⟨eight, false⟩ := by decide
  exact ⟨⟨_, _, _, rfl, rfl, rfl, rfl⟩, _, _, rfl, by decide, counted⟩

end CardPayments
