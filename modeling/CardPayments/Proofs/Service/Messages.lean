import CardPayments.Proofs.Intake.Dossier
import CardPayments.Proofs.Service.Basic

/-! # Messages of requests that are served again

An authorization or refund is asked for only by the request that stored its row, so any number of
requests ask for it at most once.  A reversal is sent only by the request that stored it while no
other one stood; as long as it stands, no other one is sent. -/
set_option autoImplicit false

namespace CardPayments

open Intake

/-- Only the publisher fails; the stores answer every call. -/
def Call.publishes : Call → Bool
  | .publish .. => true
  | _ => false

/-! ## Authorizations and refunds -/

def Stores.Knows (s : Stores) (key : Key) : Prop := (s.dossier key).rows ≠ []

def asked (sent : List Message) (key : Key) : Nat := sent.countP fun m => m.key? = some key

theorem Stores.Knows.answer {s : Stores} {key : Key} (knows : s.Knows key) (call : Call) :
    (s.answer call).2.Knows key := by
  cases files : call.filing? with
  | none => rwa [Stores.Knows, s.answer_dossier files]
  | some filed =>
      obtain ⟨worked, filing⟩ := filed
      rcases s.answer_filing files with ⟨e, failed⟩ | ⟨value, t, done, filed, apart⟩
      · rwa [failed]
      · rw [done]
        by_cases same : key = worked
        · subst same
          rw [Stores.Knows] at knows ⊢
          generalize s.dossier key = before at filed knows
          generalize t.dossier key = after at filed
          cases filed with
          | opens x _ unknown => exact absurd unknown knows
          | records data _ => exact knows
          | settles status response _ rows changed =>
              intro empty
              apply knows
              rw [← List.length_eq_zero_iff, ← changed.length_eq]
              exact List.length_eq_zero_iff.mpr empty
        · rwa [Stores.Knows, apart key same]

/-- A request that asks for the transaction stored its row, and asks once. -/
structure AsksOnce (key : Key) (s t : Stores) (sent : List Message) : Prop where
  once : asked sent key ≤ 1
  stays : s.Knows key → t.Knows key ∧ asked sent key = 0
  stores : asked sent key ≠ 0 → t.Knows key

theorem AsksOnce.silent {key : Key} {s t : Stores} (stays : s.Knows key → t.Knows key) :
    AsksOnce key s t [] where
  once := Nat.zero_le 1
  stays knows := ⟨stays knows, rfl⟩
  stores := nofun

theorem Request.Sends.key? {q : Request} {m : Message} (sends : q.Sends m) {key : Key}
    (names : m.key? = some key) : q.key? = some key := by
  cases q with
  | authorize a =>
      cases m with
      | authorize b =>
          rw [← names]
          exact congrArg (fun id => some (Key.mk .authorization id)) sends.symm
      | _ => exact sends.elim
  | refund r =>
      cases m with
      | refund x =>
          rw [← names]
          exact congrArg (fun id => some (Key.mk .refund id)) sends.symm
      | _ => exact sends.elim
  | reverse psp r =>
      cases m with
      | reverse x => cases names
      | _ => exact sends.elim
  | _ => exact sends.elim

section

variable {p : Processor} {fallible : Call → Bool} {s : Stores} {key : Key}

theorem Stores.Knows.touched (knows : s.Knows key) (call : Call) (effect : Bool) :
    (s.touched call effect).Knows key := by
  cases effect with
  | true => exact knows.answer call
  | false => exact knows

theorem assessAuthorization_once (a : Authorization) :
    (p.assessAuthorization a).Assures fallible s fun ending => ending.sent.length ≤ 1 := by
  rw [Processor.assessAuthorization]
  split
  · refine Flow.dispatch_once (C := fun _ => True) fun attached outcome => ?_
    cases outcome with
    | ok _ => exact Flow.only_require trivial fun _ => Flow.only_require trivial fun _ => trivial
    | error e => trivial
  · next e _ =>
      have only : (Flow.require (α := Unit) { a with status := .riskDeclined }
          "failed to store risk decline" (.updateAuthorization { a with status := .riskDeclined })
          fun _ => .fail { a with status := .riskDeclined } "risk assessment failed" e).Only
          (fun _ => True) fun _ => False := Flow.only_require trivial fun _ => trivial
      exact only.silent.mono fun ending none => by simp [none]

theorem sendRefund_once (r : Refund) :
    (p.sendRefund r).Assures fallible s fun ending => ending.sent.length ≤ 1 := by
  refine Flow.dispatch_once (C := fun _ => True) fun attached outcome => ?_
  cases outcome with
  | ok _ => exact Flow.only_require trivial fun _ => Flow.only_require trivial fun _ => trivial
  | error e => trivial

theorem require_once {σ α : Type} {held : σ} {step : String} {call : Call}
    {next : call.Value → Flow σ α} {t : Stores} (stays : s.Knows key → t.Knows key)
    (granted : ∀ value, (t.answer call).1 = .ok value →
      (next value).Assures fallible (t.answer call).2 fun ending =>
        AsksOnce key s ending.stores ending.sent) :
    (Flow.require held step call next).Assures fallible t fun ending =>
      AsksOnce key s ending.stores ending.sent :=
  Flow.assures_require (fun effect => .silent fun knows => (stays knows).touched _ effect)
    (fun _ _ effect => .silent fun knows => (stays knows).touched _ effect)
    (fun _ _ => .silent fun knows => (stays knows).answer _) granted

/-- A row is opened only where there was none, and asked for once after that. -/
theorem opens_once {σ α : Type} {held : σ} {step : String} {call : Call} {x : Transaction}
    {next : call.Value → Flow σ α} {C : Call → Prop} {M : Message → Prop} {t : Stores}
    (stays : s.Knows key → t.Knows key) (files : call.filing? = some (key, .opens x))
    (once : ∀ value u, (next value).Assures fallible u fun ending => ending.sent.length ≤ 1)
    (only : ∀ value, (next value).Only C M) :
    (Flow.require held step call next).Assures fallible t fun ending =>
      AsksOnce key s ending.stores ending.sent := by
  refine require_once stays fun value granted => ?_
  obtain ⟨unknown, opened⟩ : ¬ t.Knows key ∧ (t.answer call).2.Knows key := by
    rcases t.answer_filing files with ⟨e, failed⟩ | ⟨_, u, done, filed, _⟩
    · rw [failed] at granted
      cases granted
    · rw [done, Stores.Knows, Stores.Knows]
      generalize t.dossier key = before at filed
      generalize u.dossier key = after at filed
      cases filed with
      | opens _ _ none => exact ⟨fun knows => knows none, by simp⟩
  refine ((once value _).and ((only value).assures (fun u => u.Knows key)
    (fun u call _ knows => knows.answer call) opened)).mono fun ending held => ?_
  obtain ⟨short, knows, _⟩ := held
  exact ⟨Nat.le_trans List.countP_le_length short, fun known => absurd (stays known) unknown,
    fun _ => knows⟩

theorem Request.asks_once (q : Request) (key : Key) :
    (q.flow p).Assures fallible s fun ending => AsksOnce key s ending.stores ending.sent := by
  by_cases own : q.key? = some key
  · cases q with
    | authorize a =>
        obtain rfl := Option.some.inj own
        exact require_once id fun token _ => opens_once (fun knows => knows.answer _) rfl
          (fun _ _ => assessAuthorization_once _) fun _ => assessAuthorization_only p rfl
    | refund r =>
        obtain rfl := Option.some.inj own
        exact require_once id fun token _ => opens_once (fun knows => knows.answer _) rfl
          (fun _ _ => sendRefund_once _) fun _ => sendRefund_only p rfl
    | _ => cases own
  · refine ((q.flow_only p).assures (fun t => s.Knows key → t.Knows key)
      (fun t call _ stays knows => (stays knows).answer call) id).mono fun ending held => ?_
    obtain ⟨stays, sends⟩ := held
    have none : asked ending.sent key = 0 := by
      rw [asked, List.countP_eq_zero]
      intro m member names
      exact own ((sends m member).key? (of_decide_eq_true names))
    exact ⟨none ▸ Nat.zero_le 1, fun knows => ⟨stays knows, none⟩, fun some => absurd none some⟩

end

/-- However often and by whatever requests, a transaction is asked for at most once, and not at all
when its row is stored already. -/
theorem Visit.all_asks_once {p : Processor} {fallible : Call → Bool} {s t : Stores}
    {visits : List Visit} {sent : List Message} (key : Key)
    (served : Visit.all fallible p s visits = some (t, sent)) :
    asked sent key ≤ 1 ∧ (s.Knows key → asked sent key = 0) := by
  induction visits generalizing s sent with
  | nil =>
      simp only [Visit.all, Option.some.injEq, Prod.mk.injEq] at served
      rw [← served.2]
      exact ⟨Nat.zero_le 1, fun _ => rfl⟩
  | cons visit rest ih =>
      obtain ⟨ending, later, first, others, rfl⟩ := Visit.all_cons served
      -- a visit that asks has stored the row, and nobody asks for a stored one
      obtain ⟨once, stays, stores⟩ := visit.request.asks_once key visit.fates ending first
      obtain ⟨onceLater, knownLater⟩ := ih others
      have both : asked (ending.sent ++ later) key = asked ending.sent key + asked later key :=
        List.countP_append ..
      rw [both]
      refine ⟨?_, fun knows => ?_⟩
      · by_cases silent : asked ending.sent key = 0
        · omega
        · have none := knownLater (stores silent)
          omega
      · obtain ⟨knowsAfter, none⟩ := stays knows
        rw [none, knownLater knowsAfter]

/-! ## Reversals -/

def Message.reverses? : Message → Option Uuid
  | .reverse r => some r.authorizationId
  | _ => none

def Request.reverses? : Request → Option Uuid
  | .reverse _ r => some r.authorizationId
  | _ => none

theorem Request.Sends.reverses? {q : Request} {m : Message} (sends : q.Sends m) {id : Uuid}
    (names : m.reverses? = some id) : q.reverses? = some id := by
  cases q with
  | reverse psp r =>
      cases m with
      | reverse x => exact (congrArg some sends.2.symm).trans names
      | _ => exact sends.elim
  | authorize a =>
      cases m with
      | authorize b => cases names
      | _ => exact sends.elim
  | refund r =>
      cases m with
      | refund x => cases names
      | _ => exact sends.elim
  | _ => exact sends.elim

namespace ReversalStore

variable {id : Uuid}

theorem pending_append (rows more : List Reversal)
    (pending : (ReversalStore.mk rows).pending id = true) :
    (ReversalStore.mk (rows ++ more)).pending id = true := by
  rw [ReversalStore.pending, ReversalStore.ofAuthorization] at pending ⊢
  rw [List.filter_append, List.any_append, pending, Bool.true_or]

end ReversalStore

namespace Stores

variable {s : Stores} {id : Uuid}

/-- A reversal that stands is not touched by calls about other authorizations. -/
theorem answer_pending (pending : s.reversals.pending id = true) {call : Call}
    (other : ∀ r, call = .updateReversal r → r.authorizationId ≠ id) :
    (s.answer call).2.reversals.pending id = true := by
  by_cases writes : call.WritesReversals
  · cases call with
    | createReversal r =>
        rcases s.changed_cases (fun store => { s with reversals := store }) (s.reversals.create r)
          with ⟨e, failed⟩ | ⟨store, done, answers⟩
        · rw [answer, failed]
          exact pending
        · rw [answer, answers]
          rw [ReversalStore.create] at done
          split at done
          · cases done
          · cases done
            exact ReversalStore.pending_append _ _ pending
    | updateReversal r =>
        rcases s.changed_cases (fun store => { s with reversals := store }) (s.reversals.update r)
          with ⟨e, failed⟩ | ⟨store, done, answers⟩
        · rw [answer, failed]
          exact pending
        · rw [answer, answers]
          rwa [ReversalStore.pending, ReversalStore.update_other done (other r rfl)]
    | _ => exact writes.elim
  · rwa [s.answer_reversals call writes]

/-- A reversal that was just stored stands. -/
theorem createReversal_pending (s : Stores) {r : Reversal} {value : Unit}
    (granted : (s.answer (.createReversal r)).1 = .ok value) (fresh : r.status = .new) :
    (s.answer (.createReversal r)).2.reversals.pending r.authorizationId = true := by
  rcases s.changed_cases (fun store => { s with reversals := store }) (s.reversals.create r)
    with ⟨e, failed⟩ | ⟨store, done, answers⟩
  · rw [answer, failed] at granted
    cases granted
  · rw [answer, answers]
    have rows := (ReversalStore.create_ok done).1
    have stands : r.row.status = .new := fresh
    simp [ReversalStore.pending, rows, stands]

theorem answer_createReversal_pending {r : Reversal}
    (pending : s.reversals.pending r.authorizationId = true) :
    s.answer (.createReversal r) = (.error .duplicateValue, s) := by
  simp only [answer, changed, ReversalStore.create, pending, if_true]
  rfl

end Stores

def Ending.Idle {α : Type} (s : Stores) (ending : Ending α) : Prop :=
  ending.stores = s ∧ ending.sent = []

section

variable {p : Processor} {s : Stores} {r : Reversal} {Q : Ending Unit → Prop}

theorem Flow.ReadsUntil.assures {σ α : Type} {fallible : Call → Bool} {s : Stores}
    {Q : Ending α → Prop} {last : Flow σ α → Prop} {flow : Flow σ α}
    (reads : flow.ReadsUntil last) (idle : ∀ ending, Ending.Idle s ending → Q ending)
    (after : ∀ flow, last flow → flow.Assures fallible s Q) : flow.Assures fallible s Q := by
  induction flow with
  | finish held answer =>
      rcases reads with isLast | ⟨e, rfl⟩
      · exact after _ isLast
      · exact assures_finish (idle _ ⟨rfl, rfl⟩)
  | ask held call next ih =>
      rcases reads with isLast | ⟨isRead, rest⟩
      · exact after _ isLast
      · refine assures_ask (fun effect => ?_) (fun _ e effect => ?_) ?_
        · rw [s.touched_read call isRead]
          exact idle _ ⟨rfl, rfl⟩
        · rw [s.touched_read call isRead]
          exact ih _ (rest _)
        · rw [s.answer_read call isRead]
          exact ih _ (rest _)
  | send held scheme message next ih => exact after _ reads

theorem reverse_assures (psp : String) (idle : ∀ ending, Ending.Idle s ending → Q ending)
    (stores : ∀ a summary, (p.storeReversal a summary r).Assures Call.publishes s Q) :
    (p.reverse psp r).Assures Call.publishes s Q := by
  refine (reverse_readsUntil p psp r).assures idle fun flow isLast => ?_
  obtain ⟨a, summary, rfl⟩ := isLast
  exact stores a summary

theorem storeReversal_idle (pending : s.reversals.pending r.authorizationId = true)
    (a : Authorization) (summary : CaptureSummary) :
    (p.storeReversal a summary r).Assures Call.publishes s (Ending.Idle s) := by
  unfold Processor.storeReversal
  split
  · next amount _ =>
      have refused := Stores.answer_createReversal_pending
        (r := { r with amount := some amount, authorization := some a, status := .new }) pending
      refine Flow.assures_require (fun effect => ?_) nofun (fun e _ => ?_) fun _ granted => ?_
      · rw [Stores.touched, refused, ite_self]
        exact ⟨rfl, rfl⟩
      · rw [refused]
        exact ⟨rfl, rfl⟩
      · rw [refused] at granted
        cases granted
  · split
    · exact Flow.assures_finish ⟨rfl, rfl⟩
    · exact Flow.assures_finish ⟨rfl, rfl⟩

/-- While a reversal stands, another one for the authorization does nothing. -/
theorem reverse_idle (psp : String) (pending : s.reversals.pending r.authorizationId = true) :
    (p.reverse psp r).Assures Call.publishes s (Ending.Idle s) :=
  reverse_assures psp (fun _ idle => idle) (storeReversal_idle pending)

end

theorem Request.keeps_pending {p : Processor} {s : Stores} {id : Uuid} (q : Request)
    (pending : s.reversals.pending id = true) :
    (q.flow p).Assures Call.publishes s fun ending =>
      ending.stores.reversals.pending id = true ∧ ∀ m ∈ ending.sent, m.reverses? ≠ some id := by
  by_cases own : q.reverses? = some id
  · cases q with
    | reverse psp r =>
        obtain rfl := Option.some.inj own
        refine (reverse_idle psp pending).mono fun ending idle => ?_
        obtain ⟨same, silent⟩ := idle
        rw [same, silent]
        exact ⟨pending, List.forall_mem_nil _⟩
    | _ => cases own
  · refine ((q.flow_only p).assures (fun t => t.reversals.pending id = true)
      (fun t call asks pending => t.answer_pending pending fun r isUpdate same => ?_)
      pending).mono fun ending held => ?_
    · subst isUpdate
      rcases asks with reads | writes
      · exact reads.isRead.elim
      · cases q with
        | reverse psp x => exact own (congrArg some (writes.2.symm.trans same))
        | _ => exact writes.elim
    · exact ⟨held.1, fun m member names => own ((held.2 m member).reverses? names)⟩

/-- While a reversal stands, no message reverses its authorization. -/
theorem Visit.all_keep_pending {p : Processor} {s t : Stores} {id : Uuid} {visits : List Visit}
    {sent : List Message} (pending : s.reversals.pending id = true)
    (served : Visit.all Call.publishes p s visits = some (t, sent)) :
    ∀ m ∈ sent, m.reverses? ≠ some id := by
  induction visits generalizing s sent with
  | nil =>
      simp only [Visit.all, Option.some.injEq, Prod.mk.injEq] at served
      rw [← served.2]
      exact List.forall_mem_nil _
  | cons visit rest ih =>
      obtain ⟨ending, later, first, others, rfl⟩ := Visit.all_cons served
      obtain ⟨pendingAfter, silent⟩ :=
        visit.request.keeps_pending pending visit.fates ending first
      intro m member
      rcases List.mem_append.mp member with now | afterwards
      · exact silent m now
      · exact ih pendingAfter others m afterwards

end CardPayments
