import CardPayments.Proofs.Traffic.Footprint

/-! # Requests served one after another

A request that is served alone takes step after step on stores that nobody else changes.  A fate
says what befalls a step: a call is answered by the stores, or fails although they did or did not
answer it; a message comes back with what the network attached; or the deadline passes, before the
step took effect or after it, and the request ends there.  Which calls can fail is a parameter. -/
set_option autoImplicit false

namespace CardPayments

inductive Fate where
  | answered
  | failed (e : PaymentError) (effect : Bool)
  | exchanged (attached : Attached) (outcome : Except PaymentError Unit)
  | expired (effect : Bool)

/-- What a request came to: its answer, the stores it left, and the messages it sent. -/
structure Ending (α : Type) where
  answer : Except PaymentError α
  stores : Stores
  sent : List Message

namespace Ending

variable {α : Type}

def expired (stores : Stores) (sent : List Message) : Ending α :=
  ⟨.error .deadlineExceeded, stores, sent⟩

def after (message : Message) (ending : Ending α) : Ending α :=
  { ending with sent := message :: ending.sent }

end Ending

/-- The stores after a call that took its effect, or did not. -/
def Stores.touched (s : Stores) (call : Call) (effect : Bool) : Stores :=
  if effect then (s.answer call).2 else s

theorem Stores.touched_read (s : Stores) (call : Call) (reads : call.IsRead) (effect : Bool) :
    s.touched call effect = s := by
  rw [touched, s.answer_read call reads, ite_self]

/-- Serves a request alone.  There is no ending when the fates do not fit its steps. -/
def Flow.serve {σ α : Type} (fallible : Call → Bool) :
    List Fate → Stores → Flow σ α → Option (Ending α)
  | [], s, .finish _ answer => some ⟨answer, s, []⟩
  | .answered :: fates, s, .ask _ call next =>
      (next (s.answer call).1).serve fallible fates (s.answer call).2
  | .failed e effect :: fates, s, .ask _ call next =>
      if fallible call then (next (.error e)).serve fallible fates (s.touched call effect)
      else none
  | [.expired effect], s, .ask _ call _ => some (.expired (s.touched call effect) [])
  | .exchanged attached outcome :: fates, s, .send _ _ message next =>
      ((next attached outcome).serve fallible fates s).map (.after message)
  | [.expired effect], s, .send _ _ message _ =>
      some (.expired s (if effect then [message] else []))
  | _, _, _ => none

/-- What holds of every ending of a request that is served alone. -/
def Flow.Assures {σ α : Type} (fallible : Call → Bool) (s : Stores) (Q : Ending α → Prop)
    (flow : Flow σ α) : Prop :=
  ∀ fates ending, flow.serve fallible fates s = some ending → Q ending

namespace Flow

variable {σ α : Type} {fallible : Call → Bool} {s : Stores} {Q : Ending α → Prop}

theorem assures_finish {held : σ} {answer : Except PaymentError α} (holds : Q ⟨answer, s, []⟩) :
    (Flow.finish held answer).Assures fallible s Q := by
  intro fates ending served
  cases fates with
  | nil =>
      rw [serve, Option.some.injEq] at served
      exact served ▸ holds
  | cons fate rest => simp [serve] at served

theorem assures_ask {held : σ} {call : Call}
    {next : Except PaymentError call.Value → Flow σ α}
    (expired : ∀ effect, Q (.expired (s.touched call effect) []))
    (failed : fallible call = true → ∀ e effect,
      (next (.error e)).Assures fallible (s.touched call effect) Q)
    (answered : (next (s.answer call).1).Assures fallible (s.answer call).2 Q) :
    (Flow.ask held call next).Assures fallible s Q := by
  intro fates ending served
  match fates with
  | [] => simp [serve] at served
  | .answered :: rest => exact answered rest ending served
  | .failed e effect :: rest =>
      rw [serve] at served
      split at served
      · next fails => exact failed fails e effect rest ending served
      · cases served
  | .exchanged .. :: _ => simp [serve] at served
  | [.expired effect] =>
      rw [serve, Option.some.injEq] at served
      exact served ▸ expired effect
  | .expired _ :: _ :: _ => simp [serve] at served

theorem assures_send {held : Attached → σ} {scheme : Scheme} {message : Message}
    {next : Attached → Except PaymentError Unit → Flow σ α} (unsent : Q (.expired s []))
    (unanswered : Q (.expired s [message]))
    (exchanged : ∀ attached outcome,
      (next attached outcome).Assures fallible s fun ending => Q (ending.after message)) :
    (Flow.send held scheme message next).Assures fallible s Q := by
  intro fates ending served
  match fates with
  | [] => simp [serve] at served
  | .answered :: _ => simp [serve] at served
  | .failed .. :: _ => simp [serve] at served
  | .exchanged attached outcome :: rest =>
      rw [serve, Option.map_eq_some_iff] at served
      obtain ⟨later, served, rfl⟩ := served
      exact exchanged attached outcome rest later served
  | [.expired effect] =>
      rw [serve, Option.some.injEq] at served
      subst served
      cases effect with
      | true => exact unanswered
      | false => exact unsent
  | .expired _ :: _ :: _ => simp [serve] at served

theorem Assures.mono {Q' : Ending α → Prop} {flow : Flow σ α}
    (assures : flow.Assures fallible s Q) (weaker : ∀ ending, Q ending → Q' ending) :
    flow.Assures fallible s Q' :=
  fun fates ending served => weaker ending (assures fates ending served)

theorem Assures.and {Q' : Ending α → Prop} {flow : Flow σ α} (left : flow.Assures fallible s Q)
    (right : flow.Assures fallible s Q') :
    flow.Assures fallible s fun ending => Q ending ∧ Q' ending :=
  fun fates ending served => ⟨left fates ending served, right fates ending served⟩

theorem assures_require {held : σ} {step : String} {call : Call} {next : call.Value → Flow σ α}
    (expired : ∀ effect, Q (.expired (s.touched call effect) []))
    (failed : fallible call = true → ∀ (e : PaymentError) effect,
      Q ⟨.error (e.within step), s.touched call effect, []⟩)
    (refused : ∀ e, (s.answer call).1 = .error e →
      Q ⟨.error (e.within step), (s.answer call).2, []⟩)
    (granted : ∀ value, (s.answer call).1 = .ok value →
      (next value).Assures fallible (s.answer call).2 Q) :
    (require held step call next).Assures fallible s Q := by
  refine assures_ask expired (fun fails e effect => assures_finish (failed fails e effect)) ?_
  cases answer : (s.answer call).1 with
  | ok value => exact granted value answer
  | error e => exact assures_finish (refused e answer)

theorem assures_read {held : σ} {step : String} {call : Call} {next : call.Value → Flow σ α}
    (reads : call.IsRead) (steady : fallible call = false) (expired : Q (.expired s []))
    (refused : ∀ e, (s.answer call).1 = .error e → Q ⟨.error (e.within step), s, []⟩)
    (granted : ∀ value, (s.answer call).1 = .ok value → (next value).Assures fallible s Q) :
    (require held step call next).Assures fallible s Q := by
  have same := s.answer_read call reads
  refine assures_require (fun effect => ?_) (fun fails => ?_) (fun e failed => ?_)
    fun value found => ?_
  · rw [s.touched_read call reads]
    exact expired
  · rw [steady] at fails
    cases fails
  · rw [same]
    exact refused e failed
  · rw [same]
    exact granted value found

theorem assures_dispatch {p : Processor} {held : Attached → σ} {scheme : Scheme}
    {message : Message} {next : Attached → Except PaymentError Unit → Flow σ α}
    (unsent : Q (.expired s [])) (unanswered : Q (.expired s [message]))
    (exchanged : ∀ attached outcome,
      (next attached outcome).Assures fallible s fun ending => Q (ending.after message))
    (unconnected : ∀ e, (next message.attached (.error e)).Assures fallible s Q) :
    (p.dispatch held scheme message next).Assures fallible s Q := by
  rw [Processor.dispatch]
  split
  · refine assures_send unsent unanswered fun attached outcome => ?_
    cases outcome with
    | ok _ => exact exchanged attached _
    | error e => exact exchanged attached _
  · exact unconnected _

/-- What every call of a flow keeps holds at its end, and it sends no other messages than it may. -/
theorem Only.assures {C : Call → Prop} {M : Message → Prop} {flow : Flow σ α}
    (only : flow.Only C M) (I : Stores → Prop)
    (kept : ∀ s call, C call → I s → I (s.answer call).2) (holds : I s) :
    flow.Assures fallible s fun ending => I ending.stores ∧ ∀ m ∈ ending.sent, M m := by
  have touched (s : Stores) (call : Call) (effect : Bool) (asks : C call) (holds : I s) :
      I (s.touched call effect) := by
    rw [Stores.touched]
    split
    · exact kept s call asks holds
    · exact holds
  induction flow generalizing s with
  | finish held answer => exact assures_finish ⟨holds, List.forall_mem_nil M⟩
  | ask held call next ih =>
      obtain ⟨asks, rest⟩ := only
      refine assures_ask (fun effect => ⟨touched s call effect asks holds, List.forall_mem_nil M⟩)
        (fun _ e effect => ih _ (rest _) (touched s call effect asks holds)) ?_
      exact ih _ (rest _) (kept s call asks holds)
  | send held scheme message next ih =>
      obtain ⟨sends, rest⟩ := only
      refine assures_send ⟨holds, List.forall_mem_nil M⟩
        ⟨holds, List.forall_mem_singleton.mpr sends⟩
        fun attached outcome => ?_
      refine (ih attached outcome (rest attached outcome) holds).mono fun ending held => ?_
      refine ⟨held.1, fun m member => ?_⟩
      rcases List.mem_cons.mp member with rfl | later
      · exact sends
      · exact held.2 m later

theorem Only.silent {C : Call → Prop} {flow : Flow σ α} (only : flow.Only C fun _ => False) :
    flow.Assures fallible s fun ending => ending.sent = [] := by
  refine (only.assures (fun _ => True) (fun _ _ _ => id) trivial).mono fun ending held => ?_
  exact List.eq_nil_iff_forall_not_mem.mpr held.2

/-- A message that is followed by none. -/
theorem dispatch_once {C : Call → Prop} {p : Processor} {held : Attached → σ} {scheme : Scheme}
    {message : Message} {next : Attached → Except PaymentError Unit → Flow σ α}
    (silent : ∀ attached outcome, (next attached outcome).Only C fun _ => False) :
    (p.dispatch held scheme message next).Assures fallible s fun ending =>
      ending.sent.length ≤ 1 := by
  refine assures_dispatch (Nat.zero_le 1) (Nat.le_refl 1) (fun attached outcome => ?_) fun e => ?_
  · refine (silent attached outcome).silent.mono fun ending none => ?_
    simp [Ending.after, none]
  · refine (silent _ _).silent.mono fun ending none => ?_
    simp [none]

end Flow

/-! ## Visits -/

structure Visit where
  request : Request
  fates : List Fate

def Visit.ending? (fallible : Call → Bool) (p : Processor) (s : Stores) (visit : Visit) :
    Option (Ending visit.request.Answer) :=
  (visit.request.flow p).serve fallible visit.fates s

/-- Serves visits one after another: the stores after them, and all messages that were sent. -/
def Visit.all (fallible : Call → Bool) (p : Processor) :
    Stores → List Visit → Option (Stores × List Message)
  | s, [] => some (s, [])
  | s, visit :: rest =>
      match visit.ending? fallible p s with
      | none => none
      | some ending =>
          match Visit.all fallible p ending.stores rest with
          | none => none
          | some (t, sent) => some (t, ending.sent ++ sent)

theorem Visit.all_cons {fallible : Call → Bool} {p : Processor} {s t : Stores} {visit : Visit}
    {rest : List Visit} {sent : List Message}
    (served : Visit.all fallible p s (visit :: rest) = some (t, sent)) :
    ∃ ending later, visit.ending? fallible p s = some ending ∧
      Visit.all fallible p ending.stores rest = some (t, later) ∧ sent = ending.sent ++ later := by
  rw [Visit.all] at served
  split at served
  · cases served
  · next ending first =>
      split at served
      · cases served
      · next u later others =>
          simp only [Option.some.injEq, Prod.mk.injEq] at served
          obtain ⟨rfl, rfl⟩ := served
          exact ⟨ending, later, first, others, rfl⟩

/-- What every request keeps when it is served alone holds after any visits. -/
theorem Visit.all_invariant {fallible : Call → Bool} {p : Processor} (I : Stores → Prop)
    (kept : ∀ (q : Request) (s : Stores), I s →
      (q.flow p).Assures fallible s fun ending => I ending.stores)
    {s t : Stores} {visits : List Visit} {sent : List Message} (holds : I s)
    (served : Visit.all fallible p s visits = some (t, sent)) : I t := by
  induction visits generalizing s sent with
  | nil =>
      simp only [Visit.all, Option.some.injEq, Prod.mk.injEq] at served
      exact served.1 ▸ holds
  | cons visit rest ih =>
      obtain ⟨ending, later, first, others, _⟩ := Visit.all_cons served
      exact ih (kept visit.request s holds visit.fates ending first) others

end CardPayments
