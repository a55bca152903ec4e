import CardPayments.Proofs.Settlement.Ledger

/-! # What a reversal has seen of the captures

A reversal looks for a final capture, then reads the summary of the captures, and reads it once more
when it is stored.  The phases of a settlement forget the first summary; here it is kept beside
them, until the second one is compared with it. -/
set_option autoImplicit false

namespace CardPayments

inductive Sight where
  | blind
  /-- No final capture was found, and the summary is read next. -/
  | looking
  | seen (summary : CaptureSummary)

namespace Settlement

variable (q : Request) (id : Uuid) (authorized : Amount → Prop)

/-- Only a reversal that has seen a summary is stored, and it is cleared only when it finds the same
summary again. -/
inductive Sees (after : Phase) :
    Sight → (call : Call) → Except PaymentError call.Value → Sight → Prop
  | check (call : Call) (answer : Except PaymentError call.Value) (idle : after = .idle)
      (own : q.reversalId?.isSome = true) : Sees after .blind call answer .looking
  | read (summary : CaptureSummary) (idle : after = .idle) :
      Sees after .looking (.captureSummary id) (.ok summary) (.seen summary)
  | miss (answer : Except PaymentError CaptureSummary) (idle : after = .idle) :
      Sees after .looking (.captureSummary id) answer .blind
  | store (summary : CaptureSummary) (r : Reversal) (call : Call)
      (answer : Except PaymentError call.Value) (reverses : after = .reversing r) :
      Sees after (.seen summary) call answer (.seen summary)
  | compare (summary current : CaptureSummary) (r : Reversal) (same : current.same summary = true)
      (clears : after = .cleared r) :
      Sees after (.seen summary) (.captureSummary id) (.ok current) .blind
  | other (sight : Sight) (call : Call) (answer : Except PaymentError call.Value)
      (sighted : sight ≠ .looking) (otherwise : ∀ r, after ≠ .reversing r ∧ after ≠ .cleared r) :
      Sees after sight call answer .blind

def sighted (σ α : Type) : Protocol σ α (Phase × Sight) where
  expects := Expects id authorized
  asks before call answer after := Asks q id authorized before.1 call answer after.1 ∧
    Sees q id after.1 before.2 call answer after.2
  sends before message attached outcome after :=
    Sends before.1 message attached outcome after.1 ∧ before.2 = .blind ∧ after.2 = .blind
  finishes phase _ answer := Finishes q phase.1 answer ∧ phase.2 ≠ .looking

variable {q id authorized} {σ α : Type}

/-- From here on the request stores no reversal, and clears none. -/
structure Plain (q : Request) (phase : Phase) : Prop where
  unstored : ∀ r, phase ≠ .reversing r
  idle : phase = .idle → q.reversalId? = none

theorem Asks.plain {before after : Phase} {call : Call} {answer : Except PaymentError call.Value}
    (asks : Asks q id authorized before call answer after) (plain : Plain q before) :
    Plain q after ∧ ∀ r, after ≠ .reversing r ∧ after ≠ .cleared r := by
  cases asks with
  | read => exact ⟨plain, by simp⟩
  | lost => exact ⟨plain, by simp⟩
  | reverse r prepared =>
      have own := prepared.own
      rw [plain.idle rfl] at own
      cases own
  | clear r => exact absurd rfl (plain.unstored r)
  | _ => exact ⟨⟨by simp, by simp⟩, by simp⟩

theorem obeys_plain {flow : Flow σ α} {phase : Phase}
    (obeys : flow.Obeys (protocol q id authorized σ α) phase) (plain : Plain q phase) :
    flow.Obeys (sighted q id authorized σ α) (phase, .blind) := by
  induction flow generalizing phase with
  | finish held answer => exact ⟨obeys, by simp⟩
  | ask held call next ih =>
      have follow (answer : Except PaymentError call.Value)
          (goes : ∃ after, Asks q id authorized phase call answer after ∧
            (next answer).Obeys (protocol q id authorized σ α) after) :
          ∃ after, (sighted q id authorized σ α).asks (phase, .blind) call answer after ∧
            (next answer).Obeys (sighted q id authorized σ α) after := by
        obtain ⟨after, asks, rest⟩ := goes
        obtain ⟨stays, otherwise⟩ := asks.plain plain
        exact ⟨(after, .blind), ⟨asks, .other _ _ _ (by simp) otherwise⟩, ih answer rest stays⟩
      exact ⟨fun value expected => follow _ (obeys.1 value expected), fun e => follow _ (obeys.2 e)⟩
  | send held scheme message next ih =>
      intro attached outcome
      obtain ⟨after, sends, rest⟩ := obeys attached outcome
      have stays : Plain q after := by
        cases sends <;> exact ⟨by simp, by simp⟩
      exact ⟨(after, .blind), ⟨sends, rfl, rfl⟩, ih attached outcome rest stays⟩

/-- What is seen is only kept beside the phases. -/
theorem obeys_of_sighted {flow : Flow σ α} {phase : Phase × Sight}
    (obeys : flow.Obeys (sighted q id authorized σ α) phase) :
    flow.Obeys (protocol q id authorized σ α) phase.1 := by
  induction flow generalizing phase with
  | finish held answer => exact obeys.1
  | ask held call next ih =>
      refine ⟨fun value expected => ?_, fun e => ?_⟩
      · obtain ⟨after, asks, rest⟩ := obeys.1 value expected
        exact ⟨after.1, asks.1, ih _ rest⟩
      · obtain ⟨after, asks, rest⟩ := obeys.2 e
        exact ⟨after.1, asks.1, ih _ rest⟩
  | send held scheme message next ih =>
      intro attached outcome
      obtain ⟨after, sends, rest⟩ := obeys attached outcome
      exact ⟨after.1, sends.1, ih _ _ rest⟩

/-! ## Reversals -/

section

variable {p : Processor} {a : Authorization} {r : Reversal} {held : σ} {step : String}

theorem read_sighted {call : Call} {next : call.Value → Flow σ α} (reads : call.IsRead)
    (differ : step ≠ "failed to reverse with the cardscheme")
    (obeys : ∀ value, Expects id authorized call value →
      (next value).Obeys (sighted q id authorized σ α) (.idle, .blind)) :
    (Flow.require held step call next).Obeys (sighted q id authorized σ α) (.idle, .blind) := by
  have stays (answer : Except PaymentError call.Value) :
      (sighted q id authorized σ α).asks (.idle, .blind) call answer (.idle, .blind) :=
    ⟨.read call _ reads, .other _ _ _ (by simp) (by simp)⟩
  apply Flow.obeys_require
  · intro value expected
    exact ⟨_, stays _, obeys value expected⟩
  · intro e
    exact ⟨_, stays _, finishes_fail rfl differ, by simp⟩

theorem recheckReversal_sighted {seen : CaptureSummary} {amount value : Amount}
    (none : q.capture? = none) (of : r.authorizationId = id)
    (isAuthorized : Authorizes q authorized amount)
    (left : seen.remaining amount = .ok value.value) (isAmount : r.amount = some value) :
    (p.recheckReversal id seen r).Obeys (sighted q id authorized Reversal Unit)
      (.reversing r, .seen seen) := by
  have stuck : Plain q (.stuck r) := ⟨by simp, by simp⟩
  apply Flow.obeys_require
  · intro current _
    by_cases same : CaptureSummary.same current seen = true
    · obtain ⟨after, which, obeys⟩ : ∃ after, (after = .cleared r ∨ after = .stuck r) ∧
          (p.sendReversal r).Obeys (protocol q id authorized Reversal Unit) after :=
        sendReversal_obeys none of
      rw [if_pos same]
      rcases which with rfl | rfl
      · exact ⟨(.cleared r, .blind),
          ⟨.clear r current ⟨seen, amount, value, isAuthorized, same, left, isAmount⟩,
            .compare seen current r same rfl⟩, obeys_plain obeys ⟨by simp, by simp⟩⟩
      · exact ⟨(.stuck r, .blind), ⟨.abandon r _, .other _ _ _ (by simp) (by simp)⟩,
          obeys_plain obeys stuck⟩
    · rw [if_neg same]
      exact ⟨(.withdrawing r, .blind), ⟨.back r _, .other _ _ _ (by simp) (by simp)⟩,
        obeys_plain (withdrawReversal_obeys of) ⟨by simp, by simp⟩⟩
  · intro e
    exact ⟨(.stuck r, .blind), ⟨.abandon r _, .other _ _ _ (by simp) (by simp)⟩, finishes_stuck,
      by simp⟩

theorem storeReversal_sighted {summary : CaptureSummary} (own : q.reversalId? = some r.id)
    (none : q.capture? = none) (of : r.authorizationId = id) (account : a.id = id)
    (isAuthorized : Authorizes q authorized a.amount) :
    (p.storeReversal a summary r).Obeys (sighted q id authorized Reversal Unit)
      (.idle, .seen summary) := by
  rw [Processor.storeReversal]
  split
  · next amount isLeft =>
      have prepared : Prepared q id { r with
          amount := some amount, authorization := some a, status := .new } :=
        ⟨own, of, rfl, rfl⟩
      have remains := CaptureSummary.reversalAmount_eq_ok.mp isLeft
      apply Flow.obeys_require
      · intro value _
        refine ⟨(_, .seen summary), ⟨.reverse _ prepared, .store _ _ _ _ rfl⟩, ?_⟩
        rw [account]
        exact recheckReversal_sighted none of isAuthorized remains rfl
      · intro e
        exact ⟨(.over, .blind), ⟨.refused _ e prepared, .other _ _ _ (by simp) (by simp)⟩,
          finishes_fail rfl (by decide), by simp⟩
  · next e failed =>
      split
      · exact ⟨finishes_error rfl fun cause => reversalAmount_error_ne cause _ failed, by simp⟩
      · exact ⟨finishes_fail rfl (by decide), by simp⟩

/-- The check for a final capture is followed by the first look at the summary. -/
theorem prepareReversal_sighted (own : q.reversalId? = some r.id) (none : q.capture? = none)
    (of : r.authorizationId = id) (account : a.id = id)
    (isAuthorized : Authorizes q authorized a.amount) :
    (p.prepareReversal a r).Obeys (sighted q id authorized Reversal Unit) (.idle, .blind) := by
  refine read_sighted trivial (by decide) fun reversed _ => ?_
  cases (reversed : Bool) with
  | true => exact ⟨finishes_fail rfl (by decide), by simp⟩
  | false =>
      apply Flow.obeys_require
      · intro isFinal _
        cases (isFinal : Bool) with
        | true =>
            exact ⟨(.idle, .blind), ⟨.read _ _ trivial, .other _ _ _ (by simp) (by simp)⟩,
              finishes_fail rfl (by decide), by simp⟩
        | false =>
            refine ⟨(.idle, .looking), ⟨.read _ _ trivial, .check _ _ rfl (by simp [own])⟩, ?_⟩
            rw [account]
            apply Flow.obeys_require
            · intro summary _
              exact ⟨(.idle, .seen summary), ⟨.read _ _ trivial, .read summary rfl⟩,
                storeReversal_sighted own none of account isAuthorized⟩
            · intro e
              exact ⟨(.idle, .blind), ⟨.read _ _ trivial, .miss _ rfl⟩,
                finishes_fail rfl (by decide), by simp⟩
      · intro e
        exact ⟨(.idle, .blind), ⟨.read _ _ trivial, .other _ _ _ (by simp) (by simp)⟩,
          finishes_fail rfl (by decide), by simp⟩

theorem reverseAuthorization_sighted {psp : String} (own : q.reversalId? = some r.id)
    (none : q.capture? = none) (of : r.authorizationId = id)
    (isAuthorized : a.id = id → Authorizes q authorized a.amount) :
    (p.reverseAuthorization psp r a).Obeys (sighted q id authorized Reversal Unit)
      (.idle, .blind) := by
  rw [Processor.reverseAuthorization]
  split
  · exact ⟨finishes_fail rfl (by decide), by simp⟩
  · split
    · exact ⟨finishes_error rfl (by rintro _ ⟨⟩), by simp⟩
    · next same =>
        have account : a.id = id := (not_not.mp same).trans of
        split
        · exact ⟨finishes_fail rfl (by decide), by simp⟩
        · refine read_sighted trivial (by decide) fun card _ => ?_
          exact prepareReversal_sighted own none of account (isAuthorized account)

theorem reverse_sighted {psp : String} (own : q.reversal? = some r) (none : q.capture? = none)
    (of : r.authorizationId = id) :
    (p.reverse psp r).Obeys (sighted q id authorized Reversal Unit) (.idle, .blind) := by
  have named : q.reversalId? = some r.id := by
    rw [Request.reversalId?, own]
    rfl
  rw [Processor.reverse]
  split
  · next a carried =>
      exact reverseAuthorization_sighted named none of fun _ => Or.inr ⟨r, a, own, carried, rfl⟩
  · refine read_sighted trivial (by decide) fun stored expected => ?_
    exact reverseAuthorization_sighted named none of fun _ => Or.inl (expected of).2

end

theorem flow_sighted (p : Processor) (q : Request) (on : q.On id) :
    (q.flow p).Obeys (sighted q id authorized q.Held q.Answer) (.idle, .blind) := by
  cases q with
  | capture psp c => exact obeys_plain (capture_obeys rfl on) ⟨by simp, fun _ => rfl⟩
  | reverse psp r => exact reverse_sighted rfl rfl on
  | authorize a => exact on.elim
  | refund r => exact on.elim
  | captureRefund psp c => exact on.elim

end Settlement

/-! ## Traffic -/

open Settlement

section

variable {ι : Type} [DecidableEq ι] {requests : ι → Request} {id : Uuid}
  {authorized : Amount → Prop}

variable (requests id authorized) in
def Settlement.sightings (i : ι) : Protocol (requests i).Held (requests i).Answer (Phase × Sight) :=
  sighted (requests i) id authorized (requests i).Held (requests i).Answer

/-- The overview without what was seen. -/
def Overview.phases (o : Overview ι (Phase × Sight)) : Overview ι Phase :=
  ⟨o.stores, o.exchanges, fun i => (o.phase i).1⟩

theorem Overview.phases_update (stores : Stores) (exchanges : List (Exchange ι))
    (phase : ι → Phase × Sight) (i : ι) (after : Phase × Sight) :
    Overview.phases ⟨stores, exchanges, Function.update phase i after⟩ =
      ⟨stores, exchanges, Function.update (fun j => (phase j).1) i after.1⟩ := by
  have sameHeads := Function.comp_update Prod.fst phase i after
  exact congrArg (Overview.mk stores exchanges) sameHeads

theorem Overview.Move.phases {o o' : Overview ι (Phase × Sight)} {turn : Turn}
    (move : o.Move (sightings requests id authorized) turn o') :
    o.phases.Move (protocols requests id authorized) turn o'.phases := by
  cases move with
  | still => exact .still _
  | answered i call answer stores after answers asks =>
      rw [Overview.phases_update]
      exact .answered i call answer stores after.1 answers asks.1
  | refused i call e after asks =>
      rw [Overview.phases_update]
      exact .refused i call e after.1 asks.1
  | unheard i call answer stores e after answers asks =>
      rw [Overview.phases_update]
      exact .unheard i call answer stores e after.1 answers asks.1
  | exchanged i message attached outcome after sends =>
      rw [Overview.phases_update]
      exact .exchanged i message attached outcome after.1 sends.1

omit [DecidableEq ι] in
theorem Traffic.Shows.phases {s : Traffic requests} {o : Overview ι (Phase × Sight)}
    (shows : s.Shows (sightings requests id authorized) (.idle, .blind) o) :
    s.Shows (protocols requests id authorized) .idle o.phases where
  stores := shows.stores
  exchanges := shows.exchanges
  staged i := by
    have staged := shows.staged i
    cases stage : s.stage i with
    | waiting =>
        rw [stage] at staged
        exact congrArg Prod.fst staged
    | running flow =>
        rw [stage] at staged
        exact obeys_of_sighted staged
    | dropped => trivial

end
end CardPayments
