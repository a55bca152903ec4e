import CardPayments.Proofs.Alone.Capture
import CardPayments.Proofs.Undisturbed.Reverse

/-! # Reversals that run alone

A reversal is stored once everything about it was checked, and nothing that it does on the stores
after that can fail while it runs alone: it finds the summary and its own row again.  What can fail
is the exchange with the card network, and an error of it says so.  Every other error leaves
everything as it was. -/
set_option autoImplicit false

namespace CardPayments

variable {τ : Type}

/-- Why the exchange of a message fails: there is no connection, the network says so, or it rejects
the form of the message. -/
inductive Ports.Fails (ports : Ports τ) (line : τ) : PaymentError → Prop
  | unconnected (scheme : Scheme) : Fails ports line (.noConnection scheme.name)
  | network (scheme : Scheme) (m : Message) (x : PaymentError)
      (failed : (ports.exchange line scheme m).2.1 = .error x) : Fails ports line x
  | malformed : Fails ports line .formatError

/-- The request answers with success, or the exchange with the network failed. -/
def Completion.Exchanged {α : Type} (ports : Ports τ) (line : τ) (done : Completion τ α) : Prop :=
  ∀ e, done.answer = .error e →
    ∃ x, ports.Fails line x ∧ e = x.within "failed to reverse with the cardscheme"

/-- An error comes from the exchange with the network, or nothing happened. -/
def Completion.Careful {α : Type} (ports : Ports τ) (w : World τ) (done : Completion τ α) : Prop :=
  done.Untouched w ∨ done.Exchanged ports w.line

theorem Ports.reply_read (ports : Ports τ) (s : Stores) (call : Call) (reads : call.IsRead) :
    ports.reply s call = ((s.answer call).1, s) := by
  cases call <;> first | rfl | cases reads

/-- A flow that reads, and ends where that fails, is as careful as what it goes on with. -/
theorem Flow.careful_read {σ α : Type} {ports : Ports τ} {w : World τ} {held : σ} {step : String}
    {call : Call} {next : call.Value → Flow σ α} (reads : call.IsRead)
    (rest : ∀ value, (w.stores.answer call).1 = .ok value →
      ((next value).complete ports w).Careful ports w) :
    ((require held step call next).complete ports w).Careful ports w := by
  have replied := ports.reply_read w.stores call reads
  cases answer : (w.stores.answer call).1 with
  | error e =>
      rw [answer] at replied
      rw [complete_require_error replied]
      exact Or.inl ⟨rfl, rfl⟩
  | ok value =>
      rw [answer] at replied
      rw [complete_require_ok replied]
      exact rest value answer

namespace ReversalStore

def Has (s : ReversalStore) (r : Reversal) : Prop :=
  ∃ row ∈ s.rows, row.authorizationId = r.authorizationId ∧ row.id = r.id

theorem Has.updates {s : ReversalStore} {r : Reversal} (has : s.Has r) :
    ∃ t, s.update r = .ok t := by
  obtain ⟨row, member, own⟩ := has
  have found : (s.rows.any fun row =>
      decide (row.authorizationId = r.authorizationId ∧ row.id = r.id)) = true :=
    List.any_eq_true.mpr ⟨row, member, decide_eq_true own⟩
  rw [← Table.changeFirst_isSome _ fun row : Reversal =>
    { row with status := r.status, response := r.response }, Option.isSome_iff_exists] at found
  obtain ⟨rows, changed⟩ := found
  exact ⟨⟨rows⟩, by simp only [update, changed]⟩

theorem has_of_create {s t : ReversalStore} {r : Reversal} (created : s.create r = .ok t) :
    t.Has r := by
  rw [create] at created
  split at created
  · cases created
  · cases created
    exact ⟨r.row, List.mem_append_right _ (List.mem_singleton.mpr rfl), rfl, rfl⟩

end ReversalStore

namespace Processor

variable (p : Processor) (ports : Ports τ) (w : World τ)

theorem complete_concludeReversal (r : Reversal) (has : w.stores.reversals.Has r) :
    ((concludeReversal r).complete ports w).answer = .ok () := by
  have updates : w.stores.reversals.Has { r with status := .ofResponse r.response } := has
  obtain ⟨t, updated⟩ := updates.updates
  have replied : ports.reply w.stores
      (.updateReversal { r with status := .ofResponse r.response }) =
        (.ok (), { w.stores with reversals := t }) :=
    congrArg (w.stores.changed fun store => { w.stores with reversals := store }) updated
  rw [concludeReversal, Flow.complete_require_ok replied]
  rfl

theorem checkFormat_error {response : Option SchemeResponse} {x : PaymentError}
    (rejected : checkFormat response = .error x) : x = .formatError := by
  unfold checkFormat at rejected
  split at rejected
  · split at rejected
    · exact (Except.error.inj rejected).symm
    · cases rejected
  · cases rejected

theorem complete_sendReversal (r : Reversal) (a : Authorization)
    (carries : r.authorization = some a) (has : w.stores.reversals.Has r) :
    ((p.sendReversal r).complete ports w).Exchanged ports w.line := by
  have hasScheme : r.scheme? = some a.card.scheme := by
    rw [Reversal.scheme?, carries]
    rfl
  rw [sendReversal, dispatchReversal, hasScheme]
  dsimp only
  rw [dispatch]
  intro e failed
  split at failed
  · rw [Flow.complete] at failed
    cases exchanged : (ports.exchange w.line a.card.scheme (.reverse r)).2.1 with
    | error x =>
        simp only [exchanged, Flow.fail, Flow.complete, Except.error.injEq] at failed
        exact ⟨x, .network _ _ x exchanged, failed.symm⟩
    | ok _ =>
        simp only [exchanged] at failed
        cases form : checkFormat
            (ports.exchange w.line a.card.scheme (.reverse r)).1.response with
        | error x =>
            simp only [form, Flow.fail, Flow.complete, Except.error.injEq] at failed
            exact ⟨x, checkFormat_error form ▸ .malformed, failed.symm⟩
        | ok _ =>
            simp only [form] at failed
            have concluded := complete_concludeReversal ports
              { w with line := (ports.exchange w.line a.card.scheme (.reverse r)).2.2 }
              (r.attach (ports.exchange w.line a.card.scheme (.reverse r)).1) has
            rw [concluded] at failed
            cases failed
  · simp only [Flow.fail, Flow.complete, Except.error.injEq] at failed
    exact ⟨_, .unconnected _, failed.symm⟩

theorem complete_recheckReversal (r : Reversal) (a : Authorization) (seen : CaptureSummary)
    (summed : w.stores.captures.summary a.id = .ok seen) (carries : r.authorization = some a)
    (has : w.stores.reversals.Has r) :
    ((p.recheckReversal a.id seen r).complete ports w).Exchanged ports w.line := by
  have read : ports.reply w.stores (.captureSummary a.id) = (.ok seen, w.stores) :=
    Prod.ext summed rfl
  rw [recheckReversal, Flow.complete_require_ok read, if_pos seen.same_self]
  exact p.complete_sendReversal ports w r a carries has

theorem complete_storeReversal (r : Reversal) (a : Authorization) (seen : CaptureSummary)
    (summed : w.stores.captures.summary a.id = .ok seen) :
    ((p.storeReversal a seen r).complete ports w).Careful ports w := by
  rw [storeReversal]
  split
  · next amount _ =>
      have replied : ports.reply w.stores (.createReversal (r.prepared a amount)) =
          w.stores.changed (fun store => { w.stores with reversals := store })
            (w.stores.reversals.create (r.prepared a amount)) := rfl
      change (Flow.complete ports w (.require (r.prepared a amount) "failed to create reversal"
        (.createReversal (r.prepared a amount)) fun _ =>
          p.recheckReversal a.id seen (r.prepared a amount))).Careful ports w
      cases created : w.stores.reversals.create (r.prepared a amount) with
      | error e =>
          rw [created, Stores.changed] at replied
          rw [Flow.complete_require_error replied]
          exact Or.inl ⟨rfl, rfl⟩
      | ok t =>
          rw [created, Stores.changed] at replied
          rw [Flow.complete_require_ok replied]
          exact Or.inr (p.complete_recheckReversal ports
            { w with stores := { w.stores with reversals := t } } _ a seen summed rfl
            (ReversalStore.has_of_create created))
  · split
    · exact Or.inl ⟨rfl, rfl⟩
    · exact Or.inl ⟨rfl, rfl⟩

theorem complete_prepareReversal (a : Authorization) (r : Reversal) :
    ((p.prepareReversal a r).complete ports w).Careful ports w := by
  refine Flow.careful_read trivial fun reversed _ => ?_
  split
  · exact Or.inl ⟨rfl, rfl⟩
  · refine Flow.careful_read trivial fun isFinal _ => ?_
    split
    · exact Or.inl ⟨rfl, rfl⟩
    · exact Flow.careful_read trivial fun seen summed =>
        p.complete_storeReversal ports w r a seen summed

theorem complete_reverseAuthorization (psp : String) (r : Reversal) (a : Authorization) :
    ((p.reverseAuthorization psp r a).complete ports w).Careful ports w := by
  rw [reverseAuthorization]
  split
  · exact Or.inl ⟨rfl, rfl⟩
  · split
    · exact Or.inl ⟨rfl, rfl⟩
    · split
      · exact Or.inl ⟨rfl, rfl⟩
      · exact Flow.careful_read trivial fun card _ => p.complete_prepareReversal ports w _ r

/-- A reversal that runs alone does nothing, or it comes to an exchange with the network. -/
theorem complete_reverse (psp : String) (r : Reversal) :
    ((p.reverse psp r).complete ports w).Careful ports w := by
  rw [reverse]
  split
  · exact p.complete_reverseAuthorization ports w psp r _
  · exact Flow.careful_read trivial fun a _ => p.complete_reverseAuthorization ports w psp r a

end Processor

/-! ## Requests that run alone -/

def PaymentError.RefusesReversal : PaymentError → Prop
  | .recordNotFound | .invalid _ | .authorizationNotApproved | .tokenization _
  | .alreadyReversed | .finalCaptureExists | .authorizedAmountExceeded | .duplicateValue => True
  | _ => False

def Ports.Caused (ports : Ports τ) (line : τ) (e : PaymentError) : Prop :=
  ∃ scheme m x, (ports.exchange line scheme m).2.1 = .error x ∧
    e = x.within "failed to reverse with the cardscheme"

/-- A capture that runs alone and fails leaves everything as it was, unless the publisher refused
its event; one that succeeds adds one row, its amount and one event.  A reversal that is refused
leaves everything as it was, unless the error is one that the network answered. -/
theorem requests_alone_fail_without_trace (p : Processor) (ports : Ports τ) (w : World τ)
    (psp : String) :
    (∀ c : Capture, c.status = .created →
      (∀ e, ((p.capture psp c).complete ports w).answer = .error e →
          ((p.capture psp c).complete ports w).Untouched w ∨ ports.Refused e) ∧
        ∀ stored, ((p.capture psp c).complete ports w).answer = .ok stored →
          Captured p psp c stored w ((p.capture psp c).complete ports w)) ∧
      (∀ c : RefundCapture, c.status = .created →
        (∀ e, ((p.captureRefund psp c).complete ports w).answer = .error e →
            ((p.captureRefund psp c).complete ports w).Untouched w ∨ ports.Refused e) ∧
          ∀ stored, ((p.captureRefund psp c).complete ports w).answer = .ok stored →
            RefundCaptured p psp c stored w ((p.captureRefund psp c).complete ports w)) ∧
      ∀ (r : Reversal) (e : PaymentError),
        ((p.reverse psp r).complete ports w).answer = .error e → e.root.RefusesReversal →
          ((p.reverse psp r).complete ports w).Untouched w ∨ ports.Caused w.line e := by
  refine ⟨fun c created => ?_, fun c created => ?_, fun r e failed refuses => ?_⟩
  · obtain ⟨error, ok⟩ := p.complete_capture ports w psp c
    exact ⟨error, fun stored answered => ok stored answered created⟩
  · obtain ⟨error, ok⟩ := p.complete_captureRefund ports w psp c
    exact ⟨error, fun stored answered => ok stored answered created⟩
  · rcases p.complete_reverse ports w psp r with untouched | exchanged
    · exact Or.inl untouched
    · obtain ⟨x, fails, rfl⟩ := exchanged e failed
      rw [PaymentError.root_within] at refuses
      cases fails with
      | unconnected scheme => exact refuses.elim
      | malformed => exact refuses.elim
      | network scheme m _ answered => exact Or.inr ⟨scheme, m, x, answered, rfl⟩

namespace Alone.Sample

open CardPayments.Sample

/-- A network that approves everything but reversals. -/
def ports (refuses : Publication → Option (PaymentError × Bool)) (x : PaymentError) :
    Ports Unit where
  exchange _ scheme m :=
    match m with
    | .reverse _ => (m.attached, .error x, ())
    | _ => ((SimulatedNetwork.approving scheme).attach 1 ⟨2024, 3, 7⟩ m, .ok (), ())
  refuses := refuses

def quiet : Ports Unit := ports (fun _ => none) (.network "down")

def loud : Ports Unit := ports (fun _ => some (.io "disk", false)) .duplicateValue

def authorization : Authorization :=
  .intake (.ofNat 1) "psp" "shop" ten ⟨"DKK", by decide⟩ (.ofPan ⟨"4111111111111111"⟩ .visa) .none
    (.ofSeconds 0)

def world : World Unit := ((processor.authorize authorization).complete quiet ⟨.empty, ()⟩).world

def soleCapture (amount : Amount) : Capture :=
  ⟨.ofNat 2, .ofNat 1, amount, false, .created, .ofSeconds 0⟩

def twelve : Amount := ⟨{ Decimal.zero with coefficient := 12, fits := by decide }, by decide⟩

def afterCapture (ports : Ports Unit) (amount : Amount) : Completion Unit Capture :=
  (processor.capture "psp" (soleCapture amount)).complete ports world

def afterReversal (ports : Ports Unit) (id : ℕ) : Completion Unit Unit :=
  (processor.reverse "psp" (.ofId (.ofNat 3) (.ofNat id) (.ofSeconds 0))).complete ports world

end Alone.Sample

open CardPayments.Sample Alone.Sample in
/-- The whole amount is captured, more than it is refused, and so is the reversal of something
unknown. -/
theorem requests_alone_fail_without_trace_samples :
    Captured processor "psp" (soleCapture ten) { soleCapture ten with isFinal := true } world
        (afterCapture quiet ten) ∧
      (afterCapture quiet twelve).Untouched world ∧ (afterReversal quiet 9).Untouched world := by
  obtain ⟨captures, _, reverses⟩ :=
    requests_alone_fail_without_trace processor quiet world "psp"
  have whole : (afterCapture quiet ten).answer = .ok { soleCapture ten with isFinal := true } := by
    decide +kernel
  have tooMuch : (afterCapture quiet twelve).answer =
      .error (PaymentError.authorizedAmountExceeded.within "invalid capture") := by
    decide +kernel
  have unknown : (afterReversal quiet 9).answer =
      .error (PaymentError.recordNotFound.within "failed to get authorization") := by
    decide +kernel
  refine ⟨(captures _ rfl).2 _ whole, ?_, ?_⟩
  · refine ((captures _ rfl).1 _ tooMuch).resolve_right ?_
    rintro ⟨event, x, accepted, refused, _⟩
    cases refused
  · refine (reverses _ _ unknown trivial).resolve_right ?_
    rintro ⟨scheme, m, x, answered, same⟩
    exact absurd (PaymentError.context.inj same).1 (by decide)

open CardPayments.Sample Alone.Sample in
/-- The error of the capture is not one of publishing, the error of the reversal is one of a second
reversal, and yet both are stored. -/
theorem foreign_errors_leave_traces :
    (∃ e, (afterCapture loud ten).answer = .error e ∧ (∀ text, e.root ≠ .publish text) ∧
        (afterCapture loud ten).world.stores.captures.captures =
          [{ soleCapture ten with isFinal := true }] ∧
        world.stores.captures.captures = []) ∧
      ∃ e, (afterReversal loud 1).answer = .error e ∧ e.root.RefusesReversal ∧
        (afterReversal loud 1).world.stores.reversals.rows.length = 1 ∧
        world.stores.reversals.rows = [] ∧ (afterReversal loud 1).sent.length = 1 := by
  have first : (afterCapture loud ten).answer =
      .error ((PaymentError.io "disk").within "failed to publish capture event") := by
    decide +kernel
  have second : (afterReversal loud 1).answer = .error
      (PaymentError.duplicateValue.within "failed to reverse with the cardscheme") := by
    decide +kernel
  exact ⟨⟨_, first, nofun, by decide +kernel, rfl⟩,
    _, second, trivial, by decide +kernel, rfl, by decide +kernel⟩

end CardPayments
