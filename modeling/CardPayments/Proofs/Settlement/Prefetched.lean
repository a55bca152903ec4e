import CardPayments.Proofs.Intake.Decided
import CardPayments.Proofs.Sequence.Basic
import CardPayments.Proofs.Service.Basic

/-! # Reversals of a prefetched authorization

A reversal names the authorization it is for, or brings a copy of it.  The copy only saves the look
at the store: from there on both take the same steps, and only while they fail do their callers hold
different things.  An authorization that was decided is shown the same for ever, so it does not
matter when the copy was taken. -/
set_option autoImplicit false

namespace CardPayments

namespace Flow

variable {σ α : Type}

/-- The flows take the same steps and end with the same answer; what the callers hold until then may
differ, but for an answer that is a success. -/
inductive SameSteps : Flow σ α → Flow σ α → Prop
  | finish (held held' : σ) (answer : Except PaymentError α)
      (accepted : ∀ value, answer = .ok value → held = held') :
      SameSteps (.finish held answer) (.finish held' answer)
  | ask (held held' : σ) (call : Call) (next next' : Except PaymentError call.Value → Flow σ α)
      (rest : ∀ answer, SameSteps (next answer) (next' answer)) :
      SameSteps (.ask held call next) (.ask held' call next')
  | send (held held' : Attached → σ) (scheme : Scheme) (message : Message)
      (next next' : Attached → Except PaymentError Unit → Flow σ α)
      (rest : ∀ attached outcome, SameSteps (next attached outcome) (next' attached outcome)) :
      SameSteps (.send held scheme message next) (.send held' scheme message next')

namespace SameSteps

theorem refl (flow : Flow σ α) : SameSteps flow flow := by
  induction flow with
  | finish held answer => exact .finish held held answer fun _ _ => rfl
  | ask held call next ih => exact .ask held held call next next ih
  | send held scheme message next ih => exact .send held held scheme message next next ih

theorem error (held held' : σ) (e : PaymentError) :
    SameSteps (.finish held (.error e) : Flow σ α) (.finish held' (.error e)) := by
  refine .finish held held' _ fun value accepted => ?_
  cases accepted

theorem fail (held held' : σ) (step : String) (e : PaymentError) :
    SameSteps (Flow.fail held step e : Flow σ α) (Flow.fail held' step e) :=
  error held held' (e.within step)

theorem require (held held' : σ) (step : String) {call : Call}
    {next next' : call.Value → Flow σ α} (rest : ∀ value, SameSteps (next value) (next' value)) :
    SameSteps (Flow.require held step call next) (Flow.require held' step call next') := by
  refine .ask held held' call _ _ fun answer => ?_
  cases answer with
  | ok value => exact rest value
  | error e => exact fail held held' step e

variable {f g : Flow σ α}

/-- Served alone, they cannot be told apart, whatever befalls their steps. -/
theorem serve_eq (same : SameSteps f g) (fallible : Call → Bool) (fates : List Fate) (s : Stores) :
    f.serve fallible fates s = g.serve fallible fates s := by
  induction same generalizing fates s with
  | finish held held' answer accepted =>
      cases fates with
      | nil => rfl
      | cons fate fates => simp [serve]
  | ask held held' call next next' rest ih =>
      cases fates with
      | nil => rfl
      | cons fate fates =>
          cases fate with
          | answered => exact ih _ fates _
          | failed e effect => rw [serve, serve, ih (.error e) fates]
          | exchanged attached outcome => simp [serve]
          | expired effect =>
              cases fates with
              | nil => rfl
              | cons fate fates => simp [serve]
  | send held held' scheme message next next' rest ih =>
      cases fates with
      | nil => rfl
      | cons fate fates =>
          cases fate with
          | answered => simp [serve]
          | failed e effect => simp [serve]
          | exchanged attached outcome => rw [serve, serve, ih attached outcome fates]
          | expired effect =>
              cases fates with
              | nil => rfl
              | cons fate fates => simp [serve]

/-- On any networks they come to the same answer and the same world. -/
theorem settle_eq {τ : Type} (same : SameSteps f g) (n : Networks τ) (w : World τ) :
    (f.settle n w).1.2 = (g.settle n w).1.2 ∧ (f.settle n w).2 = (g.settle n w).2 ∧
      ∀ value, (f.settle n w).1.2 = .ok value → (f.settle n w).1.1 = (g.settle n w).1.1 := by
  induction same generalizing w with
  | finish held held' answer accepted => exact ⟨rfl, rfl, accepted⟩
  | ask held held' call next next' rest ih => exact ih _ _
  | send held held' scheme message next next' rest ih => exact ih _ _ _

end SameSteps

/-! A look that is granted and changes nothing is no more than the value that it shows. -/

section

variable {held : σ} {step : String} {call : Call} {next : call.Value → Flow σ α}
  {value : call.Value}

theorem serve_require {s : Stores} (shown : s.answer call = (.ok value, s))
    (fallible : Call → Bool) (fates : List Fate) :
    (Flow.require held step call next).serve fallible (.answered :: fates) s =
      (next value).serve fallible fates s := by
  rw [require, serve, shown]

theorem settle_require {τ : Type} {w : World τ}
    (shown : w.stores.answer call = (.ok value, w.stores)) (n : Networks τ) :
    (Flow.require held step call next).settle n w = (next value).settle n w := by
  rw [require, settle, shown]

end

end Flow

/-! ## What a reversal brings -/

section

variable (p : Processor) (psp : String) (r : Reversal) (brought : Option Authorization)

theorem storeReversal_same (a : Authorization) (summary : CaptureSummary) :
    (p.storeReversal a summary r).SameSteps
      (p.storeReversal a summary { r with authorization := brought }) := by
  rw [Processor.storeReversal, Processor.storeReversal]
  split
  · exact .refl _
  · split
    · exact .error _ _ _
    · exact .fail _ _ _ _

theorem prepareReversal_same (a : Authorization) :
    (p.prepareReversal a r).SameSteps
      (p.prepareReversal a { r with authorization := brought }) := by
  refine .require _ _ _ fun reversed => ?_
  split
  · exact .fail _ _ _ _
  · refine .require _ _ _ fun isFinal => ?_
    split
    · exact .fail _ _ _ _
    · exact .require _ _ _ fun summary => storeReversal_same p r brought a summary

theorem reverseAuthorization_same (a : Authorization) :
    (p.reverseAuthorization psp r a).SameSteps
      (p.reverseAuthorization psp { r with authorization := brought } a) := by
  rw [Processor.reverseAuthorization, Processor.reverseAuthorization]
  split
  · exact .fail _ _ _ _
  · split
    · exact .error _ _ _
    · split
      · exact .fail _ _ _ _
      · exact .require _ _ _ fun card => prepareReversal_same p r brought _

variable {p psp} {reversalId id : Uuid} {time : Instant} {copy : Authorization}

theorem serve_ofId {s : Stores} (shown : s.answer (.authorization psp id) = (.ok copy, s))
    (fallible : Call → Bool) (fates : List Fate) :
    (p.reverse psp (.ofId reversalId id time)).serve fallible (.answered :: fates) s =
      (p.reverseAuthorization psp (.ofId reversalId id time) copy).serve fallible fates s :=
  Flow.serve_require shown fallible fates

theorem settle_ofId {τ : Type} {w : World τ}
    (shown : w.stores.answer (.authorization psp id) = (.ok copy, w.stores)) (n : Networks τ) :
    (p.reverse psp (.ofId reversalId id time)).settle n w =
      (p.reverseAuthorization psp (.ofId reversalId id time) copy).settle n w :=
  Flow.settle_require shown n

/-- With the copy that the look at the store would give, a reversal goes on as after the look. -/
theorem reverse_ofAuthorization_same (own : copy.id = id) :
    (p.reverseAuthorization psp (.ofId reversalId id time) copy).SameSteps
      (p.reverse psp (.ofAuthorization reversalId copy time)) := by
  subst own
  exact reverseAuthorization_same p psp (.ofId reversalId copy.id time) (some copy) copy

end

/-- A copy of a decided authorization is as good as its id: taken at any time and used at any later
one, it makes a reversal take the steps that a reversal by id takes behind its look at the store.
So it gets the same answer, sends the same messages and leaves the same stores, whatever befalls the
steps and whatever the networks answer. -/
theorem prefetched_reversals_agree {ι : Type} [DecidableEq ι] (p : Processor)
    (requests : ι → Request) (stores : Stores) (s t : Traffic requests)
    (reaches : (Traffic.start requests stores).Reaches p (fun _ => True) s)
    (later : s.Reaches p (fun _ => True) t) (psp : String) (id : Uuid) (row : Authorization)
    (stored : s.stores.authorizations.row? id = some row) (own : row.psp = psp)
    (decided : row.status ≠ .new) :
    ∃ copy, (s.stores.answer (.authorization psp id)).1 = .ok copy ∧
      ∀ (reversalId : Uuid) (time : Instant),
        let byId := p.reverse psp (.ofId reversalId id time)
        let byCopy := p.reverse psp (.ofAuthorization reversalId copy time)
        (∃ held next, byId = .ask held (.authorization psp id) next ∧
          (next (t.stores.answer (.authorization psp id)).1).SameSteps byCopy) ∧
        (∀ fallible fates,
          byId.serve fallible (.answered :: fates) t.stores =
            byCopy.serve fallible fates t.stores) ∧
        ∀ (τ : Type) (n : Networks τ) (line : τ),
          let looked := byId.settle n ⟨t.stores, line⟩
          let carried := byCopy.settle n ⟨t.stores, line⟩
          looked.1.2 = carried.1.2 ∧ looked.2 = carried.2 ∧
            ∀ value, looked.1.2 = .ok value → looked.1.1 = carried.1.1 := by
  subst own
  obtain ⟨named, found⟩ := TransactionStore.getFull_row stored
  have ownId : (s.stores.authorizations.shown row).id = id := named
  generalize s.stores.authorizations.shown row = copy at found ownId
  have still : t.stores.answer (.authorization row.psp id) = (.ok copy, t.stores) := by
    have kept := Archive.authorization_of_decided reaches later stored decided row.psp
    exact Prod.ext (kept.trans found) (t.stores.answer_read _ trivial)
  refine ⟨copy, found, fun reversalId time => ?_⟩
  have same : (p.reverseAuthorization row.psp (.ofId reversalId id time) copy).SameSteps
      (p.reverse row.psp (.ofAuthorization reversalId copy time)) :=
    reverse_ofAuthorization_same ownId
  refine ⟨⟨_, _, rfl, ?_⟩, fun fallible fates => ?_, fun τ n line => ?_⟩
  · rw [still]
    exact same
  · rw [serve_ofId still]
    exact same.serve_eq fallible fates _
  · rw [settle_ofId (w := ⟨t.stores, line⟩) still]
    exact same.settle_eq n _

/-! ## A run -/

namespace Prefetched.Sample

open CardPayments.Sample

/-- A reversal that the network approves. -/
def fates : List Fate :=
  [.answered, .answered, .answered, .answered, .answered, .answered,
    .exchanged Intake.Contest.grant (.ok ()), .answered]

def byId : Flow Reversal Unit :=
  processor.reverse "psp" (.ofId (.ofNat 7) (.ofNat 1) (.ofSeconds 2))

def byCopy (copy : Authorization) : Flow Reversal Unit :=
  processor.reverse "psp" (.ofAuthorization (.ofNat 7) copy (.ofSeconds 2))

end Prefetched.Sample

open Archive.Sample Prefetched.Sample in
theorem prefetched_reversals_agree_id_taken :
    ∃ copy, (accepted.stores.answer (.authorization "psp" (.ofNat 1))).1 = .ok copy ∧
      byId.serve (fun _ => false) (.answered :: fates) later.stores =
        (byCopy copy).serve (fun _ => false) fates later.stores ∧
      ((byId.serve (fun _ => false) (.answered :: fates) later.stores).map fun ending =>
        (ending.answer.toOption, ending.sent.length, ending.stores.reversals.rows.length)) =
          some (some (), 1, 1) := by
  have reaches : (Traffic.start requests .empty).Reaches Sample.processor (fun _ => True)
      accepted := Traffic.play_reaches Sample.processor _ _ _ fun _ _ => trivial
  have further : accepted.Reaches Sample.processor (fun _ => True) later :=
    Traffic.play_reaches Sample.processor _ _ _ fun _ _ => trivial
  have approved : (accepted.stores.authorizations.row? (.ofNat 1)).map
      (fun row => (row.psp, row.status)) = some ("psp", .approved) := by decide +kernel
  obtain ⟨row, stored, isApproved⟩ := Option.map_eq_some_iff.mp approved
  obtain ⟨own, status⟩ := Prod.mk.inj isApproved
  obtain ⟨copy, shown, agree⟩ := prefetched_reversals_agree Sample.processor requests .empty
    accepted later reaches further "psp" (.ofNat 1) row stored own (by rw [status]; decide)
  refine ⟨copy, shown, ?_, by decide +kernel⟩
  exact (agree (.ofNat 7) (.ofSeconds 2)).2.1 _ fates

end CardPayments
