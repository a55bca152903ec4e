import CardPayments.Proofs.Intake.Standing
import CardPayments.Proofs.Settlement.Limit

/-! # The life of a transaction

However requests take turns, wherever they fail or are dropped and whatever the networks answer, a
stored transaction keeps what it was stored with, its status is decided once and fits what else is
stored, and its network is asked at most once. -/
set_option autoImplicit false

namespace CardPayments

open Intake

namespace Intake

/-- An answer of the stores, heard or not, is what happened to the dossiers. -/
theorem effect_of_answer {s t : Stores} {call : Call} {answer : Except PaymentError call.Value}
    (answers : s.answer call = (answer, t)) (heard : Except PaymentError call.Value)
    (fits : heard = answer ∨ ∃ e, heard = .error e) : Effect heard s.dossier t.dossier := by
  have stores : (s.answer call).2 = t := by rw [answers]
  cases files : call.filing? with
  | none =>
      refine .nothing (funext fun key => ?_) (Or.inl files)
      rw [← stores]
      exact s.answer_dossier files key
  | some filed =>
      obtain ⟨key, filing⟩ := filed
      rcases s.answer_filing files with ⟨e, failed⟩ | ⟨value, u, done, filed, apart⟩
      · rw [answers, Prod.mk.injEq] at failed
        obtain ⟨rfl, rfl⟩ := failed
        refine .nothing rfl (Or.inr ?_)
        rcases fits with rfl | failed
        · exact ⟨e, rfl⟩
        · exact failed
      · rw [answers, Prod.mk.injEq] at done
        obtain ⟨rfl, rfl⟩ := done
        exact .filed key filing files filed apart

section

variable {ι : Type} [DecidableEq ι] {requests : ι → Request}

def Stands (o : Overview ι Phase) : Prop :=
  ∀ key, Standing key o.phase (o.stores.dossier key) (timesSent o.exchanges key)

theorem Stands.move {o o' : Overview ι Phase} {turn : Turn} (stands : Stands o)
    (move : o.Move (fun i => protocol (requests i).Held (requests i).Answer) turn o') :
    Stands o' ∧ ∀ key, Outlives (o.stores.dossier key) (o'.stores.dossier key) := by
  have both {o' : Overview ι Phase} (each : ∀ key,
      Standing key o'.phase (o'.stores.dossier key) (timesSent o'.exchanges key) ∧
        Outlives (o.stores.dossier key) (o'.stores.dossier key)) :
      Stands o' ∧ ∀ key, Outlives (o.stores.dossier key) (o'.stores.dossier key) :=
    ⟨fun key => (each key).1, fun key => (each key).2⟩
  cases move with
  | still => exact ⟨stands, fun key => .refl _⟩
  | answered i call answer stores after answers asks =>
      exact both (Standing.asked stands (effect_of_answer answers answer (Or.inl rfl)) asks)
  | refused i call e after asks =>
      exact both (Standing.asked stands (.nothing rfl (Or.inr ⟨e, rfl⟩)) asks)
  | unheard i call answer stores e after answers asks =>
      exact both (Standing.asked stands (effect_of_answer answers _ (Or.inr ⟨e, rfl⟩)) asks)
  | exchanged i message attached outcome after sends =>
      exact both fun key => ⟨Standing.sends stands sends key, .refl _⟩

theorem reaches_stands {p : Processor} {s t : Traffic requests} {o : Overview ι Phase}
    (unanswered : ∀ i, (requests i).Unanswered)
    (shows : s.Shows (fun i => protocol (requests i).Held (requests i).Answer) .resting o)
    (stands : Stands o) (reaches : s.Reaches p (fun _ => True) t) :
    ∃ o', t.Shows (fun i => protocol (requests i).Held (requests i).Answer) .resting o' ∧
      Stands o' ∧ ∀ key, Outlives (o.stores.dossier key) (o'.stores.dossier key) := by
  refine reaches.invariant (fun o' => Stands o' ∧
    ∀ key, Outlives (o.stores.dossier key) (o'.stores.dossier key)) (fun i => ?_)
    (fun _ _ _ _ _ _ _ => trivial) (fun middle turn o' _ held move => ?_) shows
    ⟨stands, fun key => .refl _⟩
  · exact flow_obeys (unanswered i)
  · obtain ⟨stands, outlives⟩ := held
    obtain ⟨standsAfter, further⟩ := stands.move move
    exact ⟨standsAfter, fun key => (outlives key).trans (further key)⟩

end
end Intake

variable {ι : Type} [DecidableEq ι] {requests : ι → Request}

/-- In every run of any requests, between any two of its states: every stored transaction stays
stored as it was, but for status and response, and for these too once the status is not new; its
response and scheme data are what its status says; no other transaction has its id; and its network
was asked at most once. -/
theorem transactions_settle_once (p : Processor) (stores : Stores)
    (noAuthorizations : stores.authorizations = .empty) (noRefunds : stores.refunds = .empty)
    (unanswered : ∀ i, (requests i).Unanswered) (t u : Traffic requests)
    (reaches : (Traffic.start requests stores).Reaches p (fun _ => True) t)
    (later : t.Reaches p (fun _ => True) u) (key : Key) :
    Outlives (t.stores.dossier key) (u.stores.dossier key) ∧
      (∀ x ∈ (u.stores.dossier key).rows,
        Sound x (u.stores.dossier key).data (timesSent u.exchanges key)) ∧
      (u.stores.dossier key).rows.length ≤ 1 ∧ timesSent u.exchanges key ≤ 1 := by
  have blank (key : Key) : stores.dossier key = ⟨[], none⟩ := by
    obtain ⟨kind, id⟩ := key
    cases kind with
    | authorization => simp [Stores.dossier, Stores.tables, noAuthorizations]; rfl
    | refund => simp [Stores.dossier, Stores.tables, noRefunds]; rfl
  have first : Stands (⟨stores, [], fun _ => .resting⟩ : Overview ι Intake.Phase) := by
    intro key
    rw [blank]
    exact .blank fun _ works => by cases works
  obtain ⟨o, shows, stands, _⟩ :=
    reaches_stands unanswered (Traffic.start_shows stores) first reaches
  obtain ⟨o', showsLater, standsLater, outlives⟩ := reaches_stands unanswered shows stands later
  rw [← shows.stores, ← showsLater.stores, ← showsLater.exchanges]
  exact ⟨outlives key, fun x stored => (standsLater key).sound stored,
    (standsLater key).length_le_one, (standsLater key).once⟩

/-! ## A run -/

namespace Intake.Contest

open Sample

/-- Two shops bring an authorization of the same id. -/
def intakes (second : Bool) : Request :=
  .authorize (.intake (.ofNat 1) "psp" (if second then "mall" else "shop") ten
    Sample.authorization.currency (.ofPan ⟨"4111111111111111"⟩ .visa) .none (.ofSeconds 0))

def grant : Attached :=
  ⟨some ⟨⟨"00"⟩, 1, some "A1", .ofSeconds 1⟩, some (.visa (some "T1") none)⟩

/-- Both cards have their tokens, and the first authorization is stored. -/
def opened : Traffic intakes :=
  (Traffic.start intakes .empty).play processor
    [.start false, .start true, .answer true, .answer false, .answer false]

/-- The second authorization is refused, the first one is approved by its network. -/
def settled : Traffic intakes :=
  opened.play processor
    [.answer true, .exchange false grant (.ok ()), .answer false, .answer false]

def key : Key := ⟨.authorization, .ofNat 1⟩

end Intake.Contest

theorem transactions_settle_once_contested :
    (Contest.opened.stores.dossier Contest.key).rows.map Transaction.status = [.new] ∧
      (Contest.settled.stores.dossier Contest.key).rows.map Transaction.status = [.approved] ∧
      Outlives (Contest.opened.stores.dossier Contest.key)
        (Contest.settled.stores.dossier Contest.key) ∧
      (∀ x ∈ (Contest.settled.stores.dossier Contest.key).rows,
        Sound x (Contest.settled.stores.dossier Contest.key).data
          (timesSent Contest.settled.exchanges Contest.key)) ∧
      timesSent Contest.settled.exchanges Contest.key ≤ 1 := by
  obtain ⟨outlives, sound, _, once⟩ := transactions_settle_once Sample.processor .empty rfl rfl
    (fun second => by cases second <;> rfl) Contest.opened Contest.settled
    (Traffic.play_reaches Sample.processor _ _ _ fun _ _ => trivial)
    (Traffic.play_reaches Sample.processor _ _ _ fun _ _ => trivial) Contest.key
  exact ⟨by decide, by decide, outlives, sound, once⟩

end CardPayments
