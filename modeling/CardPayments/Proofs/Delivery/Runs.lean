import CardPayments.Proofs.Delivery.Books
import CardPayments.Proofs.Settlement.Limit

/-! # What is stored was announced once

Any number of captures, reversals and refund captures take turns, and the publisher may fail at any
time, with any error.  Once none of them is running, a stored capture stands for one request that
succeeded or could not be published, and the events are those of the requests that succeeded. -/
set_option autoImplicit false

namespace CardPayments

/-! ## Calls as steps of the books -/

namespace CaptureStore

variable {s t : CaptureStore}

theorem create_appends {c : Capture} {seen : CaptureSummary} (done : s.create c seen = .ok t) :
    t = { s with captures := s.captures ++ [c] } := by
  rw [create] at done
  split at done
  · cases done
  · split at done <;> cases done
    rfl

theorem createForRefund_appends {c : RefundCapture} {seen : CaptureSummary}
    (done : s.createForRefund c seen = .ok t) :
    t = { s with refundCaptures := s.refundCaptures ++ [c] } := by
  rw [createForRefund] at done
  split at done
  · cases done
  · split at done <;> cases done
    rfl

theorem update_changes {c : Capture} (done : s.update c = .ok t) :
    ∃ front row back, s.captures = front ++ row :: back ∧ row.id = c.id ∧
      t = { s with captures := front ++ { row with status := c.status } :: back } := by
  rw [update] at done
  split at done
  · next captures changed =>
      cases done
      obtain ⟨front, row, back, split, splitAfter, found⟩ := Table.changeFirst_split _ _ _ _ changed
      exact ⟨front, row, back, split, (of_decide_eq_true found).2, by rw [splitAfter]⟩
  · cases done

theorem update_misses {c : Capture} {e : PaymentError} (failed : s.update c = .error e) :
    ∀ row ∈ s.captures, ¬ (row.authorizationId = c.authorizationId ∧ row.id = c.id) := by
  rw [update] at failed
  split at failed
  · cases failed
  · next missing =>
      intro row stored
      exact of_decide_eq_false (Table.changeFirst_none _ _ _ missing row stored)

end CaptureStore

theorem Stores.answer_aside (s : Stores) (call : Call) (aside : call.Aside) :
    (s.answer call).2.captures = s.captures ∧ (s.answer call).2.published = s.published ∧
      (s.answer call).2.authorizations = s.authorizations ∧
      (s.answer call).2.refunds = s.refunds := by
  rcases aside with reads | writes
  · rw [s.answer_read call reads]
    exact ⟨rfl, rfl, rfl, rfl⟩
  · cases call with
    | createReversal r =>
        rcases s.changed_cases (fun store => { s with reversals := store }) (s.reversals.create r)
          with ⟨e, said⟩ | ⟨store, _, said⟩ <;>
        · rw [answer, said]
          exact ⟨rfl, rfl, rfl, rfl⟩
    | updateReversal r =>
        rcases s.changed_cases (fun store => { s with reversals := store }) (s.reversals.update r)
          with ⟨e, said⟩ | ⟨store, _, said⟩ <;>
        · rw [answer, said]
          exact ⟨rfl, rfl, rfl, rfl⟩
    | _ => exact writes.elim

namespace Delivery

variable {ι : Type} [DecidableEq ι] {requests : ι → Request} {fails : ι → PaymentError → Prop}
  {topics : Topics} {authorizations : AuthorizationStore} {refunds : RefundStore}

def books (o : Overview ι Phase) : Books ι := ⟨o.stores.captureRows, o.stores.published, o.phase⟩

omit [DecidableEq ι] in
theorem captureRows_append (s : Stores) (c : Capture) :
    (Stores.captureRows { s with captures := { s.captures with
      captures := s.captures.captures ++ [c] } }).Perm (.ofAuthorization c :: s.captureRows) := by
  simp only [Stores.captureRows, List.map_append, List.map_cons, List.map_nil, List.append_assoc,
    List.singleton_append]
  exact List.perm_middle

theorem captureRows_appendRefund (s : Stores) (c : RefundCapture) :
    (Stores.captureRows { s with captures := { s.captures with
      refundCaptures := s.captures.refundCaptures ++ [c] } }).Perm
      (.ofRefund c :: s.captureRows) := by
  simp only [Stores.captureRows, List.map_append, List.map_cons, List.map_nil,
    ← List.append_assoc]
  exact List.perm_append_comm

theorem captureRows_split (s : Stores) (front back : List Capture) (row : Capture) :
    (Stores.captureRows { s with captures := { s.captures with
      captures := front ++ row :: back } }).Perm (.ofAuthorization row ::
        (front.map .ofAuthorization ++ back.map .ofAuthorization ++
          s.captures.refundCaptures.map .ofRefund)) := by
  simp only [Stores.captureRows, List.map_append, List.map_cons, List.append_assoc,
    List.cons_append]
  exact List.perm_middle

variable (fails) in
/-- A call that is answered is a step of the books, and changes no authorization and no refund. -/
theorem Asks.step {o : Overview ι Phase} {i : ι} {call : Call}
    {answer : Except PaymentError call.Value} {after : Phase} {stores : Stores}
    (asks : Asks (requests i) topics authorizations refunds (o.phase i) call answer after)
    (answers : o.stores.answer call = (answer, stores)) :
    (books o).Step requests fails (Announces topics authorizations refunds)
        (books ⟨stores, o.exchanges, Function.update o.phase i after⟩) ∧
      stores.authorizations = o.stores.authorizations ∧ stores.refunds = o.stores.refunds := by
  generalize before : o.phase i = phase at asks
  cases asks with
  | aside call answer aside =>
      obtain ⟨captures, published, sameAuthorizations, sameRefunds⟩ :=
        o.stores.answer_aside call aside
      rw [answers] at captures published sameAuthorizations sameRefunds
      refine ⟨?_, sameAuthorizations, sameRefunds⟩
      have same : books ⟨stores, o.exchanges, Function.update o.phase i .idle⟩ = books o := by
        rw [books, books, Stores.captureRows, captures, published, ← before,
          Function.update_eq_self]
        rfl
      rw [same]
      exact .still
  | store c seen wanted =>
      rcases o.stores.changed_cases (fun store => { o.stores with captures := store })
        (o.stores.captures.create c seen) with ⟨e, said⟩ | ⟨store, created, said⟩
      · rw [Stores.answer, said] at answers
        cases answers
      · rw [Stores.answer, said] at answers
        cases answers
        rw [CaptureStore.create_appends created]
        exact ⟨.store i _ _ _ before wanted (captureRows_append o.stores c) rfl id trivial, rfl,
          rfl⟩
  | storeRefund c seen wanted =>
      rcases o.stores.changed_cases (fun store => { o.stores with captures := store })
        (o.stores.captures.createForRefund c seen) with ⟨e, said⟩ | ⟨store, created, said⟩
      · rw [Stores.answer, said] at answers
        cases answers
      · rw [Stores.answer, said] at answers
        cases answers
        rw [CaptureStore.createForRefund_appends created]
        exact ⟨.store i _ _ _ before wanted (captureRows_appendRefund o.stores c) rfl id trivial,
          rfl, rfl⟩
  | refused c seen e =>
      rcases o.stores.changed_cases (fun store => { o.stores with captures := store })
        (o.stores.captures.create c seen) with ⟨e, said⟩ | ⟨store, created, said⟩
      · rw [Stores.answer, said] at answers
        cases answers
        rw [← before, Function.update_eq_self]
        exact ⟨.still, rfl, rfl⟩
      · rw [Stores.answer, said] at answers
        cases answers
  | refusedRefund c seen e =>
      rcases o.stores.changed_cases (fun store => { o.stores with captures := store })
        (o.stores.captures.createForRefund c seen) with ⟨e, said⟩ | ⟨store, created, said⟩
      · rw [Stores.answer, said] at answers
        cases answers
        rw [← before, Function.update_eq_self]
        exact ⟨.still, rfl, rfl⟩
      · rw [Stores.answer, said] at answers
        cases answers
  | keep c _ =>
      cases congrArg Prod.snd answers
      refine ⟨.turn i (.ofAuthorization c) _ ?_ rfl ?_ id trivial, rfl, rfl⟩
      all_goals simp [books, before, Phase.row?, Phase.Published]
  | regret c _ answer =>
      cases answers
      refine ⟨.turn i (.ofAuthorization c) _ ?_ rfl ?_ id trivial, rfl, rfl⟩
      all_goals simp [books, before, Phase.row?, Phase.Published]
  | withdraw c answer =>
      rcases updated : o.stores.captures.update { c with status := .failed } with e | store
      · rw [Stores.answer, updated, Stores.changed] at answers
        cases answers
        refine ⟨.missing i c before fun stored => ?_, rfl, rfl⟩
        rcases List.mem_append.mp stored with own | other
        · obtain ⟨row, isStored, same⟩ := List.mem_map.mp own
          cases same
          exact CaptureStore.update_misses updated c isStored ⟨rfl, rfl⟩
        · obtain ⟨row, _, same⟩ := List.mem_map.mp other
          cases same
      · rw [Stores.answer, updated, Stores.changed] at answers
        cases answers
        obtain ⟨front, row, back, split, named, changed⟩ := CaptureStore.update_changes updated
        subst changed
        refine ⟨.withdraw i c row _ _ before named ?_ (captureRows_split o.stores front back _),
          rfl, rfl⟩
        have perm := captureRows_split o.stores front back row
        rwa [← split] at perm
  | publish row event announces =>
      cases answers
      exact ⟨.publish i row event before announces, rfl, rfl⟩
  | unpublished row topic payload e => cases answers

theorem answer_expects {s after : Stores} {call : Call} {value : call.Value}
    (answers : s.answer call = (.ok value, after)) :
    Expects s.authorizations s.refunds call value := by
  cases call with
  | authorization psp id =>
      obtain ⟨row, stored, _, _, rfl⟩ :=
        TransactionStore.getFull_shows (congrArg Prod.fst answers)
      exact ⟨row, stored, rfl⟩
  | refund psp id =>
      obtain ⟨row, stored, _, _, rfl⟩ := TransactionStore.getFull_shows (congrArg Prod.fst answers)
      exact ⟨row, stored, rfl⟩
  | _ => trivial

end Delivery

/-! ## Runs -/

section

variable {ι : Type} [DecidableEq ι] {requests : ι → Request}

/-- A turn in which no port fails but the publisher, which then has accepted nothing.  To each
request it may fail with certain errors. -/
inductive Traffic.Delivers (fails : ι → PaymentError → Prop) (p : Processor)
    (s : Traffic requests) : Traffic requests → Prop
  | smooth (turn : Turn) (t : Traffic requests) (undisturbed : turn.Smooth)
      (step : s.Step p turn t) : Delivers fails p s t
  | unpublished (i : ι) (held : (requests i).Held) (topic payload : String)
      (next : Except PaymentError Unit → Flow (requests i).Held (requests i).Answer)
      (asks : s.stage i = .running (.ask held (.publish topic payload) next)) (e : PaymentError)
      (refuses : fails i e) :
      Delivers fails p s (s.advance i (.running (next (.error e))) s.stores [])

namespace Traffic

variable {fails : ι → PaymentError → Prop} {p : Processor} {s : Traffic requests}

theorem Reaches.delivers {t : Traffic requests} (reaches : s.Reaches p Turn.Smooth t) :
    Relation.ReflTransGen (Delivers fails p) s t := by
  induction reaches with
  | refl => exact .refl
  | tail _ step ih =>
      obtain ⟨turn, undisturbed, step⟩ := step
      exact ih.tail (.smooth turn _ undisturbed step)

/-- The publisher fails when the request calls it; nothing happens when the request does not. -/
def refusePublication (s : Traffic requests) (i : ι) (e : PaymentError) : Traffic requests :=
  match s.stage i with
  | .running (.ask _ (.publish _ _) next) => s.advance i (.running (next (.error e))) s.stores []
  | _ => s

theorem refusePublication_delivers {i : ι} {e : PaymentError} (refuses : fails i e) :
    Relation.ReflTransGen (Delivers fails p) s (s.refusePublication i e) := by
  rw [refusePublication]
  split
  · next held topic payload next asks =>
      exact .single (.unpublished i held topic payload next asks e refuses)
  · exact .refl

end Traffic

/-- The request was answered with a success, or with an error of the publisher and what it was asked
for. -/
def Stage.Kept {q : Request} (fails : PaymentError → Prop) (stage : Stage q) : Prop :=
  stage.Accepted ∨ ∃ e, fails e ∧
    stage.answer? = some (.error (e.within "failed to publish capture event"))

namespace Delivery

variable {fails : ι → PaymentError → Prop} {p : Processor} {authorizations : AuthorizationStore}
  {refunds : RefundStore}

variable (requests p authorizations refunds) in
def protocols (i : ι) : Protocol (requests i).Held (requests i).Answer Phase :=
  protocol (requests i) p.topics authorizations refunds (requests i).Held (requests i).Answer

/-- Traffic whose books are in order. -/
structure Orderly (fails : ι → PaymentError → Prop) (p : Processor) (stores : Stores)
    (s : Traffic requests) (o : Overview ι Phase) : Prop where
  shows : s.Shows (protocols requests p stores.authorizations stores.refunds) .idle o
  authorizations : o.stores.authorizations = stores.authorizations
  refunds : o.stores.refunds = stores.refunds
  sound : Books.Sound requests fails (Announces p.topics stores.authorizations stores.refunds)
    stores.published o.stores.captureRows o.stores.published o.phase
  undropped : ∀ i, s.stage i ≠ .dropped

variable {stores : Stores} {s t : Traffic requests} {o : Overview ι Phase}

theorem Orderly.step (settles : ∀ i, (requests i).Settles)
    (distinct : DistinctIds Request.captureId? requests)
    (distinctRefunds : DistinctIds Request.refundCaptureId? requests)
    (orderly : Orderly fails p stores s o) (step : s.Delivers fails p t) :
    ∃ o', Orderly fails p stores t o' := by
  obtain ⟨shows, sameAuthorizations, sameRefunds, sound, undropped⟩ := orderly
  cases step with
  | smooth turn _ undisturbed step =>
      have stays : ∀ i, t.stage i ≠ .dropped :=
        Traffic.Reaches.ne_dropped (.single ⟨turn, undisturbed, step⟩) undropped
      obtain ⟨o', shown, move⟩ := step.move (fun i => flow_obeys p (requests i) (settles i)) shows
        fun i call value after answers => by
          have expected := answer_expects answers
          rwa [sameAuthorizations, sameRefunds] at expected
      refine ⟨o', ?_⟩
      cases move with
      | still => exact ⟨shown, sameAuthorizations, sameRefunds, sound, stays⟩
      | answered i call answer after phase answers asks =>
          obtain ⟨step, keptAuthorizations, keptRefunds⟩ := Asks.step fails asks answers
          exact ⟨shown, keptAuthorizations.trans sameAuthorizations, keptRefunds.trans sameRefunds,
            step.sound distinct distinctRefunds sound, stays⟩
      | refused => simp [Turn.Smooth] at undisturbed
      | unheard => simp [Turn.Smooth] at undisturbed
      | exchanged i message attached outcome after sends =>
          obtain ⟨idle, same⟩ : o.phase i = .idle ∧ after = .idle := sends
          have stands : Function.update o.phase i after = o.phase := by
            rw [same, ← idle, Function.update_eq_self]
          rw [stands] at shown ⊢
          exact ⟨shown, sameAuthorizations, sameRefunds, sound, stays⟩
  | unpublished i held topic payload next asks e refuses =>
      have staged := shows.staged i
      rw [asks] at staged
      obtain ⟨after, follows, rest⟩ := staged.2 e
      have shown := shows.advance i (.running (next (.error e))) s.stores [] after rest
      refine ⟨_, shown, shows.stores ▸ sameAuthorizations, shows.stores ▸ sameRefunds, ?_, ?_⟩
      · rw [← shows.stores]
        generalize before : o.phase i = phase at follows
        cases follows with
        | aside _ _ aside => exact aside.elim id id |>.elim
        | unpublished row =>
            have has : (o.phase i).row? = some row := by
              rw [before]
              rfl
            exact sound.turn has rfl (by rw [before]; exact id) id refuses
      · intro j
        by_cases same : j = i
        · subst same
          simp [Traffic.advance]
        · simpa only [Traffic.advance, Function.update_of_ne same] using undropped j

omit [DecidableEq ι] in
/-- Of a request that rests the answer tells the phase. -/
theorem Orderly.finishes (orderly : Orderly fails p stores s o) (i : ι)
    (rests : (s.stage i).Rests) :
    (s.stage i = .waiting ∧ o.phase i = .idle) ∨
      ∃ answer, (s.stage i).answer? = some answer ∧ Finishes (requests i) (o.phase i) answer := by
  have staged := orderly.shows.staged i
  have undropped := orderly.undropped i
  cases stage : s.stage i with
  | waiting => exact Or.inl ⟨rfl, orderly.shows.waiting stage⟩
  | dropped => exact absurd stage undropped
  | running flow =>
      rw [stage] at staged rests
      cases flow with
      | finish held answer => exact Or.inr ⟨answer, rfl, staged⟩
      | ask held call next => exact rests.elim
      | send held scheme message next => exact rests.elim

theorem Wanted.captures {q : Request} {row : CaptureRow} (wanted : Wanted q row) : q.Captures := by
  cases row <;>
  · obtain ⟨psp, c, rfl, _⟩ := wanted
    trivial

theorem Wanted.status {q : Request} {row : CaptureRow} (wanted : Wanted q row) :
    row.status ∈ q.captureStatus? := by
  cases row <;>
  · obtain ⟨psp, c, rfl, same⟩ := wanted
    rw [same]
    rfl

omit [DecidableEq ι] in
theorem Orderly.kept_of_row (orderly : Orderly fails p stores s o) (i : ι)
    (rests : (s.stage i).Rests) {row : CaptureRow} (has : (o.phase i).row? = some row) :
    (s.stage i).Kept (fails i) := by
  have excused := orderly.sound.excused i
  rcases orderly.finishes i rests with ⟨_, idle⟩ | ⟨answer, answered, finishes⟩
  · rw [idle] at has
    cases has
  · cases phase : o.phase i with
    | published stored =>
        rw [phase] at finishes
        obtain ⟨value, rfl⟩ := finishes
        exact Or.inl ⟨value, answered⟩
    | unpublished stored e =>
        rw [phase] at finishes excused
        exact Or.inr ⟨e, excused, answered.trans (congrArg some finishes)⟩
    | idle => simp [phase, Phase.row?] at has
    | withdrawn => simp [phase, Phase.row?] at has
    | stored c => exact (phase ▸ finishes : Finishes _ (.stored c) answer).elim
    | withdrawing c => exact (phase ▸ finishes : Finishes _ (.withdrawing c) answer).elim
    | publishing stored => exact (phase ▸ finishes : Finishes _ (.publishing stored) answer).elim

omit [DecidableEq ι] in
theorem Orderly.published_iff (orderly : Orderly fails p stores s o) (i : ι)
    (rests : (s.stage i).Rests) :
    (o.phase i).Published ↔ (requests i).Captures ∧ (s.stage i).Accepted := by
  constructor
  · intro publishes
    cases phase : o.phase i with
    | published row =>
        have has : (o.phase i).row? = some row := by
          rw [phase]
          rfl
        refine ⟨(orderly.sound.held i row has).2.captures, ?_⟩
        rcases orderly.finishes i rests with ⟨_, idle⟩ | ⟨answer, answered, finishes⟩
        · rw [phase] at idle
          cases idle
        · rw [phase] at finishes
          obtain ⟨value, rfl⟩ := finishes
          exact ⟨value, answered⟩
    | _ =>
        rw [phase] at publishes
        exact publishes.elim
  · rintro ⟨captures, value, accepted⟩
    rcases orderly.finishes i rests with ⟨waits, _⟩ | ⟨answer, answered, finishes⟩
    · rw [waits] at accepted
      cases accepted
    · rw [accepted] at answered
      cases answered
      cases phase : o.phase i with
      | published row => exact trivial
      | idle =>
          rw [phase] at finishes
          obtain ⟨e, failed⟩ := finishes captures
          cases failed
      | withdrawn =>
          rw [phase] at finishes
          obtain ⟨e, failed⟩ := finishes
          cases failed
      | unpublished row e =>
          rw [phase] at finishes
          cases finishes
      | stored c => exact (phase ▸ finishes : Finishes _ (.stored c) _).elim
      | withdrawing c => exact (phase ▸ finishes : Finishes _ (.withdrawing c) _).elim
      | publishing row => exact (phase ▸ finishes : Finishes _ (.publishing row) _).elim

theorem run_orderly (uncaptured : stores.captures = .empty) (settles : ∀ i, (requests i).Settles)
    (distinct : DistinctIds Request.captureId? requests)
    (distinctRefunds : DistinctIds Request.refundCaptureId? requests)
    (run : Relation.ReflTransGen (Traffic.Delivers fails p) (Traffic.start requests stores) t) :
    ∃ o, Orderly fails p stores t o := by
  induction run with
  | refl =>
      refine ⟨⟨stores, [], fun _ => .idle⟩, Traffic.start_shows stores, rfl, rfl, ?_, nofun⟩
      have none : stores.captureRows = [] := by
        rw [Stores.captureRows, uncaptured]
        rfl
      rw [none]
      refine ⟨.nil, nofun, nofun, fun _ => trivial, [], [], (List.append_nil _).symm, .nil, ?_,
        .nil⟩
      exact fun i => ⟨fun member => absurd member List.not_mem_nil, False.elim⟩
  | tail _ step ih =>
      obtain ⟨o, orderly⟩ := ih
      exact orderly.step settles distinct distinctRefunds step

end Delivery

open Delivery

/-- Once no request is running, every stored capture that has not failed belongs to one request,
which was answered with a success or with an error that the publisher failed with.  The events that
were published are one for each request that was answered with a success, and none for any other;
each of them tells what is stored of the row of its request, and of what was captured from. -/
theorem captures_are_announced_once (fails : ι → PaymentError → Prop) (p : Processor)
    (stores : Stores)
    (uncaptured : stores.captures = .empty) (settles : ∀ i, (requests i).Settles)
    (distinct : DistinctIds Request.captureId? requests)
    (distinctRefunds : DistinctIds Request.refundCaptureId? requests)
    (created : ∀ i, ∀ status ∈ (requests i).captureStatus?, status = .created)
    (t : Traffic requests)
    (run : Relation.ReflTransGen (Traffic.Delivers fails p) (Traffic.start requests stores) t)
    (rests : ∀ i, (t.stage i).Rests) :
    (t.stores.captureRows.map CaptureRow.key).Nodup ∧
    (∀ row ∈ t.stores.captureRows, row.status ≠ .failed →
      ∃ i, row.Of (requests i) ∧ (t.stage i).Kept (fails i) ∧
        ∀ j, row.Of (requests j) → j = i) ∧
    ∃ (order : List ι) (events : List Publication),
      t.stores.published = stores.published ++ events ∧ order.Nodup ∧
      (∀ i, i ∈ order ↔ (requests i).Captures ∧ (t.stage i).Accepted) ∧
      List.Forall₂ (fun i event => ∃ row ∈ t.stores.captureRows, row.Of (requests i) ∧
        row.status = .created ∧
        Announces p.topics t.stores.authorizations t.stores.refunds row event) order events := by
  obtain ⟨o, orderly⟩ := run_orderly uncaptured settles distinct distinctRefunds run
  have sound := orderly.sound
  rw [orderly.shows.stores] at sound
  refine ⟨sound.apart, ?_, ?_⟩
  · intro row stored stands
    obtain ⟨i, owns, active, kept⟩ := sound.owned row stored
    have has := kept.resolve_left stands
    refine ⟨i, owns, orderly.kept_of_row i (rests i) has, fun j others => ?_⟩
    exact Books.unique_of_key distinct distinctRefunds others owns rfl
  · obtain ⟨order, events, published, once, ordered, told⟩ := sound.events
    refine ⟨order, events, published, once, fun i => ?_, told.imp fun i event told => ?_⟩
    · rw [ordered i, orderly.published_iff i (rests i)]
    · obtain ⟨row, isPublished, announces⟩ := told
      have has : (o.phase i).row? = some row := by
        rw [isPublished]
        rfl
      obtain ⟨stored, wanted⟩ := sound.held i row has
      refine ⟨row, stored, wanted.of, created i _ wanted.status, ?_⟩
      rwa [← orderly.shows.stores, orderly.authorizations, orderly.refunds]

end

namespace Delivery.Sample

inductive Party where
  | published
  | unpublished
  | withdrawn
  | reversal
  | refund
deriving DecidableEq

def share : Amount := ⟨⟨25000, 4, by decide, by decide⟩, by decide⟩

def capture (id : Nat) : Capture :=
  ⟨.ofNat id, .ofNat 1, share, false, .created, .ofSeconds 7⟩

def refundCapture : RefundCapture :=
  ⟨.ofNat 2, .ofNat 5, share, false, .created, .ofSeconds 8⟩

def requests : Party → Request
  | .published => .capture "psp" (capture 2)
  | .unpublished => .capture "psp" (capture 3)
  | .withdrawn => .capture "psp" (capture 4)
  | .reversal => .reverse "psp" (.ofId (.ofNat 6) (.ofNat 1) (.ofSeconds 9))
  | .refund => .captureRefund "psp" refundCapture

def refund : Refund :=
  { Refund.intake (.ofNat 5) "psp" "shop" share CardPayments.Sample.authorization.currency
      CardPayments.Sample.card (.ofSeconds 0) with status := .approved }

def stores : Stores := { CardPayments.Sample.stores with refunds := ⟨[refund], []⟩ }

def grant : Attached := ⟨some ⟨⟨"00"⟩, 2, none, .ofSeconds 10⟩, none⟩

/-- The second event is about to be published, and the third capture is stored. -/
def stored : Traffic requests :=
  (Traffic.start requests stores).play CardPayments.Sample.processor
    (.start .published :: .start .unpublished :: .start .withdrawn ::
      List.replicate 6 (.answer .published) ++ List.replicate 5 (.answer .unpublished) ++
      List.replicate 4 (.answer .withdrawn))

/-- The publisher fails once; the reversal makes the third capture withdraw, and the capture of the
refund goes its way. -/
def settledAfter (e : PaymentError) : Traffic requests :=
  (stored.refusePublication .unpublished e).play CardPayments.Sample.processor
    (.start .reversal :: .start .refund :: List.replicate 7 (.answer .reversal) ++
      List.replicate 2 (.answer .withdrawn) ++ List.replicate 4 (.answer .refund) ++
      [.exchange .reversal grant (.ok ()), .answer .reversal])

def settled : Traffic requests := settledAfter (.publish "broker down")

/-- The publisher fails with an error of another port. -/
def overshadowed : Traffic requests := settledAfter (.io "disk")

def failsWith (e : PaymentError) (i : Party) (x : PaymentError) : Prop := i = .unpublished ∧ x = e

theorem settledAfter_run (e : PaymentError) :
    Relation.ReflTransGen (Traffic.Delivers (failsWith e) CardPayments.Sample.processor)
      (Traffic.start requests stores) (settledAfter e) := by
  have first : Relation.ReflTransGen (Traffic.Delivers (failsWith e) CardPayments.Sample.processor)
      (Traffic.start requests stores) stored := Traffic.Reaches.delivers
    (Traffic.play_reaches _ _ _ _ (by simp [Act.turn, Turn.Smooth, List.replicate]))
  have refused : Relation.ReflTransGen
      (Traffic.Delivers (failsWith e) CardPayments.Sample.processor) stored
      (stored.refusePublication .unpublished e) :=
    Traffic.refusePublication_delivers ⟨rfl, rfl⟩
  exact first.trans <| refused.trans <| Traffic.Reaches.delivers
    (Traffic.play_reaches _ _ _ _ (by simp [Act.turn, Turn.Smooth, List.replicate]))

-- what comes of the runs is left to the kernel
attribute [irreducible] settledAfter

instance {q : Request} (stage : Stage q) : Decidable stage.Rests :=
  match stage with
  | .waiting => isTrue trivial
  | .dropped => isTrue trivial
  | .running (.finish ..) => isTrue trivial
  | .running (.ask ..) => isFalse id
  | .running (.send ..) => isFalse id

def errorOf {q : Request} (stage : Stage q) : Option PaymentError :=
  match stage.answer? with
  | some (.error e) => some e
  | _ => none

theorem settled_rests (i : Party) : (settled.stage i).Rests := by
  cases i <;> decide +kernel

theorem overshadowed_rests (i : Party) : (overshadowed.stage i).Rests := by
  cases i <;> decide +kernel

theorem requests_created (i : Party) :
    ∀ status ∈ (requests i).captureStatus?, status = .created := by
  intro status asked
  cases i <;> cases asked <;> rfl

theorem requests_distinct : DistinctIds Request.captureId? requests := by
  intro i j id isLeft isRight
  have same := isLeft.trans isRight.symm
  have captures : (requests i).captureId?.isSome := by
    rw [isLeft]
    rfl
  cases i <;> cases j <;> first | rfl | exact absurd same (by decide) | cases captures

theorem requests_distinctRefunds : DistinctIds Request.refundCaptureId? requests := by
  intro i j id isLeft isRight
  cases i with
  | refund =>
      cases j with
      | refund => rfl
      | _ => cases isRight
  | _ => cases isLeft

end Delivery.Sample

open Delivery.Sample in
theorem captures_are_announced_once_withdrawn :
    settled.stores.captureRows.map CaptureRow.status = [.created, .created, .failed, .created] ∧
      settled.stores.published.length = 2 ∧
      (∀ row ∈ settled.stores.captureRows, row.status ≠ .failed →
        ∃ i, row.Of (requests i) ∧ (settled.stage i).Kept (failsWith (.publish "broker down") i) ∧
          ∀ j, row.Of (requests j) → j = i) := by
  obtain ⟨_, stand, _⟩ := captures_are_announced_once (failsWith (.publish "broker down"))
    CardPayments.Sample.processor stores rfl (fun i => by cases i <;> trivial) requests_distinct
    requests_distinctRefunds requests_created settled (settledAfter_run _) settled_rests
  exact ⟨by decide +kernel, by decide +kernel, stand⟩

open Delivery.Sample in
/-- A stored capture stands for a request that was answered with an error, and not with one of
publishing. -/
theorem captures_stand_without_announcement :
    Relation.ReflTransGen
        (Traffic.Delivers (failsWith (.io "disk")) CardPayments.Sample.processor)
        (Traffic.start requests stores) overshadowed ∧
      (∀ i, (overshadowed.stage i).Rests) ∧
      ∃ row ∈ overshadowed.stores.captureRows, row.status ≠ .failed ∧
        ∀ i, row.Of (requests i) → ¬ ((overshadowed.stage i).Accepted ∨
          ∃ e text, (overshadowed.stage i).answer? = some (.error e) ∧ e.root = .publish text) := by
  refine ⟨settledAfter_run _, overshadowed_rests, .ofAuthorization (capture 3), by decide +kernel,
    by decide, fun i own => ?_⟩
  have refused : errorOf (overshadowed.stage .unpublished) =
      some ((PaymentError.io "disk").within "failed to publish capture event") := by
    decide +kernel
  cases i with
  | unpublished =>
      rintro (⟨value, accepted⟩ | ⟨e, text, failed, publishes⟩)
      · rw [errorOf, accepted] at refused
        cases refused
      · rw [errorOf, failed] at refused
        cases refused
        cases publishes
  | published => exact absurd (congrArg Capture.id own) (by decide)
  | withdrawn => exact absurd (congrArg Capture.id own) (by decide)
  | reversal => exact own.elim
  | refund => exact own.elim

end CardPayments
