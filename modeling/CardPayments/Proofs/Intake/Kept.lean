import CardPayments.Proofs.Intake.Custody
import CardPayments.Proofs.Intake.Lifecycle

/-! # What is kept of an accepted transaction

Every request finds in the file of its entity what it has filed there, and only the request that
opened a file changes it.  So what a successful request leaves with its caller is what every later
look at the file shows. -/
set_option autoImplicit false

namespace CardPayments

/-- What a request that was answered with a success leaves with its caller. -/
def Stage.handed? {α : Type} {q : Request} (held? : (q : Request) → q.Held → Option α) :
    Stage q → Option α
  | .running (.finish held (.ok _)) => held? q held
  | _ => none

theorem Stage.handed?_eq {α : Type} {q : Request} {held? : (q : Request) → q.Held → Option α}
    {stage : Stage q} {e : α} (handed : stage.handed? held? = some e) :
    ∃ held value, stage = .running (.finish held (.ok value)) ∧ held? q held = some e := by
  cases stage with
  | running flow =>
      cases flow with
      | finish held answer =>
          cases answer with
          | ok value => exact ⟨held, value, rfl, handed⟩
          | error _ => cases handed
      | ask => cases handed
      | send => cases handed
  | waiting => cases handed
  | dropped => cases handed

namespace Archive

section

variable {α : Type} [Stored α] {k : Archive α} {s t : Stores} {e : α} {phase : Phase α}

theorem Phase.Kept.of_same (kept : phase.Kept k s)
    (same : ∀ id, phase.id? = some id → k.file t id = k.file s id) : phase.Kept k t := by
  cases phase with
  | resting => trivial
  | opened stored => rwa [Phase.Kept, same _ rfl]
  | recorded stored e => rwa [Phase.Kept, same _ rfl]
  | settled e => rwa [Phase.Kept, same _ rfl]

theorem Phase.Kept.row (kept : phase.Kept k s) {id : Uuid} (opened : phase.id? = some id) :
    ∃ row, (k.file s id).rows = [row] := by
  cases phase with
  | resting => cases opened
  | opened stored =>
      obtain rfl := Option.some.inj opened
      exact ⟨_, kept⟩
  | recorded stored e =>
      obtain rfl := Option.some.inj opened
      exact ⟨_, congrArg File.rows kept⟩
  | settled e =>
      obtain rfl := Option.some.inj opened
      exact ⟨_, congrArg File.rows kept⟩

theorem filed_opens {before after : File α} (filed : Filed (.opens e) before after) :
    before.rows = [] ∧ after.rows = [Stored.row e] := by
  cases filed with
  | opens _ _ unknown => exact ⟨unknown, rfl⟩

theorem filed_records {scheme : Scheme} {before after : File α}
    (filed : Filed (.records scheme e) before after) :
    after = ⟨before.rows, Stored.schemeData e⟩ := by
  cases filed with
  | records _ _ data carries => rw [carries]

theorem filed_settles {x : α} {data : Option SchemeData} {after : File α}
    (filed : Filed (.settles e) ⟨[x], data⟩ after) : after = ⟨[Stored.decided e x], data⟩ := by
  cases filed with
  | settles _ _ rows changed => rw [changed.singleton]

/-- What a call that was answered so did to the files: it filed, and then it may have failed
nevertheless; or nothing, and then it failed if it files something. -/
structure Effect (k : Archive α) (call : Call) (answer : Except PaymentError call.Value)
    (s t : Stores) : Prop where
  files : ∀ f, call = k.call f →
    k.Files f s t ∨ (∀ id, k.file t id = k.file s id) ∧ ∃ e, answer = .error e
  apart : (∀ f, call ≠ k.call f) → ∀ id, k.file t id = k.file s id

theorem Effect.refused {call : Call} (e : PaymentError) : k.Effect call (.error e) s s where
  files _ _ := Or.inr ⟨fun _ => rfl, e, rfl⟩
  apart _ _ := rfl

theorem Lawful.effect (lawful : k.Lawful) {call : Call} {answer : Except PaymentError call.Value}
    (answers : s.answer call = (answer, t)) (heard : Except PaymentError call.Value)
    (fits : heard = answer ∨ ∃ e, heard = .error e) : k.Effect call heard s t where
  files := by
    rintro f rfl
    rcases lawful.files s f with ⟨e, failed⟩ | ⟨value, u, done, files⟩
    · rw [answers, Prod.mk.injEq] at failed
      obtain ⟨rfl, rfl⟩ := failed
      refine Or.inr ⟨fun _ => rfl, ?_⟩
      rcases fits with rfl | failed
      · exact ⟨e, rfl⟩
      · exact failed
    · rw [answers, Prod.mk.injEq] at done
      obtain ⟨rfl, rfl⟩ := done
      exact Or.inl files
  apart other id := by
    have same := lawful.apart s call other id
    rwa [answers] at same

end

/-- Every request finds in its file what it has filed, and no two have opened the same one. -/
structure Keeps {α ι : Type} [Stored α] (k : Archive α) (s : Stores) (phase : ι → Phase α) :
    Prop where
  files : ∀ i, (phase i).Kept k s
  alone : ∀ i j id, (phase i).id? = some id → (phase j).id? = some id → i = j

section

variable {α ι : Type} [Stored α] [DecidableEq ι] {k : Archive α} {s t : Stores}
  {phase : ι → Phase α} {i : ι} {after : Phase α}

omit [DecidableEq ι] in
theorem Keeps.of_same (keeps : Keeps k s phase) (same : ∀ id, k.file t id = k.file s id) :
    Keeps k t phase where
  files j := (keeps.files j).of_same fun id _ => same id
  alone := keeps.alone

theorem Keeps.update (keeps : Keeps k s phase) (own : after.Kept k t)
    (others : ∀ j id, j ≠ i → (phase j).id? = some id →
      k.file t id = k.file s id ∧ after.id? ≠ some id) :
    Keeps k t (Function.update phase i after) where
  files j := by
    by_cases same : j = i
    · subst same
      rwa [Function.update_self]
    · rw [Function.update_of_ne same]
      exact (keeps.files j).of_same fun id opened => (others j id same opened).1
  alone j l id openedHere openedThere := by
    by_cases here : j = i <;> by_cases there : l = i
    · rw [here, there]
    · subst here
      rw [Function.update_self] at openedHere
      rw [Function.update_of_ne there] at openedThere
      exact absurd openedHere (others l id there openedThere).2
    · subst there
      rw [Function.update_of_ne here] at openedHere
      rw [Function.update_self] at openedThere
      exact absurd openedThere (others j id here openedHere).2
    · rw [Function.update_of_ne here] at openedHere
      rw [Function.update_of_ne there] at openedThere
      exact keeps.alone j l id openedHere openedThere

theorem Keeps.leave (keeps : Keeps k s phase) (same : ∀ id, k.file t id = k.file s id) :
    Keeps k t (Function.update phase i .resting) :=
  keeps.update trivial fun _ id _ _ => ⟨same id, nofun⟩

/-- A request files something in the file of one entity, which no other request has opened. -/
theorem Keeps.filed (keeps : Keeps k s phase) {f : Filing α} (files : k.Files f s t)
    (alone : ∀ j, (phase j).id? = some (Stored.id f.entity) → j = i) (own : after.Kept k t)
    (ends : ∀ id, after.id? = some id → id = Stored.id f.entity) :
    Keeps k t (Function.update phase i after) := by
  refine keeps.update own fun j id other opened => ?_
  have apart : id ≠ Stored.id f.entity := fun same => other (alone j (same ▸ opened))
  exact ⟨files.others id apart, fun ended => apart (ends id ended)⟩

theorem Keeps.filed_onSuccess (keeps : Keeps k s phase) {f : Filing α} (files : k.Files f s t)
    (alone : ∀ j, (phase j).id? = some (Stored.id f.entity) → j = i) {β : Type}
    (answer : Except PaymentError β) (own : after.Kept k t)
    (ends : after.id? = some (Stored.id f.entity)) :
    Keeps k t (Function.update phase i (.onSuccess answer after)) := by
  cases answer with
  | ok _ =>
      refine keeps.filed files alone own fun id ended => ?_
      exact Option.some.inj (ended.symm.trans ends)
  | error e => exact keeps.filed files alone trivial nofun

theorem Keeps.asked (keeps : Keeps k s phase) {call : Call}
    {answer : Except PaymentError call.Value} (effect : k.Effect call answer s t)
    (asks : Asks k (phase i) call answer after) : Keeps k t (Function.update phase i after) := by
  have kept := keeps.files i
  have alone {id : Uuid} (opened : (phase i).id? = some id) (j : ι)
      (openedToo : (phase j).id? = some id) : j = i :=
    keeps.alone j i id openedToo opened
  generalize now : phase i = current at asks kept alone
  cases asks with
  | other _ _ _ other =>
      rw [← now, Function.update_eq_self]
      exact keeps.of_same (effect.apart other)
  | opens _ _ e files =>
      rcases effect.files _ files with filed | ⟨same, _, rfl⟩
      · obtain ⟨unknown, opened⟩ := filed_opens filed.own
        refine keeps.filed_onSuccess filed (fun j openedToo => ?_) answer opened rfl
        obtain ⟨row, stored⟩ := (keeps.files j).row openedToo
        rw [show (k.file s _).rows = _ from unknown] at stored
        cases stored
      · exact keeps.leave same
  | records _ _ stored e scheme files own =>
      rcases effect.files _ files with filed | ⟨same, _, rfl⟩
      · have recorded := filed_records filed.own
        change k.file t (Stored.id e) = ⟨(k.file s (Stored.id e)).rows, _⟩ at recorded
        rw [own, show (k.file s _).rows = _ from kept] at recorded
        exact keeps.filed_onSuccess filed (alone (congrArg some own.symm)) answer recorded
          (congrArg some own.symm)
      · exact keeps.leave same
  | settles _ _ stored e e' files own sameData decides =>
      rcases effect.files _ files with filed | ⟨same, _, rfl⟩
      · have settled := filed.own
        change Filed _ (k.file s (Stored.id e')) (k.file t (Stored.id e')) at settled
        rw [own, show k.file s _ = _ from kept] at settled
        have row := filed_settles settled
        rw [decides, ← sameData, ← own] at row
        exact keeps.filed_onSuccess filed (alone (congrArg some own.symm)) answer row rfl
      · exact keeps.leave same
  | rejects _ _ stored e files own =>
      rcases effect.files _ files with filed | ⟨same, _, rfl⟩
      · exact keeps.filed filed (alone (congrArg some own.symm)) trivial nofun
      · exact keeps.leave same

/-- A request that has settled its row is not taken back. -/
theorem settled_stays {call : Call} {answer : Except PaymentError call.Value}
    (asks : Asks k (phase i) call answer after) {j : ι} {e : α} (settled : phase j = .settled e) :
    Function.update phase i after j = .settled e := by
  by_cases same : j = i
  · subst same
    rw [settled] at asks
    cases asks
    rw [Function.update_self]
  · rwa [Function.update_of_ne same]

end

section

variable {α ι : Type} [Stored α] [DecidableEq ι] {k : Archive α} {requests : ι → Request}

theorem Keeps.move (lawful : k.Lawful) {o o' : Overview ι (Phase α)} {turn : Turn}
    (keeps : Keeps k o.stores o.phase)
    (move : o.Move (fun i => k.protocolOf (requests i)) turn o') :
    Keeps k o'.stores o'.phase ∧ ∀ i e, o.phase i = .settled e → o'.phase i = .settled e := by
  cases move with
  | still => exact ⟨keeps, fun _ _ settled => settled⟩
  | answered i call answer stores after answers asks =>
      exact ⟨keeps.asked (lawful.effect answers answer (Or.inl rfl)) asks,
        fun _ _ => settled_stays asks⟩
  | refused i call e after asks =>
      exact ⟨keeps.asked (.refused e) asks, fun _ _ => settled_stays asks⟩
  | unheard i call answer stores e after answers asks =>
      exact ⟨keeps.asked (lawful.effect answers _ (Or.inr ⟨e, rfl⟩)) asks,
        fun _ _ => settled_stays asks⟩
  | exchanged i message attached outcome after sends =>
      obtain rfl : after = o.phase i := sends
      rw [Function.update_eq_self]
      exact ⟨keeps, fun _ _ settled => settled⟩

variable {p : Processor} {s t : Traffic requests} {o : Overview ι (Phase α)}

theorem reaches_keeps (lawful : k.Lawful)
    (obeys : ∀ q : Request, (q.flow p).Obeys (k.protocolOf q) .resting)
    (shows : s.Shows (fun i => k.protocolOf (requests i)) .resting o)
    (keeps : Keeps k o.stores o.phase) (reaches : s.Reaches p (fun _ => True) t) :
    ∃ o', t.Shows (fun i => k.protocolOf (requests i)) .resting o' ∧
      Keeps k o'.stores o'.phase ∧ ∀ i e, o.phase i = .settled e → o'.phase i = .settled e := by
  refine reaches.invariant (fun o' => Keeps k o'.stores o'.phase ∧
    ∀ i e, o.phase i = .settled e → o'.phase i = .settled e) (fun i => obeys (requests i))
    (fun _ _ _ _ _ _ _ => trivial) (fun middle turn o' _ held move => ?_) shows
    ⟨keeps, fun _ _ settled => settled⟩
  obtain ⟨keeps, stays⟩ := held
  obtain ⟨keepsAfter, staysAfter⟩ := keeps.move lawful move
  exact ⟨keepsAfter, fun i e settled => staysAfter i e (stays i e settled)⟩

end

section

variable {α ι : Type} [Stored α] [DecidableEq ι] {k : Archive α} {p : Processor}
  {requests : ι → Request} {stores : Stores} {s t : Traffic requests}

/-- What a request has left with its caller stays in its file. -/
theorem file_of_handed (lawful : k.Lawful)
    (obeys : ∀ q : Request, (q.flow p).Obeys (k.protocolOf q) .resting)
    (reaches : (Traffic.start requests stores).Reaches p (fun _ => True) s)
    (later : s.Reaches p (fun _ => True) t) {i : ι} {e : α}
    (handed : (s.stage i).handed? k.held? = some e) :
    (∃ a, k.brought? (requests i) = some a ∧
      Stored.id e = Stored.id a ∧ Stored.psp e = Stored.psp a) ∧
      k.file t.stores (Stored.id e) = ⟨[Stored.row e], Stored.schemeData e⟩ := by
  have start : Keeps k stores fun _ : ι => .resting := ⟨fun _ => trivial, fun _ _ _ => nofun⟩
  obtain ⟨o, shows, keeps, _⟩ :=
    reaches_keeps lawful obeys (Traffic.start_shows stores) start reaches
  obtain ⟨o', showsLater, keepsLater, stays⟩ := reaches_keeps lawful obeys shows keeps later
  obtain ⟨held, value, ends, isHeld⟩ := Stage.handed?_eq handed
  have staged := shows.staged i
  rw [ends] at staged
  obtain ⟨settled, brought⟩ := staged value e rfl isHeld
  have kept := keepsLater.files i
  rw [stays i e settled, showsLater.stores] at kept
  exact ⟨brought, kept⟩

end

end Archive

/-! ## What is shown of a file -/

namespace TransactionStore

variable {α : Type} [Stored α] {s : TransactionStore α} {e : α}
  (stored : s.rows.filter (fun x => Stored.id x = Stored.id e) = [Stored.row e])
include stored

theorem getFull_stored (data : s.schemeData.lookup (Stored.id e) = Stored.schemeData e) :
    s.getFull (Stored.psp e) (Stored.id e) =
      .ok (Stored.withData (Stored.row e) (Stored.schemeData e)) := by
  have found : s.row? (Stored.id e) = some (Stored.row e) := by
    rw [row?, ← List.head?_filter, stored, List.head?_cons]
  rw [getFull, get, found]
  simp only [data, if_pos (Stored.row_psp e)]

/-- However the table is enumerated, the row is listed once. -/
theorem ofPsp_stored (order : List Uuid) :
    (s.ofPsp (Stored.psp e) order).filter (fun x => Stored.id x = Stored.id e) =
      [Stored.row e] := by
  have filtered : (s.rows.filter fun x => Stored.psp x = Stored.psp e).filter
      (fun x => Stored.id x = Stored.id e) = [Stored.row e] := by
    calc (s.rows.filter fun x => Stored.psp x = Stored.psp e).filter
          (fun x => Stored.id x = Stored.id e)
        = (s.rows.filter fun x => Stored.id x = Stored.id e).filter
          (fun x => Stored.psp x = Stored.psp e) := by
          simp only [List.filter_filter, Bool.and_comm]
      _ = [Stored.row e] := by simp [stored, Stored.row_psp]
  have perm := (s.ofPsp_perm (Stored.psp e) order).filter fun x => Stored.id x = Stored.id e
  rw [filtered] at perm
  exact List.perm_singleton.mp perm

end TransactionStore

/-- Whatever happens after an authorization or a refund was answered with a success: its PSP is
shown what was handed back, without the clear number, and finds it once among all that it has. -/
theorem accepted_intakes_are_kept {ι : Type} [DecidableEq ι] (p : Processor)
    (requests : ι → Request) (stores : Stores) (s t : Traffic requests)
    (reaches : (Traffic.start requests stores).Reaches p (fun _ => True) s)
    (later : s.Reaches p (fun _ => True) t) (i : ι) :
    (∀ a held, requests i = .authorize a →
        (s.stage i).handed? Request.heldAuthorization? = some held →
      held.id = a.id ∧ held.psp = a.psp ∧
        (t.stores.answer (.authorization a.psp a.id)).1 =
          .ok { held with card := { held.card with pan := none } } ∧
        ∀ order, ∃ rows, (t.stores.answer (.authorizations a.psp order)).1 = .ok rows ∧
          rows.filter (fun row => row.id = a.id) =
            [{ held with card := { held.card with pan := none }, schemeData := none }]) ∧
      ∀ r held, requests i = .refund r → (s.stage i).handed? Request.heldRefund? = some held →
        held.id = r.id ∧ held.psp = r.psp ∧
          (t.stores.answer (.refund r.psp r.id)).1 =
            .ok { held with card := { held.card with pan := none } } ∧
          ∀ order, ∃ rows, (t.stores.answer (.refunds r.psp order)).1 = .ok rows ∧
            rows.filter (fun row => row.id = r.id) =
              [{ held with card := { held.card with pan := none }, schemeData := none }] := by
  constructor
  · intro a held authorizes handed
    obtain ⟨⟨b, brought, sameId, samePsp⟩, kept⟩ := Archive.file_of_handed
      Archive.authorizations_lawful Archive.authorizations_obeys reaches later handed
    rw [authorizes] at brought
    obtain rfl := Option.some.inj brought
    obtain ⟨rows, data⟩ := Archive.File.mk.inj kept
    refine ⟨sameId, samePsp, ?_⟩
    rw [← show held.psp = a.psp from samePsp, ← show held.id = a.id from sameId]
    exact ⟨TransactionStore.getFull_stored rows data,
      fun order => ⟨_, rfl, TransactionStore.ofPsp_stored rows order⟩⟩
  · intro r held refunds handed
    obtain ⟨⟨x, brought, sameId, samePsp⟩, kept⟩ := Archive.file_of_handed
      Archive.refunds_lawful Archive.refunds_obeys reaches later handed
    rw [refunds] at brought
    obtain rfl := Option.some.inj brought
    obtain ⟨rows, data⟩ := Archive.File.mk.inj kept
    refine ⟨sameId, samePsp, ?_⟩
    rw [← show held.psp = r.psp from samePsp, ← show held.id = r.id from sameId]
    exact ⟨TransactionStore.getFull_stored rows data,
      fun order => ⟨_, rfl, TransactionStore.ofPsp_stored rows order⟩⟩

/-! ## A run -/

namespace Archive.Sample

open Intake CardPayments.Sample

def refund : Refund :=
  .intake (.ofNat 1) "psp" "shop" ten CardPayments.Sample.authorization.currency
    (.ofPan ⟨"4111111111111111"⟩ .visa) (.ofSeconds 0)

/-- An authorization and a refund, and another authorization; all of one id. -/
def requests : Fin 3 → Request
  | 0 => Contest.intakes false
  | 1 => .refund refund
  | 2 => Contest.intakes true

/-- Two tables take the first two entities. -/
def accepted : Traffic requests :=
  (Traffic.start requests .empty).play processor
    ([.start 0, .answer 0, .answer 0, .exchange 0 Contest.grant (.ok ()), .answer 0, .answer 0] ++
      [.start 1, .answer 1, .answer 1, .exchange 1 Contest.grant (.ok ()), .answer 1, .answer 1])

/-- The third request finds its id taken. -/
def later : Traffic requests := accepted.play processor [.start 2, .answer 2, .answer 2]

end Archive.Sample

open Archive.Sample in
theorem accepted_intakes_are_kept_later :
    (∃ held, (accepted.stage 0).handed? Request.heldAuthorization? = some held ∧
        held.card.pan = some ⟨"4111111111111111"⟩ ∧
        (later.stores.answer (.authorization "psp" (.ofNat 1))).1 =
          .ok { held with card := { held.card with pan := none } }) ∧
      ∃ held, (accepted.stage 1).handed? Request.heldRefund? = some held ∧
        held.card.pan = some ⟨"4111111111111111"⟩ ∧
        (later.stores.answer (.refund "psp" (.ofNat 1))).1 =
          .ok { held with card := { held.card with pan := none } } := by
  have reaches : (Traffic.start requests .empty).Reaches Sample.processor (fun _ => True)
      accepted := Traffic.play_reaches Sample.processor _ _ _ fun _ _ => trivial
  have further : accepted.Reaches Sample.processor (fun _ => True) later :=
    Traffic.play_reaches Sample.processor _ _ _ fun _ _ => trivial
  have kept (i : Fin 3) := accepted_intakes_are_kept Sample.processor requests .empty accepted later
    reaches further i
  constructor
  · have clear : ((accepted.stage 0).handed? Request.heldAuthorization?).bind (·.card.pan) =
        some ⟨"4111111111111111"⟩ := by decide +kernel
    obtain ⟨held, handed, isClear⟩ := Option.bind_eq_some_iff.mp clear
    obtain ⟨_, _, shown, _⟩ := (kept 0).1 _ held rfl handed
    exact ⟨held, handed, isClear, shown⟩
  · have clear : ((accepted.stage 1).handed? Request.heldRefund?).bind (·.card.pan) =
        some ⟨"4111111111111111"⟩ := by decide +kernel
    obtain ⟨held, handed, isClear⟩ := Option.bind_eq_some_iff.mp clear
    obtain ⟨_, _, shown, _⟩ := (kept 1).2 _ held rfl handed
    exact ⟨held, handed, isClear, shown⟩

end CardPayments
