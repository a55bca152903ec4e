import CardPayments.Proofs.Intake.Kept

/-! # Decided entities

An entity is filed as new, and only the request that filed it decides on it, once.  So a file whose
row was decided stays as it is, row and scheme data: an id that was filed is never filed again, and
whatever else is filed belongs to a request whose row is still new. -/
set_option autoImplicit false

namespace CardPayments

/-! ## Protocols and footprints -/

section

variable {σ α φ : Type} {P : Protocol σ α φ} {C : Call → Prop} {M : Message → Prop}

/-- The protocol for flows that only make such calls and send such messages. -/
def Protocol.within (P : Protocol σ α φ) (C : Call → Prop) (M : Message → Prop) :
    Protocol σ α φ where
  expects := P.expects
  asks before call answer after := C call ∧ P.asks before call answer after
  sends before message attached outcome after :=
    M message ∧ P.sends before message attached outcome after
  finishes := P.finishes

theorem Flow.Obeys.within {flow : Flow σ α} {phase : φ} (obeys : flow.Obeys P phase)
    (only : flow.Only C M) : flow.Obeys (P.within C M) phase := by
  induction flow generalizing phase with
  | finish held answer => exact obeys
  | ask held call next ih =>
      obtain ⟨value, error⟩ := obeys
      obtain ⟨asks, rest⟩ := only
      constructor
      · intro x expected
        obtain ⟨after, follows, obeys⟩ := value x expected
        exact ⟨after, ⟨asks, follows⟩, ih _ obeys (rest _)⟩
      · intro e
        obtain ⟨after, follows, obeys⟩ := error e
        exact ⟨after, ⟨asks, follows⟩, ih _ obeys (rest _)⟩
  | send held scheme message next ih =>
      obtain ⟨sends, rest⟩ := only
      intro attached outcome
      obtain ⟨after, follows, obeys⟩ := obeys attached outcome
      exact ⟨after, ⟨sends, follows⟩, ih _ _ obeys (rest _ _)⟩

end

namespace Archive

/-! ## New rows -/

section

variable {α : Type} [Stored α] (k : Archive α) (isNew : α → Prop)

/-- While the request may still change the file, the row in it is new. -/
def Phase.Undecided : Phase α → Prop
  | .opened stored => isNew (Stored.row stored)
  | .recorded stored _ => isNew (Stored.row stored)
  | _ => True

def File.Decided {α : Type} (isNew : α → Prop) (file : File α) : Prop :=
  ∃ row ∈ file.rows, ¬ isNew row

/-- Every request keeps its file, and those who may still change theirs hold new rows in it. -/
structure Guards {ι : Type} (s : Stores) (phase : ι → Phase α) : Prop where
  keeps : Keeps k s phase
  undecided : ∀ i, (phase i).Undecided isNew

variable {k isNew} {s t : Stores} {phase after : Phase α} {call : Call}
  {answer : Except PaymentError call.Value}

theorem Asks.undecided (asks : Asks k phase call answer after)
    (opens : ∀ e, call = k.create e → isNew (Stored.row e)) (undecided : phase.Undecided isNew) :
    after.Undecided isNew := by
  cases asks with
  | other => exact undecided
  | opens _ _ e files =>
      cases answer with
      | ok _ => exact opens e files
      | error _ => trivial
  | records =>
      cases answer with
      | ok _ => exact undecided
      | error _ => trivial
  | settles => cases answer <;> trivial
  | rejects => trivial

/-- What a request may file changes no decided file. -/
theorem Asks.file_eq (asks : Asks k phase call answer after) (kept : phase.Kept k s)
    (undecided : phase.Undecided isNew) (effect : k.Effect call answer s t) {id : Uuid}
    (decided : (k.file s id).Decided isNew) : k.file t id = k.file s id := by
  obtain ⟨row, member, old⟩ := decided
  -- The file that is filed in is empty, or its row is new.
  have apart (f : Filing α) (files : call = k.call f)
      (here : k.Files f s t → row ∈ (k.file s (Stored.id f.entity)).rows → isNew row) :
      k.file t id = k.file s id := by
    rcases effect.files f files with filed | ⟨same, _⟩
    · apply filed.others id
      rintro rfl
      exact old (here filed member)
    · exact same id
  have undecidedApart {stored : α} (rows : (k.file s (Stored.id stored)).rows = [Stored.row stored])
      (new : isNew (Stored.row stored)) (f : Filing α) (files : call = k.call f)
      (own : Stored.id f.entity = Stored.id stored) : k.file t id = k.file s id := by
    refine apart f files fun _ inFile => ?_
    rw [own, rows] at inFile
    exact List.mem_singleton.mp inFile ▸ new
  cases asks with
  | other _ _ _ other => exact effect.apart other id
  | opens _ _ e files =>
      refine apart _ files fun filed inFile => ?_
      rw [show (k.file s _).rows = [] from (filed_opens filed.own).1] at inFile
      cases inFile
  | records _ _ _ _ _ files own => exact undecidedApart kept undecided _ files own
  | settles _ _ _ _ _ files own =>
      exact undecidedApart (congrArg File.rows kept) undecided _ files own
  | rejects _ _ _ _ files own => exact undecidedApart kept undecided _ files own

end

section

variable {α ι : Type} [Stored α] [DecidableEq ι] {k : Archive α} {isNew : α → Prop}
  {requests : ι → Request} {p : Processor} {stores : Stores} {s t : Traffic requests}
  {o o' : Overview ι (Phase α)} {turn : Turn}

abbrev strictProtocol (k : Archive α) (q : Request) : Protocol q.Held q.Answer (Phase α) :=
  (k.protocolOf q).within q.Asks q.Sends

theorem Guards.asked {s t : Stores} {phase : ι → Phase α} {i : ι} {after : Phase α} {call : Call}
    {answer : Except PaymentError call.Value} (guards : Guards k isNew s phase)
    (effect : k.Effect call answer s t) (asks : Asks k (phase i) call answer after)
    (opens : ∀ e, call = k.create e → isNew (Stored.row e)) :
    Guards k isNew t (Function.update phase i after) ∧
      ∀ id, (k.file s id).Decided isNew → k.file t id = k.file s id := by
  refine ⟨⟨guards.keeps.asked effect asks, fun j => ?_⟩, fun id decided => ?_⟩
  · by_cases same : j = i
    · subst same
      rw [Function.update_self]
      exact asks.undecided opens (guards.undecided j)
    · rw [Function.update_of_ne same]
      exact guards.undecided j
  · exact asks.file_eq (guards.keeps.files i) (guards.undecided i) effect decided

theorem Guards.move (lawful : k.Lawful)
    (opens : ∀ (q : Request) e, q.Asks (k.create e) → isNew (Stored.row e))
    (guards : Guards k isNew o.stores o.phase)
    (move : o.Move (fun i => k.strictProtocol (requests i)) turn o') :
    Guards k isNew o'.stores o'.phase ∧
      ∀ id, (k.file o.stores id).Decided isNew → k.file o'.stores id = k.file o.stores id := by
  cases move with
  | still => exact ⟨guards, fun _ _ => rfl⟩
  | answered i call answer stores after answers asks =>
      exact guards.asked (lawful.effect answers answer (Or.inl rfl)) asks.2
        fun e creates => opens (requests i) e (creates ▸ asks.1)
  | refused i call e after asks =>
      exact guards.asked (.refused e) asks.2
        fun e creates => opens (requests i) e (creates ▸ asks.1)
  | unheard i call answer stores e after answers asks =>
      exact guards.asked (lawful.effect answers _ (Or.inr ⟨e, rfl⟩)) asks.2
        fun e creates => opens (requests i) e (creates ▸ asks.1)
  | exchanged i message attached outcome after sends =>
      obtain rfl : after = o.phase i := sends.2
      rw [Function.update_eq_self]
      exact ⟨guards, fun _ _ => rfl⟩

theorem reaches_guards (lawful : k.Lawful)
    (opens : ∀ (q : Request) e, q.Asks (k.create e) → isNew (Stored.row e))
    (obeys : ∀ q : Request, (q.flow p).Obeys (k.protocolOf q) .resting)
    (shows : s.Shows (fun i => k.strictProtocol (requests i)) .resting o)
    (guards : Guards k isNew o.stores o.phase) (reaches : s.Reaches p (fun _ => True) t) :
    ∃ o', t.Shows (fun i => k.strictProtocol (requests i)) .resting o' ∧
      Guards k isNew o'.stores o'.phase ∧
        ∀ id, (k.file o.stores id).Decided isNew → k.file o'.stores id = k.file o.stores id := by
  refine reaches.invariant (fun o' => Guards k isNew o'.stores o'.phase ∧
    ∀ id, (k.file o.stores id).Decided isNew → k.file o'.stores id = k.file o.stores id)
    (fun i => (obeys (requests i)).within ((requests i).flow_only p))
    (fun _ _ _ _ _ _ _ => trivial) (fun middle turn o' _ held move => ?_) shows
    ⟨guards, fun _ _ => rfl⟩
  obtain ⟨guards, same⟩ := held
  obtain ⟨guardsAfter, sameAfter⟩ := guards.move lawful opens move
  refine ⟨guardsAfter, fun id decided => ?_⟩
  have was := same id decided
  exact (sameAfter id (was ▸ decided)).trans was

/-- Once the row of a file was decided, nothing changes the file any more. -/
theorem file_of_decided (lawful : k.Lawful)
    (opens : ∀ (q : Request) e, q.Asks (k.create e) → isNew (Stored.row e))
    (obeys : ∀ q : Request, (q.flow p).Obeys (k.protocolOf q) .resting)
    (reaches : (Traffic.start requests stores).Reaches p (fun _ => True) s)
    (later : s.Reaches p (fun _ => True) t) {id : Uuid}
    (decided : (k.file s.stores id).Decided isNew) : k.file t.stores id = k.file s.stores id := by
  have start : Guards k isNew stores fun _ : ι => .resting :=
    ⟨⟨fun _ => trivial, fun _ _ _ => nofun⟩, fun _ => trivial⟩
  obtain ⟨o, shows, guards, _⟩ :=
    reaches_guards lawful opens obeys (Traffic.start_shows stores) start reaches
  obtain ⟨o', showsLater, _, same⟩ := reaches_guards lawful opens obeys shows guards later
  rw [← shows.stores] at decided ⊢
  rw [← showsLater.stores]
  exact same id decided

end

/-! ## Authorizations -/

theorem authorizations_open {q : Request} {a : Authorization}
    (asks : q.Asks (authorizations.create a)) : a.status = .new := by
  rcases asks with reads | writes
  · cases reads.isRead
  · cases q with
    | authorize b => exact writes.2
    | _ => cases writes

theorem row?_eq_head? (s : Stores) (id : Uuid) :
    s.authorizations.row? id = (authorizations.file s id).rows.head? := by
  rw [TransactionStore.row?, ← List.head?_filter]
  rfl

/-- What is shown of an authorization is what its file holds. -/
theorem answer_of_file {s t : Stores} {id : Uuid}
    (same : authorizations.file t id = authorizations.file s id) (psp : String) :
    (t.answer (.authorization psp id)).1 = (s.answer (.authorization psp id)).1 := by
  have data : t.authorizations.schemeData.lookup id = s.authorizations.schemeData.lookup id :=
    congrArg File.data same
  have row : t.authorizations.row? id = s.authorizations.row? id := by
    rw [row?_eq_head?, row?_eq_head?, same]
  change t.authorizations.getFull psp id = s.authorizations.getFull psp id
  rw [TransactionStore.getFull, TransactionStore.get, row, data]
  rfl

section

variable {ι : Type} [DecidableEq ι] {p : Processor} {requests : ι → Request} {stores : Stores}
  {s t : Traffic requests}

/-- What is shown of an authorization that was decided stays the same. -/
theorem authorization_of_decided
    (reaches : (Traffic.start requests stores).Reaches p (fun _ => True) s)
    (later : s.Reaches p (fun _ => True) t) {id : Uuid} {row : Authorization}
    (stored : s.stores.authorizations.row? id = some row) (decided : row.status ≠ .new)
    (psp : String) :
    (t.stores.answer (.authorization psp id)).1 = (s.stores.answer (.authorization psp id)).1 := by
  have member : row ∈ (authorizations.file s.stores id).rows := by
    rw [row?_eq_head?] at stored
    exact List.mem_of_head? stored
  have old : (authorizations.file s.stores id).Decided fun row => row.status = .new :=
    ⟨row, member, decided⟩
  have same := file_of_decided authorizations_lawful (fun _ _ asks => authorizations_open asks)
    authorizations_obeys reaches later old
  exact answer_of_file same psp

end

end Archive
end CardPayments
