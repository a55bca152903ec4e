import CardPayments.Proofs.Store.Rows
import CardPayments.Proofs.Traffic.Basic

/-! # Archives

Authorizations and refunds are archived alike: an entity is stored once, as its row; the data of its
card's scheme is recorded in a table of its own; and an update copies into the row what was decided
of the entity.  Each of these calls is about the file of one entity, and every other call leaves the
archive alone. -/
set_option autoImplicit false

namespace CardPayments

namespace Request

def authorization? : Request → Option Authorization
  | .authorize a => some a
  | _ => none

def refund? : Request → Option Refund
  | .refund r => some r
  | _ => none

def heldAuthorization? : (q : Request) → q.Held → Option Authorization
  | .authorize _, (a : Authorization) => some a
  | _, _ => none

def heldRefund? : (q : Request) → q.Held → Option Refund
  | .refund _, (r : Refund) => some r
  | _, _ => none

end Request

theorem SchemeData.checked_ok {id : Uuid} {data : Option SchemeData} {scheme : Scheme}
    {found : SchemeData} (checked : SchemeData.checked id data scheme = .ok found) :
    data = some found ∧ found.scheme = scheme := by
  cases data with
  | none => simp [SchemeData.checked] at checked
  | some d =>
      by_cases own : d.scheme = scheme
      · simp only [SchemeData.checked, if_pos own, Except.ok.injEq] at checked
        exact ⟨congrArg some checked, checked ▸ own⟩
      · simp [SchemeData.checked, own] at checked

/-- Which requests bring entities of one kind, and by which calls and in which store these are
kept. -/
structure Archive (α : Type) where
  brought? : Request → Option α
  held? : (q : Request) → q.Held → Option α
  store : Stores → TransactionStore α
  create : α → Call
  record : Scheme → α → Call
  update : α → Call

namespace Archive

inductive Filing (α : Type) where
  | opens (e : α)
  | records (scheme : Scheme) (e : α)
  | settles (e : α)

def Filing.entity {α : Type} : Filing α → α
  | .opens e => e
  | .records _ e => e
  | .settles e => e

/-- What the tables hold of one entity. -/
@[ext]
structure File (α : Type) where
  rows : List α
  data : Option SchemeData

variable {α : Type} (k : Archive α)

def call : Filing α → Call
  | .opens e => k.create e
  | .records scheme e => k.record scheme e
  | .settles e => k.update e

variable [Stored α]

def file (s : Stores) (id : Uuid) : File α :=
  ⟨(k.store s).rows.filter fun x => Stored.id x = id, (k.store s).schemeData.lookup id⟩

/-- What a successful filing makes of a file. -/
inductive Filed : Filing α → File α → File α → Prop
  | opens (e : α) (before : File α) (unknown : before.rows = []) :
      Filed (.opens e) before ⟨[Stored.row e], before.data⟩
  | records (e : α) (before : File α) (data : SchemeData)
      (carries : Stored.schemeData e = some data) :
      Filed (.records data.scheme e) before ⟨before.rows, some data⟩
  | settles (e : α) (before : File α) (rows : List α)
      (changed : RowChanged (fun _ => True) (Stored.decided e) before.rows rows) :
      Filed (.settles e) before ⟨rows, before.data⟩

/-- The file of the entity is filed, and all others stay as they are. -/
structure Files (f : Filing α) (s t : Stores) : Prop where
  own : Filed f (k.file s (Stored.id f.entity)) (k.file t (Stored.id f.entity))
  others : ∀ id, id ≠ Stored.id f.entity → k.file t id = k.file s id

/-- A filing fails without effect, or does what it is for; any other call leaves all files alone. -/
structure Lawful : Prop where
  files : ∀ s f, (∃ e, s.answer (k.call f) = (.error e, s)) ∨
    ∃ value t, s.answer (k.call f) = (.ok value, t) ∧ k.Files f s t
  apart : ∀ s call, (∀ f, call ≠ k.call f) → ∀ id, k.file (s.answer call).2 id = k.file s id

section

variable {k} {s t : Stores} {e : α}

theorem files_opens (done : (k.store s).create e = .ok (k.store t)) : k.Files (.opens e) s t := by
  obtain ⟨unknown, stored⟩ := TransactionStore.create_ok done
  have rows : (k.store t).rows = (k.store s).rows ++ [Stored.row e] := by rw [stored]
  have data : (k.store t).schemeData = (k.store s).schemeData := by rw [stored]
  constructor
  case own =>
    have none : (k.file s (Stored.id e)).rows = [] := by
      rw [file, List.filter_eq_nil_iff]
      exact List.find?_eq_none.mp unknown
    have opened : k.file t (Stored.id e) =
        ⟨[Stored.row e], (k.file s (Stored.id e)).data⟩ := by
      ext1
      · rw [file, rows, List.filter_append, show (k.store s).rows.filter _ = [] from none]
        simp [Stored.row_id]
      · simp only [file, data]
    change Filed _ (k.file s (Stored.id e)) (k.file t (Stored.id e))
    rw [opened]
    exact .opens e _ none
  case others =>
    intro id other
    have away : ¬ Stored.id (Stored.row e) = id := fun same =>
      other (same.symm.trans (Stored.row_id e))
    simp [file, rows, data, List.filter_append, away]

theorem files_records {scheme : Scheme}
    (done : (k.store s).createData scheme e = .ok (k.store t)) :
    k.Files (.records scheme e) s t := by
  obtain ⟨found, checked, stored⟩ := TransactionStore.createData_ok done
  obtain ⟨carries, rfl⟩ := SchemeData.checked_ok checked
  have rows : (k.store t).rows = (k.store s).rows := by rw [stored]
  have data : (k.store t).schemeData = (Stored.id e, found) :: (k.store s).schemeData := by
    rw [stored]
  constructor
  case own =>
    have recorded : k.file t (Stored.id e) = ⟨(k.file s (Stored.id e)).rows, some found⟩ := by
      simp [file, rows, data]
    change Filed _ (k.file s (Stored.id e)) (k.file t (Stored.id e))
    rw [recorded]
    exact .records e _ found carries
  case others =>
    intro id other
    simp [file, rows, data, List.lookup_cons,
      beq_false_of_ne (show id ≠ Stored.id e from other)]

theorem files_settles (done : (k.store s).update e = .ok (k.store t)) :
    k.Files (.settles e) s t := by
  obtain ⟨changed, data⟩ := TransactionStore.update_ok done
  constructor
  case own =>
    obtain ⟨front, row, back, split, splitAfter, _⟩ :=
      changed.filter (fun row => Stored.id row = Stored.id e)
        (fun row isRow => decide_eq_true isRow) fun row => by rw [Stored.decided_id]
    have settled := Filed.settles e (k.file s (Stored.id e)) (k.file t (Stored.id e)).rows
      ⟨front, row, back, split, splitAfter, trivial⟩
    have same : (k.file t (Stored.id e)).data = (k.file s (Stored.id e)).data := by
      simp only [file, data]
    rwa [← same] at settled
  case others =>
    intro id other
    have apart := changed.filter_other (fun row => Stored.id row = id)
      (fun row isRow => decide_eq_false fun same => other (same.symm.trans isRow))
      fun row => by rw [Stored.decided_id]
    simp only [file, apart, data]

/-- A call that changes one store, when all that it stores files something. -/
theorem files_changed {σ : Type} {f : Filing α} {put : σ → Stores} {result : Except PaymentError σ}
    (files : ∀ store, result = .ok store → k.Files f s (put store)) :
    (∃ e, s.changed put result = (.error e, s)) ∨
      ∃ value t, s.changed put result = (.ok value, t) ∧ k.Files f s t := by
  rcases s.changed_cases put result with refused | ⟨store, done, stored⟩
  · exact Or.inl refused
  · exact Or.inr ⟨(), put store, stored, files store done⟩

end

theorem mem_file {s : Stores} {x : α} :
    x ∈ (k.file s (Stored.id x)).rows ↔ x ∈ (k.store s).rows := by
  simp [file]

/-- A row after a call is a row before it, perhaps with something decided, or one that the call
stores. -/
theorem Lawful.mem_rows {k : Archive α} (lawful : k.Lawful) {s : Stores} {call : Call} {x : α}
    (member : x ∈ (k.store (s.answer call).2).rows) :
    (∃ old ∈ (k.store s).rows, x = old ∨ ∃ e, x = Stored.decided e old) ∨
      ∃ e, call = k.create e ∧ x = Stored.row e := by
  have old {t : Stores} (same : k.file t (Stored.id x) = k.file s (Stored.id x))
      (after : x ∈ (k.store t).rows) :
      ∃ old ∈ (k.store s).rows, x = old ∨ ∃ e, x = Stored.decided e old := by
    rw [← mem_file, same, mem_file] at after
    exact ⟨x, after, Or.inl rfl⟩
  by_cases files : ∃ f, call = k.call f
  · obtain ⟨f, rfl⟩ := files
    rcases lawful.files s f with ⟨e, failed⟩ | ⟨value, t, done, own, others⟩
    · rw [failed] at member
      exact Or.inl (old rfl member)
    · rw [done] at member
      by_cases here : Stored.id x = Stored.id f.entity
      · rw [← mem_file, here] at member
        generalize became : k.file t (Stored.id f.entity) = after at own member
        generalize was : k.file s (Stored.id f.entity) = before at own
        have inTable {y : α} (inFile : y ∈ before.rows) : y ∈ (k.store s).rows := by
          rw [← was] at inFile
          exact (List.mem_filter.mp inFile).1
        cases own with
        | opens e => exact Or.inr ⟨e, rfl, List.mem_singleton.mp member⟩
        | records => exact Or.inl ⟨x, inTable member, Or.inl rfl⟩
        | settles e _ rows changed =>
            rcases changed.mem member with stays | ⟨row, stays, decided⟩
            · exact Or.inl ⟨x, inTable stays, Or.inl rfl⟩
            · exact Or.inl ⟨row, inTable stays, Or.inr ⟨e, decided⟩⟩
      · exact Or.inl (old (others _ here) member)
  · exact Or.inl (old (lawful.apart s call (not_exists.mp files) _) member)

/-! ## The two archives -/

def authorizations : Archive Authorization where
  brought? := Request.authorization?
  held? := Request.heldAuthorization?
  store := Stores.authorizations
  create := .createAuthorization
  record := .createAuthorizationData
  update := .updateAuthorization

def refunds : Archive Refund where
  brought? := Request.refund?
  held? := Request.heldRefund?
  store := Stores.refunds
  create := .createRefund
  record := .createRefundData
  update := .updateRefund

variable {s : Stores}

theorem authorizations_files (f : Filing Authorization) :
    (∃ e, s.answer (authorizations.call f) = (.error e, s)) ∨
      ∃ value t, s.answer (authorizations.call f) = (.ok value, t) ∧
        authorizations.Files f s t := by
  cases f with
  | opens a => exact files_changed fun store done => files_opens done
  | records scheme a => exact files_changed fun store done => files_records done
  | settles a => exact files_changed fun store done => files_settles done

theorem refunds_files (f : Filing Refund) :
    (∃ e, s.answer (refunds.call f) = (.error e, s)) ∨
      ∃ value t, s.answer (refunds.call f) = (.ok value, t) ∧ refunds.Files f s t := by
  cases f with
  | opens r => exact files_changed fun store done => files_opens done
  | records scheme r => exact files_changed fun store done => files_records done
  | settles r => exact files_changed fun store done => files_settles done

theorem authorizations_apart {call : Call} (other : ∀ f, call ≠ authorizations.call f) :
    (s.answer call).2.authorizations = s.authorizations := by
  by_cases reads : call.IsRead
  · rw [s.answer_read call reads]
  · cases call with
    | tokenize merchant card =>
        simp only [Stores.answer]
        split <;> rfl
    | createAuthorization a => exact absurd rfl (other (.opens a))
    | createAuthorizationData scheme a => exact absurd rfl (other (.records scheme a))
    | updateAuthorization a => exact absurd rfl (other (.settles a))
    | _ =>
        first
        | exact absurd trivial reads
        | exact Stores.changed_view Stores.authorizations fun _ => rfl
        | rfl

theorem refunds_apart {call : Call} (other : ∀ f, call ≠ refunds.call f) :
    (s.answer call).2.refunds = s.refunds := by
  by_cases reads : call.IsRead
  · rw [s.answer_read call reads]
  · cases call with
    | tokenize merchant card =>
        simp only [Stores.answer]
        split <;> rfl
    | createRefund r => exact absurd rfl (other (.opens r))
    | createRefundData scheme r => exact absurd rfl (other (.records scheme r))
    | updateRefund r => exact absurd rfl (other (.settles r))
    | _ =>
        first
        | exact absurd trivial reads
        | exact Stores.changed_view Stores.refunds fun _ => rfl
        | rfl

theorem authorizations_lawful : authorizations.Lawful where
  files _ := authorizations_files
  apart s call other id := by simp only [file, authorizations, authorizations_apart other]

theorem refunds_lawful : refunds.Lawful where
  files _ := refunds_files
  apart s call other id := by simp only [file, refunds, refunds_apart other]

end Archive
end CardPayments
