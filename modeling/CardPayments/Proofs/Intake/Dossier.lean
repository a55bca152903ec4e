import CardPayments.Proofs.Intake.Archive

/-! # Dossiers of transactions

What an authorization and a refund have in common is told alike: a row, opened once and settled
later, and the data of the card's scheme.  It is told here what each call files, and what that does
to the dossier of one transaction; all other dossiers stay as they are. -/
set_option autoImplicit false

namespace CardPayments

inductive Kind where
  | authorization
  | refund
deriving DecidableEq, Repr

/-- What authorizations and refunds have in common, without the scheme data. -/
structure Transaction where
  id : Uuid
  psp : String
  merchant : String
  amount : Amount
  currency : Currency
  card : Card
  createdAt : Instant
  status : Status
  response : Option SchemeResponse
deriving DecidableEq

def Transaction.settled (status : Status) (response : Option SchemeResponse) (x : Transaction) :
    Transaction :=
  { x with status := status, response := response }

def Authorization.transaction (a : Authorization) : Transaction :=
  ⟨a.id, a.psp, a.merchant, a.amount, a.currency, a.card, a.createdAt, a.status, a.response⟩

def Refund.transaction (r : Refund) : Transaction :=
  ⟨r.id, r.psp, r.merchant, r.amount, r.currency, r.card, r.createdAt, r.status, r.response⟩

namespace Intake

/-- Names one transaction. -/
@[ext]
structure Key where
  kind : Kind
  id : Uuid
deriving DecidableEq

inductive Filing where
  | opens (x : Transaction)
  | records (scheme : Scheme) (data : Option SchemeData)
  | settles (status : Status) (response : Option SchemeResponse)

structure Tables where
  rows : List Transaction
  data : List (Uuid × SchemeData)

structure Dossier where
  rows : List Transaction
  data : Option SchemeData

end Intake

open Intake

def Intake.Tables.dossier (tables : Tables) (id : Uuid) : Dossier :=
  ⟨tables.rows.filter fun x => x.id = id, tables.data.lookup id⟩

def TransactionStore.tables {α : Type} (view : α → Transaction) (s : TransactionStore α) : Tables :=
  ⟨s.rows.map view, s.schemeData⟩

namespace Stores

def tables (s : Stores) : Kind → Tables
  | .authorization => s.authorizations.tables Authorization.transaction
  | .refund => s.refunds.tables Refund.transaction

def dossier (s : Stores) (key : Key) : Dossier := (s.tables key.kind).dossier key.id

end Stores

def Call.filing? : Call → Option (Key × Filing)
  | .createAuthorization a => some (⟨.authorization, a.id⟩, .opens a.row.transaction)
  | .createAuthorizationData scheme a =>
      some (⟨.authorization, a.id⟩, .records scheme a.schemeData)
  | .updateAuthorization a => some (⟨.authorization, a.id⟩, .settles a.status a.response)
  | .createRefund r => some (⟨.refund, r.id⟩, .opens r.row.transaction)
  | .createRefundData scheme r => some (⟨.refund, r.id⟩, .records scheme r.schemeData)
  | .updateRefund r => some (⟨.refund, r.id⟩, .settles r.status r.response)
  | _ => none

def Message.key? : Message → Option Key
  | .authorize a => some ⟨.authorization, a.id⟩
  | .refund r => some ⟨.refund, r.id⟩
  | _ => none

def Request.key? : Request → Option Key
  | .authorize a => some ⟨.authorization, a.id⟩
  | .refund r => some ⟨.refund, r.id⟩
  | _ => none

namespace Intake

/-! ## What a filing does -/

inductive Dossier.Filed : Filing → Dossier → Dossier → Prop
  | opens (x : Transaction) (before : Dossier) (unknown : before.rows = []) :
      Filed (.opens x) before ⟨[x], before.data⟩
  | records (data : SchemeData) (before : Dossier) :
      Filed (.records data.scheme (some data)) before ⟨before.rows, some data⟩
  | settles (status : Status) (response : Option SchemeResponse) (before : Dossier)
      (rows : List Transaction)
      (changed : RowChanged (fun _ => True) (Transaction.settled status response)
        before.rows rows) :
      Filed (.settles status response) before ⟨rows, before.data⟩

end Intake

/-! ## Dossiers of an archive -/

/-- What a file holds of transactions. -/
def Archive.File.dossier {α : Type} (view : α → Transaction) (file : Archive.File α) : Dossier :=
  ⟨file.rows.map view, file.data⟩

def Archive.Filing.filing {α : Type} [Stored α] (view : α → Transaction) :
    Archive.Filing α → Intake.Filing
  | .opens e => .opens (view (Stored.row e))
  | .records scheme e => .records scheme (Stored.schemeData e)
  | .settles e => .settles (view e).status (view e).response

namespace Stores

/-- A filing for one transaction: it fails without effect, or leaves all other dossiers alone. -/
def Files {α : Type} (s : Stores) (key : Key) (filing : Filing)
    (answered : Except PaymentError α × Stores) : Prop :=
  (∃ e, answered = (.error e, s)) ∨
    ∃ value t, answered = (.ok value, t) ∧ Dossier.Filed filing (s.dossier key) (t.dossier key) ∧
      ∀ other, other ≠ key → t.dossier other = s.dossier other

end Stores

/-- The dossiers of one kind are what the files of an archive hold. -/
structure Intake.Shown {α : Type} [Stored α] (k : Archive α) (kind : Kind)
    (view : α → Transaction) : Prop where
  lawful : k.Lawful
  dossier : ∀ (s : Stores) id, s.dossier ⟨kind, id⟩ = (k.file s id).dossier view
  decides : ∀ e row,
    view (Stored.decided e row) = (view row).settled (view e).status (view e).response
  /-- The dossiers of the other kind are left alone. -/
  apart : ∀ (s : Stores) f kind' id, kind' ≠ kind →
    (s.answer (k.call f)).2.dossier ⟨kind', id⟩ = s.dossier ⟨kind', id⟩

namespace Intake.Shown

section

variable {α : Type} [Stored α] {k : Archive α} {kind : Kind} {view : α → Transaction}
  (shown : Shown k kind view)

include shown

theorem filed {f : Archive.Filing α} {before after : Archive.File α}
    (filed : Archive.Filed f before after) :
    Dossier.Filed (f.filing view) (before.dossier view) (after.dossier view) := by
  cases filed with
  | opens e _ unknown =>
      have none : before.rows.map view = [] := by rw [unknown, List.map_nil]
      exact .opens (view (Stored.row e)) (before.dossier view) none
  | records e _ data carries =>
      change Dossier.Filed (.records data.scheme (Stored.schemeData e)) _ _
      rw [carries]
      exact .records data (before.dossier view)
  | settles e _ rows changed =>
      exact .settles _ _ (before.dossier view) _
        (changed.map view (fun _ _ => trivial) (shown.decides e))

theorem files (s : Stores) (f : Archive.Filing α) :
    s.Files ⟨kind, Stored.id f.entity⟩ (f.filing view) (s.answer (k.call f)) := by
  rcases shown.lawful.files s f with failed | ⟨value, t, done, files⟩
  · exact Or.inl failed
  · refine Or.inr ⟨value, t, done, ?_, fun other ne => ?_⟩
    · rw [shown.dossier, shown.dossier]
      exact shown.filed files.own
    · obtain ⟨kind', id⟩ := other
      by_cases same : kind' = kind
      · subst same
        rw [shown.dossier, shown.dossier, files.others id fun sameId => ne (by rw [sameId])]
      · have kept := shown.apart s f kind' id same
        rwa [done] at kept

theorem answer_dossier (s : Stores) {call : Call} (other : ∀ f, call ≠ k.call f) (id : Uuid) :
    (s.answer call).2.dossier ⟨kind, id⟩ = s.dossier ⟨kind, id⟩ := by
  rw [shown.dossier, shown.dossier, shown.lawful.apart s call other]

end

theorem authorization_dossier (s : Stores) (id : Uuid) :
    s.dossier ⟨.authorization, id⟩ =
      (Archive.authorizations.file s id).dossier Authorization.transaction := by
  simp only [Stores.dossier, Tables.dossier, Stores.tables, TransactionStore.tables,
    List.filter_map]
  rfl

theorem refund_dossier (s : Stores) (id : Uuid) :
    s.dossier ⟨.refund, id⟩ = (Archive.refunds.file s id).dossier Refund.transaction := by
  simp only [Stores.dossier, Tables.dossier, Stores.tables, TransactionStore.tables,
    List.filter_map]
  rfl

theorem authorizations : Shown Archive.authorizations .authorization Authorization.transaction where
  lawful := Archive.authorizations_lawful
  dossier := authorization_dossier
  decides _ _ := rfl
  apart s f kind' id other := by
    cases kind' with
    | authorization => exact absurd rfl other
    | refund =>
        rw [refund_dossier, refund_dossier, Archive.refunds_lawful.apart]
        intro g
        cases f <;> cases g <;> exact nofun

theorem refunds : Shown Archive.refunds .refund Refund.transaction where
  lawful := Archive.refunds_lawful
  dossier := refund_dossier
  decides _ _ := rfl
  apart s f kind' id other := by
    cases kind' with
    | refund => exact absurd rfl other
    | authorization =>
        rw [authorization_dossier, authorization_dossier, Archive.authorizations_lawful.apart]
        intro g
        cases f <;> cases g <;> exact nofun

end Intake.Shown

namespace Stores

theorem answer_filing (s : Stores) {call : Call} {key : Key} {filing : Filing}
    (files : call.filing? = some (key, filing)) : s.Files key filing (s.answer call) := by
  cases call <;> simp only [Call.filing?, Option.some.injEq, Prod.mk.injEq, reduceCtorEq] at files
  case createAuthorization a =>
    obtain ⟨rfl, rfl⟩ := files
    exact Shown.authorizations.files s (.opens a)
  case createAuthorizationData scheme a =>
    obtain ⟨rfl, rfl⟩ := files
    exact Shown.authorizations.files s (.records scheme a)
  case updateAuthorization a =>
    obtain ⟨rfl, rfl⟩ := files
    exact Shown.authorizations.files s (.settles a)
  case createRefund r =>
    obtain ⟨rfl, rfl⟩ := files
    exact Shown.refunds.files s (.opens r)
  case createRefundData scheme r =>
    obtain ⟨rfl, rfl⟩ := files
    exact Shown.refunds.files s (.records scheme r)
  case updateRefund r =>
    obtain ⟨rfl, rfl⟩ := files
    exact Shown.refunds.files s (.settles r)

theorem answer_dossier (s : Stores) {call : Call} (files : call.filing? = none) (key : Key) :
    (s.answer call).2.dossier key = s.dossier key := by
  obtain ⟨kind, id⟩ := key
  cases kind with
  | authorization =>
      refine Shown.authorizations.answer_dossier s ?_ id
      rintro f rfl
      cases f <;> cases files
  | refund =>
      refine Shown.refunds.answer_dossier s ?_ id
      rintro f rfl
      cases f <;> cases files

end Stores
end CardPayments
