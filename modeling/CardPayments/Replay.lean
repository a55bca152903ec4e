import CardPayments.Csv.Command
import CardPayments.Csv.Outcome
import CardPayments.Session.Operation

/-! # Replaying commands

Commands are applied one after the other, and each has an outcome.  A reference belongs to a PSP; an
`authorize` or `refund` command defines it, and later commands look it up.  An authorization that
the risk rules rejected is stored, so that its reference can be looked up as well. -/
set_option autoImplicit false

namespace CardPayments

/-- Something that runs requests, and is in some state after each. -/
structure Host (ω : Type) where
  run : {σ α : Type} → ω → Flow σ α → (σ × Except PaymentError α) × ω

namespace Host

/-- A system runs requests without interruption. -/
def system : Host System := ⟨Flow.run⟩

/-- A session runs requests against its script and its limit. -/
def session : Host Session := ⟨Session.runLimited⟩

end Host

/-- Keys of references: a PSP and its own name for a transaction. -/
abbrev ReferenceKey := String × String

/-- What the references stand for, latest definition first, and the number of the next entity. -/
structure Replay where
  authorizations : List (ReferenceKey × Uuid)
  refunds : List (ReferenceKey × Uuid)
  nextId : Nat
deriving DecidableEq, Repr

namespace Replay

def empty : Replay := ⟨[], [], 1⟩

def fresh (r : Replay) : Uuid × Replay := (.ofNat r.nextId, { r with nextId := r.nextId + 1 })

structure Applied where
  status : String
  amount : String
  detail : String
deriving DecidableEq, Repr

def required {α : Type} (value : Option α) (field : String) : Except PaymentError α :=
  match value with
  | some a => .ok a
  | none => .error (.invalid (.missing field))

def lookup (references : List (ReferenceKey × Uuid)) (c : Command) : Except PaymentError Uuid :=
  match references.lookup (c.psp, c.reference) with
  | some id => .ok id
  | none => .error (.invalid (.unknownReference c.reference))

def amountOf (c : Command) : Except PaymentError Amount := do
  Amount.ofDecimal (← required c.amount "amount")

def cardPayment (c : Command) : Except PaymentError (Card × Amount × Currency) := do
  let scheme ← Scheme.ofText (← required c.scheme "scheme")
  let pan ← Pan.check (← required c.pan "pan")
  let amount ← amountOf c
  let currency ← Currency.ofText (← required c.currency "currency")
  return (.ofPan pan scheme, amount, currency)

def responseDetail : Option SchemeResponse → String
  | none => ""
  | some r => "code=" ++ r.code.text ++ " stan=" ++ String.ofList (Text.digits r.stan.toNat)

def finalDetail (isFinal : Bool) : String := if isFinal then "final=true" else "final=false"

variable {ω : Type}

/-- Authorizes, and defines the reference unless nothing was stored or the exchange failed. -/
def authorize (h : Host ω) (p : Processor) (w : ω) (r : Replay) (c : Command) :
    Except PaymentError Applied × Replay × ω :=
  match cardPayment c with
  | .error e => (.error e, r, w)
  | .ok (card, amount, currency) =>
      let (id, r) := r.fresh
      let a := Authorization.intake id c.psp c.psp amount currency card
        (c.exemption.getD .none) default
      let ((a, answer), w) := h.run w (p.authorize a)
      let isDefined := answer.isOk || a.status != .new
      let r :=
        if isDefined then
          { r with authorizations := ((c.psp, c.reference), id) :: r.authorizations }
        else r
      (answer.map fun _ => ⟨a.status.name, a.amount.toText, responseDetail a.response⟩, r, w)

/-- Refunds, and defines the reference when that succeeded. -/
def refund (h : Host ω) (p : Processor) (w : ω) (r : Replay) (c : Command) :
    Except PaymentError Applied × Replay × ω :=
  match cardPayment c with
  | .error e => (.error e, r, w)
  | .ok (card, amount, currency) =>
      let (id, r) := r.fresh
      let x := Refund.intake id c.psp c.psp amount currency card default
      let ((x, answer), w) := h.run w (p.refund x)
      let r :=
        if answer.isOk then { r with refunds := ((c.psp, c.reference), id) :: r.refunds } else r
      (answer.map fun _ => ⟨x.status.name, x.amount.toText, responseDetail x.response⟩, r, w)

def capture (h : Host ω) (p : Processor) (w : ω) (r : Replay) (c : Command) :
    Except PaymentError Applied × Replay × ω :=
  match lookup r.authorizations c, amountOf c with
  | .error e, _ => (.error e, r, w)
  | .ok _, .error e => (.error e, r, w)
  | .ok authorizationId, .ok amount =>
      let (id, r) := r.fresh
      let (ran, w) := h.run w (p.capture c.psp
        ⟨id, authorizationId, amount, c.isFinal.getD false, .created, default⟩)
      (ran.2.map fun x => ⟨"captured", x.amount.toText, finalDetail x.isFinal⟩, r, w)

def captureRefund (h : Host ω) (p : Processor) (w : ω) (r : Replay) (c : Command) :
    Except PaymentError Applied × Replay × ω :=
  match lookup r.refunds c, amountOf c with
  | .error e, _ => (.error e, r, w)
  | .ok _, .error e => (.error e, r, w)
  | .ok refundId, .ok amount =>
      let (id, r) := r.fresh
      let (ran, w) := h.run w (p.captureRefund c.psp
        ⟨id, refundId, amount, c.isFinal.getD false, .created, default⟩)
      (ran.2.map fun x => ⟨"captured", x.amount.toText, finalDetail x.isFinal⟩, r, w)

def reverse (h : Host ω) (p : Processor) (w : ω) (r : Replay) (c : Command) :
    Except PaymentError Applied × Replay × ω :=
  match lookup r.authorizations c with
  | .error e => (.error e, r, w)
  | .ok authorizationId =>
      let (id, r) := r.fresh
      let ((x, answer), w) := h.run w (p.reverse c.psp (.ofId id authorizationId default))
      let amount := (x.amount.map Amount.toText).getD ""
      (answer.map fun _ => ⟨x.status.name, amount, responseDetail x.response⟩, r, w)

def echo (h : Host ω) (p : Processor) (w : ω) (r : Replay) (c : Command) :
    Except PaymentError Applied × Replay × ω :=
  match (required c.scheme "scheme").bind Scheme.ofText with
  | .error e => (.error e, r, w)
  | .ok scheme =>
      let (ran, w) := h.run w (p.echo scheme)
      (ran.2.map fun _ => ⟨"ok", "", "scheme=" ++ scheme.name⟩, r, w)

def apply (h : Host ω) (p : Processor) (w : ω) (r : Replay) (c : Command) :
    Except PaymentError Applied × Replay × ω :=
  match c.kind with
  | .authorize => authorize h p w r c
  | .capture => capture h p w r c
  | .reverse => reverse h p w r c
  | .refund => refund h p w r c
  | .captureRefund => captureRefund h p w r c
  | .echo => echo h p w r c

def outcome (c : Command) : Except PaymentError Applied → Outcome
  | .ok applied =>
      ⟨c.reference, c.kind.name, "ok", applied.status, applied.amount, applied.detail⟩
  | .error e => ⟨c.reference, c.kind.name, "error", "", "", e.message⟩

/-- What is left of a file of commands: the outcomes and read errors in order, the overflow at which
it stopped, and the state of the host. -/
structure Result (ω : Type) where
  rows : List (Except ReadError Outcome)
  overflow : Option Decimal.Overflow
  state : ω

def Result.after (row : Except ReadError Outcome) (result : Result ω) : Result ω :=
  { result with rows := row :: result.rows }

/-- Applies the commands of a file in order; an overflow of decimals stops it. -/
def applyAll (h : Host ω) (p : Processor) (w : ω) (r : Replay) :
    List (Except ReadError Command) → Result ω
  | [] => ⟨[], none, w⟩
  | .error e :: rest => (applyAll h p w r rest).after (.error e)
  | .ok c :: rest =>
      let (answer, r, w) := apply h p w r c
      match answer with
      | .ok applied => (applyAll h p w r rest).after (.ok (outcome c (.ok applied)))
      | .error e =>
          match e.overflow? with
          | some operation => ⟨[], some operation, w⟩
          | none => (applyAll h p w r rest).after (.ok (outcome c (.error e)))

def Result.outcomes (result : Result ω) : List Outcome :=
  result.rows.filterMap Except.toOption

end Replay
end CardPayments
