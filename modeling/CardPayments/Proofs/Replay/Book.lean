import CardPayments.Replay

/-! # The book of a replay

What commands come to, without stores, networks or requests: an amount held under each reference,
how much of it was captured, and whether it is closed or reversed.  Each message to a network takes
the next trace number. -/
set_option autoImplicit false

namespace CardPayments

namespace Replay

theorem bind_eq_ok {ε α β : Type} {x : Except ε α} {f : α → Except ε β} {b : β} :
    (x >>= f) = .ok b ↔ ∃ a, x = .ok a ∧ f a = .ok b := by
  cases x <;> simp [bind, Except.bind]

variable {c : Command} {card : Card} {amount : Amount} {currency : Currency}

theorem required_eq_ok {α : Type} {value : Option α} {field : String} {a : α} :
    required value field = .ok a ↔ value = some a := by
  cases value <;> simp [required]

theorem amountOf_eq_ok : amountOf c = .ok amount ↔ c.amount = some amount.value := by
  simp only [amountOf, bind_eq_ok, required_eq_ok, Amount.ofDecimal_eq_ok, exists_eq_right]

/-- A command pays when it names a scheme, its number is accepted, its amount is above zero and its
currency is a code, in either case and with blanks around it.  It pays the amount of its cell. -/
theorem cardPayment_eq_ok : cardPayment c = .ok (card, amount, currency) ↔
    ∃ name scheme digits pan code,
      c.scheme = some name ∧ Scheme.ofName? (Text.lowerAscii (Text.trim name)) = some scheme ∧
      c.pan = some digits ∧ Pan.check digits = .ok pan ∧ card = .ofPan pan scheme ∧
      c.amount = some amount.value ∧
      c.currency = some code ∧ Text.upperAscii (Text.trim code) = currency.code := by
  simp only [cardPayment, bind_eq_ok, required_eq_ok, Scheme.ofText_eq_ok, amountOf_eq_ok,
    Currency.ofText_eq_ok]
  constructor
  · rintro ⟨name, named, scheme, isScheme, digits, given, pan, accepted, _, stated, code, coded,
      _, isCode, paid⟩
    cases paid
    exact ⟨name, scheme, digits, pan, code, named, isScheme, given, accepted, rfl, stated, coded,
      isCode⟩
  · rintro ⟨name, scheme, digits, pan, code, named, isScheme, given, accepted, rfl, stated, coded,
      isCode⟩
    exact ⟨name, named, scheme, isScheme, digits, given, pan, accepted, amount, stated, code, coded,
      currency, isCode, rfl⟩

end Replay

inductive Standing where
  | running
  /-- A final capture was made. -/
  | closed
  | reversed
deriving DecidableEq, Repr

/-- An amount that may be captured, and the sum of what was. -/
structure Holding where
  amount : Amount
  captured : Decimal
  standing : Standing
deriving DecidableEq

namespace Holding

def ofAmount (amount : Amount) : Holding := ⟨amount, .zero, .running⟩

/-- The holding after a capture, which is final when it is flagged or takes all that is left. -/
def capture (h : Holding) (amount : Amount) (flagged : Bool) : Except PaymentError Holding :=
  if h.standing = .closed then .error .finalCaptureExists
  else
    match h.captured.plus amount.value with
    | .error e => .error e
    | .ok total =>
        if h.amount.value.below total then .error .authorizedAmountExceeded
        else if h.standing = .reversed then .error .alreadyReversed
        else
          .ok { h with
            captured := total
            standing := if flagged || total.same h.amount.value then .closed else .running }

/-- What a reversal gives back, and the holding after it. -/
def reverse (h : Holding) : Except PaymentError (Decimal × Holding) :=
  match h.standing with
  | .reversed => .error (PaymentError.alreadyReversed.within "invalid reversal")
  | .closed => .error (PaymentError.finalCaptureExists.within "invalid reversal")
  | .running =>
      match h.amount.value.minus h.captured with
      | .error e => .error e
      | .ok left => .ok (left, { h with standing := .reversed })

end Holding

inductive Entry where
  | riskDeclined
  | held (h : Holding)
deriving DecidableEq

def Command.key (c : Command) : ReferenceKey := (c.psp, c.reference)

structure Book where
  authorizations : ReferenceKey → Option Entry
  refunds : ReferenceKey → Option Holding
  /-- How many messages were sent. -/
  sent : Nat

namespace Book

open Replay

def empty : Book := ⟨fun _ => none, fun _ => none, 0⟩

def enter (b : Book) (key : ReferenceKey) (entry : Entry) : Book :=
  { b with
    authorizations := fun other => if other = key then some entry else b.authorizations other }

def enterRefund (b : Book) (key : ReferenceKey) (h : Holding) : Book :=
  { b with refunds := fun other => if other = key then some h else b.refunds other }

def send (b : Book) : Book := { b with sent := b.sent + 1 }

def unknown (c : Command) : PaymentError := .invalid (.unknownReference c.reference)

variable (ceiling : Decimal) (number : Nat → UInt64)

/-- The detail of an approval that took the next trace number. -/
def approval (b : Book) : String :=
  "code=00 stan=" ++ String.ofList (Text.digits (number b.sent).toNat)

def authorize (b : Book) (c : Command) : Except PaymentError Applied × Book :=
  match cardPayment c with
  | .error e => (.error e, b)
  | .ok (_, amount, _) =>
      if c.exemption = some .lowValue ∧ ceiling.below amount.value = true then
        (.error ((PaymentError.lowValueExceeded amount.value ceiling).within
          "risk assessment failed"), b.enter c.key .riskDeclined)
      else
        (.ok ⟨"approved", amount.toText, b.approval number⟩,
          (b.enter c.key (.held (.ofAmount amount))).send)

def capture (b : Book) (c : Command) : Except PaymentError Applied × Book :=
  match b.authorizations c.key, amountOf c with
  | none, _ => (.error (unknown c), b)
  | some _, .error e => (.error e, b)
  | some .riskDeclined, .ok _ =>
      (.error (PaymentError.authorizationDeclined.within "invalid capture"), b)
  | some (.held h), .ok amount =>
      match h.capture amount (c.isFinal.getD false) with
      | .error e => (.error (e.within "invalid capture"), b)
      | .ok h =>
          (.ok ⟨"captured", amount.toText, finalDetail (h.standing = .closed)⟩,
            b.enter c.key (.held h))

def reverse (b : Book) (c : Command) : Except PaymentError Applied × Book :=
  match b.authorizations c.key with
  | none => (.error (unknown c), b)
  | some .riskDeclined =>
      (.error (PaymentError.authorizationNotApproved.within "invalid reversal"), b)
  | some (.held h) =>
      match h.reverse with
      | .error e => (.error e, b)
      | .ok (left, h) =>
          (.ok ⟨"succeeded", left.strip.toText, b.approval number⟩,
            (b.enter c.key (.held h)).send)

def refund (b : Book) (c : Command) : Except PaymentError Applied × Book :=
  match cardPayment c with
  | .error e => (.error e, b)
  | .ok (_, amount, _) =>
      (.ok ⟨"approved", amount.toText, b.approval number⟩,
        (b.enterRefund c.key (.ofAmount amount)).send)

def captureRefund (b : Book) (c : Command) : Except PaymentError Applied × Book :=
  match b.refunds c.key, amountOf c with
  | none, _ => (.error (unknown c), b)
  | some _, .error e => (.error e, b)
  | some h, .ok amount =>
      match h.capture amount (c.isFinal.getD false) with
      | .error e => (.error (e.within "invalid refund capture"), b)
      | .ok h =>
          (.ok ⟨"captured", amount.toText, finalDetail (h.standing = .closed)⟩,
            b.enterRefund c.key h)

def echo (b : Book) (c : Command) : Except PaymentError Applied × Book :=
  match (required c.scheme "scheme").bind Scheme.ofText with
  | .error e => (.error e, b)
  | .ok scheme => (.ok ⟨"ok", "", "scheme=" ++ scheme.name⟩, b.send)

def apply (b : Book) (c : Command) : Except PaymentError Applied × Book :=
  match c.kind with
  | .authorize => b.authorize ceiling number c
  | .capture => b.capture c
  | .reverse => b.reverse number c
  | .refund => b.refund number c
  | .captureRefund => b.captureRefund c
  | .echo => b.echo c

def applyAll (b : Book) : List (Except ReadError Command) → Result Book
  | [] => ⟨[], none, b⟩
  | .error e :: rest => (applyAll b rest).after (.error e)
  | .ok c :: rest =>
      match b.apply ceiling number c with
      | (.ok applied, b) => (applyAll b rest).after (.ok (outcome c (.ok applied)))
      | (.error e, b) =>
          match e.overflow? with
          | some operation => ⟨[], some operation, b⟩
          | none => (applyAll b rest).after (.ok (outcome c (.error e)))

variable {ceiling number} {b : Book} {c : Command} {e : PaymentError}

theorem refund_error (failed : (b.refund number c).1 = .error e) : (b.refund number c).2 = b := by
  rw [refund] at failed ⊢
  split at failed
  · rfl
  · cases failed

end Book
end CardPayments
