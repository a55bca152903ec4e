import CardPayments.Decimal.Arithmetic
import CardPayments.Scheme
import CardPayments.Text.Quoted
import CardPayments.Uuid

/-! # Errors

What can go wrong in a payment, as causes; their wording is in `message` alone.  A step that fails
adds its own name in front of the error it got; decisions look at the innermost cause, the root. -/
set_option autoImplicit false

namespace CardPayments

inductive Invalid where
  | amountNotPositive
  | currency (text : String)
  | scheme (text : String)
  | panLength
  | panChecksum
  | missing (field : String)
  | unknownReference (reference : String)
  | otherAuthorization
  | noScheme
  | noSchemeData (id : Uuid) (scheme : Scheme)
  | invertedRange (sequence : String) (least greatest : UInt64)
  | batchSize (sequence : String)
  | config
  | other (text : String)
deriving DecidableEq

def Invalid.message : Invalid → String
  | .amountNotPositive => "Amount must be positive"
  | .currency text => "invalid currency code: " ++ Text.quoted text
  | .scheme text => "unsupported card scheme: " ++ text
  | .panLength => "PAN must be 12 to 19 digits"
  | .panChecksum => "PAN fails the Luhn check"
  | .missing field => "missing " ++ field
  | .unknownReference reference => "unknown reference " ++ reference
  | .otherAuthorization => "reversal references a different authorization"
  | .noScheme => "transaction carries no card scheme"
  | .noSchemeData id expected => id.toText ++ " carries no " ++ expected.name ++ " scheme data"
  | .invertedRange sequence least greatest =>
      "sequence " ++ sequence ++ ": min_value " ++ String.ofList (Text.digits least.toNat) ++
        " exceeds max_value " ++ String.ofList (Text.digits greatest.toNat)
  | .batchSize sequence =>
      "sequence " ++ sequence ++ ": batch_size must be between 1 and the size of the range"
  | .config => "invalid config"
  | .other text => text

inductive Internal where
  | unavailable
  | json
  | decimal
  /-- An exact result that no decimal can hold. -/
  | overflow (operation : Decimal.Overflow)
  | other (text : String)
deriving DecidableEq

def Internal.message : Internal → String
  | .unavailable => "sequence store unavailable"
  | .json => "malformed JSON value"
  | .decimal => "malformed decimal"
  | .overflow operation => operation.message
  | .other text => text

inductive PaymentError where
  | authorizedAmountExceeded
  | finalCaptureExists
  | alreadyReversed
  | authorizationDeclined
  | authorizationNotApproved
  | refundDeclined
  | lowValueExceeded (amount ceiling : Decimal)
  | recordNotFound
  | duplicateValue
  | formatError
  | unknownSequence (name : String)
  | sequenceClosed (name : String)
  | noConnection (scheme : String)
  | tokenization (text : String)
  | network (text : String)
  | publish (text : String)
  | invalid (cause : Invalid)
  | deadlineExceeded
  | io (text : String)
  | internal (cause : Internal)
  | context (step : String) (cause : PaymentError)
deriving DecidableEq

namespace PaymentError

instance : Inhabited PaymentError := ⟨.recordNotFound⟩

def root : PaymentError → PaymentError
  | .context _ cause => cause.root
  | e => e

def within (e : PaymentError) (step : String) : PaymentError := .context step e

def message : PaymentError → String
  | .authorizedAmountExceeded => "authorized amount exceeded"
  | .finalCaptureExists => "final capture already exists"
  | .alreadyReversed => "authorization already reversed"
  | .authorizationDeclined => "authorization declined"
  | .authorizationNotApproved => "authorization not approved"
  | .refundDeclined => "refund declined"
  | .lowValueExceeded amount ceiling =>
      "low value exemption not allowed for amount " ++ amount.toText ++ " (ceiling " ++
        ceiling.toText ++ ")"
  | .recordNotFound => "record not found"
  | .duplicateValue => "duplicate value on unique index"
  | .formatError => "format error reported by the card network"
  | .unknownSequence name => "unknown sequence: " ++ name
  | .sequenceClosed name => "sequence " ++ name ++ " is no longer being filled"
  | .noConnection scheme => "no connection for scheme " ++ scheme
  | .tokenization text => "tokenizer error: " ++ text
  | .network text => "card network error: " ++ text
  | .publish text => "publish error: " ++ text
  | .invalid cause => "validation error: " ++ cause.message
  | .deadlineExceeded => "deadline exceeded"
  | .io text => "IO error: " ++ text
  | .internal cause => "internal error: " ++ cause.message
  | .context step cause => step ++ ": " ++ cause.message

/-- Only failures of the transport are worth another attempt; rules and conflicts are not. -/
def isRetryable (e : PaymentError) : Bool :=
  match e.root with
  | .publish _ => true
  | .deadlineExceeded => true
  | .io _ => true
  | _ => false

/-- The operation that overflowed, when the root is an overflow. -/
def overflow? (e : PaymentError) : Option Decimal.Overflow :=
  match e.root with
  | .internal (.overflow operation) => some operation
  | _ => none

@[simp] theorem root_within (e : PaymentError) (step : String) :
    (e.within step).root = e.root := rfl

@[simp] theorem isRetryable_within (e : PaymentError) (step : String) :
    (e.within step).isRetryable = e.isRetryable := rfl

end PaymentError

/-- A sum in an amount calculation; an overflow is an internal error. -/
def Decimal.plus (a b : Decimal) : Except PaymentError Decimal :=
  match a.add b with
  | .ok sum => .ok sum
  | .error operation => .error (.internal (.overflow operation))

def Decimal.minus (a b : Decimal) : Except PaymentError Decimal :=
  match a.sub b with
  | .ok difference => .ok difference
  | .error operation => .error (.internal (.overflow operation))

end CardPayments
