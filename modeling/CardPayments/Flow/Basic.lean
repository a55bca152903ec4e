import CardPayments.Config
import CardPayments.Risk
import CardPayments.Wire.Event

/-! # Requests as steps

A request is a tree of steps.  Each step asks one store, vault or publisher, or sends one message to
a card network, and goes on with the answer; in between nothing else happens, so that a request can
be interrupted, or take turns with other requests, exactly between two steps.  Every step says what
the caller's own entity holds while the step is under way: that is what the caller is left with when
the request is dropped there. -/
set_option autoImplicit false

namespace CardPayments

/-- A question to a store, to the vault of tokens or to the publisher. -/
inductive Call where
  | tokenize (merchant : String) (card : Card)
  | detokenize (merchant : String) (card : Card)
  | createAuthorization (a : Authorization)
  | createAuthorizationData (scheme : Scheme) (a : Authorization)
  | updateAuthorization (a : Authorization)
  /-- All authorizations of a PSP; `order` is the one in which the table comes to be enumerated. -/
  | authorizations (psp : String) (order : List Uuid)
  /-- One authorization with its scheme data. -/
  | authorization (psp : String) (id : Uuid)
  | createRefund (r : Refund)
  | createRefundData (scheme : Scheme) (r : Refund)
  | updateRefund (r : Refund)
  | refunds (psp : String) (order : List Uuid)
  | refund (psp : String) (id : Uuid)
  /-- Stores a capture only while the summary still is the one that was seen. -/
  | createCapture (c : Capture) (seen : CaptureSummary)
  | updateCapture (c : Capture)
  | captureSummary (authorizationId : Uuid)
  | finalCaptureExists (authorizationId : Uuid)
  | createRefundCapture (c : RefundCapture) (seen : CaptureSummary)
  | refundCaptureSummary (refundId : Uuid)
  | createReversal (r : Reversal)
  | updateReversal (r : Reversal)
  | alreadyReversed (authorizationId : Uuid)
  /-- Whether there is a reversal that has not failed. -/
  | reversalExists (authorizationId : Uuid)
  | reversals (authorizationId : Uuid)
  | publish (topic payload : String)

namespace Call

def Value : Call → Type
  | .tokenize .. => String
  | .detokenize .. => Card
  | .createAuthorization _ => Unit
  | .createAuthorizationData .. => Unit
  | .updateAuthorization _ => Unit
  | .authorizations .. => List Authorization
  | .authorization .. => Authorization
  | .createRefund _ => Unit
  | .createRefundData .. => Unit
  | .updateRefund _ => Unit
  | .refunds .. => List Refund
  | .refund .. => Refund
  | .createCapture .. => Unit
  | .updateCapture _ => Unit
  | .captureSummary _ => CaptureSummary
  | .finalCaptureExists _ => Bool
  | .createRefundCapture .. => Unit
  | .refundCaptureSummary _ => CaptureSummary
  | .createReversal _ => Unit
  | .updateReversal _ => Unit
  | .alreadyReversed _ => Bool
  | .reversalExists _ => Bool
  | .reversals _ => List Reversal
  | .publish .. => Unit

def name : Call → String
  | .tokenize .. => "tokenize"
  | .detokenize .. => "detokenize"
  | .createAuthorization _ => "create_authorization"
  | .createAuthorizationData scheme _ => "create_" ++ scheme.name ++ "_authorization"
  | .updateAuthorization _ => "update_authorization_response"
  | .authorizations .. => "get_authorizations"
  | .authorization .. => "get_authorization_with_scheme_data"
  | .createRefund _ => "create_refund"
  | .createRefundData scheme _ => "create_" ++ scheme.name ++ "_refund"
  | .updateRefund _ => "update_refund_response"
  | .refunds .. => "get_refunds"
  | .refund .. => "get_refund"
  | .createCapture .. => "create_capture"
  | .updateCapture _ => "update_capture_status"
  | .captureSummary _ => "get_capture_summary"
  | .finalCaptureExists _ => "final_capture_exists"
  | .createRefundCapture .. => "create_refund_capture"
  | .refundCaptureSummary _ => "get_capture_refund_summary"
  | .createReversal _ => "create_reversal"
  | .updateReversal _ => "update_reversal_response"
  | .alreadyReversed _ => "authorization_already_reversed"
  | .reversalExists _ => "reversal_exists"
  | .reversals _ => "get_reversals"
  | .publish .. => "publish"

end Call

inductive Message where
  | authorize (a : Authorization)
  | refund (r : Refund)
  | reverse (r : Reversal)
  | echo

/-- What the network attaches to the entity that a message was sent for. -/
structure Attached where
  response : Option SchemeResponse
  schemeData : Option SchemeData
deriving DecidableEq, Repr

namespace Message

def attached : Message → Attached
  | .authorize a => ⟨a.response, a.schemeData⟩
  | .refund r => ⟨r.response, r.schemeData⟩
  | .reverse r => ⟨r.response, none⟩
  | .echo => ⟨none, none⟩

def name : Message → String
  | .authorize _ => "authorize"
  | .refund _ => "refund"
  | .reverse _ => "reverse"
  | .echo => "echo"

/-- The name under which a message to the network of a scheme is recorded. -/
def recordedName (scheme : Scheme) (m : Message) : String := scheme.name ++ "." ++ m.name

end Message

def Authorization.attach (a : Authorization) (x : Attached) : Authorization :=
  { a with response := x.response, schemeData := x.schemeData }

def Refund.attach (r : Refund) (x : Attached) : Refund :=
  { r with response := x.response, schemeData := x.schemeData }

def Reversal.attach (r : Reversal) (x : Attached) : Reversal := { r with response := x.response }

/-- A request that leaves an entity of type `σ` with its caller and is answered with an `α`. -/
inductive Flow (σ α : Type) where
  | finish (held : σ) (answer : Except PaymentError α)
  | ask (held : σ) (call : Call) (next : Except PaymentError call.Value → Flow σ α)
  /-- `held` tells what the caller holds once the network has attached something. -/
  | send (held : Attached → σ) (scheme : Scheme) (message : Message)
      (next : Attached → Except PaymentError Unit → Flow σ α)

namespace Flow

variable {σ α : Type}

def fail (held : σ) (step : String) (e : PaymentError) : Flow σ α :=
  .finish held (.error (e.within step))

/-- Asks, and ends with an error of the given step when that fails. -/
def require (held : σ) (step : String) (call : Call) (next : call.Value → Flow σ α) : Flow σ α :=
  .ask held call fun
    | .ok value => next value
    | .error e => fail held step e

def query (held : σ) (call : Call) : Flow σ call.Value :=
  .ask held call fun answer => .finish held answer

end Flow

/-- How a processor is set up: which networks it is connected to, its risk rules, its topics, and
how long a request may take. -/
structure Processor where
  isConnected : Scheme → Bool
  rules : List RiskRule
  topics : Topics
  timeoutMillis : Nat

namespace Processor

def ofConfig (config : Config) (isConnected : Scheme → Bool) : Processor where
  isConnected := isConnected
  rules := RiskRule.standard config.lowValueCeiling
  topics := config.topics
  timeoutMillis := config.timeoutMillis.toNat

/-- A message whose form the network rejected was not declined; it counts as not answered. -/
def checkFormat (response : Option SchemeResponse) : Except PaymentError Unit :=
  match response with
  | some r => if r.code.isFormatError then .error .formatError else .ok ()
  | none => .ok ()

/-- Sends a message to the network of a scheme and looks at the form of the answer. -/
def dispatch {σ α : Type} (p : Processor) (held : Attached → σ) (scheme : Scheme)
    (message : Message) (next : Attached → Except PaymentError Unit → Flow σ α) : Flow σ α :=
  if p.isConnected scheme then
    .send held scheme message fun attached outcome =>
      match outcome with
      | .error e => next attached (.error e)
      | .ok () => next attached (checkFormat attached.response)
  else next message.attached (.error (.noConnection scheme.name))

def echo (p : Processor) (scheme : Scheme) : Flow Unit Unit :=
  p.dispatch (fun _ => ()) scheme .echo fun _ outcome => .finish () outcome

end Processor
end CardPayments
