import CardPayments.Session.Basic

/-! # Operations of a session

Requests to the processor, adjustments, operations on the trace numbers, and additions to the
script.  After every operation the fill loop of the trace numbers runs until it can do nothing
more. -/
set_option autoImplicit false

namespace CardPayments

/-- A reversal that carries an authorization fetched beforehand, with some of its fields changed. -/
structure Prefetch where
  psp : String
  id : Uuid
  status : Option String
  dropsToken : Bool
  merchant : Option String
deriving DecidableEq, Repr

inductive ReversalForm where
  | ofId (id authorizationId : Uuid)
  /-- `named` replaces the id of the authorization that the reversal names. -/
  | prefetched (id : Uuid) (prefetch : Prefetch) (named : Option Uuid)
deriving DecidableEq, Repr

inductive Operation where
  | authorize (a : Authorization)
  | refund (r : Refund)
  | capture (psp : String) (c : Capture)
  | captureRefund (psp : String) (c : RefundCapture)
  | reverse (psp : String) (form : ReversalForm)
  | dispatchReversal (form : ReversalForm)
  | echo (scheme : Scheme)
  | authorization (psp : String) (id : Uuid)
  | authorizations (psp : String)
  | getRefund (psp : String) (id : Uuid)
  | refunds (psp : String)
  | reversals (authorizationId : Uuid)
  | script (steps : Script)
  | adjust (adjustment : Adjustment)
  | trace (op : TraceOp)

/-- The answer to an operation, the caller's entity beside it, and the steps it took. -/
structure Report where
  answer : Except PaymentError Reply
  entity : Option Entity
  steps : List String

namespace Prefetch

/-- The stored authorization with the changes made to it. -/
def fetch (p : Prefetch) (store : AuthorizationStore) : Except PaymentError Authorization := do
  let a ← store.getFull p.psp p.id
  let status ←
    match p.status with
    | none => .ok a.status
    | some name => PaymentError.known (Status.ofName? name)
  let card := if p.dropsToken then { a.card with token := none } else a.card
  return { a with status := status, card := card, merchant := p.merchant.getD a.merchant }

end Prefetch

namespace Session

def processor (s : Session) : Processor := s.system.processor s.config

def reversal (s : Session) : ReversalForm → Except PaymentError Reversal
  | .ofId id authorizationId => .ok (.ofId id authorizationId default)
  | .prefetched id prefetch named =>
      match prefetch.fetch s.system.stores.authorizations with
      | .error e => .error e
      | .ok a =>
          let r := Reversal.ofAuthorization id a default
          .ok { r with authorizationId := named.getD r.authorizationId }

/-- Runs a request that may take as long as the configuration says. -/
def runLimited {σ α : Type} (s : Session) (flow : Flow σ α) :
    (σ × Except PaymentError α) × Session :=
  { s with limit := some s.processor.timeoutMillis }.run flow

def runUnlimited {σ α : Type} (s : Session) (flow : Flow σ α) :
    (σ × Except PaymentError α) × Session :=
  { s with limit := none }.run flow

/-- The report on a request, whose caller is left with an entity unless it overflowed. -/
def reportHeld {σ α : Type} (entity : σ → Entity) (reply : α → Reply)
    (ran : (σ × Except PaymentError α) × Session) : Report × Session :=
  let entity? :=
    match ran.1.2 with
    | .ok _ => some (entity ran.1.1)
    | .error e => if e.overflow?.isSome then none else some (entity ran.1.1)
  (⟨ran.1.2.map reply, entity?, ran.2.recorded.reverse⟩, ran.2)

/-- The report on a request whose caller is left with nothing. -/
def reportPlain {σ α : Type} (reply : α → Reply) (ran : (σ × Except PaymentError α) × Session) :
    Report × Session :=
  (⟨ran.1.2.map reply, none, ran.2.recorded.reverse⟩, ran.2)

def reportStill (answered : Except PaymentError Reply × Session) : Report × Session :=
  (⟨answered.1, none, []⟩, answered.2)

def perform (s : Session) : Operation → Report × Session
  | .authorize a =>
      reportHeld .authorization (fun _ => .done) (s.runLimited (s.processor.authorize a))
  | .refund r => reportHeld .refund (fun _ => .done) (s.runLimited (s.processor.refund r))
  | .capture psp c => reportPlain .capture (s.runLimited (s.processor.capture psp c))
  | .captureRefund psp c =>
      reportPlain .refundCapture (s.runLimited (s.processor.captureRefund psp c))
  | .reverse psp form =>
      match s.reversal form with
      | .error e => reportStill (.error e, s)
      | .ok r =>
          reportHeld .reversal (fun _ => .done) (s.runLimited (s.processor.reverse psp r))
  | .dispatchReversal form =>
      match s.reversal form with
      | .error e => reportStill (.error e, s)
      | .ok r => reportHeld .reversal (fun _ => .done) (s.runUnlimited (s.processor.sendOnly r))
  | .echo scheme => reportPlain (fun _ => .done) (s.runLimited (s.processor.echo scheme))
  | .authorization psp id =>
      reportPlain .authorization (s.runUnlimited (.query () (.authorization psp id)))
  | .authorizations psp =>
      reportPlain (fun (found : List Authorization) => .ids (found.map Authorization.id))
        (s.runUnlimited (.query () (.authorizations psp [])))
  | .getRefund psp id => reportPlain .refund (s.runUnlimited (.query () (.refund psp id)))
  | .refunds psp =>
      reportPlain (fun (found : List Refund) => .ids (found.map Refund.id))
        (s.runUnlimited (.query () (.refunds psp [])))
  | .reversals id => reportPlain .reversals (s.runUnlimited (.query () (.reversals id)))
  | .script steps => reportStill (.ok .set, { s with script := s.script ++ steps })
  | .adjust adjustment => reportStill (s.adjust adjustment)
  | .trace op =>
      let performed := s.system.traces.perform op
      reportStill (.ok (.trace performed.1),
        { s with system := { s.system with traces := performed.2 } })

def settle (s : Session) : Session :=
  { s with system := { s.system with traces := s.system.traces.settle } }

/-- The reports on a list of operations; one that cannot be read answers with its error. -/
def reports (s : Session) : List (Except PaymentError Operation) → List Report
  | [] => []
  | .error e :: rest => ⟨.error e, none, []⟩ :: s.reports rest
  | .ok op :: rest =>
      let performed := { s with recorded := [] }.perform op
      performed.1 :: performed.2.settle.reports rest

end Session
end CardPayments
