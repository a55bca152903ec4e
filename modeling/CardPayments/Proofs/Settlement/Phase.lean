import CardPayments.Proofs.Store.Rows
import CardPayments.Proofs.Traffic.Protocol

/-! # Phases of a settlement

The life of a request that captures from an authorization, or reverses it.  A capture that was
stored is in the balance until the request has looked for a reversal once more; a reversal that was
stored is sent only after the summary was read once more.  Every path through the flow of such a
request leads from phase to phase as stated here. -/
set_option autoImplicit false

namespace CardPayments

inductive Phase where
  /-- Nothing is stored, as far as the request knows. -/
  | idle
  | captured (c : Capture)
  /-- The request met a reversal, or could not look for one, and takes its capture back. -/
  | withdrawn (c : Capture)
  | accepted (c : Capture)
  | reversing (r : Reversal)
  /-- The request saw that the captures have changed, and takes its reversal back. -/
  | withdrawing (r : Reversal)
  | cleared (r : Reversal)
  | answered (r : Reversal)
  /-- The request ends and leaves its reversal as it was stored. -/
  | stuck (r : Reversal)
  | over

def Phase.open? : Phase → Option Reversal
  | .reversing r => some r
  | .withdrawing r => some r
  | .cleared r => some r
  | .answered r => some r
  | .stuck r => some r
  | _ => none

def Phase.balance? : Phase → Option Capture
  | .captured c => some c
  | .withdrawn c => some c
  | _ => none

/-- The request has neither an accepted capture nor a stored reversal. -/
def Phase.Early : Phase → Prop
  | .idle => True
  | .captured _ => True
  | .withdrawn _ => True
  | .over => True
  | _ => False

/-- The request sent a message, or will not send one any more. -/
def Phase.HasSent : Phase → Prop
  | .answered _ => True
  | .stuck _ => True
  | .over => True
  | _ => False

namespace Settlement

variable (q : Request) (id : Uuid) (authorized : Amount → Prop)

/-- The capture is the one of the request, and was checked against the summary. -/
structure Checked (c : Capture) (seen : CaptureSummary) : Prop where
  own : ∃ wanted, q.capture? = some wanted ∧ c = { wanted with isFinal := c.isFinal }
  account : c.authorizationId = id
  checked : ∃ amount flagged, authorized amount ∧ seen.checkCapturable amount c.amount = .ok () ∧
    seen.becomesFinal amount c.amount flagged = .ok c.isFinal

/-- The reversal is the one of the request, has an amount and is new. -/
structure Prepared (r : Reversal) : Prop where
  own : q.reversalId? = some r.id
  account : r.authorizationId = id
  fresh : r.status = .new
  priced : r.amount.isSome

/-- The amount is that of the stored authorization, or of the one that the request carries. -/
def Authorizes (amount : Amount) : Prop :=
  authorized amount ∨
    ∃ wanted a, q.reversal? = some wanted ∧ wanted.authorization = some a ∧ a.amount = amount

def Leaves (r : Reversal) (summary : CaptureSummary) : Prop :=
  ∃ seen amount value, Authorizes q authorized amount ∧ summary.same seen = true ∧
    seen.remaining amount = .ok value.value ∧ r.amount = some value

inductive Asks : Phase → (call : Call) → Except PaymentError call.Value → Phase → Prop
  | read (call : Call) (answer : Except PaymentError call.Value) (reads : call.IsRead) :
      Asks .idle call answer .idle
  | capture (c : Capture) (seen : CaptureSummary) (checked : Checked q id authorized c seen) :
      Asks .idle (.createCapture c seen) (.ok ()) (.captured c)
  | lost (c : Capture) (seen : CaptureSummary) (e : PaymentError)
      (checked : Checked q id authorized c seen) :
      Asks .idle (.createCapture c seen) (.error e) .idle
  | keep (c : Capture) : Asks (.captured c) (.reversalExists id) (.ok false) (.accepted c)
  | regret (c : Capture) (answer : Except PaymentError Bool) :
      Asks (.captured c) (.reversalExists id) answer (.withdrawn c)
  | withdraw (c : Capture) (answer : Except PaymentError Unit) (account : c.authorizationId = id) :
      Asks (.withdrawn c) (.updateCapture { c with status := .failed }) answer .over
  | publish (c : Capture) (topic payload : String) (answer : Except PaymentError Unit) :
      Asks (.accepted c) (.publish topic payload) answer (.accepted c)
  | reverse (r : Reversal) (prepared : Prepared q id r) :
      Asks .idle (.createReversal r) (.ok ()) (.reversing r)
  | refused (r : Reversal) (e : PaymentError) (prepared : Prepared q id r) :
      Asks .idle (.createReversal r) (.error e) .over
  | clear (r : Reversal) (summary : CaptureSummary) (leaves : Leaves q authorized r summary) :
      Asks (.reversing r) (.captureSummary id) (.ok summary) (.cleared r)
  | back (r : Reversal) (answer : Except PaymentError CaptureSummary) :
      Asks (.reversing r) (.captureSummary id) answer (.withdrawing r)
  | abandon (r : Reversal) (answer : Except PaymentError CaptureSummary) :
      Asks (.reversing r) (.captureSummary id) answer (.stuck r)
  | retract (r : Reversal) (answer : Except PaymentError Unit) (account : r.authorizationId = id) :
      Asks (.withdrawing r) (.updateReversal { r with status := .failed }) answer .over
  | conclude (r : Reversal) (answer : Except PaymentError Unit) (account : r.authorizationId = id) :
      Asks (.answered r) (.updateReversal { r with status := .ofResponse r.response }) answer .over

inductive Sends : Phase → Message → Attached → Except PaymentError Unit → Phase → Prop
  | answered (r : Reversal) (attached : Attached)
      (wellFormed : Processor.checkFormat attached.response = .ok ()) :
      Sends (.cleared r) (.reverse r) attached (.ok ()) (.answered (r.attach attached))
  | failed (r : Reversal) (attached : Attached) (outcome : Except PaymentError Unit) :
      Sends (.cleared r) (.reverse r) attached outcome (.stuck r)

structure Finishes {α : Type} (phase : Phase) (answer : Except PaymentError α) : Prop where
  settled : phase.balance? = none
  accepted : ∀ c, q.capture? = some c → ∀ value, answer = .ok value → ∃ c, phase = .accepted c
  failed : ∀ e : PaymentError, answer = .error (e.within "failed to reverse with the cardscheme") →
    ∃ r, phase = .stuck r

def Expects : (call : Call) → call.Value → Prop
  | .authorization _ named, (a : Authorization) => named = id → a.id = id ∧ authorized a.amount
  | _, _ => True

def protocol (σ α : Type) : Protocol σ α Phase where
  expects := Expects id authorized
  asks := Asks q id authorized
  sends := Sends
  finishes phase _ answer := Finishes q phase answer

variable {q id authorized}

theorem finishes_of_answer? {stage : Stage q} {phase : Phase}
    {answer : Except PaymentError q.Answer}
    (obeys : stage.Obeys (protocol q id authorized q.Held q.Answer) .idle phase)
    (answered : stage.answer? = some answer) : Finishes q phase answer := by
  cases stage with
  | waiting => cases answered
  | dropped => cases answered
  | running flow =>
      cases flow with
      | finish held said =>
          have same : said = answer := Option.some.inj answered
          rw [← same]
          exact obeys
      | ask held call next => cases answered
      | send held scheme message next => cases answered

end Settlement
end CardPayments
