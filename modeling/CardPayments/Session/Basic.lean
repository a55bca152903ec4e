import CardPayments.Session.Script
import CardPayments.System

/-! # Scripted runs

Runs requests on a system while a script interferes.  Time passes only in scripted delays; a request
that has a limit is dropped inside the delay that exceeds it, and what was written stays.  An
overflow of decimals ends a request on the spot. -/
set_option autoImplicit false

namespace CardPayments

structure Session where
  config : Config
  system : System
  script : Script
  /-- What is left of the time of the current request; nothing when it has no limit. -/
  limit : Option Nat
  /-- The names of the steps of the current request, last one first. -/
  recorded : List String
  /-- The tokens that were made by adjustments, first one first. -/
  tokens : List String

inductive Course (α : Type) where
  | passed (value : α)
  | failed (e : PaymentError)
  /-- The request ends here, without its remaining steps. -/
  | ended (e : PaymentError)

namespace Course

/-- An overflow ends the request, any other error fails the step. -/
def ofExcept {α : Type} : Except PaymentError α → Course α
  | .ok a => .passed a
  | .error e => if e.overflow?.isSome then .ended e else .failed e

end Course

namespace Session

def start (config : Config) (system : System) (script : Script) : Session :=
  ⟨config, system, script, none, [], []⟩

def adjust (s : Session) (adjustment : Adjustment) : Except PaymentError Reply × Session :=
  let applied := (Bench.mk s.system.stores s.tokens).apply adjustment
  (applied.1,
    { s with system := { s.system with stores := applied.2.stores }, tokens := applied.2.tokens })

def adjustAll (s : Session) : List (Except PaymentError Adjustment) → Course Unit × Session
  | [] => (.passed (), s)
  | .error e :: _ => (.failed e, s)
  | .ok adjustment :: rest =>
      match s.adjust adjustment with
      | (.ok _, s) => s.adjustAll rest
      | (.error e, s) => (.ofExcept (.error e), s)

def wait (s : Session) (delayMillis : Nat) : Course Unit × Session :=
  match s.limit with
  | none => (.passed (), s)
  | some left =>
      if left < delayMillis then (.ended .deadlineExceeded, s)
      else (.passed (), { s with limit := some (left - delayMillis) })

/-- One side of a step: its adjustments, its delay and its failure. -/
def disturb (s : Session) (d : Disturbance) : Course Unit × Session :=
  match s.adjustAll d.adjustments with
  | (.passed _, s) =>
      match s.wait d.delayMillis with
      | (.passed _, s) =>
          match d.failure with
          | some e => (.failed e, s)
          | none => (.passed (), s)
      | stopped => stopped
  | stopped => stopped

/-- Records a step, and takes its interference from the script. -/
def record (s : Session) (name : String) : Interference × Session :=
  let taken := Script.next name s.script
  (taken.1, { s with script := taken.2, recorded := name :: s.recorded })

def call (s : Session) (call : Call) : Course call.Value × Session :=
  let (interference, s) := s.record call.name
  match s.disturb interference.before with
  | (.ended e, s) => (.ended e, s)
  | (.failed e, s) => (.failed e, s)
  | (.passed _, s) =>
      let answered := s.system.answer call
      let s := { s with system := answered.2 }
      match Course.ofExcept answered.1 with
      | .ended e => (.ended e, s)
      | .failed e => (.failed e, s)
      | .passed value =>
          match s.disturb interference.after with
          | (.ended e, s) => (.ended e, s)
          | (.failed e, s) => (.failed e, s)
          | (.passed _, s) => (.passed value, s)

def exchange (s : Session) (scheme : Scheme) (m : Message) :
    Option ScriptedAnswer → Attached × Except PaymentError Unit × Session
  | some answer =>
      let exchanged := answer.exchange m
      (exchanged.1, exchanged.2, s)
  | none =>
      let exchanged := s.system.exchange scheme m
      (exchanged.1, exchanged.2.1, { s with system := exchanged.2.2 })

def send (s : Session) (scheme : Scheme) (m : Message) : Attached × Course Unit × Session :=
  let (interference, s) := s.record (m.recordedName scheme)
  match s.disturb interference.before with
  | (.ended e, s) => (m.attached, .ended e, s)
  | (.failed e, s) => (m.attached, .failed e, s)
  | (.passed _, s) =>
      match s.exchange scheme m interference.answer with
      | (attached, .error e, s) => (attached, .failed e, s)
      | (attached, .ok _, s) => (attached, s.disturb interference.after)

/-- Runs a request: what its caller holds, its answer, and the session after it. -/
def run {σ α : Type} (s : Session) : Flow σ α → (σ × Except PaymentError α) × Session
  | .finish held answer => ((held, answer), s)
  | .ask held call next =>
      match s.call call with
      | (.ended e, s) => ((held, .error e), s)
      | (.failed e, s) => run s (next (.error e))
      | (.passed value, s) => run s (next (.ok value))
  | .send held scheme m next =>
      match s.send scheme m with
      | (attached, .ended e, s) => ((held attached, .error e), s)
      | (attached, .failed e, s) => run s (next attached (.error e))
      | (attached, .passed _, s) => run s (next attached (.ok ()))

end Session
end CardPayments
