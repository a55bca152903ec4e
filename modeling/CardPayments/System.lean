import CardPayments.Flow.Authorize
import CardPayments.Flow.Capture
import CardPayments.Flow.Reverse
import CardPayments.Network.Simulated
import CardPayments.Store.Basic

/-! # The running system

The stores, the trace numbers and the connected networks, and requests that run on them without
interruption. -/
set_option autoImplicit false

namespace CardPayments

structure System where
  stores : Stores
  traces : TraceNumbers
  network : Scheme → Option SimulatedNetwork

namespace System

def start (traces : TraceNumbers) (network : Scheme → Option SimulatedNetwork) : System :=
  ⟨.empty, traces, network⟩

def processor (s : System) (config : Config) : Processor :=
  .ofConfig config fun scheme => (s.network scheme).isSome

def answer (s : System) (call : Call) : Except PaymentError call.Value × System :=
  let answered := s.stores.answer call
  (answered.1, { s with stores := answered.2 })

def exchange (s : System) (scheme : Scheme) (m : Message) :
    Attached × Except PaymentError Unit × System :=
  match s.network scheme with
  | none => (m.attached, .error (.noConnection scheme.name), s)
  | some n =>
      let exchanged := n.exchange s.traces m
      (exchanged.1, exchanged.2.1, { s with traces := exchanged.2.2 })

end System

/-- Runs a request to its end: what its caller holds, its answer, and the system after it. -/
def Flow.run {σ α : Type} (s : System) : Flow σ α → (σ × Except PaymentError α) × System
  | .finish held answer => ((held, answer), s)
  | .ask _ call next =>
      let answered := s.answer call
      (next answered.1).run answered.2
  | .send _ scheme m next =>
      let exchanged := s.exchange scheme m
      (next exchanged.1 exchanged.2.1).run exchanged.2.2

end CardPayments
