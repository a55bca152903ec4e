import CardPayments.Proofs.Sequence.Basic
import CardPayments.Proofs.Trace.Supply

/-! # Without trace numbers

Two runs that send different numbers of messages get different trace numbers.  What the network
derives from the trace number is left out here: the number itself, the approval code and the
reference of the scheme; that there is an approval code or a reference stays.  Nothing that is
decided in a request looks at what is left out. -/
set_option autoImplicit false

namespace CardPayments

def SchemeResponse.untraced (r : SchemeResponse) : SchemeResponse :=
  { r with stan := 0, approvalCode := r.approvalCode.map fun _ => "" }

def SchemeData.untraced : SchemeData → SchemeData
  | .mastercard reference code date => .mastercard (reference.map fun _ => "") code date
  | .visa id code => .visa (id.map fun _ => "") code

def Attached.untraced (x : Attached) : Attached :=
  ⟨x.response.map SchemeResponse.untraced, x.schemeData.map SchemeData.untraced⟩

def Authorization.untraced (a : Authorization) : Authorization :=
  { a with
    response := a.response.map SchemeResponse.untraced
    schemeData := a.schemeData.map SchemeData.untraced }

def Refund.untraced (r : Refund) : Refund :=
  { r with
    response := r.response.map SchemeResponse.untraced
    schemeData := r.schemeData.map SchemeData.untraced }

def Reversal.untraced (r : Reversal) : Reversal :=
  { r with
    authorization := r.authorization.map Authorization.untraced
    response := r.response.map SchemeResponse.untraced }

def Message.untraced : Message → Message
  | .authorize a => .authorize a.untraced
  | .refund r => .refund r.untraced
  | .reverse r => .reverse r.untraced
  | .echo => .echo

theorem Reversal.authorizationId_of_untraced {r x : Reversal} (same : r.untraced = x.untraced) :
    r.authorizationId = x.authorizationId := (congrArg Reversal.authorizationId same :)

/-! ## What is decided does not depend on trace numbers -/

theorem SchemeData.scheme_untraced (d : SchemeData) : d.untraced.scheme = d.scheme := by
  cases d <;> rfl

theorem SchemeData.checked_untraced (id : Uuid) (data : Option SchemeData) (scheme : Scheme) :
    SchemeData.checked id (data.map SchemeData.untraced) scheme =
      (SchemeData.checked id data scheme).map SchemeData.untraced := by
  cases data with
  | none => rfl
  | some d =>
      rw [Option.map_some, checked, checked, scheme_untraced]
      split <;> rfl

namespace Processor

end Processor

namespace Message

variable {m m' : Message}

end Message

/-! ## Networks -/

/-- Between open lines only the trace numbers tell what went before a message. -/
structure Networks.Steady {τ : Type} (n : Networks τ) (isOpen : τ → Prop) : Prop where
  stays : ∀ line scheme m, isOpen line → isOpen (n.exchange line scheme m).2.2
  attached : ∀ line line' scheme m m', isOpen line → isOpen line' → m.untraced = m'.untraced →
    (n.exchange line scheme m).1.untraced = (n.exchange line' scheme m').1.untraced
  outcome : ∀ line line' scheme m m', isOpen line → isOpen line' → m.untraced = m'.untraced →
    (n.exchange line scheme m).2.1 = (n.exchange line' scheme m').2.1

namespace SimulatedNetwork

variable {n : SimulatedNetwork} {m m' : Message} {today : Date}

end SimulatedNetwork

end CardPayments
