import CardPayments.Session.Adjustment

/-! # Scripts

A script says what happens around the steps of requests: the first step of a name meets the first
interference for that name, the second one the second, and a step for which there is none takes its
plain course.  Before the step proper come adjustments, a delay and a failure; after it, if it
succeeded, the same again. -/
set_option autoImplicit false

namespace CardPayments

/-- What a scripted network attaches in place of the real exchange. -/
structure ScriptedAnswer where
  response : Option SchemeResponse
  schemeData : Except PaymentError (Option SchemeData)

/-- What happens on one side of a step.  An adjustment that cannot be read fails. -/
structure Disturbance where
  adjustments : List (Except PaymentError Adjustment)
  delayMillis : Nat
  failure : Option PaymentError

namespace Disturbance

def none : Disturbance := ⟨[], 0, Option.none⟩

end Disturbance

structure Interference where
  before : Disturbance
  answer : Option ScriptedAnswer
  after : Disturbance

namespace Interference

def none : Interference := ⟨.none, Option.none, .none⟩

end Interference

namespace ScriptedAnswer

/-- The exchange that a scripted network stands in for: the response is attached first, and data
that cannot be read fails then. -/
def exchange (answer : ScriptedAnswer) : Message → Attached × Except PaymentError Unit
  | .authorize a => transaction a.schemeData
  | .refund r => transaction r.schemeData
  | .reverse _ => (⟨answer.response, Option.none⟩, .ok ())
  | .echo => (⟨Option.none, Option.none⟩, .ok ())
where
  transaction (current : Option SchemeData) : Attached × Except PaymentError Unit :=
    match answer.schemeData with
    | .ok data => (⟨answer.response, data⟩, .ok ())
    | .error e => (⟨answer.response, current⟩, .error e)

end ScriptedAnswer

/-- The interferences still to come, each with the name of its step. -/
abbrev Script := List (String × Interference)

/-- The interference for the next step of a name, and the script without it. -/
def Script.next (name : String) : Script → Interference × Script
  | [] => (.none, [])
  | (other, interference) :: rest =>
      if other = name then (interference, rest)
      else
        let found := Script.next name rest
        (found.1, (other, interference) :: found.2)

end CardPayments
