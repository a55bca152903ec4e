import CardPayments.Csv.Record

/-! # Outcomes in records

What became of a command, as one record under a header. -/
set_option autoImplicit false

namespace CardPayments

structure Outcome where
  reference : String
  kind : String
  outcome : String
  status : String
  amount : String
  detail : String
deriving DecidableEq, Repr

namespace Outcome

def header : List String := ["reference", "type", "outcome", "status", "amount", "detail"]

def cells (o : Outcome) : List String :=
  [o.reference, o.kind, o.outcome, o.status, o.amount, o.detail]

/-- The file of outcomes; without any there is no header either. -/
def toText (outcomes : List Outcome) : String :=
  match outcomes with
  | [] => ""
  | _ => Csv.toText (header :: outcomes.map cells)

end Outcome
end CardPayments
