import CardPayments.Authorization

/-! # Risk rules

Each rule looks at authorizations that declare one exemption.  The rules that apply are evaluated in
order until one completes the assessment or rejects the authorization. -/
set_option autoImplicit false

namespace CardPayments

inductive RiskRule where
  | noExemption
  /-- A low-value exemption is accepted up to a ceiling. -/
  | lowValue (ceiling : Decimal)
  | transactionRisk
deriving DecidableEq

structure RiskAssessment where
  /-- No further rule needs to look at the authorization. -/
  completed : Bool
  applied : Option Exemption
  evaluated : List RiskRule
deriving DecidableEq

namespace RiskAssessment

def empty : RiskAssessment := ⟨false, none, []⟩

end RiskAssessment

namespace RiskRule

def name : RiskRule → String
  | .noExemption => "no_exemption"
  | .lowValue _ => "low_value_exemption"
  | .transactionRisk => "tra_exemption"

def exemption : RiskRule → Exemption
  | .noExemption => .none
  | .lowValue _ => .lowValue
  | .transactionRisk => .transactionRiskAnalysis

def supports (rule : RiskRule) (a : Authorization) : Bool := a.exemption == rule.exemption

def evaluate (rule : RiskRule) (a : Authorization) (found : RiskAssessment) :
    Except PaymentError RiskAssessment :=
  let found := { found with evaluated := found.evaluated ++ [rule] }
  match rule with
  | .noExemption => .ok { found with completed := true }
  | .lowValue ceiling =>
      if ceiling.below a.amount.value then .error (.lowValueExceeded a.amount.value ceiling)
      else .ok { found with completed := true, applied := some .lowValue }
  | .transactionRisk =>
      .ok { found with completed := true, applied := some .transactionRiskAnalysis }

def assessFrom (found : RiskAssessment) (a : Authorization) :
    List RiskRule → Except PaymentError RiskAssessment
  | [] => .ok found
  | rule :: rest =>
      if rule.supports a then
        match rule.evaluate a found with
        | .error e => .error e
        | .ok next => if next.completed then .ok next else assessFrom next a rest
      else assessFrom found a rest

def assess (rules : List RiskRule) (a : Authorization) : Except PaymentError RiskAssessment :=
  assessFrom .empty a rules

def standard (ceiling : Decimal) : List RiskRule :=
  [.noExemption, .lowValue ceiling, .transactionRisk]

end RiskRule
end CardPayments
