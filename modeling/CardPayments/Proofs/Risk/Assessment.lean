import CardPayments.Risk
import CardPayments.Proofs.Decimal.Sum

/-! # Assessments by risk rules

A rule that applies to an authorization either completes the assessment or rejects the
authorization, so only the first one that applies is ever evaluated.  Where all low-value rules have
one ceiling, two different rules never apply to the same authorization: then it does not matter in
which order the rules are listed, or how often. -/
set_option autoImplicit false

namespace CardPayments.RiskRule

/-! ## One rule -/

theorem supports_iff (rule : RiskRule) (a : Authorization) :
    rule.supports a = true ↔ rule.exemption = a.exemption := by
  rw [supports, beq_iff_eq, eq_comm]

def Rejects (rule : RiskRule) (a : Authorization) : Prop :=
  ∃ found e, rule.evaluate a found = .error e

section

variable {a : Authorization} {rule : RiskRule} {found : RiskAssessment}

theorem evaluate_error_iff {e : PaymentError} :
    rule.evaluate a found = .error e ↔ ∃ ceiling, rule = .lowValue ceiling ∧
      ceiling.number < a.amount.value.number ∧ e = .lowValueExceeded a.amount.value ceiling := by
  cases rule with
  | noExemption => simp [evaluate]
  | transactionRisk => simp [evaluate]
  | lowValue ceiling =>
      simp only [evaluate, ← Decimal.below_iff, lowValue.injEq]
      constructor
      · intro rejected
        split at rejected
        · next above => exact ⟨ceiling, rfl, above, (Except.error.inj rejected).symm⟩
        · cases rejected
      · rintro ⟨_, rfl, above, rfl⟩
        exact if_pos above

theorem evaluate_ok {next : RiskAssessment} (accepted : rule.evaluate a found = .ok next) :
    next.completed = true ∧ next.evaluated = found.evaluated ++ [rule] := by
  cases rule with
  | noExemption =>
      cases accepted
      exact ⟨rfl, rfl⟩
  | transactionRisk =>
      cases accepted
      exact ⟨rfl, rfl⟩
  | lowValue ceiling =>
      simp only [evaluate] at accepted
      split at accepted
      · cases accepted
      · cases accepted
        exact ⟨rfl, rfl⟩

/-- Whether a rule rejects an authorization does not depend on what was found before. -/
theorem evaluate_eq_error_of_rejects (rejects : rule.Rejects a) :
    ∃ e, rule.evaluate a found = .error e := by
  obtain ⟨before, e, rejected⟩ := rejects
  exact ⟨e, evaluate_error_iff.mpr (evaluate_error_iff.mp rejected)⟩

end

def forExemption (ceiling : Decimal) : Exemption → RiskRule
  | .none => .noExemption
  | .lowValue => .lowValue ceiling
  | .transactionRiskAnalysis => .transactionRisk

theorem eq_forExemption {ceiling : Decimal} {rule : RiskRule} (known : rule ∈ standard ceiling) :
    rule = forExemption ceiling rule.exemption := by
  simp only [standard, List.mem_cons, List.not_mem_nil, or_false] at known
  rcases known with rfl | rfl | rfl <;> rfl

/-! ## A list of rules -/

/-- The rules that an assessment evaluates, in their order. -/
def evaluations (found : RiskAssessment) (a : Authorization) : List RiskRule → List RiskRule
  | [] => []
  | rule :: rest =>
      if rule.supports a then
        match rule.evaluate a found with
        | .error _ => [rule]
        | .ok next => rule :: if next.completed then [] else evaluations next a rest
      else evaluations found a rest

/-- An assessment is nothing but its evaluations, one after another. -/
theorem foldlM_evaluations (found : RiskAssessment) (a : Authorization) (rules : List RiskRule) :
    (evaluations found a rules).foldlM (fun found rule => rule.evaluate a found) found =
      assessFrom found a rules := by
  induction rules generalizing found with
  | nil => rfl
  | cons rule rest ih =>
      by_cases applies : rule.supports a = true
      · cases outcome : rule.evaluate a found with
        | error e =>
            simp only [evaluations, assessFrom, if_pos applies, outcome, List.foldlM_cons]
            rfl
        | ok next =>
            simp only [evaluations, assessFrom, if_pos applies, outcome, List.foldlM_cons]
            by_cases done : next.completed = true
            · rw [if_pos done, if_pos done]
              rfl
            · rw [if_neg done, if_neg done, ← ih next]
              rfl
      · simp only [evaluations, assessFrom, if_neg applies]
        exact ih found

def applicable (rules : List RiskRule) (a : Authorization) : Option RiskRule :=
  rules.find? fun rule => rule.supports a

theorem of_applicable_eq_some {rules : List RiskRule} {a : Authorization} {rule : RiskRule}
    (first : applicable rules a = some rule) : rule ∈ rules ∧ rule.exemption = a.exemption := by
  refine ⟨List.mem_of_find?_eq_some first, (supports_iff rule a).mp ?_⟩
  simpa using List.find?_some first

theorem evaluations_eq (found : RiskAssessment) (a : Authorization) (rules : List RiskRule) :
    evaluations found a rules = (applicable rules a).toList := by
  induction rules with
  | nil => rfl
  | cons rule rest ih =>
      by_cases applies : rule.supports a = true
      · have first : applicable (rule :: rest) a = some rule := List.find?_cons_of_pos applies
        rw [first, evaluations, if_pos applies]
        split
        · rfl
        · next accepted =>
            rw [if_pos (evaluate_ok accepted).1]
            rfl
      · have later : applicable (rule :: rest) a = applicable rest a :=
          List.find?_cons_of_neg applies
        rw [later, evaluations, if_neg applies, ih]

theorem assess_of_none {rules : List RiskRule} {a : Authorization}
    (none : applicable rules a = none) : assess rules a = .ok .empty := by
  rw [assess, ← foldlM_evaluations, evaluations_eq, none]
  rfl

theorem assess_of_some {rules : List RiskRule} {a : Authorization} {rule : RiskRule}
    (first : applicable rules a = some rule) : assess rules a = rule.evaluate a .empty := by
  rw [assess, ← foldlM_evaluations, evaluations_eq, first]
  simp

section

variable {ceiling : Decimal} {rules : List RiskRule} {a : Authorization}

/-- With one ceiling, the rules that apply are all the same. -/
theorem applicable_eq_some_iff (known : rules ⊆ standard ceiling) (rule : RiskRule) :
    applicable rules a = some rule ↔ rule ∈ rules ∧ rule.exemption = a.exemption := by
  refine ⟨of_applicable_eq_some, ?_⟩
  rintro ⟨member, applies⟩
  have found : (applicable rules a).isSome := by
    rw [applicable, List.find?_isSome]
    exact ⟨rule, member, (supports_iff rule a).mpr applies⟩
  obtain ⟨first, isFirst⟩ := Option.isSome_iff_exists.mp found
  obtain ⟨firstMember, firstApplies⟩ := of_applicable_eq_some isFirst
  have same : first = rule := by
    rw [eq_forExemption (known firstMember), eq_forExemption (known member), firstApplies, applies]
  rw [isFirst, same]

theorem applicable_congr (known : rules ⊆ standard ceiling) {others : List RiskRule}
    (same : ∀ rule, rule ∈ others ↔ rule ∈ rules) : applicable others a = applicable rules a := by
  have othersKnown : others ⊆ standard ceiling := fun rule member => known ((same rule).mp member)
  apply Option.ext
  intro rule
  rw [applicable_eq_some_iff known, applicable_eq_some_iff othersKnown, same]

theorem assess_error_iff (known : rules ⊆ standard ceiling) (e : PaymentError) :
    assess rules a = .error e ↔ e = .lowValueExceeded a.amount.value ceiling ∧
      a.exemption = .lowValue ∧ .lowValue ceiling ∈ rules ∧
        ceiling.number < a.amount.value.number := by
  constructor
  · intro rejected
    cases first : applicable rules a with
    | none =>
        rw [assess_of_none first] at rejected
        cases rejected
    | some rule =>
        rw [assess_of_some first, evaluate_error_iff] at rejected
        obtain ⟨own, rfl, above, rfl⟩ := rejected
        obtain ⟨member, applies⟩ := of_applicable_eq_some first
        have shared : own = ceiling := by
          simpa [standard] using known member
        subst shared
        exact ⟨rfl, applies.symm, member, above⟩
  · rintro ⟨rfl, lowValue, member, above⟩
    have first := (applicable_eq_some_iff known _).mpr ⟨member, lowValue.symm⟩
    rw [assess_of_some first]
    exact evaluate_error_iff.mpr ⟨ceiling, rfl, above, rfl⟩

theorem assess_completes_iff (known : rules ⊆ standard ceiling) :
    (∃ found, assess rules a = .ok found ∧ found.completed = true) ↔
      ∃ rule ∈ rules, rule.exemption = a.exemption ∧ ¬ rule.Rejects a := by
  constructor
  · rintro ⟨found, accepted, completed⟩
    cases first : applicable rules a with
    | none =>
        rw [assess_of_none first] at accepted
        cases accepted
        cases completed
    | some rule =>
        obtain ⟨member, applies⟩ := of_applicable_eq_some first
        refine ⟨rule, member, applies, fun rejects => ?_⟩
        obtain ⟨e, rejected⟩ := evaluate_eq_error_of_rejects rejects
        rw [assess_of_some first, rejected] at accepted
        cases accepted
  · rintro ⟨rule, member, applies, accepts⟩
    rw [assess_of_some ((applicable_eq_some_iff known rule).mpr ⟨member, applies⟩)]
    cases outcome : rule.evaluate a .empty with
    | error e => exact absurd ⟨_, e, outcome⟩ accepts
    | ok found => exact ⟨found, rfl, (evaluate_ok outcome).1⟩

theorem evaluated_eq {found : RiskAssessment} (accepted : assess rules a = .ok found) :
    found.evaluated = evaluations .empty a rules := by
  rw [evaluations_eq]
  cases first : applicable rules a with
  | none =>
      rw [assess_of_none first] at accepted
      cases accepted
      rfl
  | some rule =>
      rw [assess_of_some first] at accepted
      exact (evaluate_ok accepted).2

/-- However the three rules are listed, an assessment depends on which of them occur alone, and
evaluates one at most.  It is completed exactly when a rule for the exemption occurs that does not
reject the authorization, and only the low-value rule rejects one, for an amount above its
ceiling. -/
theorem assessments_depend_on_rules_present (known : rules ⊆ standard ceiling) (a : Authorization) :
    (∀ others : List RiskRule, (∀ rule, rule ∈ others ↔ rule ∈ rules) →
      assess others a = assess rules a) ∧
    ((evaluations .empty a rules).length ≤ 1 ∧
      (evaluations .empty a rules).foldlM (fun found rule => rule.evaluate a found) .empty =
        assess rules a ∧
      ∀ found, assess rules a = .ok found → found.evaluated = evaluations .empty a rules) ∧
    ((∃ found, assess rules a = .ok found ∧ found.completed = true) ↔
      ∃ rule ∈ rules, rule.exemption = a.exemption ∧ ¬ rule.Rejects a) ∧
    ∀ e, assess rules a = .error e ↔ e = .lowValueExceeded a.amount.value ceiling ∧
      a.exemption = .lowValue ∧ .lowValue ceiling ∈ rules ∧
        ceiling.number < a.amount.value.number := by
  refine ⟨?_, ⟨?_, foldlM_evaluations .empty a rules, fun found => evaluated_eq⟩,
    assess_completes_iff known, assess_error_iff known⟩
  · intro others same
    have first := applicable_congr (a := a) known same
    rw [assess, assess, ← foldlM_evaluations, ← foldlM_evaluations, evaluations_eq, evaluations_eq,
      first]
  · rw [evaluations_eq]
    cases applicable rules a with
    | none => exact Nat.zero_le 1
    | some rule => exact le_rfl

end

namespace Sample

def lowValueOf (amount : Amount) : Authorization :=
  .intake (.ofNat 1) "psp" "shop" amount ⟨"PLN", by decide⟩
    ⟨none, "411111******1111", none, .visa⟩ .lowValue (.ofSeconds 0)

/-- Thirty, with other digits than the ceiling. -/
def atCeiling : Authorization :=
  lowValueOf ⟨⟨300000000, 7, by decide, by decide⟩, by decide⟩

def above : Decimal := ⟨300000001, 7, by decide, by decide⟩

def aboveCeiling : Authorization := lowValueOf ⟨above, by decide⟩

def rules : List RiskRule :=
  [.transactionRisk, .lowValue .thirty, .transactionRisk, .lowValue .thirty]

end Sample

open Sample in
/-- Rules that occur twice, none of them for authorizations without an exemption. -/
theorem assessments_depend_on_rules_present_sample :
    rules ⊆ standard .thirty ∧
      assess [.lowValue .thirty, .transactionRisk] aboveCeiling = assess rules aboveCeiling ∧
      assess rules aboveCeiling = .error (.lowValueExceeded above .thirty) ∧
      ∃ found, assess rules atCeiling = .ok found ∧ found.completed = true := by
  have known : rules ⊆ standard .thirty := by decide
  obtain ⟨listed, _, _, rejects⟩ := assessments_depend_on_rules_present known aboveCeiling
  obtain ⟨_, _, completes, _⟩ := assessments_depend_on_rules_present known atCeiling
  refine ⟨known, listed _ fun rule => ?_, (rejects _).mpr ⟨rfl, rfl, by decide, ?_⟩,
    completes.mpr ⟨.lowValue .thirty, by decide, rfl, ?_⟩⟩
  · simp only [rules, List.mem_cons, List.not_mem_nil, or_false]
    tauto
  · rw [← Decimal.below_iff]
    decide
  · rintro ⟨found, e, rejected⟩
    obtain ⟨ceiling, same, exceeds, _⟩ := evaluate_error_iff.mp rejected
    obtain rfl := lowValue.inj same
    rw [← Decimal.below_iff] at exceeds
    exact absurd exceeds (by decide)

end CardPayments.RiskRule
