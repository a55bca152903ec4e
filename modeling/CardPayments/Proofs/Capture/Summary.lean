import CardPayments.Capture
import CardPayments.Proofs.Decimal.Sum

/-! # Summaries of captures

A summary grows with every capture it counts.  Captures that fail later make it smaller: the sum of
the others does not overflow either, and is not larger, although every addition after them is
rounded differently.  A total with fewer digits than fit is the exact sum. -/
set_option autoImplicit false

namespace CardPayments

theorem Amount.number_pos (a : Amount) : 0 < a.value.number :=
  (Decimal.number_pos_iff a.value).mpr a.positive

namespace CaptureEntry

def Counts (e : CaptureEntry) : Prop := e.status ≠ .failed

instance (e : CaptureEntry) : Decidable e.Counts := inferInstanceAs (Decidable (_ ≠ _))

def share (e : CaptureEntry) : ℚ := if e.Counts then e.amount.value.number else 0

def withdrawn (e : CaptureEntry) : CaptureEntry := { e with status := .failed }

@[simp] theorem not_counts_withdrawn (e : CaptureEntry) : ¬ e.withdrawn.Counts := by
  simp [Counts, withdrawn]

end CaptureEntry

/-- The same captures in the same order, some of which have failed since. -/
def Withdrawn (before after : List CaptureEntry) : Prop :=
  List.Forall₂ (fun old new => new = old ∨ new = old.withdrawn) before after

theorem Withdrawn.refl (entries : List CaptureEntry) : Withdrawn entries entries :=
  List.forall₂_same.mpr fun _ _ => Or.inl rfl

namespace CaptureSummary

theorem extend_skip (s : CaptureSummary) (e : CaptureEntry) (rest : List CaptureEntry)
    (failed : ¬ e.Counts) : s.extend (e :: rest) = s.extend rest := by
  have status : e.status = .failed := not_not.mp failed
  simp [extend, status]

theorem extend_count (s : CaptureSummary) (e : CaptureEntry) (rest : List CaptureEntry)
    (counts : e.Counts) : s.extend (e :: rest) =
      match s.count e with
      | .ok next => next.extend rest
      | .error cause => .error cause := by
  have kept : ¬ e.status = .failed := counts
  cases counted : s.count e with
  | ok next => simp only [extend, if_neg kept, counted]
  | error cause => simp only [extend, if_neg kept, counted]

theorem extend_append (s : CaptureSummary) (front back : List CaptureEntry) :
    s.extend (front ++ back) =
      match s.extend front with
      | .ok middle => middle.extend back
      | .error cause => .error cause := by
  induction front generalizing s with
  | nil => rfl
  | cons e rest ih =>
      by_cases counts : e.Counts
      · rw [List.cons_append, extend_count s e _ counts, extend_count s e _ counts]
        cases s.count e with
        | ok next => exact ih next
        | error cause => rfl
      · rw [List.cons_append, extend_skip s e _ counts, extend_skip s e _ counts]
        exact ih s

/-! ## One capture -/

theorem count_ok (s u : CaptureSummary) (e : CaptureEntry) (nonneg : 0 ≤ s.total.number)
    (done : s.count e = .ok u) :
    Decimal.Rounds (s.total.number + e.amount.value.number) u.total ∧
      u.hasFinal = (s.hasFinal || e.isFinal) := by
  have amount := e.amount.number_pos
  rw [count] at done
  cases sum : s.total.plus e.amount.value with
  | error cause => simp [sum] at done
  | ok total =>
      simp only [sum, Except.ok.injEq] at done
      subst done
      exact ⟨Decimal.plus_ok _ _ _ (by linarith) sum, rfl⟩

/-- What can be counted on a total can be counted on a smaller one, with a smaller result. -/
theorem count_of_le (s t u : CaptureSummary) (e : CaptureEntry) (nonneg : 0 ≤ t.total.number)
    (le : t.total.number ≤ s.total.number) (final : t.hasFinal = true → s.hasFinal = true)
    (done : s.count e = .ok u) :
    ∃ v, t.count e = .ok v ∧ v.total.number ≤ u.total.number ∧
      (v.hasFinal = true → u.hasFinal = true) := by
  have amount := e.amount.number_pos
  obtain ⟨larger, flag⟩ := count_ok s u e (le_trans nonneg le) done
  have sign : 0 ≤ t.total.number + e.amount.value.number := by linarith
  have order : t.total.number + e.amount.value.number ≤
      s.total.number + e.amount.value.number := by linarith
  cases sum : t.total.plus e.amount.value with
  | error cause =>
      have overflows := (Decimal.plus_error _ _ _ sign sum).mono sign order
      exact absurd overflows (larger.not_overflows (le_trans sign order))
  | ok total =>
      refine ⟨⟨total, t.hasFinal || e.isFinal⟩, by simp [count, sum], ?_, ?_⟩
      · exact (Decimal.plus_ok _ _ _ sign sum).number_le larger sign order
      · intro either
        rw [flag]
        rcases Bool.or_eq_true_iff.mp either with old | new
        · rw [final old, Bool.true_or]
        · rw [new, Bool.or_true]

theorem count_grows (s u : CaptureSummary) (e : CaptureEntry) (nonneg : 0 ≤ s.total.number)
    (done : s.count e = .ok u) : s.total.number ≤ u.total.number := by
  have amount := e.amount.number_pos
  exact (Decimal.rounds_self s.total nonneg).number_le (count_ok s u e nonneg done).1 nonneg
    (by linarith)

/-! ## Many captures -/

theorem extend_grows (s u : CaptureSummary) (entries : List CaptureEntry)
    (nonneg : 0 ≤ s.total.number) (done : s.extend entries = .ok u) :
    s.total.number ≤ u.total.number := by
  induction entries generalizing s with
  | nil =>
      cases done
      exact le_rfl
  | cons e rest ih =>
      by_cases counts : e.Counts
      · rw [extend_count s e _ counts] at done
        cases counted : s.count e with
        | error cause => simp [counted] at done
        | ok next =>
            simp only [counted] at done
            have grows := count_grows s next e nonneg counted
            exact le_trans grows (ih next (le_trans nonneg grows) done)
      · rw [extend_skip s e _ counts] at done
        exact ih s nonneg done

/-- Captures that fail later make a summary neither overflow nor larger, and close nothing. -/
theorem extend_withdrawn (before after : List CaptureEntry) (withdrawn : Withdrawn before after)
    (s t u : CaptureSummary) (nonneg : 0 ≤ t.total.number) (le : t.total.number ≤ s.total.number)
    (final : t.hasFinal = true → s.hasFinal = true) (done : s.extend before = .ok u) :
    ∃ v, t.extend after = .ok v ∧ v.total.number ≤ u.total.number ∧
      (v.hasFinal = true → u.hasFinal = true) := by
  induction withdrawn generalizing s t with
  | nil =>
      cases done
      exact ⟨t, rfl, le, final⟩
  | @cons old new olds news change _ ih =>
      by_cases counts : old.Counts
      · rw [extend_count s old _ counts] at done
        cases counted : s.count old with
        | error cause => simp [counted] at done
        | ok next =>
            simp only [counted] at done
            rcases change with rfl | rfl
            · obtain ⟨next', counted', le', final'⟩ :=
                count_of_le s t next new nonneg le final counted
              have grows := count_grows t next' new nonneg counted'
              rw [extend_count t new _ counts, counted']
              exact ih next next' (le_trans nonneg grows) le' final' done
            · have grows := count_grows s next old (le_trans nonneg le) counted
              have flag := (count_ok s next old (le_trans nonneg le) counted).2
              rw [extend_skip t _ _ old.not_counts_withdrawn]
              refine ih next t nonneg (le_trans le grows) ?_ done
              intro isFinal
              rw [flag, final isFinal, Bool.true_or]
      · have failed : ¬ new.Counts := by
          rcases change with rfl | rfl
          · exact counts
          · exact old.not_counts_withdrawn
        rw [extend_skip s old _ counts] at done
        rw [extend_skip t new _ failed]
        exact ih s t nonneg le final done

theorem extend_hasFinal (s u : CaptureSummary) (entries : List CaptureEntry)
    (nonneg : 0 ≤ s.total.number) (done : s.extend entries = .ok u) :
    u.hasFinal = true ↔ s.hasFinal = true ∨ ∃ e ∈ entries, e.Counts ∧ e.isFinal = true := by
  induction entries generalizing s with
  | nil =>
      cases done
      simp
  | cons e rest ih =>
      by_cases counts : e.Counts
      · rw [extend_count s e _ counts] at done
        cases counted : s.count e with
        | error cause => simp [counted] at done
        | ok next =>
            simp only [counted] at done
            have grows := count_grows s next e nonneg counted
            rw [ih next (le_trans nonneg grows) done, (count_ok s next e nonneg counted).2]
            simp [counts, or_assoc]
      · rw [extend_skip s e _ counts] at done
        rw [ih s nonneg done]
        simp [counts]

/-- A total with fewer digits than fit is the exact sum of what it counts. -/
theorem extend_exact (s u : CaptureSummary) (entries : List CaptureEntry) (scale : ℕ)
    (nonneg : 0 ≤ s.total.number) (start : Decimal.OnGrid s.total.number scale)
    (grid : ∀ e ∈ entries, e.Counts → Decimal.OnGrid e.amount.value.number scale)
    (done : s.extend entries = .ok u) (small : u.total.number * 10 ^ scale < Decimal.limit) :
    u.total.number = s.total.number + (entries.map CaptureEntry.share).sum ∧
      Decimal.OnGrid u.total.number scale := by
  induction entries generalizing s with
  | nil =>
      cases done
      simpa using start
  | cons e rest ih =>
      have restGrid := fun other member => grid other (List.mem_cons_of_mem e member)
      by_cases counts : e.Counts
      · rw [extend_count s e _ counts] at done
        cases counted : s.count e with
        | error cause => simp [counted] at done
        | ok next =>
            simp only [counted] at done
            have amount := e.amount.number_pos
            have sum := start.add (grid e (List.mem_cons_self ..) counts)
            have rounds := (count_ok s next e nonneg counted).1
            have later := extend_grows next u rest rounds.number_nonneg done
            have exact_next : next.total.number = s.total.number + e.amount.value.number := by
              apply rounds.number_eq_of_lt (by linarith) sum
              exact lt_of_le_of_lt (mul_le_mul_of_nonneg_right later (by positivity)) small
            rw [← exact_next] at sum
            obtain ⟨total, onGrid⟩ := ih next rounds.number_nonneg sum restGrid done
            refine ⟨?_, onGrid⟩
            rw [total, exact_next, List.map_cons, List.sum_cons, CaptureEntry.share, if_pos counts]
            ring
      · rw [extend_skip s e _ counts] at done
        obtain ⟨total, onGrid⟩ := ih s nonneg start restGrid done
        refine ⟨?_, onGrid⟩
        rw [total, List.map_cons, List.sum_cons, CaptureEntry.share, if_neg counts, zero_add]

/-! ## Checks of a capture -/

theorem same_iff (s t : CaptureSummary) :
    s.same t = true ↔ s.total.number = t.total.number ∧ s.hasFinal = t.hasFinal := by
  rw [same, Bool.and_eq_true, Decimal.same_iff, beq_iff_eq]

/-- A capture that passed the check can be counted, and does not exceed the authorized amount. -/
theorem checkCapturable_ok (s : CaptureSummary) (authorized : Amount) (e : CaptureEntry)
    (passed : s.checkCapturable authorized e.amount = .ok ()) :
    s.hasFinal = false ∧ ∃ u, s.count e = .ok u ∧ s.total.plus e.amount.value = .ok u.total ∧
      u.total.number ≤ authorized.value.number := by
  rw [checkCapturable] at passed
  split at passed
  · cases passed
  · next unclosed =>
      refine ⟨Bool.eq_false_iff.mpr unclosed, ?_⟩
      split at passed
      · cases passed
      · next total sum =>
          split at passed
          · cases passed
          · next within =>
              rw [Decimal.below_iff, not_lt] at within
              exact ⟨⟨total, s.hasFinal || e.isFinal⟩, by rw [count, sum], sum, within⟩

theorem becomesFinal_ok (s : CaptureSummary) (authorized requested : Amount) (flagged : Bool)
    (total : Decimal) (sum : s.total.plus requested.value = .ok total)
    (becomes : s.becomesFinal authorized requested flagged = .ok false) :
    total.number ≠ authorized.value.number := by
  rw [becomesFinal] at becomes
  split at becomes
  · cases becomes
  · simp only [sum, Except.ok.injEq] at becomes
    intro reached
    rw [(Decimal.same_iff total authorized.value).mpr reached] at becomes
    cases becomes

end CaptureSummary
end CardPayments
