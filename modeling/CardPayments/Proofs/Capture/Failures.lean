import CardPayments.Proofs.Settlement.Limit

/-! # Captures that fail afterwards

Any captures of a list may be taken as failed later on, also ones in the middle of it, after which
every sum is rounded anew.  The summary can still be read, its total has not grown, and no final
capture has come in. -/
set_option autoImplicit false

namespace CardPayments

def withdrawnAt (chosen : ℕ → Bool) (entries : List CaptureEntry) : List CaptureEntry :=
  entries.mapIdx fun place e => if chosen place then e.withdrawn else e

theorem withdrawnAt_cons (chosen : ℕ → Bool) (e : CaptureEntry) (rest : List CaptureEntry) :
    withdrawnAt chosen (e :: rest) =
      (if chosen 0 then e.withdrawn else e) :: withdrawnAt (fun place => chosen (place + 1)) rest :=
  List.mapIdx_cons

theorem withdrawn_withdrawnAt (chosen : ℕ → Bool) (entries : List CaptureEntry) :
    Withdrawn entries (withdrawnAt chosen entries) := by
  induction entries generalizing chosen with
  | nil => exact .nil
  | cons e rest ih =>
      rw [withdrawnAt_cons]
      refine .cons ?_ (ih _)
      split
      · exact Or.inr rfl
      · exact Or.inl rfl

/-- Where a list of captures can be summed up, so can it with any of them failed, whatever their
scales are and however the sums are rounded: the total is not larger, and there is a final capture
only if there was one. -/
theorem failures_never_raise_totals (entries : List CaptureEntry) (chosen : ℕ → Bool)
    (summary : CaptureSummary) (done : CaptureSummary.ofEntries entries = .ok summary) :
    ∃ left, CaptureSummary.ofEntries (withdrawnAt chosen entries) = .ok left ∧
      left.total.number ≤ summary.total.number ∧
      (left.hasFinal = true → summary.hasFinal = true) :=
  CaptureSummary.ofEntries_withdrawn entries _ summary (withdrawn_withdrawnAt chosen entries) done

namespace Failures.Sample

/-- Twenty-nine digits, which leave no room for a fraction digit in a sum. -/
def wide : Amount :=
  ⟨{ Decimal.zero with coefficient := 10000000000000000000000000001, fits := by decide }, by decide⟩

def half : Amount := ⟨⟨500000, 6, by decide, by decide⟩, by decide⟩

/-- Both halves are ties: the first one is rounded up, the second one down. -/
def entries : List CaptureEntry :=
  [⟨wide, false, .created⟩, ⟨half, false, .created⟩, ⟨half, true, .cleared⟩]

def total : Decimal :=
  { Decimal.zero with coefficient := 10000000000000000000000000002, fits := by decide }

end Failures.Sample

open Failures.Sample in
/-- The capture in the middle fails, and the last one is rounded up in its stead. -/
theorem failures_never_raise_totals_sample :
    CaptureSummary.ofEntries entries = .ok ⟨total, true⟩ ∧
      ∃ left, CaptureSummary.ofEntries (withdrawnAt (· == 1) entries) = .ok left ∧
        left.total.number ≤ total.number := by
  have done : CaptureSummary.ofEntries entries = .ok ⟨total, true⟩ := by decide +kernel
  obtain ⟨left, sums, le, _⟩ := failures_never_raise_totals entries (· == 1) _ done
  exact ⟨done, left, sums, le⟩

open Failures.Sample in
example : CaptureSummary.ofEntries (withdrawnAt (· == 1) entries) = .ok ⟨total, true⟩ := by
  decide +kernel

end CardPayments
