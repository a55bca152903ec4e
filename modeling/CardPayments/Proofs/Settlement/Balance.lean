import CardPayments.Proofs.Settlement.Limit

/-! # The balance of an authorization

Exact sums of what was captured and reversed.  Amounts with few enough digits are summed without
rounding as long as the total stays within the authorized amount; what a summary leaves of that
amount is then exact as well. -/
set_option autoImplicit false

namespace CardPayments

def Reversal.share (r : Reversal) : ℚ :=
  match r.status, r.amount with
  | .succeeded, some amount => amount.value.number
  | _, _ => 0

/-- The sum of the captures that have not failed. -/
def capturedNumber (captures : List Capture) : ℚ :=
  (captures.map fun c => c.entry.share).sum

def reversedNumber (rows : List Reversal) : ℚ := (rows.map Reversal.share).sum

theorem CaptureEntry.share_nonneg (e : CaptureEntry) : 0 ≤ e.share := by
  rw [share]
  split
  · exact e.amount.number_pos.le
  · exact le_rfl

theorem Reversal.share_of_ne (r : Reversal) (other : r.status ≠ .succeeded) : r.share = 0 := by
  rw [share]
  split
  · next succeeded _ => exact absurd succeeded other
  · rfl

theorem reversedNumber_of_none {rows : List Reversal}
    (none : ∀ row ∈ rows, row.status ≠ .succeeded) : reversedNumber rows = 0 := by
  refine List.sum_eq_zero fun x member => ?_
  obtain ⟨row, stored, rfl⟩ := List.mem_map.mp member
  exact row.share_of_ne (none row stored)

theorem reversedNumber_of_single {rows front back : List Reversal} {row : Reversal}
    (split : rows = front ++ row :: back)
    (others : ∀ other ∈ front ++ back, other.status = .failed) :
    reversedNumber rows = row.share := by
  have inFront : reversedNumber front = 0 := by
    refine reversedNumber_of_none fun other member => ?_
    simp [others other (List.mem_append_left _ member)]
  have inBack : reversedNumber back = 0 := by
    refine reversedNumber_of_none fun other member => ?_
    simp [others other (List.mem_append_right _ member)]
  calc reversedNumber rows
      = reversedNumber front + (row.share + reversedNumber back) := by
        rw [split, reversedNumber, List.map_append, List.map_cons, List.sum_append, List.sum_cons]
        rfl
    _ = row.share := by rw [inFront, inBack, zero_add, add_zero]

/-- Amounts of so few digits that sums up to the limit are exact. -/
structure Exact (limit : Amount) (scale : ℕ) : Prop where
  fits : limit.value.number * 10 ^ scale < Decimal.limit

namespace Exact

variable {limit : Amount} {scale : ℕ}

theorem total_eq (exact : Exact limit scale) (captures : List Capture) (u : CaptureSummary)
    (done : CaptureSummary.ofCaptures captures = .ok u)
    (le : u.total.number ≤ limit.value.number)
    (scales : ∀ c ∈ captures, c.amount.value.scale ≤ scale) :
    u.total.number = capturedNumber captures ∧ Decimal.OnGrid u.total.number scale := by
  have start : Decimal.OnGrid CaptureSummary.empty.total.number scale :=
    ⟨0, by simp [CaptureSummary.empty]⟩
  have grid (e : CaptureEntry) (member : e ∈ captures.map Capture.entry) (_ : e.Counts) :
      Decimal.OnGrid e.amount.value.number scale := by
    obtain ⟨c, stored, rfl⟩ := List.mem_map.mp member
    exact (Decimal.onGrid_number _ c.amount.number_pos.le).mono (scales c stored)
  have small : u.total.number * 10 ^ scale < Decimal.limit :=
    lt_of_le_of_lt (mul_le_mul_of_nonneg_right le (by positivity)) exact.fits
  obtain ⟨total, onGrid⟩ := CaptureSummary.extend_exact .empty u _ scale
    CaptureSummary.empty_nonneg start grid done small
  refine ⟨?_, onGrid⟩
  rw [total, CaptureSummary.empty, Decimal.number_zero, zero_add, List.map_map]
  rfl

/-- What a summary leaves is exact, at the finer one of the two scales. -/
theorem remaining_eq (exact : Exact limit scale) (seen : CaptureSummary) (left : Decimal)
    (remains : seen.remaining limit = .ok left) (nonneg : 0 ≤ seen.total.number)
    (le : seen.total.number ≤ limit.value.number)
    (grid : Decimal.OnGrid seen.total.number scale) :
    left.number = limit.value.number - seen.total.number := by
  have rounds := Decimal.minus_ok limit.value seen.total left le remains
  have limitGrid := Decimal.onGrid_number limit.value limit.number_pos.le
  have sign : 0 ≤ limit.value.number - seen.total.number := sub_nonneg.mpr le
  have leftLe : left.number ≤ limit.value.number :=
    rounds.number_le (Decimal.rounds_self limit.value limit.number_pos.le) sign (by linarith)
  have finer := (limitGrid.mono (le_max_right scale limit.value.scale)).sub
    (grid.mono (le_max_left scale limit.value.scale)) le
  refine rounds.number_eq_of_lt sign finer ?_
  refine lt_of_le_of_lt (mul_le_mul_of_nonneg_right leftLe (by positivity)) ?_
  rcases max_choice scale limit.value.scale with coarse | fine
  · rw [coarse]
    exact exact.fits
  · rw [fine, Decimal.number_mul_pow]
    have positive := limit.positive
    have fits := limit.value.fits
    have below : limit.value.coefficient < Decimal.limit := by omega
    exact_mod_cast below

end Exact

/-! ## Captures that stay -/

open Classical in
/-- The sum of the captures that have not failed, without those that may still be taken back. -/
noncomputable def settledNumber (inDoubt : Uuid → Prop) (captures : List Capture) : ℚ :=
  (captures.map fun c => if inDoubt c.id then 0 else c.entry.share).sum

theorem settledNumber_append (inDoubt : Uuid → Prop) (front back : List Capture) :
    settledNumber inDoubt (front ++ back) =
      settledNumber inDoubt front + settledNumber inDoubt back := by
  rw [settledNumber, List.map_append, List.sum_append]
  rfl

theorem settledNumber_mono (few many : Uuid → Prop) (captures : List Capture)
    (more : ∀ c ∈ captures, few c.id → many c.id) :
    settledNumber many captures ≤ settledNumber few captures := by
  refine List.sum_le_sum fun c member => ?_
  have nonneg := c.entry.share_nonneg
  by_cases inDoubt : few c.id
  · rw [if_pos inDoubt, if_pos (more c member inDoubt)]
  · rw [if_neg inDoubt]
    split
    · exact nonneg
    · exact le_rfl

theorem settledNumber_le (inDoubt : Uuid → Prop) (captures : List Capture) :
    settledNumber inDoubt captures ≤ capturedNumber captures := by
  refine List.sum_le_sum fun c _ => ?_
  split
  · exact c.entry.share_nonneg
  · exact le_rfl

theorem settledNumber_of_none (inDoubt : Uuid → Prop) (captures : List Capture)
    (none : ∀ captureId, ¬ inDoubt captureId) :
    settledNumber inDoubt captures = capturedNumber captures := by
  rw [settledNumber, capturedNumber]
  simp only [none, if_false]

end CardPayments
