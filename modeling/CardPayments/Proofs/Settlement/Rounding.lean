import Mathlib.Tactic.FieldSimp
import Mathlib.Tactic.NormNum
import CardPayments.Proofs.Settlement.Coverage
import CardPayments.Proofs.Undisturbed.Capture

/-! # Sums that are rounded

The limit of an authorization is checked on a rounded total.  Captures that are made one after
another therefore stay within it exactly as long as their amounts have so few digits that no sum up
to the limit is rounded; with one digit more, a total that is too large can be rounded down to the
limit. -/
set_option autoImplicit false

namespace CardPayments

namespace Decimal

theorem nearest_bounds (x : ℚ) (nonneg : 0 ≤ x) :
    2 * x ≤ 2 * nearest x + 1 ∧ 2 * (nearest x : ℚ) ≤ 2 * x + 1 := by
  have den : (0 : ℚ) < x.den := by exact_mod_cast x.den_pos
  have numerator := numerator_eq x nonneg
  obtain ⟨upper, lower⟩ := roundHalfEven_bounds x.num.toNat x.den x.den_pos
  have isNearest : roundHalfEven x.num.toNat x.den = nearest x := rfl
  rw [isNearest] at upper lower
  constructor
  · have scaled : 2 * (x.num.toNat : ℚ) ≤ (2 * nearest x + 1) * x.den := by exact_mod_cast upper
    rw [numerator, ← mul_assoc] at scaled
    exact le_of_mul_le_mul_right scaled den
  · have scaled : 2 * ((nearest x : ℚ) * x.den) ≤ 2 * x.num.toNat + x.den := by
      exact_mod_cast lower
    rw [numerator] at scaled
    refine le_of_mul_le_mul_right ?_ den
    linarith

theorem nearest_add_small (n : ℕ) (excess : ℚ) (nonneg : 0 ≤ excess) (small : 2 * excess < 1) :
    nearest (n + excess) = n := by
  obtain ⟨upper, lower⟩ := nearest_bounds (n + excess) (by positivity)
  have above : (2 * n : ℚ) < 2 * nearest (n + excess) + 2 := by linarith
  have below : (2 * nearest (n + excess) : ℚ) < 2 * n + 2 := by linarith
  have aboveNat : 2 * n < 2 * nearest (n + excess) + 2 := by exact_mod_cast above
  have belowNat : 2 * nearest (n + excess) < 2 * n + 2 := by exact_mod_cast below
  omega

/-- At a coarser scale four units of a finer one are rounded away. -/
theorem nearest_excess {a : Decimal} {scale coarser : ℕ} (nonneg : 0 ≤ a.number)
    (onGrid : a.scale ≤ coarser) (less : coarser < scale) :
    (nearest ((a.number + 4 / 10 ^ scale) * 10 ^ coarser) : ℚ) = a.number * 10 ^ coarser := by
  obtain ⟨n, value⟩ := (onGrid_number a nonneg).mono onGrid
  have split : (10 : ℚ) ^ scale = 10 ^ (scale - coarser - 1) * 10 * 10 ^ coarser := by
    rw [← pow_succ, ← pow_add, Nat.sub_add_cancel (by omega), Nat.sub_add_cancel less.le]
  have excess : 4 / (10 : ℚ) ^ scale * 10 ^ coarser = 4 / (10 ^ (scale - coarser - 1) * 10) := by
    rw [split]
    field_simp
  rw [add_mul, value, excess, nearest_add_small n]
  · positivity
  · rw [← mul_div_assoc, div_lt_one (by positivity)]
    have : (1 : ℚ) ≤ 10 ^ (scale - coarser - 1) := one_le_pow₀ (by norm_num)
    linarith

theorem nearest_excess_lt {a : Decimal} {scale coarser : ℕ} (nonneg : 0 ≤ a.number)
    (less : a.scale < scale) (le : coarser ≤ a.scale) :
    nearest ((a.number + 4 / 10 ^ scale) * 10 ^ coarser) < limit := by
  have order := nearest_scale_le (a.number + 4 / 10 ^ scale) (by positivity) le
  have fits := (rounds_self a nonneg).number_mul_pow_lt le_rfl
  rw [← nearest_excess nonneg le_rfl less] at fits
  exact lt_of_le_of_lt order (by exact_mod_cast fits)

/-- Four units of a scale at which the number does not fit are lost. -/
theorem Rounds.number_eq_of_excess {a u : Decimal} {scale : ℕ} (nonneg : 0 ≤ a.number)
    (large : limit ≤ a.number * 10 ^ scale) (less : a.scale < scale)
    (rounds : Rounds (a.number + 4 / 10 ^ scale) u) : u.number = a.number := by
  have power : (0 : ℚ) < 10 ^ scale := by positivity
  have sign : 0 ≤ a.number + 4 / 10 ^ scale := by positivity
  have lessToo : u.scale < scale := by
    by_contra finer
    have order := nearest_scale_le _ sign (not_lt.mp finer)
    have exceeds : limit ≤ nearest ((a.number + 4 / 10 ^ scale) * 10 ^ scale) := by
      rw [← nearest_natCast limit]
      refine nearest_le _ _ (Nat.cast_nonneg limit) ?_
      rw [add_mul, div_mul_cancel₀ _ power.ne']
      linarith
    exact absurd rounds.nearest_lt_limit (not_lt.mpr (le_trans exceeds order))
  have inexact : u.number ≠ a.number + 4 / 10 ^ scale := by
    -- both numbers are multiples of ten units of the scale, the excess is not
    intro exact
    obtain ⟨n, nValue⟩ := (onGrid_number a nonneg).mono (Nat.le_sub_one_of_lt less)
    obtain ⟨m, mValue⟩ :=
      (onGrid_number u rounds.number_nonneg).mono (Nat.le_sub_one_of_lt lessToo)
    have split : (10 : ℚ) ^ scale = 10 ^ (scale - 1) * 10 := by
      rw [← pow_succ, Nat.sub_add_cancel (by omega)]
    have sum : (m : ℚ) * 10 = n * 10 + 4 := by
      rw [← nValue, ← mValue, mul_assoc, mul_assoc, ← split, exact, add_mul,
        div_mul_cancel₀ _ power.ne']
    have sumNat : m * 10 = n * 10 + 4 := by exact_mod_cast sum
    omega
  have tooFine := rounds.finest.resolve_left inexact
  have onGrid : a.scale ≤ u.scale := by
    by_contra coarser
    exact absurd (nearest_excess_lt nonneg less (not_le.mp coarser)) (not_lt.mpr tooFine)
  have scaled := rounds.number_mul_pow.trans (nearest_excess nonneg onGrid lessToo)
  exact mul_right_cancel₀ (by positivity) scaled

end Decimal

/-! ## Two captures that go too far -/

/-- What is left after the first capture is exceeded by the second one, and yet their sum is rounded
to the limit. -/
theorem Amount.exists_exceeding (limit : Amount) (scale : ℕ) (bound : scale ≤ 28)
    (large : (Decimal.limit : ℚ) ≤ limit.value.number * 10 ^ scale) :
    ∃ most rest : Amount, most.value.scale ≤ scale ∧ rest.value.scale ≤ scale ∧
      most.value.number < limit.value.number ∧
      limit.value.number < most.value.number + rest.value.number ∧
      ∃ total, most.value.plus rest.value = .ok total ∧ total.number = limit.value.number := by
  have limitPos := limit.number_pos
  have finer : limit.value.scale < scale := by
    by_contra coarser
    have := (Decimal.rounds_self limit.value limitPos.le).number_mul_pow_lt (not_lt.mp coarser)
    linarith
  obtain ⟨digits, scale_eq⟩ := Nat.exists_eq_add_of_lt finer
  obtain ⟨c, cValue⟩ := Int.eq_ofNat_of_zero_le limit.positive.le
  have power : (10 : ℕ) ^ (digits + 1) ≤ 10 ^ 28 := Nat.pow_le_pow_right (by norm_num) (by omega)
  have limit_eq : Decimal.limit = 79228162514264337593543950336 := by decide
  have fits := limit.value.fits
  have scaled : limit.value.number * 10 ^ scale = c * 10 ^ (digits + 1) := by
    rw [scale_eq, add_assoc, pow_add, ← mul_assoc, Decimal.number_mul_pow, cValue]
    rfl
  have two : 2 ≤ c := by
    by_contra one
    have product : c * 10 ^ (digits + 1) ≤ 1 * 10 ^ 28 := Nat.mul_le_mul (by omega) power
    rw [scaled] at large
    have largeNat : Decimal.limit ≤ c * 10 ^ (digits + 1) := by exact_mod_cast large
    generalize 10 ^ (digits + 1) = unit at power product largeNat
    omega
  let most : Amount :=
    ⟨⟨(c - 1 : ℕ), limit.value.scale, by rw [Int.natAbs_natCast]; omega, limit.value.scale_le⟩,
      by simp only; omega⟩
  let rest : Amount :=
    ⟨⟨(10 ^ (digits + 1) + 4 : ℕ), scale, by
        rw [Int.natAbs_natCast]
        omega, bound⟩, by positivity⟩
  have mostNumber : most.value.number = limit.value.number - 1 / 10 ^ limit.value.scale := by
    rw [Decimal.number, Decimal.number, cValue, ← sub_div]
    simp only [most, Int.cast_natCast]
    rw [Nat.cast_sub (by omega), Nat.cast_one]
  have restNumber : rest.value.number = 1 / 10 ^ limit.value.scale + 4 / 10 ^ scale := by
    simp only [Decimal.number, rest]
    push_cast
    rw [add_div, scale_eq, add_assoc, pow_add _ _ (digits + 1)]
    congr 1
    field_simp
  have sum : most.value.number + rest.value.number = limit.value.number + 4 / 10 ^ scale := by
    rw [mostNumber, restNumber]
    ring
  have unit : (0 : ℚ) < 1 / 10 ^ limit.value.scale := by positivity
  have excess : (0 : ℚ) < 4 / 10 ^ scale := by positivity
  refine ⟨most, rest, finer.le, le_rfl, by linarith, by linarith, ?_⟩
  have nonneg : 0 ≤ most.value.number + rest.value.number := by
    rw [sum]
    positivity
  cases added : most.value.plus rest.value with
  | ok total =>
      have rounds := Decimal.plus_ok _ _ _ nonneg added
      rw [sum] at rounds
      exact ⟨total, rfl, rounds.number_eq_of_excess limitPos.le large finer⟩
  | error e =>
      have overflows := Decimal.plus_error _ _ _ nonneg added
      have fitsWhole := Decimal.nearest_excess_lt limitPos.le finer (Nat.zero_le _)
      rw [pow_zero, mul_one, ← sum] at fitsWhole
      exact absurd fitsWhole (not_lt.mpr overflows)

/-! ## Captures one after another -/

/-- The captures of an authorization are within its limit, and their amounts have few digits. -/
structure Stores.Bounded (s : Stores) (a : Authorization) (scale : ℕ) : Prop where
  stored : s.authorizations.row? a.id = some a
  within : WithinLimit a.amount (s.captures.ofAuthorization a.id)
  scales : ∀ c ∈ s.captures.ofAuthorization a.id, c.amount.value.scale ≤ scale

namespace Stores.Bounded

variable {s : Stores} {a : Authorization} {scale : ℕ}

theorem capture (bounded : s.Bounded a scale) (p : Processor) (psp : String) (c : Capture)
    (fine : c.amount.value.scale ≤ scale) : (s.capture p psp c).2.Bounded a scale := by
  rcases s.capture_effect p psp c with same | ⟨shown, row, summary, isFinal, joins, after⟩
  · rw [same]
    exact bounded
  · rw [after]
    refine ⟨bounded.stored, ?_, ?_⟩
    · rw [Stores.ofAuthorization_withCapture]
      by_cases here : c.authorizationId = a.id
      · obtain ⟨stored, summed, passes⟩ := joins
        rw [here] at stored summed
        obtain rfl : a = row := Option.some.inj (bounded.stored.symm.trans stored)
        obtain ⟨checked, becomes⟩ := (CaptureSummary.verdict_ok _ _ _ _ _).mp passes
        rw [if_pos here]
        exact bounded.within.append { c with isFinal := isFinal } summary summary c.isFinal checked
          becomes summed summary.same_self
      · rw [if_neg here, List.append_nil]
        exact bounded.within
    · intro x member
      rw [Stores.ofAuthorization_withCapture] at member
      rcases List.mem_append.mp member with old | isNew
      · exact bounded.scales x old
      · split at isNew
        · rw [List.mem_singleton.mp isNew]
          exact fine
        · cases isNew

theorem performAll (p : Processor) (captures : List (String × Capture)) (s : System)
    (bounded : s.stores.Bounded a scale)
    (fine : ∀ x ∈ captures, x.2.amount.value.scale ≤ scale) :
    (s.performAll p (captures.map fun x => .capture x.1 x.2)).stores.Bounded a scale := by
  induction captures generalizing s with
  | nil => exact bounded
  | cons x rest ih =>
      rw [List.map_cons, System.performAll, List.foldl_cons, System.perform_capture]
      refine ih _ (bounded.capture p x.1 x.2 (fine x (List.mem_cons_self ..))) ?_
      exact fun other member => fine other (List.mem_cons_of_mem x member)

theorem capturedNumber_le (bounded : s.Bounded a scale) (exact : Exact a.amount scale) :
    capturedNumber (s.captures.ofAuthorization a.id) ≤ a.amount.value.number := by
  obtain ⟨summary, summed, le⟩ := bounded.within.total
  rw [← (exact.total_eq _ summary summed le bounded.scales).1]
  exact le

end Stores.Bounded

/-! ## A sum that is rounded to the limit -/

@[simp] theorem Decimal.zero_plus (b : Decimal) : Decimal.zero.plus b = .ok b := by
  have none : Decimal.zero.coefficient = 0 := rfl
  rw [plus, add, add?, if_pos none]

namespace CaptureSummary

theorem verdict_empty {limit requested : Amount}
    (below : requested.value.number < limit.value.number) :
    empty.verdict limit requested false = .ok false := by
  have within : limit.value.below requested.value = false := by
    rw [Bool.eq_false_iff, ne_eq, Decimal.below_iff]
    exact not_lt.mpr below.le
  have differs : requested.value.same limit.value = false := by
    rw [Bool.eq_false_iff, ne_eq, Decimal.same_iff]
    exact below.ne
  simp [verdict, checkCapturable, becomesFinal, empty, within, differs]

theorem verdict_reached {limit requested : Amount} {before total : Decimal}
    (added : before.plus requested.value = .ok total)
    (reached : total.number = limit.value.number) :
    (⟨before, false⟩ : CaptureSummary).verdict limit requested false = .ok true := by
  have within : limit.value.below total = false := by
    rw [Bool.eq_false_iff, ne_eq, Decimal.below_iff]
    exact not_lt.mpr reached.le
  have same : total.same limit.value = true := (Decimal.same_iff _ _).mpr reached
  simp [verdict, checkCapturable, becomesFinal, added, within, same]

end CaptureSummary

/-- Two captures of an authorization are both stored when their rounded sum is its amount. -/
theorem Stores.captures_of_reached {s : Stores} {a : Authorization} {most rest : Amount}
    {total : Decimal} (p : Processor) (stored : s.authorizations.row? a.id = some a)
    (accepted : a.status ≠ .declined ∧ a.status ≠ .riskDeclined)
    (uncaptured : s.captures.ofAuthorization a.id = [])
    (unreversed : s.reversals.pending a.id = false)
    (below : most.value.number < a.amount.value.number)
    (added : most.value.plus rest.value = .ok total)
    (reached : total.number = a.amount.value.number) :
    let asked (amount : Amount) : Capture :=
      ⟨.ofNat 0, a.id, amount, false, .created, .ofSeconds 0⟩
    ((s.capture p a.psp (asked most)).2.capture p a.psp (asked rest)).2.captures.ofAuthorization
      a.id = [asked most, { asked rest with isFinal := true }] := by
  intro asked
  have summed : s.captures.summary a.id = .ok .empty := by
    rw [CaptureStore.summary, uncaptured]
    rfl
  have first : s.Joins (asked most) a .empty false :=
    ⟨stored, summed, CaptureSummary.verdict_empty below⟩
  obtain ⟨shown, afterFirst⟩ := capture_joins p first accepted unreversed
  rw [afterFirst]
  have rows (shown : Authorization) : ((s.withCapture (asked most)).announce p shown
      (asked most)).captures.ofAuthorization a.id = [asked most] := by
    rw [ofAuthorization_withCapture, uncaptured, if_pos rfl]
    rfl
  have second : ((s.withCapture (asked most)).announce p shown (asked most)).Joins (asked rest) a
      ⟨most.value, false⟩ true := by
    refine ⟨stored, ?_, CaptureSummary.verdict_reached added reached⟩
    rw [CaptureStore.summary, rows]
    simp [CaptureSummary.ofCaptures, CaptureSummary.ofEntries, CaptureSummary.extend,
      CaptureSummary.count, CaptureSummary.empty, Capture.entry, asked]
  obtain ⟨shownAgain, afterSecond⟩ := capture_joins p second accepted unreversed
  have stays : ({ asked most with isFinal := false } : Capture) = asked most := rfl
  rw [stays, afterSecond, ofAuthorization_withCapture, rows, if_pos rfl]
  rfl

/-- The captures of an authorization that are made one after another stay within its amount, for
all amounts of at most so many fraction digits, exactly if that amount fits with as many digits. -/
theorem captured_within_limit_iff (p : Processor) (s : System) (a : Authorization) (scale : ℕ)
    (stored : s.stores.authorizations.row? a.id = some a)
    (accepted : a.status ≠ .declined ∧ a.status ≠ .riskDeclined)
    (uncaptured : s.stores.captures.ofAuthorization a.id = [])
    (unreversed : s.stores.reversals.pending a.id = false) (bound : scale ≤ 28) :
    (∀ captures : List (String × Capture), (∀ x ∈ captures, x.2.amount.value.scale ≤ scale) →
      capturedNumber ((s.performAll p (captures.map fun x => .capture x.1 x.2)).stores.captures
        |>.ofAuthorization a.id) ≤ a.amount.value.number) ↔
      a.amount.value.number * 10 ^ scale < Decimal.limit := by
  constructor
  · intro within
    by_contra large
    obtain ⟨most, rest, mostFine, restFine, below, exceeds, total, added, reached⟩ :=
      a.amount.exists_exceeding scale bound (not_lt.mp large)
    let asked (amount : Amount) : Capture :=
      ⟨.ofNat 0, a.id, amount, false, .created, .ofSeconds 0⟩
    have rows := Stores.captures_of_reached p stored accepted uncaptured unreversed below added
      reached
    have sum := within [(a.psp, asked most), (a.psp, asked rest)] fun x member => by
      rcases List.mem_pair.mp member with rfl | rfl
      · exact mostFine
      · exact restFine
    simp only [List.map_cons, List.map_nil, System.performAll, List.foldl_cons, List.foldl_nil,
      System.perform_capture] at sum
    rw [rows] at sum
    have captured : capturedNumber [asked most, { asked rest with isFinal := true }] =
        most.value.number + rest.value.number := by
      simp [capturedNumber, Capture.entry, CaptureEntry.share, CaptureEntry.Counts, asked]
    linarith
  · intro fits captures fine
    have first : s.stores.Bounded a scale := by
      refine ⟨stored, ?_, ?_⟩
      · rw [uncaptured]
        exact .nil a.amount
      · rw [uncaptured]
        rintro _ ⟨⟩
    exact (first.performAll p captures s fine).capturedNumber_le ⟨fits⟩

/-! ## Runs -/

namespace Sample

/-- An amount of twenty-nine digits, of which none is in the fraction. -/
def wide : Amount :=
  ⟨{ Decimal.zero with coefficient := 10000000000000000000000000000, fits := by decide }, by decide⟩

def wideAuthorization : Authorization := { authorization with amount := wide }

def wideStores : Stores := { stores with authorizations := ⟨[wideAuthorization], []⟩ }

def most : Amount :=
  ⟨{ Decimal.zero with coefficient := 9999999999999999999999999999, fits := by decide }, by decide⟩

def little : Amount := ⟨{ four.value with coefficient := 14, fits := by decide }, by decide⟩

def asked (id : ℕ) (amount : Amount) : Capture :=
  ⟨.ofNat id, .ofNat 1, amount, false, .created, .ofSeconds 0⟩

def wideCaptures : List Capture :=
  ((calm wideStores).performAll processor
    [.capture "psp" (asked 2 most), .capture "psp" (asked 3 little)]).stores.captures
    |>.ofAuthorization (.ofNat 1)

end Sample

/-- Cents never take captures above an amount of ten; tenths can take them above the wide one. -/
theorem captured_within_limit_iff_samples :
    (∀ captures : List (String × Capture), (∀ x ∈ captures, x.2.amount.value.scale ≤ 2) →
      capturedNumber (((Sample.calm Sample.stores).performAll Sample.processor
        (captures.map fun x => .capture x.1 x.2)).stores.captures.ofAuthorization (.ofNat 1)) ≤
          Sample.ten.value.number) ∧
    ¬ ∀ captures : List (String × Capture), (∀ x ∈ captures, x.2.amount.value.scale ≤ 1) →
      capturedNumber (((Sample.calm Sample.wideStores).performAll Sample.processor
        (captures.map fun x => .capture x.1 x.2)).stores.captures.ofAuthorization (.ofNat 1)) ≤
          Sample.wide.value.number := by
  have limit_eq : Decimal.limit = 79228162514264337593543950336 := by decide
  constructor
  · refine (captured_within_limit_iff Sample.processor (Sample.calm Sample.stores)
      Sample.authorization 2 (by decide) ⟨by decide, by decide⟩ rfl (by decide)
      (by decide)).mpr ?_
    norm_num [Sample.authorization, Authorization.intake, Sample.ten, Decimal.number, limit_eq]
  · refine mt (captured_within_limit_iff Sample.processor (Sample.calm Sample.wideStores)
      Sample.wideAuthorization 1 (by decide) ⟨by decide, by decide⟩ rfl (by decide)
      (by decide)).mp ?_
    norm_num [Sample.wideAuthorization, Sample.wide, Decimal.zero, Decimal.number, limit_eq]

/-- The second capture takes the exact sum above the limit; the rounded sum is the limit. -/
theorem captures_exceed_limit_when_rounded :
    Sample.wide.value.number < capturedNumber Sample.wideCaptures := by
  have rows : Sample.wideCaptures =
      [Sample.asked 2 Sample.most, { Sample.asked 3 Sample.little with isFinal := true }] := by
    decide
  rw [rows]
  simp [capturedNumber, Capture.entry, CaptureEntry.share, CaptureEntry.Counts, Sample.asked,
    Sample.most, Sample.little, Sample.four, Sample.wide, Decimal.zero, Decimal.number]
  norm_num

end CardPayments
