import CardPayments.Proofs.Settlement.Approval
import CardPayments.Proofs.Settlement.Balance

/-! # Captures and reversals together stay within the authorized amount

Neither captures nor reversals lock the authorization.  A capture is stored before its request looks
for a reversal, and a reversal is stored before its request reads the captures again: whichever is
stored last, its request sees the other one and takes its own back.  From the moment a reversal is
cleared, the captures that are beyond doubt and the reversed amount share what was authorized, and
no capture in doubt gets beyond it. -/
set_option autoImplicit false

namespace CardPayments

open Settlement

variable {ι : Type} {requests : ι → Request} {id : Uuid} {limit : Amount} {scale : ℕ}

/-- Every stored capture belongs to a request that stored it, and a request that may still take its
capture back finds it stored. -/
structure Kept (requests : ι → Request) (scale : ℕ) (captures : List Capture) (phase : ι → Phase) :
    Prop where
  owned : Owned Request.captureId? requests (captures.map Capture.id) phase
  balance : ∀ i c, (phase i).balance? = some c → (requests i).captureId? = some c.id ∧
    ∃ row ∈ captures, row.id = c.id
  scales : ∀ c ∈ captures, c.amount.value.scale ≤ scale

/-- The capture may still be taken back. -/
def InDoubt (phase : ι → Phase) (captureId : Uuid) : Prop :=
  ∃ i c, (phase i).balance? = some c ∧ c.id = captureId

/-- A reversal of such an amount has passed all checks, or succeeded. -/
inductive Committed (such : Option Amount → Prop) (rows : List Reversal) (phase : ι → Phase) : Prop
  | cleared (i : ι) (r : Reversal) (clears : phase i = .cleared r) (isSuch : such r.amount)
  | answered (i : ι) (r : Reversal) (answered : phase i = .answered r) (isSuch : such r.amount)
  | succeeded (row : Reversal) (stored : row ∈ rows) (succeeded : row.status = .succeeded)
      (isSuch : such row.amount)

/-- The amount is on its way to the network, or was reversed. -/
abbrev Claimed (rows : List Reversal) (phase : ι → Phase) (amount : Amount) : Prop :=
  Committed (· = some amount) rows phase

namespace Kept

variable {captures after : List Capture} {phase : ι → Phase} {i : ι} {next : Phase}

theorem nil (requests : ι → Request) (scale : ℕ) : Kept requests scale [] (fun _ => .idle) where
  owned := .nil ..
  balance _ _ balance := nomatch balance
  scales _ member := nomatch member

theorem id_ne (kept : Kept requests scale captures phase) {front back : List Capture}
    {row c : Capture} (split : captures = front ++ row :: back) (elsewhere : c ∈ front ++ back) :
    c.id ≠ row.id := by
  have nodup := kept.owned.distinct
  rw [split, List.map_append, List.map_cons, List.nodup_middle, List.nodup_cons,
    ← List.map_append] at nodup
  exact fun same => nodup.1 (List.mem_map.mpr ⟨c, elsewhere, same⟩)

variable [DecidableEq ι]

theorem enter (kept : Kept requests scale captures phase) (idle : next = .idle → phase i = .idle)
    (balance : ∀ c, next.balance? = some c → (phase i).balance? = some c) :
    Kept requests scale captures (Function.update phase i next) where
  owned := kept.owned.enter idle
  balance j c inBalance := by
    by_cases same : j = i
    · subst same
      rw [Function.update_self] at inBalance
      exact kept.balance j c (balance c inBalance)
    · rw [Function.update_of_ne same] at inBalance
      exact kept.balance j c inBalance
  scales := kept.scales

theorem capture (kept : Kept requests scale captures phase)
    (distinct : DistinctIds Request.captureId? requests) (idle : phase i = .idle) {c : Capture}
    (owns : (requests i).captureId? = some c.id) (fine : c.amount.value.scale ≤ scale) :
    Kept requests scale (captures ++ [c]) (Function.update phase i (.captured c)) where
  owned := by
    rw [List.map_append]
    exact kept.owned.append distinct idle owns fun isIdle => nomatch isIdle
  balance j other inBalance := by
    by_cases same : j = i
    · subst same
      rw [Function.update_self] at inBalance
      cases inBalance
      exact ⟨owns, c, by simp, rfl⟩
    · rw [Function.update_of_ne same] at inBalance
      obtain ⟨ownsOld, row, member, named⟩ := kept.balance j other inBalance
      exact ⟨ownsOld, row, List.mem_append_left _ member, named⟩
  scales row member := by
    rcases List.mem_append.mp member with old | isNew
    · exact kept.scales row old
    · rw [List.mem_singleton.mp isNew]
      exact fine

theorem withdraw (kept : Kept requests scale captures phase) (c : Capture)
    (changed : RowChanged (fun row => row.id = c.id) (fun row => { row with status := .failed })
      captures after) :
    Kept requests scale after (Function.update phase i .over) := by
  obtain ⟨front, row, back, rfl, rfl, named⟩ := changed
  have entered : Kept requests scale (front ++ row :: back) (Function.update phase i .over) :=
    kept.enter (fun isIdle => nomatch isIdle) fun _ inBalance => nomatch inBalance
  have sameIds : (front ++ { row with status := .failed } :: back).map Capture.id =
      (front ++ row :: back).map Capture.id := by
    simp
  have old (x : Capture) (member : x ∈ front ++ { row with status := .failed } :: back) :
      ∃ y ∈ front ++ row :: back, y.id = x.id ∧ y.amount = x.amount := by
    rcases List.mem_append.mp member with inFront | inRest
    · exact ⟨x, List.mem_append_left _ inFront, rfl, rfl⟩
    · rcases List.mem_cons.mp inRest with rfl | inBack
      · exact ⟨row, by simp, rfl, rfl⟩
      · exact ⟨x, by simp [inBack], rfl, rfl⟩
  refine ⟨sameIds ▸ entered.owned, fun j other inBalance => ?_, fun x member => ?_⟩
  · obtain ⟨owns, y, stored, isStored⟩ := entered.balance j other inBalance
    have inIds := sameIds ▸ List.mem_map_of_mem stored
    obtain ⟨x, member, sameId⟩ := List.mem_map.mp inIds
    exact ⟨owns, x, member, sameId.trans isStored⟩
  · obtain ⟨y, stored, _, sameAmount⟩ := old x member
    exact sameAmount ▸ entered.scales y stored

end Kept

/-! ## Committed reversals -/

section

variable [DecidableEq ι] {such : Option Amount → Prop} {rows : List Reversal} {phase : ι → Phase}
  {i : ι} {next : Phase} {r : Reversal}

theorem InDoubt.enter {captureId : Uuid} (inDoubt : InDoubt phase captureId)
    (balance : ∀ c, (phase i).balance? = some c → c.id = captureId → next.balance? = some c) :
    InDoubt (Function.update phase i next) captureId := by
  obtain ⟨j, c, inBalance, named⟩ := inDoubt
  refine ⟨j, c, ?_, named⟩
  by_cases same : j = i
  · subst same
    rw [Function.update_self]
    exact balance c inBalance named
  · rwa [Function.update_of_ne same]

/-- A request with no capture in doubt goes on. -/
theorem InDoubt.enter_outside {captureId : Uuid} (inDoubt : InDoubt phase captureId)
    (outside : (phase i).balance? = none) : InDoubt (Function.update phase i next) captureId := by
  refine inDoubt.enter fun c inBalance _ => ?_
  rw [outside] at inBalance
  cases inBalance

/-- A capture that is taken back leaves no other one without doubt. -/
theorem InDoubt.enter_withdrawn {captureId : Uuid} (inDoubt : InDoubt phase captureId) {c : Capture}
    (withdraws : phase i = .withdrawn c) (other : captureId ≠ c.id) :
    InDoubt (Function.update phase i next) captureId := by
  refine inDoubt.enter fun x inBalance named => ?_
  rw [withdraws] at inBalance
  cases inBalance
  exact absurd named.symm other

namespace Committed

theorem of_enter (committed : Committed such rows (Function.update phase i next)) :
    Committed such rows phase ∨
      ∃ r, (next = .cleared r ∨ next = .answered r) ∧ such r.amount := by
  cases committed with
  | cleared j r clears isSuch =>
      by_cases same : j = i
      · subst same
        rw [Function.update_self] at clears
        exact Or.inr ⟨r, Or.inl clears, isSuch⟩
      · rw [Function.update_of_ne same] at clears
        exact Or.inl (.cleared j r clears isSuch)
  | answered j r answered isSuch =>
      by_cases same : j = i
      · subst same
        rw [Function.update_self] at answered
        exact Or.inr ⟨r, Or.inr answered, isSuch⟩
      · rw [Function.update_of_ne same] at answered
        exact Or.inl (.answered j r answered isSuch)
  | succeeded row stored succeeded isSuch => exact Or.inl (.succeeded row stored succeeded isSuch)

/-- No reversal is committed by a phase that is neither cleared nor answered. -/
theorem of_enter_other (other : ∀ r, next ≠ .cleared r ∧ next ≠ .answered r)
    (committed : Committed such rows (Function.update phase i next)) :
    Committed such rows phase := by
  rcases committed.of_enter with old | ⟨r, isCleared | isAnswered, _⟩
  · exact old
  · exact absurd isCleared (other r).1
  · exact absurd isAnswered (other r).2

omit [DecidableEq ι] in
theorem of_append (fresh : r.status ≠ .succeeded)
    (committed : Committed such (rows ++ [r]) phase) : Committed such rows phase := by
  cases committed with
  | cleared j other clears isSuch => exact .cleared j other clears isSuch
  | answered j other answered isSuch => exact .answered j other answered isSuch
  | succeeded row stored succeeded isSuch =>
      rcases List.mem_append.mp stored with old | isNew
      · exact .succeeded row old succeeded isSuch
      · rw [List.mem_singleton.mp isNew] at succeeded
        exact absurd succeeded fresh

omit [DecidableEq ι] in
/-- A reversal that succeeds was answered before. -/
theorem of_conclude {front back : List Reversal} {row : Reversal} {status : ReversalStatus}
    {response : Option SchemeResponse} (split : rows = front ++ row :: back)
    (amounts : such row.amount → such r.amount)
    (answered : status = .succeeded → phase i = .answered r)
    (committed : Committed such
      (front ++ { row with status := status, response := response } :: back) phase) :
    Committed such rows phase := by
  cases committed with
  | cleared j other clears isSuch => exact .cleared j other clears isSuch
  | answered j other isAnswered isSuch => exact .answered j other isAnswered isSuch
  | succeeded x stored succeeded isSuch =>
      rw [List.mem_append, List.mem_cons, or_left_comm, ← List.mem_append] at stored
      rcases stored with rfl | elsewhere
      · exact .answered i r (answered succeeded) (amounts isSuch)
      · refine .succeeded x ?_ succeeded isSuch
        rw [split, List.mem_append, List.mem_cons, or_left_comm, ← List.mem_append]
        exact Or.inr elsewhere

end Committed

omit [DecidableEq ι] in
theorem not_committed (exclusive : Exclusive requests rows phase)
    (free : ∀ row ∈ rows, row.status = .failed) : ¬ Committed such rows phase := by
  have taken (j : ι) (r : Reversal) (awaits : (phase j).open? = some r) : False := by
    obtain ⟨_, row, stored, _, isNew, _⟩ := exclusive.awaits j r awaits
    rw [free row stored] at isNew
    cases isNew
  intro committed
  cases committed with
  | cleared j r clears _ => exact taken j r (by rw [clears]; rfl)
  | answered j r answered _ => exact taken j r (by rw [answered]; rfl)
  | succeeded row stored succeeded _ =>
      rw [free row stored] at succeeded
      cases succeeded

end

/-! ## Steps -/

/-- The captures that are beyond doubt leave room for every amount that is claimed. -/
structure Covered (requests : ι → Request) (limit : Amount) (scale : ℕ) (l : Ledger ι) : Prop where
  kept : Kept requests scale l.captures l.phase
  priced : ∀ row ∈ l.reversals, row.amount.isSome
  room : ∀ amount, Claimed l.reversals l.phase amount →
    settledNumber (InDoubt l.phase) l.captures + amount.value.number ≤ limit.value.number

/-- What requests want: distinct captures of few digits, and reversals of the limit. -/
structure Modest (requests : ι → Request) (limit : Amount) (scale : ℕ) : Prop where
  distinct : DistinctIds Request.captureId? requests
  scales : ∀ i c, (requests i).capture? = some c → c.amount.value.scale ≤ scale
  carried : ∀ i r a, (requests i).reversal? = some r → r.authorization = some a → a.amount = limit

variable [DecidableEq ι] {l l' : Ledger ι} {turn : Turn}

namespace Covered

variable {i : ι} {next : Phase}

theorem enter (covered : Covered requests limit scale l) (idle : next = .idle → l.phase i = .idle)
    (balance : next.balance? = (l.phase i).balance?)
    (room : ∀ r amount, next = .cleared r ∨ next = .answered r → r.amount = some amount →
      settledNumber (InDoubt l.phase) l.captures + amount.value.number ≤ limit.value.number) :
    Covered requests limit scale { l with phase := Function.update l.phase i next } := by
  refine ⟨covered.kept.enter idle fun c inBalance => balance ▸ inBalance, covered.priced, ?_⟩
  intro amount claimed
  have smaller : settledNumber (InDoubt (Function.update l.phase i next)) l.captures ≤
      settledNumber (InDoubt l.phase) l.captures :=
    settledNumber_mono _ _ _ fun _ _ inDoubt =>
      inDoubt.enter fun c inBalance _ => balance.trans inBalance
  have before : settledNumber (InDoubt l.phase) l.captures + amount.value.number ≤
      limit.value.number := by
    rcases claimed.of_enter with old | ⟨r, which, isAmount⟩
    · exact covered.room amount old
    · exact room r amount which isAmount
  linarith

omit [DecidableEq ι] in
theorem unclaimed {l : Ledger ι} {next : Phase}
    (other : ∀ r, next ≠ .cleared r ∧ next ≠ .answered r) (r : Reversal) (amount : Amount)
    (which : next = .cleared r ∨ next = .answered r) :
    r.amount = some amount → settledNumber (InDoubt l.phase) l.captures + amount.value.number ≤
      limit.value.number := by
  rcases which with isCleared | isAnswered
  · exact absurd isCleared (other r).1
  · exact absurd isAnswered (other r).2

omit [DecidableEq ι] in
/-- What a cleared reversal claims is what the captures leave. -/
theorem clear_room (exact : Exact limit scale) (modest : Modest requests limit scale)
    (within : WithinLimit limit l.captures) (kept : Kept requests scale l.captures l.phase)
    {r : Reversal} {summary : CaptureSummary} {amount : Amount}
    (leaves : Leaves (requests i) (· = limit) r summary)
    (current : CaptureSummary.ofCaptures l.captures = .ok summary)
    (isAmount : r.amount = some amount) :
    settledNumber (InDoubt l.phase) l.captures + amount.value.number ≤ limit.value.number := by
  obtain ⟨seen, authorized, value, authorizes, same, left, isValue⟩ := leaves
  have isLimit : authorized = limit := by
    rcases authorizes with isLimit | ⟨wanted, a, own, carries, isCarried⟩
    · exact isLimit
    · exact isCarried ▸ modest.carried i wanted a own carries
  have isSame : value = amount := Option.some.inj (isValue.symm.trans isAmount)
  subst isLimit isSame
  obtain ⟨u, done, le⟩ := within.total
  rw [current, Except.ok.injEq] at done
  subst done
  obtain ⟨total, grid⟩ := exact.total_eq l.captures summary current le kept.scales
  obtain ⟨sameTotal, _⟩ := (CaptureSummary.same_iff summary seen).mp same
  have nonneg := CaptureSummary.ofEntries_nonneg _ summary current
  have isLeft := exact.remaining_eq seen value.value left (sameTotal ▸ nonneg) (sameTotal ▸ le)
    (sameTotal ▸ grid)
  have beyond := settledNumber_le (InDoubt l.phase) l.captures
  rw [isLeft, ← sameTotal, total]
  linarith

theorem capture (covered : Covered requests limit scale l) (modest : Modest requests limit scale)
    (idle : l.phase i = .idle) {c : Capture} {seen : CaptureSummary}
    (checked : Checked (requests i) id (· = limit) c seen) :
    Covered requests limit scale
      { l with
        captures := l.captures ++ [c]
        phase := Function.update l.phase i (.captured c) } := by
  obtain ⟨wanted, own, sameCapture⟩ := checked.own
  have owns : (requests i).captureId? = some c.id := by
    rw [Request.captureId?, own, sameCapture]
    rfl
  have fine : c.amount.value.scale ≤ scale := by
    rw [sameCapture]
    exact modest.scales i wanted own
  refine ⟨covered.kept.capture modest.distinct idle owns fine, covered.priced, ?_⟩
  intro amount claimed
  have old : Claimed l.reversals l.phase amount := claimed.of_enter_other (by simp)
  have inDoubt : InDoubt (Function.update l.phase i (.captured c)) c.id :=
    ⟨i, c, by rw [Function.update_self]; rfl, rfl⟩
  have last : settledNumber (InDoubt (Function.update l.phase i (.captured c))) [c] = 0 := by
    simp [settledNumber, inDoubt]
  have smaller : settledNumber (InDoubt (Function.update l.phase i (.captured c))) l.captures ≤
      settledNumber (InDoubt l.phase) l.captures :=
    settledNumber_mono _ _ _ fun _ _ before => before.enter_outside (by rw [idle]; rfl)
  have room := covered.room amount old
  rw [settledNumber_append, last]
  linarith

theorem withdraw (covered : Covered requests limit scale l) {c : Capture} {captures : List Capture}
    (withdraws : l.phase i = .withdrawn c)
    (changed : RowChanged (fun row => row.id = c.id) (fun row => { row with status := .failed })
      l.captures captures) :
    Covered requests limit scale
      { l with captures := captures, phase := Function.update l.phase i .over } := by
  refine ⟨covered.kept.withdraw c changed, covered.priced, ?_⟩
  intro amount claimed
  have old : Claimed l.reversals l.phase amount := claimed.of_enter_other (by simp)
  have room := covered.room amount old
  obtain ⟨front, row, back, split, rfl, named⟩ := changed
  -- only the row that fails now is no longer in doubt
  have others (rows : List Capture) (elsewhere : ∀ x ∈ rows, x ∈ front ++ back) :
      settledNumber (InDoubt (Function.update l.phase i .over)) rows ≤
        settledNumber (InDoubt l.phase) rows :=
    settledNumber_mono _ _ _ fun x member before =>
      before.enter_withdrawn withdraws (named ▸ covered.kept.id_ne split (elsewhere x member))
  have inFront := others front fun _ member => List.mem_append_left _ member
  have inBack := others back fun _ member => List.mem_append_right _ member
  rw [split] at room
  have failed : settledNumber (InDoubt (Function.update l.phase i .over))
      [{ row with status := .failed }] = 0 := by
    simp [settledNumber, CaptureEntry.share, CaptureEntry.Counts, Capture.entry]
  have before : 0 ≤ settledNumber (InDoubt l.phase) [row] := by
    have nonneg := row.entry.share_nonneg
    rw [settledNumber, List.map_singleton, List.sum_singleton]
    split
    · exact le_rfl
    · exact nonneg
  rw [← List.singleton_append, settledNumber_append, settledNumber_append] at room ⊢
  linarith

theorem reverse (covered : Covered requests limit scale l) (idle : l.phase i = .idle) {r : Reversal}
    (prepared : Prepared (requests i) id r) :
    Covered requests limit scale { l with
      reversals := l.reversals ++ [r.row]
      phase := Function.update l.phase i (.reversing r) } := by
  have entered : Covered requests limit scale
      { l with phase := Function.update l.phase i (.reversing r) } :=
    covered.enter (fun isIdle => nomatch isIdle) (by rw [idle]; rfl) (unclaimed (by simp))
  have unsucceeded : r.row.status ≠ .succeeded := fun succeeded =>
    nomatch prepared.fresh.symm.trans succeeded
  refine ⟨entered.kept, fun row member => ?_,
    fun amount claimed => entered.room amount (claimed.of_append unsucceeded)⟩
  rcases List.mem_append.mp member with old | isNew
  · exact covered.priced row old
  · rw [List.mem_singleton.mp isNew]
    exact prepared.priced

theorem conclude (covered : Covered requests limit scale l)
    (exclusive : Exclusive requests l.reversals l.phase) {r : Reversal} {status : ReversalStatus}
    {rows : List Reversal} (awaits : (l.phase i).open? = some r)
    (balance : (l.phase i).balance? = none)
    (answered : status = .succeeded → l.phase i = .answered r)
    (changed : RowChanged (fun row => row.id = r.id)
      (fun row => { row with status := status, response := r.response }) l.reversals rows) :
    Covered requests limit scale
      { l with reversals := rows, phase := Function.update l.phase i .over } := by
  have entered : Covered requests limit scale
      { l with phase := Function.update l.phase i .over } :=
    covered.enter (fun isIdle => nomatch isIdle) balance.symm (unclaimed (by simp))
  obtain ⟨front, row, back, split, rfl, _, _, sameAmount, _⟩ :=
    exclusive.changed_row awaits changed
  have stored (x : Reversal) (elsewhere : x ∈ front ++ back) : x ∈ l.reversals := by
    rw [split]
    rcases List.mem_append.mp elsewhere with inFront | inBack
    · exact List.mem_append_left _ inFront
    · exact List.mem_append_right _ (List.mem_cons_of_mem _ inBack)
  have rowStored : row ∈ l.reversals := by
    rw [split]
    simp
  refine ⟨entered.kept, fun x member => ?_, fun amount claimed => ?_⟩
  · rw [List.mem_append, List.mem_cons, or_left_comm, ← List.mem_append] at member
    rcases member with rfl | elsewhere
    · exact covered.priced row rowStored
    · exact covered.priced x (stored x elsewhere)
  · have old : Claimed l.reversals l.phase amount :=
      (claimed.of_enter_other (by simp)).of_conclude split sameAmount.symm.trans answered
    have smaller : settledNumber (InDoubt (Function.update l.phase i .over)) l.captures ≤
        settledNumber (InDoubt l.phase) l.captures :=
      settledNumber_mono _ _ _ fun _ _ inDoubt => inDoubt.enter_outside balance
    exact le_trans (add_le_add_left smaller _) (covered.room amount old)

theorem read (covered : Covered requests limit scale l) (smooth : turn.Smooth)
    (exact : Exact limit scale) (modest : Modest requests limit scale)
    (within : WithinLimit limit l.captures) (exclusive : Exclusive requests l.reversals l.phase)
    (reads : l.Reads (· = limit) turn (requests i) (l.phase i) next) :
    Covered requests limit scale { l with phase := Function.update l.phase i next } := by
  generalize before : l.phase i = phase at reads
  cases reads with
  | keep c free =>
      -- a capture gets beyond doubt only while nothing is claimed
      refine ⟨covered.kept.enter (by simp) (by simp [Phase.balance?]), covered.priced, ?_⟩
      intro amount claimed
      exact absurd (claimed.of_enter_other (by simp)) (not_committed exclusive free)
  | regret c => exact covered.enter (by simp) (by rw [before]; rfl) (unclaimed (by simp))
  | withdraw c missing =>
      obtain ⟨_, row, stored, named⟩ := covered.kept.balance i c (by rw [before]; rfl)
      exact absurd named (missing smooth row stored)
  | refused => exact covered.enter (by simp) (by rw [before]; rfl) (unclaimed (by simp))
  | clear r summary leaves current =>
      refine covered.enter (by simp) (by rw [before]; rfl) fun other amount which isAmount => ?_
      have same : other = r := by
        rcases which with isCleared | isAnswered
        · cases isCleared
          rfl
        · cases isAnswered
      rw [same] at isAmount
      exact clear_room exact modest within covered.kept leaves current isAmount
  | back r => exact covered.enter (by simp) (by rw [before]; rfl) (unclaimed (by simp))
  | abandon r => exact covered.enter (by simp) (by rw [before]; rfl) (unclaimed (by simp))
  | retract r missing => exact covered.enter (by simp) (by rw [before]; rfl) (unclaimed (by simp))
  | conclude r missing => exact covered.enter (by simp) (by rw [before]; rfl) (unclaimed (by simp))

theorem send (covered : Covered requests limit scale l) {r : Reversal} {attached : Attached}
    (clears : l.phase i = .cleared r) (exchanges : List (Exchange ι))
    (goes : next = .answered (r.attach attached) ∨ next = .stuck r) :
    Covered requests limit scale
      { l with exchanges := exchanges, phase := Function.update l.phase i next } := by
  have entered : Covered requests limit scale
      { l with phase := Function.update l.phase i next } := by
    refine covered.enter ?_ ?_ fun other amount which isAmount => ?_
    · rcases goes with rfl | rfl <;> simp
    · rw [clears]
      rcases goes with rfl | rfl <;> rfl
    · have sameAmount : other.amount = r.amount := by
        rcases goes with rfl | rfl
        · rcases which with isCleared | isAnswered
          · cases isCleared
          · cases isAnswered
            rfl
        · rcases which with isCleared | isAnswered
          · cases isCleared
          · cases isAnswered
      exact covered.room amount (.cleared i r clears (sameAmount.symm.trans isAmount))
  exact ⟨entered.kept, entered.priced, entered.room⟩

end Covered

theorem Ledger.Step.covered (step : l.Step requests id (· = limit) turn l') (smooth : turn.Smooth)
    (exact : Exact limit scale) (modest : Modest requests limit scale)
    (within : WithinLimit limit l.captures) (guarded : Guarded requests l)
    (covered : Covered requests limit scale l) : Covered requests limit scale l' := by
  cases step with
  | still => exact covered
  | read i after reads => exact covered.read smooth exact modest within guarded.exclusive reads
  | capture i c seen current after idle checked summary same heard =>
      have isCaptured := heard.resolve_right fun rough => rough.2 smooth
      subst isCaptured
      exact covered.capture modest idle checked
  | withdraw i c captures withdraws changed => exact covered.withdraw withdraws changed
  | reverse i r after idle prepared free heard =>
      have isReversing := heard.resolve_right fun rough => rough.2 smooth
      subst isReversing
      exact covered.reverse idle prepared
  | conclude i r status reversals which changed =>
      rcases which with ⟨withdraws, rfl⟩ | ⟨answered, rfl⟩
      · refine covered.conclude guarded.exclusive (by rw [withdraws]; rfl)
          (by rw [withdraws]; rfl) ?_ changed
        simp
      · exact covered.conclude guarded.exclusive (by rw [answered]; rfl) (by rw [answered]; rfl)
          (fun _ => answered) changed
  | send i r attached outcome after clears goes =>
      exact covered.send clears _ (goes.imp_left And.left)

/-! ## Runs -/

omit [DecidableEq ι] in
theorem Covered.capturedNumber_add_le (exact : Exact limit scale)
    (within : WithinLimit limit l.captures) (exclusive : Exclusive requests l.reversals l.phase)
    (covered : Covered requests limit scale l) (settled : ∀ i, (l.phase i).balance? = none) :
    capturedNumber l.captures + reversedNumber l.reversals ≤ limit.value.number := by
  have none (captureId : Uuid) : ¬ InDoubt l.phase captureId := by
    rintro ⟨i, c, inBalance, _⟩
    rw [settled i] at inBalance
    cases inBalance
  by_cases reversed : ∃ row ∈ l.reversals, row.status = .succeeded
  · obtain ⟨row, stored, succeeded⟩ := reversed
    obtain ⟨amount, isAmount⟩ := Option.isSome_iff_exists.mp (covered.priced row stored)
    have room := covered.room amount (.succeeded row stored succeeded isAmount)
    rw [settledNumber_of_none _ _ none] at room
    have share : row.share = amount.value.number := by
      rw [Reversal.share, succeeded, isAmount]
    obtain ⟨front, back, split⟩ := List.append_of_mem stored
    have others := exclusive.others_failed split (by simp [succeeded])
    rw [reversedNumber_of_single split others, share]
    exact room
  · have total := reversedNumber_of_none fun row stored succeeded =>
      reversed ⟨row, stored, succeeded⟩
    obtain ⟨u, done, le⟩ := within.total
    have isTotal := (exact.total_eq l.captures u done le covered.kept.scales).1
    rw [total, ← isTotal]
    linarith

/-- Whenever no request is under way, what was captured and what was reversed are together at most
what was authorized, when nothing but the network failed and no request was dropped. -/
theorem captures_and_reversals_within_limit (p : Processor) (stores : Stores) (a : Authorization)
    (scale : ℕ) (fits : a.amount.value.number * 10 ^ scale < 2 ^ 96)
    (stored : stores.authorizations.row? a.id = some a)
    (uncaptured : stores.captures.ofAuthorization a.id = [])
    (unreversed : stores.reversals.ofAuthorization a.id = [])
    (on : ∀ i, (requests i).On a.id)
    (distinctCaptures : DistinctIds Request.captureId? requests)
    (distinctReversals : DistinctIds Request.reversalId? requests)
    (scales : ∀ i c, (requests i).capture? = some c → c.amount.value.scale ≤ scale)
    (carried : ∀ i r x, (requests i).reversal? = some r → r.authorization = some x →
      x.amount = a.amount)
    (t : Traffic requests) (reaches : (Traffic.start requests stores).Reaches p Turn.Smooth t)
    (rests : ∀ i, (t.stage i).Rests) :
    capturedNumber (t.stores.captures.ofAuthorization a.id) +
      reversedNumber (t.stores.reversals.ofAuthorization a.id) ≤ a.amount.value.number := by
  have exact : Exact a.amount scale := ⟨by exact_mod_cast fits⟩
  have modest : Modest requests a.amount scale := ⟨distinctCaptures, scales, carried⟩
  have first : WithinLimit a.amount (stores.captures.ofAuthorization a.id) ∧
      Guarded requests (Overview.ledger (⟨stores, [], fun _ => .idle⟩ : Overview ι Phase) a.id) ∧
      Covered requests a.amount scale
        (Overview.ledger (⟨stores, [], fun _ => .idle⟩ : Overview ι Phase) a.id) := by
    rw [Overview.ledger, uncaptured, unreversed]
    refine ⟨.nil a.amount, ⟨.nil requests, .nil requests⟩, .nil requests scale, by simp, ?_⟩
    intro amount claimed
    exact absurd claimed (not_committed (.nil requests) (by simp))
  have known : ∀ row, stores.authorizations.row? a.id = some row → row.amount = a.amount := by
    intro row found
    rw [stored, Option.some.injEq] at found
    rw [found]
  have kept (l : Ledger ι) (turn : Turn) (l' : Ledger ι) (smooth : turn.Smooth)
      (holds : WithinLimit a.amount l.captures ∧ Guarded requests l ∧
        Covered requests a.amount scale l)
      (step : l.Step requests a.id (· = a.amount) turn l') :
      WithinLimit a.amount l'.captures ∧ Guarded requests l' ∧
        Covered requests a.amount scale l' := by
    obtain ⟨within, guarded, covered⟩ := holds
    exact ⟨step.withinLimit within, step.guarded distinctReversals guarded,
      step.covered smooth exact modest within guarded covered⟩
  obtain ⟨o, shows, ⟨within, guarded, covered⟩, _⟩ := reaches.ledger (· = a.amount)
    (fun l => WithinLimit a.amount l.captures ∧ Guarded requests l ∧
      Covered requests a.amount scale l)
    on known kept
    (Traffic.start_shows stores) first
  have settled (i : ι) : (o.phase i).balance? = none :=
    shows.settled i (rests i) (reaches.ne_dropped (by simp [Traffic.start]) i)
  have sum := covered.capturedNumber_add_le exact within guarded.exclusive settled
  rw [shows.ledger_captures, shows.ledger_reversals] at sum
  exact sum

namespace Sample

def four : Amount := ⟨⟨40, 1, by decide, by decide⟩, by decide⟩

def settlement : Bool → Request
  | false => .capture "psp" ⟨.ofNat 2, .ofNat 1, four, false, .created, .ofSeconds 0⟩
  | true => .reverse "psp" (.ofId (.ofNat 3) (.ofNat 1) (.ofSeconds 0))

def approval : Attached := ⟨some ⟨⟨"00"⟩, 1, none, .ofSeconds 0⟩, none⟩

/-- Both requests run to their ends; the reversal is of the six euros that are left. -/
def settled : Traffic settlement :=
  (Traffic.start settlement stores).play processor
    (.start true :: .start false :: List.replicate 4 (.answer true) ++
      List.replicate 6 (.answer false) ++ List.replicate 3 (.answer true) ++
      [.exchange true approval (.ok ()), .answer true])

end Sample

theorem captures_and_reversals_within_limit_settled :
    (∀ i, (Sample.settled.stage i).Rests) ∧
      capturedNumber (Sample.settled.stores.captures.ofAuthorization (.ofNat 1)) +
        reversedNumber (Sample.settled.stores.reversals.ofAuthorization (.ofNat 1)) ≤
          Sample.ten.value.number := by
  have rests (i : Bool) : (Sample.settled.stage i).Rests := by
    cases i <;> exact True.intro
  refine ⟨rests, ?_⟩
  have fits : Sample.ten.value.number * 10 ^ 2 < 2 ^ 96 := by
    norm_num [Decimal.number, Sample.ten]
  have captures : DistinctIds Request.captureId? Sample.settlement := by
    intro i j captureId isLeft isRight
    cases i with
    | true => cases isLeft
    | false =>
        cases j with
        | true => cases isRight
        | false => rfl
  have reversals : DistinctIds Request.reversalId? Sample.settlement := by
    intro i j reversalId isLeft isRight
    cases i with
    | false => cases isLeft
    | true =>
        cases j with
        | false => cases isRight
        | true => rfl
  exact captures_and_reversals_within_limit Sample.processor Sample.stores Sample.authorization 2
    fits (by decide) (by decide) (by decide) (fun i => by cases i <;> rfl)
    captures reversals
    (fun i c isCapture => by cases i <;> cases isCapture; decide)
    (fun i r x isReversal carries => by cases i <;> cases isReversal; cases carries)
    Sample.settled
    (Traffic.play_reaches _ _ _ _ (by simp [Act.turn, Turn.Smooth, List.replicate]))
    rests

example : (Sample.settled.stores.reversals.ofAuthorization (.ofNat 1)).map Reversal.status =
    [.succeeded] := by
  decide

end CardPayments
