import CardPayments.Proofs.Replay.Holding

/-! # References and the rows they stand for

References stand for rows whose holdings are entries, each for rows of its own.  A reference that is
defined stands for a new id, and what is done to the rows of one id revises one entry. -/
set_option autoImplicit false

namespace CardPayments

/-! ## References and entries -/

/-- References stand for what the entries say, and no two of them for the same id. -/
structure Agrees {ε : Type} (keeps : String → Uuid → ε → Prop)
    (references : List (ReferenceKey × Uuid)) (entries : ReferenceKey → Option ε) : Prop where
  found : ∀ key id, references.lookup key = some id →
    ∃ entry, entries key = some entry ∧ keeps key.1 id entry
  missing : ∀ key, references.lookup key = none → entries key = none
  apart : ∀ key other id, references.lookup key = some id → references.lookup other = some id →
    other = key

namespace Agrees

variable {ε : Type} {keeps keeps' : String → Uuid → ε → Prop}
  {references : List (ReferenceKey × Uuid)} {entries : ReferenceKey → Option ε}
  {key : ReferenceKey} {id : Uuid} {entry : ε}

theorem empty : Agrees keeps [] fun _ => none where
  found _ _ isFound := nomatch isFound
  missing _ _ := rfl
  apart _ _ _ isFound := nomatch isFound

theorem mono (agrees : Agrees keeps references entries)
    (stays : ∀ psp id entry, keeps psp id entry → keeps' psp id entry) :
    Agrees keeps' references entries where
  found key id isFound := by
    obtain ⟨entry, entered, kept⟩ := agrees.found key id isFound
    exact ⟨entry, entered, stays _ _ _ kept⟩
  missing := agrees.missing
  apart := agrees.apart

/-- A reference is defined, and stands for an id that no reference stood for. -/
theorem define (agrees : Agrees keeps references entries)
    (fresh : ∀ psp entry, ¬ keeps psp id entry) (kept : keeps' key.1 id entry)
    (stays : ∀ psp other entry, keeps psp other entry → keeps' psp other entry) :
    Agrees keeps' ((key, id) :: references)
      fun other => if other = key then some entry else entries other where
  found other found isFound := by
    by_cases same : other = key
    · subst same
      rw [List.lookup_cons_self, Option.some.injEq] at isFound
      exact ⟨entry, if_pos rfl, isFound ▸ kept⟩
    · rw [List.lookup_cons, beq_eq_false_iff_ne.mpr same] at isFound
      rw [if_neg same]
      exact (agrees.mono stays).found other found isFound
  missing other missing := by
    by_cases same : other = key
    · simp [same] at missing
    · rw [List.lookup_cons, beq_eq_false_iff_ne.mpr same] at missing
      rw [if_neg same]
      exact agrees.missing other missing
  apart first second found isFirst isSecond := by
    have unused (other : ReferenceKey) : references.lookup other ≠ some id := by
      intro isFound
      obtain ⟨entry, _, held⟩ := agrees.found other id isFound
      exact fresh _ _ held
    rw [List.lookup_cons] at isFirst isSecond
    by_cases isKey : first = key
    · by_cases isKeyToo : second = key
      · rw [isKey, isKeyToo]
      · rw [beq_eq_false_iff_ne.mpr isKeyToo] at isSecond
        rw [isKey, beq_self_eq_true, Option.some.injEq] at isFirst
        exact absurd (isFirst ▸ isSecond) (unused second)
    · rw [beq_eq_false_iff_ne.mpr isKey] at isFirst
      by_cases isKeyToo : second = key
      · rw [isKeyToo, beq_self_eq_true, Option.some.injEq] at isSecond
        exact absurd (isSecond ▸ isFirst) (unused first)
      · rw [beq_eq_false_iff_ne.mpr isKeyToo] at isSecond
        exact agrees.apart first second found isFirst isSecond

/-- The entry of a reference changes with the rows of its id. -/
theorem revise (agrees : Agrees keeps references entries)
    (isFound : references.lookup key = some id) (kept : keeps' key.1 id entry)
    (stays : ∀ psp other entry, id ≠ other → keeps psp other entry → keeps' psp other entry) :
    Agrees keeps' references
      fun other => if other = key then some entry else entries other where
  found other found isOther := by
    by_cases same : other = key
    · subst same
      rw [isFound, Option.some.injEq] at isOther
      exact ⟨entry, if_pos rfl, isOther ▸ kept⟩
    · obtain ⟨held, entered, keptOther⟩ := agrees.found other found isOther
      have differs : id ≠ found := by
        rintro rfl
        exact same (agrees.apart key other id isFound isOther)
      exact ⟨held, (if_neg same).trans entered, stays _ _ _ differs keptOther⟩
  missing other missing := by
    have differs : other ≠ key := by
      rintro rfl
      rw [isFound] at missing
      cases missing
    rw [if_neg differs]
    exact agrees.missing other missing
  apart := agrees.apart

end Agrees

/-! ## Ids that were given out -/

/-- An id below the next one. -/
def Replay.Issued (r : Replay) (id : Uuid) : Prop := ∃ n < r.nextId, id = .ofNat n

theorem Uuid.ofNat_injective {m n : ℕ} (below : m < 2 ^ 128) (belowToo : n < 2 ^ 128)
    (same : ofNat m = ofNat n) : m = n := by
  have bits : BitVec.ofNat 128 m = BitVec.ofNat 128 n := congrArg Uuid.bits same
  have remainders := congrArg BitVec.toNat bits
  rwa [BitVec.toNat_ofNat, BitVec.toNat_ofNat, Nat.mod_eq_of_lt below,
    Nat.mod_eq_of_lt belowToo] at remainders

namespace Replay

variable {r : Replay}

theorem not_issued_next (room : r.nextId < 2 ^ 128) : ¬ r.Issued (.ofNat r.nextId) := by
  rintro ⟨n, before, same⟩
  exact absurd (Uuid.ofNat_injective room (before.trans room) same) before.ne'

theorem issued_next {authorizations refunds : List (ReferenceKey × Uuid)} :
    (⟨authorizations, refunds, r.nextId + 1⟩ : Replay).Issued (.ofNat r.nextId) :=
  ⟨r.nextId, Nat.lt_succ_self _, rfl⟩

theorem Issued.next {id : Uuid} (issued : r.Issued id)
    {authorizations refunds : List (ReferenceKey × Uuid)} :
    (⟨authorizations, refunds, r.nextId + 1⟩ : Replay).Issued id := by
  obtain ⟨n, before, same⟩ := issued
  exact ⟨n, before.trans (Nat.lt_succ_self _), same⟩

end Replay

namespace Stores

/-- All rows are of transactions whose id was given out. -/
structure Within (s : Stores) (issued : Uuid → Prop) : Prop where
  authorizations : ∀ row ∈ s.authorizations.rows, issued row.id
  refunds : ∀ row ∈ s.refunds.rows, issued row.id
  captures : ∀ c ∈ s.captures.captures, issued c.authorizationId
  refundCaptures : ∀ c ∈ s.captures.refundCaptures, issued c.refundId
  reversals : ∀ x ∈ s.reversals.rows, issued x.authorizationId

variable {s : Stores} {issued issued' : Uuid → Prop} {id : Uuid} {psp : String}

theorem Within.mono (within : s.Within issued) (more : ∀ id, issued id → issued' id) :
    s.Within issued' where
  authorizations row member := more _ (within.authorizations row member)
  refunds row member := more _ (within.refunds row member)
  captures c member := more _ (within.captures c member)
  refundCaptures c member := more _ (within.refundCaptures c member)
  reversals x member := more _ (within.reversals x member)

theorem Keeps.stored {entry : Entry} (keeps : s.Keeps psp id entry) :
    ∃ row ∈ s.authorizations.rows, row.id = id := by
  have ofRow (row : Authorization) (found : s.authorizations.row? id = some row) :
      ∃ row ∈ s.authorizations.rows, row.id = id :=
    ⟨row, List.mem_of_find?_eq_some found, TransactionStore.id_of_row? found⟩
  cases entry with
  | riskDeclined =>
      obtain ⟨row, found, _⟩ := keeps
      exact ofRow row found
  | held h =>
      obtain ⟨row, found, _⟩ := keeps.row
      exact ofRow row found

theorem Within.of_keeps {entry : Entry} (within : s.Within issued) (keeps : s.Keeps psp id entry) :
    issued id := by
  obtain ⟨row, member, named⟩ := keeps.stored
  exact named ▸ within.authorizations row member

theorem HoldsRefund.stored {h : Holding} (holds : s.HoldsRefund psp id h) :
    ∃ row ∈ s.refunds.rows, row.id = id := by
  obtain ⟨row, found, _⟩ := holds.row
  exact ⟨row, List.mem_of_find?_eq_some found, TransactionStore.id_of_row? found⟩

theorem Within.of_holdsRefund {h : Holding} (within : s.Within issued)
    (holds : s.HoldsRefund psp id h) : issued id := by
  obtain ⟨row, member, named⟩ := holds.stored
  exact named ▸ within.refunds row member

/-! ## New rows -/

theorem stays_withAuthorization (s : Stores) (pan : Pan) (a : Authorization)
    (data : List (Uuid × SchemeData)) (id : Uuid) :
    s.Stays (s.withAuthorization pan a data) id where
  row _ found := TransactionStore.row?_concat found a.row data
  vault _ _ opens := opens.added a.merchant pan
  captures := rfl
  reversals := rfl

theorem Within.row?_withAuthorization {a : Authorization} (within : s.Within issued)
    (fresh : ¬ issued a.id) (pan : Pan) (data : List (Uuid × SchemeData)) :
    (s.withAuthorization pan a data).authorizations.row? a.id = some a.row := by
  have apart (row : Authorization) (member : row ∈ s.authorizations.rows) : row.id ≠ a.id :=
    fun same => fresh (same ▸ within.authorizations row member)
  exact TransactionStore.row?_concat_fresh apart data

/-- A new authorization that was approved has all of its amount left. -/
theorem Within.holds_withAuthorization {a : Authorization} (within : s.Within issued)
    (fresh : ¬ issued a.id) (pan : Pan) (data : List (Uuid × SchemeData))
    (approved : a.status = .approved) (token : a.card.token = some s.nextToken) :
    (s.withAuthorization pan a data).Holds a.psp a.id (.ofAmount a.amount) where
  row := ⟨a.row, within.row?_withAuthorization fresh pan data, rfl, approved, rfl,
    Vault.opens_added s.vault a.merchant pan token⟩
  summed := by
    have none : s.captures.ofAuthorization a.id = [] := by
      rw [CaptureStore.ofAuthorization, List.filter_eq_nil_iff]
      intro c member
      simpa using fun same : c.authorizationId = a.id => fresh (same ▸ within.captures c member)
    have noRow : (s.withAuthorization pan a data).captures.ofAuthorization a.id = [] := none
    rw [CaptureStore.summary, noRow]
    rfl
  leaves _ := by
    have nothing : (Holding.ofAmount a.amount).captured.number = 0 := Decimal.number_zero
    rw [nothing]
    exact a.amount.number_pos
  reversed := nofun
  unreversed _ := by
    have none : s.reversals.ofAuthorization a.id = [] := by
      rw [ReversalStore.ofAuthorization, List.filter_eq_nil_iff]
      intro x member
      simpa using fun same : x.authorizationId = a.id => fresh (same ▸ within.reversals x member)
    exact none

theorem Within.withAuthorization {a : Authorization} (within : s.Within issued)
    (isIssued : issued a.id) (pan : Pan) (data : List (Uuid × SchemeData)) :
    (s.withAuthorization pan a data).Within issued :=
  { within with
    authorizations := by
      intro row member
      rcases List.mem_append.mp member with before | added
      · exact within.authorizations row before
      · rw [List.mem_singleton.mp added]
        exact isIssued }

theorem stays_withRefund (s : Stores) (pan : Pan) (r : Refund) (data : List (Uuid × SchemeData))
    (id : Uuid) : s.Stays (s.withRefund pan r data) id where
  row _ found := found
  vault _ _ opens := opens.added r.merchant pan
  captures := rfl
  reversals := rfl

theorem row?_withRefund (s : Stores) (pan : Pan) (r : Refund) (data : List (Uuid × SchemeData))
    {row : Refund} (found : s.refunds.row? id = some row) :
    (s.withRefund pan r data).refunds.row? id = some row :=
  TransactionStore.row?_concat found r.row data

theorem Within.holds_withRefund {r : Refund} (within : s.Within issued) (fresh : ¬ issued r.id)
    (pan : Pan) (data : List (Uuid × SchemeData)) (approved : r.status = .approved) :
    (s.withRefund pan r data).HoldsRefund r.psp r.id (.ofAmount r.amount) where
  row := by
    have apart (row : Refund) (member : row ∈ s.refunds.rows) : row.id ≠ r.id :=
      fun same => fresh (same ▸ within.refunds row member)
    exact ⟨r.row, TransactionStore.row?_concat_fresh apart data, rfl, approved, rfl⟩
  summed := by
    have none : s.captures.ofRefund r.id = [] := by
      rw [CaptureStore.ofRefund, List.filter_eq_nil_iff]
      intro c member
      simpa using fun same : c.refundId = r.id => fresh (same ▸ within.refundCaptures c member)
    have noRow : (s.withRefund pan r data).captures.ofRefund r.id = [] := none
    rw [CaptureStore.refundSummary, noRow]
    rfl
  unreversed := nofun

theorem Within.withRefund {r : Refund} (within : s.Within issued) (isIssued : issued r.id)
    (pan : Pan) (data : List (Uuid × SchemeData)) : (s.withRefund pan r data).Within issued :=
  { within with
    refunds := by
      intro row member
      rcases List.mem_append.mp member with before | added
      · exact within.refunds row before
      · rw [List.mem_singleton.mp added]
        exact isIssued }

theorem Within.withCapture (within : s.Within issued) {c : Capture}
    (isIssued : issued c.authorizationId) (p : Processor) (a : Authorization) :
    ((s.withCapture c).announce p a c).Within issued :=
  { within with
    captures := by
      intro row member
      rcases List.mem_append.mp member with before | added
      · exact within.captures row before
      · rw [List.mem_singleton.mp added]
        exact isIssued }

theorem Within.withRefundCapture (within : s.Within issued) {c : RefundCapture}
    (isIssued : issued c.refundId) (p : Processor) (r : Refund) :
    ((s.withRefundCapture c).announceRefund p r c).Within issued :=
  { within with
    refundCaptures := by
      intro row member
      rcases List.mem_append.mp member with before | added
      · exact within.refundCaptures row before
      · rw [List.mem_singleton.mp added]
        exact isIssued }

theorem Within.withReversal (within : s.Within issued) {r : Reversal}
    (isIssued : issued r.authorizationId) : (s.withReversal r).Within issued :=
  { within with
    reversals := by
      intro row member
      rcases List.mem_append.mp member with before | added
      · exact within.reversals row before
      · rw [List.mem_singleton.mp added]
        exact isIssued }

end Stores
end CardPayments
