import CardPayments.Proofs.Settlement.Limit

/-! # One reversal at a time

At most one reversal of an authorization has not failed.  Its row belongs to the request that stored
it: until that request has an outcome no other request can store a reversal, so that only one
request at a time is on its way to the network.  A request that got no proper answer leaves its row
as it is, which keeps out all later reversals and captures. -/
set_option autoImplicit false

namespace CardPayments

open Settlement

variable {ι : Type} {requests : ι → Request} {id : Uuid} {authorized : Amount → Prop}

namespace Settlement

/-- A request goes on in a way that has nothing to do with its reversal, if it has one. -/
structure Quiet (before after : Phase) : Prop where
  idle : after = .idle → before = .idle
  awaits : ∀ r, after.open? = some r → before.open? = some r
  sent : before.HasSent → after.HasSent
  stuck : ∀ r, before = .stuck r → after = .stuck r
  answered : ∀ r, after = .answered r → before = .answered r

theorem quiet_of_reads {l : Ledger ι} {turn : Turn} {q : Request} {before after : Phase}
    (reads : l.Reads authorized turn q before after) : Quiet before after := by
  cases reads <;> constructor <;> simp [Phase.open?, Phase.HasSent]

theorem quiet_captured (c : Capture) : Quiet .idle (.captured c) := by
  constructor <;> simp [Phase.open?, Phase.HasSent]

theorem quiet_idle : Quiet .idle .idle := by
  constructor <;> simp [Phase.open?]

theorem quiet_withdrawn (c : Capture) : Quiet (.withdrawn c) .over := by
  constructor <;> simp [Phase.open?, Phase.HasSent]

end Settlement

/-! ## Owners of rows -/

/-- Each row has the id of a request that is not idle any more, and no two have the same. -/
structure Owned (key : Request → Option Uuid) (requests : ι → Request) (ids : List Uuid)
    (phase : ι → Phase) : Prop where
  owner : ∀ id ∈ ids, ∃ i, key (requests i) = some id ∧ phase i ≠ .idle
  distinct : ids.Nodup

namespace Owned

variable [DecidableEq ι] {key : Request → Option Uuid} {ids : List Uuid} {phase : ι → Phase} {i : ι}
  {next : Phase}

omit [DecidableEq ι] in
theorem nil (key : Request → Option Uuid) (requests : ι → Request) (phase : ι → Phase) :
    Owned key requests [] phase where
  owner _ member := nomatch member
  distinct := .nil

theorem enter (owned : Owned key requests ids phase) (idle : next = .idle → phase i = .idle) :
    Owned key requests ids (Function.update phase i next) where
  owner id member := by
    obtain ⟨j, owns, busy⟩ := owned.owner id member
    refine ⟨j, owns, ?_⟩
    by_cases same : j = i
    · subst same
      rw [Function.update_self]
      exact mt idle busy
    · rwa [Function.update_of_ne same]
  distinct := owned.distinct

theorem append (owned : Owned key requests ids phase) (distinct : DistinctIds key requests)
    (idle : phase i = .idle) {id : Uuid} (owns : key (requests i) = some id)
    (busy : next ≠ .idle) : Owned key requests (ids ++ [id]) (Function.update phase i next) where
  owner other member := by
    rcases List.mem_append.mp member with old | isNew
    · exact (owned.enter fun isIdle => absurd isIdle busy).owner other old
    · rw [List.mem_singleton.mp isNew]
      exact ⟨i, owns, by rwa [Function.update_self]⟩
  distinct := by
    rw [List.nodup_append]
    refine ⟨owned.distinct, List.nodup_singleton _, fun old member new isNew same => ?_⟩
    obtain ⟨j, ownsToo, busyThen⟩ := owned.owner old member
    rw [same, List.mem_singleton.mp isNew] at ownsToo
    exact busyThen (distinct j i id ownsToo owns ▸ idle)

end Owned

/-! ## The stored reversals -/

/-- Every row belongs to a request that stored it; a request that has no outcome yet finds its row
as it stored it; and at most one row has not failed. -/
structure Exclusive (requests : ι → Request) (rows : List Reversal) (phase : ι → Phase) : Prop where
  owned : Owned Request.reversalId? requests (rows.map Reversal.id) phase
  awaits : ∀ i r, (phase i).open? = some r → (requests i).reversalId? = some r.id ∧
    ∃ row ∈ rows, row.id = r.id ∧ row.status = .new ∧ row.amount = r.amount
  single : ∀ row ∈ rows, ∀ other ∈ rows, row.status ≠ .failed → other.status ≠ .failed →
    row = other

namespace Exclusive

variable {rows after : List Reversal} {phase : ι → Phase} {i : ι} {next : Phase}

theorem nil (requests : ι → Request) : Exclusive requests [] (fun _ => .idle) where
  owned := .nil ..
  awaits _ _ awaits := nomatch awaits
  single _ member := nomatch member

theorem length_le (exclusive : Exclusive requests rows phase) :
    (rows.filter fun row => row.status ≠ .failed).length ≤ 1 := by
  refine Table.length_filter_le_one (exclusive.owned.distinct.of_map.imp_of_mem ?_)
  intro row other member otherMember different stands
  refine decide_eq_false fun otherStands => different ?_
  exact exclusive.single row member other otherMember (of_decide_eq_true stands) otherStands

/-- Beside a row that stands there are only failed ones. -/
theorem others_failed (exclusive : Exclusive requests rows phase) {front back : List Reversal}
    {row : Reversal} (split : rows = front ++ row :: back) (stands : row.status ≠ .failed) :
    ∀ other ∈ front ++ back, other.status = .failed := by
  intro other elsewhere
  by_contra otherStands
  have nodup := exclusive.owned.distinct.of_map
  have member : row ∈ rows := by simp [split]
  have otherMember : other ∈ rows := by
    rw [split]
    rcases List.mem_append.mp elsewhere with inFront | inBack
    · exact List.mem_append_left _ inFront
    · exact List.mem_append_right _ (List.mem_cons_of_mem _ inBack)
  have same := exclusive.single other otherMember row member otherStands stands
  rw [split, List.nodup_middle, List.nodup_cons] at nodup
  exact nodup.1 (same ▸ elsewhere)

variable [DecidableEq ι]

theorem enter (exclusive : Exclusive requests rows phase) (idle : next = .idle → phase i = .idle)
    (awaits : ∀ r, next.open? = some r →
      ∃ before, (phase i).open? = some before ∧ r.id = before.id ∧ r.amount = before.amount) :
    Exclusive requests rows (Function.update phase i next) where
  owned := exclusive.owned.enter idle
  awaits j r awaitsNow := by
    by_cases same : j = i
    · subst same
      rw [Function.update_self] at awaitsNow
      obtain ⟨before, awaited, sameId, sameAmount⟩ := awaits r awaitsNow
      rw [sameId, sameAmount]
      exact exclusive.awaits j before awaited
    · rw [Function.update_of_ne same] at awaitsNow
      exact exclusive.awaits j r awaitsNow
  single := exclusive.single

theorem quiet (exclusive : Exclusive requests rows phase) (quiet : Quiet (phase i) next) :
    Exclusive requests rows (Function.update phase i next) :=
  exclusive.enter quiet.idle fun r awaits => ⟨r, quiet.awaits r awaits, rfl, rfl⟩

theorem reverse (exclusive : Exclusive requests rows phase)
    (distinct : DistinctIds Request.reversalId? requests) (idle : phase i = .idle) {r : Reversal}
    (prepared : Prepared (requests i) id r) (free : ∀ row ∈ rows, row.status = .failed)
    (busy : next ≠ .idle) (awaits : ∀ other, next.open? = some other → other = r) :
    Exclusive requests (rows ++ [r.row]) (Function.update phase i next) where
  owned := by
    rw [List.map_append]
    exact exclusive.owned.append distinct idle prepared.own busy
  awaits j other awaitsNow := by
    by_cases same : j = i
    · subst same
      rw [Function.update_self] at awaitsNow
      rw [awaits other awaitsNow]
      exact ⟨prepared.own, r.row, by simp, rfl, prepared.fresh, rfl⟩
    · rw [Function.update_of_ne same] at awaitsNow
      obtain ⟨owns, row, member, found⟩ := exclusive.awaits j other awaitsNow
      exact ⟨owns, row, List.mem_append_left _ member, found⟩
  single row member other otherMember stands otherStands := by
    have isNew (x : Reversal) (inAfter : x ∈ rows ++ [r.row]) (notFailed : x.status ≠ .failed) :
        x = r.row := by
      rcases List.mem_append.mp inAfter with old | isNew
      · exact absurd (free x old) notFailed
      · exact List.mem_singleton.mp isNew
    rw [isNew row member stands, isNew other otherMember otherStands]

omit [DecidableEq ι] in
/-- The row that a request changes is its own, is new, and is the only one that stands. -/
theorem changed_row (exclusive : Exclusive requests rows phase) {r : Reversal}
    (awaits : (phase i).open? = some r) {change : Reversal → Reversal}
    (changed : RowChanged (fun row => row.id = r.id) change rows after) :
    ∃ front row back, rows = front ++ row :: back ∧ after = front ++ change row :: back ∧
      row.id = r.id ∧ row.status = .new ∧ row.amount = r.amount ∧
      ∀ other ∈ front ++ back, other.status = .failed := by
  obtain ⟨front, row, back, split, splitAfter, named⟩ := changed
  obtain ⟨_, stored, member, isStored, isNew, amount⟩ := exclusive.awaits i r awaits
  have rowMember : row ∈ rows := by
    rw [split]
    simp
  have same : stored = row :=
    List.inj_on_of_nodup_map exclusive.owned.distinct member rowMember (isStored.trans named.symm)
  subst same
  exact ⟨front, stored, back, split, splitAfter, named, isNew, amount,
    exclusive.others_failed split (by simp [isNew])⟩

theorem conclude (exclusive : Exclusive requests rows phase)
    (distinct : DistinctIds Request.reversalId? requests) {r : Reversal}
    (awaits : (phase i).open? = some r) {change : Reversal → Reversal}
    (changed : RowChanged (fun row => row.id = r.id) change rows after)
    (keeps : ∀ row, (change row).id = row.id) :
    Exclusive requests after (Function.update phase i .over) := by
  obtain ⟨front, row, back, rfl, rfl, named, isNew, _, others⟩ :=
    exclusive.changed_row awaits changed
  have sameIds : (front ++ change row :: back).map Reversal.id =
      (front ++ row :: back).map Reversal.id := by
    simp [keeps row]
  refine ⟨?_, ?_, ?_⟩
  · rw [sameIds]
    exact exclusive.owned.enter fun isIdle => nomatch isIdle
  · intro j other awaitsNow
    by_cases same : j = i
    · subst same
      rw [Function.update_self] at awaitsNow
      cases awaitsNow
    · -- another request without an outcome would have a row that stands as well
      rw [Function.update_of_ne same] at awaitsNow
      obtain ⟨owns, stored, member, isStored, storedNew, _⟩ := exclusive.awaits j other awaitsNow
      have sameRow := exclusive.single stored member row (by simp) (by simp [storedNew])
        (by simp [isNew])
      have sameId : other.id = r.id := by
        rw [← isStored, sameRow, named]
      exact absurd (distinct j i r.id (sameId ▸ owns) (exclusive.awaits i r awaits).1) same
  · intro x member other otherMember stands otherStands
    have isChanged (y : Reversal) (inAfter : y ∈ front ++ change row :: back)
        (notFailed : y.status ≠ .failed) : y = change row := by
      rcases List.mem_append.mp inAfter with inFront | inRest
      · exact absurd (others y (List.mem_append_left _ inFront)) notFailed
      · rcases List.mem_cons.mp inRest with same | inBack
        · exact same
        · exact absurd (others y (List.mem_append_right _ inBack)) notFailed
    rw [isChanged x member stands, isChanged other otherMember otherStands]

end Exclusive
end CardPayments
