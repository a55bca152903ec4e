import Mathlib.Data.List.Nodup
import CardPayments.Store.Transactions

/-! # Listings

The transactions of a PSP are listed by time of creation, and the table they are kept in may be
looked through in any order: each one is that of some list of ids.  Two listings of one table show
the same rows at the same times, so that only rows of one time change places. -/
set_option autoImplicit false

namespace CardPayments

/-- Rows with ids of their own come in whichever order their ids are given. -/
theorem Table.enumerate_eq {α : Type} {id : α → Uuid} {rows listed : List α}
    (same : listed.Perm rows) (distinct : (rows.map id).Nodup) :
    enumerate id (listed.map id) rows = listed := by
  have apart : (listed.map id).Nodup := (same.map id).nodup_iff.mpr distinct
  have place (i : ℕ) (inside : i < listed.length) :
      (listed.map id).idxOf (id listed[i]) = i := by
    have inMap : i < (listed.map id).length := by rwa [List.length_map]
    have found := apart.idxOf_getElem i inMap
    rwa [List.getElem_map] at found
  have sorted : listed.Pairwise fun a b =>
      decide ((listed.map id).idxOf (id a) ≤ (listed.map id).idxOf (id b)) = true := by
    refine List.pairwise_iff_getElem.mpr fun i j before inside less => ?_
    rw [place i before, place j inside, decide_eq_true_eq]
    exact Nat.le_of_lt less
  have enumerated : (enumerate id (listed.map id) rows).Pairwise fun a b =>
      decide ((listed.map id).idxOf (id a) ≤ (listed.map id).idxOf (id b)) = true := by
    refine List.pairwise_mergeSort (fun a b c first second => ?_) (fun a b => ?_) rows
    · rw [decide_eq_true_eq] at first second ⊢
      exact Nat.le_trans first second
    · rw [Bool.or_eq_true, decide_eq_true_eq, decide_eq_true_eq]
      exact Nat.le_total ..
  have perm := (enumerate_perm id (listed.map id) rows).trans same.symm
  refine List.Perm.eq_of_pairwise (fun a b stored inListed first second => ?_)
    enumerated sorted perm
  rw [decide_eq_true_eq] at first second
  have isListed : a ∈ listed := perm.mem_iff.mp stored
  have sameId : id a = id b :=
    (List.idxOf_inj (List.mem_map_of_mem isListed)).mp (Nat.le_antisymm first second)
  exact List.inj_on_of_nodup_map apart isListed inListed sameId

theorem Instant.not_before_iff (t u : Instant) : (!u.before t) = true ↔
    t.seconds < u.seconds ∨ t.seconds = u.seconds ∧ t.nanos ≤ u.nanos := by
  simp only [before, Bool.not_eq_true', decide_eq_false_iff_not]
  omega

namespace TransactionStore

variable {α : Type} [Stored α]

/-- The same rows at the same times. -/
structure SameButTies (xs ys : List α) : Prop where
  rows : xs.Perm ys
  times : xs.map Stored.createdAt = ys.map Stored.createdAt

theorem ofPsp_sorted (s : TransactionStore α) (psp : String) (order : List Uuid) :
    ((s.ofPsp psp order).map Stored.createdAt).Pairwise fun t u => (!u.before t) = true := by
  refine List.pairwise_map.mpr (List.pairwise_mergeSort (fun x y z first second => ?_)
    (fun x y => ?_) _)
  · rw [Instant.not_before_iff] at first second ⊢
    omega
  · rw [Bool.or_eq_true, Instant.not_before_iff, Instant.not_before_iff]
    omega

/-- The listings of a PSP are its rows in every order in which none comes before an older one. -/
theorem exists_ofPsp_iff (s : TransactionStore α) (distinct : (s.rows.map Stored.id).Nodup)
    (psp : String) (listed : List α) :
    (∃ order, s.ofPsp psp order = listed) ↔
      listed.Perm (s.rows.filter fun a => Stored.psp a = psp) ∧
        (listed.map Stored.createdAt).Pairwise fun t u => (!u.before t) = true := by
  constructor
  · rintro ⟨order, rfl⟩
    exact ⟨s.ofPsp_perm psp order, s.ofPsp_sorted psp order⟩
  · rintro ⟨rows, sorted⟩
    have apart : ((s.rows.filter fun a => Stored.psp a = psp).map Stored.id).Nodup :=
      distinct.sublist (List.filter_sublist.map _)
    refine ⟨listed.map Stored.id, ?_⟩
    rw [ofPsp, Table.enumerate_eq rows apart]
    exact List.mergeSort_of_pairwise (List.pairwise_map.mp sorted)

theorem SameButTies.map {β : Type} [Stored β] {xs ys : List α} (same : SameButTies xs ys)
    (f : α → β) (times : ∀ a, Stored.createdAt (f a) = Stored.createdAt a) :
    SameButTies (xs.map f) (ys.map f) := by
  refine ⟨same.rows.map f, ?_⟩
  rw [List.map_map, List.map_map, show Stored.createdAt ∘ f = Stored.createdAt from funext times]
  exact same.times

end TransactionStore
end CardPayments
