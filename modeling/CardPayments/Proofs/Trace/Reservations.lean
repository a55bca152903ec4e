import Mathlib.Data.List.Chain
import Mathlib.Data.List.Nodup
import CardPayments.Proofs.Trace.Numbering

/-! # Reservations one after another

Batches of any sizes are taken from one block, on any days.  A reservation looks at where it would
end: one that would leave the next value above the greatest one, or that comes on another day than
the block is of, starts over at the least value.  So the block may lie outside the range on a day
that is over, and above it on any day, and every batch is still inside.  Until the sequence starts
over the batches lie one behind the other, without a gap and without a value in common. -/
set_option autoImplicit false

namespace CardPayments

/-- So many values are wanted, on the day of a tag. -/
structure Demand where
  size : UInt64
  today : String
deriving DecidableEq, Repr

/-- What a demand was given, with the blocks before and behind it. -/
structure Reservation where
  demand : Demand
  before : Block
  start : UInt64
  after : Block
deriving DecidableEq, Repr

namespace Reservation

def size (r : Reservation) : ℕ := r.demand.size.toNat

def values (r : Reservation) : List ℕ := List.range' r.start.toNat r.size

def Adjoins (r next : Reservation) : Prop := next.start.toNat = r.start.toNat + r.size

theorem mem_values {r : Reservation} {value : ℕ} :
    value ∈ r.values ↔ r.start.toNat ≤ value ∧ value < r.start.toNat + r.size := by
  simp [values, List.mem_range'_1]

/-- Reservations each of which adjoins the one before it fill one run of values. -/
theorem flatMap_values (first : Reservation) (rest : List Reservation)
    (adjoining : (first :: rest).IsChain Adjoins) :
    (first :: rest).flatMap values =
      List.range' first.start.toNat ((first :: rest).map size).sum := by
  induction rest generalizing first with
  | nil => simp [values]
  | cons next rest inductionHypothesis =>
      obtain ⟨adjoins, later⟩ := List.isChain_cons_cons.mp adjoining
      have joined := List.range'_append_1 (s := first.start.toNat) (m := first.size)
        (n := ((next :: rest).map size).sum)
      rw [← adjoins] at joined
      calc (first :: next :: rest).flatMap values
          = first.values ++ List.range' next.start.toNat ((next :: rest).map size).sum := by
            rw [List.flatMap_cons, inductionHypothesis next later]
        _ = List.range' first.start.toNat ((first :: next :: rest).map size).sum := joined

theorem disjoint_values (first : Reservation) (rest : List Reservation)
    (adjoining : (first :: rest).IsChain Adjoins) :
    (first :: rest).Pairwise fun r later => List.Disjoint r.values later.values := by
  have distinct : ((first :: rest).flatMap values).Nodup := by
    rw [flatMap_values first rest adjoining]
    exact List.nodup_range'
  exact (List.nodup_flatMap.mp distinct).2

end Reservation

namespace RolloverPolicy

def supply (policy : RolloverPolicy) (block : Block) (d : Demand) : Reservation where
  demand := d
  before := block
  start := (policy.reserve d.today d.size block).1
  after := (policy.reserve d.today d.size block).2

/-- The reservations for some demands, each from the block that the one before it leaves behind. -/
def reservations (policy : RolloverPolicy) : Block → List Demand → List Reservation
  | _, [] => []
  | block, d :: rest =>
      policy.supply block d :: policy.reservations (policy.supply block d).after rest

def StartsOver (policy : RolloverPolicy) (r : Reservation) : Prop :=
  policy.rollsOver { r.before with nextValue := r.before.nextValue + r.demand.size }
    r.demand.today = true

/-- The sums that the reservation computes are words. -/
structure HasRoom (policy : RolloverPolicy) (r : Reservation) : Prop where
  projected : r.before.nextValue.toNat + r.size < 2 ^ 64
  restarted : policy.StartsOver r → policy.least.toNat + r.size < 2 ^ 64

def Admits (policy : RolloverPolicy) (d : Demand) : Prop :=
  1 ≤ d.size.toNat ∧ d.size.toNat ≤ policy.greatest.toNat - policy.least.toNat + 1

/-- The block is of another day, or not below the range. -/
def Usable (policy : RolloverPolicy) (block : Block) (today : String) : Prop :=
  policy.least ≤ block.nextValue ∨ block.tag ≠ today

/-- What every reservation does. -/
structure Sound (policy : RolloverPolicy) (r : Reservation) : Prop where
  inRange : ∀ value ∈ r.values, policy.least.toNat ≤ value ∧ value ≤ policy.greatest.toNat
  next : r.after.nextValue.toNat = r.start.toNat + r.size
  next_le : r.after.nextValue.toNat ≤ policy.greatest.toNat + 1
  tag : r.after.tag = r.demand.today
  newDay : r.before.tag ≠ r.demand.today → r.start = policy.least
  onward : ¬ policy.StartsOver r → r.start = r.before.nextValue

/-- What holds of a reservation and the one behind it. -/
structure Succeeds (policy : RolloverPolicy) (r next : Reservation) : Prop where
  block : next.before = r.after
  adjoins : ¬ policy.StartsOver next → r.Adjoins next

variable {policy : RolloverPolicy} {block : Block} {d : Demand}

theorem startsOver_iff (policy : RolloverPolicy) (r : Reservation)
    (room : r.before.nextValue.toNat + r.size < 2 ^ 64) :
    policy.StartsOver r ↔
      policy.greatest.toNat < r.before.nextValue.toNat + r.size ∨
        r.before.tag ≠ r.demand.today := by
  have projected : (r.before.nextValue + r.demand.size).toNat =
      r.before.nextValue.toNat + r.size := by
    rw [UInt64.toNat_add]
    exact Nat.mod_eq_of_lt room
  rw [StartsOver, rollsOver, Bool.or_eq_true, decide_eq_true_eq, UInt64.lt_iff_toNat_lt, projected,
    bne_iff_ne]

theorem supply_over (rolled : policy.StartsOver (policy.supply block d)) :
    policy.supply block d = ⟨d, block, policy.least, ⟨policy.least + d.size, d.today⟩⟩ := by
  have rolls : policy.rollsOver { block with nextValue := block.nextValue + d.size } d.today =
    true := rolled
  rw [supply, reserve, if_pos rolls]
  rfl

theorem supply_onward (onward : ¬ policy.StartsOver (policy.supply block d)) :
    policy.supply block d =
      ⟨d, block, block.nextValue, ⟨block.nextValue + d.size, block.tag⟩⟩ := by
  have stays : ¬ policy.rollsOver { block with nextValue := block.nextValue + d.size } d.today =
    true := onward
  rw [supply, reserve, if_neg stays]

theorem supply_sound (order : policy.least ≤ policy.greatest) (admits : policy.Admits d)
    (usable : policy.Usable block d.today) (room : policy.HasRoom (policy.supply block d)) :
    policy.Sound (policy.supply block d) := by
  have order := UInt64.le_iff_toNat_le.mp order
  obtain ⟨positive, bounded⟩ := admits
  have rolledIff := startsOver_iff policy (policy.supply block d) room.projected
  by_cases rolled : policy.StartsOver (policy.supply block d)
  · have fits := room.restarted rolled
    rw [supply_over rolled] at fits ⊢
    have next : (policy.least + d.size).toNat = policy.least.toNat + d.size.toNat := by
      rw [UInt64.toNat_add]
      exact Nat.mod_eq_of_lt fits
    refine ⟨?_, next, ?_, rfl, fun _ => rfl, fun onward => ?_⟩
    · intro value member
      have := Reservation.mem_values.mp member
      simp only [Reservation.size] at this
      omega
    · change (policy.least + d.size).toNat ≤ _
      omega
    · rw [← supply_over rolled] at onward
      exact absurd rolled onward
  · have fits := room.projected
    obtain ⟨below, sameDay⟩ := not_or.mp (mt rolledIff.mpr rolled)
    rw [supply_onward rolled] at fits below sameDay ⊢
    have sameDay : block.tag = d.today := not_not.mp sameDay
    have least := UInt64.le_iff_toNat_le.mp (usable.resolve_right (not_not.mpr sameDay))
    have next : (block.nextValue + d.size).toNat = block.nextValue.toNat + d.size.toNat := by
      rw [UInt64.toNat_add]
      exact Nat.mod_eq_of_lt fits
    simp only [Reservation.size] at below
    refine ⟨?_, next, ?_, sameDay, fun other => absurd sameDay other, fun _ => rfl⟩
    · intro value member
      have := Reservation.mem_values.mp member
      simp only [Reservation.size] at this
      omega
    · change (block.nextValue + d.size).toNat ≤ _
      omega

/-- The block behind a sound reservation can be used on any day. -/
theorem Sound.usable {r : Reservation} (sound : policy.Sound r) (admits : policy.Admits r.demand)
    (today : String) : policy.Usable r.after today := by
  have first := (sound.inRange r.start.toNat (Reservation.mem_values.mpr
    ⟨le_rfl, Nat.lt_add_of_pos_right admits.1⟩)).1
  have next := sound.next
  exact Or.inl (UInt64.le_iff_toNat_le.mpr (by omega))

theorem head?_reservations (block : Block) (demands : List Demand) :
    (policy.reservations block demands).head? = demands.head?.map (policy.supply block) := by
  cases demands with
  | nil => rfl
  | cons d rest => rfl

theorem map_demand_reservations (block : Block) (demands : List Demand) :
    (policy.reservations block demands).map Reservation.demand = demands := by
  induction demands generalizing block with
  | nil => rfl
  | cons d rest inductionHypothesis =>
      rw [reservations, List.map_cons, inductionHypothesis]
      rfl

theorem reservations_sound (order : policy.least ≤ policy.greatest) (block : Block)
    (demands : List Demand) (admits : ∀ d ∈ demands, policy.Admits d)
    (usable : ∀ d ∈ demands.head?, policy.Usable block d.today)
    (room : ∀ r ∈ policy.reservations block demands, policy.HasRoom r) :
    ∀ r ∈ policy.reservations block demands, policy.Sound r := by
  induction demands generalizing block with
  | nil => simp [reservations]
  | cons d rest inductionHypothesis =>
      obtain ⟨admitsFirst, admitsRest⟩ := List.forall_mem_cons.mp admits
      rw [reservations, List.forall_mem_cons] at room
      have first := supply_sound order admitsFirst (usable d rfl) room.1
      rw [reservations, List.forall_mem_cons]
      exact ⟨first, inductionHypothesis _ admitsRest
        (fun next _ => first.usable admitsFirst next.today) room.2⟩

theorem reservations_succeed (block : Block) (demands : List Demand)
    (sound : ∀ r ∈ policy.reservations block demands, policy.Sound r) :
    (policy.reservations block demands).IsChain policy.Succeeds := by
  induction demands generalizing block with
  | nil => exact List.isChain_nil
  | cons d rest inductionHypothesis =>
      rw [reservations, List.forall_mem_cons] at sound
      rw [reservations, List.isChain_cons]
      refine ⟨fun next isNext => ?_, inductionHypothesis _ sound.2⟩
      have isBefore : next.before = (policy.supply block d).after := by
        rw [head?_reservations, Option.mem_map] at isNext
        obtain ⟨demand, _, rfl⟩ := isNext
        rfl
      refine ⟨isBefore, fun onward => ?_⟩
      have starts := (sound.2 next (List.mem_of_mem_head? isNext)).onward onward
      rw [Reservation.Adjoins, starts, isBefore, sound.1.next]

/-- Where only the first reservation may start over, each adjoins the one before it. -/
theorem adjoining_of_onward (stretch : List Reservation)
    (succeed : stretch.IsChain policy.Succeeds)
    (onward : ∀ r ∈ stretch.tail, ¬ policy.StartsOver r) :
    stretch.IsChain Reservation.Adjoins := by
  induction stretch with
  | nil => exact List.isChain_nil
  | cons r rest inductionHypothesis =>
      rw [List.isChain_cons] at succeed ⊢
      refine ⟨fun next isNext => ?_, inductionHypothesis succeed.2 fun later member =>
        onward later (List.mem_of_mem_tail member)⟩
      exact (succeed.1 next isNext).adjoins (onward next (List.mem_of_mem_head? isNext))

/-- Every reservation is inside the range and leaves behind the block that follows it, and between
two restarts of the sequence the reservations fill one run of values, none of them twice. -/
theorem reservations_lie_in_range_without_overlap (policy : RolloverPolicy) (block : Block)
    (demands : List Demand) (order : policy.least ≤ policy.greatest)
    (admits : ∀ d ∈ demands, policy.Admits d)
    (usable : ∀ first ∈ demands.head?, policy.Usable block first.today)
    (room : ∀ r ∈ policy.reservations block demands, policy.HasRoom r) :
    (policy.reservations block demands).map Reservation.demand = demands ∧
      (∀ first ∈ (policy.reservations block demands).head?, first.before = block) ∧
      (∀ r ∈ policy.reservations block demands, policy.Sound r) ∧
      (policy.reservations block demands).IsChain policy.Succeeds ∧
      ∀ first rest, (first :: rest) <:+: policy.reservations block demands →
        (∀ r ∈ rest, ¬ policy.StartsOver r) →
        (first :: rest).flatMap Reservation.values =
            List.range' first.start.toNat ((first :: rest).map Reservation.size).sum ∧
          (first :: rest).Pairwise fun r later => List.Disjoint r.values later.values := by
  have sound := reservations_sound order block demands admits usable room
  have succeed := reservations_succeed block demands sound
  refine ⟨map_demand_reservations block demands, ?_, sound, succeed, ?_⟩
  · intro first isFirst
    rw [head?_reservations, Option.mem_map] at isFirst
    obtain ⟨d, _, rfl⟩ := isFirst
    rfl
  · intro first rest within onward
    have chain := List.IsChain.infix succeed within
    have adjoining := adjoining_of_onward (first :: rest) chain onward
    exact ⟨Reservation.flatMap_values first rest adjoining,
      Reservation.disjoint_values first rest adjoining⟩

end RolloverPolicy

namespace Sample

def threeDigits : RolloverPolicy := ⟨1, 999⟩

def staleBlock : Block := ⟨5000, "0306"⟩

def demands : List Demand :=
  [⟨100, "0307"⟩, ⟨898, "0307"⟩, ⟨999, "0307"⟩, ⟨40, "0308"⟩, ⟨9, "0308"⟩]

def reserved : List Reservation := threeDigits.reservations staleBlock demands

end Sample

namespace RolloverPolicy

/-- A block of the day before, far above the range, a batch that just fits, and the whole range. -/
theorem reservations_lie_in_range_without_overlap_sample :
    Sample.reserved.map Reservation.start = [1, 101, 1, 1, 41] ∧
      (∀ r ∈ Sample.reserved, Sample.threeDigits.Sound r) ∧
      (Sample.reserved.take 2).flatMap Reservation.values = List.range' 1 998 := by
  have admits : ∀ d ∈ Sample.demands, Sample.threeDigits.Admits d := by
    simp [Sample.demands, Admits, Sample.threeDigits]
  have usable : ∀ first ∈ Sample.demands.head?,
      Sample.threeDigits.Usable Sample.staleBlock first.today := by
    simp [Sample.demands, Usable, Sample.staleBlock]
  have room : ∀ r ∈ Sample.reserved, Sample.threeDigits.HasRoom r := by
    intro r member
    have small : r.before.nextValue.toNat + r.size < 2 ^ 64 ∧ 1 + r.size < 2 ^ 64 := by
      revert r
      decide
    exact ⟨small.1, fun _ => small.2⟩
  obtain ⟨_, _, sound, _, filled⟩ := reservations_lie_in_range_without_overlap Sample.threeDigits
    Sample.staleBlock Sample.demands (by decide) admits usable room
  have begins : [Sample.threeDigits.supply Sample.staleBlock ⟨100, "0307"⟩,
      Sample.threeDigits.supply ⟨101, "0307"⟩ ⟨898, "0307"⟩] <:+: Sample.reserved :=
    ⟨[], Sample.reserved.drop 2, rfl⟩
  have onward : ∀ r ∈ [Sample.threeDigits.supply ⟨101, "0307"⟩ ⟨898, "0307"⟩],
      ¬ Sample.threeDigits.StartsOver r := by
    simp only [List.mem_singleton, forall_eq, StartsOver]
    decide
  have firstTwo := filled _ _ begins onward
  exact ⟨by decide, sound, firstTwo.1⟩

end RolloverPolicy
end CardPayments
