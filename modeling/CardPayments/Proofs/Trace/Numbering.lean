import CardPayments.Proofs.Trace.Desk
import CardPayments.Proofs.Trace.Period

/-! # The numbering of a day

On every day the values are handed out in the order of the numbering, without a gap: what was handed
out on the day and what is still in the buffer for it are together the batches that were reserved
for it so far, whoever asks for them and whatever fails.  A batch that is reserved late, for a day
that is over, is never handed out, and leaves the new day untouched since nothing was reserved for
it yet. -/
set_option autoImplicit false

namespace CardPayments

/-- The values are those of the numbering from its start on. -/
def SequenceConfig.Follows (c : SequenceConfig) (values : List UInt64) : Prop :=
  ∀ (n : ℕ) (value : UInt64), values[n]? = some value → value.toNat = c.numbered n

variable {c : SequenceConfig}

theorem follows_nil : c.Follows [] := by
  intro n value found
  simp at found

theorem follows_front {front back : List UInt64} (follows : c.Follows (front ++ back)) :
    c.Follows front := by
  intro n value found
  obtain ⟨inFront, _⟩ := List.getElem?_eq_some_iff.mp found
  exact follows n value (List.getElem?_append_left inFront ▸ found)

namespace Allocator

theorem batch_getElem? (start size : UInt64) (tag : String) (i : ℕ) (r : Reserved)
    (found : (batch start size tag)[i]? = some r) :
    i < size.toNat ∧ r = ⟨start + UInt64.ofNat i, tag⟩ := by
  rw [batch, List.getElem?_map, Option.map_eq_some_iff] at found
  obtain ⟨j, inRange, isReserved⟩ := found
  obtain ⟨inBatch, isIndex⟩ := List.getElem?_eq_some_iff.mp inRange
  rw [List.length_range] at inBatch
  rw [List.getElem_range] at isIndex
  subst isIndex
  exact ⟨inBatch, isReserved.symm⟩

theorem length_batch (start size : UInt64) (tag : String) :
    (batch start size tag).length = size.toNat := by
  rw [batch, List.length_map, List.length_range]

theorem tag_of_mem_batch {start size : UInt64} {tag : String} {r : Reserved}
    (member : r ∈ batch start size tag) : r.tag = tag := by
  obtain ⟨i, found⟩ := List.mem_iff_getElem?.mp member
  rw [(batch_getElem? start size tag i r found).2]

theorem filter_batch_of_eq (start size : UInt64) (tag : String) :
    (batch start size tag).filter (fun r => r.tag = tag) = batch start size tag := by
  rw [List.filter_eq_self]
  intro r member
  simpa using tag_of_mem_batch member

theorem filter_batch_of_ne (start size : UInt64) {tag today : String} (other : tag ≠ today) :
    (batch start size tag).filter (fun r => r.tag = today) = [] := by
  rw [List.filter_eq_nil_iff]
  intro r member
  simpa [tag_of_mem_batch member] using other

end Allocator

theorem follows_batch (fits : c.Fits) {values : List UInt64} {m : ℕ} {start : UInt64} {tag : String}
    (follows : c.Follows values) (length : values.length = m * c.batchSize.toNat)
    (first : start.toNat = c.least.toNat + c.batchSize.toNat * (m % c.batches)) :
    c.Follows (values ++ (Allocator.batch start c.batchSize tag).map Reserved.value) := by
  intro n value found
  by_cases old : n < values.length
  · rw [List.getElem?_append_left old] at found
    exact follows n value found
  · rw [List.getElem?_append_right (not_lt.mp old), List.getElem?_map,
      Option.map_eq_some_iff] at found
    obtain ⟨r, inBatch, rfl⟩ := found
    obtain ⟨small, rfl⟩ := Allocator.batch_getElem? _ _ _ _ r inBatch
    have place : n = m * c.batchSize.toNat + (n - values.length) := by omega
    have number := SequenceConfig.numbered_batch (c := c) m (n - values.length) small
    rw [← place] at number
    have bound := SequenceConfig.numbered_le fits n
    have room := fits.room
    have index : (UInt64.ofNat (n - values.length)).toNat = n - values.length :=
      UInt64.toNat_ofNat_of_lt' (lt_trans small c.batchSize.toNat_lt)
    change (start + UInt64.ofNat (n - values.length)).toNat = c.numbered n
    rw [UInt64.toNat_add, index, first, ← number, Nat.mod_eq_of_lt (by omega)]

/-! ## Passes of the fill loop -/

theorem SequenceStore.lookup_setBlock (name : String) (block : Block)
    (blocks : List (String × Block)) : (setBlock name block blocks).lookup name = some block := by
  induction blocks with
  | nil => simp [setBlock]
  | cons entry rest ih =>
      rw [setBlock]
      by_cases found : entry.1 = name
      · simp [found]
      · have other : (name == entry.1) = false := by
          simpa using fun same => found same.symm
        rw [if_neg found, List.lookup_cons, other]
        exact ih

theorem Allocator.finish_eq (a : Allocator) (reason : FillEnd) :
    ∃ ended, a.finish reason = { a with ended := ended } := by
  rw [finish]
  split
  · exact ⟨a.ended, rfl⟩
  · exact ⟨some reason, rfl⟩

/-- A pass changes nothing but the count of failures and whether the loop has ended, or it appends
a batch and stores the block behind it. -/
theorem Allocator.fill_cases (a : Allocator) (store : SequenceStore) (tag : String) :
    (∃ ended, (a.fill store tag).1 = { a with ended := ended } ∧
        (a.fill store tag).2.block? a.name = store.block? a.name) ∨
      ∃ block, store.block? a.name = some block ∧
        (a.fill store tag).1 = { a with
          buffer := a.buffer ++ batch (a.policy.reserve tag a.batchSize block).1 a.batchSize tag } ∧
        (a.fill store tag).2.block? a.name = some (a.policy.reserve tag a.batchSize block).2 := by
  rw [fill]
  split
  · exact Or.inl ⟨a.ended, rfl, rfl⟩
  · cases failures : store.failures with
    | succ count =>
        simp only [SequenceStore.nextBatch, failures]
        exact Or.inl ⟨a.ended, rfl, rfl⟩
    | zero =>
        cases found : store.block? a.name with
        | none =>
            simp only [SequenceStore.nextBatch, failures, found, finish]
            split
            · exact Or.inl ⟨a.ended, rfl, trivial⟩
            · exact Or.inl ⟨some .unknownSequence, rfl, trivial⟩
        | some block =>
            simp only [SequenceStore.nextBatch, failures, found]
            refine Or.inr ⟨block, rfl, rfl, ?_⟩
            exact SequenceStore.lookup_setBlock ..

structure Allocator.Serves (c : SequenceConfig) (a : Allocator) : Prop where
  name : a.name = c.name
  policy : a.policy = c.policy
  size : a.batchSize = c.batchSize

/-! ## What a desk issues -/

namespace TraceDesk

variable {κ : Type} {s t : TraceDesk κ}

/-- The values that callers have yet to look at, in their order. -/
def pending (s : TraceDesk κ) : List Reserved :=
  (s.front.bind Prod.snd).toList ++ s.numbers.allocator.buffer

/-- The values of today that were handed out or are pending. -/
def issued (s : TraceDesk κ) : List UInt64 :=
  s.handedOn s.numbers.today ++
    (s.pending.filter fun r => r.tag = s.numbers.today.monthDay).map Reserved.value

def tags (s : TraceDesk κ) : List String := s.days.map Date.monthDay

theorem tags_of_days (days : t.days = s.days) : t.tags = s.tags := by
  rw [tags, tags, days]

theorem handedOn_of_handed (handed : t.handed = s.handed) : t.handedOn = s.handedOn := by
  funext day
  rw [handedOn, handedOn, handed]

theorem issued_of_pending (days : t.days = s.days) (handed : t.handed = s.handed)
    {more : List Reserved} (pending : t.pending = s.pending ++ more) :
    t.issued = s.issued ++
      (more.filter fun r => r.tag = s.numbers.today.monthDay).map Reserved.value := by
  obtain ⟨today, _⟩ := List.cons.inj days
  rw [issued, issued, handedOn_of_handed handed, today, pending, List.filter_append,
    List.map_append, List.append_assoc]

theorem today_mem_tags (s : TraceDesk κ) : s.numbers.today.monthDay ∈ s.tags :=
  List.mem_map_of_mem (List.mem_cons_self ..)

/-- Whatever occurs is of a day so far, and the days so far have different tags. -/
structure Known (s : TraceDesk κ) : Prop where
  distinct : s.tags.Nodup
  reading : ∀ tag, s.reading = some tag → tag ∈ s.tags
  pending : ∀ r ∈ s.pending, r.tag ∈ s.tags
  handed : ∀ h ∈ s.handed, h.2.1 ∈ s.days

theorem Known.frame (known : Known s) (days : t.days = s.days)
    (reading : ∀ tag, t.reading = some tag → tag ∈ s.tags)
    (pending : ∀ r ∈ t.pending, r.tag ∈ s.tags) (handed : ∀ h ∈ t.handed, h.2.1 ∈ s.days) :
    Known t := by
  have tags := tags_of_days days
  exact ⟨tags ▸ known.distinct, tags ▸ reading, tags ▸ pending, days ▸ handed⟩

/-- For today `m` batches were reserved, and none before the stored block is of today. -/
structure Current (c : SequenceConfig) (s : TraceDesk κ) (block : Block) (m : ℕ) : Prop where
  stored : s.numbers.store.block? c.name = some block
  known : block.tag ∈ s.tags
  length : s.issued.length = m * c.batchSize.toNat
  follows : c.Follows s.issued
  stands : block.tag = s.numbers.today.monthDay → c.Stands m block
  stale : block.tag ≠ s.numbers.today.monthDay → m = 0
  -- a reservation for another day that is still under way was not overtaken by one for today
  reading : ∀ tag, s.reading = some tag → tag ≠ s.numbers.today.monthDay →
    block.tag ≠ s.numbers.today.monthDay

structure Issues (c : SequenceConfig) (s : TraceDesk κ) : Prop where
  serves : s.numbers.allocator.Serves c
  known : Known s
  follows : ∀ day, c.Follows (s.handedOn day)
  current : ∃ block m, Current c s block m

/-- Nothing is issued, and no day begins. -/
theorem Issues.same (issues : Issues c s) (serves : t.numbers.allocator.Serves c)
    (days : t.days = s.days) (handed : t.handed = s.handed) (pending : t.pending = s.pending)
    (reading : ∀ tag, t.reading = some tag → s.reading = some tag ∨ tag = s.numbers.today.monthDay)
    (block : t.numbers.store.block? c.name = s.numbers.store.block? c.name) : Issues c t := by
  obtain ⟨today, _⟩ := List.cons.inj days
  have tags := tags_of_days days
  have handedOn := handedOn_of_handed handed
  have issued : t.issued = s.issued := by
    rw [TraceDesk.issued, TraceDesk.issued, today, pending, handedOn]
  have known : Known t := by
    refine issues.known.frame days ?_ (pending ▸ issues.known.pending)
      (handed ▸ issues.known.handed)
    intro tag reads
    rcases reading tag reads with before | isToday
    · exact issues.known.reading tag before
    · rw [isToday]
      exact s.today_mem_tags
  obtain ⟨stored, m, holds⟩ := issues.current
  refine ⟨serves, known, handedOn ▸ issues.follows, stored, m, block.trans holds.stored,
    tags ▸ holds.known, issued ▸ holds.length, issued ▸ holds.follows, today ▸ holds.stands,
    today ▸ holds.stale, ?_⟩
  intro tag reads other
  rw [today] at other ⊢
  rcases reading tag reads with before | isToday
  · exact holds.reading tag before other
  · exact absurd isToday other

theorem opened_issues (store : SequenceStore) (today : Date)
    (provisioned : store.block? c.name = some ⟨c.least, today.monthDay⟩) :
    Issues c (TraceDesk.opened c store today : TraceDesk κ) where
  serves := ⟨rfl, rfl, rfl⟩
  known := ⟨by simp [opened, tags, days], by simp [opened],
    by simp [opened, pending, Allocator.ofConfig], by simp [opened]⟩
  follows _ := follows_nil
  current := ⟨⟨c.least, today.monthDay⟩, 0, provisioned, today_mem_tags (opened c store today),
    by simp [issued, handedOn, pending, opened, Allocator.ofConfig], follows_nil,
    fun _ => SequenceConfig.stands_least _, fun other => absurd rfl other, by simp [opened]⟩

theorem Issues.give (issues : Issues c s) (caller : κ) (r : Reserved)
    (first : s.front = some (caller, some r)) (isToday : r.tag = s.numbers.today.monthDay) :
    Issues c { s with
      front := none
      handed := s.handed ++ [(caller, s.numbers.today, r.value)] } := by
  obtain ⟨block, m, current⟩ := issues.current
  have before : s.pending = r :: s.numbers.allocator.buffer := by
    rw [pending, first]
    rfl
  have handedOn (day : Date) : TraceDesk.handedOn { s with
      front := none
      handed := s.handed ++ [(caller, s.numbers.today, r.value)] } day =
        s.handedOn day ++ if s.numbers.today = day then [r.value] else [] := by
    by_cases same : s.numbers.today = day
    · simp [TraceDesk.handedOn, List.filter_append, same]
    · simp [TraceDesk.handedOn, List.filter_append, same]
  have issued : TraceDesk.issued { s with
      front := none
      handed := s.handed ++ [(caller, s.numbers.today, r.value)] } = s.issued := by
    rw [TraceDesk.issued, handedOn, if_pos rfl, TraceDesk.issued, before,
      List.filter_cons_of_pos (by simpa using isToday), List.map_cons, List.append_assoc]
    rfl
  refine ⟨issues.serves, ⟨issues.known.distinct, issues.known.reading, ?_, ?_⟩, ?_, block, m,
    current.stored, current.known, issued ▸ current.length, issued ▸ current.follows,
    current.stands, current.stale, current.reading⟩
  · intro x member
    exact issues.known.pending x (before ▸ List.mem_cons_of_mem r member)
  · intro h member
    rcases List.mem_append.mp member with old | isLast
    · exact issues.known.handed h old
    · rw [List.mem_singleton.mp isLast]
      exact List.mem_cons_self ..
  · intro day
    by_cases same : s.numbers.today = day
    · subst same
      have follows := current.follows
      rw [← issued] at follows
      exact follows_front follows
    · rw [handedOn, if_neg same, List.append_nil]
      exact issues.follows day

theorem Issues.discard (issues : Issues c s) (caller : κ) (r : Reserved)
    (first : s.front = some (caller, some r)) (other : r.tag ≠ s.numbers.today.monthDay) :
    Issues c { s with front := some (caller, none) } := by
  obtain ⟨block, m, current⟩ := issues.current
  have before : s.pending = r :: s.numbers.allocator.buffer := by
    rw [pending, first]
    rfl
  have issued : TraceDesk.issued { s with front := some (caller, none) } = s.issued := by
    rw [TraceDesk.issued, TraceDesk.issued, before, List.filter_cons_of_neg (by simpa using other)]
    rfl
  refine ⟨issues.serves, ⟨issues.known.distinct, issues.known.reading, ?_, issues.known.handed⟩,
    issues.follows, block, m, current.stored, current.known, issued ▸ current.length,
    issued ▸ current.follows, current.stands, current.stale, current.reading⟩
  intro x member
  exact issues.known.pending x (before ▸ List.mem_cons_of_mem r member)

/-- On a new day nothing was handed out or reserved yet. -/
theorem Issues.advance (issues : Issues c s) (today : Date)
    (isNew : ∀ day ∈ s.days, day.monthDay ≠ today.monthDay) :
    Issues c { s with numbers := s.numbers.setToday today, past := s.numbers.today :: s.past } := by
  obtain ⟨block, m, current⟩ := issues.current
  have newTag : ∀ tag ∈ s.tags, tag ≠ today.monthDay := by
    intro tag member
    obtain ⟨day, isDay, rfl⟩ := List.mem_map.mp member
    exact isNew day isDay
  have old : block.tag ≠ today.monthDay := newTag _ current.known
  have handedOn : s.handedOn today = [] := by
    rw [TraceDesk.handedOn, List.map_eq_nil_iff, List.filter_eq_nil_iff]
    intro h member
    have different := isNew _ (issues.known.handed h member)
    simpa using fun same : h.2.1 = today => different (congrArg Date.monthDay same)
  have waiting : s.pending.filter (fun r => r.tag = today.monthDay) = [] := by
    rw [List.filter_eq_nil_iff]
    intro r member
    simpa using newTag _ (issues.known.pending r member)
  have issued : TraceDesk.issued
      { s with numbers := s.numbers.setToday today, past := s.numbers.today :: s.past } = [] := by
    change s.handedOn today ++ (s.pending.filter fun r => r.tag = today.monthDay).map _ = []
    rw [handedOn, waiting]
    rfl
  refine ⟨issues.serves, ⟨?_, ?_, ?_, ?_⟩, issues.follows, block, 0, current.stored,
    List.mem_cons_of_mem _ current.known, ?_, ?_, ?_, ?_, ?_⟩
  · exact List.nodup_cons.mpr ⟨fun member => newTag _ member rfl, issues.known.distinct⟩
  · intro tag reads
    exact List.mem_cons_of_mem _ (issues.known.reading tag reads)
  · intro r member
    exact List.mem_cons_of_mem _ (issues.known.pending r member)
  · intro h member
    exact List.mem_cons_of_mem _ (issues.known.handed h member)
  · rw [issued, Nat.zero_mul]
    rfl
  · rw [issued]
    exact follows_nil
  · intro same
    exact absurd same old
  · intro _
    rfl
  · intro _ _ _
    exact old

theorem Current.reserved (fits : c.Fits) {block : Block} {m : ℕ} (current : Current c s block m) :
    (c.policy.reserve s.numbers.today.monthDay c.batchSize block).1.toNat =
        c.least.toNat + c.batchSize.toNat * (m % c.batches) ∧
      c.Stands (m + 1) (c.policy.reserve s.numbers.today.monthDay c.batchSize block).2 := by
  by_cases isToday : block.tag = s.numbers.today.monthDay
  · exact SequenceConfig.reserve_current fits _ block m isToday (current.stands isToday)
  · obtain ⟨first, stands⟩ := SequenceConfig.reserve_stale fits _ block isToday
    rw [current.stale isToday, first, Nat.zero_mod, mul_zero, add_zero]
    exact ⟨rfl, stands⟩

/-- A batch for today continues the numbering, and one for another day is not for today. -/
theorem Issues.batch (fits : c.Fits) (issues : Issues c s) (tag : String) (member : tag ∈ s.tags)
    {block : Block} {m : ℕ} (current : Current c s block m)
    (stale : tag ≠ s.numbers.today.monthDay → block.tag ≠ s.numbers.today.monthDay)
    (serves : t.numbers.allocator.Serves c) (days : t.days = s.days) (handed : t.handed = s.handed)
    (waits : t.reading = none)
    (pending : t.pending = s.pending ++
      Allocator.batch (c.policy.reserve tag c.batchSize block).1 c.batchSize tag)
    (stored : t.numbers.store.block? c.name =
      some (c.policy.reserve tag c.batchSize block).2) : Issues c t := by
  obtain ⟨today, _⟩ := List.cons.inj days
  have handedOn := handedOn_of_handed handed
  have issued := issued_of_pending days handed pending
  have tagged := SequenceConfig.reserve_tag c.policy tag c.batchSize block
  have noReading : ∀ tag, t.reading ≠ some tag := by simp [waits]
  have known : Known t := by
    refine issues.known.frame days (fun tag reads => absurd reads (noReading tag)) ?_
      (handed ▸ issues.known.handed)
    intro r inPending
    rw [pending, List.mem_append] at inPending
    rcases inPending with old | new
    · exact issues.known.pending r old
    · exact (Allocator.tag_of_mem_batch new).symm ▸ member
  have storedTag : (c.policy.reserve tag c.batchSize block).2.tag ∈ t.tags := by
    rw [tagged, tags_of_days days]
    exact member
  by_cases isToday : tag = s.numbers.today.monthDay
  · subst isToday
    obtain ⟨first, stands⟩ := current.reserved fits
    rw [Allocator.filter_batch_of_eq] at issued
    refine ⟨serves, known, handedOn ▸ issues.follows, _, m + 1, stored, storedTag, ?_, ?_,
      fun _ => stands, fun other => absurd (today ▸ tagged) other,
      fun tag reads => absurd reads (noReading tag)⟩
    · rw [issued, List.length_append, List.length_map, Allocator.length_batch, current.length,
        Nat.succ_mul]
    · rw [issued]
      exact follows_batch fits current.follows current.length first
  · have isNone := current.stale (stale isToday)
    rw [Allocator.filter_batch_of_ne _ _ isToday, List.map_nil, List.append_nil] at issued
    refine ⟨serves, known, handedOn ▸ issues.follows, _, m, stored, storedTag, ?_, ?_,
      fun same => absurd (tagged.symm.trans (same.trans (congrArg _ today))) isToday,
      fun _ => isNone, fun tag reads => absurd reads (noReading tag)⟩
    · rw [issued]
      exact current.length
    · rw [issued]
      exact current.follows

theorem Issues.reserve (fits : c.Fits) (issues : Issues c s) (tag : String)
    (reads : s.reading = some tag) : Issues c (s.reserve tag) := by
  obtain ⟨name, policy, size⟩ := issues.serves
  rcases s.numbers.allocator.fill_cases s.numbers.store tag with
    ⟨ended, filled, stored⟩ | ⟨block, found, filled, stored⟩
  · have serves : (s.reserve tag).numbers.allocator.Serves c := by
      simp only [TraceDesk.reserve, filled]
      exact ⟨name, policy, size⟩
    have pending : (s.reserve tag).pending = s.pending := by
      simp only [TraceDesk.pending, TraceDesk.reserve, filled]
    exact issues.same serves rfl rfl pending (by simp [TraceDesk.reserve]) (name ▸ stored)
  · rw [name] at found stored
    rw [policy, size] at stored
    obtain ⟨before, m, current⟩ := issues.current
    obtain rfl : before = block := Option.some.inj (current.stored.symm.trans found)
    have serves : (s.reserve tag).numbers.allocator.Serves c := by
      simp only [TraceDesk.reserve, filled]
      exact ⟨name, policy, size⟩
    have pending : (s.reserve tag).pending = s.pending ++
        Allocator.batch (c.policy.reserve tag c.batchSize before).1 c.batchSize tag := by
      simp only [TraceDesk.pending, TraceDesk.reserve, filled, policy, size, List.append_assoc]
    exact issues.batch fits tag (issues.known.reading tag reads) current (current.reading tag reads)
      serves rfl rfl rfl pending stored

/-! ## Steps and runs -/

theorem Step.issues (fits : c.Fits) (issues : Issues c s) (step : Step s t) : Issues c t := by
  cases step with
  | look _ _ =>
      refine issues.same issues.serves rfl rfl rfl ?_ rfl
      intro tag reads
      exact Or.inr (Option.some.inj reads).symm
  | reserve tag reads => exact issues.reserve fits tag reads
  | send _ _ => exact issues.same issues.serves rfl rfl rfl (fun _ => Or.inl) rfl
  | fail _ => exact issues.same issues.serves rfl rfl rfl (fun _ => Or.inl) rfl
  | enter caller free =>
      have pending : TraceDesk.pending { s with front := some (caller, none) } = s.pending := by
        rw [TraceDesk.pending, TraceDesk.pending, free]
        rfl
      exact issues.same issues.serves rfl rfl pending (fun _ => Or.inl) rfl
  | receive caller r rest first buffered _ =>
      obtain ⟨name, policy, size⟩ := issues.serves
      have pending : TraceDesk.pending
          { s with numbers := s.numbers.keep rest, front := some (caller, some r) } =
            s.pending := by
        rw [TraceDesk.pending, TraceDesk.pending, first, buffered]
        rfl
      exact issues.same ⟨name, policy, size⟩ rfl rfl pending (fun _ => Or.inl) rfl
  | give caller r first isToday => exact issues.give caller r first isToday
  | discard caller r first other => exact issues.discard caller r first other
  | leave caller first =>
      have pending : TraceDesk.pending { s with front := none } = s.pending := by
        rw [TraceDesk.pending, TraceDesk.pending, first]
        rfl
      exact issues.same issues.serves rfl rfl pending (fun _ => Or.inl) rfl
  | advance today isNew => exact issues.advance today isNew
  | shutDown => exact issues.same issues.serves rfl rfl rfl (fun _ => Or.inl) rfl
  | stop _ _ =>
      obtain ⟨name, policy, size⟩ := issues.serves
      obtain ⟨ended, finished⟩ := s.numbers.allocator.finish_eq .shutDown
      have stopped : s.numbers.shutDown =
          { s.numbers with allocator := { s.numbers.allocator with ended := ended } } := by
        rw [TraceNumbers.shutDown, finished]
      rw [stopped]
      exact issues.same ⟨name, policy, size⟩ rfl rfl rfl (fun _ => Or.inl) rfl

theorem reaches_issues (fits : c.Fits) (issues : Issues c s) (reaches : s.Reaches t) :
    Issues c t := by
  induction reaches with
  | refl => exact issues
  | tail _ step ih => exact step.issues fits ih

end TraceDesk

/-- The values of a day count up from the least one and start over after as many whole batches as
fit; until then none of them comes twice. -/
theorem handed_numbers {κ : Type} (c : SequenceConfig) (valid : c.validate = .ok ())
    (room : 2 * c.greatest.toNat + 2 < 2 ^ 64) (store : SequenceStore) (today : Date)
    (provisioned : store.block? c.name = some ⟨c.least, today.monthDay⟩) (s : TraceDesk κ)
    (reaches : (TraceDesk.opened c store today).Reaches s) (day : Date) (n : ℕ) (value : UInt64)
    (found : (s.handedOn day)[n]? = some value) :
    value.toNat = c.least.toNat + n % (c.batchSize.toNat *
        max 1 ((c.greatest.toNat - c.least.toNat) / c.batchSize.toNat)) ∧
      (c.least ≤ value ∧ value ≤ c.greatest) ∧ (n = 0 → value = c.least) ∧
      ∀ (m : ℕ) (other : UInt64), (s.handedOn day)[m]? = some other → m < n →
        n < m + c.batchSize.toNat *
          max 1 ((c.greatest.toNat - c.least.toNat) / c.batchSize.toNat) → other ≠ value := by
  have fits := c.fits_of_validate valid room
  have issues := TraceDesk.reaches_issues fits (TraceDesk.opened_issues store today provisioned)
    reaches
  have follows := issues.follows day
  have isNumbered := follows n value found
  refine ⟨isNumbered, ⟨?_, ?_⟩, ?_, ?_⟩
  · rw [UInt64.le_iff_toNat_le, isNumbered]
    exact Nat.le_add_right ..
  · rw [UInt64.le_iff_toNat_le, isNumbered]
    exact SequenceConfig.numbered_le fits n
  · intro isFirst
    rw [isFirst, SequenceConfig.numbered, Nat.zero_mod, add_zero] at isNumbered
    exact UInt64.toNat_inj.mp isNumbered
  · intro m other earlier before near same
    have different := SequenceConfig.numbered_ne (c := c) before near
    rw [← follows m other earlier, ← isNumbered, same] at different
    exact different rfl

namespace Sample

/-- Two batches fit, and the values 5 and 6 stay unused. -/
def sequence : SequenceConfig := ⟨"stan", 1, 6, 2, 1, 250⟩

def monday : Date := ⟨2024, 3, 4⟩

def tuesday : Date := ⟨2024, 3, 5⟩

/-- The first two reservations fail. -/
def numberStore : SequenceStore := .ofProvisioning sequence monday 2 .standard

def openDesk : TraceDesk Bool := .opened sequence numberStore monday

def mondayDesk : TraceDesk Bool :=
  openDesk.served (openDesk.numbers.take 5).2.2 true [1, 2, 3, 4, 1]

/-- One value of the first day is still in the buffer. -/
def midnightDesk : TraceDesk Bool :=
  { mondayDesk with
    numbers := mondayDesk.numbers.setToday tuesday
    past := mondayDesk.numbers.today :: mondayDesk.past }

def tuesdayDesk : TraceDesk Bool :=
  midnightDesk.served (midnightDesk.numbers.take 3).2.2 false [1, 2, 3]

theorem tuesdayDesk_reached : openDesk.Reaches tuesdayDesk := by
  have onMonday : openDesk.Reaches mondayDesk := by
    refine openDesk.reaches_take true rfl ⟨rfl, rfl⟩ 5 _ none _ ?_
    exact Prod.ext (by decide +kernel) (Prod.ext (by decide +kernel) rfl)
  have isNew : ∀ day ∈ mondayDesk.days, day.monthDay ≠ tuesday.monthDay := by decide +kernel
  have atMidnight : mondayDesk.Reaches midnightDesk := .single (.advance tuesday isNew)
  have onTuesday : midnightDesk.Reaches tuesdayDesk := by
    refine midnightDesk.reaches_take false rfl ⟨rfl, rfl⟩ 3 _ none _ ?_
    exact Prod.ext (by decide +kernel) (Prod.ext (by decide +kernel) rfl)
  exact (onMonday.trans atMidnight).trans onTuesday

end Sample

theorem handed_numbers_restarted :
    Sample.sequence.validate = .ok () ∧ Sample.openDesk.Reaches Sample.tuesdayDesk ∧
      Sample.tuesdayDesk.handedOn Sample.monday = [1, 2, 3, 4, 1] ∧
      Sample.tuesdayDesk.handedOn Sample.tuesday = [1, 2, 3] ∧
      (1 : UInt64).toNat = 1 + 4 % (2 * max 1 ((6 - 1) / 2)) ∧
      (3 : UInt64).toNat = 1 + 2 % (2 * max 1 ((6 - 1) / 2)) := by
  have valid : Sample.sequence.validate = .ok () := rfl
  have provisioned : Sample.numberStore.block? Sample.sequence.name =
      some ⟨Sample.sequence.least, Sample.monday.monthDay⟩ := by decide +kernel
  have onMonday : Sample.tuesdayDesk.handedOn Sample.monday = [1, 2, 3, 4, 1] := by decide +kernel
  have onTuesday : Sample.tuesdayDesk.handedOn Sample.tuesday = [1, 2, 3] := by decide +kernel
  have fifth := handed_numbers Sample.sequence valid (by decide) Sample.numberStore Sample.monday
    provisioned Sample.tuesdayDesk Sample.tuesdayDesk_reached Sample.monday 4 1 (onMonday ▸ rfl)
  have third := handed_numbers Sample.sequence valid (by decide) Sample.numberStore Sample.monday
    provisioned Sample.tuesdayDesk Sample.tuesdayDesk_reached Sample.tuesday 2 3 (onTuesday ▸ rfl)
  exact ⟨valid, Sample.tuesdayDesk_reached, onMonday, onTuesday, fifth.1, third.1⟩

end CardPayments
