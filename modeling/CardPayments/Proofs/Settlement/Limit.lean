import CardPayments.Proofs.Capture.Summary
import CardPayments.Proofs.Settlement.Ledger

/-! # Captures stay within the authorized amount

The summary of the captures of an authorization never exceeds the authorized amount, however many
requests capture and reverse at the same time and wherever they fail or are dropped.  A capture was
checked against an earlier summary, but it is stored only on one that counts the same number.
Captures that are withdrawn later change how all sums after them are rounded; they make no total
larger. -/
set_option autoImplicit false

namespace CardPayments

def CaptureEntry.opened (e : CaptureEntry) : CaptureEntry := if e.isFinal then e.withdrawn else e

/-- The captures that are not final stay below the limit even when the final one fails later: only
a final capture reaches it. -/
structure WithinLimit (limit : Amount) (captures : List Capture) : Prop where
  total : ∃ u, CaptureSummary.ofCaptures captures = .ok u ∧ u.total.number ≤ limit.value.number
  others : ∃ u, CaptureSummary.ofEntries (captures.map fun c => c.entry.opened) = .ok u ∧
    u.total.number < limit.value.number
  last : captures.Pairwise fun c _ => ¬ (c.status ≠ .failed ∧ c.isFinal = true)

namespace CaptureSummary

theorem empty_nonneg : 0 ≤ empty.total.number := by
  rw [empty, Decimal.number_zero]

theorem ofEntries_concat (entries : List CaptureEntry) (e : CaptureEntry) (u : CaptureSummary)
    (done : ofEntries entries = .ok u) :
    ofEntries (entries ++ [e]) = if e.Counts then u.count e else .ok u := by
  have parts := extend_append empty entries [e]
  rw [ofEntries] at done
  rw [ofEntries, parts, done]
  by_cases counts : e.Counts
  · rw [if_pos counts]
    refine (extend_count u e [] counts).trans ?_
    cases u.count e <;> rfl
  · rw [if_neg counts]
    exact extend_skip u e [] counts

theorem ofEntries_withdrawn (before after : List CaptureEntry) (u : CaptureSummary)
    (withdrawn : Withdrawn before after) (done : ofEntries before = .ok u) :
    ∃ v, ofEntries after = .ok v ∧ v.total.number ≤ u.total.number ∧
      (v.hasFinal = true → u.hasFinal = true) :=
  extend_withdrawn before after withdrawn empty empty u empty_nonneg le_rfl id done

theorem ofEntries_nonneg (entries : List CaptureEntry) (u : CaptureSummary)
    (done : ofEntries entries = .ok u) : 0 ≤ u.total.number :=
  le_trans empty_nonneg (extend_grows empty u entries empty_nonneg done)

theorem ofCaptures_hasFinal (captures : List Capture) (u : CaptureSummary)
    (done : ofCaptures captures = .ok u) :
    u.hasFinal = true ↔ ∃ c ∈ captures, c.status ≠ .failed ∧ c.isFinal = true := by
  rw [extend_hasFinal empty u _ empty_nonneg done]
  simp [empty, CaptureEntry.Counts, Capture.entry]

end CaptureSummary

theorem withdrawn_opened (entries : List CaptureEntry) :
    Withdrawn entries (entries.map CaptureEntry.opened) := by
  rw [Withdrawn, List.forall₂_map_right_iff, List.forall₂_same]
  intro e _
  rw [CaptureEntry.opened]
  split
  · exact Or.inr rfl
  · exact Or.inl rfl

theorem withdrawn_changed {captures after : List Capture} {isRow : Capture → Prop}
    (view : Capture → CaptureEntry)
    (fails : ∀ c : Capture, view { c with status := .failed } = view c ∨
      view { c with status := .failed } = (view c).withdrawn)
    (changed : RowChanged isRow (fun row => { row with status := .failed }) captures after) :
    Withdrawn (captures.map view) (after.map view) := by
  obtain ⟨front, row, back, split, splitAfter, _⟩ := changed
  rw [split, splitAfter, List.map_append, List.map_append, List.map_cons, List.map_cons]
  have unchanged := fun rows : List Capture => Withdrawn.refl (rows.map view)
  exact List.rel_append (unchanged front) (.cons (fails row) (unchanged back))

/-- Where no final capture counts, taking final ones as failed changes nothing. -/
theorem CaptureSummary.extend_opened (s : CaptureSummary) (entries : List CaptureEntry)
    (none : ∀ e ∈ entries, e.Counts → e.isFinal = false) :
    s.extend (entries.map CaptureEntry.opened) = s.extend entries := by
  induction entries generalizing s with
  | nil => rfl
  | cons e rest ih =>
      have restNone := fun other member => none other (List.mem_cons_of_mem e member)
      by_cases counts : e.Counts
      · have stays : e.opened = e := by
          rw [CaptureEntry.opened, none e (List.mem_cons_self ..) counts]
          rfl
        rw [List.map_cons, stays, extend_count s e _ counts, extend_count s e _ counts]
        cases s.count e with
        | ok next => exact ih next restNone
        | error cause => rfl
      · have failed : ¬ e.opened.Counts := by
          rw [CaptureEntry.opened]
          split
          · exact e.not_counts_withdrawn
          · exact counts
        rw [List.map_cons, extend_skip s _ _ failed, extend_skip s e _ counts]
        exact ih s restNone

namespace WithinLimit

variable {limit : Amount} {captures after : List Capture}

theorem nil (limit : Amount) : WithinLimit limit [] where
  total := ⟨.empty, rfl, by
    rw [CaptureSummary.empty, Decimal.number_zero]
    exact limit.number_pos.le⟩
  others := ⟨.empty, rfl, by
    rw [CaptureSummary.empty, Decimal.number_zero]
    exact limit.number_pos⟩
  last := .nil

/-- A capture that was checked against a summary is added while that summary still holds. -/
theorem append (within : WithinLimit limit captures) (c : Capture) (seen current : CaptureSummary)
    (flagged : Bool) (checked : seen.checkCapturable limit c.amount = .ok ())
    (becomes : seen.becomesFinal limit c.amount flagged = .ok c.isFinal)
    (summary : CaptureSummary.ofCaptures captures = .ok current)
    (same : current.same seen = true) : WithinLimit limit (captures ++ [c]) := by
  obtain ⟨unclosed, u, counted, sum, le⟩ :=
    CaptureSummary.checkCapturable_ok seen limit c.entry checked
  obtain ⟨sameTotal, sameFinal⟩ := (CaptureSummary.same_iff current seen).mp same
  have nonneg := CaptureSummary.ofEntries_nonneg _ current summary
  refine ⟨?_, ?_, ?_⟩
  · obtain ⟨v, countedNow, leNow, _⟩ := CaptureSummary.count_of_le seen current u c.entry nonneg
      sameTotal.le (fun final => sameFinal ▸ final) counted
    rw [CaptureSummary.ofCaptures, List.map_append]
    rw [List.map_singleton, CaptureSummary.ofEntries_concat _ c.entry current summary]
    split
    · exact ⟨v, countedNow, le_trans leNow le⟩
    · refine ⟨current, rfl, le_trans (CaptureSummary.count_grows current v c.entry nonneg
        countedNow) (le_trans leNow le)⟩
  · obtain ⟨rest, others, less⟩ := within.others
    rw [List.map_append, List.map_singleton, CaptureSummary.ofEntries_concat _ _ rest others]
    by_cases isFinal : c.isFinal = true
    · have failed : c.entry.opened = c.entry.withdrawn := if_pos isFinal
      rw [failed, if_neg c.entry.not_counts_withdrawn]
      exact ⟨rest, rfl, less⟩
    · -- a capture that is not final takes the total, and so the smaller sum, below the limit
      have stays : c.entry.opened = c.entry := if_neg isFinal
      have final_eq : c.isFinal = false := Bool.eq_false_iff.mpr isFinal
      rw [final_eq] at becomes
      have differs := CaptureSummary.becomesFinal_ok seen limit c.amount flagged u.total sum becomes
      have opened := withdrawn_opened (captures.map Capture.entry)
      rw [List.map_map] at opened
      obtain ⟨v, same_rest, smaller, final⟩ :=
        CaptureSummary.ofEntries_withdrawn _ _ current opened summary
      have isRest : v = rest := Except.ok.inj (same_rest.symm.trans others)
      subst isRest
      obtain ⟨w, counted_rest, leRest, _⟩ := CaptureSummary.count_of_le seen v u c.entry
        (CaptureSummary.ofEntries_nonneg _ v others) (sameTotal ▸ smaller)
        (fun isFinal => sameFinal ▸ final isFinal) counted
      rw [stays]
      split
      · exact ⟨w, counted_rest, lt_of_le_of_lt leRest (lt_of_le_of_ne le differs)⟩
      · exact ⟨v, rfl, less⟩
  · rw [List.pairwise_append]
    refine ⟨within.last, List.pairwise_singleton _ _, fun old member _ _ final => ?_⟩
    have closed := (CaptureSummary.ofCaptures_hasFinal captures current summary).mpr
      ⟨old, member, final⟩
    rw [sameFinal, unclosed] at closed
    cases closed

theorem withdraw (within : WithinLimit limit captures) {isRow : Capture → Prop}
    (changed : RowChanged isRow (fun row => { row with status := .failed }) captures after) :
    WithinLimit limit after := by
  refine ⟨?_, ?_, ?_⟩
  · obtain ⟨u, done, le⟩ := within.total
    have withdrawn := withdrawn_changed Capture.entry (fun _ => Or.inr rfl) changed
    obtain ⟨v, doneAfter, smaller, _⟩ :=
      CaptureSummary.ofEntries_withdrawn _ _ u withdrawn done
    exact ⟨v, doneAfter, le_trans smaller le⟩
  · obtain ⟨u, done, less⟩ := within.others
    have fails (c : Capture) : ({ c with status := .failed } : Capture).entry.opened =
        c.entry.opened.withdrawn := by
      cases final : c.isFinal <;> simp [CaptureEntry.opened, Capture.entry, final,
        CaptureEntry.withdrawn]
    have withdrawn :=
      withdrawn_changed (fun c => c.entry.opened) (fun c => Or.inr (fails c)) changed
    obtain ⟨v, doneAfter, smaller, _⟩ :=
      CaptureSummary.ofEntries_withdrawn _ _ u withdrawn done
    exact ⟨v, doneAfter, lt_of_le_of_lt smaller less⟩
  · obtain ⟨front, row, back, split, splitAfter, _⟩ := changed
    have last := within.last
    rw [split, List.pairwise_append, List.pairwise_cons] at last
    rw [splitAfter, List.pairwise_append, List.pairwise_cons]
    obtain ⟨inFront, ⟨_, inBack⟩, across⟩ := last
    refine ⟨inFront, ⟨fun _ _ final => final.1 rfl, inBack⟩, fun old member other later => ?_⟩
    exact across old member row (List.mem_cons_self ..)

theorem hasFinal_of_total (within : WithinLimit limit captures) (u : CaptureSummary)
    (done : CaptureSummary.ofCaptures captures = .ok u)
    (reached : u.total.number = limit.value.number) : u.hasFinal = true := by
  by_contra unclosed
  obtain ⟨rest, others, less⟩ := within.others
  have none (e : CaptureEntry) (member : e ∈ captures.map Capture.entry) (counts : e.Counts) :
      e.isFinal = false := by
    obtain ⟨c, stored, rfl⟩ := List.mem_map.mp member
    by_contra final
    exact unclosed ((CaptureSummary.ofCaptures_hasFinal captures u done).mpr
      ⟨c, stored, counts, Bool.not_eq_false _ ▸ final⟩)
  have same := CaptureSummary.extend_opened .empty (captures.map Capture.entry) none
  rw [List.map_map] at same
  have isRest : u = rest := Except.ok.inj (done.symm.trans (same.symm.trans others))
  rw [isRest] at reached
  exact absurd reached less.ne

end WithinLimit

theorem WithinLimit.getLast?_eq {limit : Amount} {captures : List Capture}
    (within : WithinLimit limit captures) (c : Capture) (stored : c ∈ captures)
    (counts : c.status ≠ .failed) (final : c.isFinal = true) : captures.getLast? = some c := by
  obtain ⟨front, back, split⟩ := List.append_of_mem stored
  have last := within.last
  rw [split, List.pairwise_append, List.pairwise_cons] at last
  cases back with
  | nil => rw [split, List.getLast?_concat]
  | cons next rest => exact absurd ⟨counts, final⟩ (last.2.1.1 next (List.mem_cons_self ..))

theorem WithinLimit.final_length_le {limit : Amount} {captures : List Capture}
    (within : WithinLimit limit captures) :
    (captures.filter fun c => c.status ≠ .failed ∧ c.isFinal = true).length ≤ 1 := by
  refine Table.length_filter_le_one (within.last.imp fun notFinal final => ?_)
  exact absurd (of_decide_eq_true final) notFinal

variable {ι : Type} [DecidableEq ι] {requests : ι → Request} {id : Uuid}

theorem Ledger.Step.withinLimit {limit : Amount} {l l' : Ledger ι} {turn : Turn}
    (step : l.Step requests id (· = limit) turn l') (within : WithinLimit limit l.captures) :
    WithinLimit limit l'.captures := by
  cases step with
  | capture i c seen current after idle checked summary same heard =>
      obtain ⟨amount, flagged, rfl, capturable, becomes⟩ := checked.checked
      exact within.append c seen current flagged capturable becomes summary same
  | withdraw i c captures withdraws changed => exact within.withdraw changed
  | still => exact within
  | read => exact within
  | reverse => exact within
  | conclude => exact within
  | send => exact within

/-- In every state that any requests on a stored authorization can reach, whatever fails on the way,
the summary of its captures is there, stays within the authorized amount and is closed when it
reaches it; at most one capture that has not failed is final, and it is the last one. -/
theorem captures_stay_within_limit (p : Processor) (stores : Stores) (a : Authorization)
    (stored : stores.authorizations.row? a.id = some a)
    (uncaptured : stores.captures.ofAuthorization a.id = [])
    (on : ∀ i, (requests i).On a.id) (t : Traffic requests)
    (reaches : (Traffic.start requests stores).Reaches p (fun _ => True) t) :
    ∃ summary, t.stores.captures.summary a.id = .ok summary ∧
      a.amount.value.below summary.total = false ∧
      (summary.total.same a.amount.value = true → summary.hasFinal = true) ∧
      ((t.stores.captures.ofAuthorization a.id).filter fun c =>
        c.status ≠ .failed ∧ c.isFinal = true).length ≤ 1 ∧
      ∀ c ∈ t.stores.captures.ofAuthorization a.id, c.status ≠ .failed → c.isFinal = true →
        (t.stores.captures.ofAuthorization a.id).getLast? = some c := by
  have first : WithinLimit a.amount (stores.captures.ofAuthorization a.id) := by
    rw [uncaptured]
    exact .nil a.amount
  have known : ∀ row, stores.authorizations.row? a.id = some row → row.amount = a.amount := by
    intro row found
    rw [stored, Option.some.injEq] at found
    rw [found]
  obtain ⟨o, shows, within, _⟩ := reaches.ledger (· = a.amount)
    (fun l => WithinLimit a.amount l.captures) on known
    (fun _ _ _ _ holds step => step.withinLimit holds) (Traffic.start_shows stores) first
  rw [shows.ledger_captures] at within
  obtain ⟨summary, sums, le⟩ := within.total
  refine ⟨summary, sums, ?_, ?_, within.final_length_le, within.getLast?_eq⟩
  · exact Bool.eq_false_iff.mpr (mt (Decimal.below_iff _ _).mp (not_lt.mpr le))
  · intro reached
    exact within.hasFinal_of_total summary sums ((Decimal.same_iff _ _).mp reached)

/-! ## A run -/

namespace Sample

def ten : Amount := ⟨⟨1000, 2, by decide, by decide⟩, by decide⟩

def card : Card := ⟨none, "411111******1111", some "token", .visa⟩

def authorization : Authorization :=
  { Authorization.intake (.ofNat 1) "psp" "shop" ten ⟨"EUR", by decide⟩ card .none (.ofSeconds 0)
    with status := .approved }

def stores : Stores :=
  { Stores.empty with
    vault := ⟨[(("shop", "token"), ⟨"4111111111111111"⟩)], 1⟩
    authorizations := ⟨[authorization], []⟩ }

def processor : Processor := ⟨fun _ => true, [], ⟨"captures", "refunds"⟩, 0⟩

def captures (second : Bool) : Request :=
  .capture "psp" ⟨.ofNat (if second then 3 else 2), .ofNat 1, ten, false, .created, .ofSeconds 0⟩

/-- Both captures are checked against the same summary; the one that is stored last is refused. -/
def race : List (Act Bool) :=
  [.start false, .start true, .answer false, .answer true, .answer false, .answer true,
    .answer false, .answer true, .answer false, .answer true, .answer true, .answer false]

def raced : Traffic captures := (Traffic.start captures stores).play processor race

end Sample

theorem captures_stay_within_limit_race :
    ∃ summary, Sample.raced.stores.captures.summary (.ofNat 1) = .ok summary ∧
      Sample.ten.value.below summary.total = false ∧
      (summary.total.same Sample.ten.value = true → summary.hasFinal = true) := by
  obtain ⟨summary, sums, within, closed, _⟩ := captures_stay_within_limit Sample.processor
    Sample.stores Sample.authorization (by decide) (by decide)
    (fun second => by cases second <;> rfl) Sample.raced
    (Traffic.play_reaches Sample.processor _ _ Sample.race fun _ _ => trivial)
  exact ⟨summary, sums, within, closed⟩

example : Sample.raced.stores.captures.summary (.ofNat 1) = .ok ⟨Sample.ten.value, true⟩ := by
  decide

end CardPayments
