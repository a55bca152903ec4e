import CardPayments.Store.Basic

/-! # Rows of one authorization

What storing and updating captures and reversals does to the rows of an authorization: a row is
added at the end, or one row is changed in its place. -/
set_option autoImplicit false

namespace CardPayments

namespace Table

variable {α : Type}

/-- The row that changes is the first one that matches. -/
theorem changeFirst_at (isMatch : α → Bool) (change : α → α) (rows changed : List α)
    (done : changeFirst isMatch change rows = some changed) :
    ∃ front row back, rows = front ++ row :: back ∧ changed = front ++ change row :: back ∧
      isMatch row = true ∧ ∀ other ∈ front, isMatch other = false := by
  induction rows generalizing changed with
  | nil => cases done
  | cons row rest ih =>
      by_cases found : isMatch row = true
      · simp only [changeFirst, found, if_true, Option.some.injEq] at done
        exact ⟨[], row, rest, rfl, done.symm, found, List.forall_mem_nil _⟩
      · simp only [changeFirst, found, Bool.false_eq_true, if_false] at done
        cases tail : changeFirst isMatch change rest with
        | none => simp [tail] at done
        | some more =>
            simp only [tail, Option.some.injEq] at done
            obtain ⟨front, other, back, split, splitMore, isFound, before⟩ := ih more tail
            refine ⟨row :: front, other, back, ?_, ?_, isFound, ?_⟩
            · rw [split, List.cons_append]
            · rw [← done, splitMore, List.cons_append]
            · exact List.forall_mem_cons.mpr ⟨Bool.eq_false_iff.mpr found, before⟩

theorem changeFirst_split (isMatch : α → Bool) (change : α → α) (rows changed : List α)
    (done : changeFirst isMatch change rows = some changed) :
    ∃ front row back, rows = front ++ row :: back ∧ changed = front ++ change row :: back ∧
      isMatch row = true := by
  obtain ⟨front, row, back, split, splitAfter, found, _⟩ := changeFirst_at _ _ _ _ done
  exact ⟨front, row, back, split, splitAfter, found⟩

theorem changeFirst_none (isMatch : α → Bool) (change : α → α) (rows : List α)
    (missing : changeFirst isMatch change rows = none) : ∀ row ∈ rows, isMatch row = false := by
  have any := changeFirst_isSome isMatch change rows
  rw [missing, Option.isSome_none, eq_comm, List.any_eq_false] at any
  intro row member
  simpa using any row member

theorem length_filter_le_one {holds : α → Bool} {rows : List α}
    (apart : rows.Pairwise fun row other => holds row = true → holds other = false) :
    (rows.filter holds).length ≤ 1 := by
  induction rows with
  | nil => exact Nat.zero_le 1
  | cons row rest ih =>
      obtain ⟨first, others⟩ := List.pairwise_cons.mp apart
      by_cases found : holds row = true
      · have none : rest.filter holds = [] := by
          rw [List.filter_eq_nil_iff]
          intro other member
          simp [first other member found]
        rw [List.filter_cons_of_pos found, none]
        exact Nat.le_refl 1
      · rw [List.filter_cons_of_neg found]
        exact ih others

end Table

def RowChanged {α : Type} (isRow : α → Prop) (change : α → α) (before after : List α) : Prop :=
  ∃ front row back, before = front ++ row :: back ∧ after = front ++ change row :: back ∧ isRow row

theorem RowChanged.filter {α : Type} {isRow : α → Prop} {change : α → α} {before after : List α}
    (changed : RowChanged isRow change before after) (keep : α → Bool)
    (kept : ∀ row, isRow row → keep row = true) (stays : ∀ row, keep (change row) = keep row) :
    RowChanged isRow change (before.filter keep) (after.filter keep) := by
  obtain ⟨front, row, back, split, splitAfter, found⟩ := changed
  refine ⟨front.filter keep, row, back.filter keep, ?_, ?_, found⟩
  · rw [split, List.filter_append, List.filter_cons_of_pos (kept row found)]
  · have stay : keep (change row) = true := by rw [stays, kept row found]
    rw [splitAfter, List.filter_append, List.filter_cons_of_pos stay]

theorem RowChanged.filter_other {α : Type} {isRow : α → Prop} {change : α → α}
    {before after : List α} (changed : RowChanged isRow change before after) (keep : α → Bool)
    (out : ∀ row, isRow row → keep row = false) (stays : ∀ row, keep (change row) = keep row) :
    after.filter keep = before.filter keep := by
  obtain ⟨front, row, back, split, splitAfter, found⟩ := changed
  have outBefore : ¬ keep row = true := Bool.eq_false_iff.mp (out row found)
  have outAfter : ¬ keep (change row) = true := by rwa [stays]
  rw [split, splitAfter, List.filter_append, List.filter_append,
    List.filter_cons_of_neg outBefore, List.filter_cons_of_neg outAfter]

theorem RowChanged.map {α β : Type} {isRow : α → Prop} {isView : β → Prop} {change : α → α}
    {changeView : β → β} {before after : List α} (changed : RowChanged isRow change before after)
    (view : α → β) (found : ∀ row, isRow row → isView (view row))
    (views : ∀ row, view (change row) = changeView (view row)) :
    RowChanged isView changeView (before.map view) (after.map view) := by
  obtain ⟨front, row, back, split, splitAfter, isRow⟩ := changed
  refine ⟨front.map view, view row, back.map view, ?_, ?_, found row isRow⟩
  · rw [split, List.map_append, List.map_cons]
  · rw [splitAfter, List.map_append, List.map_cons, views]

theorem RowChanged.singleton {α : Type} {isRow : α → Prop} {change : α → α} {x : α} {after : List α}
    (changed : RowChanged isRow change [x] after) : after = [change x] := by
  obtain ⟨front, row, back, split, splitAfter, _⟩ := changed
  cases front with
  | nil =>
      obtain ⟨rfl, rfl⟩ := List.cons.inj split
      exact splitAfter
  | cons _ _ => simp at split

theorem RowChanged.length_eq {α : Type} {isRow : α → Prop} {change : α → α} {before after : List α}
    (changed : RowChanged isRow change before after) : after.length = before.length := by
  obtain ⟨front, row, back, split, splitAfter, _⟩ := changed
  simp [split, splitAfter]

theorem RowChanged.mem {α : Type} {isRow : α → Prop} {change : α → α} {before after : List α}
    (changed : RowChanged isRow change before after) {x : α} (stored : x ∈ after) :
    x ∈ before ∨ ∃ row ∈ before, x = change row := by
  obtain ⟨front, row, back, split, splitAfter, _⟩ := changed
  rw [splitAfter, List.mem_append, List.mem_cons] at stored
  rcases stored with inFront | rfl | inBack
  · exact Or.inl (by simp [split, inFront])
  · exact Or.inr ⟨row, by simp [split], rfl⟩
  · exact Or.inl (by simp [split, inBack])

/-! A transaction is stored once, and then changes only in what was decided of it.  Its row is
shown, with its scheme data, only to the PSP it belongs to. -/

namespace TransactionStore

variable {α : Type} [Stored α] {s t : TransactionStore α} {a : α} {psp : String} {id : Uuid}

theorem create_ok (done : s.create a = .ok t) :
    s.row? (Stored.id a) = none ∧ t = ⟨s.rows ++ [Stored.row a], s.schemeData⟩ := by
  rw [create] at done
  split at done
  · cases done
  · next unknown =>
      cases done
      exact ⟨unknown, rfl⟩

theorem createData_ok {scheme : Scheme} (done : s.createData scheme a = .ok t) :
    ∃ data, SchemeData.checked (Stored.id a) (Stored.schemeData a) scheme = .ok data ∧
      t = ⟨s.rows, (Stored.id a, data) :: s.schemeData⟩ := by
  rw [createData] at done
  split at done
  · next data checked =>
      cases done
      exact ⟨data, checked, rfl⟩
  · cases done

theorem update_ok (done : s.update a = .ok t) :
    RowChanged (fun row => Stored.id row = Stored.id a) (Stored.decided a) s.rows t.rows ∧
      t.schemeData = s.schemeData := by
  rw [update] at done
  split at done
  · next rows changed =>
      cases done
      obtain ⟨front, row, back, split, splitAfter, found⟩ := Table.changeFirst_split _ _ _ _ changed
      exact ⟨⟨front, row, back, split, splitAfter, of_decide_eq_true found⟩, rfl⟩
  · cases done

section

variable {P : α → Prop} (holds : ∀ row ∈ s.rows, P row)
include holds

theorem create_forall (stored : P (Stored.row a)) (done : s.create a = .ok t) :
    ∀ row ∈ t.rows, P row := by
  obtain ⟨_, rfl⟩ := create_ok done
  exact List.forall_mem_append.mpr ⟨holds, List.forall_mem_singleton.mpr stored⟩

theorem createData_forall {scheme : Scheme} (done : s.createData scheme a = .ok t) :
    ∀ row ∈ t.rows, P row := by
  obtain ⟨_, _, rfl⟩ := createData_ok done
  exact holds

theorem update_forall (kept : ∀ row, P row → P (Stored.decided a row))
    (done : s.update a = .ok t) : ∀ row ∈ t.rows, P row := by
  intro row member
  rcases (update_ok done).1.mem member with before | ⟨old, before, rfl⟩
  · exact holds row before
  · exact kept old (holds old before)

end

theorem id_of_row? {row : α} (stored : s.row? id = some row) : Stored.id row = id := by
  simpa using List.find?_some stored

def shown (s : TransactionStore α) (row : α) : α :=
  Stored.withData row (s.schemeData.lookup (Stored.id row))

theorem getFull_row {row : α} (stored : s.row? id = some row) :
    Stored.id row = id ∧ s.getFull (Stored.psp row) id = .ok (s.shown row) := by
  have named := id_of_row? stored
  refine ⟨named, ?_⟩
  simp only [getFull, get, stored, if_true, shown, named]

theorem getFull_shows (found : s.getFull psp id = .ok a) :
    ∃ row, s.row? id = some row ∧ Stored.id row = id ∧ Stored.psp row = psp ∧
      a = Stored.withData row (s.schemeData.lookup id) := by
  rw [getFull, get] at found
  cases stored : s.row? id with
  | none => simp [stored] at found
  | some row =>
      by_cases shown : Stored.psp row = psp
      · simp only [stored, if_pos shown, Except.ok.injEq] at found
        exact ⟨row, rfl, id_of_row? stored, shown, found.symm⟩
      · simp [stored, shown] at found

theorem getFull_error {e : PaymentError} (failed : s.getFull psp id = .error e) :
    e = .recordNotFound := by
  rw [getFull, get] at failed
  cases stored : s.row? id with
  | none => simpa [stored, eq_comm] using failed
  | some row =>
      by_cases owner : Stored.psp row = psp
      · simp [stored, owner] at failed
      · simpa [stored, owner, eq_comm] using failed

theorem getFull_hidden (hidden : ∀ row, s.row? id = some row → Stored.psp row ≠ psp) :
    s.getFull psp id = .error .recordNotFound := by
  rw [getFull, get]
  cases stored : s.row? id with
  | none => rfl
  | some row => simp only [if_neg (hidden row stored)]

end TransactionStore

/-- What is shown of an authorization has the id it was asked for and the amount that is stored. -/
theorem AuthorizationStore.getFull_ok {s : AuthorizationStore} {psp : String} {id : Uuid}
    {a : Authorization} (found : s.getFull psp id = .ok a) :
    ∃ row, s.row? id = some row ∧ a.id = id ∧ a.amount = row.amount := by
  obtain ⟨row, stored, isRow, _, rfl⟩ := TransactionStore.getFull_shows found
  exact ⟨row, stored, isRow, rfl⟩

namespace CaptureStore

variable {s t : CaptureStore}

theorem create_ok {c : Capture} {seen : CaptureSummary} (done : s.create c seen = .ok t) :
    t.ofAuthorization c.authorizationId = s.ofAuthorization c.authorizationId ++ [c] ∧
      ∃ current, s.summary c.authorizationId = .ok current ∧ current.same seen = true := by
  rw [create] at done
  cases summary : s.summary c.authorizationId with
  | error e => simp [summary] at done
  | ok current =>
      simp only [summary] at done
      by_cases same : current.same seen = true
      · rw [if_pos same] at done
        cases done
        exact ⟨by simp [ofAuthorization, List.filter_append], current, rfl, same⟩
      · simp [same] at done

theorem update_ok {c : Capture} (done : s.update c = .ok t) :
    RowChanged (fun row => row.authorizationId = c.authorizationId ∧ row.id = c.id)
      (fun row => { row with status := c.status })
      (s.ofAuthorization c.authorizationId) (t.ofAuthorization c.authorizationId) := by
  rw [update] at done
  split at done
  · next captures changed =>
      cases done
      obtain ⟨front, row, back, split, splitAfter, found⟩ := Table.changeFirst_split _ _ _ _ changed
      have rowChanged : RowChanged (fun row => row.authorizationId = c.authorizationId ∧
          row.id = c.id) (fun row => { row with status := c.status }) s.captures captures :=
        ⟨front, row, back, split, splitAfter, of_decide_eq_true found⟩
      exact rowChanged.filter _ (fun _ isRow => decide_eq_true isRow.1) fun _ => rfl
  · cases done

theorem update_other {c : Capture} {id : Uuid} (done : s.update c = .ok t)
    (other : c.authorizationId ≠ id) : t.ofAuthorization id = s.ofAuthorization id := by
  rw [update] at done
  split at done
  · next captures changed =>
      cases done
      obtain ⟨front, row, back, split, splitAfter, found⟩ := Table.changeFirst_split _ _ _ _ changed
      have rowChanged : RowChanged (fun row => row.authorizationId = c.authorizationId)
          (fun row => { row with status := c.status }) s.captures captures :=
        ⟨front, row, back, split, splitAfter, (of_decide_eq_true found).1⟩
      exact rowChanged.filter_other _
        (fun _ own => decide_eq_false fun same => other (own.symm.trans same)) fun _ => rfl
  · cases done

theorem update_error {c : Capture} {id : Uuid} (failed : ∃ e, s.update c = .error e)
    (account : c.authorizationId = id) : ∀ row ∈ s.ofAuthorization id, row.id ≠ c.id := by
  subst account
  obtain ⟨e, failed⟩ := failed
  rw [update] at failed
  split at failed
  · cases failed
  · next missing =>
      intro row member same
      obtain ⟨stored, own⟩ := List.mem_filter.mp member
      have unmatched := Table.changeFirst_none _ _ _ missing row stored
      exact absurd ⟨of_decide_eq_true own, same⟩ (of_decide_eq_false unmatched)

end CaptureStore

namespace ReversalStore

variable {s t : ReversalStore}

theorem pending_eq_false {id : Uuid} (none : s.pending id = false) :
    ∀ row ∈ s.ofAuthorization id, row.status = .failed := by
  intro row member
  have failed := List.any_eq_false.mp none row member
  simpa using failed

theorem create_ok {r : Reversal} (done : s.create r = .ok t) :
    t.ofAuthorization r.authorizationId = s.ofAuthorization r.authorizationId ++ [r.row] ∧
      ∀ row ∈ s.ofAuthorization r.authorizationId, row.status = .failed := by
  rw [create] at done
  by_cases pending : s.pending r.authorizationId = true
  · simp [pending] at done
  · rw [if_neg pending] at done
    cases done
    have own : r.row.authorizationId = r.authorizationId := rfl
    refine ⟨?_, pending_eq_false (Bool.eq_false_iff.mpr pending)⟩
    simp [ofAuthorization, List.filter_append, own]

theorem update_ok {r : Reversal} (done : s.update r = .ok t) :
    RowChanged (fun row => row.authorizationId = r.authorizationId ∧ row.id = r.id)
      (fun row => { row with status := r.status, response := r.response })
      (s.ofAuthorization r.authorizationId) (t.ofAuthorization r.authorizationId) := by
  rw [update] at done
  split at done
  · next rows changed =>
      cases done
      obtain ⟨front, row, back, split, splitAfter, found⟩ := Table.changeFirst_split _ _ _ _ changed
      have rowChanged : RowChanged (fun row => row.authorizationId = r.authorizationId ∧
          row.id = r.id) (fun row => { row with status := r.status, response := r.response })
          s.rows rows :=
        ⟨front, row, back, split, splitAfter, of_decide_eq_true found⟩
      exact rowChanged.filter _ (fun _ isRow => decide_eq_true isRow.1) fun _ => rfl
  · cases done

theorem update_error {r : Reversal} {id : Uuid} (failed : ∃ e, s.update r = .error e)
    (account : r.authorizationId = id) : ∀ row ∈ s.ofAuthorization id, row.id ≠ r.id := by
  subst account
  obtain ⟨e, failed⟩ := failed
  rw [update] at failed
  split at failed
  · cases failed
  · next missing =>
      intro row member same
      obtain ⟨stored, own⟩ := List.mem_filter.mp member
      have unmatched := Table.changeFirst_none _ _ _ missing row stored
      exact absurd ⟨of_decide_eq_true own, same⟩ (of_decide_eq_false unmatched)

theorem create_other {r : Reversal} {id : Uuid} (done : s.create r = .ok t)
    (other : r.authorizationId ≠ id) : t.ofAuthorization id = s.ofAuthorization id := by
  rw [create] at done
  split at done
  · cases done
  · cases done
    have away : ¬ r.row.authorizationId = id := other
    simp [ofAuthorization, away]

theorem update_other {r : Reversal} {id : Uuid} (done : s.update r = .ok t)
    (other : r.authorizationId ≠ id) : t.ofAuthorization id = s.ofAuthorization id := by
  rw [update] at done
  split at done
  · next rows changed =>
      cases done
      obtain ⟨front, row, back, split, splitAfter, found⟩ := Table.changeFirst_split _ _ _ _ changed
      have rowChanged : RowChanged (fun row => row.authorizationId = r.authorizationId)
          (fun row => { row with status := r.status, response := r.response }) s.rows rows :=
        ⟨front, row, back, split, splitAfter, (of_decide_eq_true found).1⟩
      exact rowChanged.filter_other _
        (fun _ own => decide_eq_false fun same => other (own.symm.trans same)) fun _ => rfl
  · cases done

end ReversalStore

def Call.IsRead : Call → Prop
  | .detokenize .. => True
  | .authorizations .. => True
  | .authorization .. => True
  | .refunds .. => True
  | .refund .. => True
  | .captureSummary _ => True
  | .finalCaptureExists _ => True
  | .refundCaptureSummary _ => True
  | .alreadyReversed _ => True
  | .reversalExists _ => True
  | .reversals _ => True
  | _ => False

namespace Stores

theorem answer_read (s : Stores) (call : Call) (reads : call.IsRead) : (s.answer call).2 = s := by
  cases call <;> first | rfl | cases reads

/-- What no outcome of a change touches is as it was. -/
theorem changed_view {σ β : Type} {s : Stores} {put : σ → Stores} {result : Except PaymentError σ}
    (view : Stores → β) (kept : ∀ store, view (put store) = view s) :
    view (s.changed put result).2 = view s := by
  cases result with
  | ok store => exact kept store
  | error e => rfl

theorem changed_cases {σ : Type} (s : Stores) (put : σ → Stores)
    (result : Except PaymentError σ) :
    (∃ e, s.changed put result = (.error e, s)) ∨
      ∃ store, result = .ok store ∧ s.changed put result = (.ok (), put store) := by
  cases result with
  | ok store => exact Or.inr ⟨store, rfl, rfl⟩
  | error e => exact Or.inl ⟨e, rfl⟩

end Stores

def Call.WritesCaptures : Call → Prop
  | .createCapture .. => True
  | .createRefundCapture .. => True
  | .updateCapture _ => True
  | _ => False

def Call.WritesReversals : Call → Prop
  | .createReversal _ => True
  | .updateReversal _ => True
  | _ => False

namespace Stores

theorem answer_captures (s : Stores) (call : Call) (other : ¬ call.WritesCaptures) :
    (s.answer call).2.captures = s.captures := by
  by_cases reads : call.IsRead
  · rw [s.answer_read call reads]
  · cases call with
    | tokenize merchant card =>
        simp only [answer]
        split <;> rfl
    | _ =>
        first
        | exact absurd trivial reads
        | exact absurd trivial other
        | exact changed_view Stores.captures fun _ => rfl
        | rfl

theorem answer_reversals (s : Stores) (call : Call) (other : ¬ call.WritesReversals) :
    (s.answer call).2.reversals = s.reversals := by
  by_cases reads : call.IsRead
  · rw [s.answer_read call reads]
  · cases call with
    | tokenize merchant card =>
        simp only [answer]
        split <;> rfl
    | _ =>
        first
        | exact absurd trivial reads
        | exact absurd trivial other
        | exact changed_view Stores.reversals fun _ => rfl
        | rfl

end Stores
end CardPayments
