import CardPayments.Proofs.Store.Rows

/-! # Images of tables

Changing the first matching row of a table changes the first matching row of its image, when rows
are copied one by one, and of the rows that are kept, when the matching ones are among them.  A
store of transactions answers the same, but for the copying, when only what is kept under certain
ids is left of it; and what is left out does not show when it changes. -/
set_option autoImplicit false

namespace CardPayments

namespace Table

variable {α β : Type} {isMatch : α → Bool} {change : α → α}

theorem changeFirst_map (f : α → β) {isImage : β → Bool} {changeImage : β → β}
    (found : ∀ row, isImage (f row) = isMatch row)
    (changed : ∀ row, changeImage (f row) = f (change row)) (rows : List α) :
    changeFirst isImage changeImage (rows.map f) =
      (changeFirst isMatch change rows).map (List.map f) := by
  induction rows with
  | nil => rfl
  | cons row rest ih =>
      rw [List.map_cons, changeFirst, changeFirst, found, ih]
      split
      · rw [changed]
        rfl
      · cases changeFirst isMatch change rest <;> rfl

variable {keep : α → Bool}

theorem changeFirst_filter (change : α → α)
    (kept : ∀ row, isMatch row = true → keep row = true)
    (stays : ∀ row, isMatch row = true → keep (change row) = true) (rows : List α) :
    changeFirst isMatch change (rows.filter keep) =
      (changeFirst isMatch change rows).map (List.filter keep) := by
  induction rows with
  | nil => rfl
  | cons row rest ih =>
      rw [List.filter_cons, changeFirst]
      cases found : isMatch row with
      | true =>
          rw [if_pos (kept row found), changeFirst, found]
          simp [stays row found]
      | false =>
          rw [if_neg Bool.false_ne_true]
          cases kept : keep row with
          | true =>
              rw [if_pos rfl, changeFirst, found, if_neg Bool.false_ne_true, ih]
              cases changeFirst isMatch change rest with
              | none => rfl
              | some changed => simp [kept]
          | false =>
              rw [if_neg Bool.false_ne_true, ih]
              cases changeFirst isMatch change rest with
              | none => rfl
              | some changed => simp [kept]

/-- Both at once: the kept rows are copied. -/
theorem changeFirst_kept (f : α → β) {isImage : β → Bool} {changeImage : β → β}
    (kept : ∀ row, isMatch row = true → keep row = true)
    (stays : ∀ row, isMatch row = true → keep (change row) = true)
    (found : ∀ row, isImage (f row) = isMatch row)
    (changed : ∀ row, changeImage (f row) = f (change row)) (rows : List α) :
    changeFirst isImage changeImage ((rows.filter keep).map f) =
      (changeFirst isMatch change rows).map fun rows => (rows.filter keep).map f := by
  rw [changeFirst_map f found changed, changeFirst_filter change kept stays, Option.map_map]
  rfl

/-- Rows that are left out do not show when they change. -/
theorem filter_changeFirst (keep : α → Bool)
    (other : ∀ row, isMatch row = true → keep row = false)
    (stays : ∀ row, isMatch row = true → keep (change row) = false) {rows changed : List α}
    (done : changeFirst isMatch change rows = some changed) :
    changed.filter keep = rows.filter keep := by
  induction rows generalizing changed with
  | nil => cases done
  | cons row rest ih =>
      rw [changeFirst] at done
      cases found : isMatch row with
      | true =>
          rw [found, if_pos rfl] at done
          cases done
          simp [other row found, stays row found]
      | false =>
          rw [found, if_neg Bool.false_ne_true] at done
          cases tail : changeFirst isMatch change rest with
          | none =>
              rw [tail] at done
              cases done
          | some more =>
              rw [tail] at done
              cases done
              rw [List.filter_cons, List.filter_cons, ih tail]

theorem find?_filter (kept : ∀ row, isMatch row = true → keep row = true) (rows : List α) :
    (rows.filter keep).find? isMatch = rows.find? isMatch := by
  have both : (fun row => decide (keep row = true ∧ isMatch row = true)) = isMatch := by
    funext row
    cases found : isMatch row with
    | true => simp [kept row found]
    | false => simp
  rw [List.find?_filter, both]

variable {κ : Type} [BEq κ]

theorem lookup_map (f : α → β) (key : κ) (entries : List (κ × α)) :
    (entries.map fun e => (e.1, f e.2)).lookup key = (entries.lookup key).map f := by
  induction entries with
  | nil => rfl
  | cons e rest ih =>
      rw [List.map_cons, List.lookup_cons, List.lookup_cons, ih]
      cases key == e.1 <;> rfl

theorem lookup_filter [LawfulBEq κ] (keep : κ → Bool) {key : κ} (kept : keep key = true)
    (entries : List (κ × α)) :
    (entries.filter fun e => keep e.1).lookup key = entries.lookup key := by
  induction entries with
  | nil => rfl
  | cons e rest ih =>
      rw [List.filter_cons, List.lookup_cons]
      cases found : key == e.1 with
      | true =>
          have isKept : keep e.1 = true := by rwa [← eq_of_beq found]
          rw [if_pos isKept, List.lookup_cons, found]
      | false =>
          split
          · rw [List.lookup_cons, found, ih]
          · exact ih

end Table

namespace TransactionStore

variable {α β : Type} [Stored α] {f : α → β} {g : SchemeData → SchemeData} {keep : Uuid → Bool}

/-- Entities are copied with what a store looks at, and their scheme data apart from them. -/
structure Copies [Stored β] (f : α → β) (g : SchemeData → SchemeData) : Prop where
  id : ∀ a, Stored.id (f a) = Stored.id a
  psp : ∀ a, Stored.psp (f a) = Stored.psp a
  createdAt : ∀ a, Stored.createdAt (f a) = Stored.createdAt a
  row : ∀ a, Stored.row (f a) = f (Stored.row a)
  decided : ∀ a x, Stored.decided (f a) (f x) = f (Stored.decided a x)
  withData : ∀ a data, Stored.withData (f a) (data.map g) = f (Stored.withData a data)
  checked : ∀ a scheme, SchemeData.checked (Stored.id (f a)) (Stored.schemeData (f a)) scheme =
    (SchemeData.checked (Stored.id a) (Stored.schemeData a) scheme).map g

/-- What is kept under some of the ids, copied. -/
def image (keep : Uuid → Bool) (f : α → β) (g : SchemeData → SchemeData)
    (s : TransactionStore α) : TransactionStore β :=
  ⟨(s.rows.filter fun a => keep (Stored.id a)).map f,
    (s.schemeData.filter fun e => keep e.1).map fun e => (e.1, g e.2)⟩

/-! ## Entities that are kept -/

section

variable [Stored β] (copies : Copies f g) (s : TransactionStore α)
include copies

theorem row?_image {id : Uuid} (kept : keep id = true) :
    (s.image keep f g).row? id = (s.row? id).map f := by
  have named : (fun b => decide (Stored.id b = id)) ∘ f = fun a => decide (Stored.id a = id) := by
    funext a
    simp only [Function.comp_apply, copies.id]
  rw [row?, row?, image, List.find?_map, named, Table.find?_filter]
  intro row isRow
  rwa [of_decide_eq_true isRow]

theorem create_image (a : α) (kept : keep (Stored.id a) = true) :
    (s.image keep f g).create (f a) = (s.create a).map (image keep f g) := by
  rw [create, create, copies.id, s.row?_image copies kept]
  cases s.row? (Stored.id a) with
  | some b => rfl
  | none =>
      have stored : keep (Stored.id (Stored.row a)) = true := by rwa [Stored.row_id]
      simp only [Option.map_none, Except.map, image, List.filter_append, List.map_append,
        List.filter_cons, stored, if_true, copies.row]
      rfl

theorem createData_image (scheme : Scheme) (a : α) (kept : keep (Stored.id a) = true) :
    (s.image keep f g).createData scheme (f a) =
      (s.createData scheme a).map (image keep f g) := by
  rw [createData, createData, copies.checked, copies.id]
  cases SchemeData.checked (Stored.id a) (Stored.schemeData a) scheme with
  | error e => rfl
  | ok d => simp only [Except.map, image, List.filter_cons, kept, if_true, List.map_cons]

theorem update_image (a : α) (kept : keep (Stored.id a) = true) :
    (s.image keep f g).update (f a) = (s.update a).map (image keep f g) := by
  have own (row : α) (isRow : decide (Stored.id row = Stored.id a) = true) :
      keep (Stored.id row) = true := by
    rwa [of_decide_eq_true isRow]
  have stays (row : α) (isRow : decide (Stored.id row = Stored.id a) = true) :
      keep (Stored.id (Stored.decided a row)) = true := by
    rw [Stored.decided_id]
    exact own row isRow
  have changed : Table.changeFirst (fun row => Stored.id row = Stored.id (f a))
        (Stored.decided (f a)) (s.image keep f g).rows =
      (Table.changeFirst (fun row => Stored.id row = Stored.id a) (Stored.decided a) s.rows).map
        fun rows => (rows.filter fun row => keep (Stored.id row)).map f :=
    Table.changeFirst_kept f own stays (fun row => by rw [copies.id, copies.id])
      (copies.decided a) s.rows
  rw [update, update, changed]
  cases Table.changeFirst (fun row => Stored.id row = Stored.id a) (Stored.decided a) s.rows <;> rfl

theorem getFull_image (psp : String) {id : Uuid} (kept : keep id = true) :
    (s.image keep f g).getFull psp id = (s.getFull psp id).map f := by
  have data : (s.image keep f g).schemeData.lookup id = (s.schemeData.lookup id).map g := by
    rw [image, Table.lookup_map, Table.lookup_filter keep kept]
  rw [getFull, get, s.row?_image copies kept, data, getFull, get]
  cases s.row? id with
  | none => rfl
  | some a =>
      by_cases shown : Stored.psp a = psp
      · simp only [Option.map_some, copies.psp, if_pos shown, Except.map, copies.withData]
      · simp only [Option.map_some, copies.psp, if_neg shown, Except.map]

theorem ofPsp_image {psp : String} (order : List Uuid)
    (kept : ∀ row ∈ s.rows, Stored.psp row = psp → keep (Stored.id row) = true) :
    (s.image keep f g).ofPsp psp order = (s.ofPsp psp order).map f := by
  have rows : (s.image keep f g).rows.filter (fun b => Stored.psp b = psp) =
      (s.rows.filter fun a => Stored.psp a = psp).map f := by
    rw [image, List.filter_map, List.filter_filter]
    congr 1
    refine List.filter_congr fun row stored => ?_
    by_cases own : Stored.psp row = psp
    · simp [own, kept row stored own, copies.psp]
    · simp [own, copies.psp]
  rw [ofPsp, ofPsp, rows, Table.enumerate, Table.enumerate, List.map_mergeSort,
    List.map_mergeSort]
  · exact fun _ _ _ _ => by rw [copies.id, copies.id]
  · exact fun _ _ _ _ => by rw [copies.createdAt, copies.createdAt]

end

/-! ## Stores of one image -/

section

variable [Stored β] (copies : Copies f g) {s t : TransactionStore α}
  (same : s.image keep f g = t.image keep f g)
include copies same

section

variable {a b : α} (alike : f a = f b) (kept : keep (Stored.id a) = true)
include alike kept

omit same in
theorem kept_of_alike : keep (Stored.id b) = true := by
  rwa [← copies.id b, ← alike, copies.id]

theorem create_alike :
    (s.create a).map (image keep f g) = (t.create b).map (image keep f g) := by
  rw [← s.create_image copies a kept, same, alike,
    t.create_image copies b (kept_of_alike copies alike kept)]

theorem createData_alike (scheme : Scheme) :
    (s.createData scheme a).map (image keep f g) =
      (t.createData scheme b).map (image keep f g) := by
  rw [← s.createData_image copies scheme a kept, same, alike,
    t.createData_image copies scheme b (kept_of_alike copies alike kept)]

theorem update_alike :
    (s.update a).map (image keep f g) = (t.update b).map (image keep f g) := by
  rw [← s.update_image copies a kept, same, alike,
    t.update_image copies b (kept_of_alike copies alike kept)]

end

theorem getFull_alike (psp : String) {id : Uuid} (kept : keep id = true) :
    (s.getFull psp id).map f = (t.getFull psp id).map f := by
  rw [← s.getFull_image copies psp kept, same, t.getFull_image copies psp kept]

theorem ofPsp_alike {psp : String} (order : List Uuid)
    (kept : ∀ row ∈ s.rows, Stored.psp row = psp → keep (Stored.id row) = true)
    (kept' : ∀ row ∈ t.rows, Stored.psp row = psp → keep (Stored.id row) = true) :
    (s.ofPsp psp order).map f = (t.ofPsp psp order).map f := by
  rw [← s.ofPsp_image copies order kept, same, t.ofPsp_image copies order kept']

end

/-! ## Entities that are left out -/

section

variable {s t : TransactionStore α} {a : α} (other : keep (Stored.id a) = false)
include other

theorem create_image_other (done : s.create a = .ok t) : t.image keep f g = s.image keep f g := by
  obtain ⟨_, rfl⟩ := create_ok done
  have stored : keep (Stored.id (Stored.row a)) = false := by rwa [Stored.row_id]
  simp [image, List.filter_append, stored]

theorem createData_image_other {scheme : Scheme} (done : s.createData scheme a = .ok t) :
    t.image keep f g = s.image keep f g := by
  obtain ⟨_, _, rfl⟩ := createData_ok done
  simp [image, other]

theorem update_image_other (done : s.update a = .ok t) : t.image keep f g = s.image keep f g := by
  rw [update] at done
  split at done
  · next rows changed =>
      cases done
      have hidden (row : α) (isRow : decide (Stored.id row = Stored.id a) = true) :
          keep (Stored.id row) = false := by
        rwa [of_decide_eq_true isRow]
      have stays (row : α) (isRow : decide (Stored.id row = Stored.id a) = true) :
          keep (Stored.id (Stored.decided a row)) = false := by
        rw [Stored.decided_id]
        exact hidden row isRow
      rw [image, image,
        Table.filter_changeFirst (fun row => keep (Stored.id row)) hidden stays changed]
  · cases done

end

end TransactionStore
end CardPayments
