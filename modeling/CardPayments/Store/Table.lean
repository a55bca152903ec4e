import CardPayments.Uuid

/-! # Tables

A table is the list of its rows in the order they were stored.  Changing a row changes the first one
that matches and leaves all others, and their order, as they are. -/
set_option autoImplicit false

namespace CardPayments.Table

variable {α : Type}

/-- The table with its first matching row changed; nothing when no row matches. -/
def changeFirst (isMatch : α → Bool) (change : α → α) : List α → Option (List α)
  | [] => none
  | row :: rest =>
      if isMatch row then some (change row :: rest)
      else
        match changeFirst isMatch change rest with
        | some changed => some (row :: changed)
        | none => none

theorem changeFirst_isSome (isMatch : α → Bool) (change : α → α) (rows : List α) :
    (changeFirst isMatch change rows).isSome = rows.any isMatch := by
  induction rows with
  | nil => rfl
  | cons row rest ih =>
      by_cases found : isMatch row = true
      · simp [changeFirst, found]
      · simp only [changeFirst, found, List.any_cons, Bool.false_or, Bool.false_eq_true, if_false]
        rw [← ih]
        cases changeFirst isMatch change rest <;> rfl

/-- The rows in the order in which a table that is kept by id comes to be looked through: nobody
says which one that is.  The ids in `order` come first, and the others as they were stored. -/
def enumerate (id : α → Uuid) (order : List Uuid) (rows : List α) : List α :=
  rows.mergeSort fun a b => order.idxOf (id a) ≤ order.idxOf (id b)

theorem enumerate_perm (id : α → Uuid) (order : List Uuid) (rows : List α) :
    (enumerate id order rows).Perm rows := List.mergeSort_perm _ _

end CardPayments.Table
