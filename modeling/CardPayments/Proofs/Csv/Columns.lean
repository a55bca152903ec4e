import Mathlib.Data.Fin.VecNotation
import Mathlib.Data.List.FinRange
import Mathlib.Order.Fin.Basic
import CardPayments.Proofs.Csv.Skipped

/-! # Columns in any order

Every column reads a cell of its own into a field of its own, and no column reads a second cell.  So
two columns with their cells can be read in either order, with the same command or without any; and
so can all columns of a record with a cell for each of them. -/
set_option autoImplicit false

namespace CardPayments.Csv

/-! ## One column -/

namespace Column

def Value : Column → Type
  | .kind => CommandKind
  | .psp => String
  | .reference => String
  | .scheme => Option String
  | .pan => Option String
  | .amount => Option Decimal
  | .currency => Option String
  | .isFinal => Option Bool
  | .exemption => Option Exemption

/-- What a column holds when this cell, at this index, is its own. -/
def value (index : Nat) (cell : String) : (column : Column) → Except ReadFault column.Value
  | .kind => readable CommandKind.ofName? cell
  | .psp => .ok cell
  | .reference => .ok cell
  | .scheme => optional (some cell) .ok
  | .pan => optional (some cell) .ok
  | .amount => optional (some cell) (readable readAmount)
  | .currency => optional (some cell) .ok
  | .isFinal => optional (some cell) (readFinal index)
  | .exemption => optional (some cell) (readable Exemption.ofName?)

def value? (cell : String) (column : Column) : Option column.Value :=
  (column.value 0 cell).toOption

/-- The index of a cell is only for the fault. -/
theorem toOption_value (index : Nat) (cell : String) (column : Column) :
    (column.value index cell).toOption = column.value? cell := by
  cases column with
  | isFinal =>
      simp only [value?, value, optional, readFinal]
      split
      · rfl
      · split
        · rfl
        · split <;> rfl
  | _ => rfl

end Column

namespace Draft

def put (d : Draft) : (column : Column) → column.Value → Draft
  | .kind, v => { d with kind := some v }
  | .psp, v => { d with psp := some v }
  | .reference, v => { d with reference := some v }
  | .scheme, v => { d with scheme := some v }
  | .pan, v => { d with pan := some v }
  | .amount, v => { d with amount := some v }
  | .currency, v => { d with currency := some v }
  | .isFinal, v => { d with isFinal := some v }
  | .exemption, v => { d with exemption := some v }

theorem read_eq (d : Draft) (index : Nat) (cell : String) (column : Column) :
    d.read index (some cell) column = (column.value index cell).map (d.put column) := by
  cases column <;> rfl

theorem has_put (d : Draft) (column : Column) (v : column.Value) : (d.put column v).has column := by
  cases column <;> rfl

theorem has_put_of_ne (d : Draft) {column other : Column} (v : column.Value)
    (apart : column ≠ other) : (d.put column v).has other = d.has other := by
  cases column <;> cases other <;> first | rfl | exact absurd rfl apart

theorem put_comm (d : Draft) {column other : Column} (v : column.Value) (w : other.Value)
    (apart : column ≠ other) :
    (d.put column v).put other w = (d.put other w).put column v := by
  cases column <;> cases other <;> first | rfl | exact absurd rfl apart

/-- The draft with one more column and its cell; nothing when the column was read before, or when it
cannot hold the cell. -/
def take (d : Draft) : Option Column × String → Option Draft
  | (none, _) => some d
  | (some column, cell) =>
      if d.has column then none else (column.value? cell).map (d.put column)

theorem take_known (d : Draft) (column : Column) (cell : String) :
    d.take (some column, cell) =
      if d.has column then none else (column.value? cell).map (d.put column) :=
  rfl

theorem take_twice (d : Draft) (column : Column) (cell cell' : String) :
    (d.take (some column, cell)).bind (·.take (some column, cell')) = none := by
  rw [take_known]
  split
  · rfl
  · cases column.value? cell with
    | none => rfl
    | some v => simp [take_known, has_put]

theorem take_put (d : Draft) {column other : Column} (v : column.Value) (cell : String)
    (apart : column ≠ other) :
    (d.put column v).take (some other, cell) =
      (d.take (some other, cell)).map fun e => e.put column v := by
  rw [take_known, take_known, has_put_of_ne d v apart]
  split
  · rfl
  · rw [Option.map_map]
    congr 1
    funext w
    exact put_comm d v w apart

theorem take_cases (d : Draft) (column : Column) (cell : String) :
    d.take (some column, cell) = none ∨
      ∃ v, d.take (some column, cell) = some (d.put column v) := by
  rw [take_known]
  split
  · exact Or.inl rfl
  · cases column.value? cell with
    | none => exact Or.inl rfl
    | some v => exact Or.inr ⟨v, rfl⟩

/-- Of two columns neither matters to the other, unless they are the same; then both fail. -/
theorem take_comm (d : Draft) (x y : Option Column × String) :
    (d.take x).bind (·.take y) = (d.take y).bind (·.take x) := by
  obtain ⟨known, cell⟩ := x
  obtain ⟨known', cell'⟩ := y
  cases known with
  | none => simp [take]
  | some column =>
      cases known' with
      | none => simp [take]
      | some other =>
          by_cases same : column = other
          · subst same
            rw [take_twice, take_twice]
          · rcases d.take_cases column cell with refused | ⟨v, taken⟩ <;>
              rcases d.take_cases other cell' with refused' | ⟨w, taken'⟩
            · rw [refused, refused']
              rfl
            · rw [refused, taken', Option.bind_some, take_put d w cell (Ne.symm same), refused]
              rfl
            · rw [taken, refused', Option.bind_some, take_put d v cell' same, refused']
              rfl
            · rw [taken, taken', Option.bind_some, Option.bind_some, take_put d v cell' same,
                taken', take_put d w cell (Ne.symm same), taken, Option.map_some, Option.map_some,
                put_comm d v w same]

end Draft

/-! ## All columns of a record -/

variable {columns columns' : List (Option Column × String)}

def takeAll (d : Option Draft) (columns : List (Option Column × String)) : Option Draft :=
  columns.foldl (fun d column => d.bind (·.take column)) d

theorem takeAll_perm (same : columns.Perm columns') (d : Option Draft) :
    takeAll d columns = takeAll d columns' := by
  refine same.foldl_eq' (fun x _ y _ d => ?_) d
  cases d with
  | none => rfl
  | some d => exact d.take_comm x y

theorem takeAll_none : takeAll none columns = none := by
  induction columns with
  | nil => rfl
  | cons column columns ih => exact ih

/-- A record with a cell for each of its columns is read one column with its cell at a time. -/
theorem toOption_readColumns (columns : List (Option Column × String)) (d : Draft) (index : Nat) :
    (readColumns d index (columns.map Prod.fst) (columns.map Prod.snd)).toOption =
      takeAll (some d) columns := by
  induction columns generalizing d index with
  | nil => rfl
  | cons column columns ih =>
      obtain ⟨known, cell⟩ := column
      change _ = takeAll (d.take (known, cell)) columns
      cases known with
      | none => exact ih d (index + 1)
      | some column =>
          simp only [List.map_cons, readColumns, List.head?_cons, List.tail_cons]
          rw [Draft.take_known, ← column.toOption_value index]
          split
          · exact takeAll_none.symm
          · rw [d.read_eq]
            cases column.value index cell with
            | error fault => exact takeAll_none.symm
            | ok v => exact ih (d.put column v) (index + 1)

theorem toOption_command (names cells : List String) (sameLength : names.length = cells.length) :
    (command names cells).toOption =
      (takeAll (some .empty) ((names.map Column.ofName?).zip cells)).bind Draft.command := by
  have whole := toOption_readColumns ((names.map Column.ofName?).zip cells) .empty 0
  rw [List.map_fst_zip (by simp [sameLength]), List.map_snd_zip (by simp [sameLength])] at whole
  rw [← whole, command]
  cases readColumns .empty 0 (names.map Column.ofName?) cells with
  | error fault => rfl
  | ok d =>
      simp only [Draft.finish, Except.toOption, Option.bind_some]
      cases d.command <;> rfl

/-! ## Texts of cells -/

theorem decodeCells_ofFn {n : Nat} {bytes : Fin n → List UInt8} {cells : Fin n → String}
    (decodes : ∀ i, decodeCell (bytes i) = some (cells i)) (index : Nat) :
    decodeCells index (List.ofFn bytes) = .ok (List.ofFn cells) := by
  induction n generalizing index with
  | zero => simp [decodeCells]
  | succ n ih =>
      rw [List.ofFn_succ, List.ofFn_succ, decodeCells, decodes 0]
      simp only [ih (fun i => decodes i.succ) (index + 1)]

theorem decodeCells_error {bytes : List (List UInt8)} {cell : List UInt8} (inside : cell ∈ bytes)
    (noText : decodeCell cell = none) (index : Nat) :
    (decodeCells index bytes).toOption = none := by
  induction bytes generalizing index with
  | nil => cases inside
  | cons first bytes ih =>
      rw [decodeCells]
      rcases List.mem_cons.mp inside with rfl | later
      · rw [noText]
        rfl
      · have failed := ih later (index + 1)
        cases decodeCell first with
        | none => rfl
        | some text =>
            cases rest : decodeCells (index + 1) bytes with
            | ok cells => rw [rest] at failed; cases failed
            | error fault => rfl

theorem decodeCells_cases {n : Nat} (bytes : Fin n → List UInt8) :
    (∃ cells : Fin n → String, ∀ i, decodeCell (bytes i) = some (cells i)) ∨
      ∃ i, decodeCell (bytes i) = none := by
  by_cases every : ∀ i, ∃ cell, decodeCell (bytes i) = some cell
  · choose cells decodes using every
    exact Or.inl ⟨cells, decodes⟩
  · obtain ⟨i, noText⟩ := not_forall.mp every
    exact Or.inr ⟨i, Option.eq_none_iff_forall_ne_some.mpr (not_exists.mp noText)⟩

/-! ## Records -/

section

variable {n : Nat}

def reordered {α : Type} (σ : Equiv.Perm (Fin n)) (row : Fin n → α) : List α :=
  List.ofFn (row ∘ σ)

theorem zip_ofFn {α β : Type} (f : Fin n → α) (g : Fin n → β) :
    (List.ofFn f).zip (List.ofFn g) = List.ofFn fun i => (f i, g i) := by
  apply List.ext_getElem <;> simp

theorem toOption_command_reordered (names cells : Fin n → String) (σ : Equiv.Perm (Fin n)) :
    (command (reordered σ names) (reordered σ cells)).toOption =
      (command (List.ofFn names) (List.ofFn cells)).toOption := by
  rw [toOption_command _ _ (by simp [reordered]), toOption_command _ _ (by simp), reordered,
    reordered, List.map_ofFn, List.map_ofFn, zip_ofFn, zip_ofFn]
  exact congrArg (·.bind Draft.command)
    (takeAll_perm (σ.ofFn_comp_perm fun i => (Column.ofName? (names i), cells i)) _)

theorem readRecord_noText (header : Except ReadFault (List String)) {record : List (List UInt8)}
    {cell : List UInt8} (inside : cell ∈ record) (noText : decodeCell cell = none) :
    (readRecord header record).toOption = none := by
  have failed := decodeCells_error inside noText 0
  rw [readRecord]
  cases decoded : decodeCells 0 record with
  | ok cells => rw [decoded] at failed; cases failed
  | error fault => rfl

variable {header : Fin n → List UInt8} {names : List String}

theorem toOption_readRecord_reordered (isText : decodeCells 0 (List.ofFn header) = .ok names)
    (record : Fin n → List UInt8) (σ : Equiv.Perm (Fin n)) :
    (readRecord (decodeCells 0 (reordered σ header)) (reordered σ record)).toOption =
      (readRecord (decodeCells 0 (List.ofFn header)) (List.ofFn record)).toOption := by
  rcases decodeCells_cases header with ⟨texts, decodes⟩ | ⟨i, noText⟩
  · rcases decodeCells_cases record with ⟨cells, decodes'⟩ | ⟨i, noText⟩
    · have reorders {bytes : Fin n → List UInt8} {cells : Fin n → String}
          (decodes : ∀ i, decodeCell (bytes i) = some (cells i)) :
          decodeCells 0 (reordered σ bytes) = .ok (reordered σ cells) :=
        decodeCells_ofFn (fun i => decodes (σ i)) 0
      rw [readRecord, readRecord, reorders decodes', decodeCells_ofFn decodes', reorders decodes,
        decodeCells_ofFn decodes]
      exact toOption_command_reordered texts cells σ
    · have there : record i ∈ reordered σ record :=
        List.mem_ofFn.mpr ⟨σ.symm i, by simp⟩
      rw [readRecord_noText _ there noText,
        readRecord_noText _ (List.mem_ofFn.mpr ⟨i, rfl⟩) noText]
  · have failed := decodeCells_error (List.mem_ofFn.mpr ⟨i, rfl⟩) noText 0
    rw [isText] at failed
    cases failed

theorem toOption_readRecords_cons (header : Except ReadFault (List String)) (number : Nat)
    (record : List (List UInt8)) (rest : List (List (List UInt8))) :
    (readRecords header number (record :: rest)).map Except.toOption =
      (readRecord header record).toOption ::
        (readRecords header (number + 1) rest).map Except.toOption := by
  rw [readRecords, List.map_cons]
  cases readRecord header record <;> rfl

theorem toOption_readRecords_reordered (isText : decodeCells 0 (List.ofFn header) = .ok names)
    (σ : Equiv.Perm (Fin n)) (number : Nat) (records : List (Fin n → List UInt8)) :
    (readRecords (decodeCells 0 (reordered σ header)) number
      (records.map (reordered σ))).map Except.toOption =
    (readRecords (decodeCells 0 (List.ofFn header)) number
      (records.map List.ofFn)).map Except.toOption := by
  induction records generalizing number with
  | nil => rfl
  | cons record records ih =>
      rw [List.map_cons, List.map_cons, toOption_readRecords_cons, toOption_readRecords_cons,
        toOption_readRecord_reordered isText, ih]

end
end Csv

/-- Whatever a header names, unknown columns and the same one twice included: with its columns in
another order, and those of all records in the same one, exactly the same records are accepted, as
the same commands.  So files with these records have the same commands. -/
theorem columns_in_any_order {n : Nat} (header : Fin n → List UInt8) (names : List String)
    (isText : Csv.decodeCells 0 (List.ofFn header) = .ok names)
    (records : List (Fin n → List UInt8)) (σ : Equiv.Perm (Fin n)) :
    (∀ number,
      (Csv.readRecords (Csv.decodeCells 0 (Csv.reordered σ header)) number
        (records.map (Csv.reordered σ))).map Except.toOption =
      (Csv.readRecords (Csv.decodeCells 0 (List.ofFn header)) number
        (records.map List.ofFn)).map Except.toOption) ∧
    ∀ file file' : List UInt8,
      Csv.ofBytes file = List.ofFn header :: records.map List.ofFn →
      Csv.ofBytes file' = Csv.reordered σ header :: records.map (Csv.reordered σ) →
      (Csv.commands file').map Except.toOption = (Csv.commands file).map Except.toOption := by
  refine ⟨fun number => Csv.toOption_readRecords_reordered isText σ number records, ?_⟩
  intro file file' written written'
  rw [Csv.commands, Csv.commands, written, written']
  exact Csv.toOption_readRecords_reordered isText σ 1 records

namespace Csv.Sample

/-- A column that is unknown occurs twice. -/
def columns : Fin 6 → List UInt8 :=
  ![bytes "note", bytes "type", bytes " psp", bytes "reference", bytes "final", bytes "note"]

def rows : List (Fin 6 → List UInt8) :=
  [![bytes "x", bytes "capture", bytes "psp", bytes "a", bytes " true", bytes "y"],
    ![bytes "x", bytes "pay", bytes "psp", bytes "a", bytes "", bytes "y"]]

def lines (records : List (List (List UInt8))) : List UInt8 :=
  records.flatMap fun cells => line cells ++ [0x0A]

end Csv.Sample

open Csv.Sample in
/-- The columns from right to left. -/
theorem columns_in_any_order_backwards :
    (Csv.commands (lines (Csv.reordered Fin.revPerm columns ::
      rows.map (Csv.reordered Fin.revPerm)))).map Except.toOption =
    [some ⟨.capture, "psp", "a", none, none, none, none, some true, none⟩, none] := by
  have texts : Csv.decodeCells 0 (List.ofFn columns) =
      .ok ["note", "type", "psp", "reference", "final", "note"] := by rfl
  have same := (columns_in_any_order columns _ texts rows Fin.revPerm).2
    (lines (List.ofFn columns :: rows.map List.ofFn)) _ (by decide +kernel)
    (by decide +kernel : Csv.ofBytes (lines (Csv.reordered Fin.revPerm columns ::
      rows.map (Csv.reordered Fin.revPerm))) = _)
  rw [same]
  decide +kernel

end CardPayments
