import CardPayments.Proofs.Csv.Numerals

/-! # Amounts in files

The amount cell of a record decides nothing but the amount: the record is read as it is with an
empty cell in its place, or refused.  A numeral in that cell is read as its number when it is short,
and any other way of reading it is told by the numeral alone. -/
set_option autoImplicit false

namespace CardPayments

def Command.withAmount (a : Decimal) (c : Command) : Command := { c with amount := some a }

namespace Csv

/-- How a result depends on the reading of a cell: it is the one without the cell, but for the
amount, or an error when the cell cannot be read. -/
def Decides {ε α : Type} (set : Decimal → α → α) (read : Option Decimal)
    (result without : Except ε α) : Prop :=
  match read with
  | some a => result = without.map (set a)
  | none => ∃ fault, result = .error fault

section

variable {ε α β : Type} {set : Decimal → α → α} {read : Option Decimal}

/-- An error that has another reason. -/
theorem decides_error (set : Decimal → α → α) (read : Option Decimal) (fault : ε) :
    Decides set read (.error fault) (.error fault) := by
  cases read with
  | none => exact ⟨fault, rfl⟩
  | some a => rfl

theorem Decides.bind {set' : Decimal → β → β} {result without : Except ε α} {f : α → Except ε β}
    (decides : Decides set read result without)
    (keeps : ∀ a x, f (set a x) = (f x).map (set' a)) :
    Decides set' read (result.bind f) (without.bind f) := by
  cases read with
  | none =>
      obtain ⟨fault, rfl⟩ := decides
      exact ⟨fault, rfl⟩
  | some a =>
      obtain rfl : result = without.map (set a) := decides
      cases without with
      | error fault => rfl
      | ok x => exact keeps a x

end

/-! ## Columns -/

namespace Draft

def withAmount (a : Decimal) (d : Draft) : Draft := { d with amount := some (some a) }

theorem finish_withAmount (a : Decimal) (d : Draft) :
    (d.withAmount a).finish = d.finish.map (Command.withAmount a) := by
  obtain ⟨kind, psp, reference, scheme, pan, amount, currency, isFinal, exemption⟩ := d
  cases kind with
  | none => rfl
  | some kind =>
      cases psp with
      | none => rfl
      | some psp =>
          cases reference with
          | none => rfl
          | some reference => rfl

theorem has_withAmount {d : Draft} (present : d.has .amount = true) (a : Decimal)
    (column : Column) : (d.withAmount a).has column = d.has column := by
  cases column with
  | amount => exact present.symm
  | _ => rfl

variable {d e : Draft} {index : ℕ} {cell : Option String} {column : Column}

/-- A column other than the amount is read whatever the amount is. -/
theorem read_withAmount (a : Decimal) (other : column ≠ .amount) :
    (d.withAmount a).read index cell column =
      (d.read index cell column).map (withAmount a) := by
  have map_map {α : Type} (x : Except ReadFault α) (f : α → Draft) :
      (x.map f).map (withAmount a) = x.map fun v => (f v).withAmount a := by
    cases x <;> rfl
  cases column with
  | amount => exact absurd rfl other
  | _ =>
      rw [Draft.read, Draft.read, map_map]
      rfl

theorem has_read (other : column ≠ .amount) (read : d.read index cell column = .ok e) :
    e.has .amount = d.has .amount := by
  have of_map {α : Type} {x : Except ReadFault α} {f : α → Draft}
      (ok : x.map f = .ok e) (keeps : ∀ v, (f v).has .amount = d.has .amount) :
      e.has .amount = d.has .amount := by
    cases x with
    | error fault => cases ok
    | ok v =>
        cases ok
        exact keeps v
  cases column with
  | amount => exact absurd rfl other
  | _ =>
      rw [Draft.read] at read
      exact of_map read fun _ => rfl

end Draft

theorem readColumns_withAmount (a : Decimal) {d : Draft} (present : d.has .amount = true)
    (index : ℕ) (columns : List (Option Column)) (cells : List String) :
    readColumns (d.withAmount a) index columns cells =
      (readColumns d index columns cells).map (Draft.withAmount a) := by
  induction columns generalizing d index cells with
  | nil => rfl
  | cons column columns ih =>
      cases column with
      | none =>
          cases cells with
          | nil => rfl
          | cons cell cells => exact ih present (index + 1) cells
      | some column =>
          rw [readColumns, readColumns, d.has_withAmount present]
          split
          · rfl
          · next fresh =>
              have other : column ≠ .amount := by
                rintro rfl
                exact fresh present
              rw [Draft.read_withAmount a other]
              cases read : d.read index cells.head? column with
              | error fault => rfl
              | ok e => exact ih ((Draft.has_read other read).trans present) (index + 1) cells.tail

/-- Whatever the columns around it are, the amount cell decides the amount only. -/
theorem readColumns_decides {text : String} (filled : text ≠ "") (d : Draft) (index : ℕ)
    {front : List (Option Column)} {cells : List String} (same : front.length = cells.length)
    (back : List (Option Column)) (rest : List String) :
    Decides Draft.withAmount (readAmount text)
      (readColumns d index (front ++ some .amount :: back) (cells ++ text :: rest))
      (readColumns d index (front ++ some .amount :: back) (cells ++ "" :: rest)) := by
  induction front generalizing d index cells with
  | nil =>
      obtain rfl := List.length_eq_zero_iff.mp same.symm
      rw [List.nil_append, List.nil_append, List.nil_append, readColumns, readColumns]
      split
      · exact decides_error _ _ _
      · rw [List.head?_cons, List.head?_cons, Draft.read, Draft.read, optional, optional,
          if_neg filled, if_pos rfl, readable]
        cases readAmount text with
        | none => exact ⟨_, rfl⟩
        | some a =>
            have present : Draft.has { d with amount := some none } .amount = true := rfl
            exact readColumns_withAmount a present (index + 1) back rest
  | cons column front ih =>
      cases cells with
      | nil => cases same
      | cons cell cells =>
          have shorter : front.length = cells.length := Nat.succ.inj same
          cases column with
          | none => exact ih d (index + 1) shorter
          | some column =>
              rw [List.cons_append, List.cons_append, List.cons_append, readColumns, readColumns]
              split
              · exact decides_error _ _ _
              · rw [List.head?_cons, List.head?_cons]
                cases d.read index (some cell) column with
                | error fault => exact decides_error _ _ _
                | ok e => exact ih e (index + 1) shorter

/-! ## Records -/

/-- The amount has this place under a header; a header that is no text leaves the columns in their
own order. -/
def IsAmountColumn (header : Except ReadFault (List String)) (k : ℕ) : Prop :=
  match header with
  | .ok names => names[k]? = some "amount"
  | .error _ => k = 5

instance (header : Except ReadFault (List String)) (k : ℕ) : Decidable (IsAmountColumn header k) :=
  match header with
  | .ok names => inferInstanceAs (Decidable (names[k]? = some "amount"))
  | .error _ => inferInstanceAs (Decidable (k = 5))

theorem decodeCells_replaced {raw raw' : List UInt8} {text text' : String}
    (decoded : decodeCell raw = some text) (decoded' : decodeCell raw' = some text') (index : ℕ)
    (before after : List (List UInt8)) :
    (∃ fault, decodeCells index (before ++ raw :: after) = .error fault ∧
      decodeCells index (before ++ raw' :: after) = .error fault) ∨
    ∃ front back, front.length = before.length ∧
      decodeCells index (before ++ raw :: after) = .ok (front ++ text :: back) ∧
      decodeCells index (before ++ raw' :: after) = .ok (front ++ text' :: back) := by
  induction before generalizing index with
  | nil =>
      rw [List.nil_append, List.nil_append, decodeCells, decodeCells, decoded, decoded']
      cases decodeCells (index + 1) after with
      | error fault => exact Or.inl ⟨fault, rfl, rfl⟩
      | ok back => exact Or.inr ⟨[], back, rfl, rfl, rfl⟩
  | cons cell before ih =>
      rw [List.cons_append, List.cons_append, decodeCells, decodeCells]
      cases decodeCell cell with
      | none => exact Or.inl ⟨_, rfl, rfl⟩
      | some cell =>
          rcases ih (index + 1) with ⟨fault, failed, failed'⟩ | ⟨front, back, length, read, read'⟩
          · rw [failed, failed']
            exact Or.inl ⟨fault, rfl, rfl⟩
          · rw [read, read']
            exact Or.inr ⟨cell :: front, back, by simp [length], rfl, rfl⟩

theorem command_eq (header cells : List String) :
    command header cells =
      (readColumns .empty 0 (header.map Column.ofName?) cells).bind Draft.finish := by
  rw [command]
  cases readColumns .empty 0 (header.map Column.ofName?) cells <;> rfl

theorem commandInOrder_eq (cells : List String) :
    commandInOrder cells =
      (readColumns .empty 0 ((Column.all.take cells.length).map some) cells).bind fun d =>
        if cells.length < Column.all.length then .error .misnamed else d.finish := by
  rw [commandInOrder]
  cases readColumns .empty 0 ((Column.all.take cells.length).map some) cells <;> rfl

/-- The amount cell decides only the amount of its record. -/
theorem readRecord_decides {header : Except ReadFault (List String)}
    {before : List (List UInt8)} {raw : List UInt8} (after : List (List UInt8)) {text : String}
    (column : IsAmountColumn header before.length) (decoded : decodeCell raw = some text)
    (filled : text ≠ "") :
    Decides Command.withAmount (readAmount text) (readRecord header (before ++ raw :: after))
      (readRecord header (before ++ [] :: after)) := by
  have blank : decodeCell [] = some "" := by decide
  rw [readRecord, readRecord]
  rcases decodeCells_replaced decoded blank 0 before after with
    ⟨fault, failed, failed'⟩ | ⟨front, back, length, read, read'⟩
  · rw [failed, failed']
    exact decides_error _ _ _
  · rw [read, read']
    cases header with
    | ok names =>
        obtain ⟨short, named⟩ := List.getElem?_eq_some_iff.mp
          (show names[before.length]? = some "amount" from column)
        have split : names = names.take before.length ++
            "amount" :: names.drop (before.length + 1) := by
          rw [← named, List.cons_getElem_drop_succ, List.take_append_drop]
        have isAmount : Column.ofName? "amount" = some .amount := by decide
        have same : ((names.take before.length).map Column.ofName?).length = front.length := by
          rw [List.length_map, List.length_take, length]
          omega
        dsimp only
        rw [command_eq, command_eq, split, List.map_append, List.map_cons, isAmount]
        exact (readColumns_decides filled .empty 0 same _ back).bind Draft.finish_withAmount
    | error fault =>
        have place : front.length = 5 := length.trans column
        have count (text : String) : (front ++ text :: back).length = back.length + 6 := by
          rw [List.length_append, List.length_cons, place]
          omega
        have columns : (Column.all.take (back.length + 6)).map some =
            [Column.kind, .psp, .reference, .scheme, .pan].map some ++ some .amount ::
              ([Column.currency, .isFinal, .exemption].take back.length).map some :=
          rfl
        have same : ([Column.kind, .psp, .reference, .scheme, .pan].map some).length =
            front.length := place.symm
        dsimp only
        rw [commandInOrder_eq, commandInOrder_eq, count, count, columns]
        refine (readColumns_decides filled .empty 0 same _ back).bind fun a d => ?_
        split
        · rfl
        · exact d.finish_withAmount a

/-! ## Files -/

theorem readRecords_getElem? (header : Except ReadFault (List String)) (number : ℕ)
    (rows : List (List (List UInt8))) (i : ℕ) :
    (readRecords header number rows)[i]? =
      rows[i]?.map fun row => (readRecord header row).mapError (⟨·, number + i⟩) := by
  induction rows generalizing number i with
  | nil => rfl
  | cons row rows ih =>
      rw [readRecords]
      cases i with
      | zero =>
          rw [List.getElem?_cons_zero, List.getElem?_cons_zero, Option.map_some]
          cases readRecord header row <;> rfl
      | succ i =>
          rw [List.getElem?_cons_succ, List.getElem?_cons_succ, ih, Nat.add_right_comm,
            Nat.add_assoc]

/-- The amount cell of a record in a file. -/
structure AmountCell where
  file : List UInt8
  header : List (List UInt8)
  rows : List (List (List UInt8))
  records : ofBytes file = header :: rows
  /-- The record among those behind the header. -/
  index : ℕ
  before : List (List UInt8)
  raw : List UInt8
  after : List (List UInt8)
  row : rows[index]? = some (before ++ raw :: after)
  column : IsAmountColumn (decodeCells 0 header) before.length

namespace AmountCell

variable (cell : AmountCell)

def read : Option (Except ReadError Command) := (commands cell.file)[cell.index]?

def without : Except ReadError Command :=
  (readRecord (decodeCells 0 cell.header) (cell.before ++ [] :: cell.after)).mapError
    (⟨·, cell.index + 1⟩)

/-- The record is read with a decimal of this number as its amount, and otherwise as it is with an
empty one; or it is refused, where there is no number. -/
def Yields : Option ℚ → Prop
  | some q => ∃ a : Decimal, a.number = q ∧
      cell.read = some (cell.without.map (Command.withAmount a))
  | none => ∃ fault, cell.read = some (.error ⟨fault, cell.index + 1⟩)

variable {cell}

theorem yields_of_decoded {text : String} (decoded : decodeCell cell.raw = some text)
    (filled : text ≠ "") : cell.Yields ((readAmount text).map Decimal.number) := by
  have decides := readRecord_decides cell.after cell.column decoded filled
  have read : cell.read = some ((readRecord (decodeCells 0 cell.header)
      (cell.before ++ cell.raw :: cell.after)).mapError (⟨·, cell.index + 1⟩)) := by
    rw [AmountCell.read, commands, cell.records]
    dsimp only
    rw [readRecords_getElem?, cell.row, Option.map_some, Nat.add_comm]
  cases amount : readAmount text with
  | none =>
      rw [amount] at decides
      obtain ⟨fault, failed⟩ := decides
      exact ⟨fault, by rw [read, failed]; rfl⟩
  | some a =>
      rw [amount] at decides
      refine ⟨a, rfl, ?_⟩
      rw [read, decides, without]
      cases readRecord (decodeCells 0 cell.header) (cell.before ++ [] :: cell.after) <;> rfl

end AmountCell

end Csv

/-- Every plain numeral whose number a decimal can hold is read by its number alone, wherever its
amount cell stands.  The number is kept when it has no point and fits into 64 bits, or has a point
and at most fifteen digits that count.  Otherwise the record is refused when there is no point, and
when there is one the amount is off by at most one part in `2 ^ 51`, or refused near the limit. -/
theorem amount_cells_keep_fifteen_digits (n : Csv.PlainNumeral) (held : n.IsHeld)
    (cell : Csv.AmountCell) (written : Csv.decodeCell cell.raw = some n.text) :
    cell.Yields n.kept ∧ (n.IsShort → n.kept = some n.number) ∧
      (∀ q, n.kept = some q → |q - n.number| ≤ |n.number| / 2 ^ 51) ∧
      (n.kept = none → n.fraction = none ∧ ¬ n.FitsWord ∨
        (Decimal.limit : ℚ) ≤ |n.number| * (1 + 1 / 2 ^ 51)) := by
  have read := cell.yields_of_decoded written (n.text_ne (by decide))
  rw [Csv.PlainNumeral.readAmount_text held] at read
  exact ⟨read, Csv.PlainNumeral.kept_of_isShort held, fun q => Csv.PlainNumeral.kept_near held,
    Csv.PlainNumeral.of_kept_none held⟩

namespace Amounts.Sample

open Csv

def bytes (s : String) : List UInt8 := s.toList.map fun c => .ofNat c.toNat

def file : List UInt8 :=
  ["type,psp,reference,amount\n", "echo,p,a, 12.50 \n", "echo,p,b,18446744073709551616\n",
    "echo,p,c,0.1234567890123456789\n"].flatMap bytes

def header : List (List UInt8) := ["type", "psp", "reference", "amount"].map bytes

def rows : List (List (List UInt8)) :=
  [["echo", "p", "a", " 12.50 "], ["echo", "p", "b", "18446744073709551616"],
    ["echo", "p", "c", "0.1234567890123456789"]].map (·.map bytes)

def cell (index : ℕ) (reference amount : String)
    (row : rows[index]? = some (["echo", "p", reference].map bytes ++ [bytes amount])) :
    AmountCell where
  file := file
  header := header
  rows := rows
  records := by decide +kernel
  index := index
  before := ["echo", "p", reference].map bytes
  raw := bytes amount
  after := []
  row := row
  column := by
    have names : decodeCells 0 header = .ok ["type", "psp", "reference", "amount"] := by rfl
    rw [names]
    rfl

def price : PlainNumeral := ⟨.none, [1, 2], by decide, some [5, 0]⟩

def priceCell : AmountCell := cell 0 "a" " 12.50 " rfl

/-- Two to the power of 64. -/
def tooWide : PlainNumeral :=
  ⟨.none, [1, 8, 4, 4, 6, 7, 4, 4, 0, 7, 3, 7, 0, 9, 5, 5, 1, 6, 1, 6], by decide, none⟩

def wideCell : AmountCell := cell 1 "b" "18446744073709551616" rfl

/-- Nineteen digits behind the point. -/
def tooLong : PlainNumeral :=
  ⟨.none, [0], by decide, some [1, 2, 3, 4, 5, 6, 7, 8, 9, 0, 1, 2, 3, 4, 5, 6, 7, 8, 9]⟩

def longCell : AmountCell := cell 2 "c" "0.1234567890123456789" rfl

theorem price_isHeld : price.IsHeld := ⟨⟨1250, 2, by decide, by decide⟩, by decide +kernel⟩

end Amounts.Sample

open Amounts.Sample in
/-- An amount of four digits between blanks. -/
theorem amount_cells_keep_fifteen_digits_price :
    price.IsHeld ∧ price.IsShort ∧ Csv.decodeCell priceCell.raw = some price.text ∧
      ∃ a : Decimal, a.number = 25 / 2 ∧
        priceCell.read = some (.ok ⟨.echo, "p", "a", none, none, some a, none, none, none⟩) := by
  have written : Csv.decodeCell priceCell.raw = some price.text := by decide +kernel
  have number : price.number = 25 / 2 := by decide +kernel
  have short : price.IsShort := ⟨125, -1, by norm_num, by rw [number]; norm_num⟩
  obtain ⟨yields, kept, _⟩ :=
    amount_cells_keep_fifteen_digits price price_isHeld priceCell written
  rw [kept short] at yields
  obtain ⟨a, value, read⟩ := yields
  have without : priceCell.without =
      .ok ⟨.echo, "p", "a", none, none, none, none, none, none⟩ := by decide +kernel
  rw [without] at read
  exact ⟨price_isHeld, short, written, a, value.trans number, read⟩

open Amounts.Sample in
/-- A decimal could hold either number; the first one is refused, and of the second one two digits
are lost. -/
theorem long_amounts_are_not_kept :
    (tooWide.IsHeld ∧ Csv.decodeCell wideCell.raw = some tooWide.text ∧
      wideCell.read = some (.error ⟨.unreadable "18446744073709551616", 2⟩)) ∧
    tooLong.IsHeld ∧ Csv.decodeCell longCell.raw = some tooLong.text ∧
      ∃ a : Decimal, a.number ≠ tooLong.number ∧
        longCell.read = some (.ok ⟨.echo, "p", "c", none, none, some a, none, none, none⟩) := by
  have wideHeld : tooWide.IsHeld :=
    ⟨⟨18446744073709551616, 0, by decide, by decide⟩, by decide +kernel⟩
  have longHeld : tooLong.IsHeld :=
    ⟨⟨1234567890123456789, 19, by decide, by decide⟩, by decide +kernel⟩
  refine ⟨⟨wideHeld, by decide +kernel, by decide +kernel⟩, longHeld, by decide +kernel,
    ⟨12345678901234568, 17, by decide, by decide⟩, by decide +kernel, by decide +kernel⟩

end CardPayments
