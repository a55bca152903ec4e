import CardPayments.Csv.Outcome
import CardPayments.Proofs.Csv.Written

/-! # Outcomes read back

The records that are written can be read: a cell with a mark in it stands between quotes, so its
commas and line ends are its own.  This is a matter of characters; in bytes every mark is one byte
and no other character has a byte that is a mark, so the bytes say the same.

A record of no cells, or of one empty cell, is a blank line, which reads as no record.  The outcomes
have six cells each, but for no outcomes nothing at all is written, not even the header. -/
set_option autoImplicit false

namespace CardPayments

/-! ## Characters -/

namespace Csv

@[simp] theorem charMark_eq_quote_iff (c : Char) : charMark c = .quote ↔ c = '"' := by
  constructor
  · intro quote
    rw [charMark, markOf] at quote
    split at quote
    · next code => exact Char.toNat_inj.mp code
    · split at quote
      · cases quote
      · split at quote <;> cases quote
  · rintro rfl
    decide

theorem doubled_charMark (s : List Char) :
    doubled charMark s = s.flatMap fun c => if c = '"' then ['"', '"'] else [c] := by
  rw [doubled]
  congr 1
  funext c
  by_cases quote : c = '"' <;> simp [quote]

theorem bare_of_unmarked {s : List Char} (unmarked : needsQuotes s = false) : Bare charMark s := by
  have other : ∀ c ∈ s, charMark c = .other := by
    intro c member
    simpa using List.any_eq_false.mp unmarked c member
  constructor
  · intro c member
    simp [other c member]
  · intro c isHead
    simp [other c (List.mem_of_head? isHead)]

theorem cell_cellToList (s : List Char) : Cell charMark s (cellToList s) := by
  rw [cellToList]
  split
  · have inner : Inner charMark s (doubled charMark s) := inner_doubled s
    have quoted := Cell.quoted '"' '"' (by decide) inner (by decide) bare_nil
    simpa [doubled_charMark] using quoted
  · next unmarked => exact .bare (bare_of_unmarked (by simpa using unmarked))

theorem row_joinCells (cells : List (List Char)) (written : cells ≠ []) :
    Row charMark cells (joinCells cells) := by
  induction cells with
  | nil => exact absurd rfl written
  | cons cell cells ih =>
      cases cells with
      | nil => exact .single (cell_cellToList cell)
      | cons next cells =>
          exact .cons (cell_cellToList cell) ',' (by decide) (ih (List.cons_ne_nil next cells))

/-- A record with something on its line. -/
def Shows (cells : List String) : Prop := cells ≠ [] ∧ cells ≠ [""]

theorem Shows.of_length {cells : List String} (many : 2 ≤ cells.length) : Shows cells := by
  constructor
  · rintro rfl
    simp at many
  · rintro rfl
    simp at many

theorem cellToList_ne_nil {s : List Char} (written : s ≠ []) : cellToList s ≠ [] := by
  rw [cellToList]
  split
  · simp
  · exact written

theorem Shows.joinCells_ne_nil {cells : List String} (shows : Shows cells) :
    joinCells (cells.map String.toList) ≠ [] := by
  obtain ⟨written, unlike⟩ := shows
  match cells with
  | [] => exact absurd rfl written
  | [cell] =>
      apply cellToList_ne_nil
      intro blank
      exact unlike (by rw [String.toList_eq_nil_iff.mp blank])
  | cell :: next :: cells => simp [joinCells]

theorem lines_recordToList {records : List (List String)} (shows : ∀ cells ∈ records, Shows cells) :
    Lines charMark (records.map (List.map String.toList)) (records.flatMap recordToList) := by
  induction records with
  | nil => exact .nil
  | cons cells records ih =>
      obtain ⟨first, others⟩ := List.forall_mem_cons.mp shows
      have row := row_joinCells (cells.map String.toList) (by simpa using first.1)
      have lines := Lines.cons row first.joinCells_ne_nil '\n' (by decide) (ih others)
      simpa [recordToList] using lines

theorem ofText_toText {records : List (List String)} (shows : ∀ cells ∈ records, Shows cells) :
    ofText (toText records) = records := by
  rw [ofText, toText, String.toList_ofList, (lines_recordToList shows).records_eq, List.map_map]
  simp [Function.comp_def]

/-! ## Bytes -/

section

variable {α β : Type} {mark : α → Mark} {mark' : β → Mark} {spell : α → List β}

/-- Between quotes, symbols other than a quote stand for themselves. -/
theorem Inner.append_front {front value text : List β} (inner : Inner mark' value text)
    (others : ∀ d ∈ front, mark' d ≠ .quote) : Inner mark' (front ++ value) (front ++ text) := by
  induction front with
  | nil => exact inner
  | cons d front ih =>
      obtain ⟨first, rest⟩ := List.forall_mem_cons.mp others
      exact .symbol d first (ih rest)

/-- Symbols spelled by others: every one of these has the mark of what it spells, and a mark is
spelled by a single one. -/
structure Spelling (mark : α → Mark) (mark' : β → Mark) (spell : α → List β) : Prop where
  mark_eq : ∀ c, ∀ d ∈ spell c, mark' d = mark c
  written : ∀ c, spell c ≠ []
  single : ∀ c, mark c ≠ .other → ∃ d, spell c = [d]

namespace Spelling

variable {rows : List (List (List α))} {values : List (List α)} {value text : List α} {c : α}

theorem exists_mark (spelling : Spelling mark mark' spell) {m : Mark} (isMark : mark c = m)
    (notOther : m ≠ .other) : ∃ d, spell c = [d] ∧ mark' d = m := by
  subst isMark
  obtain ⟨d, single⟩ := spelling.single c notOther
  exact ⟨d, single, spelling.mark_eq c d (by simp [single])⟩

theorem flatMap_ne_nil (spelling : Spelling mark mark' spell) (written : text ≠ []) :
    text.flatMap spell ≠ [] := by
  cases text with
  | nil => exact absurd rfl written
  | cons c text => simp [spelling.written c]

theorem bare (spelling : Spelling mark mark' spell) (bare : Bare mark text) :
    Bare mark' (text.flatMap spell) := by
  constructor
  · intro d member
    obtain ⟨c, inText, inSpelling⟩ := List.mem_flatMap.mp member
    rw [spelling.mark_eq c d inSpelling]
    exact bare.inside c inText
  · cases text with
    | nil => simp
    | cons c text =>
        obtain ⟨first, others, spelled⟩ := List.exists_cons_of_ne_nil (spelling.written c)
        intro d isHead
        rw [List.flatMap_cons, spelled] at isHead
        obtain rfl : first = d := Option.some.inj isHead
        rw [spelling.mark_eq c first (by simp [spelled])]
        exact bare.first c rfl

theorem inner (spelling : Spelling mark mark' spell) (inner : Inner mark value text) :
    Inner mark' (value.flatMap spell) (text.flatMap spell) := by
  induction inner with
  | nil => exact .nil
  | symbol c other _ ih =>
      rw [List.flatMap_cons, List.flatMap_cons]
      apply ih.append_front
      intro d member
      rw [spelling.mark_eq c d member]
      exact other
  | double c d first second _ ih =>
      obtain ⟨c', spelled, isFirst⟩ := spelling.exists_mark first (by decide)
      obtain ⟨d', spelled', isSecond⟩ := spelling.exists_mark second (by decide)
      simp only [List.flatMap_cons, spelled, spelled', List.singleton_append]
      exact .double c' d' isFirst isSecond ih

theorem cell (spelling : Spelling mark mark' spell) (cell : Cell mark value text) :
    Cell mark' (value.flatMap spell) (text.flatMap spell) := by
  cases cell with
  | bare bare => exact .bare (spelling.bare bare)
  | quoted c d opens inner closes bare =>
      obtain ⟨c', spelled, isFirst⟩ := spelling.exists_mark opens (by decide)
      obtain ⟨d', spelled', isSecond⟩ := spelling.exists_mark closes (by decide)
      simp only [List.flatMap_cons, List.flatMap_append, spelled, spelled', List.singleton_append]
      exact .quoted c' d' isFirst (spelling.inner inner) isSecond (spelling.bare bare)

theorem row (spelling : Spelling mark mark' spell) (row : Row mark values text) :
    Row mark' (values.map (List.flatMap spell)) (text.flatMap spell) := by
  induction row with
  | single cell => exact .single (spelling.cell cell)
  | cons cell c comma _ ih =>
      obtain ⟨c', spelled, isComma⟩ := spelling.exists_mark comma (by decide)
      simp only [List.map_cons, List.flatMap_append, List.flatMap_cons, spelled,
        List.singleton_append]
      exact .cons (spelling.cell cell) c' isComma ih

/-- Spelled records are the records of the spelled text. -/
theorem lines (spelling : Spelling mark mark' spell) (lines : Lines mark rows text) :
    Lines mark' (rows.map (List.map (List.flatMap spell))) (text.flatMap spell) := by
  induction lines with
  | nil => exact .nil
  | blank c ends _ ih =>
      obtain ⟨c', spelled, isEnd⟩ := spelling.exists_mark ends (by decide)
      rw [List.flatMap_cons, spelled, List.singleton_append]
      exact .blank c' isEnd ih
  | last row written => exact .last (spelling.row row) (spelling.flatMap_ne_nil written)
  | cons row written c ends _ ih =>
      obtain ⟨c', spelled, isEnd⟩ := spelling.exists_mark ends (by decide)
      simp only [List.map_cons, List.flatMap_append, List.flatMap_cons, spelled,
        List.singleton_append]
      exact .cons (spelling.row row) (spelling.flatMap_ne_nil written) c' isEnd ih

end Spelling

end

theorem markOf_of_le {code : Nat} (beyond : 128 ≤ code) : markOf code = .other := by
  have unlike : code ≠ 0x22 ∧ code ≠ 0x2C ∧ ¬ (code = 0x0A ∨ code = 0x0D) := by omega
  rw [markOf, if_neg unlike.1, if_neg unlike.2.1, if_neg unlike.2.2]

/-- A character beyond the first 128 has only bytes beyond them. -/
theorem le_of_mem_utf8EncodeChar {c : Char} (beyond : 128 ≤ c.toNat) :
    ∀ b ∈ String.utf8EncodeChar c, 128 ≤ b.toNat := by
  have notSingle : ¬ c.val.toNat ≤ 0x7f := Nat.not_le.mpr beyond
  rw [String.utf8EncodeChar, if_neg notSingle]
  split
  · simp only [List.forall_mem_cons, UInt8.toNat_ofNat']
    refine ⟨?_, ?_, nofun⟩ <;> omega
  · split
    · simp only [List.forall_mem_cons, UInt8.toNat_ofNat']
      refine ⟨?_, ?_, ?_, nofun⟩ <;> omega
    · simp only [List.forall_mem_cons, UInt8.toNat_ofNat']
      refine ⟨?_, ?_, ?_, ?_, nofun⟩ <;> omega

theorem utf8EncodeChar_of_lt {c : Char} (within : c.toNat < 128) :
    String.utf8EncodeChar c = [UInt8.ofNat c.toNat] := by
  have single : c.val.toNat ≤ 0x7f := Nat.le_of_lt_succ within
  rw [String.utf8EncodeChar, if_pos single]
  rfl

theorem charMark_of_le {c : Char} (beyond : 128 ≤ c.toNat) : charMark c = .other :=
  markOf_of_le beyond

theorem utf8_spelling : Spelling charMark byteMark String.utf8EncodeChar where
  mark_eq c b member := by
    by_cases within : c.toNat < 128
    · rw [utf8EncodeChar_of_lt within, List.mem_singleton] at member
      have code : b.toNat = c.toNat := by
        rw [member, UInt8.toNat_ofNat']
        omega
      rw [byteMark, code, charMark]
    · have beyond := Nat.le_of_not_lt within
      rw [charMark_of_le beyond]
      exact markOf_of_le (le_of_mem_utf8EncodeChar beyond b member)
  written _ := String.utf8EncodeChar_ne_nil
  single c isMark := by
    by_cases within : c.toNat < 128
    · exact ⟨_, utf8EncodeChar_of_lt within⟩
    · exact absurd (charMark_of_le (Nat.le_of_not_lt within)) isMark

def utf8 (s : String) : List UInt8 := s.toUTF8.data.toList

theorem utf8_ofList (s : List Char) : utf8 (String.ofList s) = s.flatMap String.utf8EncodeChar := by
  rw [utf8, String.toUTF8_eq_toByteArray, String.toByteArray_ofList, List.utf8Encode,
    List.toList_data_toByteArray]

theorem utf8_eq (s : String) : utf8 s = s.toList.flatMap String.utf8EncodeChar := by
  rw [← utf8_ofList, String.ofList_toList]

theorem ofBytes_toText {records : List (List String)} (shows : ∀ cells ∈ records, Shows cells)
    (unmarked : byteOrderMark.isPrefixOf (utf8 (toText records)) = false) :
    ofBytes (utf8 (toText records)) = records.map (List.map utf8) := by
  have spelled : List.map (List.flatMap String.utf8EncodeChar) ∘ List.map String.toList =
      List.map utf8 := by
    funext cells
    simp [utf8_eq]
  have lines := utf8_spelling.lines (lines_recordToList shows)
  rw [List.map_map, spelled, ← utf8_ofList] at lines
  exact (Written.bare lines unmarked).ofBytes_eq

end Csv

/-! ## Outcomes -/

namespace Outcome

def records : List Outcome → List (List String)
  | [] => []
  | o :: rest => header :: (o :: rest).map cells

theorem toText_eq (outcomes : List Outcome) : toText outcomes = Csv.toText (records outcomes) := by
  cases outcomes with
  | nil => rfl
  | cons o rest => rfl

theorem shows_of_mem_records (outcomes : List Outcome) :
    ∀ cells ∈ records outcomes, Csv.Shows cells := by
  cases outcomes with
  | nil => exact nofun
  | cons o rest =>
      intro written member
      rcases List.mem_cons.mp member with rfl | inRest
      · exact .of_length (by decide)
      · obtain ⟨o', _, rfl⟩ := List.mem_map.mp inRest
        exact .of_length (by simp [cells])

/-- A file of outcomes does not begin with a byte order mark: it begins with the header. -/
theorem unmarked (outcomes : List Outcome) :
    Csv.byteOrderMark.isPrefixOf (Csv.utf8 (toText outcomes)) = false := by
  cases outcomes with
  | nil => rfl
  | cons o rest =>
      have begins : Csv.recordToList header = 'r' :: (Csv.recordToList header).tail := by decide
      rw [toText_eq, records, Csv.toText, Csv.utf8_ofList, List.flatMap_cons, begins,
        List.cons_append, List.flatMap_cons]
      rfl

end Outcome

/-- Whatever the cells of outcomes hold, their file reads as the header and one record for each, in
order, with the cells as they were: in characters, and in bytes as a file of commands is read.  For
no outcomes the file is empty. -/
theorem outcomes_reread (outcomes : List Outcome) :
    Csv.ofText (Outcome.toText outcomes) = Outcome.records outcomes ∧
      Csv.ofBytes (Csv.utf8 (Outcome.toText outcomes)) =
        (Outcome.records outcomes).map (List.map Csv.utf8) ∧
      Outcome.toText [] = "" := by
  have shows := Outcome.shows_of_mem_records outcomes
  have unmarked := Outcome.unmarked outcomes
  rw [Outcome.toText_eq] at unmarked ⊢
  exact ⟨Csv.ofText_toText shows, Csv.ofBytes_toText shows unmarked, rfl⟩

/-- Of no outcomes not even the header is read. -/
theorem no_outcomes_no_header : ¬ ∀ outcomes : List Outcome,
    Csv.ofText (Outcome.toText outcomes) = Outcome.header :: outcomes.map Outcome.cells := by
  intro all
  have read := all []
  cases read

end CardPayments
