import CardPayments.Csv.Record

/-! # Written records

How records may be written: cells between commas, bare or in quotes, and records on lines that end
in any way, with blank lines among them.  Reading gives back the records that were written.  Only a
text that ends inside of quotes is not written so: there, no line end would end the last record. -/
set_option autoImplicit false

namespace CardPayments.Csv

section

variable {α : Type} (mark : α → Mark)

/-- What may stand outside of quotes. -/
structure Bare (text : List α) : Prop where
  inside : ∀ c ∈ text, mark c ≠ .comma ∧ mark c ≠ .lineEnd
  first : ∀ c ∈ text.head?, mark c ≠ .quote

/-- A value as it stands between quotes, with those of its own doubled. -/
inductive Inner : List α → List α → Prop
  | nil : Inner [] []
  | symbol {value text : List α} (c : α) (other : mark c ≠ .quote) (rest : Inner value text) :
      Inner (c :: value) (c :: text)
  | double {value text : List α} (c d : α) (first : mark c = .quote) (second : mark d = .quote)
      (rest : Inner value text) : Inner (d :: value) (c :: d :: text)

inductive Cell : List α → List α → Prop
  | bare {text : List α} (bare : Bare mark text) : Cell text text
  | quoted {value text tail : List α} (c d : α) (opens : mark c = .quote)
      (inner : Inner mark value text) (closes : mark d = .quote) (bare : Bare mark tail) :
      Cell (value ++ tail) (c :: (text ++ d :: tail))

inductive Row : List (List α) → List α → Prop
  | single {value text : List α} (cell : Cell mark value text) : Row [value] text
  | cons {value text : List α} {values : List (List α)} {rest : List α}
      (cell : Cell mark value text) (c : α) (comma : mark c = .comma) (row : Row values rest) :
      Row (value :: values) (text ++ c :: rest)

/-- Records and their text.  The last one need not have a line end. -/
inductive Lines : List (List (List α)) → List α → Prop
  | nil : Lines [] []
  | blank {rows : List (List (List α))} {text : List α} (c : α) (ends : mark c = .lineEnd)
      (lines : Lines rows text) : Lines rows (c :: text)
  | last {values : List (List α)} {text : List α} (row : Row mark values text)
      (written : text ≠ []) : Lines [values] text
  | cons {values : List (List α)} {rows : List (List (List α))} {text rest : List α}
      (row : Row mark values text) (written : text ≠ []) (c : α) (ends : mark c = .lineEnd)
      (lines : Lines rows rest) : Lines (values :: rows) (text ++ c :: rest)

variable {mark} {values : List (List α)} {rows : List (List (List α))} {value text : List α}

instance (text : List α) : Decidable (Bare mark text) :=
  decidable_of_iff ((∀ c ∈ text, mark c ≠ .comma ∧ mark c ≠ .lineEnd) ∧
    ∀ c ∈ text.head?, mark c ≠ .quote)
    ⟨fun both => ⟨both.1, both.2⟩, fun bare => ⟨bare.inside, bare.first⟩⟩

theorem bare_nil : Bare mark [] := ⟨nofun, nofun⟩

def doubled (mark : α → Mark) (value : List α) : List α :=
  value.flatMap fun c => if mark c = .quote then [c, c] else [c]

/-- Any value can be written between quotes. -/
theorem inner_doubled (value : List α) : Inner mark value (doubled mark value) := by
  induction value with
  | nil => exact .nil
  | cons c value ih =>
      by_cases quote : mark c = .quote
      · simpa [doubled, quote] using Inner.double c c quote quote ih
      · simpa [doubled, quote] using Inner.symbol c quote ih

theorem row_of_bare {c : α} (comma : mark c = .comma) {cells : List (List α)} (written : cells ≠ [])
    (bare : ∀ cell ∈ cells, Bare mark cell) : Row mark cells ([c].intercalate cells) := by
  induction cells with
  | nil => exact absurd rfl written
  | cons cell cells ih =>
      obtain ⟨first, others⟩ := List.forall_mem_cons.mp bare
      cases cells with
      | nil => simpa using Row.single (.bare first)
      | cons next cells =>
          have rest := ih (List.cons_ne_nil next cells) others
          simpa [List.intercalate] using Row.cons (.bare first) c comma rest

theorem Cell.head_ne_lineEnd (cell : Cell mark value text) :
    ∀ c ∈ text.head?, mark c ≠ .lineEnd := by
  intro c isHead
  cases cell with
  | bare bare => exact (bare.inside c (List.mem_of_head? isHead)).2
  | quoted first _ opens =>
      obtain rfl : first = c := Option.some.inj isHead
      simp [opens]

theorem Row.head_ne_lineEnd (row : Row mark values text) : ∀ c ∈ text.head?, mark c ≠ .lineEnd := by
  cases row with
  | single cell => exact cell.head_ne_lineEnd
  | @cons value text values rest cell comma isComma row =>
      intro c isHead
      cases text with
      | nil =>
          obtain rfl : comma = c := Option.some.inj isHead
          simp [isComma]
      | cons first text => exact cell.head_ne_lineEnd c isHead

/-! ## The machine on written text -/

namespace Machine

variable {done : List (List (List α))} {cells : List (List α)} {cell : List α}
  {position : Position} {c : α}

/-- Outside of quotes; nothing was read of a cell at its start. -/
structure Outside (cell : List α) (position : Position) : Prop where
  unquoted : position ≠ .quoted
  fresh : position = .start → cell = []

theorem step_outside (outside : Outside cell position) (other : mark c ≠ .quote) :
    step mark (.within done cells cell position) c = stepOutside mark done cells cell c := by
  cases position with
  | start =>
      rw [outside.fresh rfl, step, stepFirst]
      split
      · next quote => exact absurd quote other
      · rfl
  | plain => rfl
  | quoted => exact absurd rfl outside.unquoted
  | closed =>
      rw [step]
      split
      · next quote => exact absurd quote other
      · rfl

theorem step_comma (outside : Outside cell position) (comma : mark c = .comma) :
    step mark (.within done cells cell position) c =
      .within done (cell.reverse :: cells) [] .start := by
  rw [step_outside outside (by simp [comma]), stepOutside, comma]

theorem step_lineEnd (outside : Outside cell position) (ends : mark c = .lineEnd) :
    step mark (.within done cells cell position) c =
      .between ((cell.reverse :: cells).reverse :: done) := by
  rw [step_outside outside (by simp [ends]), stepOutside, ends]
  rfl

theorem stepOutside_inside (inside : mark c ≠ .comma ∧ mark c ≠ .lineEnd) :
    stepOutside mark done cells cell c = .within done cells (c :: cell) .plain := by
  rw [stepOutside]
  split
  · next comma => exact absurd comma inside.1
  · next ends => exact absurd ends inside.2
  · rfl

theorem step_quoted (other : mark c ≠ .quote) :
    step mark (.within done cells cell .quoted) c = .within done cells (c :: cell) .quoted := by
  rw [step]
  split
  · next quote => exact absurd quote other
  · rfl

variable (done) (cells)

theorem run_plain (inside : ∀ c ∈ text, mark c ≠ .comma ∧ mark c ≠ .lineEnd) :
    text.foldl (step mark) (.within done cells cell .plain) =
      .within done cells (text.reverse ++ cell) .plain := by
  induction text generalizing cell with
  | nil => rfl
  | cons c text ih =>
      obtain ⟨first, others⟩ := List.forall_mem_cons.mp inside
      rw [List.foldl_cons, step, stepOutside_inside first, ih others, List.reverse_cons,
        List.append_assoc, List.singleton_append]

theorem run_bare (outside : Outside cell position) (bare : Bare mark text) :
    ∃ after, text.foldl (step mark) (.within done cells cell position) =
      .within done cells (text.reverse ++ cell) after ∧ Outside (text.reverse ++ cell) after := by
  cases text with
  | nil => exact ⟨position, rfl, outside⟩
  | cons c text =>
      obtain ⟨first, others⟩ := List.forall_mem_cons.mp bare.inside
      refine ⟨.plain, ?_, nofun, nofun⟩
      rw [List.foldl_cons, step_outside outside (bare.first c rfl), stepOutside_inside first,
        run_plain _ _ others, List.reverse_cons, List.append_assoc, List.singleton_append]

theorem run_inner (inner : Inner mark value text) :
    text.foldl (step mark) (.within done cells cell .quoted) =
      .within done cells (value.reverse ++ cell) .quoted := by
  induction inner generalizing cell with
  | nil => rfl
  | symbol c other _ ih =>
      rw [List.foldl_cons, step_quoted other, ih, List.reverse_cons, List.append_assoc,
        List.singleton_append]
  | double c d first second _ ih =>
      rw [List.foldl_cons, List.foldl_cons, step, first, step, second, ih, List.reverse_cons,
        List.append_assoc, List.singleton_append]

theorem run_cell (written : Cell mark value text) :
    ∃ after, text.foldl (step mark) (.within done cells [] .start) =
      .within done cells value.reverse after ∧ Outside value.reverse after := by
  cases written with
  | bare bare =>
      have start : Outside ([] : List α) .start := ⟨nofun, fun _ => rfl⟩
      simpa only [List.append_nil] using run_bare done cells start bare
  | @quoted value text tail c d opens inner closes bare =>
      have closed : Outside value.reverse .closed := ⟨nofun, nofun⟩
      obtain ⟨after, run, outside⟩ := run_bare done cells closed bare
      rw [← List.reverse_append] at run outside
      refine ⟨after, ?_, outside⟩
      rw [List.foldl_cons, step, stepFirst, opens, List.foldl_append, run_inner _ _ inner,
        List.append_nil, List.foldl_cons, step, closes, run]

theorem run_row (row : Row mark values text) :
    ∃ read last after, text.foldl (step mark) (.within done cells [] .start) =
      .within done read last after ∧ Outside last after ∧
        (last.reverse :: read).reverse = cells.reverse ++ values := by
  induction row generalizing cells with
  | @single value text written =>
      obtain ⟨after, run, outside⟩ := run_cell done cells written
      exact ⟨cells, value.reverse, after, run, outside, by simp⟩
  | @cons value text values rest written c comma row ih =>
      obtain ⟨position, run, outside⟩ := run_cell done cells written
      obtain ⟨read, last, after, runRest, outsideRest, all⟩ := ih (value :: cells)
      refine ⟨read, last, after, ?_, outsideRest, by rw [all]; simp⟩
      rw [List.foldl_append, run, List.foldl_cons, step_comma outside comma, List.reverse_reverse,
        runRest]

/-- Between two records nothing was read of the next one. -/
theorem run_between (written : text ≠ []) (head : ∀ c ∈ text.head?, mark c ≠ .lineEnd) :
    text.foldl (step mark) (.between done) =
      text.foldl (step mark) (.within done [] [] .start) := by
  cases text with
  | nil => exact absurd rfl written
  | cons c text =>
      have first : step mark (.between done) c = step mark (.within done [] [] .start) c := by
        rw [step, step]
        split
        · next ends => exact absurd ends (head c rfl)
        · rfl
      rw [List.foldl_cons, List.foldl_cons, first]

theorem run_record (row : Row mark values text) (written : text ≠ []) :
    ∃ read last after, text.foldl (step mark) (.between done) = .within done read last after ∧
      Outside last after ∧ (last.reverse :: read).reverse = values := by
  rw [run_between done written row.head_ne_lineEnd]
  exact run_row done [] row

theorem run_lines (lines : Lines mark rows text) :
    (text.foldl (step mark) (.between done)).finish = done.reverse ++ rows := by
  induction lines generalizing done with
  | nil => simp [finish]
  | blank c ends _ ih =>
      rw [List.foldl_cons, step, ends]
      exact ih done
  | last row written =>
      obtain ⟨read, last, after, run, _, all⟩ := run_record done row written
      rw [run, finish, all, List.reverse_cons]
  | cons row written c ends _ ih =>
      obtain ⟨read, last, after, run, outside, all⟩ := run_record done row written
      rw [List.foldl_append, run, List.foldl_cons, step_lineEnd outside ends, all, ih,
        List.reverse_cons, List.append_assoc, List.singleton_append]

end Machine

theorem Lines.records_eq (lines : Lines mark rows text) : records mark text = rows :=
  Machine.run_lines [] lines

/-! ## Closed quotes -/

inductive Rest (mark : α → Mark) : List α → Prop
  | nil : Rest mark []
  | stop {rows : List (List (List α))} {text : List α} (c : α) (ends : mark c = .lineEnd)
      (lines : Lines mark rows text) : Rest mark (c :: text)

def RowAt (mark : α → Mark) (text : List α) : Prop :=
  ∃ values front back, text = front ++ back ∧ Row mark values front ∧ Rest mark back

inductive CellEnd (mark : α → Mark) : List α → Prop
  | last {text : List α} (rest : Rest mark text) : CellEnd mark text
  | comma {text : List α} (c : α) (comma : mark c = .comma) (row : RowAt mark text) :
      CellEnd mark (c :: text)

theorem RowAt.of_cell {front back : List α} (cell : Cell mark value front)
    (rest : CellEnd mark back) : RowAt mark (front ++ back) := by
  cases rest with
  | last rest => exact ⟨[value], front, back, rfl, .single cell, rest⟩
  | @comma text c comma row =>
      obtain ⟨values, front', back', rfl, row, rest⟩ := row
      exact ⟨value :: values, front ++ c :: front', back', by simp, .cons cell c comma row, rest⟩

theorem RowAt.lines {c : α} (row : RowAt mark (c :: text)) (other : mark c ≠ .lineEnd) :
    ∃ rows, Lines mark rows (c :: text) := by
  obtain ⟨values, front, back, split, row, rest⟩ := row
  have written : front ≠ [] := by
    rintro rfl
    cases rest with
    | nil => cases split
    | stop d ends =>
        obtain rfl : c = d := List.head_eq_of_cons_eq split
        exact other ends
  rw [split]
  cases rest with
  | nil => exact ⟨[values], by simpa using Lines.last row written⟩
  | stop d ends lines => exact ⟨_, .cons row written d ends lines⟩

namespace Machine

/-- What stands ahead of the machine, when the quotes are closed. -/
def Ahead (mark : α → Mark) : Machine α → List α → Prop
  | .between _, text => ∃ rows, Lines mark rows text
  | .within _ _ _ .start, text => RowAt mark text
  | .within _ _ _ .plain, text => ∃ front back, text = front ++ back ∧
      (∀ c ∈ front, mark c ≠ .comma ∧ mark c ≠ .lineEnd) ∧ CellEnd mark back
  | .within _ _ _ .quoted, text => ∃ value front c tail back, text = front ++ c :: (tail ++ back) ∧
      Inner mark value front ∧ mark c = .quote ∧ Bare mark tail ∧ CellEnd mark back
  | .within _ _ _ .closed, text =>
      (∃ tail back, text = tail ++ back ∧ Bare mark tail ∧ CellEnd mark back) ∨
      ∃ c value front d tail back, text = c :: (front ++ d :: (tail ++ back)) ∧ mark c = .quote ∧
        Inner mark value front ∧ mark d = .quote ∧ Bare mark tail ∧ CellEnd mark back

variable {done : List (List (List α))} {cells : List (List α)} {cell : List α}
  {position : Position} {c : α}

/-- Ahead of a symbol outside of quotes. -/
theorem ahead_stepOutside (ahead : Ahead mark (stepOutside mark done cells cell c) text)
    (other : mark c ≠ .quote) :
    ∃ front back, c :: text = front ++ back ∧ Bare mark front ∧ CellEnd mark back := by
  cases isMark : mark c with
  | quote => exact absurd isMark other
  | comma =>
      rw [stepOutside, isMark] at ahead
      exact ⟨[], c :: text, rfl, bare_nil, .comma c isMark ahead⟩
  | lineEnd =>
      rw [stepOutside, isMark] at ahead
      obtain ⟨rows, lines⟩ := ahead
      exact ⟨[], c :: text, rfl, bare_nil, .last (.stop c isMark lines)⟩
  | other =>
      rw [stepOutside, isMark] at ahead
      obtain ⟨front, back, rfl, inside, rest⟩ := ahead
      refine ⟨c :: front, back, rfl, ⟨?_, ?_⟩, rest⟩
      · exact List.forall_mem_cons.mpr ⟨by simp [isMark], inside⟩
      · rintro _ ⟨⟩
        simp [isMark]

theorem ahead_stepFirst (ahead : Ahead mark (stepFirst mark done cells c) text) :
    RowAt mark (c :: text) := by
  by_cases quote : mark c = .quote
  · rw [stepFirst, quote] at ahead
    obtain ⟨value, front, d, tail, back, rfl, inner, closes, bare, rest⟩ := ahead
    have row := RowAt.of_cell (.quoted c d quote inner closes bare) rest
    simpa using row
  · have outside : stepFirst mark done cells c = stepOutside mark done cells [] c := by
      rw [stepFirst]
      split
      · next isQuote => exact absurd isQuote quote
      · rfl
    rw [outside] at ahead
    obtain ⟨front, back, split, bare, rest⟩ := ahead_stepOutside ahead quote
    rw [split]
    exact .of_cell (.bare bare) rest

theorem ahead_step {m : Machine α} (ahead : Ahead mark (step mark m c) text) :
    Ahead mark m (c :: text) := by
  cases m with
  | between done =>
      by_cases ends : mark c = .lineEnd
      · rw [step, ends] at ahead
        obtain ⟨rows, lines⟩ := ahead
        exact ⟨rows, .blank c ends lines⟩
      · have first : step mark (.between done) c = stepFirst mark done [] c := by
          rw [step]
          split
          · next isEnd => exact absurd isEnd ends
          · rfl
        rw [first] at ahead
        exact (ahead_stepFirst ahead).lines ends
  | within done cells cell position =>
      cases position with
      | start => exact ahead_stepFirst ahead
      | plain =>
          by_cases quote : mark c = .quote
          · rw [step, stepOutside_inside (by simp [quote])] at ahead
            obtain ⟨front, back, rfl, inside, rest⟩ := ahead
            exact ⟨c :: front, back, rfl, List.forall_mem_cons.mpr ⟨by simp [quote], inside⟩, rest⟩
          · obtain ⟨front, back, split, bare, rest⟩ := ahead_stepOutside ahead quote
            exact ⟨front, back, split, bare.inside, rest⟩
      | quoted =>
          by_cases quote : mark c = .quote
          · rw [step, quote] at ahead
            rcases ahead with ⟨tail, back, rfl, bare, rest⟩ |
              ⟨d, value, front, e, tail, back, rfl, second, inner, closes, bare, rest⟩
            · exact ⟨[], [], c, tail, back, rfl, .nil, quote, bare, rest⟩
            · exact ⟨d :: value, c :: d :: front, e, tail, back, rfl,
                .double c d quote second inner, closes, bare, rest⟩
          · rw [step_quoted quote] at ahead
            obtain ⟨value, front, d, tail, back, rfl, inner, closes, bare, rest⟩ := ahead
            exact ⟨c :: value, c :: front, d, tail, back, rfl, .symbol c quote inner, closes, bare,
              rest⟩
      | closed =>
          by_cases quote : mark c = .quote
          · rw [step, quote] at ahead
            obtain ⟨value, front, d, tail, back, rfl, inner, closes, bare, rest⟩ := ahead
            exact Or.inr ⟨c, value, front, d, tail, back, rfl, quote, inner, closes, bare, rest⟩
          · have outside : Outside cell .closed := ⟨nofun, nofun⟩
            rw [step_outside outside quote] at ahead
            exact Or.inl (ahead_stepOutside ahead quote)

/-- From the machine on, the text ends inside of quotes. -/
def Open (mark : α → Mark) (m : Machine α) (text : List α) : Prop :=
  ∃ done cells cell, text.foldl (step mark) m = .within done cells cell .quoted

theorem ahead_of_closed {m : Machine α} (closed : ¬ Open mark m text) : Ahead mark m text := by
  induction text generalizing m with
  | nil =>
      cases m with
      | between done => exact ⟨[], .nil⟩
      | within done cells cell position =>
          cases position with
          | start => exact ⟨[[]], [], [], rfl, .single (.bare bare_nil), .nil⟩
          | plain => exact ⟨[], [], rfl, nofun, .last .nil⟩
          | quoted => exact absurd ⟨done, cells, cell, rfl⟩ closed
          | closed => exact Or.inl ⟨[], [], rfl, bare_nil, .last .nil⟩
  | cons c text ih => exact ahead_step (ih closed)

theorem not_open_of_outside {written : List α} {m : Machine α}
    (run : written.foldl (step mark) m = .within done cells cell position)
    (outside : Outside cell position) : ¬ Open mark m written := by
  rintro ⟨_, _, _, quoted⟩
  cases run.symm.trans quoted
  exact outside.unquoted rfl

end Machine

theorem Lines.not_open {done : List (List (List α))} (lines : Lines mark rows text) :
    ¬ Machine.Open mark (.between done) text := by
  induction lines generalizing done with
  | nil => rintro ⟨_, _, _, ⟨⟩⟩
  | blank c ends _ ih =>
      rintro ⟨_, _, _, run⟩
      rw [List.foldl_cons, Machine.step, ends] at run
      exact ih ⟨_, _, _, run⟩
  | last row written =>
      obtain ⟨read, last, after, run, outside, _⟩ := Machine.run_record done row written
      exact Machine.not_open_of_outside run outside
  | cons row written c ends _ ih =>
      obtain ⟨read, last, after, run, outside, _⟩ := Machine.run_record done row written
      rintro ⟨_, _, _, rest⟩
      rw [List.foldl_append, run, List.foldl_cons, Machine.step_lineEnd outside ends] at rest
      exact ih ⟨_, _, _, rest⟩

/-- Records are written exactly in the texts whose quotes are closed. -/
theorem exists_lines_iff :
    (∃ rows, Lines mark rows text) ↔ ¬ Machine.Open mark (.between []) text := by
  constructor
  · rintro ⟨rows, lines⟩
    exact lines.not_open
  · exact Machine.ahead_of_closed

end

/-! ## Files -/

/-- Records in the bytes of a file.  A byte order mark in front is no part of them, so that the
first record can begin with one only behind another. -/
inductive Written : List (List (List UInt8)) → List UInt8 → Prop
  | marked {rows : List (List (List UInt8))} {bytes : List UInt8}
      (lines : Lines byteMark rows bytes) : Written rows (byteOrderMark ++ bytes)
  | bare {rows : List (List (List UInt8))} {bytes : List UInt8} (lines : Lines byteMark rows bytes)
      (unmarked : byteOrderMark.isPrefixOf bytes = false) : Written rows bytes

theorem Written.ofBytes_eq {rows : List (List (List UInt8))} {bytes : List UInt8}
    (written : Written rows bytes) : ofBytes bytes = rows := by
  cases written with
  | marked lines =>
      have isMarked (bytes : List UInt8) :
          byteOrderMark.isPrefixOf (byteOrderMark ++ bytes) = true := by
        simp
      rw [ofBytes, if_pos (isMarked _)]
      exact lines.records_eq
  | bare lines unmarked =>
      rw [ofBytes, if_neg (by simp [unmarked])]
      exact lines.records_eq

end CardPayments.Csv
