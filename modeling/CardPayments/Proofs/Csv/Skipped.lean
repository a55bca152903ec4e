import Mathlib.Logic.Function.Basic
import CardPayments.CommandLine
import CardPayments.Proofs.Csv.Written

/-! # Records that are skipped

A record that cannot be read as a command is reported and passed over.  All other records are read
as if it were not there, but for the numbers of those behind it, and the commands come to the same:
what is printed and what is left behind do not show it. -/
set_option autoImplicit false

namespace CardPayments

/-! ## Reading -/

/-- The error once a record was inserted in front. -/
def ReadError.later (e : ReadError) : ReadError := { e with record := e.record + 1 }

namespace Csv

variable (header : Except ReadFault (List String)) (number : Nat)

theorem readRecords_append (front back : List (List (List UInt8))) :
    readRecords header number (front ++ back) =
      readRecords header number front ++ readRecords header (number + front.length) back := by
  induction front generalizing number with
  | nil => rfl
  | cons record front ih =>
      rw [List.cons_append, readRecords, ih, readRecords, List.cons_append, List.length_cons,
        Nat.add_right_comm, ← Nat.add_assoc]

theorem readRecords_later (rows : List (List (List UInt8))) :
    readRecords header (number + 1) rows =
      (readRecords header number rows).map (Except.mapError ReadError.later) := by
  induction rows generalizing number with
  | nil => rfl
  | cons record rows ih =>
      rw [readRecords, readRecords, ih, List.map_cons]
      cases readRecord header record with
      | ok command => rfl
      | error fault => rfl

@[simp] theorem length_readRecords (rows : List (List (List UInt8))) :
    (readRecords header number rows).length = rows.length := by
  induction rows generalizing number with
  | nil => rfl
  | cons record rows ih => rw [readRecords, List.length_cons, ih, List.length_cons]

theorem Written.commands_eq {names : List (List UInt8)} {rows : List (List (List UInt8))}
    {file : List UInt8} (written : Written (names :: rows) file) :
    commands file = readRecords (decodeCells 0 names) 1 rows := by
  rw [commands, written.ofBytes_eq]

end Csv

/-! ## Replaying -/

def Csv.accepted (read : List (Except ReadError Command)) : List Command :=
  read.filterMap Except.toOption

namespace Csv

variable (read : List (Except ReadError Command))

theorem accepted_append (more : List (Except ReadError Command)) :
    accepted (read ++ more) = accepted read ++ accepted more :=
  List.filterMap_append

theorem accepted_error (e : ReadError) : accepted (.error e :: read) = accepted read := rfl

/-- Numbers of records do not matter for the commands. -/
theorem accepted_later : accepted (read.map (Except.mapError ReadError.later)) = accepted read := by
  rw [accepted, List.filterMap_map, accepted]
  congr 1
  funext x
  cases x <;> rfl

end Csv

namespace Replay

open CommandLine

variable {ω : Type}

/-- What a replay shows and leaves behind, apart from the records that could not be read. -/
@[ext]
structure Told (ω : Type) where
  outcomes : List Outcome
  log : List String
  overflow : Option Decimal.Overflow
  state : ω

/-- What is told of the commands that were read and of the result they came to. -/
def Result.told (result : Result ω) (read : List (Except ReadError Command)) : Told ω :=
  ⟨result.outcomes, (read.zip result.rows).flatMap Execution.logOf, result.overflow, result.state⟩

/-- What is told when a record was read in front, and its row came out. -/
def Told.after (x : Except ReadError Command) (row : Except ReadError Outcome) (t : Told ω) :
    Told ω :=
  { t with
    outcomes := row.toOption.toList ++ t.outcomes
    log := Execution.logOf (x, row) ++ t.log }

theorem Result.told_after (result : Result ω) (read : List (Except ReadError Command))
    (x : Except ReadError Command) (row : Except ReadError Outcome) :
    (result.after row).told (x :: read) = (result.told read).after x row := by
  cases row with
  | ok outcome => rfl
  | error e => rfl

/-- Records that could not be read change nothing. -/
theorem applyAll_told (h : Host ω) (p : Processor) (w : ω) (r : Replay)
    (read : List (Except ReadError Command)) :
    (applyAll h p w r read).told read =
      (applyAll h p w r ((Csv.accepted read).map .ok)).told ((Csv.accepted read).map .ok) := by
  induction read generalizing w r with
  | nil => rfl
  | cons x read ih =>
      cases x with
      | error e =>
          rw [applyAll, Result.told_after]
          exact ih w r
      | ok c =>
          have accepts : (Csv.accepted (.ok c :: read)).map Except.ok =
              (.ok c :: (Csv.accepted read).map .ok : List (Except ReadError Command)) := rfl
          rw [accepts, applyAll, applyAll]
          rcases apply h p w r c with ⟨answer, r, w⟩
          cases answer with
          | ok applied => rw [Result.told_after, Result.told_after, ih]
          | error e =>
              dsimp only
              cases e.overflow? with
              | some operation => rfl
              | none =>
                  rw [Result.told_after, Result.told_after, ih]

theorem applyAll_told_eq (h : Host ω) (p : Processor) (w : ω) (r : Replay)
    {read read' : List (Except ReadError Command)} (same : Csv.accepted read = Csv.accepted read') :
    (applyAll h p w r read).told read = (applyAll h p w r read').told read' := by
  rw [applyAll_told, same, ← applyAll_told]

end Replay

/-! ## Runs -/

namespace CommandLine

variable {ω : Type} {read read' : List (Except ReadError Command)}
  {result result' : Replay.Result ω}

theorem Execution.ofResult_told (warned : Bool) (same : result.told read = result'.told read') :
    ofResult warned read result =
      { ofResult warned read' result' with
        readErrors := (ofResult warned read result).readErrors } := by
  obtain ⟨outcomes, log, overflow, _⟩ := Replay.Told.ext_iff.mp same
  simp only [Replay.Result.told] at outcomes log overflow
  simp only [ofResult, outcomes, log, overflow]

theorem configOf_update {files : Files} {input : String} {bytes : List UInt8}
    {config : Option String} (apart : config ≠ some input) :
    configOf (Function.update files input (some bytes)) config = configOf files config := by
  cases config with
  | none => rfl
  | some path =>
      have other : path ≠ input := fun same => apart (congrArg some same)
      rw [configOf, configOf, Function.update_of_ne other]

/-- A run depends on its input only through what is read from it. -/
theorem replay_told (files : Files) (today : Date) (invocation : Invocation)
    (apart : invocation.config ≠ some invocation.input) {file file' : List UInt8}
    (same : Csv.accepted (Csv.commands file) = Csv.accepted (Csv.commands file')) :
    let run (bytes : List UInt8) :=
      replay (Function.update files invocation.input (some bytes)) today invocation
    run file = { run file' with readErrors := (run file).readErrors } := by
  intro run
  simp only [run, replay, configOf_update apart, Function.update_self]
  cases configOf files invocation.config with
  | error e => rfl
  | ok config =>
      dsimp only
      cases systemOf config today with
      | error e => rfl
      | ok system =>
          exact Execution.ofResult_told _ (Replay.applyAll_told_eq _ _ _ _ same)

end CommandLine

/-- Of two files that differ in a record that cannot be read, however they are written, all other
records are read alike, and those behind it have the next number.  Whatever runs the commands, they
have the same outcomes and leave the same state; and a run of the program prints the same and ends
the same, whatever is asked for beside the input. -/
theorem unread_record_skipped {header record : List (List UInt8)}
    {before after : List (List (List UInt8))} {file inserted : List UInt8} {fault : ReadFault}
    (written : Csv.Written (header :: (before ++ after)) file)
    (writtenToo : Csv.Written (header :: (before ++ record :: after)) inserted)
    (rejected : Csv.readRecord (Csv.decodeCells 0 header) record = .error fault) :
    (∃ front back, Csv.commands file = front ++ back ∧ front.length = before.length ∧
      back.length = after.length ∧
      Csv.commands inserted = front ++ .error ⟨fault, before.length + 1⟩ ::
        back.map (Except.mapError ReadError.later)) ∧
    (∀ (ω : Type) (h : Host ω) (p : Processor) (w : ω) (r : Replay),
      (Replay.applyAll h p w r (Csv.commands inserted)).told (Csv.commands inserted) =
        (Replay.applyAll h p w r (Csv.commands file)).told (Csv.commands file)) ∧
    ∀ (files : CommandLine.Files) (today : Date) (args : List String)
      (invocation : CommandLine.Invocation), CommandLine.request args = .replay invocation →
      invocation.config ≠ some invocation.input →
      let run (bytes : List UInt8) :=
        CommandLine.run (Function.update files invocation.input (some bytes)) today args
      run inserted = { run file with readErrors := (run inserted).readErrors } := by
  have readFile := written.commands_eq
  rw [Csv.readRecords_append] at readFile
  have readInserted : Csv.commands inserted = Csv.readRecords (Csv.decodeCells 0 header) 1 before ++
      .error ⟨fault, before.length + 1⟩ ::
        (Csv.readRecords (Csv.decodeCells 0 header) (1 + before.length) after).map
          (Except.mapError ReadError.later) := by
    rw [writtenToo.commands_eq, Csv.readRecords_append, Csv.readRecords, rejected,
      Csv.readRecords_later _ (1 + before.length), Nat.add_comm before.length]
  have same : Csv.accepted (Csv.commands inserted) = Csv.accepted (Csv.commands file) := by
    rw [readInserted, readFile, Csv.accepted_append, Csv.accepted_append, Csv.accepted_error,
      Csv.accepted_later]
  refine ⟨⟨_, _, readFile, by simp, by simp, readInserted⟩, ?_, ?_⟩
  · exact fun ω h p w r => Replay.applyAll_told_eq h p w r same
  · intro files today args invocation asked apart run
    simp only [run, CommandLine.run, asked]
    exact CommandLine.replay_told files today invocation apart same

namespace Csv.Sample

def bytes (s : String) : List UInt8 := s.toList.map fun c => .ofNat c.toNat

def header : List (List UInt8) := ["type", "psp", "reference", "scheme", "note"].map bytes

def ping (reference : String) : List (List UInt8) :=
  ["echo", "psp", reference, "visa", "-"].map bytes

/-- A line end and quotes, and a cell that is no text. -/
def broken : List (List UInt8) := [bytes "pay\n\"now\"", [0xFF]]

def line (cells : List (List UInt8)) : List UInt8 := [0x2C].intercalate cells

def brokenLine : List UInt8 :=
  0x22 :: (doubled byteMark (bytes "pay\n\"now\"") ++ [0x22]) ++ [0x2C, 0xFF]

def front : List UInt8 := line header ++ 0x0A :: (line (ping "a") ++ [0x0D, 0x0A])

def back : List UInt8 := line (ping "b")

theorem row_broken : Row byteMark broken brokenLine := by
  have first : Cell byteMark (bytes "pay\n\"now\"")
      (0x22 :: (doubled byteMark (bytes "pay\n\"now\"") ++ [0x22])) := by
    simpa only [List.append_nil] using Cell.quoted 0x22 0x22 rfl (inner_doubled _) rfl bare_nil
  have last : Bare byteMark [0xFF] := by decide
  exact .cons first 0x2C rfl (.single (.bare last))

theorem lines_front {rows : List (List (List UInt8))} {rest : List UInt8}
    (lines : Lines byteMark rows rest) :
    Lines byteMark (header :: ping "a" :: rows) (front ++ rest) := by
  have names : Row byteMark header (line header) := row_of_bare rfl (by decide) (by decide)
  have first : Row byteMark (ping "a") (line (ping "a")) := row_of_bare rfl (by decide) (by decide)
  have all := Lines.cons names (by decide) 0x0A rfl
    (Lines.cons first (by decide) 0x0D rfl (.blank 0x0A rfl lines))
  simpa [front] using all

theorem lines_back : Lines byteMark [ping "b"] back :=
  .last (row_of_bare rfl (by decide) (by decide)) (by decide)

theorem written : Written (header :: ([ping "a"] ++ [ping "b"])) (front ++ back) :=
  .bare (lines_front lines_back) (by decide)

theorem written_inserted : Written (header :: ([ping "a"] ++ broken :: [ping "b"]))
    (front ++ (brokenLine ++ 0x0A :: back)) :=
  .bare (lines_front (.cons row_broken (by decide) 0x0A rfl lines_back)) (by decide)

end Csv.Sample

open Csv.Sample in
/-- A record with a line end in quotes, and a cell that is no text, between two others. -/
theorem broken_record_skipped :
    (∃ first last, Csv.commands (front ++ back) = first ++ last ∧ first.length = 1 ∧
      last.length = 1 ∧ Csv.commands (front ++ (brokenLine ++ 0x0A :: back)) =
        first ++ .error ⟨.notText 1, 2⟩ :: last.map (Except.mapError ReadError.later)) ∧
    ∀ (files : CommandLine.Files) (today : Date),
      let run (bytes : List UInt8) :=
        CommandLine.run (Function.update files "in.csv" (some bytes)) today ["in.csv"]
      run (front ++ (brokenLine ++ 0x0A :: back)) =
        { run (front ++ back) with
          readErrors := (run (front ++ (brokenLine ++ 0x0A :: back))).readErrors } := by
  obtain ⟨read, _, runs⟩ := unread_record_skipped written written_inserted rfl
  exact ⟨read, fun files today =>
    runs files today ["in.csv"] ⟨"in.csv", none, none, false⟩ (by decide +kernel) nofun⟩

end CardPayments
