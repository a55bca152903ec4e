import CardPayments.Replay

/-! # The command line

Replays a file of commands against fresh stores and networks that approve everything.  A run is a
function of its arguments, the files it can read and the day. -/
set_option autoImplicit false

namespace CardPayments.CommandLine

/-! ## Arguments -/

structure Invocation where
  input : String
  config : Option String
  /-- Where trace numbers were to be kept; they are kept in memory instead. -/
  databasePath : Option String
  logsJson : Bool
deriving DecidableEq, Repr

inductive Request where
  | replay (invocation : Invocation)
  | help
  | version
  | invalid (reason : String)
deriving DecidableEq, Repr

structure Arguments where
  input : Option String
  config : Option String
  databasePath : Option String
  logsJson : Bool
deriving DecidableEq, Repr

namespace Arguments

def empty : Arguments := ⟨none, none, none, false⟩

def finish (a : Arguments) : Request :=
  match a.input with
  | some input => .replay ⟨input, a.config, a.databasePath, a.logsJson⟩
  | none => .invalid "the input file is missing"

def takeInput (a : Arguments) (arg : String) : Option Arguments :=
  if a.input.isSome ∨ arg = "" then none else some { a with input := some arg }

/-- Takes the value of an option, which may be given once and not be empty. -/
def takeOption (a : Arguments) (option value : String) : Option Arguments :=
  if value = "" then none
  else if option = "config" then
    if a.config.isSome then none else some { a with config := some value }
  else if option = "db-path" then
    if a.databasePath.isSome then none else some { a with databasePath := some value }
  else none

def takeInputs (a : Arguments) : List String → Request
  | [] => a.finish
  | arg :: rest =>
      match a.takeInput arg with
      | some a => a.takeInputs rest
      | none => .invalid ("unexpected argument " ++ arg)

end Arguments

/-- A value that does not look like an option. -/
def isValue (arg : String) : Bool := arg = "-" || arg.toList.head? != some '-'

/-- The name of a long option, and the value behind its first `=`. -/
def splitLong (s : List Char) : String × Option String :=
  match s.dropWhile (fun c => c != '=') with
  | [] => (String.ofList s, none)
  | _ :: value =>
      (String.ofList (s.takeWhile fun c => c != '='), some (String.ofList value))

inductive Shape where
  | escape
  | long (name : String) (value : Option String)
  | short (first : Char)
  | file
deriving DecidableEq, Repr

def shapeOf (arg : String) : Shape :=
  match arg.toList with
  | '-' :: '-' :: [] => .escape
  | '-' :: '-' :: name =>
      let split := splitLong name
      .long split.1 split.2
  | '-' :: first :: _ => .short first
  | _ => .file

/-- Reads arguments from left to right; the first one that asks for something else than a replay, or
is not acceptable, decides. -/
def readArguments (a : Arguments) : List String → Request
  | [] => a.finish
  | arg :: rest =>
      let invalid := Request.invalid ("unexpected argument " ++ arg)
      match shapeOf arg with
      | .escape => a.takeInputs rest
      | .short first =>
          if first = 'h' then .help else if first = 'V' then .version else invalid
      | .file =>
          match a.takeInput arg with
          | some a => readArguments a rest
          | none => invalid
      | .long name (some value) =>
          match a.takeOption name value with
          | some a => readArguments a rest
          | none => invalid
      | .long name none =>
          if name = "help" then .help
          else if name = "version" then .version
          else if name = "log-json" then
            if a.logsJson then invalid else readArguments { a with logsJson := true } rest
          else
            match rest with
            | [] => invalid
            | value :: rest =>
                if isValue value then
                  match a.takeOption name value with
                  | some a => readArguments a rest
                  | none => invalid
                else invalid

def request (args : List String) : Request := readArguments .empty args

/-! ## Texts -/

def versionText : String := "acquirer 0.1.0\n"

def helpText : String :=
  "Usage: acquirer [OPTIONS] <INPUT>\n\nArguments:\n  <INPUT>  Input commands CSV file\n\n" ++
  "Options:\n" ++
  "      --config <CONFIG>    JSON config file (optional). " ++
  "Defaults apply to every missing field\n" ++
  "      --db-path <DB_PATH>  Path to persistent sequence database (optional). " ++
  "If provided, uses RocksDB\n" ++
  "      --log-json           Emit logs as JSON lines\n" ++
  "  -h, --help               Print help\n" ++
  "  -V, --version            Print version\n"

def warningText : String :=
  "WARNING: Persistent storage requested via --db-path, but 'storage-rocksdb' feature is not " ++
  "enabled. Falling back to In-Memory storage."

/-! ## Runs -/

abbrev Files := String → Option (List UInt8)

/-- What a run leaves behind: its exit code, what it prints, and what it reports beside that. -/
structure Execution where
  exitCode : Nat
  output : String
  /-- The trace numbers are kept in memory although a database was asked for. -/
  warned : Bool
  readErrors : List ReadError
  /-- What was reported about failing commands and why the run ended early. -/
  log : List String
deriving DecidableEq, Repr

namespace Execution

def early (exitCode : Nat) (output : String) (warned : Bool) (log : List String) : Execution :=
  ⟨exitCode, output, warned, [], log⟩

/-- What is reported about a command that was processed: its PSP, and of its card only the masked
number. -/
def processed (c : Command) (o : Outcome) : List String :=
  match c.kind with
  | .authorize =>
      match Replay.cardPayment c with
      | .ok (card, _, _) => ["processed for " ++ c.psp ++ " with card " ++ card.maskedPan]
      | .error _ => []
  | .echo => []
  | _ => if o.outcome = "ok" then ["processed for " ++ c.psp] else []

def failure (o : Outcome) : List String :=
  if o.outcome = "error" then ["command failed: " ++ o.reference ++ ": " ++ o.detail] else []

def logOf : Except ReadError Command × Except ReadError Outcome → List String
  | (.ok c, .ok o) => processed c o ++ failure o
  | _ => []

def ofResult {ω : Type} (warned : Bool) (commands : List (Except ReadError Command))
    (result : Replay.Result ω) : Execution where
  exitCode := if result.overflow.isSome then 101 else 0
  output := Outcome.toText result.outcomes
  warned := warned
  readErrors := result.rows.filterMap fun row =>
    match row with
    | .ok _ => none
    | .error e => some e
  log := (commands.zip result.rows).flatMap logOf ++
    (result.overflow.map Decimal.Overflow.message).toList

/-- Whether a text stands in what is reported; the empty text is not looked for. -/
def reports (e : Execution) (text : String) : Bool :=
  text != "" && (e.log ++ e.readErrors.map ReadError.message).any fun line =>
    (line.splitOn text).length != 1

end Execution

def configOf (files : Files) : Option String → Except PaymentError Config
  | none => .ok .default
  | some path => Config.ofFile ((files path).bind fun bytes => String.fromUTF8? ⟨bytes.toArray⟩)

def systemOf (config : Config) (today : Date) : Except PaymentError System :=
  match TraceNumbers.open config.sequence today 0 .standard with
  | .ok traces => .ok (.start traces fun scheme => some (.approving scheme))
  | .error e => .error e

def replay (files : Files) (today : Date) (invocation : Invocation) : Execution :=
  match configOf files invocation.config with
  | .error e => .early 1 "" false [e.message]
  | .ok config =>
      let warned := invocation.databasePath.isSome
      match systemOf config today with
      | .error e => .early 1 "" warned [e.message]
      | .ok system =>
          match files invocation.input with
          | none => .early 1 "" warned [invocation.input]
          | some bytes =>
              let commands := Csv.commands bytes
              .ofResult warned commands
                (Replay.applyAll .system (system.processor config) system .empty commands)

def run (files : Files) (today : Date) (args : List String) : Execution :=
  match request args with
  | .replay invocation => replay files today invocation
  | .help => .early 0 helpText false []
  | .version => .early 0 versionText false []
  | .invalid reason => .early 2 "" false [reason]

end CardPayments.CommandLine
