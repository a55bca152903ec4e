import CardPayments.Authorization
import CardPayments.Csv.Record
import CardPayments.Decimal.Binary64

/-! # Commands in records

The first record names the columns; every further record is a command.  The columns are gone through
from left to right, each taking the next cell: unknown columns skip it, and an optional column is
nothing when its cell is empty or the record has ended.  The first column that cannot be read
decides the error, and a column that is missing is noticed last.  Blanks around names and cells do
not count. -/
set_option autoImplicit false

namespace CardPayments

inductive CommandKind where
  | authorize
  | capture
  | reverse
  | refund
  | captureRefund
  | echo
deriving DecidableEq, Repr

namespace CommandKind

def name : CommandKind → String
  | .authorize => "authorize"
  | .capture => "capture"
  | .reverse => "reverse"
  | .refund => "refund"
  | .captureRefund => "capture_refund"
  | .echo => "echo"

def ofName? (s : String) : Option CommandKind :=
  if s = "authorize" then some .authorize
  else if s = "capture" then some .capture
  else if s = "reverse" then some .reverse
  else if s = "refund" then some .refund
  else if s = "capture_refund" then some .captureRefund
  else if s = "echo" then some .echo
  else none

end CommandKind

/-- One row of a replay file.  `reference` is the caller's name for an authorization or refund. -/
structure Command where
  kind : CommandKind
  psp : String
  reference : String
  scheme : Option String
  pan : Option String
  amount : Option Decimal
  currency : Option String
  isFinal : Option Bool
  exemption : Option Exemption
deriving DecidableEq

inductive ReadFault where
  /-- A column that needs a cell found none. -/
  | endOfRecord
  /-- The cell at this index is neither `true` nor `false`. -/
  | notBool (index : Nat)
  /-- The cell at this index is no text. -/
  | notText (index : Nat)
  /-- A cell that its column cannot hold. -/
  | unreadable (cell : String)
  /-- A column occurs twice, or one that is needed does not occur. -/
  | misnamed
deriving DecidableEq, Repr

def ReadFault.message : ReadFault → String
  | .endOfRecord => "the record has ended"
  | .notBool index => "cell " ++ String.ofList (Text.digits index) ++ " is neither true nor false"
  | .notText index => "cell " ++ String.ofList (Text.digits index) ++ " is no text"
  | .unreadable cell => "unknown value " ++ cell
  | .misnamed => "a column is missing or occurs twice"

/-- A fault with the number of its record; the first one after the header is number one. -/
structure ReadError where
  fault : ReadFault
  record : Nat
deriving DecidableEq, Repr

def ReadError.message (e : ReadError) : String :=
  "record " ++ String.ofList (Text.digits e.record) ++ ": " ++ e.fault.message

namespace Csv

inductive Column where
  | kind
  | psp
  | reference
  | scheme
  | pan
  | amount
  | currency
  | isFinal
  | exemption
deriving DecidableEq, Repr

namespace Column

def ofName? (s : String) : Option Column :=
  if s = "type" then some .kind
  else if s = "psp" then some .psp
  else if s = "reference" then some .reference
  else if s = "scheme" then some .scheme
  else if s = "pan" then some .pan
  else if s = "amount" then some .amount
  else if s = "currency" then some .currency
  else if s = "final" then some .isFinal
  else if s = "exemption" then some .exemption
  else none

/-- The columns in the order that holds when there is no header to go by. -/
def all : List Column :=
  [.kind, .psp, .reference, .scheme, .pan, .amount, .currency, .isFinal, .exemption]

end Column

/-- What was read of a command; a column that did not occur is nothing. -/
structure Draft where
  kind : Option CommandKind
  psp : Option String
  reference : Option String
  scheme : Option (Option String)
  pan : Option (Option String)
  amount : Option (Option Decimal)
  currency : Option (Option String)
  isFinal : Option (Option Bool)
  exemption : Option (Option Exemption)
deriving DecidableEq

namespace Draft

def empty : Draft := ⟨none, none, none, none, none, none, none, none, none⟩

def has (d : Draft) : Column → Bool
  | .kind => d.kind.isSome
  | .psp => d.psp.isSome
  | .reference => d.reference.isSome
  | .scheme => d.scheme.isSome
  | .pan => d.pan.isSome
  | .amount => d.amount.isSome
  | .currency => d.currency.isSome
  | .isFinal => d.isFinal.isSome
  | .exemption => d.exemption.isSome

def command (d : Draft) : Option Command :=
  match d.kind, d.psp, d.reference with
  | some kind, some psp, some reference =>
      some ⟨kind, psp, reference, d.scheme.join, d.pan.join, d.amount.join, d.currency.join,
        d.isFinal.join, d.exemption.join⟩
  | _, _, _ => none

end Draft

/-! ## Cells -/

def isInteger (s : List Char) : Bool :=
  let ds := (Decimal.readSign s).2
  !ds.isEmpty && ds.all Text.isDigit

def integer? (s : List Char) : Option Int :=
  match Decimal.readSign s with
  | (negative, ds) => (Text.number? ds).map fun n => if negative then -(n : Int) else n

/-- An integer of 64 bits, with or without a sign. -/
def fitsWord (n : Int) : Bool := decide (-(Nat.pow 2 63 : Int) ≤ n ∧ n < Nat.pow 2 64)

/-- The decimal of a cell: an integer of 64 bits as it is, another integer not at all; what a double
can be read from through the shortest text of that double; and anything else as a numeral. -/
def readAmount (cell : String) : Option Decimal :=
  let s := cell.toList
  if cell = "true" ∨ cell = "false" then none
  else if isInteger s then
    match integer? s with
    | some n => if fitsWord n then Decimal.ofInt? n else none
    | none => none
  else
    match Binary64.read? s with
    | some (.finite negative x) => Binary64.toDecimal? negative x
    | some .special => none
    | none => Decimal.ofNumeral? s

def readFinal (index : Nat) (cell : String) : Except ReadFault Bool :=
  if cell = "true" then .ok true
  else if cell = "false" then .ok false
  else .error (.notBool index)

/-- Reads a cell that must be one of those with a reading. -/
def readable {α : Type} (read : String → Option α) (cell : String) : Except ReadFault α :=
  match read cell with
  | some a => .ok a
  | none => .error (.unreadable cell)

/-! ## Records -/

def needed {α : Type} (cell : Option String) (read : String → Except ReadFault α) :
    Except ReadFault α :=
  match cell with
  | some text => read text
  | none => .error .endOfRecord

def optional {α : Type} (cell : Option String) (read : String → Except ReadFault α) :
    Except ReadFault (Option α) :=
  match cell with
  | none => .ok none
  | some text => if text = "" then .ok none else (read text).map some

def Draft.read (d : Draft) (index : Nat) (cell : Option String) :
    Column → Except ReadFault Draft
  | .kind => (needed cell (readable CommandKind.ofName?)).map fun v => { d with kind := some v }
  | .psp => (needed cell .ok).map fun v => { d with psp := some v }
  | .reference => (needed cell .ok).map fun v => { d with reference := some v }
  | .scheme => (optional cell .ok).map fun v => { d with scheme := some v }
  | .pan => (optional cell .ok).map fun v => { d with pan := some v }
  | .amount => (optional cell (readable readAmount)).map fun v => { d with amount := some v }
  | .currency => (optional cell .ok).map fun v => { d with currency := some v }
  | .isFinal => (optional cell (readFinal index)).map fun v => { d with isFinal := some v }
  | .exemption => (optional cell (readable Exemption.ofName?)).map fun v =>
      { d with exemption := some v }

/-- Goes through columns, known ones and others, from left to right. -/
def readColumns (d : Draft) (index : Nat) :
    List (Option Column) → List String → Except ReadFault Draft
  | [], _ => .ok d
  | none :: columns, cells =>
      match cells with
      | [] => .error .endOfRecord
      | _ :: cells => readColumns d (index + 1) columns cells
  | some column :: columns, cells =>
      if d.has column then .error .misnamed
      else
        match d.read index cells.head? column with
        | .error fault => .error fault
        | .ok d => readColumns d (index + 1) columns cells.tail

/-- The command of a draft in which every column that is needed occurred. -/
def Draft.finish (d : Draft) : Except ReadFault Command :=
  match d.command with
  | some command => .ok command
  | none => .error .misnamed

def command (header cells : List String) : Except ReadFault Command :=
  match readColumns .empty 0 (header.map Column.ofName?) cells with
  | .error fault => .error fault
  | .ok d => d.finish

/-- The command of a record without names of columns: every column has its cell, in order. -/
def commandInOrder (cells : List String) : Except ReadFault Command :=
  match readColumns .empty 0 ((Column.all.take cells.length).map some) cells with
  | .error fault => .error fault
  | .ok d => if cells.length < Column.all.length then .error .misnamed else d.finish

/-! ## Files -/

def decodeCell (bytes : List UInt8) : Option String :=
  (String.fromUTF8? ⟨bytes.toArray⟩).map Text.trim

/-- The texts of cells; `index` is the place of the first of them. -/
def decodeCells (index : Nat) : List (List UInt8) → Except ReadFault (List String)
  | [] => .ok []
  | bytes :: rest =>
      match decodeCell bytes with
      | none => .error (.notText index)
      | some cell =>
          match decodeCells (index + 1) rest with
          | .ok cells => .ok (cell :: cells)
          | .error fault => .error fault

/-- The command of a record under a header; a header that is no text names no columns. -/
def readRecord (header : Except ReadFault (List String)) (record : List (List UInt8)) :
    Except ReadFault Command :=
  match decodeCells 0 record with
  | .error fault => .error fault
  | .ok cells =>
      match header with
      | .ok names => command names cells
      | .error _ => commandInOrder cells

/-- The commands of records, of which the first has the given number. -/
def readRecords (header : Except ReadFault (List String)) (number : Nat) :
    List (List (List UInt8)) → List (Except ReadError Command)
  | [] => []
  | record :: rest =>
      let read :=
        match readRecord header record with
        | .ok command => .ok command
        | .error fault => .error ⟨fault, number⟩
      read :: readRecords header (number + 1) rest

def commands (file : List UInt8) : List (Except ReadError Command) :=
  match ofBytes file with
  | [] => []
  | header :: records => readRecords (decodeCells 0 header) 1 records

end Csv
end CardPayments
