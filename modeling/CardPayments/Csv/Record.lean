/-! # Comma-separated records

A record is a list of cells.  It ends at a line feed, a carriage return, or both; lines without
anything on them are no records.  A cell that begins with a quote may hold commas and line ends; two
quotes in it stand for one, and what follows its closing quote is taken as it is, like a quote
anywhere else.  A quoted cell that is never closed runs to the end.

The symbols may be bytes or characters: the machine only asks which of them are marks. -/
set_option autoImplicit false

namespace CardPayments.Csv

inductive Mark where
  | quote
  | comma
  | lineEnd
  | other
deriving DecidableEq, Repr

/-- The mark of a code below 128; bytes and characters share it. -/
def markOf (code : Nat) : Mark :=
  if code = 0x22 then .quote
  else if code = 0x2C then .comma
  else if code = 0x0A ∨ code = 0x0D then .lineEnd
  else .other

def byteMark (b : UInt8) : Mark := markOf b.toNat

def charMark (c : Char) : Mark := markOf c.toNat

inductive Position where
  | start
  | plain
  | quoted
  /-- Behind a quote inside a quoted cell. -/
  | closed
deriving DecidableEq, Repr

/-- The records, cells and symbols read so far are kept last one first. -/
inductive Machine (α : Type) where
  | between (records : List (List (List α)))
  | within (records : List (List (List α))) (cells : List (List α)) (cell : List α)
      (position : Position)

namespace Machine

variable {α : Type}

def close (records : List (List (List α))) (cells : List (List α)) (cell : List α) : Machine α :=
  .between ((cell.reverse :: cells).reverse :: records)

/-- A symbol outside quotes that is not the first one of its cell. -/
def stepOutside (mark : α → Mark) (records : List (List (List α))) (cells : List (List α))
    (cell : List α) (c : α) : Machine α :=
  match mark c with
  | .comma => .within records (cell.reverse :: cells) [] .start
  | .lineEnd => close records cells cell
  | _ => .within records cells (c :: cell) .plain

def stepFirst (mark : α → Mark) (records : List (List (List α))) (cells : List (List α)) (c : α) :
    Machine α :=
  match mark c with
  | .quote => .within records cells [] .quoted
  | _ => stepOutside mark records cells [] c

def step (mark : α → Mark) : Machine α → α → Machine α
  | .between records, c =>
      match mark c with
      | .lineEnd => .between records
      | _ => stepFirst mark records [] c
  | .within records cells _ .start, c => stepFirst mark records cells c
  | .within records cells cell .plain, c => stepOutside mark records cells cell c
  | .within records cells cell .quoted, c =>
      match mark c with
      | .quote => .within records cells cell .closed
      | _ => .within records cells (c :: cell) .quoted
  | .within records cells cell .closed, c =>
      match mark c with
      | .quote => .within records cells (c :: cell) .quoted
      | _ => stepOutside mark records cells cell c

/-- The records, in order, when there is no more to read. -/
def finish : Machine α → List (List (List α))
  | .between records => records.reverse
  | .within records cells cell _ => ((cell.reverse :: cells).reverse :: records).reverse

end Machine

def records {α : Type} (mark : α → Mark) (s : List α) : List (List (List α)) :=
  (s.foldl (Machine.step mark) (.between [])).finish

def ofText (s : String) : List (List String) :=
  (records charMark s.toList).map fun cells => cells.map String.ofList

def byteOrderMark : List UInt8 := [0xEF, 0xBB, 0xBF]

/-- The records of bytes, of which a byte order mark in front is no part. -/
def ofBytes (bytes : List UInt8) : List (List (List UInt8)) :=
  if byteOrderMark.isPrefixOf bytes then records byteMark (bytes.drop 3) else records byteMark bytes

/-! ## Writing -/

def needsQuotes (s : List Char) : Bool := s.any fun c => charMark c != .other

def cellToList (s : List Char) : List Char :=
  if needsQuotes s then
    '"' :: (s.flatMap fun c => if c = '"' then ['"', '"'] else [c]) ++ ['"']
  else s

def joinCells : List (List Char) → List Char
  | [] => []
  | [cell] => cellToList cell
  | cell :: rest => cellToList cell ++ ',' :: joinCells rest

def recordToList (cells : List String) : List Char :=
  joinCells (cells.map String.toList) ++ ['\n']

def toText (records : List (List String)) : String :=
  String.ofList (records.flatMap recordToList)

end CardPayments.Csv
