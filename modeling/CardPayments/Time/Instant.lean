import CardPayments.Text.Blank
import CardPayments.Time.Date

/-! # Points in time

A point in time is a count of seconds since 1970-01-01T00:00:00Z and nanoseconds; a leap second is
the second before it with a thousand million nanoseconds more.  It is written in UTC with `Z` and 0,
3, 6 or 9 fraction digits, as few as hold it.  The reader accepts any offset, and blanks in front of
every number and mark. -/
set_option autoImplicit false

namespace CardPayments

structure Instant where
  seconds : Int
  nanos : Nat
deriving DecidableEq, Repr

namespace Instant

def billion : Nat := 1000000000

instance : Inhabited Instant := ⟨⟨0, 0⟩⟩

def ofSeconds (n : Int) : Instant := ⟨n, 0⟩

def ofDate (d : Date) : Instant := ⟨d.dayNumber * 86400, 0⟩

def date (t : Instant) : Date := Date.ofDayNumber (t.seconds / 86400)

def before (a b : Instant) : Bool :=
  decide (a.seconds < b.seconds ∨ (a.seconds = b.seconds ∧ a.nanos < b.nanos))

/-! ## Writing -/

def fractionToList (nanos : Nat) : List Char :=
  if nanos = 0 then []
  else if nanos % 1000000 = 0 then '.' :: Text.paddedDigits 3 (nanos / 1000000)
  else if nanos % 1000 = 0 then '.' :: Text.paddedDigits 6 (nanos / 1000)
  else '.' :: Text.paddedDigits 9 nanos

/-- A year of four digits as it is, and any other with its sign. -/
def yearToList (year : Int) : List Char :=
  if 0 ≤ year ∧ year ≤ 9999 then Text.paddedDigits 4 year.toNat
  else (if year < 0 then '-' else '+') :: Text.paddedDigits 4 year.natAbs

def toList (t : Instant) : List Char :=
  let d := t.date
  let ofDay := (t.seconds % 86400).toNat
  let isLeap := billion ≤ t.nanos
  let second := if isLeap then ofDay % 60 + 1 else ofDay % 60
  let nanos := if isLeap then t.nanos - billion else t.nanos
  yearToList d.year ++ '-' :: (Text.paddedDigits 2 d.month ++ '-' :: (Text.paddedDigits 2 d.day ++
    'T' :: (Text.paddedDigits 2 (ofDay / 3600) ++ ':' :: (Text.paddedDigits 2 (ofDay / 60 % 60) ++
      ':' :: (Text.paddedDigits 2 second ++ (fractionToList nanos ++ ['Z']))))))

def toText (t : Instant) : String := String.ofList t.toList

/-! ## Reading -/

def skipBlanks (s : List Char) : List Char := s.dropWhile Text.isBlank

/-- Reads one to `most` digits, and returns the rest. -/
def readNumber (most : Nat) (s : List Char) : Option (Nat × List Char) :=
  let ds := (s.take most).takeWhile Text.isDigit
  (Text.number? ds).map fun n => (n, s.drop ds.length)

def readField (most : Nat) (s : List Char) : Option (Nat × List Char) :=
  readNumber most (skipBlanks s)

def readMark (mark : Char) (s : List Char) : Option (List Char) :=
  match skipBlanks s with
  | c :: rest => if c = mark then some rest else none
  | [] => none

def readYear (s : List Char) : Option (Int × List Char) :=
  match skipBlanks s with
  | '-' :: rest => (readNumber rest.length rest).map fun r => (-(r.1 : Int), r.2)
  | '+' :: rest => (readNumber rest.length rest).map fun r => ((r.1 : Int), r.2)
  | rest => (readNumber 4 rest).map fun r => ((r.1 : Int), r.2)

/-- The nanoseconds of a fraction, of which nine digits count. -/
def readFraction (s : List Char) : Option (Nat × List Char) :=
  match s with
  | '.' :: rest =>
      let ds := (rest.take 9).takeWhile Text.isDigit
      (Text.number? ds).map fun n =>
        (n * Nat.pow 10 (9 - ds.length), (rest.drop ds.length).dropWhile Text.isDigit)
  | rest => some (0, rest)

/-- The seconds of an offset after its sign: two digits of hours, colons and blanks, two digits of
minutes below sixty. -/
def readOffsetDigits (s : List Char) : Option (Nat × List Char) :=
  match Text.number? (s.take 2) with
  | none => none
  | some hours =>
      if s.length < 2 then none
      else
        let afterHours := (s.drop 2).dropWhile fun c => c == ':' || Text.isBlank c
        match Text.number? (afterHours.take 2) with
        | none => none
        | some minutes =>
            if afterHours.length < 2 ∨ 60 ≤ minutes then none
            else some (hours * 3600 + minutes * 60, afterHours.drop 2)

def readOffset (s : List Char) : Option (Int × List Char) :=
  if (s.take 3).map Char.toLower = ['u', 't', 'c'] then some (0, s.drop 3)
  else
    match s with
    | c :: rest =>
        if c = 'Z' ∨ c = 'z' then some (0, rest)
        else if c = '+' then (readOffsetDigits rest).map fun r => ((r.1 : Int), r.2)
        else if c = '-' ∨ c.toNat = 0x2212 then
          (readOffsetDigits rest).map fun r => (-(r.1 : Int), r.2)
        else none
    | [] => none

/-- The moment of a local day and time with its offset; second sixty is a leap second. -/
def assemble (d : Date) (hour minute second nanos : Nat) (offset : Int) : Option Instant :=
  if d.isValid ∧ hour < 24 ∧ minute < 60 ∧ second ≤ 60 ∧ offset.natAbs < 86400 ∧
      -262143 ≤ d.year ∧ d.year ≤ 262142 then
    let ofDay := hour * 3600 + minute * 60 + min second 59
    let t : Instant :=
      ⟨d.dayNumber * 86400 + ofDay - offset, if second = 60 then nanos + billion else nanos⟩
    if -262143 ≤ t.date.year ∧ t.date.year ≤ 262142 then some t else none
  else none

/-- Reads a day, `T` or a blank, a time and an offset. -/
def ofList? (s : List Char) : Option Instant := do
  let (year, s) ← readYear s
  let s ← readMark '-' s
  let (month, s) ← readField 2 s
  let s ← readMark '-' s
  let (day, s) ← readField 2 s
  let s ← match s with
    | c :: rest => if c = 'T' ∨ c = 't' ∨ c = ' ' then some rest else none
    | [] => none
  let (hour, s) ← readField 2 s
  let s ← readMark ':' s
  let (minute, s) ← readField 2 s
  let s ← readMark ':' s
  let (second, s) ← readField 2 s
  let (nanos, s) ← readFraction s
  let (offset, s) ← readOffset (skipBlanks s)
  if skipBlanks s = [] then assemble ⟨year, month, day⟩ hour minute second nanos offset else none

end Instant
end CardPayments
