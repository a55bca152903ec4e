import CardPayments.Text.Digits

/-! # Days of the calendar

A day of the proleptic Gregorian calendar, and its number counted from 1970-01-01.  The count runs
over years that begin in March, so that a leap day is the last day of its year; four hundred such
years are one era of 146097 days. -/
set_option autoImplicit false

namespace CardPayments

structure Date where
  year : Int
  month : Nat
  day : Nat
deriving DecidableEq, Repr

namespace Date

instance : Inhabited Date := ⟨⟨1970, 1, 1⟩⟩

def isLeap (year : Int) : Bool :=
  year % 4 == 0 && (year % 100 != 0 || year % 400 == 0)

def daysInMonth (year : Int) (month : Nat) : Nat :=
  if month = 2 then (if isLeap year then 29 else 28)
  else if month = 4 ∨ month = 6 ∨ month = 9 ∨ month = 11 then 30
  else 31

def isValid (d : Date) : Bool :=
  1 ≤ d.month && d.month ≤ 12 && 1 ≤ d.day && d.day ≤ daysInMonth d.year d.month

/-- Days before the first of a month, in a year that begins in March; `m` counts from March. -/
def daysBeforeMonth (m : Nat) : Nat := (153 * m + 2) / 5

def daysBeforeYear (y : Nat) : Nat := 365 * y + y / 4 - y / 100

/-- The number of a day; 1970-01-01 is day zero. -/
def dayNumber (d : Date) : Int :=
  let year := if d.month ≤ 2 then d.year - 1 else d.year
  let month := if d.month ≤ 2 then d.month + 9 else d.month - 3
  let era := year / 400
  let yearOfEra := (year % 400).toNat
  era * 146097 + (daysBeforeYear yearOfEra + daysBeforeMonth month + (d.day - 1) : Nat) - 719468

/-- The year of an era that holds a day of that era. -/
def yearOfDay (dayOfEra : Nat) : Nat :=
  let century := min (dayOfEra / 36524) 3
  let inCentury := dayOfEra - century * 36524
  let cycle := inCentury / 1461
  let inCycle := inCentury - cycle * 1461
  century * 100 + cycle * 4 + min (inCycle / 365) 3

def ofDayNumber (n : Int) : Date :=
  let shifted := n + 719468
  let era := shifted / 146097
  let dayOfEra := (shifted % 146097).toNat
  let yearOfEra := yearOfDay dayOfEra
  let dayOfYear := dayOfEra - daysBeforeYear yearOfEra
  let month := (5 * dayOfYear + 2) / 153
  let day := dayOfYear - daysBeforeMonth month + 1
  let year := era * 400 + yearOfEra
  if month < 10 then ⟨year, month + 3, day⟩ else ⟨year + 1, month - 9, day⟩

def monthDay (d : Date) : String :=
  String.ofList (Text.paddedDigits 2 d.month ++ Text.paddedDigits 2 d.day)

def dayOfYear (d : Date) : Nat :=
  (d.dayNumber - (Date.mk d.year 1 1).dayNumber).toNat + 1

/-- The last two digits of the year and the day of the year as three digits. -/
def yearDay (d : Date) : String :=
  String.ofList (Text.paddedDigits 2 (d.year % 100).toNat ++ Text.paddedDigits 3 d.dayOfYear)

/-- Reads a valid day as four digits, two digits and two digits with hyphens between. -/
def ofText? (s : String) : Option Date :=
  let cs := s.toList
  if cs.length = 10 ∧ cs[4]? = some '-' ∧ cs[7]? = some '-' then
    match Text.number? (cs.take 4), Text.number? ((cs.drop 5).take 2), Text.number? (cs.drop 8) with
    | some year, some month, some day =>
        if (Date.mk year month day).isValid then some ⟨year, month, day⟩ else none
    | _, _, _ => none
  else none

end Date
end CardPayments
