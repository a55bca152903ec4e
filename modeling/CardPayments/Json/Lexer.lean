import CardPayments.Json.Basic

/-! # The tokens of a JSON text

A machine that takes one character at a time.  Between tokens blanks are skipped; a bare run of
letters, digits, signs and points is a word or a number; a string ends at the first quote without a
backslash.  Control characters, unknown escapes and every other character are refused. -/
set_option autoImplicit false

namespace CardPayments.Json

inductive Token where
  | openArray
  | closeArray
  | openObject
  | closeObject
  | colon
  | comma
  | null
  | bool (value : Bool)
  | number (value : Numeral)
  /-- A string, or nothing when its escapes name half of a surrogate pair. -/
  | string (value : Option String)
deriving DecidableEq, Repr

/-- A string so far: its characters, last one first; the first half of a surrogate pair whose second
half must follow; and whether its escapes made sense up to here. -/
structure Spelling where
  chars : List Char
  high : Option Nat
  readable : Bool
deriving DecidableEq, Repr

namespace Spelling

def empty : Spelling := ⟨[], none, true⟩

def addChar (s : Spelling) (c : Char) : Spelling :=
  match s.high with
  | none => { s with chars := c :: s.chars }
  | some _ => { s with high := none, readable := false }

/-- Adds a 16-bit code unit: two halves of a surrogate pair make one character. -/
def addUnit (s : Spelling) (u : Nat) : Spelling :=
  match s.high with
  | some h =>
      if 0xDC00 ≤ u ∧ u < 0xE000 then
        { s with chars := Char.ofNat (0x10000 + (h - 0xD800) * 0x400 + (u - 0xDC00)) :: s.chars
                 high := none }
      else { s with high := none, readable := false }
  | none =>
      if 0xD800 ≤ u ∧ u < 0xDC00 then { s with high := some u }
      else if 0xDC00 ≤ u ∧ u < 0xE000 then { s with readable := false }
      else { s with chars := Char.ofNat u :: s.chars }

def text? (s : Spelling) : Option String :=
  if s.readable ∧ s.high = none then some (String.ofList s.chars.reverse) else none

end Spelling

inductive LexState where
  | between
  /-- In a bare word or number, last character first. -/
  | bare (sofar : List Char)
  | inString (sofar : Spelling)
  | escaped (sofar : Spelling)
  /-- In the hexadecimal digits of an escape: how many are still to come, and their value so far. -/
  | hex (sofar : Spelling) (missing : Nat) (value : Nat)
deriving DecidableEq, Repr

def isBlank (c : Char) : Bool := c == ' ' || c == '\n' || c == '\t' || c == '\r'

def isBare (c : Char) : Bool :=
  c.isAlpha || Text.isDigit c || c == '-' || c == '+' || c == '.'

def Token.ofBare? (run : List Char) : Option Token :=
  if run = "null".toList then some .null
  else if run = "true".toList then some (.bool true)
  else if run = "false".toList then some (.bool false)
  else (Numeral.ofList? run).map .number

def Token.ofMark? (c : Char) : Option Token :=
  if c = '[' then some .openArray
  else if c = ']' then some .closeArray
  else if c = '{' then some .openObject
  else if c = '}' then some .closeObject
  else if c = ':' then some .colon
  else if c = ',' then some .comma
  else none

def escape? (c : Char) : Option Char :=
  if c = '"' then some '"'
  else if c = '\\' then some '\\'
  else if c = '/' then some '/'
  else if c = 'b' then some (Char.ofNat 8)
  else if c = 'f' then some (Char.ofNat 12)
  else if c = 'n' then some '\n'
  else if c = 'r' then some '\r'
  else if c = 't' then some '\t'
  else none

/-- A character outside strings and bare runs: the tokens it completes and the state after it. -/
def lexBetween (c : Char) : Option (List Token × LexState) :=
  if isBlank c then some ([], .between)
  else if c = '"' then some ([], .inString .empty)
  else if isBare c then some ([], .bare [c])
  else (Token.ofMark? c).map fun token => ([token], .between)

def lexChar : LexState → Char → Option (List Token × LexState)
  | .between, c => lexBetween c
  | .bare sofar, c =>
      if isBare c then some ([], .bare (c :: sofar))
      else
        match Token.ofBare? sofar.reverse, lexBetween c with
        | some token, some (tokens, state) => some (token :: tokens, state)
        | _, _ => none
  | .inString sofar, c =>
      if c = '"' then some ([.string sofar.text?], .between)
      else if c = '\\' then some ([], .escaped sofar)
      else if c.toNat < 32 then none
      else some ([], .inString (sofar.addChar c))
  | .escaped sofar, c =>
      if c = 'u' then some ([], .hex sofar 4 0)
      else (escape? c).map fun meant => ([], .inString (sofar.addChar meant))
  | .hex sofar missing value, c =>
      match Text.hexDigit? c with
      | none => none
      | some d =>
          if missing ≤ 1 then some ([], .inString (sofar.addUnit (value * 16 + d)))
          else some ([], .hex sofar (missing - 1) (value * 16 + d))

def lexEnd : LexState → Option (List Token)
  | .between => some []
  | .bare sofar => (Token.ofBare? sofar.reverse).map fun token => [token]
  | _ => none

end CardPayments.Json
