import CardPayments.Json.Parser
import CardPayments.Json.Printer

/-! # Records in JSON

A record is an object of named fields: unknown fields are skipped, a known field may occur once, and
an absent field is nothing.  It may also be an array of its fields in order.  The readers of single
values are here too; nothing is converted silently between kinds of values. -/
set_option autoImplicit false

namespace CardPayments.Json

def occurrences (name : String) (fields : List (String × Json)) : List Json :=
  (fields.filter fun field => field.1 == name).map Prod.snd

/-- The value of a field that may occur once. -/
def lookupOnce (fields : List (String × Json)) (name : String) : Option (Option Json) :=
  match occurrences name fields with
  | [] => some none
  | [value] => some (some value)
  | _ => none

def selectFields (fields : List (String × Json)) : List String → Option (List (Option Json))
  | [] => some []
  | name :: rest =>
      match lookupOnce fields name, selectFields fields rest with
      | some value, some values => some (value :: values)
      | _, _ => none

/-- The fields of a record: every item of an array of that length, or the named fields of an
object. -/
def record (names : List String) : Json → Option (List (Option Json))
  | .array items => if items.length = names.length then some (items.map some) else none
  | .object fields => selectFields fields names
  | _ => none

/-- The fields of a record in which every field may be left out: an array may end early. -/
def partialRecord (names : List String) : Json → Option (List (Option Json))
  | .array items =>
      if items.length ≤ names.length then
        some (items.map some ++ List.replicate (names.length - items.length) none)
      else none
  | .object fields => selectFields fields names
  | _ => none

def required {α : Type} (read : Json → Option α) : Option Json → Option α
  | some j => read j
  | none => none

def optional {α : Type} (read : Json → Option α) : Option Json → Option (Option α)
  | none => some none
  | some .null => some none
  | some j => (read j).map some

def orDefault {α : Type} (read : Json → Option α) (fallback : α) : Option Json → Option α
  | none => some fallback
  | some j => read j

def readString : Json → Option String
  | .string s => some s
  | _ => none

def readBool : Json → Option Bool
  | .bool b => some b
  | _ => none

def readWord : Json → Option UInt64
  | .number n => n.word?
  | _ => none

/-- A number, or a text that is a plain or scientific numeral. -/
def readDecimal : Json → Option Decimal
  | .number n => n.decimal?
  | .string s => Decimal.ofNumeral? s.toList
  | _ => none

/-- The name of a case without data: a text, or an object of that name and null. -/
def readName : Json → Option String
  | .string s => some s
  | .object [(name, .null)] => some name
  | _ => none

def ofWord (n : UInt64) : Json := .number (.ofNat n.toNat)

def ofDecimal (a : Decimal) : Json := .string a.toText

def ofOption {α : Type} (write : α → Json) : Option α → Json
  | none => .null
  | some a => write a

/-! ## Values that are kept whole before they are read -/

mutual

/-- Everything in the value stands for something, and no array or object is nested deeper than
`room`. -/
def isSound (room : Nat) : Json → Bool
  | .number n => n.isInRange
  | .unreadable => false
  | .array items => match room with
      | 0 => false
      | room + 1 => allSound room items
  | .object fields => match room with
      | 0 => false
      | room + 1 => allFieldsSound room fields
  | _ => true

def allSound (room : Nat) : List Json → Bool
  | [] => true
  | item :: rest => isSound room item && allSound room rest

def allFieldsSound (room : Nat) : List (String × Json) → Bool
  | [] => true
  | (_, value) :: rest => isSound room value && allFieldsSound room rest

end

end CardPayments.Json
