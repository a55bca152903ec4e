import CardPayments.Text.Digits

/-! # Identifiers of 128 bits

An identifier is written as 32 lower-case hexadecimal digits in groups of 8, 4, 4, 4 and 12.  It is
read in either case, with or without the hyphens, in braces, or after `urn:uuid:`. -/
set_option autoImplicit false

namespace CardPayments

structure Uuid where
  bits : BitVec 128
deriving DecidableEq, Repr

namespace Uuid

def ofNat (n : Nat) : Uuid := ⟨BitVec.ofNat 128 n⟩

instance : Inhabited Uuid := ⟨ofNat 0⟩

def grouped (ds : List Char) : List Char :=
  ds.take 8 ++ '-' :: ((ds.drop 8).take 4 ++ '-' :: ((ds.drop 12).take 4 ++ '-' ::
    ((ds.drop 16).take 4 ++ '-' :: ds.drop 20)))

def toList (u : Uuid) : List Char := grouped (Text.hexDigits 32 u.bits.toNat)

def toText (u : Uuid) : String := String.ofList u.toList

def readDigits (ds : List Char) : Option Uuid :=
  if ds.length = 32 then (Text.hexFrom 0 ds).map ofNat else none

def readGrouped (s : List Char) : Option Uuid :=
  let ds := s.take 8 ++ (s.drop 9).take 4 ++ (s.drop 14).take 4 ++ (s.drop 19).take 4 ++ s.drop 24
  if s = grouped ds then readDigits ds else none

def ofList? (s : List Char) : Option Uuid :=
  if s.length = 32 then readDigits s
  else if s.length = 36 then readGrouped s
  else if s.length = 38 ∧ s.head? = some '{' ∧ s.getLast? = some '}' then
    readGrouped (s.drop 1).dropLast
  else if s.length = 45 ∧ s.take 9 = "urn:uuid:".toList then readGrouped (s.drop 9)
  else none

end Uuid
end CardPayments
